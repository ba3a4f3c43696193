import TextScan.Proofs.Scanner.Run

/-!
# Resuming

A scanner that starts within a source does not look behind its start. `s.behind pre` is the
scanner `s` with a text put in front of its source; an operation is `Relative` when this changes
neither its answer nor how far it moves, up to the positions of errors (`relative_read` and so
on). So are the steps that do not name or show a place of the whole source (`resumes_step`), and
with them every run (`run_behind`).
-/

namespace TextScan

/-! ## Errors further on -/

/-- The error `k` characters further on. -/
def ScanError.shift (k : Nat) (e : ScanError) : ScanError :=
  { e with position := e.position.map (· + k) }

def Fault.shift (k : Nat) : Fault → Fault
  | .scan e => .scan (e.shift k)
  | e => e

/-- The outcome `k` characters further on. -/
def shiftError {α : Type} (k : Nat) (r : Except Fault α) : Except Fault α :=
  r.mapError (Fault.shift k)

section ShiftError

variable {α β : Type} (k : Nat)

@[simp] theorem shiftError_ok (a : α) : shiftError k (.ok a) = .ok a := rfl

@[simp] theorem shiftError_error (e : Fault) :
    shiftError k (.error e : Except Fault α) = .error (e.shift k) := rfl

theorem shiftError_map (f : α → β) (r : Except Fault α) :
    shiftError k (r.map f) = (shiftError k r).map f := by
  cases r <;> rfl

/-- What the caller passed or set has no position. -/
theorem shift_of_isCaller {e : Fault} (h : e.isCaller = true) : e.shift k = e := by
  cases e with
  | scan e => cases h
  | _ => rfl

theorem shiftError_of_isCaller {r : Except Fault α} (h : ∀ e, r = .error e → e.isCaller = true) :
    shiftError k r = r := by
  cases r with
  | error e => exact congrArg Except.error (shift_of_isCaller k (h e rfl))
  | ok a => rfl

theorem shift_missing (what : String) (actual : Option Char) (position : Nat) :
    (ScanError.missing what actual position).shift k = .missing what actual (position + k) := by
  cases actual <;> rfl

end ShiftError

namespace Scanner

/-- Where the digits stand makes no difference but to the position of an error. -/
theorem convert_add (k : Nat) (c : Config) (digits : Text) (start : Nat) :
    convert c digits (start + k) = shiftError k (convert c digits start) := by
  unfold convert
  split
  · rfl
  · split
    · rfl
    · split
      · rename_i e he
        exact congrArg Except.error (shift_of_isCaller k (isCaller_of_accepts he)).symm
      · rfl
      · rfl

/-! ## Scanners further on -/

/-- The scanner at the same place of its source, with `pre` in front of the source. -/
def behind (pre : Text) (s : Scanner) : Scanner :=
  { s with source := pre ++ s.source, cursor := s.cursor + pre.length }

section Behind

variable (pre : Text) (s : Scanner)

@[simp] theorem cursor_behind : (s.behind pre).cursor = s.cursor + pre.length := rfl

@[simp] theorem config_behind : (s.behind pre).config = s.config := rfl

theorem endIndex_behind : (s.behind pre).endIndex = s.endIndex + pre.length := by
  rw [endIndex, behind, List.length_append, Nat.add_comm, endIndex]

@[simp] theorem ahead_behind : (s.behind pre).ahead = s.ahead := by
  rw [ahead, behind, Nat.add_comm, List.drop_length_add_append, ahead]

theorem advanceBy_behind (n : Nat) : (s.behind pre).advanceBy n = (s.advanceBy n).behind pre := by
  unfold advanceBy behind
  dsimp only
  rw [Nat.add_right_comm]

theorem slice_behind (start stop : Nat) :
    (s.behind pre).slice (start + pre.length) (stop + pre.length) = s.slice start stop := by
  rw [slice, slice, List.extract_eq_take_drop, List.extract_eq_take_drop, Nat.add_sub_add_right,
    behind, Nat.add_comm, List.drop_length_add_append]

theorem isAtEnd_behind : (s.behind pre).isAtEnd = s.isAtEnd := by
  rw [isAtEnd, isAtEnd, endIndex_behind, cursor_behind]
  exact decide_eq_decide.mpr Nat.add_le_add_iff_right

theorem nextIs_behind (p : Char → Bool) : (s.behind pre).nextIs p = s.nextIs p := by
  rw [nextIs, nextIs, ahead_behind]

variable {s}

theorem inBounds_behind (h : s.InBounds) : (s.behind pre).InBounds := by
  unfold InBounds at h ⊢
  rw [endIndex_behind, cursor_behind]
  exact Nat.add_le_add_right h _

end Behind

/-! ## Operations -/

/-- Behind any text `m` answers alike and moves alike, up to the positions of errors. -/
def Relative {α : Type} (m : Scan α) : Prop :=
  ∀ (pre : Text) (s : Scanner), s.InBounds →
    (s.behind pre).run m = (shiftError pre.length (s.run m).1, (s.run m).2.behind pre)

section Relative

variable {α : Type} {m : Scan α}

/-- An operation whose answer depends on nothing but the text ahead. -/
theorem relative_of_ahead (answer : Text → α) (moved : Text → Nat)
    (h : ∀ s : Scanner, s.InBounds → s.run m = (.ok (answer s.ahead), s.advanceBy (moved s.ahead))) :
    Relative m := by
  intro pre s hs
  rw [h s hs, h _ (inBounds_behind pre hs), ahead_behind, advanceBy_behind]
  rfl

theorem relative_peekUnchecked : Relative peekUnchecked := by
  intro pre s _
  have hget : (s.behind pre).source[(s.behind pre).cursor]? = s.source[s.cursor]? := by
    show (pre ++ s.source)[s.cursor + pre.length]? = s.source[s.cursor]?
    rw [List.getElem?_append_right (Nat.le_add_left ..), Nat.add_sub_cancel]
  unfold peekUnchecked
  rw [run_get_bind, run_get_bind, hget]
  cases s.source[s.cursor]? <;> rfl

theorem relative_advanceUnchecked : Relative advanceUnchecked := by
  intro pre s _
  unfold advanceUnchecked
  rw [run_get_bind, run_get_bind, endIndex_behind, cursor_behind, run_ite, run_ite]
  by_cases h : s.cursor < s.endIndex
  · rw [if_pos h, if_pos (Nat.add_lt_add_right h _)]
    exact congrArg (Except.ok (), ·) (advanceBy_behind pre s 1)
  · rw [if_neg h, if_neg (mt Nat.lt_of_add_lt_add_right h)]
    rfl

theorem relative_peek : Relative peek := by
  intro pre s _
  rw [run_peek, run_peek, ahead_behind]
  cases s.ahead <;> rfl

theorem relative_advance : Relative advance := by
  intro pre s _
  rw [run_advance, run_advance, ahead_behind, advanceBy_behind]
  cases s.ahead <;> rfl

theorem relative_read : Relative read := by
  intro pre s _
  rw [run_read, run_read, ahead_behind, advanceBy_behind]
  cases s.ahead <;> rfl

theorem relative_expect (atom : Text) : Relative (expect atom) := by
  intro pre s _
  rw [run_expect, run_expect, ahead_behind, advanceBy_behind]
  cases s.ahead with
  | nil => rfl
  | cons c rest =>
    dsimp only
    split <;> rfl

theorem relative_advanceWhile (p : Char → Bool) : Relative (advanceWhile p) :=
  relative_of_ahead (fun _ => ()) (fun t => (t.takeWhile p).length) fun s _ =>
    run_advanceWhile s p

theorem relative_consumeWhile (p : Char → Bool) : Relative (consumeWhile p) :=
  relative_of_ahead (fun t => t.takeWhile p) (fun t => (t.takeWhile p).length) fun s _ =>
    run_consumeWhile s p

theorem relative_consumeRemaining : Relative consumeRemaining :=
  relative_of_ahead (fun t => t) List.length fun s hs => run_consumeRemaining s hs

theorem relative_peekMatches (p : Char → Bool) : Relative (peekMatches p) :=
  relative_of_ahead (fun t => t.head?.any p) (fun _ => 0) fun s _ => run_peekMatches s p

theorem relative_nextEquals (atom : Text) : Relative (nextEquals atom) :=
  relative_of_ahead (fun t => t.head?.any fun c => [c] = atom) (fun _ => 0) fun s _ =>
    run_nextEquals s atom

/-- A match is looked for from the cursor on. -/
theorem relative_advanceIfEquals (literal : Text) (options : Option OptionsArgument) :
    Relative (advanceIfEquals literal options) := by
  intro pre s hs
  rw [run_advanceIfEquals s hs, run_advanceIfEquals _ (inBounds_behind pre hs), config_behind,
    ahead_behind]
  cases ho : chosenOptions s.config options with
  | error e =>
    dsimp only
    rw [shiftError_error, shift_of_isCaller _ (isCaller_of_chosenOptions ho)]
  | ok o =>
    dsimp only
    cases CharacterData.unicode.matchLength o s.ahead literal with
    | none => rfl
    | some n =>
      dsimp only
      rw [advanceBy_behind]
      rfl

theorem skipped_behind (pre : Text) (s : Scanner) (skip : Option Bool) :
    (s.behind pre).skipped skip = (s.skipped skip).behind pre := by
  rw [skipped, skipped, config_behind, ahead_behind, advanceBy_behind]
  split <;> rfl

theorem relative_parseInt (skip : Option Bool) : Relative (parseInt skip) := by
  intro pre s _
  rw [run_parseInt, run_parseInt, skipped_behind, ahead_behind, advanceBy_behind, config_behind,
    cursor_behind, convert_add]

theorem relative_parseIntString (skip : Option Bool) : Relative (parseIntString skip) := by
  intro pre s _
  rw [run_parseIntString, run_parseIntString, skipped_behind, nextIs_behind, ahead_behind,
    advanceBy_behind, cursor_behind, ← shift_missing]
  split <;> rfl

theorem run_advanceFraction_behind (pre : Text) (s : Scanner) :
    (s.behind pre).run advanceFraction =
      (shiftError pre.length (s.run advanceFraction).1, (s.run advanceFraction).2.behind pre) := by
  rw [run_advanceFraction, run_advanceFraction, nextIs_behind, advanceBy_behind, nextIs_behind,
    ahead_behind, advanceBy_behind, cursor_behind, ← shift_missing]
  split
  · split <;> rfl
  · rfl

theorem relative_parseFloatString (skip : Option Bool) : Relative (parseFloatString skip) := by
  intro pre s _
  rw [run_parseFloatString, run_parseFloatString, skipped_behind, nextIs_behind, ahead_behind,
    advanceBy_behind, run_advanceFraction_behind, cursor_behind, ← shift_missing]
  split
  · generalize Scanner.run _ advanceFraction = out
    obtain ⟨r, t⟩ := out
    cases r with
    | error e => rfl
    | ok _ =>
      dsimp only [shiftError_ok]
      rw [cursor_behind, slice_behind]
  · rfl

end Relative

end Scanner

/-! ## Steps -/

/-- Whether a step neither names nor shows a place of the whole source. -/
def Step.isRelative : Step → Bool
  | .span _ | .codeUnitOffset _ | .endIndex | .source | .display | .newAt _ => false
  | _ => true

def Position.shift (k : Nat) (p : Position) : Position := ⟨p.index + k⟩

namespace Session

open Scanner

/-- A stored position `k` characters further on. -/
def shiftMark (k : Nat) (m : Text × Position) : Text × Position := (m.1, m.2.shift k)

theorem lookup_shiftMark (k : Nat) (name : Text) (marks : List (Text × Position)) :
    (marks.map (shiftMark k)).lookup name = (marks.lookup name).map (Position.shift k) := by
  induction marks with
  | nil => rfl
  | cons m rest ih =>
    obtain ⟨key, p⟩ := m
    rw [List.map_cons, shiftMark, List.lookup_cons, List.lookup_cons, ih]
    cases name == key <;> rfl

/-- The session `s` is the session `t` with `pre` in front of the source. That no mark is ahead
of the cursor is what a span from a mark relies on. -/
structure Resumes (pre : Text) (s t : Session) : Prop where
  scanner : s.scanner = t.scanner.behind pre
  marks : s.marks = t.marks.map (shiftMark pre.length)
  inBounds : t.scanner.InBounds
  marked : ∀ m ∈ t.marks, m.2.index ≤ t.scanner.cursor

/-- The steps answer alike and lead to sessions that are alike. -/
structure StepAlike (pre : Text) (s t : Session) (st : Step) : Prop where
  answer : (s.step st).1 = shiftError pre.length (t.step st).1
  resumes : Resumes pre (s.step st).2 (t.step st).2

section Steps

variable {pre : Text} {s t : Session} {st : Step}

theorem stepAlike_of_relative {α : Type} {m : Scan α} {answer : α → Answer} (hm : Relative m)
    (hst : ∀ u : Session, u.step st = u.perform answer m) (h : Resumes pre s t)
    (hrestart : st.isRestart = false) : StepAlike pre s t st := by
  have hwithin := step_within h.inBounds st
  have hrun := hm pre t.scanner h.inBounds
  constructor
  · rw [hst, hst]
    unfold perform
    rw [h.scanner, hrun, shiftError_map]
  · refine ⟨?_, ?_, hwithin.inBounds, fun m hmem => ?_⟩
    · rw [hst, hst]
      unfold perform withScanner
      dsimp only
      rw [h.scanner, hrun]
    · rw [hst, hst]
      exact h.marks
    · have hmarks : (t.step st).2.marks = t.marks := by
        rw [hst]
        rfl
      rw [hmarks] at hmem
      exact Nat.le_trans (h.marked m hmem) (hwithin.onward hrestart)

/-- A step that answers without an operation and keeps the two sessions alike. -/
theorem stepAlike_of_eq {r r' : Except Fault Answer} {s' t' : Session} (hs : s.step st = (r, s'))
    (ht : t.step st = (r', t')) (hr : r = shiftError pre.length r') (h : Resumes pre s' t') :
    StepAlike pre s t st := by
  constructor
  · rw [hs, ht]
    exact hr
  · rw [hs, ht]
    exact h

theorem resumes_configure (h : Resumes pre s t) (change : Config → Config) :
    Resumes pre (s.configure change) (t.configure change) := by
  refine ⟨?_, h.marks, h.inBounds, h.marked⟩
  unfold configure withScanner
  dsimp only
  rw [h.scanner]
  rfl

theorem resumes_mark (h : Resumes pre s t) (name : Text) :
    Resumes pre { s with marks := (name, s.scanner.position) :: s.marks }
      { t with marks := (name, t.scanner.position) :: t.marks } := by
  refine ⟨h.scanner, ?_, h.inBounds, fun m hmem => ?_⟩
  · dsimp only
    rw [h.marks, h.scanner]
    rfl
  · rcases List.mem_cons.mp hmem with rfl | hmem
    · exact Nat.le_refl _
    · exact h.marked m hmem

theorem stepAlike_spanMark (h : Resumes pre s t) (name : Text) :
    StepAlike pre s t (.spanMark name) := by
  have hlookup : s.marks.lookup name = (t.marks.lookup name).map (Position.shift pre.length) := by
    rw [h.marks, lookup_shiftMark]
  cases hm : t.marks.lookup name with
  | none =>
    rw [hm] at hlookup
    exact stepAlike_of_eq (step_spanMark_of_none hlookup) (step_spanMark_of_none hm) rfl h
  | some p =>
    rw [hm] at hlookup
    obtain ⟨before, after, hsplit, -⟩ := List.lookup_eq_some_iff.mp hm
    have hmarked : p.index ≤ t.scanner.cursor := h.marked (name, p) (by rw [hsplit]; simp)
    refine stepAlike_of_eq (step_spanMark_of_some hlookup) (step_spanMark_of_some hm) ?_ h
    rw [spanFrom_of_le t hmarked, Position.shift, spanFrom_of_le s]
    · rw [h.scanner, cursor_behind, slice_behind, shiftError_ok]
    · rw [h.scanner, cursor_behind]
      exact Nat.add_le_add_right hmarked _

/-- **What every step keeps.** -/
theorem resumes_step (h : Resumes pre s t) (hst : st.isRelative = true) : StepAlike pre s t st := by
  cases st with
  | peek => exact stepAlike_of_relative relative_peek (fun _ => rfl) h rfl
  | read => exact stepAlike_of_relative relative_read (fun _ => rfl) h rfl
  | advance => exact stepAlike_of_relative relative_advance (fun _ => rfl) h rfl
  | skipWhitespace =>
    exact stepAlike_of_relative (relative_advanceWhile isWhitespace) (fun _ => rfl) h rfl
  | consumeRemaining => exact stepAlike_of_relative relative_consumeRemaining (fun _ => rfl) h rfl
  | expect atom => exact stepAlike_of_relative (relative_expect atom) (fun _ => rfl) h rfl
  | nextEquals atom => exact stepAlike_of_relative (relative_nextEquals atom) (fun _ => rfl) h rfl
  | advanceWhile p =>
    exact stepAlike_of_relative (relative_advanceWhile p.test) (fun _ => rfl) h rfl
  | advanceUntil p =>
    exact stepAlike_of_relative (relative_advanceWhile fun c => !p.test c) (fun _ => rfl) h rfl
  | consumeWhile p =>
    exact stepAlike_of_relative (relative_consumeWhile p.test) (fun _ => rfl) h rfl
  | consumeUntil p =>
    exact stepAlike_of_relative (relative_consumeWhile fun c => !p.test c) (fun _ => rfl) h rfl
  | peekMatches p => exact stepAlike_of_relative (relative_peekMatches p.test) (fun _ => rfl) h rfl
  | advanceIfEquals literal options =>
    exact stepAlike_of_relative (relative_advanceIfEquals literal options) (fun _ => rfl) h rfl
  | parseInt skip => exact stepAlike_of_relative (relative_parseInt skip) (fun _ => rfl) h rfl
  | parseIntString skip =>
    exact stepAlike_of_relative (relative_parseIntString skip) (fun _ => rfl) h rfl
  | parseFloatString skip =>
    exact stepAlike_of_relative (relative_parseFloatString skip) (fun _ => rfl) h rfl
  | peekUnchecked => exact stepAlike_of_relative relative_peekUnchecked (fun _ => rfl) h rfl
  | advanceUnchecked => exact stepAlike_of_relative relative_advanceUnchecked (fun _ => rfl) h rfl
  | isAtEnd =>
    refine stepAlike_of_eq rfl rfl ?_ h
    rw [h.scanner, isAtEnd_behind]
    rfl
  | mark name => exact stepAlike_of_eq rfl rfl rfl (resumes_mark h name)
  | spanMark name => exact stepAlike_spanMark h name
  | config =>
    refine stepAlike_of_eq rfl rfl ?_ h
    rw [h.scanner, config_behind]
    exact (shiftError_of_isCaller _ fun _ => isCaller_of_configAnswer).symm
  | setSkip b => exact stepAlike_of_eq rfl rfl rfl (resumes_configure h _)
  | setIntBits bits => exact stepAlike_of_eq rfl rfl rfl (resumes_configure h _)
  | setCompare options =>
    cases ho : CompareOptions.ofArgument options with
    | error v =>
      refine stepAlike_of_eq (step_setCompare_of_error ho) (step_setCompare_of_error ho) ?_ h
      exact congrArg Except.error (shift_of_isCaller _ (Fault.isCaller_ofInvalid v)).symm
    | ok o =>
      exact stepAlike_of_eq (step_setCompare_of_ok ho) (step_setCompare_of_ok ho) rfl
        (resumes_configure h _)
  | span | codeUnitOffset | endIndex | source | display | newAt => cases hst

end Steps

/-! ## Runs -/

/-- What is reported of the same step `k` characters further on. -/
def Report.shift (k : Nat) (r : Report) : Report :=
  { r with result := shiftError k r.result, cursor := r.cursor + k }

theorem StepAlike.report {pre : Text} {s t : Session} {st : Step} (h : StepAlike pre s t st) :
    (s.report st).1 = (t.report st).1.shift pre.length := by
  unfold Session.report Report.shift
  dsimp only
  rw [h.answer, h.resumes.scanner, cursor_behind, isAtEnd_behind]

theorem Resumes.run {pre : Text} {s t : Session} (h : Resumes pre s t) {steps : List Step}
    (hsteps : ∀ st ∈ steps, st.isRelative = true) :
    (s.run steps).1 = (t.run steps).1.map (Report.shift pre.length) ∧
      Resumes pre (s.run steps).2 (t.run steps).2 := by
  induction steps generalizing s t with
  | nil => exact ⟨rfl, h⟩
  | cons st rest ih =>
    have halike := resumes_step h (hsteps st List.mem_cons_self)
    obtain ⟨hreports, hend⟩ := ih halike.resumes fun st' hmem =>
      hsteps st' (List.mem_cons_of_mem st hmem)
    rw [run_cons, run_cons]
    exact ⟨by rw [List.map_cons, hreports, halike.report], hend⟩

/-- **Resuming within a source is scanning the rest.** A run from the end of `pre` in `pre ++ suf`
and the same run on `suf` alone report alike, step by step: the same answers and the same errors,
with each cursor and each position of an error further on by the length of `pre`. -/
theorem run_behind (pre suf : Text) (config : Config) (steps : List Step)
    (hsteps : ∀ st ∈ steps, st.isRelative = true) :
    ∃ resumed fresh, Scanner.startAt (pre ++ suf) pre.length config = .ok resumed ∧
      Scanner.startAt suf 0 config = .ok fresh ∧
      ((ofScanner resumed).run steps).1 =
        ((ofScanner fresh).run steps).1.map (Report.shift pre.length) := by
  have hstart : (0 : Int) ≤ pre.length ∧ (pre.length : Int) ≤ (pre ++ suf).length := by
    rw [List.length_append]
    omega
  have hfresh : (0 : Int) ≤ 0 ∧ (0 : Int) ≤ suf.length := by omega
  refine ⟨⟨pre ++ suf, pre.length, config⟩, ⟨suf, 0, config⟩, if_pos hstart, if_pos hfresh, ?_⟩
  have h : Resumes pre (ofScanner ⟨pre ++ suf, pre.length, config⟩)
      (ofScanner ⟨suf, 0, config⟩) := by
    refine ⟨?_, rfl, Nat.zero_le _, nofun⟩
    unfold ofScanner behind
    dsimp only
    rw [Nat.zero_add]
  exact (h.run hsteps).1

/-- Behind a text with a digit and a mark of its own, over a failed step and a span from a mark. -/
theorem run_behind_failure :
    let pre : Text := ['1', 'e', '\u0301']
    let suf : Text := ['2', '5', '.', 'E', 'e']
    let steps : List Step :=
      [.mark ['m'], .parseInt none, .expect ['!'], .spanMark ['m'],
        .advanceIfEquals ['e', 'e'] (some (.exact ⟨true, false, false⟩)), .read]
    (∀ st ∈ steps, st.isRelative = true) ∧
      ∃ resumed fresh, Scanner.startAt (pre ++ suf) pre.length .default = .ok resumed ∧
        Scanner.startAt suf 0 .default = .ok fresh ∧
        ((ofScanner resumed).run steps).1 =
          ((ofScanner fresh).run steps).1.map (Report.shift 3) := by
  intro pre suf steps
  have hsteps : ∀ st ∈ steps, st.isRelative = true := by decide
  exact ⟨hsteps, run_behind pre suf .default steps hsteps⟩

end Session

end TextScan
