import TextScan.Proofs.Scanner.Failure

/-!
# Progress

A step gets on when it reads a character, matches a literal or reads a number, and also when it
fails at a character or at digits that it has passed (`Session.getsOn`). Each of these steps takes
the cursor further (`cursor_lt_of_getsOn`) and no step but a restart takes it back, so a run has no
more of them than there are characters between its two ends (`run_progress`). A loop that goes on
after errors therefore ends, if every turn of it has such a step.
-/

namespace TextScan

/-- Whether a step ended at the end of the input. -/
def endsInput : Except Fault Answer → Bool
  | .error (.scan e) => e.cause = .endOfInput
  | _ => false

/-- Whether a step found what it was looking for. -/
def isFound : Except Fault Answer → Bool
  | .ok (.flag b) => b
  | _ => false

namespace Scanner

variable {s : Scanner}

/-! ## Operations that move on -/

theorem length_takeWhile_pos {p : Char → Bool} (h : s.nextIs p = true) :
    0 < (s.ahead.takeWhile p).length :=
  List.length_pos_iff.mpr (Text.takeWhile_ne_nil_iff.mpr h)

theorem cursor_lt_advanceIfEquals (hs : s.InBounds) {literal : Text}
    {options : Option OptionsArgument}
    (h : (s.run (advanceIfEquals literal options)).1 = .ok true) :
    s.cursor < (s.run (advanceIfEquals literal options)).2.cursor := by
  rw [run_advanceIfEquals s hs] at h ⊢
  cases ho : chosenOptions s.config options with
  | error e =>
    rw [ho] at h
    cases h
  | ok o =>
    rw [ho] at h
    dsimp only at h ⊢
    cases hm : CharacterData.unicode.matchLength o s.ahead literal with
    | none =>
      rw [hm] at h
      cases h
    | some n =>
      have hn := (CharacterData.matchLength_bounds hm).1
      rw [cursor_advanceBy]
      omega

/-- The digits are passed whether or not they are a number that is accepted. -/
theorem cursor_lt_parseInt {skip : Option Bool} (h : s.digitsAhead skip ≠ []) :
    s.cursor < (s.run (parseInt skip)).2.cursor := by
  have hlen := List.length_pos_iff.mpr h
  have hle := s.cursor_le_skipped skip
  unfold digitsAhead at hlen
  rw [run_parseInt, cursor_advanceBy]
  omega

theorem digitsAhead_ne_nil {skip : Option Bool} {n : Nat} (h : (s.run (parseInt skip)).1 = .ok n) :
    s.digitsAhead skip ≠ [] := by
  intro hnil
  rw [run_parseInt] at h
  unfold digitsAhead at hnil
  rw [hnil] at h
  cases h

theorem cursor_lt_parseIntString {skip : Option Bool} {t : Text}
    (h : (s.run (parseIntString skip)).1 = .ok t) :
    s.cursor < (s.run (parseIntString skip)).2.cursor := by
  rw [run_parseIntString] at h ⊢
  by_cases hdigit : (s.skipped skip).nextIs isDigit = true
  · have hlen := length_takeWhile_pos hdigit
    have hle := s.cursor_le_skipped skip
    rw [if_pos hdigit, cursor_advanceBy]
    omega
  · rw [if_neg hdigit] at h
    cases h

/-- The digits are passed, and what follows them takes nothing back. -/
theorem cursor_lt_parseFloatString (hs : s.InBounds) {skip : Option Bool} {t : Text}
    (h : (s.run (parseFloatString skip)).1 = .ok t) :
    s.cursor < (s.run (parseFloatString skip)).2.cursor := by
  rw [run_parseFloatString] at h ⊢
  by_cases hdigit : (s.skipped skip).nextIs isDigit = true
  · have hlen := length_takeWhile_pos hdigit
    have hle := s.cursor_le_skipped skip
    have hin := inBounds_advanceBy (inBounds_skipped hs skip)
      (Text.length_takeWhile_le isDigit (s.skipped skip).ahead)
    obtain ⟨r, n, hrun, -, -⟩ := forward_advanceFraction.run hin
    rw [if_pos hdigit, hrun]
    cases r with
    | ok u =>
      dsimp only
      rw [cursor_advanceBy, cursor_advanceBy]
      omega
    | error e =>
      rw [if_pos hdigit, hrun] at h
      cases h
  · rw [if_neg hdigit] at h
    cases h

end Scanner

namespace Session

open Scanner

/-! ## Steps that get on -/

/-- Whether a step reads a character, even one that is not the required one, matches a literal,
reads a number, or passes digits that are no number that is accepted. -/
def getsOn (s : Session) (st : Step) : Bool :=
  match st with
  | .read | .advance | .expect _ => !endsInput (s.step st).1
  | .advanceIfEquals _ _ => isFound (s.step st).1
  | .parseIntString _ | .parseFloatString _ => (s.step st).1.isOk
  | .parseInt skip => (s.step st).1.isOk || !(s.scanner.digitsAhead skip).isEmpty
  | _ => false

/-- How many steps of a run get on. -/
def progress (s : Session) : List Step → Nat
  | [] => 0
  | st :: rest => (s.getsOn st).toNat + progress (s.step st).2 rest

section Steps

variable {s : Session} {st : Step}

/-- Only the end of the input keeps such a step from its character. -/
theorem exists_ahead (hst : st.needsCharacter = true) (h : (!endsInput (s.step st).1) = true) :
    ∃ c rest, s.scanner.ahead = c :: rest := by
  refine List.exists_cons_of_ne_nil fun hend => ?_
  rw [step_needsCharacter_at_end hst hend] at h
  cases h

theorem ok_of_isOk_perform {α : Type} {m : Scan α} {answer : α → Answer}
    (h : (s.perform answer m).1.isOk = true) : ∃ a, (s.scanner.run m).1 = .ok a := by
  cases hr : (s.perform answer m).1 with
  | error e =>
    rw [hr] at h
    cases h
  | ok a =>
    obtain ⟨x, hx, -⟩ := ok_of_perform hr
    exact ⟨x, hx⟩

/-- **A step that gets on takes the cursor further**, also where it fails. -/
theorem cursor_lt_of_getsOn (hs : s.scanner.InBounds) (h : s.getsOn st = true) :
    s.scanner.cursor < (s.step st).2.scanner.cursor := by
  cases st with
  | read =>
    obtain ⟨c, rest, hahead⟩ := exists_ahead (rfl : Step.read.needsCharacter = true) h
    simp only [step, perform, run_read, hahead]
    exact Nat.lt_succ_self _
  | advance =>
    obtain ⟨c, rest, hahead⟩ := exists_ahead (rfl : Step.advance.needsCharacter = true) h
    simp only [step, perform, run_advance, hahead]
    exact Nat.lt_succ_self _
  | expect atom =>
    obtain ⟨c, rest, hahead⟩ :=
      exists_ahead (rfl : (Step.expect atom).needsCharacter = true) h
    simp only [step, perform, run_expect, hahead]
    exact Nat.lt_succ_self _
  | advanceIfEquals literal options =>
    have hfound : isFound (s.perform .flag (advanceIfEquals literal options)).1 = true := h
    refine cursor_lt_advanceIfEquals hs ?_
    cases hr : (s.perform .flag (advanceIfEquals literal options)).1 with
    | error e =>
      rw [hr] at hfound
      cases hfound
    | ok a =>
      obtain ⟨b, hb, rfl⟩ := ok_of_perform hr
      rw [hr] at hfound
      rw [hb, show b = true from hfound]
  | parseInt skip =>
    refine cursor_lt_parseInt ?_
    simp only [getsOn, Bool.or_eq_true, Bool.not_eq_true', List.isEmpty_eq_false_iff] at h
    rcases h with hok | hdigits
    · obtain ⟨n, hn⟩ := ok_of_isOk_perform hok
      exact digitsAhead_ne_nil hn
    · exact hdigits
  | parseIntString skip =>
    obtain ⟨t, ht⟩ := ok_of_isOk_perform h
    exact cursor_lt_parseIntString ht
  | parseFloatString skip =>
    obtain ⟨t, ht⟩ := ok_of_isOk_perform h
    exact cursor_lt_parseFloatString hs ht
  | _ => cases h

end Steps

/-! ## Runs -/

/-- Every step that gets on takes a character of its own. -/
theorem progress_le {s : Session} (hs : s.scanner.InBounds) {steps : List Step}
    (hsteps : ∀ st ∈ steps, st.isRestart = false) :
    s.scanner.cursor + s.progress steps ≤ (s.run steps).2.scanner.cursor := by
  induction steps generalizing s with
  | nil => exact Nat.le_refl _
  | cons st rest ih =>
    have hw := step_within hs st
    have honward := hw.onward (hsteps st List.mem_cons_self)
    have hrest := ih hw.inBounds fun st' hst' => hsteps st' (List.mem_cons_of_mem st hst')
    rw [run_cons, progress]
    dsimp only
    cases hon : s.getsOn st with
    | false =>
      rw [Bool.toNat_false]
      omega
    | true =>
      have hlt := cursor_lt_of_getsOn hs hon
      rw [Bool.toNat_true]
      omega

/-- **Error recovery makes progress.** In a run without restarts, whatever fails in it, no more
steps get on than there are characters from where it started to where it ended, and so no more than
from there to the end of the source. -/
theorem run_progress {source : Text} {index : Int} {config : Config} {scanner : Scanner}
    (h : Scanner.startAt source index config = .ok scanner) {steps : List Step}
    (hsteps : ∀ st ∈ steps, st.isRestart = false) :
    let s := ofScanner scanner
    let final := (s.run steps).2.scanner.cursor
    index + s.progress steps ≤ final ∧ final ≤ source.length := by
  intro s final
  obtain ⟨hsource, hin⟩ : s.scanner.source = source ∧ s.scanner.InBounds := inBounds_startAt h
  have hindex : (s.scanner.cursor : Int) = index := by
    unfold Scanner.startAt at h
    split at h
    · rename_i hi
      cases h
      exact Int.toNat_of_nonneg hi.1
    · cases h
  have hle : s.scanner.cursor + s.progress steps ≤ final := progress_le hin hsteps
  obtain ⟨hkept, hend⟩ := within_run hin steps
  have hlast : final ≤ source.length := by
    rw [← hsource, ← hkept]
    exact hend
  omega

/-- A mismatch, digits of a number that is too large, and a match count, the look at the end and
the white space do not. -/
theorem run_progress_recovery :
    let source : Text := ['a', ' ', '9', '9', ' ', 'b']
    let config : Config := ⟨true, .literal, some 4⟩
    let scanner : Scanner := ⟨source, 0, config⟩
    let steps : List Step :=
      [.expect ['x'], .parseInt none, .skipWhitespace, .advanceIfEquals ['b'] none, .read]
    Scanner.startAt source 0 config = .ok scanner ∧ (∀ st ∈ steps, st.isRestart = false) ∧
      (ofScanner scanner).progress steps = 3 ∧
        3 ≤ ((ofScanner scanner).run steps).2.scanner.cursor := by
  intro source config scanner steps
  have hstart : Scanner.startAt source 0 config = .ok scanner := rfl
  have hsteps : ∀ st ∈ steps, st.isRestart = false := by decide
  have hcount : (ofScanner scanner).progress steps = 3 := by decide +kernel
  obtain ⟨hle, -⟩ := run_progress hstart hsteps
  refine ⟨hstart, hsteps, hcount, ?_⟩
  omega

end Session

end TextScan
