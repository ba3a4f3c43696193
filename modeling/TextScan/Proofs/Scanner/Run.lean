import TextScan.Proofs.Scanner.Bounds

/-!
# Runs

What one step keeps, a run keeps (`run_invariant`). A run that starts at a place of a source stays
within it: the source is never another one, the cursor is never past its end and only a restart
takes it back, and only the unchecked steps can fail past the end (`run_within`).
-/

namespace TextScan

/-- Whether a step replaces the scanner by one at another place. -/
def Step.isRestart : Step → Bool
  | .newAt _ => true
  | _ => false

/-- Whether a step carries out an operation of the scanner. -/
def Step.isOperation : Step → Bool
  | .isAtEnd | .span _ | .mark _ | .spanMark _ | .codeUnitOffset _ | .endIndex | .source | .display
  | .config | .newAt _ | .setSkip _ | .setIntBits _ | .setCompare _ => false
  | _ => true

/-- Whether a step is one for callers who have looked. -/
def Step.isUnchecked : Step → Bool
  | .peekUnchecked | .advanceUnchecked => true
  | _ => false

namespace Session

open Scanner

/-! ## Runs step by step -/

@[simp] theorem run_nil (s : Session) : s.run [] = ([], s) := rfl

theorem run_cons (s : Session) (st : Step) (rest : List Step) :
    s.run (st :: rest) =
      ((s.report st).1 :: ((s.step st).2.run rest).1, ((s.step st).2.run rest).2) := rfl

theorem run_append (s : Session) (steps more : List Step) :
    s.run (steps ++ more) =
      ((s.run steps).1 ++ ((s.run steps).2.run more).1, ((s.run steps).2.run more).2) := by
  induction steps generalizing s with
  | nil => rfl
  | cons st rest ih => rw [List.cons_append, run_cons, run_cons, ih, List.cons_append]

/-- The session after the first `n` steps of a run. -/
def after (s : Session) (steps : List Step) (n : Nat) : Session := (s.run (steps.take n)).2

@[simp] theorem after_zero (s : Session) (steps : List Step) : s.after steps 0 = s := rfl

theorem after_succ (s : Session) {steps : List Step} {n : Nat} {st : Step}
    (h : steps[n]? = some st) : s.after steps (n + 1) = ((s.after steps n).step st).2 := by
  unfold after
  rw [List.take_add_one, h, run_append]
  rfl

theorem after_of_length_le (s : Session) {steps : List Step} {n : Nat} (h : steps.length ≤ n) :
    s.after steps n = (s.run steps).2 := by
  unfold after
  rw [List.take_of_length_le h]

/-- What a run reports of a step is what the step does after the steps before it. -/
theorem getElem?_run (s : Session) (steps : List Step) (n : Nat) :
    (s.run steps).1[n]? = steps[n]?.map fun st => ((s.after steps n).report st).1 := by
  induction steps generalizing s n with
  | nil => rfl
  | cons st rest ih =>
    rw [run_cons]
    cases n with
    | zero => rfl
    | succ n =>
      rw [List.getElem?_cons_succ, List.getElem?_cons_succ, ih]
      rfl

theorem run_invariant_of_mem {P : Session → Prop} {steps : List Step}
    (hstep : ∀ s, ∀ st ∈ steps, P s → P (s.step st).2) {s : Session} (h : P s) :
    P (s.run steps).2 := by
  induction steps generalizing s with
  | nil => exact h
  | cons st rest ih =>
    have hfirst : P (s.step st).2 := hstep s st List.mem_cons_self h
    exact ih (fun t st' hst' => hstep t st' (List.mem_cons_of_mem st hst')) hfirst

theorem run_invariant {P : Session → Prop} (hstep : ∀ s st, P s → P (s.step st).2) {s : Session}
    (h : P s) (steps : List Step) : P (s.run steps).2 :=
  run_invariant_of_mem (fun s st _ => hstep s st) h

/-! ## Steps that carry out an operation -/

section Perform

variable {s : Session} {α : Type} {m : Scan α} {answer : α → Answer}

/-- A step does what its operation does. -/
theorem perform_of_run {r : Except Fault α} {t : Scanner} (h : s.scanner.run m = (r, t)) :
    s.perform answer m = (r.map answer, s.withScanner t) := by
  rw [perform, h]

theorem ok_of_perform {a : Answer} (h : (s.perform answer m).1 = .ok a) :
    ∃ x, (s.scanner.run m).1 = .ok x ∧ a = answer x := by
  unfold perform at h
  cases hr : (s.scanner.run m).1 with
  | error e =>
    rw [hr] at h
    cases h
  | ok x =>
    rw [hr] at h
    cases h
    exact ⟨x, rfl, rfl⟩

theorem error_of_perform {e : Fault} (h : (s.perform answer m).1 = .error e) :
    (s.scanner.run m).1 = .error e := by
  unfold perform at h
  cases hr : (s.scanner.run m).1 with
  | error e' =>
    rw [hr] at h
    cases h
    rfl
  | ok x =>
    rw [hr] at h
    cases h

end Perform

/-! ## Steps that depend on more than the scanner -/

section Cases

variable {s : Session}

theorem step_spanMark_of_some {name : Text} {p : Position} (h : s.marks.lookup name = some p) :
    s.step (.spanMark name) = (s.spanFrom (.position p), s) := by
  simp only [step, h]

theorem step_spanMark_of_none {name : Text} (h : s.marks.lookup name = none) :
    s.step (.spanMark name) = (.error (.unknownMark name), s) := by
  simp only [step, h]

theorem step_setCompare_of_ok {options : OptionsArgument} {o : CompareOptions}
    (h : CompareOptions.ofArgument options = .ok o) :
    s.step (.setCompare options) =
      (.ok .nothing, s.configure fun c => { c with options := o }) := by
  simp only [step, h]

theorem step_setCompare_of_error {options : OptionsArgument} {v : InvalidValue}
    (h : CompareOptions.ofArgument options = .error v) :
    s.step (.setCompare options) = (.error (.ofInvalid v), s) := by
  simp only [step, h]

theorem step_newAt_of_ok {start : PlaceArgument} {t : Session} (h : s.restart start = .ok t) :
    s.step (.newAt start) = (.ok .nothing, t) := by
  simp only [step, h]

theorem step_newAt_of_error {start : PlaceArgument} {e : Fault}
    (h : s.restart start = .error e) : s.step (.newAt start) = (.error e, s) := by
  simp only [step, h]

end Cases

/-- A span from a place that the cursor has been at is there. -/
theorem spanFrom_of_le (s : Session) {n : Nat} (hn : n ≤ s.scanner.cursor) :
    s.spanFrom (.position ⟨n⟩) = .ok (.text (s.scanner.slice n s.scanner.cursor)) := by
  have hspan : s.scanner.span n = .ok (s.scanner.slice n s.scanner.cursor) :=
    if_pos (by omega)
  show (s.scanner.span n).map Answer.text = _
  rw [hspan]
  rfl

/-! ## One step -/

/-- What a step may do: it keeps the source and the bounds, does not go back unless it restarts,
does not change the settings as an operation, and does not fail past the end unless it is
unchecked. -/
structure StepWithin (s : Session) (st : Step) : Prop where
  source : (s.step st).2.scanner.source = s.scanner.source
  config : st.isOperation = true → (s.step st).2.scanner.config = s.scanner.config
  inBounds : (s.step st).2.scanner.InBounds
  onward : st.isRestart = false → s.scanner.cursor ≤ (s.step st).2.scanner.cursor
  guarded : st.isUnchecked = false → ∀ e, (s.step st).1 = .error e → e.isPastEnd = false

section Steps

variable {s : Session} {st : Step} {α : Type} {m : Scan α} {answer : α → Answer}

theorem stepWithin_of_moves (hm : Moves m) (hst : s.step st = s.perform answer m)
    (hs : s.scanner.InBounds)
    (hguard : st.isUnchecked = false → ∀ e, (s.scanner.run m).1 = .error e → e.isPastEnd = false) :
    s.StepWithin st := by
  obtain ⟨n, hn, hmove⟩ := hm s.scanner hs
  have hscanner : (s.step st).2.scanner = s.scanner.advanceBy n := by
    rw [hst, ← hmove]
    rfl
  refine ⟨by rw [hscanner, source_advanceBy], fun _ => by rw [hscanner, config_advanceBy], ?_,
    fun _ => ?_, fun hu e he => ?_⟩
  · rw [hscanner]
    exact inBounds_advanceBy hs hn
  · rw [hscanner, cursor_advanceBy]
    exact Nat.le_add_right _ n
  · rw [hst] at he
    exact Fault.of_map (hguard hu) he

theorem stepWithin_of_forward (hm : Forward m) (hst : s.step st = s.perform answer m)
    (hs : s.scanner.InBounds) : s.StepWithin st :=
  stepWithin_of_moves hm.moves hst hs fun _ => hm.guarded s.scanner hs

end Steps

/-! ## Steps that are no operation of the scanner -/

theorem isCaller_of_make {p : PlaceArgument} {e : Fault} (h : p.make = .error e) :
    e.isCaller = true := by
  cases p with
  | value v => cases h
  | position v =>
    refine Fault.of_map (fun e he => ?_) h
    unfold Position.ofValue at he
    split at he
    · exact Fault.of_mapError Fault.isCaller_ofInvalid he
    · cases he
      rfl

theorem isCaller_of_startIndex {p : Place} {e : Fault} (h : p.startIndex = .error e) :
    e.isCaller = true := by
  unfold Place.startIndex at h
  split at h <;> cases h
  exact Fault.isCaller_ofInvalid _

theorem isCaller_of_wholePart {x : Binary64} {e : Fault} (h : Place.wholePart x = .error e) :
    e.isCaller = true := by
  unfold Place.wholePart at h
  split at h
  · cases h
    exact Fault.isCaller_ofInvalid _
  · split at h <;> cases h
    rfl

theorem isCaller_of_spanIndex {p : Place} {e : Fault} (h : p.spanIndex = .error e) :
    e.isCaller = true := by
  cases p with
  | position p => cases h
  | value v =>
    cases v with
    | bool | int => cases h
    | float x => exact isCaller_of_wholePart h
    | text | brokenText => exact Fault.of_mapError Fault.isCaller_ofInvalid h
    | null | moment | list | table =>
      cases h
      rfl

theorem isCaller_of_spanFrom (s : Session) {p : Place} {e : Fault} (h : s.spanFrom p = .error e) :
    e.isCaller = true := by
  refine Fault.of_bind (fun _ he => isCaller_of_spanIndex he) (fun start e he => ?_) h
  exact Fault.of_map (fun _ hspan => Fault.isCaller_of_ite hspan) he

theorem isCaller_of_writtenRange {c : Config} {e : Fault} (h : c.writtenRange = .error e) :
    e.isCaller = true := by
  refine Fault.of_bind (fun _ hr => isCaller_of_intRange hr) (fun r e he => ?_) h
  cases r with
  | none => cases he
  | some r =>
    dsimp only at he
    split at he <;> cases he
    rfl

theorem isCaller_of_configAnswer {c : Config} {e : Fault} (h : configAnswer c = .error e) :
    e.isCaller = true := by
  refine Fault.of_bind (fun e he => ?_) (fun line e he => ?_) h
  · refine Fault.of_bind (fun _ hw => ?_) (fun _ _ hline => by cases hline) he
    exact Fault.of_mapError Fault.isCaller_ofWriteError hw
  · refine Fault.of_bind (fun _ hr => isCaller_of_writtenRange hr) (fun _ _ hr => ?_) he
    cases hr

theorem isCaller_of_startAt {source : Text} {p : Place} {config : Config} {e : Fault}
    (h : startAt source p config = .error e) : e.isCaller = true :=
  Fault.of_bind (fun _ he => isCaller_of_startIndex he)
    (fun _ _ he => Fault.isCaller_of_ite he) h

theorem isCaller_of_restart {s : Session} {p : PlaceArgument} {e : Fault}
    (h : s.restart p = .error e) : e.isCaller = true := by
  refine Fault.of_bind (fun _ he => isCaller_of_make he) (fun place e he => ?_) h
  refine Fault.of_bind (fun _ hs => isCaller_of_startAt hs) (fun scanner e he => ?_) he
  cases he

/-- Such a step fails by what it was given, never by the text. -/
theorem isCaller_of_step {s : Session} {st : Step} (hst : st.isOperation = false) {e : Fault}
    (h : (s.step st).1 = .error e) : e.isCaller = true := by
  cases st with
  | config => exact isCaller_of_configAnswer h
  | codeUnitOffset encoding =>
    exact Fault.of_map (fun _ he => Fault.of_mapError Fault.isCaller_ofInvalid he) h
  | span start =>
    exact Fault.of_bind (fun _ h => isCaller_of_make h) (fun _ _ h => s.isCaller_of_spanFrom h) h
  | spanMark name =>
    cases hm : s.marks.lookup name with
    | none =>
      rw [step_spanMark_of_none hm] at h
      cases h
      rfl
    | some p =>
      rw [step_spanMark_of_some hm] at h
      exact s.isCaller_of_spanFrom h
  | setCompare options =>
    cases ho : CompareOptions.ofArgument options with
    | error v =>
      rw [step_setCompare_of_error ho] at h
      cases h
      exact Fault.isCaller_ofInvalid v
    | ok o =>
      rw [step_setCompare_of_ok ho] at h
      cases h
  | newAt start =>
    cases hr : s.restart start with
    | error e =>
      rw [step_newAt_of_error hr] at h
      cases h
      exact isCaller_of_restart hr
    | ok t =>
      rw [step_newAt_of_ok hr] at h
      cases h
  | isAtEnd | mark | endIndex | source | display | setSkip | setIntBits => cases h
  | _ => cases hst

/-- Apart from a restart such a step leaves the scanner where it is. -/
theorem still_of_step (s : Session) {st : Step} (hst : st.isOperation = false)
    (hrestart : st.isRestart = false) :
    (s.step st).2.scanner.source = s.scanner.source ∧
      (s.step st).2.scanner.cursor = s.scanner.cursor := by
  cases st with
  | spanMark name =>
    cases hm : s.marks.lookup name with
    | none =>
      rw [step_spanMark_of_none hm]
      exact ⟨rfl, rfl⟩
    | some p =>
      rw [step_spanMark_of_some hm]
      exact ⟨rfl, rfl⟩
  | setCompare options =>
    cases ho : CompareOptions.ofArgument options with
    | error v =>
      rw [step_setCompare_of_error ho]
      exact ⟨rfl, rfl⟩
    | ok o =>
      rw [step_setCompare_of_ok ho]
      exact ⟨rfl, rfl⟩
  | newAt start => cases hrestart
  | isAtEnd | mark | endIndex | source | display | setSkip | setIntBits | config | codeUnitOffset
  | span => exact ⟨rfl, rfl⟩
  | _ => cases hst

theorem stepWithin_of_still {s : Session} {st : Step} (hst : st.isOperation = false)
    (hrestart : st.isRestart = false) (hs : s.scanner.InBounds) : s.StepWithin st := by
  obtain ⟨hsource, hcursor⟩ := s.still_of_step hst hrestart
  refine ⟨hsource, fun hop => Bool.noConfusion (hst.symm.trans hop), ?_,
    fun _ => Nat.le_of_eq hcursor.symm, fun _ e he => ?_⟩
  · unfold InBounds endIndex at hs ⊢
    rw [hsource, hcursor]
    exact hs
  · exact Fault.isPastEnd_of_isCaller (isCaller_of_step hst he)

/-- A restart goes to a place of the same source, or fails. -/
theorem restart_ok {s t : Session} {p : PlaceArgument} (h : s.restart p = .ok t) :
    t.scanner.source = s.scanner.source ∧ t.scanner.InBounds := by
  unfold restart at h
  cases hmake : p.make with
  | error e => rw [hmake] at h; cases h
  | ok place =>
    rw [hmake] at h
    cases hstart : startAt s.scanner.source place s.scanner.config with
    | error v => simp only [bind, Except.bind, hstart] at h; cases h
    | ok scanner =>
      simp only [bind, Except.bind, hstart] at h
      cases h
      unfold startAt at hstart
      cases hindex : place.startIndex with
      | error v => rw [hindex] at hstart; cases hstart
      | ok index =>
        rw [hindex] at hstart
        exact inBounds_startAt hstart

/-- **What every step keeps.** -/
theorem step_within {s : Session} (hs : s.scanner.InBounds) (st : Step) : s.StepWithin st := by
  cases st with
  | peek => exact stepWithin_of_forward forward_peek rfl hs
  | read => exact stepWithin_of_forward forward_read rfl hs
  | advance => exact stepWithin_of_forward forward_advance rfl hs
  | skipWhitespace => exact stepWithin_of_forward (forward_advanceWhile isWhitespace) rfl hs
  | consumeRemaining => exact stepWithin_of_forward forward_consumeRemaining rfl hs
  | expect atom => exact stepWithin_of_forward (forward_expect atom) rfl hs
  | nextEquals atom => exact stepWithin_of_forward (forward_nextEquals atom) rfl hs
  | advanceWhile p => exact stepWithin_of_forward (forward_advanceWhile p.test) rfl hs
  | advanceUntil p => exact stepWithin_of_forward (forward_advanceWhile fun c => !p.test c) rfl hs
  | consumeWhile p => exact stepWithin_of_forward (forward_consumeWhile p.test) rfl hs
  | consumeUntil p => exact stepWithin_of_forward (forward_consumeWhile fun c => !p.test c) rfl hs
  | peekMatches p => exact stepWithin_of_forward (forward_peekMatches p.test) rfl hs
  | advanceIfEquals literal options =>
    exact stepWithin_of_forward (forward_advanceIfEquals literal options) rfl hs
  | parseInt skip => exact stepWithin_of_forward (forward_parseInt skip) rfl hs
  | parseIntString skip => exact stepWithin_of_forward (forward_parseIntString skip) rfl hs
  | parseFloatString skip => exact stepWithin_of_forward (forward_parseFloatString skip) rfl hs
  | peekUnchecked => exact stepWithin_of_moves moves_peekUnchecked rfl hs nofun
  | advanceUnchecked => exact stepWithin_of_moves moves_advanceUnchecked rfl hs nofun
  | newAt start =>
    cases hr : s.restart start with
    | error e =>
      constructor <;> rw [step_newAt_of_error hr]
      · exact nofun
      · exact hs
      · exact nofun
      · rintro - e' ⟨⟩
        exact Fault.isPastEnd_of_isCaller (isCaller_of_restart hr)
    | ok t =>
      obtain ⟨hsource, hin⟩ := restart_ok hr
      constructor <;> rw [step_newAt_of_ok hr]
      · exact hsource
      · exact nofun
      · exact hin
      · exact nofun
      · exact nofun
  | _ => exact stepWithin_of_still rfl rfl hs

theorem within_run {s : Session} (hs : s.scanner.InBounds) (steps : List Step) :
    (s.run steps).2.scanner.source = s.scanner.source ∧ (s.run steps).2.scanner.InBounds :=
  run_invariant (P := fun t => t.scanner.source = s.scanner.source ∧ t.scanner.InBounds)
    (fun _ st ht =>
      have hw := step_within ht.2 st
      ⟨hw.source.trans ht.1, hw.inBounds⟩)
    ⟨rfl, hs⟩ steps

/-- **What every run keeps.** A run from a place of a source stays on that source and within its
bounds. Only a restart takes the cursor back, and no step but the unchecked ones fails by a look
or a step past the end. -/
theorem run_within {source : Text} {index : Int} {config : Config} {scanner : Scanner}
    (h : Scanner.startAt source index config = .ok scanner) (steps : List Step) :
    let t := ((ofScanner scanner).run steps).2
    t.scanner.source = source ∧ t.scanner.endIndex = source.length ∧
      t.scanner.cursor ≤ t.scanner.endIndex ∧
      ∀ st : Step,
        (st.isRestart = false → t.scanner.cursor ≤ (t.step st).2.scanner.cursor) ∧
        (st.isUnchecked = false →
          (t.step st).1 ≠ .error .outOfRange ∧ (t.step st).1 ≠ .error .unguarded) := by
  intro t
  have hkept : t.scanner.source = source ∧ t.scanner.InBounds := by
    refine run_invariant (P := fun u => u.scanner.source = source ∧ u.scanner.InBounds)
      (fun u st hu => ?_) (inBounds_startAt h) steps
    have hw := step_within hu.2 st
    exact ⟨hw.source.trans hu.1, hw.inBounds⟩
  refine ⟨hkept.1, congrArg List.length hkept.1, hkept.2, fun st => ?_⟩
  have hw := step_within hkept.2 st
  refine ⟨hw.onward, fun hu => ⟨fun he => ?_, fun he => ?_⟩⟩
  · exact Bool.noConfusion (hw.guarded hu _ he)
  · exact Bool.noConfusion (hw.guarded hu _ he)

/-- A run with failures of several kinds, a change of settings, and a restart at the end. -/
theorem run_within_failures :
    let source : Text := ['a', '9', '9', '.', 'x']
    let scanner : Scanner := ⟨source, 1, .default⟩
    let steps : List Step :=
      [.setIntBits (some 4), .parseInt none, .expect ['y'], .parseFloatString none, .read,
        .advanceUnchecked, .newAt (.value (.int 9)), .newAt (.value (.int 5))]
    Scanner.startAt source 1 .default = .ok scanner ∧
      let t := ((ofScanner scanner).run steps).2
      t.scanner.source = source ∧ t.scanner.endIndex = source.length ∧
        t.scanner.cursor ≤ t.scanner.endIndex ∧
        ∀ st : Step,
          (st.isRestart = false → t.scanner.cursor ≤ (t.step st).2.scanner.cursor) ∧
          (st.isUnchecked = false →
            (t.step st).1 ≠ .error .outOfRange ∧ (t.step st).1 ≠ .error .unguarded) := by
  intro source scanner steps
  have hstart : Scanner.startAt source 1 .default = .ok scanner := rfl
  exact ⟨hstart, run_within hstart steps⟩

end Session

end TextScan
