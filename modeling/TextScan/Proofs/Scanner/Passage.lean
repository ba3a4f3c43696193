import TextScan.Proofs.Scanner.Run

/-!
# The text that is passed

A step passes the part of the source between the cursor before it and the cursor after it. What
reads text answers the part that it passed (`Answers`), and a number read as text is that part
without the white space in front (`AnswersNumber`). In a run without restarts the parts follow
each other without a gap and without an overlap, so that a span from an earlier place is what the
steps since then have passed (`run_passes`).
-/

namespace TextScan

/-! ## Slices -/

namespace Text

variable (t : Text)

theorem extract_append_extract {i j k : Nat} (hij : i ≤ j) (hjk : j ≤ k) :
    t.extract i j ++ t.extract j k = t.extract i k := by
  have hj : i + (j - i) = j := by omega
  have hk : j - i + (k - j) = k - i := by omega
  rw [List.extract_eq_take_drop, List.extract_eq_take_drop, List.extract_eq_take_drop, ← hk,
    List.take_add, List.drop_drop, hj]

/-- The slices between neighbouring places join to the slice from the first place to the last. -/
theorem flatten_extract {p : Nat → Nat} (hp : ∀ m n, m ≤ n → p m ≤ p n) {i j : Nat} (hij : i ≤ j) :
    ((List.range' i (j - i)).map fun m => t.extract (p m) (p (m + 1))).flatten =
      t.extract (p i) (p j) := by
  obtain ⟨n, rfl⟩ : ∃ n, j = i + n := ⟨j - i, by omega⟩
  rw [Nat.add_sub_cancel_left]
  induction n with
  | zero => simp [List.extract_eq_take_drop]
  | succ n ih =>
    rw [List.range'_concat, List.map_append, List.flatten_append, ih (Nat.le_add_right i n)]
    simp only [List.map_cons, List.map_nil, List.flatten_cons, List.flatten_nil, List.append_nil,
      Nat.one_mul]
    exact t.extract_append_extract (hp _ _ (Nat.le_add_right i n)) (hp _ _ (Nat.le_succ _))

end Text

theorem isWhitespace_of_isDigit {c : Char} (h : isDigit c = true) : isWhitespace c = false := by
  simp only [isDigit, Bool.and_eq_true, Nat.ble_eq] at h
  have hcontrol : isLineControl c = false := by
    simp only [isLineControl, Bool.or_eq_false_iff, Bool.and_eq_false_iff]
    refine ⟨.inr ?_, ?_⟩
    · rw [Bool.eq_false_iff, ne_eq, Nat.ble_eq]
      omega
    · rw [Bool.eq_false_iff, ne_eq, Nat.beq_eq]
      omega
  have hseparator : isSeparator c = false := by
    simp only [isSeparator, Bool.or_eq_false_iff, Bool.and_eq_false_iff, List.contains_eq_mem,
      decide_eq_false_iff_not, List.mem_cons, List.not_mem_nil, or_false]
    refine ⟨by omega, .inl ?_⟩
    rw [Bool.eq_false_iff, ne_eq, Nat.ble_eq]
    omega
  rw [isWhitespace, hcontrol, hseparator]
  rfl

namespace Scanner

/-! ## Operations that read text -/

/-- What `m` answers is, as a text, the part of the source that it passes. -/
def Answers {α : Type} (m : Scan α) (text : α → Text) : Prop :=
  ∀ s : Scanner, s.InBounds → ∀ a, (s.run m).1 = .ok a →
    text a = s.slice s.cursor (s.run m).2.cursor

section Reading

variable {α : Type} {m : Scan α} {text : α → Text}

theorem answers_of_run
    (h : ∀ s : Scanner, s.InBounds → ∀ a, (s.run m).1 = .ok a →
      ∃ n, text a = s.ahead.take n ∧ (s.run m).2 = s.advanceBy n) :
    Answers m text := by
  intro s hs a ha
  obtain ⟨n, htext, hmove⟩ := h s hs a ha
  rw [htext, hmove, cursor_advanceBy, slice_advanceBy]

theorem answers_read : Answers read fun c => [c] := by
  refine answers_of_run fun s _ a ha => ⟨1, ?_⟩
  rw [run_read] at ha ⊢
  cases h : s.ahead with
  | nil =>
    rw [h] at ha
    cases ha
  | cons c rest =>
    rw [h] at ha
    cases ha
    exact ⟨rfl, rfl⟩

theorem answers_consumeWhile (p : Char → Bool) : Answers (consumeWhile p) id := by
  refine answers_of_run fun s _ a ha => ⟨(s.ahead.takeWhile p).length, ?_⟩
  rw [run_consumeWhile] at ha ⊢
  cases ha
  exact ⟨(Text.take_length_takeWhile p s.ahead).symm, rfl⟩

theorem answers_consumeUntil (p : Char → Bool) : Answers (consumeUntil p) id :=
  answers_consumeWhile _

theorem answers_consumeRemaining : Answers consumeRemaining id := by
  refine answers_of_run fun s hs a ha => ⟨s.ahead.length, ?_⟩
  rw [run_consumeRemaining s hs] at ha ⊢
  cases ha
  exact ⟨List.take_length.symm, rfl⟩

end Reading

/-! ## Numbers as text -/

section Leading

variable (s : Scanner) (skip : Option Bool)

/-- The white space that is skipped before a number. -/
def leading : Text :=
  if skip.getD s.config.skipWhitespace then s.ahead.takeWhile isWhitespace else []

theorem skipped_eq : s.skipped skip = s.advanceBy (s.leading skip).length := by
  unfold skipped leading
  split <;> rfl

theorem leading_append_ahead : s.leading skip ++ (s.skipped skip).ahead = s.ahead := by
  rw [skipped_eq, ahead_advanceBy]
  unfold leading
  split
  · rw [← Text.take_length_takeWhile isWhitespace, List.length_take, Nat.min_eq_left
      (Text.length_takeWhile_le isWhitespace s.ahead), List.take_append_drop]
  · rfl

/-- Up to `n` characters past the white space the white space is passed, and `n` characters. -/
theorem slice_skipped (n : Nat) :
    s.slice s.cursor ((s.skipped skip).advanceBy n).cursor =
      s.leading skip ++ (s.skipped skip).ahead.take n := by
  have hcursor : ((s.skipped skip).advanceBy n).cursor =
      s.cursor + ((s.leading skip).length + n) := by
    rw [skipped_eq, cursor_advanceBy, cursor_advanceBy, Nat.add_assoc]
  rw [hcursor, slice_advanceBy, ← leading_append_ahead s skip, List.take_length_add_append]

/-- The number starts where the white space ends. -/
theorem dropWhile_leading {t : Text} (ht : t.head?.any isDigit = true) :
    (s.leading skip ++ t).dropWhile isWhitespace = t := by
  have hall : ∀ c ∈ s.leading skip, isWhitespace c = true := by
    intro c hc
    unfold leading at hc
    split at hc
    · exact Text.eq_true_of_mem_takeWhile hc
    · cases hc
  rw [List.dropWhile_append_of_pos hall]
  cases t with
  | nil => rfl
  | cons c rest =>
    rw [List.dropWhile_cons_of_neg]
    rw [isWhitespace_of_isDigit ht]
    exact Bool.false_ne_true

end Leading

/-- What `m` answers is the part of the source that it passes, without the white space in front
of it, and all of that part if white space is not skipped. -/
def AnswersNumber (skip : Option Bool) (m : Scan Text) : Prop :=
  ∀ s : Scanner, s.InBounds → ∀ t, (s.run m).1 = .ok t →
    t = (s.slice s.cursor (s.run m).2.cursor).dropWhile isWhitespace ∧
      (skip.getD s.config.skipWhitespace = false → t = s.slice s.cursor (s.run m).2.cursor)

section Numbers

variable {skip : Option Bool}

theorem answersNumber_of_run {m : Scan Text}
    (h : ∀ s : Scanner, s.InBounds → ∀ t, (s.run m).1 = .ok t →
      ∃ n, t = (s.skipped skip).ahead.take n ∧ t.head?.any isDigit = true ∧
        (s.run m).2 = (s.skipped skip).advanceBy n) :
    AnswersNumber skip m := by
  intro s hs t ht
  obtain ⟨n, htext, hdigit, hmove⟩ := h s hs t ht
  rw [hmove, slice_skipped, ← htext]
  refine ⟨(dropWhile_leading s skip hdigit).symm, fun hskip => ?_⟩
  rw [leading, hskip]
  rfl

/-- A run of digits starts with the digit ahead. -/
theorem head?_takeWhile_isDigit {s : Scanner} (h : s.nextIs isDigit = true) (k : Nat) :
    (s.ahead.take ((s.ahead.takeWhile isDigit).length + k)).head?.any isDigit = true := by
  unfold nextIs at h
  cases hahead : s.ahead with
  | nil =>
    rw [hahead] at h
    cases h
  | cons c rest =>
    rw [hahead] at h
    have hc : isDigit c = true := h
    rw [List.takeWhile_cons_of_pos hc, List.length_cons, Nat.add_right_comm]
    exact h

theorem answersNumber_parseIntString : AnswersNumber skip (parseIntString skip) := by
  refine answersNumber_of_run fun s _ t ht => ?_
  rw [run_parseIntString] at ht ⊢
  by_cases hdigit : (s.skipped skip).nextIs isDigit = true
  · rw [if_pos hdigit] at ht ⊢
    cases ht
    refine ⟨_, (Text.take_length_takeWhile isDigit _).symm, ?_, rfl⟩
    rw [← Text.take_length_takeWhile isDigit]
    exact head?_takeWhile_isDigit hdigit 0
  · rw [if_neg hdigit] at ht
    cases ht

/-- The fraction is passed after the digits, so the number is all that was passed since they
began. -/
theorem answersNumber_parseFloatString : AnswersNumber skip (parseFloatString skip) := by
  refine answersNumber_of_run fun s hs t ht => ?_
  rw [run_parseFloatString] at ht ⊢
  by_cases hdigit : (s.skipped skip).nextIs isDigit = true
  · rw [if_pos hdigit] at ht ⊢
    have hin : ((s.skipped skip).advanceBy
        ((s.skipped skip).ahead.takeWhile isDigit).length).InBounds :=
      inBounds_advanceBy (inBounds_skipped hs skip) (Text.length_takeWhile_le isDigit _)
    obtain ⟨r, k, hrun, -, -⟩ := forward_advanceFraction.run hin
    rw [hrun, advanceBy_advanceBy] at ht ⊢
    cases r with
    | error e => cases ht
    | ok u =>
      cases ht
      refine ⟨_, ?_, ?_, rfl⟩
      · exact slice_advanceBy (s.skipped skip) _
      · show (((s.skipped skip).slice _ _).head?.any isDigit) = true
        rw [cursor_advanceBy, slice_advanceBy]
        exact head?_takeWhile_isDigit hdigit k
  · rw [if_neg hdigit] at ht
    cases ht

end Numbers

end Scanner

/-! ## Steps -/

/-- Whether a step reads text and answers it. -/
def Step.readsText : Step → Bool
  | .read | .consumeWhile _ | .consumeUntil _ | .consumeRemaining => true
  | _ => false

/-- For a step that reads a number as text, whether it is told to skip white space. -/
def Step.numberSkip? : Step → Option (Option Bool)
  | .parseIntString skip | .parseFloatString skip => some skip
  | _ => none

namespace Session

open Scanner

/-- The part of the source that a step passes. -/
def passed (s : Session) (st : Step) : Text :=
  s.scanner.slice s.scanner.cursor (s.step st).2.scanner.cursor

section Steps

variable {s : Session} {st : Step}

theorem answer_eq_passed {α : Type} {m : Scan α} {answer : α → Answer} {text : α → Text}
    (hm : Answers m text) (htext : ∀ a, answer a = .text (text a))
    (hst : s.step st = s.perform answer m) (hs : s.scanner.InBounds) {a : Answer}
    (ha : (s.step st).1 = .ok a) : a = .text (s.passed st) := by
  rw [hst] at ha
  obtain ⟨x, hx, rfl⟩ := ok_of_perform ha
  rw [htext, hm s.scanner hs x hx, passed, hst]
  rfl

/-- **A step that reads text answers what it passed.** -/
theorem step_readsText (hs : s.scanner.InBounds) (hst : st.readsText = true) {a : Answer}
    (ha : (s.step st).1 = .ok a) : a = .text (s.passed st) := by
  cases st with
  | read => exact answer_eq_passed answers_read (fun _ => rfl) rfl hs ha
  | consumeWhile p =>
    exact answer_eq_passed (answers_consumeWhile p.test) (fun _ => rfl) rfl hs ha
  | consumeUntil p =>
    exact answer_eq_passed (answers_consumeUntil p.test) (fun _ => rfl) rfl hs ha
  | consumeRemaining => exact answer_eq_passed answers_consumeRemaining (fun _ => rfl) rfl hs ha
  | _ => cases hst

theorem answer_eq_number {m : Scan Text} {skip : Option Bool} (hm : AnswersNumber skip m)
    (hst : s.step st = s.perform .text m) (hs : s.scanner.InBounds) {a : Answer}
    (ha : (s.step st).1 = .ok a) :
    a = .text ((s.passed st).dropWhile isWhitespace) ∧
      (skip.getD s.scanner.config.skipWhitespace = false → a = .text (s.passed st)) := by
  have hpassed : s.passed st = s.scanner.slice s.scanner.cursor (s.scanner.run m).2.cursor := by
    rw [passed, hst]
    rfl
  rw [hst] at ha
  obtain ⟨t, ht, rfl⟩ := ok_of_perform ha
  obtain ⟨hdrop, hall⟩ := hm s.scanner hs t ht
  rw [hpassed]
  exact ⟨congrArg Answer.text hdrop, fun hskip => congrArg Answer.text (hall hskip)⟩

/-- **A number read as text is what the step passed**, apart from white space in front. -/
theorem step_numberSkip (hs : s.scanner.InBounds) {skip : Option Bool}
    (hst : st.numberSkip? = some skip) {a : Answer} (ha : (s.step st).1 = .ok a) :
    a = .text ((s.passed st).dropWhile isWhitespace) ∧
      (skip.getD s.scanner.config.skipWhitespace = false → a = .text (s.passed st)) := by
  cases st with
  | parseIntString skip' =>
    cases hst
    exact answer_eq_number answersNumber_parseIntString rfl hs ha
  | parseFloatString skip' =>
    cases hst
    exact answer_eq_number answersNumber_parseFloatString rfl hs ha
  | _ => cases hst

end Steps

/-! ## Stored places -/

/-- A stored position stays under its name until another one is stored there. -/
theorem lookup_step (s : Session) {st : Step} {name : Text} (hst : st ≠ .mark name)
    (hrestart : st.isRestart = false) :
    (s.step st).2.marks.lookup name = s.marks.lookup name := by
  cases st with
  | mark name' =>
    have hne : (name == name') = false := beq_eq_false_iff_ne.mpr fun h => hst (h ▸ rfl)
    show ((name', s.scanner.position) :: s.marks).lookup name = _
    rw [List.lookup_cons, hne]
  | spanMark name' =>
    cases hm : s.marks.lookup name' with
    | none => rw [step_spanMark_of_none hm]
    | some p => rw [step_spanMark_of_some hm]
  | setCompare options =>
    cases ho : CompareOptions.ofArgument options with
    | error v => rw [step_setCompare_of_error ho]
    | ok o => rw [step_setCompare_of_ok ho, configure, withScanner]
  | newAt start => cases hrestart
  | _ => rfl

/-! ## Runs -/

/-- The cursor after the first `n` steps of a run. -/
def cursorAfter (s : Session) (steps : List Step) (n : Nat) : Nat :=
  (s.after steps n).scanner.cursor

section Runs

variable {s : Session} {steps : List Step}

theorem cursorAfter_le_succ (hs : s.scanner.InBounds) (hsteps : ∀ st ∈ steps, st.isRestart = false)
    (n : Nat) : s.cursorAfter steps n ≤ s.cursorAfter steps (n + 1) := by
  unfold cursorAfter
  cases h : steps[n]? with
  | none =>
    have hlen : steps.length ≤ n := List.getElem?_eq_none_iff.mp h
    have hend := after_of_length_le s (Nat.le_succ_of_le hlen)
    exact Nat.le_of_eq (by rw [after_of_length_le s hlen, hend])
  | some st =>
    rw [after_succ s h]
    exact (step_within (within_run hs (steps.take n)).2 st).onward (hsteps st (List.mem_of_getElem? h))

theorem cursorAfter_mono (hs : s.scanner.InBounds) (hsteps : ∀ st ∈ steps, st.isRestart = false)
    (m n : Nat) (hmn : m ≤ n) : s.cursorAfter steps m ≤ s.cursorAfter steps n := by
  induction hmn with
  | refl => exact Nat.le_refl _
  | step _ ih => exact Nat.le_trans ih (cursorAfter_le_succ hs hsteps _)

theorem lookup_after (hsteps : ∀ st ∈ steps, st.isRestart = false) {name : Text} {i : Nat}
    (hi : steps[i]? = some (.mark name)) {j : Nat} (hij : i < j)
    (hlater : ∀ m, i < m → m < j → steps[m]? ≠ some (.mark name)) :
    (s.after steps j).marks.lookup name = some (s.after steps i).scanner.position := by
  induction hij with
  | refl =>
    rw [after_succ s hi]
    exact List.lookup_cons_self
  | @step j hj ih =>
    have ih := ih fun m him hmj => hlater m him (Nat.lt_succ_of_lt hmj)
    cases h : steps[j]? with
    | none =>
      have hlen : steps.length ≤ j := List.getElem?_eq_none_iff.mp h
      rwa [after_of_length_le s (Nat.le_succ_of_le hlen), ← after_of_length_le s hlen]
    | some st =>
      have hne : st ≠ .mark name := fun hst => hlater j hj (Nat.lt_succ_self j) (hst ▸ h)
      rw [after_succ s h, lookup_step _ hne (hsteps st (List.mem_of_getElem? h))]
      exact ih

end Runs

/-- **No text is lost or read twice.** In a run without restarts, with `p n` the cursor after `n`
steps: what reads text answers the source between the cursor before the step and the cursor after
it, a number read as text is that part without white space in front, and a span from an earlier
cursor, given as a position or stored under a name, is there and joins what the steps between have
passed. -/
theorem run_passes {source : Text} {index : Int} {config : Config} {scanner : Scanner}
    (h : Scanner.startAt source index config = .ok scanner) (steps : List Step)
    (hsteps : ∀ st ∈ steps, st.isRestart = false) :
    let s := ofScanner scanner
    let p := s.cursorAfter steps
    (∀ i j, i ≤ j → p i ≤ p j ∧ p j ≤ source.length) ∧
      (∀ i st r, steps[i]? = some st → (s.run steps).1[i]? = some r →
        r.cursor = p (i + 1) ∧
          (st.readsText = true → ∀ a, r.result = .ok a →
            a = .text (source.extract (p i) (p (i + 1)))) ∧
          ∀ skip, st.numberSkip? = some skip → ∀ a, r.result = .ok a →
            a = .text ((source.extract (p i) (p (i + 1))).dropWhile isWhitespace) ∧
              (skip.getD (s.after steps i).scanner.config.skipWhitespace = false →
                a = .text (source.extract (p i) (p (i + 1))))) ∧
      ∀ i j, i ≤ j →
        ((s.after steps j).step (.span (.position (.int (p i))))).1 =
            .ok (.text (source.extract (p i) (p j))) ∧
          (∀ name, steps[i]? = some (.mark name) → i < j →
            (∀ m, i < m → m < j → steps[m]? ≠ some (.mark name)) →
            ((s.after steps j).step (.spanMark name)).1 =
              .ok (.text (source.extract (p i) (p j)))) ∧
          source.extract (p i) (p j) =
            ((List.range' i (j - i)).map fun m => source.extract (p m) (p (m + 1))).flatten := by
  intro s p
  obtain ⟨hsource, hin⟩ : s.scanner.source = source ∧ s.scanner.InBounds := inBounds_startAt h
  have hafter (n : Nat) : (s.after steps n).scanner.source = source ∧
      (s.after steps n).scanner.InBounds := by
    rw [← hsource]
    exact within_run hin (steps.take n)
  have hmono (i j : Nat) (hij : i ≤ j) : p i ≤ p j := cursorAfter_mono hin hsteps i j hij
  have hslice (n i j : Nat) : (s.after steps n).scanner.slice i j = source.extract i j := by
    rw [slice, (hafter n).1]
  refine ⟨fun i j hij => ⟨hmono i j hij, ?_⟩, fun i st r hst hr => ?_, fun i j hij => ?_⟩
  · rw [← (hafter j).1]
    exact (hafter j).2
  · rw [getElem?_run, hst, Option.map_some, Option.some.injEq] at hr
    subst hr
    have hpassed : (s.after steps i).passed st = source.extract (p i) (p (i + 1)) := by
      rw [passed, ← after_succ s hst, hslice]
      rfl
    refine ⟨congrArg (·.scanner.cursor) (after_succ s hst).symm, fun hreads a ha => ?_,
      fun skip hskip a ha => ?_⟩
    · rw [← hpassed]
      exact step_readsText (hafter i).2 hreads ha
    · rw [← hpassed]
      exact step_numberSkip (hafter i).2 hskip ha
  · have hspan : (s.after steps j).spanFrom (.position ⟨p i⟩) =
        .ok (.text (source.extract (p i) (p j))) := by
      rw [spanFrom_of_le _ (hmono i j hij), hslice]
      rfl
    refine ⟨hspan, fun name hi hlt hlater => ?_, ?_⟩
    · rw [step_spanMark_of_some (lookup_after hsteps hi hlt hlater)]
      exact hspan
    · exact (source.flatten_extract hmono hij).symm

/-- Over two failures that have moved on, the white space before a number and a stored place. -/
theorem run_passes_failures :
    let source : Text := [' ', '4', '.', 'x', ' ', '7', 'y']
    let scanner : Scanner := ⟨source, 0, .default⟩
    let steps : List Step :=
      [.mark ['m'], .parseFloatString none, .expect ['!'], .parseIntString none, .spanMark ['m']]
    let s := ofScanner scanner
    Scanner.startAt source 0 .default = .ok scanner ∧ (∀ st ∈ steps, st.isRestart = false) ∧
      (∀ r a, (s.run steps).1[3]? = some r → r.result = .ok a → a = .text ['7']) ∧
        ((s.after steps 4).step (.spanMark ['m'])).1 =
          .ok (.text [' ', '4', '.', 'x', ' ', '7']) := by
  intro source scanner steps s
  have hstart : Scanner.startAt source 0 .default = .ok scanner := rfl
  have hsteps : ∀ st ∈ steps, st.isRestart = false := by decide
  obtain ⟨-, hanswer, hspan⟩ := run_passes hstart steps hsteps
  refine ⟨hstart, hsteps, fun r a hr ha => ?_, ?_⟩
  · have hslice : (source.extract (s.cursorAfter steps 3) (s.cursorAfter steps 4)).dropWhile
        isWhitespace = ['7'] := by decide +kernel
    rw [((hanswer 3 _ r rfl hr).2.2 none rfl a ha).1, hslice]
  · have hslice : source.extract (s.cursorAfter steps 0) (s.cursorAfter steps 4) =
        [' ', '4', '.', 'x', ' ', '7'] := by decide +kernel
    have hlater : ∀ m, 0 < m → m < 4 → steps[m]? ≠ some (.mark ['m']) := by
      intro m hm hm'
      obtain rfl | rfl | rfl : m = 1 ∨ m = 2 ∨ m = 3 := by omega
      all_goals nofun
    rw [(hspan 0 4 (Nat.zero_le 4)).2.1 ['m'] rfl (by decide) hlater, hslice]

end Session

end TextScan
