import TextScan.Proofs.Scanner.Exactness

/-!
# The width of integers

`s.withBits bits` is the scanner `s` with another width for integers. An operation is `Widthless`
when the width makes no difference to it, and all of them are but `parseInt`, which moves alike
under any width and whose outcomes are related by `Widened`. So two runs that differ in the width
stay at the same places of the source, and only numbers that are too large for one of the widths
tell them apart (`run_wider`).
-/

namespace TextScan

open Config Integer Scanner

/-! ## Outcomes under two widths -/

/-- An outcome reports digits, read from `p` on, that are a number outside the width. -/
def Overflows {α : Type} (r : Except Fault α) (raw : Text) (p : Nat) : Prop :=
  raw ≠ [] ∧ ∃ w, r = .error (.scan (.overflow raw w p))

/-- The outcomes `r` under the width `bits` and `r'` under `bits'`, which is no narrower, of reading
the same digits. Unless a range could not be computed, a number stays that number and nothing but
an overflow changes; and what overflows the wider width overflows the other one. -/
structure Widened {α : Type} (bits bits' : Option Int) (r r' : Except Fault α) : Prop where
  kept : ¬ Unranged r' → ∀ a, r = .ok a → r' = .ok a
  unchanged : ¬ Unranged r → ¬ Unranged r' → (∀ raw p, ¬ Overflows r raw p) → r' = r
  overflow : ∀ raw p, Overflows r' raw p → Overflows r raw p
  ranged : HasRange bits → ¬ Unranged r
  ranged' : HasRange bits' → ¬ Unranged r'

section Widened

variable {α β : Type} {bits bits' : Option Int} {r r' : Except Fault α}

theorem overflows_map (f : α → β) {raw : Text} {p : Nat} :
    Overflows (r.map f) raw p ↔ Overflows r raw p := by
  cases r <;> simp [Overflows, Except.map]

theorem unranged_map (f : α → β) : Unranged (r.map f) ↔ Unranged r := by
  cases r <;> simp [Unranged, Except.map]

theorem Widened.map (h : Widened bits bits' r r') (f : α → β) :
    Widened bits bits' (r.map f) (r'.map f) := by
  refine ⟨fun hr' b hb => ?_, fun hr hr' hno => ?_, fun raw p ho => ?_, fun hrange => ?_,
    fun hrange => ?_⟩
  · cases r with
    | error e => cases hb
    | ok a =>
      rw [h.kept (mt (unranged_map f).mpr hr') a rfl]
      exact hb
  · rw [h.unchanged (mt (unranged_map f).mpr hr) (mt (unranged_map f).mpr hr')
      fun raw p ho => hno raw p ((overflows_map f).mpr ho)]
  · exact (overflows_map f).mpr (h.overflow raw p ((overflows_map f).mp ho))
  · exact mt (unranged_map f).mp (h.ranged hrange)
  · exact mt (unranged_map f).mp (h.ranged' hrange)

end Widened

/-! ## Conversion -/

namespace Config

theorem ValidBits.of_noWider {a b : Option Int} (h : ValidBits a) (hle : NoWider a b) :
    ValidBits b := by
  rintro w rfl
  cases a with
  | none => exact absurd hle id
  | some v => exact Int.le_trans (h v rfl) hle

/-- A width that a number can be too large for is bounded, so the narrower ones are. -/
theorem HasRange.of_noWider {a b : Option Int} (h : HasRange b) {n : Nat} (hout : ¬ InWidth b n)
    (hle : NoWider a b) : HasRange a := by
  cases b with
  | none => exact absurd trivial hout
  | some w =>
    cases a with
    | none => exact absurd hle id
    | some v => exact Int.le_trans hle h

end Config

namespace Scanner

theorem overflows_convert {c : Config} (hvalid : ValidBits c.intBits) {digits raw : Text}
    {start p : Nat} (h : Overflows (convert c digits start) raw p) :
    (raw = digits ∧ p = start) ∧ (digits ≠ [] ∧ digits.length ≤ maxDigits) ∧
      HasRange c.intBits ∧ ¬ InWidth c.intBits (denoted digits) := by
  obtain ⟨hne, w, hover⟩ := h
  obtain ⟨hcause, hposition⟩ := cause_of_convert hover
  obtain rfl : raw = digits := ScanCause.invalidNumber.inj hcause
  refine ⟨⟨rfl, Option.some.inj hposition⟩, ?_⟩
  have hconverted := converted hvalid raw start
  generalize convert c raw start = r at hconverted hover
  cases hconverted with
  | noNumber hnone => exact absurd hnone hne
  | tooMany => cases hover
  | unranged _ _ _ hr =>
    subst hover
    exact absurd hr (not_unranged_scan _)
  | number => cases hover
  | overflow hne hfew hrange _ hout => exact ⟨⟨hne, hfew⟩, hrange, hout⟩

/-- The range of a wider width has the numbers of the other one, so a number that is read stays
one, and one that is too large for the wider width is too large for both. -/
theorem widened_convert {c : Config} (hvalid : ValidBits c.intBits) {bits : Option Int}
    (hle : NoWider c.intBits bits) (digits : Text) (start : Nat) :
    Widened c.intBits bits (convert c digits start)
      (convert { c with intBits := bits } digits start) := by
  have hvalid' : ValidBits bits := hvalid.of_noWider hle
  have hunchanged (hr : ¬ Unranged (convert c digits start))
      (hr' : ¬ Unranged (convert { c with intBits := bits } digits start))
      (hno : ∀ raw p, ¬ Overflows (convert c digits start) raw p) :
      convert { c with intBits := bits } digits start = convert c digits start := by
    have hconverted := converted hvalid digits start
    generalize convert c digits start = r at hconverted hr hno
    cases hconverted with
    | noNumber hnone =>
      subst hnone
      rfl
    | tooMany hmany => exact convert_of_many hmany start
    | unranged _ _ _ h => exact absurd h hr
    | number hne hfew _ hin =>
      -- That `c` has a range says nothing about a wider width; that the outcome is one does.
      have hrange' : HasRange bits := by
        by_contra hrange'
        exact hr' ((unranged_convert_iff hvalid').mpr ⟨hne, hfew, hrange'⟩)
      exact convert_of_inWidth hvalid' hne hfew hrange' (hin.mono hle) start
    | overflow hne => exact absurd ⟨hne, _, rfl⟩ (hno digits start)
  refine ⟨fun hr' n hn => ?_, hunchanged, fun raw p ho => ?_, fun hrange hr => ?_,
    fun hrange hr => ?_⟩
  · rw [hn] at hunchanged
    exact hunchanged (not_unranged_ok n) hr' (by simp [Overflows])
  · obtain ⟨⟨rfl, rfl⟩, ⟨hne, hfew⟩, hrange, hout⟩ := overflows_convert hvalid' ho
    obtain ⟨w, -, hover⟩ := convert_of_not_inWidth hvalid hne hfew (hrange.of_noWider hout hle)
      (fun hin => hout (hin.mono hle)) p
    exact ⟨hne, w, hover⟩
  · exact ((unranged_convert_iff hvalid).mp hr).2.2 hrange
  · exact ((unranged_convert_iff hvalid').mp hr).2.2 hrange

/-! ## Scanners of another width -/

/-- The scanner at the same place, with another width for integers. -/
def withBits (bits : Option Int) (s : Scanner) : Scanner :=
  { s with config := { s.config with intBits := bits } }

section WithBits

variable (bits : Option Int) (s : Scanner)

@[simp] theorem ahead_withBits : (s.withBits bits).ahead = s.ahead := rfl

@[simp] theorem cursor_withBits : (s.withBits bits).cursor = s.cursor := rfl

theorem nextIs_withBits (p : Char → Bool) : (s.withBits bits).nextIs p = s.nextIs p := rfl

theorem advanceBy_withBits (n : Nat) :
    (s.withBits bits).advanceBy n = (s.advanceBy n).withBits bits := rfl

theorem skipped_withBits (skip : Option Bool) :
    (s.withBits bits).skipped skip = (s.skipped skip).withBits bits := by
  unfold skipped withBits
  dsimp only
  split <;> rfl

theorem chosenOptions_withBits (options : Option OptionsArgument) :
    chosenOptions (s.withBits bits).config options = chosenOptions s.config options := by
  cases options <;> rfl

theorem startAt_withBits (source : Text) (index : Int) (config : Config) :
    startAt source index { config with intBits := bits } =
      (startAt source index config).map (withBits bits) := by
  unfold startAt
  split <;> rfl

end WithBits

/-! ## Operations -/

/-- Under any width `m` answers alike and moves alike. -/
def Widthless {α : Type} (m : Scan α) : Prop :=
  ∀ (bits : Option Int) (s : Scanner), s.InBounds →
    (s.withBits bits).run m = ((s.run m).1, (s.run m).2.withBits bits)

section Widthless

variable {α : Type} {m : Scan α}

/-- An operation that answers by the text ahead and the cursor and moves by the text ahead. -/
theorem widthless_of_run (answer : Text → Nat → Except Fault α) (moved : Text → Nat)
    (h : ∀ s : Scanner, s.InBounds →
      s.run m = (answer s.ahead s.cursor, s.advanceBy (moved s.ahead))) :
    Widthless m := by
  intro bits s hs
  have hs' : (s.withBits bits).InBounds := hs
  rw [h s hs, h _ hs', ahead_withBits, cursor_withBits, advanceBy_withBits]

theorem widthless_peekUnchecked : Widthless peekUnchecked := by
  intro bits s _
  have hget : (s.withBits bits).source[(s.withBits bits).cursor]? = s.source[s.cursor]? := rfl
  unfold peekUnchecked
  rw [run_get_bind, run_get_bind, hget]
  cases s.source[s.cursor]? <;> rfl

theorem widthless_advanceUnchecked : Widthless advanceUnchecked := by
  intro bits s _
  unfold advanceUnchecked
  rw [run_get_bind, run_get_bind, run_ite, run_ite]
  by_cases h : s.cursor < s.endIndex
  · have h' : (s.withBits bits).cursor < (s.withBits bits).endIndex := h
    rw [if_pos h, if_pos h']
    rfl
  · have h' : ¬ (s.withBits bits).cursor < (s.withBits bits).endIndex := h
    rw [if_neg h, if_neg h']
    rfl

theorem widthless_peek : Widthless peek := by
  intro bits s _
  rw [run_peek, run_peek, ahead_withBits]
  cases s.ahead <;> rfl

theorem widthless_advance : Widthless advance := by
  intro bits s _
  rw [run_advance, run_advance, ahead_withBits]
  cases s.ahead <;> rfl

theorem widthless_read : Widthless read := by
  intro bits s _
  rw [run_read, run_read, ahead_withBits]
  cases s.ahead <;> rfl

theorem widthless_expect (atom : Text) : Widthless (expect atom) := by
  intro bits s _
  rw [run_expect, run_expect, ahead_withBits]
  cases s.ahead <;> rfl

theorem widthless_advanceWhile (p : Char → Bool) : Widthless (advanceWhile p) :=
  widthless_of_run (fun _ _ => .ok ()) (fun t => (t.takeWhile p).length) fun s _ =>
    run_advanceWhile s p

theorem widthless_consumeWhile (p : Char → Bool) : Widthless (consumeWhile p) :=
  widthless_of_run (fun t _ => .ok (t.takeWhile p)) (fun t => (t.takeWhile p).length) fun s _ =>
    run_consumeWhile s p

theorem widthless_consumeRemaining : Widthless consumeRemaining :=
  widthless_of_run (fun t _ => .ok t) List.length fun s hs => run_consumeRemaining s hs

theorem widthless_peekMatches (p : Char → Bool) : Widthless (peekMatches p) :=
  widthless_of_run (fun t _ => .ok (t.head?.any p)) (fun _ => 0) fun s _ => run_peekMatches s p

theorem widthless_nextEquals (atom : Text) : Widthless (nextEquals atom) :=
  widthless_of_run (fun t _ => .ok (t.head?.any fun c => [c] = atom)) (fun _ => 0) fun s _ =>
    run_nextEquals s atom

theorem widthless_advanceIfEquals (literal : Text) (options : Option OptionsArgument) :
    Widthless (advanceIfEquals literal options) := by
  intro bits s hs
  have hs' : (s.withBits bits).InBounds := hs
  rw [run_advanceIfEquals s hs, run_advanceIfEquals _ hs', chosenOptions_withBits, ahead_withBits]
  cases chosenOptions s.config options with
  | error e => rfl
  | ok o =>
    dsimp only
    cases CharacterData.unicode.matchLength o s.ahead literal <;> rfl

theorem widthless_parseIntString (skip : Option Bool) : Widthless (parseIntString skip) := by
  intro bits s _
  rw [run_parseIntString, run_parseIntString, skipped_withBits, nextIs_withBits, ahead_withBits]
  split <;> rfl

theorem widthless_advanceFraction : Widthless advanceFraction := by
  intro bits s _
  rw [run_advanceFraction, run_advanceFraction, nextIs_withBits, advanceBy_withBits,
    nextIs_withBits]
  split
  · split <;> rfl
  · rfl

theorem widthless_parseFloatString (skip : Option Bool) : Widthless (parseFloatString skip) := by
  intro bits s hs
  have hdigits := inBounds_advanceBy (inBounds_skipped hs skip)
    (Text.length_takeWhile_le isDigit _)
  rw [run_parseFloatString, run_parseFloatString, skipped_withBits, nextIs_withBits,
    ahead_withBits, advanceBy_withBits, widthless_advanceFraction bits _ hdigits]
  split
  · generalize Scanner.run _ advanceFraction = out
    obtain ⟨r | r, t⟩ := out <;> rfl
  · rfl

/-- The one operation that asks for the width. It reads the digits under any. -/
theorem run_parseInt_withBits (bits : Option Int) (s : Scanner) (skip : Option Bool) :
    (s.withBits bits).run (parseInt skip) =
      (convert { s.config with intBits := bits } (s.digitsAhead skip) (s.skipped skip).cursor,
        (s.run (parseInt skip)).2.withBits bits) := by
  rw [run_parseInt, run_parseInt, skipped_withBits]
  rfl

end Widthless

end Scanner

/-! ## Steps -/

/-- Whether a step shows or sets the width. -/
def Step.namesWidth : Step → Bool
  | .config | .setIntBits _ => true
  | _ => false

/-- Whether a step reads a number as a value. -/
def Step.readsInteger : Step → Bool
  | .parseInt _ => true
  | _ => false

namespace Session

open Scanner

/-- The session with another width for integers. -/
def withBits (bits : Option Int) (s : Session) : Session :=
  s.withScanner (s.scanner.withBits bits)

section Steps

variable {s : Session} {st : Step} (bits : Option Int)

theorem step_of_widthless {α : Type} {m : Scan α} {answer : α → Answer} (hm : Widthless m)
    (hst : ∀ u : Session, u.step st = u.perform answer m) (hs : s.scanner.InBounds) :
    (s.withBits bits).step st = ((s.step st).1, (s.step st).2.withBits bits) := by
  have hrun : (s.withBits bits).scanner.run m =
      ((s.scanner.run m).1, (s.scanner.run m).2.withBits bits) := hm bits s.scanner hs
  rw [hst, hst]
  unfold perform
  rw [hrun]
  rfl

theorem spanMark_withBits (s : Session) (name : Text) :
    (s.withBits bits).step (.spanMark name) =
      ((s.step (.spanMark name)).1, (s.step (.spanMark name)).2.withBits bits) := by
  have hmarks : (s.withBits bits).marks = s.marks := rfl
  cases hm : s.marks.lookup name with
  | none => rw [step_spanMark_of_none hm, step_spanMark_of_none (hmarks ▸ hm)]
  | some p =>
    rw [step_spanMark_of_some hm, step_spanMark_of_some (hmarks ▸ hm)]
    rfl

theorem setCompare_withBits (s : Session) (options : OptionsArgument) :
    (s.withBits bits).step (.setCompare options) =
      ((s.step (.setCompare options)).1, (s.step (.setCompare options)).2.withBits bits) := by
  cases ho : CompareOptions.ofArgument options with
  | error v => rw [step_setCompare_of_error ho, step_setCompare_of_error ho]
  | ok o =>
    rw [step_setCompare_of_ok ho, step_setCompare_of_ok ho]
    rfl

theorem startAt_withBits (source : Text) (place : Place) (config : Config) :
    startAt source place { config with intBits := bits } =
      (startAt source place config).map (Scanner.withBits bits) := by
  unfold startAt
  cases place.startIndex with
  | error v => rfl
  | ok index => exact Scanner.startAt_withBits bits source index config

/-- A restart keeps the width. -/
theorem restart_withBits (s : Session) (p : PlaceArgument) :
    (s.withBits bits).restart p = (s.restart p).map (withBits bits) := by
  have hsource : (s.withBits bits).scanner.source = s.scanner.source := rfl
  have hconfig :
      (s.withBits bits).scanner.config = { s.scanner.config with intBits := bits } := rfl
  unfold restart
  rw [hsource, hconfig]
  cases p.make with
  | error e => rfl
  | ok place =>
    dsimp only [bind, Except.bind]
    rw [startAt_withBits]
    cases startAt s.scanner.source place s.scanner.config <;> rfl

theorem newAt_withBits (s : Session) (start : PlaceArgument) :
    (s.withBits bits).step (.newAt start) =
      ((s.step (.newAt start)).1, (s.step (.newAt start)).2.withBits bits) := by
  have hrestart := restart_withBits bits s start
  cases hr : s.restart start with
  | error e =>
    rw [hr] at hrestart
    rw [step_newAt_of_error hr, step_newAt_of_error hrestart]
  | ok t =>
    rw [hr] at hrestart
    rw [step_newAt_of_ok hr, step_newAt_of_ok hrestart]

/-- **A step under another width.** A step that does not ask for the width does the same. -/
theorem step_withBits (hs : s.scanner.InBounds) (hst : st.namesWidth = false)
    (hint : st.readsInteger = false) :
    (s.withBits bits).step st = ((s.step st).1, (s.step st).2.withBits bits) := by
  cases st with
  | peek => exact step_of_widthless bits widthless_peek (fun _ => rfl) hs
  | read => exact step_of_widthless bits widthless_read (fun _ => rfl) hs
  | advance => exact step_of_widthless bits widthless_advance (fun _ => rfl) hs
  | skipWhitespace =>
    exact step_of_widthless bits (widthless_advanceWhile isWhitespace) (fun _ => rfl) hs
  | consumeRemaining => exact step_of_widthless bits widthless_consumeRemaining (fun _ => rfl) hs
  | expect atom => exact step_of_widthless bits (widthless_expect atom) (fun _ => rfl) hs
  | nextEquals atom => exact step_of_widthless bits (widthless_nextEquals atom) (fun _ => rfl) hs
  | advanceWhile p =>
    exact step_of_widthless bits (widthless_advanceWhile p.test) (fun _ => rfl) hs
  | advanceUntil p =>
    exact step_of_widthless bits (widthless_advanceWhile fun c => !p.test c) (fun _ => rfl) hs
  | consumeWhile p =>
    exact step_of_widthless bits (widthless_consumeWhile p.test) (fun _ => rfl) hs
  | consumeUntil p =>
    exact step_of_widthless bits (widthless_consumeWhile fun c => !p.test c) (fun _ => rfl) hs
  | peekMatches p => exact step_of_widthless bits (widthless_peekMatches p.test) (fun _ => rfl) hs
  | advanceIfEquals literal options =>
    exact step_of_widthless bits (widthless_advanceIfEquals literal options) (fun _ => rfl) hs
  | parseIntString skip =>
    exact step_of_widthless bits (widthless_parseIntString skip) (fun _ => rfl) hs
  | parseFloatString skip =>
    exact step_of_widthless bits (widthless_parseFloatString skip) (fun _ => rfl) hs
  | peekUnchecked => exact step_of_widthless bits widthless_peekUnchecked (fun _ => rfl) hs
  | advanceUnchecked => exact step_of_widthless bits widthless_advanceUnchecked (fun _ => rfl) hs
  | spanMark name => exact spanMark_withBits bits s name
  | setCompare options => exact setCompare_withBits bits s options
  | newAt start => exact newAt_withBits bits s start
  | isAtEnd | mark | endIndex | source | display | codeUnitOffset | span | setSkip => rfl
  | parseInt => cases hint
  | config | setIntBits => cases hst

/-- `parseInt` moves alike under any width. -/
theorem step_parseInt_withBits (s : Session) (skip : Option Bool) :
    ((s.withBits bits).step (.parseInt skip)).2 = (s.step (.parseInt skip)).2.withBits bits := by
  have hrun := run_parseInt_withBits bits s.scanner skip
  show (s.withBits bits).withScanner ((s.scanner.withBits bits).run (Scanner.parseInt skip)).2 = _
  rw [hrun]
  rfl

end Steps

/-! ## Runs -/

section Runs

variable {s : Session} {steps : List Step}

/-- What every step other than those that show or set the width keeps. -/
theorem next_withBits (bits : Option Int) (hs : s.scanner.InBounds) {st : Step}
    (hst : st.namesWidth = false) :
    ((s.withBits bits).step st).2 = (s.step st).2.withBits bits := by
  cases hint : st.readsInteger with
  | false => rw [step_withBits bits hs hst hint]
  | true =>
    cases st with
    | parseInt skip => exact step_parseInt_withBits bits s skip
    | _ => cases hint

/-- **A run under another width** leads to the same session, but for the width. -/
theorem run_withBits (bits : Option Int) (hs : s.scanner.InBounds)
    (hsteps : ∀ st ∈ steps, st.namesWidth = false) :
    ((s.withBits bits).run steps).2 = (s.run steps).2.withBits bits := by
  induction steps generalizing s with
  | nil => rfl
  | cons st rest ih =>
    have hnext := next_withBits bits hs (hsteps st List.mem_cons_self)
    rw [run_cons, run_cons, hnext]
    exact ih (step_within hs st).inBounds fun st' hmem => hsteps st' (List.mem_cons_of_mem st hmem)

theorem after_withBits (bits : Option Int) (hs : s.scanner.InBounds)
    (hsteps : ∀ st ∈ steps, st.namesWidth = false) (n : Nat) :
    (s.withBits bits).after steps n = (s.after steps n).withBits bits :=
  run_withBits bits hs fun st hmem => hsteps st (List.mem_of_mem_take hmem)

/-- Such a run keeps the width: it is the same run under the width that is set. -/
theorem intBits_after (hs : s.scanner.InBounds) (hsteps : ∀ st ∈ steps, st.namesWidth = false)
    (n : Nat) : (s.after steps n).scanner.config.intBits = s.scanner.config.intBits := by
  have hself : s.withBits s.scanner.config.intBits = s := rfl
  have hafter := after_withBits s.scanner.config.intBits hs hsteps n
  rw [hself] at hafter
  rw [hafter]
  rfl

end Runs

/-- What the reports `r` and `r'` of a step are under two widths. -/
structure ReportWidened (bits bits' : Option Int) (st : Step) (r r' : Report) : Prop where
  cursor : r'.cursor = r.cursor
  atEnd : r'.atEnd = r.atEnd
  same : st.readsInteger = false → r'.result = r.result
  widened : st.readsInteger = true → Widened bits bits' r.result r'.result

theorem widened_parseInt {s : Session} (hvalid : ValidBits s.scanner.config.intBits)
    {bits : Option Int} (hle : NoWider s.scanner.config.intBits bits) (skip : Option Bool) :
    Widened s.scanner.config.intBits bits (s.step (.parseInt skip)).1
      ((s.withBits bits).step (.parseInt skip)).1 := by
  have hwider : ((s.withBits bits).step (.parseInt skip)).1 =
      (convert { s.scanner.config with intBits := bits } (s.scanner.digitsAhead skip)
        (s.scanner.skipped skip).cursor).map Answer.number :=
    congrArg (·.1.map Answer.number) (run_parseInt_withBits bits s.scanner skip)
  rw [step_parseInt, hwider]
  exact (widened_convert hvalid hle _ _).map Answer.number

theorem reportWidened {s : Session} (hs : s.scanner.InBounds)
    (hvalid : ValidBits s.scanner.config.intBits) {bits : Option Int}
    (hle : NoWider s.scanner.config.intBits bits) {st : Step} (hst : st.namesWidth = false) :
    ReportWidened s.scanner.config.intBits bits st (s.report st).1
      ((s.withBits bits).report st).1 := by
  have hnext := next_withBits bits hs hst
  refine ⟨congrArg (·.scanner.cursor) hnext, congrArg (·.scanner.isAtEnd) hnext, fun hint => ?_,
    fun hint => ?_⟩
  · have hstep := step_withBits bits hs hst hint
    show ((s.withBits bits).step st).1 = (s.step st).1
    rw [hstep]
  · cases st with
    | parseInt skip => exact widened_parseInt hvalid hle skip
    | _ => cases hint

/-- **The width decides only which numbers are accepted.** A run, without steps that show or set the
width, and the same run under a width that is no narrower are after each step at the same place,
and but for `parseInt` each step has the same outcome. A number that `parseInt` reads it reads under
the wider width, any outcome but an overflow stays, and an overflow under the wider width is one of
the same digits at the same place under the other one. Only for a width whose range does not fit
into memory may `parseInt` end in `.tooLarge` or `.outOfMemory` instead. -/
theorem run_wider {source : Text} {index : Int} {config : Config} {scanner : Scanner}
    (h : Scanner.startAt source index config = .ok scanner) (hvalid : ValidBits config.intBits)
    {bits : Option Int} (hle : NoWider config.intBits bits) (steps : List Step)
    (hsteps : ∀ st ∈ steps, st.namesWidth = false) :
    ∃ wider, Scanner.startAt source index { config with intBits := bits } = .ok wider ∧
      ((ofScanner wider).run steps).2 = ((ofScanner scanner).run steps).2.withBits bits ∧
        ∀ (i : Nat) (st : Step), steps[i]? = some st →
          ∃ r r', ((ofScanner scanner).run steps).1[i]? = some r ∧
            ((ofScanner wider).run steps).1[i]? = some r' ∧
              ReportWidened config.intBits bits st r r' := by
  have hin : scanner.InBounds := (inBounds_startAt h).2
  have hconfig : scanner.config = config := config_startAt h
  have hstart : Scanner.startAt source index { config with intBits := bits } =
      .ok (scanner.withBits bits) := by
    rw [Scanner.startAt_withBits, h]
    rfl
  have hwider : ofScanner (scanner.withBits bits) = (ofScanner scanner).withBits bits := rfl
  refine ⟨_, hstart, ?_, fun i st hst => ?_⟩
  · rw [hwider]
    exact run_withBits bits hin hsteps
  · have hbits : ((ofScanner scanner).after steps i).scanner.config.intBits = config.intBits := by
      have hkept := intBits_after (s := ofScanner scanner) hin hsteps i
      rw [hkept, ← hconfig]
      rfl
    have hafter : ((ofScanner scanner).after steps i).scanner.InBounds :=
      (within_run (s := ofScanner scanner) hin (steps.take i)).2
    have hreport := reportWidened hafter (hbits.symm ▸ hvalid) (hbits.symm ▸ hle)
      (hsteps st (List.mem_of_getElem? hst))
    rw [hbits] at hreport
    refine ⟨_, _, ?_, ?_, hreport⟩
    · rw [getElem?_run, hst]
      rfl
    · rw [getElem?_run, hst, hwider, after_withBits bits hin hsteps]
      rfl

/-- Over a number that is too large for eight bits and a failure that has moved on. -/
theorem run_wider_overflow :
    let source : Text := ['3', '0', '0', ' ', '7', 'x']
    let config : Config := ⟨true, .literal, some 8⟩
    let scanner : Scanner := ⟨source, 0, config⟩
    let steps : List Step := [.parseInt none, .expect ['!'], .parseInt none]
    Scanner.startAt source 0 config = .ok scanner ∧ ValidBits config.intBits ∧
      NoWider config.intBits (some 16) ∧ (∀ st ∈ steps, st.namesWidth = false) ∧
        ∃ wider r, Scanner.startAt source 0 { config with intBits := some 16 } = .ok wider ∧
          ((ofScanner wider).run steps).1[2]? = some r ∧ r.cursor = 5 ∧
            r.result = .ok (.number 7) := by
  intro source config scanner steps
  have hstart : Scanner.startAt source 0 config = .ok scanner := rfl
  have hvalid : ValidBits config.intBits := by decide
  have hle : NoWider config.intBits (some 16) := by decide
  have hsteps : ∀ st ∈ steps, st.namesWidth = false := by decide
  obtain ⟨wider, hwider, -, hreports⟩ := run_wider hstart hvalid hle steps hsteps
  obtain ⟨r, r', hr, hr', hcursor, -, -, hwidened⟩ := hreports 2 _ rfl
  have hread : (((ofScanner scanner).run steps).1[2]?.map (·.result)) =
      some (.ok (.number 7)) := by decide
  have hplace : (((ofScanner scanner).run steps).1[2]?.map (·.cursor)) = some 5 := by
    decide
  rw [hr] at hread hplace
  have hranged : ¬ Unranged r'.result := (hwidened rfl).ranged' (by decide)
  exact ⟨hstart, hvalid, hle, hsteps, wider, r', hwider, hr',
    hcursor.trans (Option.some.inj hplace), (hwidened rfl).kept hranged _ (Option.some.inj hread)⟩

/-- A number of the default width is not read under a width that is accepted and wider. -/
theorem run_wider_unranged :
    let wide : Config := ⟨true, .literal, some 100000000000000000000⟩
    let scanner : Scanner := ⟨['1'], 0, .default⟩
    let wider : Scanner := ⟨['1'], 0, wide⟩
    Config.ofValues (.bool true) (.exact .literal) (.int 64) = .ok .default ∧
      Config.ofValues (.bool true) (.exact .literal) (.int 100000000000000000000) = .ok wide ∧
        NoWider (some 64) (some 100000000000000000000) ∧
          ((ofScanner scanner).step (.parseInt none)).1 = .ok (.number 1) ∧
            ((ofScanner wider).step (.parseInt none)).1 = .error .tooLarge := by
  intro wide scanner wider
  have hle : NoWider (some 64) (some 100000000000000000000) := by decide
  exact ⟨rfl, rfl, hle, rfl, rfl⟩

end Session

end TextScan
