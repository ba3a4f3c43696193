import TextScan.Proofs.Scanner.Run

/-!
# How steps fail

`Failure` lists the ways in which a step can fail: at the end of the input, at a character that is
not the required one, at a missing digit, at digits that are not converted, and by what the caller
has passed or set. There are no others (`failure_of_step`), and from the list follows that what an
error says about the text is so (`run_error_faithful`).
-/

namespace TextScan

/-! ## Kinds of steps -/

/-- Whether a step needs a character ahead. -/
def Step.needsCharacter : Step → Bool
  | .peek | .read | .advance | .expect _ => true
  | _ => false

/-- Whether a step reads a number and answers it as text. -/
def Step.readsNumeral : Step → Bool
  | .parseIntString _ | .parseFloatString _ => true
  | _ => false

/-- Whether a step is a checked operation of the scanner, with options that need not be read. -/
def Step.isSafe : Step → Bool
  | .peekUnchecked | .advanceUnchecked => false
  | .advanceIfEquals _ (some (.value _)) => false
  | st => st.isOperation

def Fault.isScan : Fault → Bool
  | .scan _ => true
  | _ => false

theorem Fault.isScan_of_isCaller {e : Fault} (h : e.isCaller = true) : e.isScan = false := by
  cases e <;> first | rfl | cases h

theorem isDigit_iff {c : Char} : isDigit c = true ↔ c.isDigit = true := by
  simp only [isDigit, Bool.and_eq_true, Nat.ble_eq, Char.isDigit, decide_eq_true_eq, ge_iff_le,
    UInt32.le_iff_toNat_le]
  exact Iff.rfl

/-- What an error of scanning that a step ends in says about the source, for the cursor before
the step and the cursor after it. -/
def ScanError.IsFaithful (source : Text) (st : Step) (before after : Nat) (e : ScanError) : Prop :=
  ∃ p, e.position = some p ∧ before ≤ p ∧ p ≤ after ∧ after ≤ source.length ∧
    match e.cause with
    | .general => False
    | .endOfInput =>
      st.needsCharacter = true ∧ before = source.length ∧ p = before ∧ after = before
    | .unexpectedCharacter _ actual =>
      (actual = none ↔ p = source.length) ∧ (∀ c, source[p]? = some c → actual = some [c]) ∧
        ((∃ atom, st = .expect atom) ∧ after = p + 1 ∨ st.readsNumeral = true ∧ after = p)
    | .invalidNumber raw =>
      (∃ skip, st = .parseInt skip) ∧ raw = source.extract p after ∧
        (∀ c ∈ raw, c.isDigit = true) ∧ ∀ c, source[after]? = some c → c.isDigit = false

namespace Scanner

/-- The digits that an integer is read from. -/
def digitsAhead (s : Scanner) (skip : Option Bool) : Text :=
  (s.skipped skip).ahead.takeWhile isDigit

/-- The ways in which a step fails: its fault, and the cursor that it leaves. -/
inductive Failure (s : Scanner) : Step → Fault → Nat → Prop where
  | endOfInput {st : Step} (hst : st.needsCharacter = true) (hend : s.cursor = s.endIndex) :
      Failure s st (.scan (.endOfInput s.cursor)) s.cursor
  /-- The character is passed all the same. -/
  | mismatch {atom : Text} {c : Char} (hc : s.source[s.cursor]? = some c) :
      Failure s (.expect atom) (.scan (.mismatch atom c s.cursor)) (s.cursor + 1)
  /-- The cursor stays where the digit is missing. -/
  | missing {st : Step} {what : String} {p : Nat} (hst : st.readsNumeral = true)
      (hle : s.cursor ≤ p) (hp : p ≤ s.endIndex) :
      Failure s st (.scan (.missing what s.source[p]? p)) p
  /-- The digits are passed all the same. -/
  | unconverted {skip : Option Bool} {e : Fault}
      (he : convert s.config (s.digitsAhead skip) (s.skipped skip).cursor = .error e) :
      Failure s (.parseInt skip) e ((s.skipped skip).cursor + (s.digitsAhead skip).length)
  | caller {st : Step} {e : Fault} {p : Nat} (hst : st.isSafe = false) (he : e.isScan = false) :
      Failure s st e p

/-! ## Operations -/

/-- In bounds `m` fails in one of the ways of the step. -/
def Fails {α : Type} (m : Scan α) (st : Step) : Prop :=
  ∀ s : Scanner, s.InBounds → ∀ e t, s.run m = (.error e, t) → Failure s st e t.cursor

section Operations

variable {α : Type} {m : Scan α} {st : Step}

theorem failure_endOfInput {s : Scanner} (hs : s.InBounds) (hst : st.needsCharacter = true)
    (h : s.ahead = []) : Failure s st (.scan (.endOfInput s.cursor)) s.cursor := by
  refine .endOfInput hst ?_
  have hlen := s.length_ahead
  rw [h, List.length_nil] at hlen
  unfold InBounds at hs
  omega

/-- A digit is missing where a scanner further on stands. -/
theorem failure_missing {s t : Scanner} {what : String} (hst : st.readsNumeral = true)
    (hsource : t.source = s.source) (hle : s.cursor ≤ t.cursor) (ht : t.InBounds) :
    Failure s st (.scan (.missing what t.ahead.head? t.cursor)) t.cursor := by
  rw [ahead, List.head?_drop, hsource]
  refine .missing hst hle ?_
  unfold InBounds endIndex at ht
  rwa [hsource] at ht

theorem fails_of_ok (st : Step) (h : ∀ s : Scanner, s.InBounds → ∃ a t, s.run m = (.ok a, t)) :
    Fails m st := by
  intro s hs e t he
  obtain ⟨a, u, hok⟩ := h s hs
  rw [hok] at he
  cases he

/-- A step that needs a character fails at the end, and elsewhere as it does with the character. -/
theorem fails_of_needsCharacter (hst : st.needsCharacter = true)
    (hend : ∀ s : Scanner, s.ahead = [] → s.run m = (.error (.scan (.endOfInput s.cursor)), s))
    (hnext : ∀ (s : Scanner) c rest, s.ahead = c :: rest →
      ∀ e t, s.run m = (.error e, t) → Failure s st e t.cursor) :
    Fails m st := by
  intro s hs e t he
  cases h : s.ahead with
  | nil =>
    rw [hend s h] at he
    cases he
    exact failure_endOfInput hs hst h
  | cons c rest => exact hnext s c rest h e t he

theorem fails_peek : Fails peek .peek := by
  refine fails_of_needsCharacter rfl (fun s h => by rw [run_peek, h]) fun s c rest h e t he => ?_
  rw [run_peek, h] at he
  cases he

theorem fails_advance : Fails advance .advance := by
  refine fails_of_needsCharacter rfl (fun s h => by rw [run_advance, h])
    fun s c rest h e t he => ?_
  rw [run_advance, h] at he
  cases he

theorem fails_read : Fails read .read := by
  refine fails_of_needsCharacter rfl (fun s h => by rw [run_read, h]) fun s c rest h e t he => ?_
  rw [run_read, h] at he
  cases he

theorem fails_expect (atom : Text) : Fails (expect atom) (.expect atom) := by
  refine fails_of_needsCharacter rfl (fun s h => by rw [run_expect, h])
    fun s c rest h e t he => ?_
  rw [run_expect, h] at he
  dsimp only at he
  split at he <;> cases he
  exact .mismatch (getElem?_cursor h)

theorem fails_advanceWhile (p : Char → Bool) (st : Step) : Fails (advanceWhile p) st :=
  fails_of_ok st fun s _ => ⟨_, _, run_advanceWhile s p⟩

theorem fails_consumeWhile (p : Char → Bool) (st : Step) : Fails (consumeWhile p) st :=
  fails_of_ok st fun s _ => ⟨_, _, run_consumeWhile s p⟩

theorem fails_consumeRemaining (st : Step) : Fails consumeRemaining st :=
  fails_of_ok st fun s hs => ⟨_, _, run_consumeRemaining s hs⟩

theorem fails_peekMatches (p : Char → Bool) (st : Step) : Fails (peekMatches p) st :=
  fails_of_ok st fun s _ => ⟨_, _, run_peekMatches s p⟩

theorem fails_nextEquals (atom : Text) (st : Step) : Fails (nextEquals atom) st :=
  fails_of_ok st fun s _ => ⟨_, _, run_nextEquals s atom⟩

/-- Only options that have to be read can be at fault. -/
theorem fails_advanceIfEquals (literal : Text) (options : Option OptionsArgument) :
    Fails (advanceIfEquals literal options) (.advanceIfEquals literal options) := by
  intro s hs e t he
  rw [run_advanceIfEquals s hs] at he
  cases ho : chosenOptions s.config options with
  | ok o =>
    rw [ho] at he
    dsimp only at he
    split at he <;> cases he
  | error e' =>
    rw [ho] at he
    cases he
    refine .caller ?_ (Fault.isScan_of_isCaller (isCaller_of_chosenOptions ho))
    rcases options with _ | _ | v
    · cases ho
    · cases ho
    · rfl

theorem fails_parseInt (skip : Option Bool) : Fails (parseInt skip) (.parseInt skip) := by
  intro s hs e t he
  rw [run_parseInt] at he
  obtain ⟨hconvert, rfl⟩ := Prod.mk.inj he
  exact .unconverted hconvert

theorem fails_parseIntString (skip : Option Bool) :
    Fails (parseIntString skip) (.parseIntString skip) := by
  intro s hs e t he
  rw [run_parseIntString] at he
  split at he <;> cases he
  exact failure_missing rfl (source_skipped s skip) (cursor_le_skipped s skip)
    (inBounds_skipped hs skip)

/-- Behind a point the digit is missing where the scanner is left. -/
theorem error_of_advanceFraction {s t : Scanner} (hs : s.InBounds) {e : Fault}
    (h : s.run advanceFraction = (.error e, t)) :
    e = .scan (.missing "float" t.ahead.head? t.cursor) ∧ t.source = s.source ∧
      s.cursor ≤ t.cursor ∧ t.InBounds := by
  obtain ⟨n, hn, hmove⟩ := forward_advanceFraction.moves s hs
  have ht : t = s.advanceBy n := by rw [← hmove, h]
  refine ⟨?_, by rw [ht, source_advanceBy], ?_, ht ▸ inBounds_advanceBy hs hn⟩
  · rw [run_advanceFraction] at h
    split at h
    · split at h <;> cases h
      rfl
    · cases h
  · rw [ht, cursor_advanceBy]
    exact Nat.le_add_right _ n

/-- The digit is missing at the start, or behind the point. -/
theorem fails_parseFloatString (skip : Option Bool) :
    Fails (parseFloatString skip) (.parseFloatString skip) := by
  intro s hs e t he
  have hskipped := inBounds_skipped hs skip
  have hsource := source_skipped s skip
  have hle := cursor_le_skipped s skip
  rw [run_parseFloatString] at he
  split at he
  · have hdigits := inBounds_advanceBy hskipped (Text.length_takeWhile_le isDigit _)
    generalize hf : Scanner.run _ advanceFraction = out at he
    obtain ⟨r | r, u⟩ := out
    · cases he
      obtain ⟨rfl, hsource', hle', hin⟩ := error_of_advanceFraction hdigits hf
      rw [source_advanceBy, hsource] at hsource'
      rw [cursor_advanceBy] at hle'
      exact failure_missing rfl hsource' (by omega) hin
    · cases he
  · cases he
    exact failure_missing rfl hsource hle hskipped

end Operations

/-! ## What an error says about the text -/

/-- The error at a missing digit shows the character there, if there is one. -/
theorem missing_eq (what : String) (actual : Option Char) (p : Nat) :
    (ScanError.missing what actual p).position = some p ∧
      (ScanError.missing what actual p).cause =
        .unexpectedCharacter what (actual.map fun c => [c]) := by
  cases actual <;> exact ⟨rfl, rfl⟩

theorem intRange_of_accepts {c : Config} {n : Nat} {e : Fault} (h : accepts c n = .error e) :
    c.intRange = .error e := by
  unfold accepts at h
  cases hr : c.intRange with
  | error e' =>
    rw [hr] at h
    cases h
    rfl
  | ok r =>
    rw [hr] at h
    cases h

/-- Digits are no number that is accepted, or they are not converted for another reason. -/
theorem error_of_convert {c : Config} {digits : Text} {start : Nat} {e : Fault}
    (h : convert c digits start = .error e) :
    (∃ err : ScanError, e = .scan err ∧ err.cause = .invalidNumber digits ∧
        err.position = some start) ∨
      digits ≠ [] ∧
        (Integer.maxDigits < digits.length ∧ e = .invalid (.tooManyDigits digits.length) ∨
          digits.length ≤ Integer.maxDigits ∧ c.intRange = .error e) := by
  unfold convert at h
  split at h
  · rename_i hempty
    cases h
    rw [List.isEmpty_iff.mp hempty]
    exact .inl ⟨_, rfl, rfl, rfl⟩
  · rename_i hempty
    rw [List.isEmpty_iff] at hempty
    split at h
    · rename_i hmany
      cases h
      exact .inr ⟨hempty, .inl ⟨hmany, rfl⟩⟩
    · rename_i hfew
      split at h
      · rename_i e' he
        cases h
        exact .inr ⟨hempty, .inr ⟨Nat.not_lt.mp hfew, intRange_of_accepts he⟩⟩
      · cases h
      · cases h
        exact .inl ⟨_, rfl, rfl, rfl⟩

theorem cause_of_convert {c : Config} {digits : Text} {start : Nat} {e : ScanError}
    (h : convert c digits start = .error (.scan e)) :
    e.cause = .invalidNumber digits ∧ e.position = some start := by
  obtain ⟨err, herr, hreport⟩ | ⟨-, ⟨-, he⟩ | ⟨-, he⟩⟩ := error_of_convert h
  · cases herr
    exact hreport
  · cases he
  · exact Bool.noConfusion (isCaller_of_intRange he)

/-- The digits that an integer is read from are all that follow the white space. -/
theorem digitsAhead_maximal (s : Scanner) (skip : Option Bool) :
    let p := (s.skipped skip).cursor
    let after := p + (s.digitsAhead skip).length
    s.digitsAhead skip = s.source.extract p after ∧
      (∀ c ∈ s.digitsAhead skip, c.isDigit = true) ∧
      ∀ c, s.source[after]? = some c → c.isDigit = false := by
  intro p after
  refine ⟨?_, fun c hc => isDigit_iff.mp (Text.eq_true_of_mem_takeWhile hc), fun c hc => ?_⟩
  · have hslice := slice_advanceBy (s.skipped skip) (s.digitsAhead skip).length
    rw [slice, source_skipped, digitsAhead, Text.take_length_takeWhile] at hslice
    exact hslice.symm
  · have hnext : (s.skipped skip).ahead[(s.digitsAhead skip).length]? = some c := by
      rw [ahead, List.getElem?_drop, source_skipped]
      exact hc
    rw [Bool.eq_false_iff, ne_eq, ← isDigit_iff]
    exact Bool.eq_false_iff.mp (Text.eq_false_after_takeWhile hnext)

theorem isFaithful_of_failure {s : Scanner} (hs : s.InBounds) {st : Step} {e : ScanError}
    {after : Nat} (h : Failure s st (.scan e) after) :
    e.IsFaithful s.source st s.cursor after := by
  cases h with
  | endOfInput hst hend =>
    exact ⟨s.cursor, rfl, Nat.le_refl _, Nat.le_refl _, hs, hst, hend, rfl, rfl⟩
  | @mismatch atom c hc =>
    have hlt : s.cursor < s.source.length := (List.getElem?_eq_some_iff.mp hc).1
    refine ⟨s.cursor, rfl, Nat.le_refl _, Nat.le_succ _, hlt, ?_, ?_, .inl ⟨⟨atom, rfl⟩, rfl⟩⟩
    · exact ⟨nofun, fun hend => by omega⟩
    · intro d hd
      rw [hc] at hd
      cases hd
      rfl
  | @missing _ what _ hst hle hp =>
    obtain ⟨hposition, hcause⟩ := missing_eq what s.source[after]? after
    refine ⟨after, hposition, hle, Nat.le_refl _, hp, ?_⟩
    rw [hcause]
    refine ⟨?_, fun c hc => by rw [hc]; rfl, .inr ⟨hst, rfl⟩⟩
    rw [Option.map_eq_none_iff, List.getElem?_eq_none_iff]
    exact ⟨fun hge => Nat.le_antisymm hp hge, fun heq => Nat.le_of_eq heq.symm⟩
  | @unconverted skip _ he =>
    obtain ⟨hcause, hposition⟩ := cause_of_convert he
    have hin := inBounds_advanceBy (inBounds_skipped hs skip)
      (Text.length_takeWhile_le isDigit (s.skipped skip).ahead)
    rw [InBounds, endIndex_advanceBy, endIndex, source_skipped] at hin
    refine ⟨_, hposition, cursor_le_skipped s skip, Nat.le_add_right _ _, hin, ?_⟩
    rw [hcause]
    exact ⟨⟨skip, rfl⟩, digitsAhead_maximal s skip⟩
  | caller hst he => cases he

end Scanner

namespace Session

open Scanner

/-! ## Steps -/

theorem failure_of_perform {s : Session} {st : Step} {α : Type} {m : Scan α} {answer : α → Answer}
    (hm : Fails m st) (hst : s.step st = s.perform answer m) (hs : s.scanner.InBounds) {e : Fault}
    (h : (s.step st).1 = .error e) : Failure s.scanner st e (s.step st).2.scanner.cursor := by
  rw [hst] at h ⊢
  exact hm s.scanner hs e _ (Prod.ext (error_of_perform h) rfl)

/-- The unchecked steps fail by going past the end. -/
theorem isScan_of_isUnchecked {s : Session} {st : Step} (hst : st.isUnchecked = true) {e : Fault}
    (h : (s.step st).1 = .error e) : e.isScan = false := by
  cases st with
  | peekUnchecked =>
    refine Fault.of_map (fun e he => ?_) h
    unfold peekUnchecked at he
    rw [run_get_bind] at he
    split at he <;> cases he
    rfl
  | advanceUnchecked =>
    refine Fault.of_map (fun e he => ?_) h
    unfold advanceUnchecked at he
    rw [run_get_bind, run_ite] at he
    split at he <;> cases he
    rfl
  | _ => cases hst

/-- **There are no other failures.** -/
theorem failure_of_step {s : Session} (hs : s.scanner.InBounds) {st : Step} {e : Fault}
    (h : (s.step st).1 = .error e) : Failure s.scanner st e (s.step st).2.scanner.cursor := by
  cases st with
  | peek => exact failure_of_perform fails_peek rfl hs h
  | read => exact failure_of_perform fails_read rfl hs h
  | advance => exact failure_of_perform fails_advance rfl hs h
  | expect atom => exact failure_of_perform (fails_expect atom) rfl hs h
  | skipWhitespace => exact failure_of_perform (fails_advanceWhile isWhitespace _) rfl hs h
  | advanceWhile p => exact failure_of_perform (fails_advanceWhile p.test _) rfl hs h
  | advanceUntil p => exact failure_of_perform (fails_advanceWhile _ _) rfl hs h
  | consumeWhile p => exact failure_of_perform (fails_consumeWhile p.test _) rfl hs h
  | consumeUntil p => exact failure_of_perform (fails_consumeWhile _ _) rfl hs h
  | consumeRemaining => exact failure_of_perform (fails_consumeRemaining _) rfl hs h
  | peekMatches p => exact failure_of_perform (fails_peekMatches p.test _) rfl hs h
  | nextEquals atom => exact failure_of_perform (fails_nextEquals atom _) rfl hs h
  | advanceIfEquals literal options =>
    exact failure_of_perform (fails_advanceIfEquals literal options) rfl hs h
  | parseInt skip => exact failure_of_perform (fails_parseInt skip) rfl hs h
  | parseIntString skip => exact failure_of_perform (fails_parseIntString skip) rfl hs h
  | parseFloatString skip => exact failure_of_perform (fails_parseFloatString skip) rfl hs h
  | peekUnchecked | advanceUnchecked => exact .caller rfl (isScan_of_isUnchecked rfl h)
  | _ => exact .caller rfl (Fault.isScan_of_isCaller (isCaller_of_step rfl h))

theorem step_needsCharacter_at_end {s : Session} {st : Step} (hst : st.needsCharacter = true)
    (hend : s.scanner.ahead = []) :
    (s.step st).1 = .error (.scan (.endOfInput s.scanner.cursor)) := by
  cases st with
  | peek => simp only [step, perform, run_peek, hend]; rfl
  | read => simp only [step, perform, run_read, hend]; rfl
  | advance => simp only [step, perform, run_advance, hend]; rfl
  | expect atom => simp only [step, perform, run_expect, hend]; rfl
  | _ => cases hst

/-- **What an error says is so.** In every session that a run leads to, an error of scanning has a
position that the step has passed through, and what it reports is what the source has there. The
end of the input is reported by the steps that need a character, and exactly at the end. -/
theorem run_error_faithful {source : Text} {index : Int} {config : Config} {scanner : Scanner}
    (h : Scanner.startAt source index config = .ok scanner) (steps : List Step) (st : Step) :
    let t := ((ofScanner scanner).run steps).2
    (∀ e, (t.step st).1 = .error (.scan e) →
        e.IsFaithful source st t.scanner.cursor (t.step st).2.scanner.cursor) ∧
      ((∃ e, (t.step st).1 = .error (.scan e) ∧ e.cause = .endOfInput) ↔
        st.needsCharacter = true ∧ t.scanner.cursor = source.length) := by
  intro t
  obtain ⟨hstart, hin⟩ : scanner.source = source ∧ scanner.InBounds := inBounds_startAt h
  obtain ⟨hsource, hin⟩ : t.scanner.source = scanner.source ∧ t.scanner.InBounds :=
    within_run (s := ofScanner scanner) hin steps
  rw [hstart] at hsource
  have hfaithful (e : ScanError) (he : (t.step st).1 = .error (.scan e)) :
      e.IsFaithful source st t.scanner.cursor (t.step st).2.scanner.cursor := by
    rw [← hsource]
    exact isFaithful_of_failure hin (failure_of_step hin he)
  refine ⟨hfaithful, ?_, ?_⟩
  · rintro ⟨e, he, hcause⟩
    obtain ⟨p, -, -, -, -, hreport⟩ := hfaithful e he
    rw [hcause] at hreport
    exact ⟨hreport.1, hreport.2.1⟩
  · rintro ⟨hst, hend⟩
    refine ⟨_, step_needsCharacter_at_end hst ?_, rfl⟩
    rw [ahead, List.drop_eq_nil_iff, hsource]
    exact Nat.le_of_eq hend.symm

/-- A point that no digit follows, at the end of the source and past the cursor of the step. -/
theorem run_error_faithful_point :
    let source : Text := ['x', ' ', '7', '.']
    let scanner : Scanner := ⟨source, 0, .default⟩
    let t := ((ofScanner scanner).run [.expect ['y']]).2
    Scanner.startAt source 0 .default = .ok scanner ∧
      (t.step (.parseFloatString none)).1 = .error (.scan (.missing "float" none 4)) ∧
        (ScanError.missing "float" none 4).IsFaithful source (.parseFloatString none) 1 4 := by
  intro source scanner t
  have hstart : Scanner.startAt source 0 .default = .ok scanner := rfl
  have hfails :
      (t.step (.parseFloatString none)).1 = .error (.scan (.missing "float" none 4)) := rfl
  exact ⟨hstart, hfails, (run_error_faithful hstart [.expect ['y']] _).1 _ hfails⟩

end Session

end TextScan
