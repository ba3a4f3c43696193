import TextScan.Proofs.Scanner.Decimal
import TextScan.Proofs.Scanner.Failure

/-!
# Numbers that do not start

A number that is read as text starts behind the white space that is skipped before it. If no digit
is there nothing is read, but white space that was skipped stays skipped: the scanner is left where
the number should have started, and so as it was just if no white space was skipped
(`missingNumber_leaves`).
-/

namespace TextScan.Scanner

variable {s : Scanner} {skip : Option Bool}

theorem advanceBy_eq_self_iff {n : Nat} : s.advanceBy n = s ↔ n = 0 := by
  constructor
  · intro h
    have hcursor : s.cursor + n = s.cursor := congrArg Scanner.cursor h
    omega
  · rintro rfl
    rfl

/-- No white space is skipped if none is to be, or none is there. -/
theorem leading_eq_nil_iff :
    s.leading skip = [] ↔
      skip.getD s.config.skipWhitespace = false ∨ s.nextIs isWhitespace = false := by
  unfold leading
  by_cases hskip : skip.getD s.config.skipWhitespace = true
  · rw [if_pos hskip, Text.takeWhile_eq_nil_iff, hskip]
    simp [nextIs]
  · rw [if_neg hskip]
    exact iff_of_true rfl (.inl (Bool.eq_false_iff.mpr hskip))

theorem skipped_eq_self_iff :
    s.skipped skip = s ↔
      skip.getD s.config.skipWhitespace = false ∨ s.nextIs isWhitespace = false := by
  rw [skipped_eq, advanceBy_eq_self_iff, List.length_eq_zero_iff, leading_eq_nil_iff]

theorem run_parseIntString_of_noDigit (h : NoDigit (s.skipped skip).ahead) :
    s.run (parseIntString skip) =
      (.error (.scan (.missing "integer" (s.skipped skip).ahead.head? (s.skipped skip).cursor)),
        s.skipped skip) := by
  have hnext : (s.skipped skip).nextIs isDigit = false := h
  rw [run_parseIntString, hnext, if_neg Bool.false_ne_true]

theorem noDigit_of_parseIntString_error {e : Fault} {t : Scanner}
    (h : s.run (parseIntString skip) = (.error e, t)) : NoDigit (s.skipped skip).ahead := by
  by_cases hnext : (s.skipped skip).nextIs isDigit = true
  · rw [run_parseIntString, if_pos hnext] at h
    cases h
  · exact Bool.eq_false_iff.mpr hnext

/-- A digit that is missing behind a point is reported there, not where the number starts. -/
theorem noDigit_of_parseFloatString_error {e : ScanError} {t : Scanner}
    (h : s.run (parseFloatString skip) = (.error (.scan e), t))
    (hposition : e.position = some (s.skipped skip).cursor) : NoDigit (s.skipped skip).ahead := by
  generalize hr : (s.skipped skip).ahead = r
  cases lead r with
  | none hnone => exact hnone
  | whole hds hrest hpoint =>
    rw [run_parseFloatString_of_whole hds hrest hpoint hr] at h
    cases h
  | @stopped ds rest hds hrest =>
    rw [run_parseFloatString_of_stopped hds hrest hr] at h
    cases h
    rw [(missing_eq _ _ _).1, Option.some.injEq] at hposition
    omega
  | fraction hds hfs hrest =>
    rw [run_parseFloatString_of_fraction hds hfs hrest hr] at h
    cases h

/-- **A number that does not start** leaves the scanner where it should have started. An integer
fails just if no digit is there, a decimal number fails there just then, and what they say and leave
is the same. The scanner is as it was just if white space is not skipped or none is ahead. -/
theorem missingNumber_leaves (s : Scanner) (skip : Option Bool) :
    let start := s.skipped skip
    let missing (what : String) : ScanError := .missing what start.ahead.head? start.cursor
    (∀ e t, s.run (parseIntString skip) = (.error e, t) ↔
        NoDigit start.ahead ∧ e = .scan (missing "integer") ∧ t = start) ∧
      (∀ e t, s.run (parseFloatString skip) = (.error (.scan e), t) ∧
          e.position = some start.cursor ↔
        NoDigit start.ahead ∧ e = missing "float" ∧ t = start) ∧
      start = s.advanceBy (s.leading skip).length ∧
      (start = s ↔ skip.getD s.config.skipWhitespace = false ∨ s.nextIs isWhitespace = false) := by
  intro start missing
  refine ⟨fun e t => ⟨fun h => ?_, ?_⟩, fun e t => ⟨?_, ?_⟩, skipped_eq s skip,
    skipped_eq_self_iff⟩
  · have hnone := noDigit_of_parseIntString_error h
    rw [run_parseIntString_of_noDigit hnone] at h
    cases h
    exact ⟨hnone, rfl, rfl⟩
  · rintro ⟨hnone, rfl, rfl⟩
    exact run_parseIntString_of_noDigit hnone
  · rintro ⟨h, hposition⟩
    have hnone := noDigit_of_parseFloatString_error h hposition
    rw [run_parseFloatString_of_noDigit hnone] at h
    cases h
    exact ⟨hnone, rfl, rfl⟩
  · rintro ⟨hnone, rfl, rfl⟩
    exact ⟨run_parseFloatString_of_noDigit hnone, (missing_eq _ _ _).1⟩

/-- White space in front of a letter, or of the end, is passed although no number follows. -/
theorem missingNumber_leaves_moved :
    let s : Scanner := ⟨[' ', 'x'], 0, .default⟩
    let t : Scanner := ⟨[' '], 0, { Config.default with skipWhitespace := false }⟩
    s.run (parseIntString none) =
        (.error (.scan (.missing "integer" (some 'x') 1)), s.advanceBy 1) ∧
      s.run (parseFloatString none) =
        (.error (.scan (.missing "float" (some 'x') 1)), s.advanceBy 1) ∧
      t.run (parseIntString (some true)) =
        (.error (.scan (.missing "integer" none 1)), t.advanceBy 1) ∧
      (s.advanceBy 1).cursor ≠ s.cursor ∧ (t.advanceBy 1).cursor ≠ t.cursor := by
  refine ⟨rfl, rfl, rfl, by decide, by decide⟩

end TextScan.Scanner
