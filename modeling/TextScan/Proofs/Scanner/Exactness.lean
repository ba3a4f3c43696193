import Mathlib.Data.Nat.Digits.Defs
import TextScan.Proofs.Config.Table

/-!
# Integers exactly

`parseInt` and `parseIntString` read the same digits and leave the scanner past them, whatever
comes of the digits. Each outcome of `parseInt` has a condition of its own on the digits and the
width that is set (`parseInt_exact`): the number that is answered is the one that the digits denote
in base ten, and up to `Config.maxWidthInMemory` bits it is answered exactly if it is in the width.
-/

namespace TextScan

/-! ## The number that digits denote -/

namespace Integer

/-- The number that a run of ASCII digits denotes in base ten, the highest digit in front. -/
def denoted (digits : Text) : Nat :=
  Nat.ofDigits 10 (digits.reverse.map fun c => c.toNat - 0x30)

/-- Taking in one digit after the other evaluates the digits at their places. -/
theorem ofDigits_eq_reverse (digits : List Nat) :
    ofDigits digits = Nat.ofDigits 10 digits.reverse := by
  rw [Nat.ofDigits_eq_foldr, List.foldr_reverse, ofDigits]
  congr 1
  funext n d
  rw [Nat.cast_id, Nat.add_comm]

theorem ofAsciiDigits_eq_denoted (digits : Text) : ofAsciiDigits digits = denoted digits := by
  rw [ofAsciiDigits, ofDigits_eq_reverse, denoted, List.map_reverse]

end Integer

/-! ## Widths -/

namespace Config

/-- A number is among the signed numbers of a width. -/
def InWidth : Option Int → Nat → Prop
  | none, _ => True
  | some w, n => n < Nat.pow 2 (w.toNat - 1)

/-- The ends of the range of a width fit into memory. -/
def HasRange : Option Int → Prop
  | none => True
  | some w => w ≤ maxWidthInMemory

/-- A width takes no more bits than another; without a bound it takes the most. -/
def NoWider : Option Int → Option Int → Prop
  | _, none => True
  | none, some _ => False
  | some a, some b => a ≤ b

/-- The signed numbers of a width are among those of a wider one. -/
theorem InWidth.mono {a b : Option Int} {n : Nat} (h : InWidth a n) (hle : NoWider a b) :
    InWidth b n := by
  cases b with
  | none => trivial
  | some b =>
    cases a with
    | none => exact absurd hle id
    | some a =>
      have hexponent : a.toNat - 1 ≤ b.toNat - 1 := by
        have : a ≤ b := hle
        omega
      exact Nat.lt_of_lt_of_le h (Nat.pow_le_pow_right (by decide) hexponent)

instance (bits : Option Int) : Decidable (ValidBits bits) :=
  match bits with
  | none => isTrue nofun
  | some w => decidable_of_iff (2 ≤ w) ⟨fun h _ hv => Option.some.inj hv ▸ h, fun h => h w rfl⟩

instance (a b : Option Int) : Decidable (NoWider a b) :=
  match a, b with
  | _, none => isTrue trivial
  | none, some _ => isFalse id
  | some a, some b => inferInstanceAs (Decidable (a ≤ b))

instance (bits : Option Int) (n : Nat) : Decidable (InWidth bits n) :=
  match bits with
  | none => isTrue trivial
  | some w => inferInstanceAs (Decidable (n < Nat.pow 2 (w.toNat - 1)))

instance (bits : Option Int) : Decidable (HasRange bits) :=
  match bits with
  | none => isTrue trivial
  | some w => inferInstanceAs (Decidable (w ≤ maxWidthInMemory))

theorem contains_natCast (r : IntRange) (n : Nat) : r.contains n = true ↔ n < r.limit := by
  rw [IntRange.contains_iff]
  simp only [IntRange.start, IntRange.stop, Int.ofNat_eq_natCast]
  omega

variable {c : Config}

theorem intRange_of_hasRange (hvalid : ValidBits c.intBits) (h : HasRange c.intBits) :
    c.intRange = .ok (c.intBits.map fun w => ⟨w.toNat⟩) := by
  unfold intRange
  cases hbits : c.intBits with
  | none => rfl
  | some w =>
    rw [hbits] at h
    have hle : w ≤ maxWidthInMemory := h
    have hmax : maxWidthInMemory < maxWidth := by decide
    have htwo : 2 ≤ w := hvalid w hbits
    dsimp only
    rw [if_neg (by omega), if_neg (by omega), if_neg (by omega)]
    rfl

theorem intRange_of_not_hasRange (hvalid : ValidBits c.intBits) (h : ¬ HasRange c.intBits) :
    c.intRange = .error .tooLarge ∨ c.intRange = .error .outOfMemory := by
  unfold intRange
  cases hbits : c.intBits with
  | none =>
    rw [hbits] at h
    exact absurd trivial h
  | some w =>
    rw [hbits] at h
    have hlt : maxWidthInMemory < w := Int.not_le.mp h
    have htwo : 2 ≤ w := hvalid w hbits
    dsimp only
    rw [if_neg (by omega)]
    by_cases hwide : maxWidth < w
    · rw [if_pos hwide]
      exact .inl rfl
    · rw [if_neg hwide, if_pos hlt]
      exact .inr rfl

end Config

namespace Scanner

open Config Integer

/-! ## Conversion -/

/-- The range of the width could not be computed. -/
def Unranged {α : Type} (r : Except Fault α) : Prop :=
  r = .error .tooLarge ∨ r = .error .outOfMemory

theorem not_unranged_ok {α : Type} (a : α) : ¬ Unranged (.ok a) := by
  simp [Unranged]

theorem not_unranged_scan {α : Type} (e : ScanError) :
    ¬ Unranged (.error (.scan e) : Except Fault α) := by
  simp [Unranged]

theorem not_unranged_invalid {α : Type} (v : InvalidValue) :
    ¬ Unranged (.error (.invalid v) : Except Fault α) := by
  simp [Unranged]

/-- The outcomes of a conversion, each with its condition on the digits and the width. -/
inductive Converted (c : Config) (digits : Text) (start : Nat) : Except Fault Nat → Prop where
  | noNumber (hnone : digits = []) : Converted c digits start (.error (.scan (.noNumber start)))
  | tooMany (hmany : maxDigits < digits.length) :
      Converted c digits start (.error (.invalid (.tooManyDigits digits.length)))
  | unranged {r : Except Fault Nat} (hne : digits ≠ []) (hfew : digits.length ≤ maxDigits)
      (hrange : ¬ HasRange c.intBits) (hr : Unranged r) : Converted c digits start r
  | number (hne : digits ≠ []) (hfew : digits.length ≤ maxDigits) (hrange : HasRange c.intBits)
      (hin : InWidth c.intBits (denoted digits)) :
      Converted c digits start (.ok (denoted digits))
  | overflow {w : Int} (hne : digits ≠ []) (hfew : digits.length ≤ maxDigits)
      (hrange : HasRange c.intBits) (hw : c.intBits = some w)
      (hout : ¬ InWidth c.intBits (denoted digits)) :
      Converted c digits start (.error (.scan (.overflow digits w start)))

section Convert

variable {c : Config} {digits : Text}

theorem accepts_of_hasRange (hvalid : ValidBits c.intBits) (h : HasRange c.intBits) (n : Nat) :
    accepts c n = .ok (decide (InWidth c.intBits n)) := by
  unfold accepts
  rw [intRange_of_hasRange hvalid h]
  cases c.intBits with
  | none => rfl
  | some w => exact congrArg Except.ok (Bool.eq_iff_iff.mpr (by
      rw [decide_eq_true_eq]
      exact contains_natCast ⟨w.toNat⟩ n))

/-- Digits that are neither none nor too many are converted if their number is accepted. -/
theorem convert_of_accepts (hne : digits ≠ []) (hfew : digits.length ≤ maxDigits) (start : Nat) :
    convert c digits start =
      (accepts c (denoted digits)).bind fun accepted =>
        if accepted then .ok (denoted digits)
        else .error (.scan (.overflow digits (c.intBits.getD 0) start)) := by
  have hempty : digits.isEmpty = false := List.isEmpty_eq_false_iff.mpr hne
  unfold convert
  rw [hempty, if_neg Bool.false_ne_true, if_neg (Nat.not_lt.mpr hfew), ofAsciiDigits_eq_denoted]
  cases accepts c (denoted digits) with
  | error e => rfl
  | ok accepted => cases accepted <;> rfl

section Range

variable (hvalid : ValidBits c.intBits) (hne : digits ≠ []) (hfew : digits.length ≤ maxDigits)
include hvalid hne hfew

theorem convert_of_inWidth (hrange : HasRange c.intBits) (h : InWidth c.intBits (denoted digits))
    (start : Nat) : convert c digits start = .ok (denoted digits) := by
  rw [convert_of_accepts hne hfew, accepts_of_hasRange hvalid hrange, decide_eq_true h]
  rfl

theorem convert_of_not_inWidth (hrange : HasRange c.intBits)
    (h : ¬ InWidth c.intBits (denoted digits)) (start : Nat) :
    ∃ w, c.intBits = some w ∧
      convert c digits start = .error (.scan (.overflow digits w start)) := by
  rw [convert_of_accepts hne hfew, accepts_of_hasRange hvalid hrange, decide_eq_false h]
  cases hbits : c.intBits with
  | none =>
    rw [hbits] at h
    exact absurd trivial h
  | some w => exact ⟨w, rfl, rfl⟩

theorem convert_of_not_hasRange (h : ¬ HasRange c.intBits) (start : Nat) :
    Unranged (convert c digits start) := by
  rw [convert_of_accepts hne hfew, accepts]
  obtain hlarge | hmemory := intRange_of_not_hasRange hvalid h
  · rw [hlarge]
    exact .inl rfl
  · rw [hmemory]
    exact .inr rfl

end Range

/-- **A conversion has one of the five outcomes.** -/
theorem converted (hvalid : ValidBits c.intBits) (digits : Text) (start : Nat) :
    Converted c digits start (convert c digits start) := by
  by_cases hne : digits = []
  · subst hne
    exact .noNumber rfl
  by_cases hfew : digits.length ≤ maxDigits
  · by_cases hrange : HasRange c.intBits
    · by_cases hin : InWidth c.intBits (denoted digits)
      · rw [convert_of_inWidth hvalid hne hfew hrange hin]
        exact .number hne hfew hrange hin
      · obtain ⟨w, hw, hover⟩ := convert_of_not_inWidth hvalid hne hfew hrange hin start
        rw [hover]
        exact .overflow hne hfew hrange hw hin
    · exact .unranged hne hfew hrange (convert_of_not_hasRange hvalid hne hfew hrange start)
  · rw [convert_of_many (Nat.not_le.mp hfew)]
    exact .tooMany (Nat.not_le.mp hfew)

theorem convert_eq_ok_iff (hvalid : ValidBits c.intBits) {start n : Nat} :
    convert c digits start = .ok n ↔
      (digits ≠ [] ∧ digits.length ≤ maxDigits ∧ HasRange c.intBits) ∧
        n = denoted digits ∧ InWidth c.intBits n := by
  constructor
  · intro hok
    have h := converted hvalid digits start
    rw [hok] at h
    cases h with
    | unranged _ _ _ hr => exact absurd hr (not_unranged_ok n)
    | number hne hfew hrange hin => exact ⟨⟨hne, hfew, hrange⟩, rfl, hin⟩
  · rintro ⟨⟨hne, hfew, hrange⟩, rfl, hin⟩
    exact convert_of_inWidth hvalid hne hfew hrange hin start

/-- The limit on digits is what it reports, and no width reports it. -/
theorem convert_tooManyDigits_iff (hvalid : ValidBits c.intBits) {start k : Nat} :
    convert c digits start = .error (.invalid (.tooManyDigits k)) ↔
      maxDigits < digits.length ∧ k = digits.length := by
  constructor
  · intro hfails
    have h := converted hvalid digits start
    rw [hfails] at h
    cases h with
    | tooMany hmany => exact ⟨hmany, rfl⟩
    | unranged _ _ _ hr => exact absurd hr (not_unranged_invalid _)
  · rintro ⟨hmany, rfl⟩
    exact convert_of_many hmany start

theorem unranged_convert_iff (hvalid : ValidBits c.intBits) {start : Nat} :
    Unranged (convert c digits start) ↔
      digits ≠ [] ∧ digits.length ≤ maxDigits ∧ ¬ HasRange c.intBits := by
  constructor
  · intro hr
    have h := converted hvalid digits start
    generalize convert c digits start = r at h hr
    cases h with
    | unranged hne hfew hrange => exact ⟨hne, hfew, hrange⟩
    | noNumber | overflow => exact absurd hr (not_unranged_scan _)
    | tooMany => exact absurd hr (not_unranged_invalid _)
    | number => exact absurd hr (not_unranged_ok _)
  · rintro ⟨hne, hfew, hrange⟩
    exact convert_of_not_hasRange hvalid hne hfew hrange start

end Convert

theorem convert_noNumber_iff {c : Config} {digits : Text} {start : Nat} :
    (∃ e : ScanError, convert c digits start = .error (.scan e) ∧ e.cause = .invalidNumber []) ↔
      digits = [] := by
  constructor
  · rintro ⟨e, he, hcause⟩
    rw [(cause_of_convert he).1] at hcause
    exact ScanCause.invalidNumber.inj hcause
  · rintro rfl
    exact ⟨.noNumber start, rfl, rfl⟩

/-! ## The two operations -/

section Operations

variable (s : Scanner) (skip : Option Bool)

/-- As text the digits are all that is needed, and there is no limit on them. -/
theorem run_parseIntString_digits :
    s.run (parseIntString skip) =
      (if s.digitsAhead skip = [] then
          .error (.scan (.missing "integer" (s.skipped skip).ahead.head? (s.skipped skip).cursor))
        else .ok (s.digitsAhead skip),
        (s.skipped skip).advanceBy (s.digitsAhead skip).length) := by
  have hdigit : (s.skipped skip).nextIs isDigit = true ↔ s.digitsAhead skip ≠ [] :=
    Text.takeWhile_ne_nil_iff.symm
  rw [run_parseIntString]
  by_cases hnone : s.digitsAhead skip = []
  · rw [if_neg (mt hdigit.mp (not_not.mpr hnone)), if_pos hnone, hnone]
    rfl
  · rw [if_pos (hdigit.mpr hnone), if_neg hnone]
    rfl

/-- **Integers are read exactly.** `parseInt` and `parseIntString` leave the scanner past the same
digits, whatever the outcome. As text there have to be digits. As a number they are reported if
there are none or more than `Integer.maxDigits`; any others, under a width whose range fits into
memory, are answered as the number that they denote if it is in the width, and reported as an
overflow if it is not. -/
theorem parseInt_exact (hvalid : ValidBits s.config.intBits) :
    let start := s.skipped skip
    let digits := s.digitsAhead skip
    let number := s.run (parseInt skip)
    let text := s.run (parseIntString skip)
    number.2 = start.advanceBy digits.length ∧ text.2 = start.advanceBy digits.length ∧
      (∀ t, text.1 = .ok t ↔ digits ≠ [] ∧ t = digits) ∧
      ((∃ e : ScanError, number.1 = .error (.scan e) ∧ e.cause = .invalidNumber []) ↔
        digits = []) ∧
      (∀ k, number.1 = .error (.invalid (.tooManyDigits k)) ↔
        maxDigits < digits.length ∧ k = digits.length) ∧
      (digits ≠ [] → digits.length ≤ maxDigits →
        (HasRange s.config.intBits →
          (∀ n, number.1 = .ok n ↔ n = denoted digits ∧ InWidth s.config.intBits n) ∧
            (¬ InWidth s.config.intBits (denoted digits) → ∃ w, s.config.intBits = some w ∧
              number.1 = .error (.scan (.overflow digits w start.cursor)))) ∧
          (¬ HasRange s.config.intBits → Unranged number.1)) := by
  intro start digits number text
  have hnumber : number = (convert s.config digits start.cursor, start.advanceBy digits.length) :=
    run_parseInt s skip
  have htext := run_parseIntString_digits s skip
  refine ⟨congrArg Prod.snd hnumber, congrArg Prod.snd htext, fun t => ?_, ?_, fun k => ?_,
    fun hne hfew => ⟨fun hrange => ⟨fun n => ?_, fun hout => ?_⟩, fun hrange => ?_⟩⟩
  · have hanswer : text.1 = _ := congrArg Prod.fst htext
    rw [hanswer]
    by_cases hnone : s.digitsAhead skip = []
    · rw [if_pos hnone]
      exact ⟨nofun, fun h => absurd hnone h.1⟩
    · rw [if_neg hnone, Except.ok.injEq]
      exact ⟨fun h => ⟨hnone, h.symm⟩, fun h => h.2.symm⟩
  · rw [hnumber]
    exact convert_noNumber_iff
  · rw [hnumber]
    exact convert_tooManyDigits_iff hvalid
  · rw [hnumber]
    have hiff : convert s.config digits start.cursor = .ok n ↔ _ := convert_eq_ok_iff hvalid
    exact hiff.trans (and_iff_right ⟨hne, hfew, hrange⟩)
  · rw [hnumber]
    exact convert_of_not_inWidth hvalid hne hfew hrange hout start.cursor
  · rw [hnumber]
    exact convert_of_not_hasRange hvalid hne hfew hrange start.cursor

end Operations

/-- The highest number of eight bits and the one after it, with zeros and a blank in front. -/
theorem parseInt_exact_byte :
    let config : Config := ⟨true, .literal, some 8⟩
    let highest : Scanner := ⟨[' ', '0', '1', '2', '7', 'x'], 0, config⟩
    let next : Scanner := ⟨[' ', '0', '1', '2', '8', 'x'], 0, config⟩
    ValidBits (some 8) ∧ (highest.run (parseInt none)).1 = .ok 127 ∧
      (next.run (parseInt none)).1 = .error (.scan (.overflow ['0', '1', '2', '8'] 8 1)) := by
  intro config highest next
  have hvalid : ValidBits (some 8) := by decide
  have hrange : HasRange (some 8) := by decide
  obtain ⟨-, -, -, -, -, hhighest⟩ := parseInt_exact highest none hvalid
  obtain ⟨-, -, -, -, -, hnext⟩ := parseInt_exact next none hvalid
  refine ⟨hvalid, ?_, ?_⟩
  · exact ((hhighest (by decide) (by decide)).1 hrange).1 127 |>.mpr ⟨rfl, by decide⟩
  · obtain ⟨w, hw, hover⟩ := ((hnext (by decide) (by decide)).1 hrange).2 (by decide)
    cases hw
    exact hover

/-- A width that is accepted, whose numbers are not: the ends of its range are not representable. -/
theorem parseInt_noRange :
    let config : Config := ⟨true, .literal, some 100000000000000000000⟩
    let s : Scanner := ⟨[' ', '0', '0', '7'], 0, config⟩
    Config.ofValues (.bool true) (.exact .literal) (.int 100000000000000000000) = .ok config ∧
      denoted (s.digitsAhead none) = 7 ∧ InWidth config.intBits 7 ∧
        (s.run (parseInt none)).1 = .error .tooLarge := by
  intro config s
  have hnarrow : InWidth (some 8) 7 := by decide
  exact ⟨rfl, rfl, hnarrow.mono (by decide), rfl⟩

end Scanner

end TextScan
