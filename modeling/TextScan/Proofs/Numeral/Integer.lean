import Mathlib.Data.List.TakeWhile
import TextScan.Numeral.Integer

/-!
# Integers read back

What is written reads as the integer that it was written for, up to the limit on digits
(`read_write`), and what is read can be written (`isWritable_of_read`): the digits of a text are
limited, in whatever script they are.
-/

namespace TextScan

namespace Text

variable {drop : Char → Bool} {t : Text}

theorem dropWhile_of_forall (h : ∀ c ∈ t, drop c = false) : t.dropWhile drop = t := by
  cases t with
  | nil => rfl
  | cons c rest =>
    refine List.dropWhile_cons_of_neg ?_
    rw [h c List.mem_cons_self]
    exact Bool.false_ne_true

theorem trimBy_of_forall (h : ∀ c ∈ t, drop c = false) : t.trimBy drop = t := by
  have hreverse : ∀ c ∈ t.reverse, drop c = false := fun c hc => h c (List.mem_reverse.mp hc)
  rw [trimBy, dropWhile_of_forall h, dropWhile_of_forall hreverse, List.reverse_reverse]

end Text

theorem isDigit_range {c : Char} (h : c.isDigit = true) : 0x30 ≤ c.toNat ∧ c.toNat ≤ 0x39 := by
  simp only [Char.isDigit, Bool.and_eq_true, decide_eq_true_eq, ge_iff_le,
    UInt32.le_iff_toNat_le] at h
  exact h

/-- The visible characters of ASCII are no blanks. -/
theorem isBlank_of_visible {c : Char} (hlo : 0x21 ≤ c.toNat) (hhi : c.toNat ≤ 0x7E) :
    isBlank c = false := by
  rw [Bool.eq_false_iff]
  intro h
  simp only [isBlank, isWhitespace, isLineControl, isSeparator, Bool.or_eq_true, Bool.and_eq_true,
    Nat.ble_eq, Nat.beq_eq, List.contains_eq_mem, decide_eq_true_eq, List.mem_cons,
    List.not_mem_nil, or_false] at h
  omega

theorem isWhitespace_of_isBlank {c : Char} (h : isBlank c = false) : isWhitespace c = false :=
  (Bool.or_eq_false_iff.mp h).1

namespace Unicode

theorem digitValue?_of_isDigit {c : Char} (h : c.isDigit = true) :
    digitValue? c = some (c.toNat - 0x30) := by
  obtain ⟨hlo, hhi⟩ := isDigit_range h
  have hsorted : Range.sorted DecimalDigit.rows = true := by decide
  have hfind : DecimalDigit.tree.find? c.toNat = some (.mk 0x30 0x39 ()) := by
    rw [DecimalDigit.tree, RangeTree.find?_ofList hsorted, DecimalDigit.rows,
      List.find?_cons_of_pos]
    exact Range.holds_iff.mpr ⟨hlo, hhi⟩
  have hlt : c.toNat - 0x30 < 10 := by omega
  rw [digitValue?, hfind, Option.map_some, Nat.mod_eq_of_lt hlt]

theorem digitValue?_lt {c : Char} {d : Nat} (h : digitValue? c = some d) : d < 10 := by
  obtain ⟨r, -, rfl⟩ := Option.map_eq_some_iff.mp h
  exact Nat.mod_lt _ (by decide)

end Unicode

namespace Integer

/-! ## Digits -/

theorem isDigitOrUnderscore_of_isDigit {c : Char} (h : c.isDigit = true) :
    isDigitOrUnderscore c = true := by
  rw [isDigitOrUnderscore, Unicode.digitValue?_of_isDigit h]
  rfl

theorem filterMap_digitValue? {t : Text} (h : ∀ c ∈ t, c.isDigit = true) :
    t.filterMap Unicode.digitValue? = t.map fun c => c.toNat - 0x30 := by
  induction t with
  | nil => rfl
  | cons c rest ih =>
    rw [List.filterMap_cons_some (Unicode.digitValue?_of_isDigit (h c List.mem_cons_self)),
      ih fun d hd => h d (List.mem_cons_of_mem c hd), List.map_cons]

theorem ofDigits_lt {digits : List Nat} (h : ∀ d ∈ digits, d < 10) :
    ofDigits digits < Nat.pow 10 digits.length := by
  have hgeneral (n : Nat) :
      digits.foldl (fun n d => 10 * n + d) n < (n + 1) * Nat.pow 10 digits.length := by
    induction digits generalizing n with
    | nil =>
      show n < (n + 1) * 1
      omega
    | cons d rest ih =>
      have hd : d < 10 := h d List.mem_cons_self
      calc
        rest.foldl (fun n d => 10 * n + d) (10 * n + d)
            < (10 * n + d + 1) * Nat.pow 10 rest.length :=
          ih (fun e he => h e (List.mem_cons_of_mem d he)) _
        _ ≤ ((n + 1) * 10) * Nat.pow 10 rest.length := Nat.mul_le_mul_right _ (by omega)
        _ = (n + 1) * (Nat.pow 10 rest.length * 10) := by
          rw [Nat.mul_assoc, Nat.mul_comm 10]
  have hzero := hgeneral 0
  rwa [Nat.zero_add, Nat.one_mul] at hzero

/-! ## Reading what was written -/

/-- A run of ASCII digits that is not too long is read as the number that it stands for. -/
theorem readDigits_of_forall {t : Text} (h : ∀ c ∈ t, c.isDigit = true) (hne : t ≠ [])
    (hlen : t.length ≤ maxDigits) : readDigits t = .ok (ofAsciiDigits t) := by
  have hall : ∀ c ∈ t, isDigitOrUnderscore c = true := fun c hc =>
    isDigitOrUnderscore_of_isDigit (h c hc)
  have hgroups : (t.takeWhile isDigitOrUnderscore).splitOn '_' = [t] := by
    rw [List.takeWhile_eq_self_iff.mpr hall]
    refine List.splitOn_eq_singleton fun hunderscore => ?_
    have := h '_' hunderscore
    cases this
  have hdigits : [t].flatten.filterMap Unicode.digitValue? = t.map fun c => c.toNat - 0x30 := by
    rw [List.flatten_singleton, filterMap_digitValue? h]
  have hgroup : [t].contains [] = false := by
    simpa using fun hnil : t = [] => hne hnil
  have hrest : t.dropWhile isDigitOrUnderscore = [] := List.dropWhile_eq_nil_iff.mpr hall
  unfold readDigits
  rw [hgroups]
  dsimp only
  rw [hdigits, hgroup, hrest, List.length_map, if_neg Bool.false_ne_true,
    if_neg (Nat.not_lt.mpr hlen), if_neg (not_not_intro rfl)]
  rfl

theorem splitSign_of_forall {t : Text} (h : ∀ c ∈ t, c.isDigit = true) :
    splitSign t = (false, t) := by
  unfold splitSign
  split
  · have := h '-' List.mem_cons_self
    cases this
  · have := h '+' List.mem_cons_self
    cases this
  · rfl

theorem mem_write {n : Int} {c : Char} (h : c ∈ write n) : c = '-' ∨ c.isDigit = true := by
  unfold write at h
  split at h
  · rcases List.mem_cons.mp h with rfl | hc
    · exact .inl rfl
    · exact .inr (Nat.isDigit_of_mem_toDigits (by decide) (by decide) hc)
  · exact .inr (Nat.isDigit_of_mem_toDigits (by decide) (by decide) h)

theorem write_ne_nil (n : Int) : write n ≠ [] := by
  unfold write
  split
  · exact List.cons_ne_nil _ _
  · exact Nat.toDigits_ne_nil

theorem isBlank_of_mem_write {n : Int} {c : Char} (h : c ∈ write n) : isBlank c = false := by
  rcases mem_write h with rfl | hc
  · decide
  · obtain ⟨hlo, hhi⟩ := isDigit_range hc
    exact isBlank_of_visible (by omega) (by omega)

theorem ofAsciiDigits_toDigits (n : Nat) : ofAsciiDigits (Nat.toDigits 10 n) = n := by
  have hread := Nat.ofDigitChars_toDigits (n := n) (by decide : 1 < 10) (by decide)
  rw [Nat.ofDigitChars] at hread
  rw [ofAsciiDigits, ofDigits, List.foldl_map]
  exact hread

theorem length_toDigits_le {n k : Nat} (hk : 0 < k) (h : n < Nat.pow 10 k) :
    (Nat.toDigits 10 n).length ≤ k :=
  (Nat.length_toDigits_le_iff (by decide) hk).mpr h

theorem readDigits_toDigits {n : Nat} (h : n < Nat.pow 10 maxDigits) :
    readDigits (Nat.toDigits 10 n) = .ok n := by
  have hdigits : ∀ c ∈ Nat.toDigits 10 n, c.isDigit = true := fun c hc =>
    Nat.isDigit_of_mem_toDigits (by decide) (by decide) hc
  rw [readDigits_of_forall hdigits Nat.toDigits_ne_nil (length_toDigits_le (by decide) h),
    ofAsciiDigits_toDigits]

theorem read_eq (t : Text) :
    read t =
      (readDigits (splitSign (t.trimBy isWhitespace)).2).map fun n =>
        if (splitSign (t.trimBy isWhitespace)).1 then -(n : Int) else n := by
  unfold read
  obtain ⟨negative, body⟩ := splitSign (t.trimBy isWhitespace)
  rfl

/-- **What is written is read back.** -/
theorem read_write {n : Int} (h : isWritable n = true) : read (write n) = .ok n := by
  have hpow : n.natAbs < Nat.pow 10 maxDigits := of_decide_eq_true h
  have htrim : (write n).trimBy isWhitespace = write n :=
    Text.trimBy_of_forall fun c hc => isWhitespace_of_isBlank (isBlank_of_mem_write hc)
  rw [read_eq, htrim]
  by_cases hneg : n < 0
  · have habs : -(n.natAbs : Int) = n := by omega
    have hsign : splitSign (write n) = (true, Nat.toDigits 10 n.natAbs) := by
      rw [write, if_pos hneg]
      rfl
    rw [hsign, readDigits_toDigits hpow]
    exact congrArg Except.ok habs
  · have habs : (n.natAbs : Int) = n := by omega
    have hsign : splitSign (write n) = (false, Nat.toDigits 10 n.natAbs) := by
      rw [write, if_neg hneg]
      exact splitSign_of_forall fun c hc =>
        Nat.isDigit_of_mem_toDigits (by decide) (by decide) hc
    rw [hsign, readDigits_toDigits hpow]
    exact congrArg Except.ok habs

/-! ## Writing what was read -/

theorem pow_le_pow {m n : Nat} (h : m ≤ n) : Nat.pow 10 m ≤ Nat.pow 10 n :=
  Nat.pow_le_pow_right (by decide) h

theorem lt_of_readDigits {t : Text} {n : Nat} (h : readDigits t = .ok n) :
    ∃ k, k ≤ maxDigits ∧ n < Nat.pow 10 k := by
  unfold readDigits at h
  dsimp only at h
  split at h
  · cases h
  · split at h
    · cases h
    · rename_i hfew
      split at h
      · cases h
      · cases h
        refine ⟨_, Nat.not_lt.mp hfew, ofDigits_lt fun d hd => ?_⟩
        obtain ⟨c, -, hc⟩ := List.mem_filterMap.mp hd
        exact Unicode.digitValue?_lt hc

/-- **What is read can be written.** -/
theorem isWritable_of_read {t : Text} {n : Int} (h : read t = .ok n) : isWritable n = true := by
  rw [read_eq] at h
  cases hbody : readDigits (splitSign (t.trimBy isWhitespace)).2 with
  | error e =>
    rw [hbody] at h
    cases h
  | ok m =>
    rw [hbody] at h
    obtain ⟨k, hk, hlt⟩ := lt_of_readDigits hbody
    have habs : n.natAbs = m := by
      rw [← Except.ok.inj h]
      dsimp only
      split <;> omega
    rw [isWritable, habs]
    exact decide_eq_true (Nat.lt_of_lt_of_le hlt (pow_le_pow hk))

end Integer

end TextScan
