import TextScan.Scanner.Basic

/-!
# Code units

`Encoding.encode` gives the code units of a text: the bytes of UTF-8, the units of UTF-16 with
its surrogate pairs, the code points of UTF-32. The widths of characters are the lengths of their
encodings (`length_encode`). Between the offsets of two positions that follow each other lies
nothing but the inside of one character (`offset_cases`), which makes positions and offsets
inverse to each other and sorts every other offset into its error (`offset_inverse`).
-/

namespace TextScan

namespace Encoding

/-- The two units of UTF-16 for a character that does not fit into one. -/
def surrogatePair (c : Char) : List Nat :=
  [0xD800 + (c.toNat - 0x10000) / 0x400, 0xDC00 + (c.toNat - 0x10000) % 0x400]

/-- The code units of a character. -/
def units : Encoding → Char → List Nat
  | .utf8, c => (String.utf8EncodeChar c).map UInt8.toNat
  | .utf16, c => if c.toNat < 0x10000 then [c.toNat] else surrogatePair c
  | .utf32, c => [c.toNat]

def encode (e : Encoding) (t : Text) : List Nat := t.flatMap e.units

theorem utf8Size_eq (c : Char) :
    c.utf8Size =
      if c.toNat < 0x80 then 1 else if c.toNat < 0x800 then 2
      else if c.toNat < 0x10000 then 3 else 4 := by
  have one : c.val.toNat ≤ 0x7f ↔ c.toNat < 0x80 := Nat.lt_succ_iff.symm
  have two : c.val.toNat ≤ 0x7ff ↔ c.toNat < 0x800 := Nat.lt_succ_iff.symm
  have three : c.val.toNat ≤ 0xffff ↔ c.toNat < 0x10000 := Nat.lt_succ_iff.symm
  simp only [Char.utf8Size, UInt32.le_iff_toNat_le, UInt32.toNat_ofNatLT, one, two, three]

theorem length_units (e : Encoding) (c : Char) : (e.units c).length = e.unitWidth c := by
  cases e with
  | utf8 => rw [units, List.length_map, String.length_utf8EncodeChar, utf8Size_eq, unitWidth]
  | utf16 =>
    simp only [units, unitWidth]
    split <;> rfl
  | utf32 => rfl

theorem length_encode (e : Encoding) (t : Text) : (e.encode t).length = e.length t := by
  induction t with
  | nil => rfl
  | cons c rest ih =>
    rw [encode, List.flatMap_cons, List.length_append, length_units, length, ← ih, encode]

/-- The code units before index `n` of a text. -/
def offsetAt (e : Encoding) (t : Text) (n : Nat) : Nat := (e.encode (t.take n)).length

section Offsets

variable (e : Encoding)

theorem offsetAt_zero (t : Text) : e.offsetAt t 0 = 0 := rfl

theorem offsetAt_cons (c : Char) (rest : Text) (n : Nat) :
    e.offsetAt (c :: rest) (n + 1) = e.unitWidth c + e.offsetAt rest n := by
  rw [offsetAt, offsetAt, length_encode, length_encode, List.take_succ_cons, length]

theorem offsetAt_lt {t : Text} {m n : Nat} (hmn : m < n) (hn : n ≤ t.length) :
    e.offsetAt t m < e.offsetAt t n := by
  induction t generalizing m n with
  | nil => exact absurd hn (by simp; omega)
  | cons c rest ih =>
    obtain ⟨n, rfl⟩ : ∃ k, n = k + 1 := ⟨n - 1, by omega⟩
    rw [offsetAt_cons]
    have hpos := e.unitWidth_pos c
    cases m with
    | zero =>
      rw [offsetAt_zero]
      omega
    | succ m =>
      have := ih (by omega : m < n) (Nat.le_of_succ_le_succ hn)
      rw [offsetAt_cons]
      omega

/-- No character is encoded in nothing. -/
theorem le_offsetAt {t : Text} {n : Nat} (hn : n ≤ t.length) : n ≤ e.offsetAt t n := by
  induction n with
  | zero => exact Nat.zero_le _
  | succ n ih =>
    have := ih (Nat.le_of_succ_le hn)
    have hlt : e.offsetAt t n < e.offsetAt t (n + 1) := e.offsetAt_lt (Nat.lt_succ_self n) hn
    omega

/-- A number of code units ends at a position, inside one character, or beyond the text. -/
theorem offset_cases (t : Text) (k : Nat) :
    (∃ n, n ≤ t.length ∧ k = e.offsetAt t n) ∨
      (∃ i, i < t.length ∧ e.offsetAt t i < k ∧ k < e.offsetAt t (i + 1)) ∨
      e.offsetAt t t.length < k := by
  induction t generalizing k with
  | nil =>
    rcases Nat.eq_zero_or_pos k with rfl | h
    · exact .inl ⟨0, Nat.le_refl 0, rfl⟩
    · exact .inr (.inr h)
  | cons c rest ih =>
    rcases Nat.eq_zero_or_pos k with rfl | hpos
    · exact .inl ⟨0, Nat.zero_le _, rfl⟩
    rcases Nat.lt_or_ge k (e.unitWidth c) with hlt | hge
    · refine .inr (.inl ⟨0, Nat.succ_pos _, hpos, ?_⟩)
      rw [offsetAt_cons, offsetAt_zero]
      exact hlt
    -- Past the first character the question is the same for the rest.
    · obtain ⟨j, rfl⟩ : ∃ j, k = e.unitWidth c + j := ⟨k - e.unitWidth c, by omega⟩
      rcases ih j with ⟨n, hn, rfl⟩ | ⟨i, hi, hlo, hhi⟩ | hbeyond
      · exact .inl ⟨n + 1, Nat.succ_le_succ hn, (e.offsetAt_cons c rest n).symm⟩
      · refine .inr (.inl ⟨i + 1, Nat.succ_lt_succ hi, ?_, ?_⟩)
        · rw [offsetAt_cons]
          omega
        · rw [offsetAt_cons]
          omega
      · refine .inr (.inr ?_)
        rw [List.length_cons, offsetAt_cons]
        omega

end Offsets

end Encoding

namespace Position

open Encoding CodePoints

/-! ## The search -/

section Seek

variable (e : Encoding) (index units : Nat)

theorem seek_self (t : Text) : seek e units index units t = .ok ⟨index⟩ := by
  cases t <;> rw [seek, if_pos rfl]

theorem seek_cons_of_le {k : Nat} {c : Char} (rest : Text) (h : units + e.unitWidth c ≤ k) :
    seek e k index units (c :: rest) = seek e k (index + 1) (units + e.unitWidth c) rest := by
  have hpos := e.unitWidth_pos c
  have hne : units ≠ k := by omega
  have hge : ¬ k < units + e.unitWidth c := by omega
  rw [seek, if_neg hne, if_neg hge]

theorem seek_of_position {t : Text} {n : Nat} (hn : n ≤ t.length) :
    seek e (units + e.offsetAt t n) index units t = .ok ⟨index + n⟩ := by
  induction t generalizing index units n with
  | nil =>
    obtain rfl := Nat.le_zero.mp hn
    exact seek_self e index units []
  | cons c rest ih =>
    cases n with
    | zero => exact seek_self e index units (c :: rest)
    | succ n =>
      have hrest : n ≤ rest.length := Nat.le_of_succ_le_succ hn
      rw [offsetAt_cons, ← Nat.add_assoc, seek_cons_of_le e index units rest (Nat.le_add_right ..),
        ih (index + 1) (units + e.unitWidth c) hrest, Nat.add_right_comm, Nat.add_assoc]

theorem seek_of_inside {t : Text} {i k : Nat} (hi : i < t.length)
    (hlo : units + e.offsetAt t i < k) (hhi : k < units + e.offsetAt t (i + 1)) :
    seek e k index units t = .error (.offsetInside e k (index + i)) := by
  induction t generalizing index units i with
  | nil => exact absurd hi (Nat.not_lt_zero i)
  | cons c rest ih =>
    rw [offsetAt_cons] at hhi
    cases i with
    | zero =>
      rw [offsetAt_zero] at hlo hhi
      have hne : units ≠ k := by omega
      have hlt : k < units + e.unitWidth c := by omega
      rw [seek, if_neg hne, if_pos hlt, Nat.add_zero]
    | succ i =>
      rw [offsetAt_cons] at hlo
      rw [seek_cons_of_le e index units rest (by omega),
        ih (index + 1) (units + e.unitWidth c) (Nat.lt_of_succ_lt_succ hi) (by omega) (by omega),
        Nat.add_right_comm, Nat.add_assoc]

theorem seek_of_beyond {t : Text} {k : Nat} (h : units + e.offsetAt t t.length < k) :
    seek e k index units t = .error (.offsetBeyond e k (units + e.offsetAt t t.length)) := by
  induction t generalizing index units with
  | nil =>
    have hne : units ≠ k := by
      rw [List.length_nil, offsetAt_zero] at h
      omega
    rw [seek, if_neg hne, List.length_nil, offsetAt_zero, Nat.add_zero]
  | cons c rest ih =>
    rw [List.length_cons, offsetAt_cons, ← Nat.add_assoc] at h ⊢
    rw [seek_cons_of_le e index units rest (by omega), ih (index + 1) _ h]

end Seek

theorem toString_toNat {k : Int} (hk : 0 ≤ k) : toString k.toNat = toString k := by
  obtain ⟨n, rfl⟩ := Int.eq_ofNat_of_zero_le hk
  rfl

/-- What an offset of an encoding leads to in a text. -/
inductive LeadsTo (e : Encoding) (source : Text) (k : Int) : Except InvalidValue Position → Prop
  | position {n : Nat} : n ≤ source.length → k = e.offsetAt source n → LeadsTo e source k (.ok ⟨n⟩)
  | negative : k < 0 → LeadsTo e source k (.error (.negativeOffset k))
  | inside {i : Nat} : i < source.length → e.offsetAt source i < k →
      k < e.offsetAt source (i + 1) → LeadsTo e source k (.error (.offsetInside e k.toNat i))
  | beyond : e.offsetAt source source.length < k →
      LeadsTo e source k (.error (.offsetBeyond e k.toNat (e.offsetAt source source.length)))

section LeadsTo

variable {e : Encoding} {source : Text} {k : Int}

theorem LeadsTo.ofOffset_eq {r : Except InvalidValue Position} (h : LeadsTo e source k r) :
    ofOffset source k e = r := by
  have zero_add := Nat.zero_add
  cases h with
  | negative hk => rw [ofOffset, if_pos hk]
  | position hn hk =>
    subst hk
    rw [ofOffset, if_neg (by omega), Int.toNat_natCast]
    simpa only [zero_add] using seek_of_position e 0 0 hn
  | inside hi hlo hhi =>
    rw [ofOffset, if_neg (by omega)]
    simpa only [zero_add] using
      seek_of_inside e 0 0 (k := k.toNat) hi (by omega) (by omega)
  | beyond hk =>
    rw [ofOffset, if_neg (by omega)]
    simpa only [zero_add] using
      seek_of_beyond e 0 0 (t := source) (k := k.toNat) (by omega)

theorem exists_leadsTo (e : Encoding) (source : Text) (k : Int) : ∃ r, LeadsTo e source k r := by
  rcases Int.lt_or_le k 0 with hneg | hpos
  · exact ⟨_, .negative hneg⟩
  · obtain ⟨k, rfl⟩ := Int.eq_ofNat_of_zero_le hpos
    rcases e.offset_cases source k with ⟨n, hn, rfl⟩ | ⟨i, hi, hlo, hhi⟩ | hbeyond
    · exact ⟨_, .position hn rfl⟩
    · exact ⟨_, .inside hi (by omega) (by omega)⟩
    · exact ⟨_, .beyond (by omega)⟩

theorem ofOffset_eq_iff {r : Except InvalidValue Position} :
    ofOffset source k e = r ↔ LeadsTo e source k r := by
  refine ⟨fun h => ?_, LeadsTo.ofOffset_eq⟩
  obtain ⟨r', h'⟩ := exists_leadsTo e source k
  rw [← h, h'.ofOffset_eq]
  exact h'

/-- The words for an offset that leads to no position. -/
theorem LeadsTo.message {v : InvalidValue} (h : LeadsTo e source k (.error v)) :
    (k < 0 ∧ v.message = .ofString s!"Code unit offset must be non-negative, got {k}") ∨
    (∃ i, e.offsetAt source i < k ∧ k < e.offsetAt source (i + 1) ∧
      v.message = .ofString s!"{e.name} offset {k} falls inside the scalar at position {i}") ∨
    (e.offsetAt source source.length < k ∧
      v.message = .ofString (s!"{e.name} offset {k} is beyond the end of the source " ++
        s!"({e.offsetAt source source.length} code units)")) := by
  cases h with
  | negative hk => exact .inl ⟨hk, rfl⟩
  | inside hi hlo hhi =>
    refine .inr (.inl ⟨_, hlo, hhi, ?_⟩)
    rw [InvalidValue.message, toString_toNat (by omega)]
  | beyond hk =>
    refine .inr (.inr ⟨hk, ?_⟩)
    rw [InvalidValue.message, toString_toNat (by omega)]

/-- The numbers that the words quote are none longer than the offset, so the offset decides whether
they can be written. -/
theorem LeadsTo.ofInvalid_eq {v : InvalidValue} (h : LeadsTo e source k (.error v)) :
    Fault.ofInvalid v = .invalid (if Integer.isWritable k then v else .tooLongToWrite) := by
  have hpair {n : Nat} (hn : (n : Int) < k) :
      [(k.toNat : Int), (n : Int)].all Integer.isWritable = Integer.isWritable k := by
    have hk : (k.toNat : Int) = k := Int.toNat_of_nonneg (by omega)
    have hle : (n : Int).natAbs ≤ k.natAbs := by omega
    rw [hk, List.all_cons, List.all_cons, List.all_nil, Bool.and_true, Bool.and_eq_left_iff_imp]
    exact Integer.isWritable_of_le hle
  cases h with
  | negative hk =>
    rw [Fault.ofInvalid_of_integers [k] rfl, List.all_cons, List.all_nil, Bool.and_true]
  | @inside i hi hlo hhi =>
    have hindex := e.le_offsetAt (Nat.le_of_lt hi)
    rw [Fault.ofInvalid_of_integers [(k.toNat : Int), (i : Int)] rfl, hpair (by omega)]
  | beyond hk =>
    rw [Fault.ofInvalid_of_integers [(k.toNat : Int), (e.offsetAt source source.length : Int)] rfl,
      hpair hk]

end LeadsTo

/-! ## Positions and offsets -/

theorem ofName_of_ofName? {e : Encoding} {encoding : Text}
    (he : Encoding.ofName? encoding = some e) : Encoding.ofName encoding = .ok e := by
  rw [Encoding.ofName, he]

section Named

variable {e : Encoding} {encoding : Text} (he : Encoding.ofName? encoding = some e)
  {source : Text} {k : Int}
include he

theorem offsetIn_of_le {n : Nat} (hn : n ≤ source.length) :
    offsetIn ⟨n⟩ source encoding = .ok (e.offsetAt source n) := by
  have hvalid : isValidIn ⟨n⟩ source = true := decide_eq_true hn
  have hoffset : offset ⟨n⟩ source e = .ok (e.offsetAt source n) := by
    rw [offset, if_pos hvalid, before, offsetAt, length_encode]
  rw [offsetIn, if_pos hvalid, ofName_of_ofName? he]
  exact congrArg (Except.mapError Fault.ofInvalid) hoffset

theorem ofOffsetIn_eq (k : Int) :
    ofOffsetIn source k encoding = (ofOffset source k e).mapError .ofInvalid := by
  rw [ofOffsetIn, ofName_of_ofName? he]
  by_cases hk : k < 0
  · rw [if_pos hk, ofOffset, if_pos hk]
  · rw [if_neg hk]
    rfl

theorem ofOffsetIn_eq_ok_iff {n : Nat} :
    ofOffsetIn source k encoding = .ok ⟨n⟩ ↔ n ≤ source.length ∧ k = e.offsetAt source n := by
  obtain ⟨r, hr⟩ := exists_leadsTo e source k
  rw [ofOffsetIn_eq he, hr.ofOffset_eq]
  constructor
  · intro h
    cases r with
    | error v => cases h
    | ok p =>
      cases h
      cases hr with
      | position hn hk => exact ⟨hn, hk⟩
  · rintro ⟨hn, hk⟩
    rw [← hr.ofOffset_eq, (LeadsTo.position hn hk).ofOffset_eq]
    rfl

/-- What is raised: the cause, or that the offset is too long for a message to quote. -/
theorem ofOffsetIn_eq_error_iff {f : Fault} :
    ofOffsetIn source k encoding = .error f ↔ ∃ v, LeadsTo e source k (.error v) ∧
      f = .invalid (if Integer.isWritable k then v else .tooLongToWrite) := by
  rw [ofOffsetIn_eq he]
  constructor
  · intro h
    cases hr : ofOffset source k e with
    | ok p =>
      rw [hr] at h
      cases h
    | error v =>
      rw [hr] at h
      cases h
      have hv := ofOffset_eq_iff.mp hr
      exact ⟨v, hv, hv.ofInvalid_eq⟩
  · rintro ⟨v, hv, rfl⟩
    rw [hv.ofOffset_eq, ← hv.ofInvalid_eq]
    rfl

theorem ofOffsetIn_eq_invalid_iff {v : InvalidValue} (hne : v ≠ .tooLongToWrite) :
    ofOffsetIn source k encoding = .error (.invalid v) ↔
      LeadsTo e source k (.error v) ∧ Integer.isWritable k = true := by
  rw [ofOffsetIn_eq_error_iff he]
  constructor
  · rintro ⟨v', hv', heq⟩
    obtain heq := Fault.invalid.inj heq
    split at heq
    · rename_i hk
      exact ⟨heq ▸ hv', hk⟩
    · exact absurd heq hne
  · rintro ⟨hv, hk⟩
    exact ⟨v, hv, by rw [if_pos hk]⟩

/-- An offset that is too long to be written is refused as such, whatever its fault is. -/
theorem ofOffsetIn_eq_tooLong_iff :
    ofOffsetIn source k encoding = .error (.invalid .tooLongToWrite) ↔
      (∀ n, n ≤ source.length → k ≠ e.offsetAt source n) ∧ ¬ Integer.isWritable k = true := by
  constructor
  · intro h
    obtain ⟨v, hv, heq⟩ := (ofOffsetIn_eq_error_iff he).mp h
    refine ⟨fun n hn hk => ?_, fun hk => ?_⟩
    · rw [(ofOffsetIn_eq_ok_iff he).mpr ⟨hn, hk⟩] at h
      cases h
    · rw [if_pos hk] at heq
      cases heq
      cases hv
  · rintro ⟨hnone, hk⟩
    obtain ⟨r, hr⟩ := exists_leadsTo e source k
    cases r with
    | ok p =>
      cases hr with
      | position hn hoffset => exact absurd hoffset (hnone _ hn)
    | error v => exact (ofOffsetIn_eq_error_iff he).mpr ⟨v, hr, by rw [if_neg hk]⟩

end Named

/-- **Positions and offsets are inverse to each other**, in every spelling of an encoding. The
offset of a position is the number of code units that encode the text before it; an offset leads
to the position that it belongs to, where a scanner can start and reports it; and an offset that
belongs to no position is negative, inside one character or beyond the end, and fails by that. An
offset of more digits than are written fails as well, but what is said then is only that. -/
theorem offset_inverse {encoding : Text} {e : Encoding}
    (he : Encoding.ofName? encoding = some e) (source : Text) (k : Int) :
    let offset (n : Nat) : Nat := (e.encode (source.take n)).length
    let found := ofOffsetIn source k encoding
    (∀ n, n ≤ source.length →
      offsetIn ⟨n⟩ source encoding = .ok (offset n) ∧
      ofOffsetIn source (offset n) encoding = .ok ⟨n⟩ ∧
      ∀ m, m < n → offset m < offset n) ∧
    (∀ n, found = .ok ⟨n⟩ ↔ n ≤ source.length ∧ k = offset n) ∧
    (∀ n config, found = .ok ⟨n⟩ →
      ∃ scanner units, Scanner.startAt source n config = .ok scanner ∧
        scanner.codeUnitOffset encoding = .ok units ∧ units = k) ∧
    (found = .error (.invalid (.negativeOffset k)) ↔ k < 0 ∧ Integer.isWritable k) ∧
    (∀ i, found = .error (.invalid (.offsetInside e k.toNat i)) ↔
      (i < source.length ∧ offset i < k ∧ k < offset (i + 1)) ∧ Integer.isWritable k) ∧
    (∀ total, found = .error (.invalid (.offsetBeyond e k.toNat total)) ↔
      (total = offset source.length ∧ total < k) ∧ Integer.isWritable k) ∧
    (found = .error (.invalid .tooLongToWrite) ↔
      (∀ n, n ≤ source.length → k ≠ offset n) ∧ ¬ Integer.isWritable k) ∧
    (∀ f, found = .error f → ∃ v, f = .invalid v ∧
      if Integer.isWritable k then
        (k < 0 ∧ v.message = .ofString s!"Code unit offset must be non-negative, got {k}") ∨
        (∃ i, offset i < k ∧ k < offset (i + 1) ∧
          v.message = .ofString s!"{e.name} offset {k} falls inside the scalar at position {i}") ∨
        (offset source.length < k ∧
          v.message = .ofString (s!"{e.name} offset {k} is beyond the end of the source " ++
            s!"({offset source.length} code units)"))
      else
        v.message = .ofString
          (s!"Exceeds the limit ({Integer.maxDigits} digits) for integer string " ++
            "conversion; use sys.set_int_max_str_digits() to increase the limit")) := by
  intro offset found
  have hposition (n : Nat) : found = .ok ⟨n⟩ ↔ n ≤ source.length ∧ k = offset n :=
    ofOffsetIn_eq_ok_iff he
  refine ⟨fun n hn => ⟨offsetIn_of_le he hn, ?_, fun m hm => e.offsetAt_lt hm hn⟩, hposition,
    fun n config h => ?_, ?_, fun i => ?_, fun total => ?_, ofOffsetIn_eq_tooLong_iff he,
    fun f h => ?_⟩
  · exact (ofOffsetIn_eq_ok_iff he).mpr ⟨hn, rfl⟩
  · obtain ⟨hn, hk⟩ := (hposition n).mp h
    have hstart : (0 : Int) ≤ n ∧ (n : Int) ≤ source.length := by omega
    exact ⟨⟨source, n, config⟩, offset n, if_pos hstart, offsetIn_of_le he hn, hk.symm⟩
  · refine (ofOffsetIn_eq_invalid_iff he (v := .negativeOffset k) nofun).trans
      (and_congr_left' ?_)
    exact ⟨fun | .negative hk => hk, .negative⟩
  · refine (ofOffsetIn_eq_invalid_iff he (v := .offsetInside e k.toNat i) nofun).trans
      (and_congr_left' ?_)
    exact ⟨fun | .inside hi hlo hhi => ⟨hi, hlo, hhi⟩, fun ⟨hi, hlo, hhi⟩ => .inside hi hlo hhi⟩
  · refine (ofOffsetIn_eq_invalid_iff he (v := .offsetBeyond e k.toNat total) nofun).trans
      (and_congr_left' ?_)
    refine ⟨fun | .beyond hk => ⟨rfl, hk⟩, ?_⟩
    rintro ⟨rfl, hk⟩
    exact .beyond hk
  · obtain ⟨v, hv, rfl⟩ := (ofOffsetIn_eq_error_iff he).mp h
    refine ⟨_, rfl, ?_⟩
    cases Integer.isWritable k with
    | true => exact hv.message
    | false => rfl

/-- Behind one, two and three bytes of UTF-8 each, a character that takes two units of UTF-16. -/
theorem offset_inverse_surrogatePair :
    let source : Text := ['a', '\u0080', '\u0800', '😀', 'z']
    let encoding : Text := " UTF_16 ".toList
    Encoding.ofName? encoding = some .utf16 ∧
      ofOffsetIn source 5 encoding = .ok ⟨4⟩ ∧
      ofOffsetIn source 4 encoding = .error (.invalid (.offsetInside .utf16 4 3)) ∧
      ofOffsetIn source 7 encoding = .error (.invalid (.offsetBeyond .utf16 7 6)) := by
  intro source encoding
  have he : Encoding.ofName? encoding = some .utf16 := by decide +kernel
  obtain ⟨-, hposition, -⟩ := offset_inverse he source 5
  obtain ⟨-, -, -, -, hinside, -⟩ := offset_inverse he source 4
  obtain ⟨-, -, -, -, -, hbeyond, -⟩ := offset_inverse he source 7
  exact ⟨he, (hposition 4).mpr (by decide), (hinside 3).mpr (by decide +kernel),
    (hbeyond 6).mpr (by decide +kernel)⟩

/-- What is said about an offset of too many digits is not that it is negative or beyond the end,
though it is; and no position stands before the first one. -/
theorem offset_inverse_tooLong :
    let k : Int := Int.ofNat (Nat.pow 10 Integer.maxDigits)
    let v : InvalidValue := .tooLongToWrite
    (-k < 0 ∧ ofOffsetIn [] (-k) "utf-8".toList = .error (.invalid v) ∧
      v.message ≠ .ofString s!"Code unit offset must be non-negative, got {-k}") ∧
    ((Encoding.utf8.encode []).length < k ∧
      ofOffsetIn [] k "utf-8".toList = .error (.invalid v) ∧
      v.message ≠ .ofString (s!"utf-8 offset {k} is beyond the end of the source " ++
        s!"({(Encoding.utf8.encode []).length} code units)")) ∧
    -1 ≤ Int.ofNat ([] : Text).length ∧ ofInt (-1) = .error (.negativePosition (-1)) := by
  intro k v
  obtain ⟨hpos, hlong, hneg⟩ :
      0 < k ∧ ¬ Integer.isWritable k = true ∧ ¬ Integer.isWritable (-k) = true :=
    Integer.not_isWritable_pow
  clear_value k
  have he : Encoding.ofName? "utf-8".toList = some .utf8 := by decide
  have hfails {n : Int} (hn : n ≠ 0) (hw : ¬ Integer.isWritable n = true) :
      ofOffsetIn [] n "utf-8".toList = .error (.invalid v) := by
    refine (ofOffsetIn_eq_tooLong_iff he).mpr ⟨fun m hm => ?_, hw⟩
    obtain rfl := Nat.le_zero.mp hm
    exact hn
  -- The first characters tell the messages apart: `E`, `C` and `u`.
  have hv : v.message.head? = some (.char 'E') :=
    head?_ofString_append (head?_ofString_append (head?_ofString_append rfl _) _) _
  refine ⟨⟨by omega, hfails (by omega) hneg, fun h => ?_⟩,
    ⟨hpos, hfails (by omega) hlong, fun h => ?_⟩, by decide, rfl⟩
  · rw [h, head?_ofString_append (c := .char 'C') rfl] at hv
    cases hv
  · rw [h, head?_ofString_append (c := .char 'u') (head?_ofString_append
      (head?_ofString_append rfl _) _)] at hv
    cases hv

end Position

end TextScan
