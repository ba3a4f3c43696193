import TextScan.Proofs.Compare.Comparison

/-!
# Marks put into a source

A character that folds away makes no difference to a match that begins before it. `moved` says
where the places of a text go when a character is put into it, and a match ends where its end goes
(`matchLength_insert`): one behind the character ends one later, and one right at the character
takes it in.
-/

namespace TextScan

/-- Where a place goes when a character is put in at `k`; the place itself goes behind it. -/
def moved (k n : Nat) : Nat := if k ≤ n then n + 1 else n

theorem moved_of_le {k n : Nat} (h : k ≤ n) : moved k n = n + 1 := if_pos h

theorem moved_of_lt {k n : Nat} (h : n < k) : moved k n = n := if_neg (Nat.not_le.mpr h)

theorem moved_add (k m n : Nat) : moved (m + k) (m + n) = m + moved k n := by
  unfold moved
  split <;> split <;> omega

/-- Every place but the one of the character itself has been moved to. -/
theorem exists_moved {k n : Nat} (h : n ≠ k) : ∃ m, moved k m = n := by
  rcases Nat.lt_or_ge n k with hlt | hge
  · exact ⟨n, moved_of_lt hlt⟩
  · exact ⟨n - 1, by rw [moved_of_le (by omega)]; omega⟩

section Text

variable (front back : Text) (c : Char) (n : Nat)

theorem getElem?_moved : (front ++ c :: back)[moved front.length n]? = (front ++ back)[n]? := by
  rcases Nat.lt_or_ge n front.length with hlt | hge
  · rw [moved_of_lt hlt, List.getElem?_append_left hlt, List.getElem?_append_left hlt]
  · rw [moved_of_le hge, List.getElem?_append_right (by omega), List.getElem?_append_right hge,
      Nat.sub_add_comm hge, List.getElem?_cons_succ]

theorem moved_le_length :
    moved front.length n ≤ (front ++ c :: back).length ↔ n ≤ (front ++ back).length := by
  simp only [List.length_append, List.length_cons]
  unfold moved
  split <;> omega

end Text

namespace Folding

variable {F : Folding} {front back literal : Text} {mark : Char}

theorem foldText_take_moved (hmark : F.fold mark = []) (n : Nat) :
    F.foldText ((front ++ mark :: back).take (moved front.length n)) =
      F.foldText ((front ++ back).take n) := by
  rcases Nat.lt_or_ge n front.length with hlt | hge
  · rw [moved_of_lt hlt, List.take_append_of_le_length (by omega),
      List.take_append_of_le_length (by omega)]
  · rw [moved_of_le hge, List.take_append, List.take_append, List.take_of_length_le (by omega),
      List.take_of_length_le hge, Nat.sub_add_comm hge, List.take_succ_cons, foldText_append,
      foldText_append, foldText_cons, hmark, List.nil_append]

theorem isMatch_insert_iff (hfront : front ≠ []) (hmark : F.fold mark = []) {n : Nat} :
    F.IsMatch (front ++ mark :: back) literal (moved front.length n) ↔
      F.IsMatch (front ++ back) literal n := by
  have hstart : F.startsVanishing (front ++ mark :: back) = F.startsVanishing (front ++ back) := by
    cases front with
    | nil => exact absurd rfl hfront
    | cons c rest => rfl
  constructor
  · rintro ⟨hl, hkept, hle, halike, hstops⟩
    rw [getElem?_moved] at hstops
    refine ⟨hl, ?_, (moved_le_length front back mark n).mp hle, ?_, hstops⟩
    · rw [← hstart, hkept]
    · rw [← halike, foldText_take_moved hmark]
  · rintro ⟨hl, hkept, hle, halike, hstops⟩
    refine ⟨hl, ?_, (moved_le_length front back mark n).mpr hle, ?_, ?_⟩
    · rw [hstart, hkept]
    · rw [foldText_take_moved hmark, halike]
    · rwa [getElem?_moved]

/-- A match behind which the character stands takes it in, so no match ends at its place. -/
theorem matchLength_insert (hfront : front ≠ []) (hmark : F.fold mark = []) :
    F.matchLength (front ++ mark :: back) literal =
      (F.matchLength (front ++ back) literal).map (moved front.length) := by
  apply Option.ext
  intro n
  rw [Option.map_eq_some_iff, matchLength_eq_some_iff]
  constructor
  · intro h
    have hplace : n ≠ front.length := by
      rintro rfl
      refine (h.stops mark ?_).1 hmark
      rw [List.getElem?_append_right (Nat.le_refl _), Nat.sub_self, List.getElem?_cons_zero]
    obtain ⟨m, rfl⟩ := exists_moved hplace
    exact ⟨m, matchLength_eq_some_iff.mpr ((isMatch_insert_iff hfront hmark).mp h), rfl⟩
  · rintro ⟨m, hm, rfl⟩
    exact (isMatch_insert_iff hfront hmark).mpr (matchLength_eq_some_iff.mp hm)

end Folding

namespace CharacterData

/-- **Marks that fold away are transparent**, in every mode and for every character data: put in
behind the first character of a match or anywhere further on, such a mark changes nothing but the
places behind it. A match that ended where it was put in takes it in. -/
theorem matchAt_insert (D : CharacterData) (o : CompareOptions) {mark : Char}
    (hmark : D.foldChar o mark = []) {pre : Text} {start : Nat} (hstart : start < pre.length)
    (post literal : Text) :
    ∃ found : Option Nat,
      D.matchAt o (pre ++ post) start literal = .ok (found.map Int.ofNat) ∧
        D.matchAt o (pre ++ mark :: post) start literal =
          .ok ((found.map fun e => if pre.length ≤ e then e + 1 else e).map Int.ofNat) := by
  have hle (rest : Text) : start ≤ (pre ++ rest).length := by
    rw [List.length_append]
    omega
  have hfront : pre.drop start ≠ [] := by
    rw [ne_eq, List.drop_eq_nil_iff]
    omega
  have hfold : (D.comparison o).fold mark = [] := by rw [fold_comparison, hmark]
  have hdrop (rest : Text) : (pre ++ rest).drop start = pre.drop start ++ rest :=
    List.drop_append_of_le_length (Nat.le_of_lt hstart)
  have hplace (n : Nat) :
      start + moved (pre.drop start).length n =
        if pre.length ≤ start + n then start + n + 1 else start + n := by
    rw [← moved_add, List.length_drop, Nat.add_sub_cancel' (Nat.le_of_lt hstart), moved]
  refine ⟨((D.comparison o).matchLength (pre.drop start ++ post) literal).map (start + ·), ?_, ?_⟩
  · rw [matchAt_comparison D o (hle post), hdrop, Option.map_map]
    rfl
  · rw [matchAt_comparison D o (hle _), hdrop, Folding.matchLength_insert hfront hfold]
    simp only [Option.map_map, Function.comp_def, hplace]
    rfl

/-- A second accent behind a match that took in the first. -/
theorem matchAt_insert_accented :
    let o : CompareOptions := ⟨true, true, false⟩
    let pre : Text := ['c', 'a', 'f', 'E', '\u0301']
    unicode.foldChar o '\u0302' = [] ∧ 1 < pre.length ∧
      unicode.matchAt o (pre ++ ['x']) 1 ['A', 'f', 'e'] = .ok (some 5) ∧
        unicode.matchAt o (pre ++ ['\u0302', 'x']) 1 ['A', 'f', 'e'] = .ok (some 6) := by
  intro o pre
  have hfacts : unicode.foldChar o '\u0302' = [] ∧
      unicode.matchLength o ((pre ++ ['x']).drop 1) ['A', 'f', 'e'] = some 4 := by
    decide +kernel
  have hstart : 1 < pre.length := by decide
  have hplain : unicode.matchAt o (pre ++ ['x']) (1 : Nat) ['A', 'f', 'e'] = .ok (some 5) := by
    rw [matchAt_of_le (by decide), hfacts.2]
    rfl
  obtain ⟨found, hfound, hinsert⟩ := matchAt_insert unicode o hfacts.1 hstart ['x'] ['A', 'f', 'e']
  rw [hplain] at hfound
  cases found with
  | none => cases hfound
  | some e =>
    cases hfound
    exact ⟨hfacts.1, hstart, hplain, hinsert⟩

end CharacterData

end TextScan
