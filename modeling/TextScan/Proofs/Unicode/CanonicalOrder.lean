import Mathlib.Data.List.Chain
import TextScan.Text.Basic
import TextScan.Unicode.Normalization

/-!
# Canonical order

`reorder` sorts every run of marks by class and leaves marks of one class in their order, so a text
is left as it is just if it is in order (`reorder_eq_self_iff`). Marks of different classes may be
put into a text in either order (`insertMark_comm`). It follows that a part of a text may be
reordered first (`reorder_append`, `reorder_flatMap`) and a mark may be moved past marks of lower
classes (`reorder_past`) without a difference to what the whole is reordered to.
-/

namespace TextScan.Unicode

/-- No mark stands behind one of a higher class. -/
def InOrder (t : Text) : Prop :=
  t.IsChain fun a b => combiningClass b = 0 ∨ combiningClass a ≤ combiningClass b

instance : DecidablePred InOrder := fun t => inferInstanceAs (Decidable (List.IsChain _ t))

/-- Marks that stand together are of one class. -/
def OneClass (t : Text) : Prop :=
  t.IsChain fun a b =>
    combiningClass a = 0 ∨ combiningClass b = 0 ∨ combiningClass a = combiningClass b

instance : DecidablePred OneClass := fun t => inferInstanceAs (Decidable (List.IsChain _ t))

/-! ## Putting in a mark -/

section InsertMark

variable {c d : Char}

theorem insertMark_of_lt (hpos : 0 < combiningClass d) (hlt : combiningClass d < combiningClass c)
    (t : Text) : insertMark c (d :: t) = d :: insertMark c t := by
  rw [insertMark, if_pos ⟨hpos, hlt⟩]

theorem insertMark_of_not (h : ¬ (0 < combiningClass d ∧ combiningClass d < combiningClass c))
    (t : Text) : insertMark c (d :: t) = c :: d :: t := by
  rw [insertMark, if_neg h]

theorem insertMark_perm (c : Char) (t : Text) : (insertMark c t).Perm (c :: t) := by
  induction t with
  | nil => exact .refl _
  | cons d rest ih =>
    unfold insertMark
    split
    · exact (ih.cons d).trans (.swap c d rest)
    · exact .refl _

/-- Marks of different classes may be put in one after the other in either order. -/
theorem insertMark_comm (hpos : 0 < combiningClass d) (hlt : combiningClass d < combiningClass c)
    (t : Text) : insertMark c (insertMark d t) = insertMark d (insertMark c t) := by
  induction t with
  | nil => simp [insertMark, hpos, hlt, Nat.lt_asymm hlt]
  | cons e rest ih =>
    by_cases hd : 0 < combiningClass e ∧ combiningClass e < combiningClass d
    · have hc : combiningClass e < combiningClass c := by omega
      rw [insertMark_of_lt hd.1 hd.2, insertMark_of_lt hd.1 hc, insertMark_of_lt hd.1 hc,
        insertMark_of_lt hd.1 hd.2, ih]
    · rw [insertMark_of_not hd, insertMark_of_lt hpos hlt]
      by_cases hc : 0 < combiningClass e ∧ combiningClass e < combiningClass c
      · rw [insertMark_of_lt hc.1 hc.2, insertMark_of_not hd]
      · rw [insertMark_of_not hc, insertMark_of_not (by omega)]

theorem inOrder_insertMark {t : Text} (h : InOrder t) (c : Char) : InOrder (insertMark c t) := by
  induction t with
  | nil => exact List.isChain_singleton c
  | cons d rest ih =>
    by_cases hpass : 0 < combiningClass d ∧ combiningClass d < combiningClass c
    · rw [insertMark_of_lt hpass.1 hpass.2]
      have hrest := ih h.tail
      cases rest with
      | nil => exact List.isChain_cons_cons.mpr ⟨.inr (Nat.le_of_lt hpass.2), hrest⟩
      | cons e more =>
        have hde := (List.isChain_cons_cons.mp h).1
        unfold insertMark at hrest ⊢
        split
        · rename_i he
          rw [if_pos he] at hrest
          exact List.isChain_cons_cons.mpr ⟨hde, hrest⟩
        · rename_i he
          rw [if_neg he] at hrest
          exact List.isChain_cons_cons.mpr ⟨.inr (Nat.le_of_lt hpass.2), hrest⟩
    · rw [insertMark_of_not hpass]
      exact List.isChain_cons_cons.mpr ⟨by omega, h⟩

theorem insertMark_of_inOrder {t : Text} (h : InOrder (c :: t)) : insertMark c t = c :: t := by
  cases t with
  | nil => rfl
  | cons d rest =>
    have hcd := (List.isChain_cons_cons.mp h).1
    exact insertMark_of_not (by omega) rest

/-- Where marks that stand together are of one class, none has been passed. -/
theorem insertMark_of_oneClass {t : Text} (h : OneClass (insertMark c t)) :
    insertMark c t = c :: t := by
  induction t with
  | nil => rfl
  | cons d rest ih =>
    by_cases hpass : 0 < combiningClass d ∧ combiningClass d < combiningClass c
    · rw [insertMark_of_lt hpass.1 hpass.2] at h
      have hrest := ih h.tail
      rw [hrest] at h
      have hdc := (List.isChain_cons_cons.mp h).1
      omega
    · exact insertMark_of_not hpass rest

end InsertMark

/-! ## Reordering -/

theorem reorder_cons (c : Char) (t : Text) : reorder (c :: t) = insertMark c (reorder t) := rfl

theorem reorder_perm (t : Text) : (reorder t).Perm t := by
  induction t with
  | nil => exact .refl _
  | cons c rest ih => exact (insertMark_perm c _).trans (ih.cons c)

theorem inOrder_reorder (t : Text) : InOrder (reorder t) := by
  induction t with
  | nil => exact List.isChain_nil
  | cons c rest ih => exact inOrder_insertMark ih c

theorem reorder_of_inOrder {t : Text} (h : InOrder t) : reorder t = t := by
  induction t with
  | nil => rfl
  | cons c rest ih => rw [reorder_cons, ih h.tail, insertMark_of_inOrder h]

theorem reorder_eq_self_iff {t : Text} : reorder t = t ↔ InOrder t :=
  ⟨fun h => h ▸ inOrder_reorder t, reorder_of_inOrder⟩

theorem inOrder_of_oneClass {t : Text} (h : OneClass (reorder t)) : InOrder t := by
  induction t with
  | nil => exact List.isChain_nil
  | cons c rest ih =>
    rw [reorder_cons] at h
    have hput := insertMark_of_oneClass h
    rw [hput] at h
    have hrest : reorder rest = rest := reorder_of_inOrder (ih h.tail)
    rw [← reorder_eq_self_iff, reorder_cons, hput, hrest]

theorem reorder_insertMark_append (c : Char) (s t : Text) :
    reorder (insertMark c s ++ t) = reorder (c :: s ++ t) := by
  induction s with
  | nil => rfl
  | cons d rest ih =>
    by_cases hpass : 0 < combiningClass d ∧ combiningClass d < combiningClass c
    · rw [insertMark_of_lt hpass.1 hpass.2, List.cons_append, reorder_cons, ih]
      exact (insertMark_comm hpass.1 hpass.2 _).symm
    · rw [insertMark_of_not hpass]

/-- The start of a text may be reordered first. -/
theorem reorder_append (s t : Text) : reorder (reorder s ++ t) = reorder (s ++ t) := by
  induction s with
  | nil => rfl
  | cons c rest ih =>
    rw [reorder_cons, reorder_insertMark_append, List.cons_append, reorder_cons, ih]
    rfl

/-- Texts that are reordered alike are so behind any text. -/
theorem reorder_append_congr {s t : Text} (h : reorder s = reorder t) (front : Text) :
    reorder (front ++ s) = reorder (front ++ t) := by
  induction front with
  | nil => exact h
  | cons c rest ih => rw [List.cons_append, reorder_cons, ih]; rfl

/-- The parts of a text may be reordered first. -/
theorem reorder_flatMap (f : Char → Text) (t : Text) :
    reorder (t.flatMap fun c => reorder (f c)) = reorder (t.flatMap f) := by
  induction t with
  | nil => rfl
  | cons c rest ih =>
    rw [List.flatMap_cons, List.flatMap_cons, reorder_append, reorder_append_congr ih]

/-- A mark may be moved past marks of lower classes. -/
theorem reorder_past {marks : Text} {c : Char}
    (h : ∀ m ∈ marks, 0 < combiningClass m ∧ combiningClass m < combiningClass c) (t : Text) :
    reorder (marks ++ c :: t) = reorder (c :: (marks ++ t)) := by
  induction marks with
  | nil => rfl
  | cons m rest ih =>
    obtain ⟨hpos, hlt⟩ := h m List.mem_cons_self
    rw [List.cons_append, reorder_cons, ih fun d hd => h d (List.mem_cons_of_mem m hd)]
    exact (insertMark_comm hpos hlt _).symm

/-! ## Place by place -/

/-- Two characters that may stand at one place of texts which differ in the order of marks. -/
def SamePlace (a b : Char) : Prop := a = b ∨ combiningClass a ≠ 0 ∧ combiningClass b ≠ 0

theorem forall₂_insertMark {s t : Text} (h : List.Forall₂ SamePlace s t) {c d : Char}
    (hcd : SamePlace c d) : List.Forall₂ SamePlace (insertMark c s) (d :: t) := by
  induction h generalizing d with
  | nil => exact .cons hcd .nil
  | @cons a b s t hab hrest ih =>
    by_cases hpass : 0 < combiningClass a ∧ combiningClass a < combiningClass c
    · have hc : combiningClass c ≠ 0 := by omega
      have hd : combiningClass d ≠ 0 := by
        rcases hcd with rfl | hmarks
        · exact hc
        · exact hmarks.2
      have hb : combiningClass b ≠ 0 := by
        rcases hab with rfl | hmarks
        · omega
        · exact hmarks.2
      rw [insertMark_of_lt hpass.1 hpass.2]
      exact .cons (.inr ⟨by omega, hd⟩) (ih (.inr ⟨hc, hb⟩))
    · rw [insertMark_of_not hpass]
      exact .cons hcd (.cons hab hrest)

theorem forall₂_reorder (t : Text) : List.Forall₂ SamePlace (reorder t) t := by
  induction t with
  | nil => exact .nil
  | cons c rest ih => exact forall₂_insertMark ih (.inl rfl)

end TextScan.Unicode
