import TextScan.Proofs.Compare.Comparison
import TextScan.Proofs.Compare.Inclusion

/-!
# Folding what is folded

A folded text folds to itself: it is folded again by the same mode, and that mode is included in
itself (`fold_fold`); the iota below is not in the way, because a mode either drops it both times or
spells it as a letter at once. The matcher sees a literal only through its folding
(`matchAt_of_fold_eq`), so a literal may be folded in advance (`fold_idempotent`).
-/

namespace TextScan

namespace Folding

variable {F : Folding} {literal literal' : Text}

theorem matchLength_of_foldText_eq (h : F.foldText literal = F.foldText literal') (t : Text) :
    F.matchLength t literal = F.matchLength t literal' := by
  unfold matchLength
  rw [h]

theorem matchLength_of_foldText_nil (h : F.foldText literal = []) (t : Text) :
    F.matchLength t literal = none := by
  rw [matchLength, h, List.isEmpty_nil, Bool.true_or, if_pos rfl]

end Folding

namespace CharacterData

variable {D : CharacterData} {o : CompareOptions} {literal literal' : Text}

theorem matchLength_of_fold_eq (h : D.fold o literal = D.fold o literal') (t : Text) :
    D.matchLength o t literal = D.matchLength o t literal' := by
  rw [← foldText_comparison, ← foldText_comparison] at h
  rw [matchLength_comparison, matchLength_comparison, Folding.matchLength_of_foldText_eq h]

/-- Wherever it is looked for, a literal that folds away is not found. -/
theorem matchAt_of_fold_nil (h : D.fold o literal = []) (source : Text) (start : Int) :
    D.matchAt o source start literal = .ok none := by
  have hlength (t : Text) : D.matchLength o t literal = none := by
    rw [matchLength_comparison, Folding.matchLength_of_foldText_nil]
    rwa [foldText_comparison]
  unfold matchAt
  simp only [hlength, h, List.isEmpty_nil, Option.map_none, if_true, ite_self]

/-- Literals that fold alike are found at the same places, also at a start that is counted from the
end. -/
theorem matchAt_of_fold_eq (h : D.fold o literal = D.fold o literal') (source : Text)
    (start : Int) : D.matchAt o source start literal = D.matchAt o source start literal' := by
  by_cases hnil : D.fold o literal' = []
  · rw [matchAt_of_fold_nil (h.trans hnil), matchAt_of_fold_nil hnil]
  · have hkept {l : Text} (hl : D.fold o l ≠ []) : l.isEmpty = false := by
      rw [List.isEmpty_eq_false_iff]
      rintro rfl
      exact hl rfl
    unfold matchAt
    simp only [hkept hnil, hkept (h ▸ hnil), matchLength_of_fold_eq h, h]

end CharacterData

namespace CompareOptions

theorem includes_self (o : CompareOptions) : o.includes o = true :=
  includes_iff.mpr ⟨Bool.le_refl _, Bool.le_refl _, Bool.le_refl _⟩

/-- A mode treats the iota below alike each time. -/
theorem not_dropsIota_self (o : CompareOptions) : ¬ DropsIota o o := by
  rintro ⟨-, hcounts, hcaseless⟩
  rw [hcounts] at hcaseless
  cases hcaseless

/-- **Folding is idempotent**, in every mode. A literal that was folded in advance is therefore
found where the literal itself is. -/
theorem fold_idempotent (o : CompareOptions) :
    (∀ t, o.fold (o.fold t) = o.fold t) ∧
      ∀ source start literal,
        o.matchAt source start (o.fold literal) = o.matchAt source start literal := by
  have hfold (t : Text) : o.fold (o.fold t) = o.fold t :=
    fold_fold (includes_self o) (absurd · (not_dropsIota_self o))
  exact ⟨hfold, fun source start literal =>
    CharacterData.matchAt_of_fold_eq (hfold literal) source start⟩

end CompareOptions

end TextScan
