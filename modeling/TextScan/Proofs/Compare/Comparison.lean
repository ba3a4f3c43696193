import TextScan.Proofs.Compare.Matching

/-!
# The comparison of a mode

The exact mode looks for a literal as it stands. That is a match under the folding that leaves
every character as it is and takes none for a mark (`Folding.exact`), so each mode has one folding
that it compares under, the exact mode included (`comparison`). What is proved of matches under
every folding then holds in every mode (`matchAt_comparison`).
-/

namespace TextScan

namespace Folding

/-- Every character stands for itself. -/
def exact : Folding where
  fold c := [c]
  isMark _ := false

theorem foldText_exact (t : Text) : exact.foldText t = t := by
  induction t with
  | nil => rfl
  | cons c rest ih => rw [foldText_cons, ih]; rfl

theorem isMatch_exact_iff {t literal : Text} {n : Nat} :
    exact.IsMatch t literal n ↔ literal ≠ [] ∧ literal <+: t ∧ literal.length = n := by
  constructor
  · rintro ⟨hl, -, hle, halike, -⟩
    rw [foldText_exact] at hl
    rw [foldText_exact, foldText_exact] at halike
    refine ⟨hl, ?_, ?_⟩
    · rw [← halike]
      exact List.take_prefix n t
    · rw [← halike, List.length_take, Nat.min_eq_left hle]
  · rintro ⟨hl, hprefix, rfl⟩
    refine ⟨?_, ?_, hprefix.length_le, ?_, fun c _ => ⟨List.cons_ne_nil c [], rfl⟩⟩
    · rwa [foldText_exact]
    · cases t <;> rfl
    · rw [← List.prefix_iff_eq_take.mp hprefix]

end Folding

namespace CharacterData

variable (D : CharacterData) (o : CompareOptions)

/-- The folding that a mode compares under. -/
def comparison : Folding := if o.isLiteral then Folding.exact else D.folding o

theorem fold_comparison (c : Char) : (D.comparison o).fold c = D.foldChar o c := by
  unfold comparison foldChar
  split
  · rfl
  · rename_i ho
    show D.foldChar o c = _
    rw [foldChar, if_neg ho]

theorem foldText_comparison (t : Text) : (D.comparison o).foldText t = D.fold o t := by
  show t.flatMap (D.comparison o).fold = t.flatMap (D.foldChar o)
  rw [funext (fold_comparison D o)]

theorem matchLength_comparison (t literal : Text) :
    D.matchLength o t literal = (D.comparison o).matchLength t literal := by
  unfold matchLength comparison
  split
  · apply Option.ext
    intro n
    rw [Folding.matchLength_eq_some_iff, Folding.isMatch_exact_iff, Option.ite_none_right_eq_some,
      Bool.and_eq_true, Bool.not_eq_true', List.isEmpty_eq_false_iff, List.isPrefixOf_iff_prefix,
      Option.some.injEq, and_assoc]
  · rfl

/-- In every mode the matcher answers where the match under its comparison ends. -/
theorem matchAt_comparison {source : Text} {start : Nat} (hs : start ≤ source.length)
    (literal : Text) :
    D.matchAt o source start literal =
      .ok (((D.comparison o).matchLength (source.drop start) literal).map fun n =>
        ((start + n : Nat) : Int)) := by
  rw [matchAt_of_le hs, matchLength_comparison]

end CharacterData

end TextScan
