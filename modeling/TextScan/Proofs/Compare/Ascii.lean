import TextScan.Proofs.Compare.Absorption
import TextScan.Proofs.Compare.Comparison

/-!
# Matching in ASCII

Characters of ASCII do not decompose and have no class, and they fold to their lower case letters.
In a text of them every mode therefore finds what the exact mode finds, in the text itself or, if
case does not count, in its lower case (`matchAt_ascii`).
-/

namespace TextScan

namespace Folding

variable {F : Folding} {f : Char → Char} {t literal : Text}

theorem foldText_eq_map (h : ∀ c ∈ t, F.fold c = [f c]) : F.foldText t = t.map f := by
  induction t with
  | nil => rfl
  | cons c rest ih =>
    rw [foldText_cons, h c List.mem_cons_self, ih fun d hd => h d (List.mem_cons_of_mem c hd)]
    rfl

/-- A folding that sends characters to characters looks for what the literal is sent to in what the
text is sent to, as long as it meets no mark. -/
theorem matchLength_eq_exact (ht : ∀ c ∈ t, F.fold c = [f c] ∧ F.isMark c = false)
    (hl : ∀ c ∈ literal, F.fold c = [f c]) :
    F.matchLength t literal = exact.matchLength (t.map f) (literal.map f) := by
  have htake (n : Nat) : F.foldText (t.take n) = (t.take n).map f :=
    foldText_eq_map fun c hc => (ht c (List.mem_of_mem_take hc)).1
  apply Option.ext
  intro n
  rw [matchLength_eq_some_iff, matchLength_eq_some_iff]
  constructor
  · rintro ⟨hkept, -, hle, halike, -⟩
    rw [foldText_eq_map hl] at hkept halike
    rw [htake] at halike
    refine ⟨?_, ?_, ?_, ?_, fun c _ => ⟨List.cons_ne_nil c [], rfl⟩⟩
    · rwa [foldText_exact]
    · cases t <;> rfl
    · rwa [List.length_map]
    · rw [foldText_exact, foldText_exact, ← List.map_take, halike]
  · rintro ⟨hkept, -, hle, halike, -⟩
    rw [foldText_exact] at hkept
    rw [foldText_exact, foldText_exact, ← List.map_take] at halike
    rw [List.length_map] at hle
    refine ⟨?_, ?_, hle, ?_, fun c hc => ?_⟩
    · rwa [foldText_eq_map hl]
    · cases t with
      | nil => rfl
      | cons c rest =>
        rw [startsVanishing, Bool.eq_false_iff, ne_eq, vanishes_iff, (ht c List.mem_cons_self).1]
        exact List.cons_ne_nil (f c) []
    · rw [htake, foldText_eq_map hl, halike]
    · obtain ⟨hfold, hmark⟩ := ht c (List.mem_of_getElem? hc)
      rw [hfold]
      exact ⟨List.cons_ne_nil (f c) [], hmark⟩

end Folding

/-! ## The characters -/

namespace Unicode

open CharacterData (unicode)

/-- A character that does not decompose, is no mark and folds to its lower case letter, which is in
ASCII too. -/
structure FoldsToLower (c : Char) : Prop where
  step : compatibilityStep? c = none
  starter : combiningClass c = 0
  fold : caseFold c = [c.toLower]
  lower : c.toLower.toNat < 128

def checkLower (c : Char) : Bool :=
  same (caseFold c) [c.toLower] && Nat.blt c.toLower.toNat 128

theorem ascii_checked :
    (CanonicalMapping.tree.clear 0 127 && CompatibilityMapping.tree.clear 0 127 &&
        CombiningClass.tree.clear 0 127) = true ∧
      charsAll checkLower (Range.mk 0 127 ()) = true := by
  decide +kernel

section Ascii

variable {c : Char} (hc : c.toNat < 128)
include hc

theorem foldsToLower_of_ascii : FoldsToLower c := by
  have hlo : 0 ≤ c.toNat := Nat.zero_le _
  have hhi : c.toNat ≤ 127 := Nat.le_of_lt_succ hc
  obtain ⟨hclear, hlower⟩ := ascii_checked
  simp only [Bool.and_eq_true] at hclear
  obtain ⟨⟨hcanonical, hcompatibility⟩, hclass⟩ := hclear
  have hcheck := of_charsAll hlower hlo hhi
  rw [checkLower, Bool.and_eq_true, Nat.blt_eq] at hcheck
  refine ⟨?_, ?_, eq_of_same hcheck.1, hcheck.2⟩
  · exact compatibilityStep?_of_clear (.inl (by decide)) hcanonical hcompatibility hlo hhi
  · exact combiningClass_of_none (RangeTree.find?_of_clear hclass hlo hhi)

theorem spelled_of_ascii (width caseless : Bool) :
    unicode.spelled width caseless c = [if caseless then c.toLower else c] := by
  obtain ⟨hstep, -, hfold, hlower⟩ := foldsToLower_of_ascii hc
  rw [spelled_of_stepFree hstep]
  cases caseless with
  | false => exact spelled_of_none (canonicalStep?_of_stepFree hstep)
  | true =>
    have hlowerStep : canonicalStep? c.toLower = none :=
      canonicalStep?_of_stepFree (foldsToLower_of_ascii hlower).step
    rw [spelled_caseless, hfold, nfd_singleton_of_none hlowerStep]
    rfl

end Ascii

end Unicode

/-! ## Matching -/

namespace CompareOptions

open Unicode
open CharacterData (unicode)

/-- The lower case of a character, if case does not count. -/
def caseless (o : CompareOptions) (c : Char) : Char := if o.caseInsensitive then c.toLower else c

theorem foldChar_of_ascii (o : CompareOptions) {c : Char} (hc : c.toNat < 128) :
    unicode.foldChar o c = [o.caseless c] := by
  cases ho : o.isLiteral with
  | true =>
    have hcase : o.caseInsensitive = false := by
      simp only [isLiteral, Bool.and_eq_true, Bool.not_eq_true'] at ho
      exact ho.1.1
    rw [CharacterData.foldChar, ho, caseless, hcase]
    rfl
  | false =>
    have hclass : combiningClass (o.caseless c) = 0 := by
      unfold caseless
      split
      · exact (foldsToLower_of_ascii (foldsToLower_of_ascii hc).lower).starter
      · exact (foldsToLower_of_ascii hc).starter
    rw [foldChar_unicode ho, spelled_of_ascii hc]
    show (if _ then [o.caseless c].filter _ else [o.caseless c]) = _
    split
    · rw [List.filter_cons_of_pos (by rw [hclass]; rfl), List.filter_nil]
    · rfl

theorem isMark_of_ascii (o : CompareOptions) {c : Char} (hc : c.toNat < 128) :
    (unicode.comparison o).isMark c = false := by
  unfold CharacterData.comparison
  split
  · rfl
  · exact isMark_unicode.mpr (foldsToLower_of_ascii hc).starter

theorem matchAt_eq_exact (o : CompareOptions) {source literal : Text}
    (hsource : ∀ c ∈ source, c.toNat < 128) (hliteral : ∀ c ∈ literal, c.toNat < 128) {start : Nat}
    (hstart : start ≤ source.length) :
    o.matchAt source start literal =
      CompareOptions.literal.matchAt (source.map o.caseless) start (literal.map o.caseless) := by
  have hfold {c : Char} (hc : c.toNat < 128) : (unicode.comparison o).fold c = [o.caseless c] := by
    rw [CharacterData.fold_comparison, foldChar_of_ascii o hc]
  have hexact : (unicode.comparison o).matchLength (source.drop start) literal =
      Folding.exact.matchLength ((source.map o.caseless).drop start) (literal.map o.caseless) := by
    rw [← List.map_drop]
    refine Folding.matchLength_eq_exact (fun c hc => ?_) fun c hc => hfold (hliteral c hc)
    have hascii := hsource c (List.mem_of_mem_drop hc)
    exact ⟨hfold hascii, isMark_of_ascii o hascii⟩
  have hlength : start ≤ (source.map o.caseless).length := by rwa [List.length_map]
  show unicode.matchAt o source start literal = unicode.matchAt CompareOptions.literal _ start _
  rw [CharacterData.matchAt_comparison _ _ hstart, CharacterData.matchAt_comparison _ _ hlength,
    hexact]
  rfl

/-- **In ASCII the modes that fold agree with the exact one**: on the text and the literal as they
are, or on the lower case of both if case does not count. -/
theorem matchAt_ascii (o : CompareOptions) {source literal : Text}
    (hsource : ∀ c ∈ source, c.toNat < 128) (hliteral : ∀ c ∈ literal, c.toNat < 128) {start : Nat}
    (hstart : start ≤ source.length) :
    (o.caseInsensitive = false →
        o.matchAt source start literal = CompareOptions.literal.matchAt source start literal) ∧
      (o.caseInsensitive = true →
        o.matchAt source start literal =
          CompareOptions.literal.matchAt source.lowerAscii start literal.lowerAscii) := by
  rw [matchAt_eq_exact o hsource hliteral hstart]
  constructor
  · intro hcase
    have hsame : o.caseless = id := funext fun c => by
      rw [caseless, hcase, if_neg Bool.false_ne_true, id]
    rw [hsame, List.map_id, List.map_id]
  · intro hcase
    have hlower : o.caseless = Char.toLower := funext fun c => by
      rw [caseless, hcase, if_pos rfl]
    rw [hlower]
    rfl

/-- Letters of either case around a digit, and a literal that runs past the end. -/
theorem matchAt_ascii_letters :
    let o : CompareOptions := ⟨true, true, true⟩
    let source : Text := ['x', 'A', '1', 'b']
    (∀ c ∈ source, c.toNat < 128) ∧ (∀ c ∈ (['a', '1', 'B', 'c'] : Text), c.toNat < 128) ∧
      1 ≤ source.length ∧ o.caseInsensitive = true ∧
        o.matchAt source 1 ['a', '1', 'B'] =
          CompareOptions.literal.matchAt ['x', 'a', '1', 'b'] 1 ['a', '1', 'b'] ∧
        o.matchAt source 1 ['a', '1', 'B', 'c'] =
          CompareOptions.literal.matchAt ['x', 'a', '1', 'b'] 1 ['a', '1', 'b', 'c'] := by
  intro o source
  have hsource : ∀ c ∈ source, c.toNat < 128 := by simp [source]
  have hliteral : ∀ c ∈ (['a', '1', 'B'] : Text), c.toNat < 128 := by simp
  have hlonger : ∀ c ∈ (['a', '1', 'B', 'c'] : Text), c.toNat < 128 := by simp
  have hstart : 1 ≤ source.length := by decide
  exact ⟨hsource, hlonger, hstart, rfl, (matchAt_ascii o hsource hliteral hstart).2 rfl,
    (matchAt_ascii o hsource hlonger hstart).2 rfl⟩

end CompareOptions

end TextScan
