import Mathlib.Data.List.Basic
import TextScan.Proofs.Compare.SpellingCheck
import TextScan.Proofs.Unicode.Settled

/-!
# Spelling in a coarser mode

A mode that ignores more differences spells a character as it spells, letter by letter, what a mode
that ignores fewer makes of the character. `Absorbs` says so for one character and all modes. It
holds of a character if it holds of what the character decomposes to, canonically
(`absorbs_of_parts`) or for compatibility (`absorbs_of_letters`), so what is left are characters
that do not decompose; those that fold to inert ones are of this kind (`absorbs_of_inert`).
-/

namespace TextScan.Unicode

open CharacterData (unicode)

/-! ## Characters without a step -/

section StepFree

variable {c : Char} (h : compatibilityStep? c = none)
include h

theorem canonicalStep?_of_stepFree : canonicalStep? c = none :=
  (Option.or_eq_none_iff.mp h).1

theorem nfkc_of_stepFree : nfkc [c] = [c] := by
  have hnfkd : nfkd [c] = [c] := by
    rw [nfkd, List.flatMap_singleton, compatibilityDecomposition, decompose_of_none h]
    rfl
  rw [nfkc, hnfkd, compose]
  split <;> rfl

theorem plain_of_stepFree (width : Bool) : unicode.plain width c = [c] := by
  cases width with
  | false => rfl
  | true => exact nfkc_of_stepFree h

/-- Width makes no difference to it. -/
theorem spelled_of_stepFree (width caseless : Bool) :
    unicode.spelled width caseless c = unicode.spelled false caseless c := by
  unfold CharacterData.spelled
  rw [plain_of_stepFree h width]
  rfl

end StepFree

/-- A character in a range that the tables of mappings have no row of. -/
theorem compatibilityStep?_of_clear {lo hi : Nat} (hapart : hi < 0xAC00 ∨ 0xD7A3 < lo)
    (hcanonical : CanonicalMapping.tree.clear lo hi = true)
    (hcompatibility : CompatibilityMapping.tree.clear lo hi = true) {c : Char} (hlo : lo ≤ c.toNat)
    (hhi : c.toNat ≤ hi) : compatibilityStep? c = none := by
  have hsyllable : Hangul.decompose? c = none := by
    rw [Option.eq_none_iff_forall_ne_some]
    intro t ht
    have := Hangul.mem_of_decompose? ht
    omega
  rw [compatibilityStep?, canonicalStep?, hsyllable, canonicalMapping?, compatibilityMapping?,
    RangeTree.find?_of_clear hcanonical hlo hhi, RangeTree.find?_of_clear hcompatibility hlo hhi]
  rfl

theorem spelled_of_none {c : Char} (h : canonicalStep? c = none) :
    unicode.spelled false false c = [c] := nfd_singleton_of_none h

theorem spelled_caseless (c : Char) : unicode.spelled false true c = nfd (caseFold c) := by
  rw [(spelled_of_plain_eq rfl).2, CharacterData.plain, if_neg Bool.false_ne_true,
    List.flatMap_singleton]

theorem spelled_caseless_of_uncased {c : Char} (h : canonicalStep? c = none)
    (hfold : caseFold c = [c]) : unicode.spelled false true c = [c] := by
  rw [spelled_caseless, hfold, nfd_singleton_of_none h]

theorem spelled_of_uncased {c : Char} (h : compatibilityStep? c = none) (hfold : caseFold c = [c])
    (width caseless : Bool) : unicode.spelled width caseless c = [c] := by
  rw [spelled_of_stepFree h]
  cases caseless with
  | false => exact spelled_of_none (canonicalStep?_of_stepFree h)
  | true => exact spelled_caseless_of_uncased (canonicalStep?_of_stepFree h) hfold

/-! ## Absorption -/

/-- The mark that folds to a letter, the iota under a vowel. -/
def iotaMark : Char := '\u0345'

theorem iotaMark_spec :
    caseFold iotaMark ≠ [iotaMark] ∧ compatibilityStep? iotaMark = none ∧
      combiningClass iotaMark ≠ 0 := by decide +kernel

/-- A coarser mode spells the character as it spells its spelling in a finer one. And the mark that
folds to a letter is in no spelling without case. -/
structure Absorbs (c : Char) : Prop where
  absorbed : ∀ {width caseless width' caseless' : Bool}, width ≤ width' → caseless ≤ caseless' →
    (unicode.spelled width caseless c).flatMap (unicode.spelled width' caseless') =
      unicode.spelled width' caseless' c
  iota_notMem : ∀ width, iotaMark ∉ unicode.spelled width true c

section StepFree

variable {c : Char} (h : compatibilityStep? c = none)
include h

theorem absorbs_of_stepFree
    (hcase : ∀ width, (unicode.spelled false true c).flatMap (unicode.spelled width true) =
      unicode.spelled false true c)
    (hiota : iotaMark ∉ unicode.spelled false true c) : Absorbs c where
  absorbed {width caseless width' caseless'} _ hle := by
    rw [spelled_of_stepFree h width, spelled_of_stepFree h width']
    cases caseless with
    | false =>
      rw [spelled_of_none (canonicalStep?_of_stepFree h), List.flatMap_singleton,
        spelled_of_stepFree h]
    | true =>
      cases caseless' with
      | false => exact absurd hle (by decide)
      | true => exact hcase width'
  iota_notMem width := by rwa [spelled_of_stepFree h]

theorem absorbs_of_uncased (hfold : caseFold c = [c]) : Absorbs c := by
  have hspelled := spelled_of_uncased h hfold
  refine absorbs_of_stepFree h (fun width => ?_) ?_
  · rw [hspelled, List.flatMap_singleton, hspelled]
  · rw [hspelled, List.mem_singleton]
    rintro rfl
    exact iotaMark_spec.1 hfold

theorem absorbs_of_inert (hfold : ∀ d ∈ caseFold c, Inert d) : Absorbs c := by
  have hspelled : unicode.spelled false true c = caseFold c := by
    rw [spelled_caseless, nfd_of_inert hfold]
  refine absorbs_of_stepFree h (fun width => ?_) fun hiota => ?_
  · rw [hspelled]
    exact flatMap_of_forall fun d hd => spelled_of_inert (hfold d hd) width true
  · rw [hspelled] at hiota
    exact iotaMark_spec.1 (hfold iotaMark hiota).caseless

end StepFree

/-- If a text absorbs letter by letter, a spelling that is the text's in coarse modes does too. -/
theorem flatMap_absorbed {t : Text} (ht : ∀ e ∈ t, Absorbs e)
    {width caseless width' caseless' : Bool} (hwidth : width ≤ width')
    (hcaseless : caseless ≤ caseless') :
    (t.flatMap (unicode.spelled width caseless)).flatMap (unicode.spelled width' caseless') =
      t.flatMap (unicode.spelled width' caseless') := by
  rw [List.flatMap_assoc]
  exact List.flatMap_congr fun e he => (ht e he).absorbed hwidth hcaseless

theorem absorbs_of_parts {c : Char} (h : ∀ d ∈ nfd [c], Absorbs d) : Absorbs c where
  absorbed hwidth hcaseless := by
    rw [(spelledByParts c).spelled_eq, flatMap_absorbed h hwidth hcaseless,
      ← (spelledByParts c).spelled_eq]
  iota_notMem width hiota := by
    rw [(spelledByParts c).spelled_eq] at hiota
    obtain ⟨d, hd, hmem⟩ := List.mem_flatMap.mp hiota
    exact (h d hd).iota_notMem width hmem

/-- A character that decomposes for compatibility only, to a text that it is spelled as where width
does not count. -/
theorem absorbs_of_letters {c : Char} {t : Text} (hstep : canonicalStep? c = none)
    (hspelled : ∀ caseless, unicode.spelled true caseless c =
      t.flatMap (unicode.spelled true caseless))
    (ht : ∀ e ∈ t, Absorbs e)
    (hcase : ∀ width, (unicode.spelled false true c).flatMap (unicode.spelled width true) =
      unicode.spelled width true c)
    (hiota : iotaMark ∉ unicode.spelled false true c) : Absorbs c where
  absorbed {width caseless width' caseless'} hwidth hcaseless := by
    cases width with
    | true =>
      cases width' with
      | false => exact absurd hwidth (by decide)
      | true => rw [hspelled, hspelled, flatMap_absorbed ht hwidth hcaseless]
    | false =>
      cases caseless with
      | false => rw [spelled_of_none hstep, List.flatMap_singleton]
      | true =>
        cases caseless' with
        | false => exact absurd hcaseless (by decide)
        | true => exact hcase width'
  iota_notMem width hmem := by
    cases width with
    | false => exact hiota hmem
    | true =>
      rw [hspelled] at hmem
      obtain ⟨e, he, hmem⟩ := List.mem_flatMap.mp hmem
      exact (ht e he).iota_notMem true hmem

/-! ## Letters for compatibility -/

theorem spelled_of_letter {c e : Char} (hstep : canonicalStep? c = none)
    (hmapping : compatibilityMapping? c = some [e]) (he : compatibilityStep? e = none)
    (caseless : Bool) : unicode.spelled true caseless c = unicode.spelled true caseless e := by
  have hcompatibility : compatibilityStep? c = some [e] := by
    rw [compatibilityStep?, hstep, hmapping]
    rfl
  have hnfkd : nfkd [c] = [e] := by
    rw [nfkd, List.flatMap_singleton, compatibilityDecomposition, longestChain,
      decompose_of_some hcompatibility fun d hd => (List.mem_singleton.mp hd).symm ▸ he]
    rfl
  have hplain : unicode.plain true c = unicode.plain true e := by
    rw [plain_of_stepFree he true]
    show compose (nfkd [c]) = [e]
    rw [hnfkd, compose]
    split <;> rfl
  unfold CharacterData.spelled
  rw [hplain]

theorem spelled_of_letters {c : Char} (hfree : ∀ e ∈ nfkd [c], compatibilityStep? e = none)
    (hnfd : nfd (compose (nfkd [c])) = nfkd [c])
    (hcase : nfd ((compose (nfkd [c])).flatMap caseFold) =
      (nfkd [c]).flatMap (unicode.spelled false true)) (caseless : Bool) :
    unicode.spelled true caseless c = (nfkd [c]).flatMap (unicode.spelled true caseless) := by
  have hletters : (nfkd [c]).flatMap (unicode.spelled true caseless) =
      (nfkd [c]).flatMap (unicode.spelled false caseless) :=
    List.flatMap_congr fun e he => spelled_of_stepFree (hfree e he) true caseless
  have hplain : unicode.plain true c = compose (nfkd [c]) := rfl
  have hspelled := spelled_of_plain_eq hplain
  rw [hletters]
  cases caseless with
  | false =>
    have hparts : (nfkd [c]).flatMap (unicode.spelled false false) = nfkd [c] :=
      flatMap_of_forall fun e he => spelled_of_none (canonicalStep?_of_stepFree (hfree e he))
    rw [hspelled.1, hnfd, hparts]
  | true => rw [hspelled.2, hcase]

end TextScan.Unicode
