import TextScan.Proofs.Compare.Respelling
import TextScan.Proofs.Compare.SpellingCheck

/-!
# Composed and decomposed sources

In every mode that folds, writing a source with each character decomposed is a respelling
(`respells_nfd`), so a match of the source is one of the decomposed source and ends at the same
place. `matchAt_decomposed` says so, with the two exceptions that there are
(`matchAt_decomposed_exceptions`). A match covers whole characters of the source, but one of the
decomposed source may end between two starters that a character decomposes to, such as the letters
of a syllable. And behind a match may stand a starter that opens with a mark (`OpensWithMark`).
-/

namespace TextScan

namespace Unicode

/-- The text with each character replaced by its own canonical decomposition. -/
def decomposed (t : Text) : Text := t.flatMap fun c => nfd [c]

/-- A starter whose decomposition starts with a mark. -/
def OpensWithMark (c : Char) : Prop :=
  combiningClass c = 0 ∧ ∃ d rest, nfd [c] = d :: rest ∧ combiningClass d ≠ 0

end Unicode

namespace CompareOptions

open Unicode
open CharacterData (unicode)

variable {o : CompareOptions}

/-- **Decompositions fold like the characters**, in every mode that folds. -/
theorem respells_nfd (ho : o.isLiteral = false) :
    (unicode.folding o).Respells fun c => nfd [c] := by
  have hfold (c : Char) : (unicode.folding o).fold c = unicode.foldChar o c := rfl
  refine ⟨fun c => (spelledByParts c).parts_ne_nil, fun c => ?_, fun {c d rest} hc hd => ?_,
    fun {c d rest} hc hd => ?_⟩
  · have hspelled := (spelledByParts c).spelled_eq o.widthInsensitive o.caseInsensitive
    show (nfd [c]).flatMap (unicode.foldChar o) = unicode.foldChar o c
    rw [funext (foldChar_unicode ho)]
    cases o.diacriticInsensitive with
    | false => exact hspelled.symm
    | true =>
      simp only [↓reduceIte]
      rw [hspelled, List.filter_flatMap]
  · rw [isMark_unicode] at hd ⊢
    exact (spelledByParts c).starter_of_head hc hd
  · rw [Folding.vanishes_iff, hfold, foldChar_unicode ho] at hd ⊢
    cases hdia : o.diacriticInsensitive with
    | false =>
      rw [hdia] at hd
      exact (spelledByParts c).nil_of_head hc _ _ hd
    | true =>
      rw [hdia, if_pos rfl, List.filter_eq_nil_iff] at hd
      rw [if_pos rfl, List.filter_eq_nil_iff]
      simp only [decide_eq_true_eq] at hd ⊢
      exact (spelledByParts c).marks_of_head hc _ _ hd

/-- **Composed and decomposed sources match alike**, in every mode that folds: a match of one is a
match of the other and ends at the same place. Excepted are a match of the source behind which a
starter opens with a mark, and a match of the decomposed source that ends before a starter inside
one character. If the source has neither kind of character there is no exception. -/
theorem matchAt_decomposed (ho : o.isLiteral = false) (source literal : Text) :
    ∃ found found' : Option Nat,
      o.matchAt source 0 literal = .ok (found.map Int.ofNat) ∧
      o.matchAt (decomposed source) 0 literal = .ok (found'.map Int.ofNat) ∧
      (∀ e, found = some e → (∀ c, source[e]? = some c → ¬ OpensWithMark c) →
        ∃ f, found' = some f ∧ decomposed (source.take e) = (decomposed source).take f) ∧
      (∀ f, found' = some f →
        (∃ e, found = some e ∧ decomposed (source.take e) = (decomposed source).take f) ∨
          found = none ∧ ∃ i k c d, source[i]? = some c ∧ 0 < k ∧
            (nfd [c])[k]? = some d ∧ combiningClass d = 0 ∧
              f = (decomposed (source.take i)).length + k) ∧
      ((∀ c ∈ source, ¬ OpensWithMark c ∧ ∀ d ∈ (nfd [c]).tail, combiningClass d ≠ 0) →
        found.isSome = found'.isSome ∧
          ∀ e f, found = some e → found' = some f →
            decomposed (source.take e) = (decomposed source).take f) := by
  let found := (unicode.folding o).matchLength source literal
  let found' := (unicode.folding o).matchLength (decomposed source) literal
  have hrespells := respells_nfd ho
  have honward (e : Nat) (he : found = some e)
      (hopen : ∀ c, source[e]? = some c → ¬ OpensWithMark c) :
      ∃ f, found' = some f ∧ decomposed (source.take e) = (decomposed source).take f := by
    refine ⟨_, Folding.matchLength_respelled hrespells he fun c d rest hc hd hmark => ?_,
      (Folding.take_reach source e).symm⟩
    rw [isMark_unicode] at hmark ⊢
    exact Decidable.not_not.mp fun hclass => hopen c hc ⟨hmark, d, rest, hd, hclass⟩
  have hback (f : Nat) (hf : found' = some f) :
      (∃ e, found = some e ∧ decomposed (source.take e) = (decomposed source).take f) ∨
        found = none ∧ ∃ i k c d, source[i]? = some c ∧ 0 < k ∧
          (nfd [c])[k]? = some d ∧ combiningClass d = 0 ∧
            f = (decomposed (source.take i)).length + k := by
    obtain ⟨e, he, rfl⟩ | ⟨hnone, i, k, c, d, hc, hpos, hd, hmark, rfl⟩ :=
      Folding.matchLength_of_respelled hrespells hf
    · exact .inl ⟨e, he, (Folding.take_reach source e).symm⟩
    · exact .inr ⟨hnone, i, k, c, d, hc, hpos, hd, isMark_unicode.mp hmark, rfl⟩
  refine ⟨found, found', matchAt_zero ho source literal, matchAt_zero ho _ literal, honward, hback,
    fun hsource => ⟨?_, fun e f he hf => ?_⟩⟩
  · have hnone (hf : found = none) : found' = none := by
      rw [Option.eq_none_iff_forall_ne_some]
      intro f hf'
      obtain ⟨e, he, -⟩ | ⟨-, i, k, c, d, hc, hpos, hd, hclass, -⟩ := hback f hf'
      · cases hf.symm.trans he
      · refine (hsource c (List.mem_of_getElem? hc)).2 d (List.mem_of_getElem? (i := k - 1) ?_) hclass
        rw [List.getElem?_tail, Nat.sub_add_cancel hpos]
        exact hd
    cases hf : found with
    | none => rw [hnone hf]
    | some e =>
      obtain ⟨f, hf', -⟩ := honward e hf fun c hc => (hsource c (List.mem_of_getElem? hc)).1
      rw [hf']
      rfl
  · obtain ⟨e', he', heq⟩ | ⟨hnone, -⟩ := hback f hf
    · cases he.symm.trans he'
      exact heq
    · cases he.symm.trans hnone

/-- A composed letter at which the match ends and one behind it. -/
theorem matchAt_decomposed_accented :
    let o : CompareOptions := ⟨true, false, false⟩
    let source : Text := ['\u00C9', '\u00E0']
    o.isLiteral = false ∧ o.matchAt source 0 ['e', '\u0301'] = .ok (some 1) ∧
      ∃ f : Nat, o.matchAt (decomposed source) 0 ['e', '\u0301'] = .ok (some f) ∧
        decomposed (source.take 1) = (decomposed source).take f := by
  intro o source
  have hlength : (unicode.folding o).matchLength source ['e', '\u0301'] = some 1 := by
    decide +kernel
  have hmatch : o.matchAt source 0 ['e', '\u0301'] = .ok (some 1) := by
    rw [matchAt_zero rfl, hlength]
    rfl
  have hparts : nfd ['\u00E0'] = ['a', '\u0300'] := by decide +kernel
  have hbase : combiningClass 'a' = 0 := by decide +kernel
  obtain ⟨found, found', hfound, hfound', honward, -⟩ :=
    matchAt_decomposed (o := o) rfl source ['e', '\u0301']
  have hone : found = some 1 := by
    rw [hmatch] at hfound
    cases found with
    | none => cases hfound
    | some e =>
      cases hfound
      rfl
  have hopen (c : Char) (hc : source[1]? = some c) : ¬ OpensWithMark c := by
    cases hc
    rintro ⟨-, d, rest, hd, hmark⟩
    rw [hparts] at hd
    cases hd
    exact hmark hbase
  obtain ⟨f, hf, heq⟩ := honward 1 hone hopen
  rw [hf] at hfound'
  exact ⟨rfl, hmatch, f, hfound', heq⟩

/-- The letters of a syllable match where the syllable does not, and a mark that decomposes counts
as a starter where its parts do not. -/
theorem matchAt_decomposed_exceptions :
    let o : CompareOptions := ⟨false, true, false⟩
    let p : CompareOptions := ⟨true, false, false⟩
    let syllable : Text := ['\uAC00']
    let marked : Text := ['a', '\u0F73']
    (o.matchAt syllable 0 ['\u1100'] = .ok none ∧
        o.matchAt (decomposed syllable) 0 ['\u1100'] = .ok (some 1)) ∧
      p.matchAt marked 0 ['a'] = .ok (some 1) ∧
        p.matchAt (decomposed marked) 0 ['a'] = .ok none := by
  intro o p syllable marked
  have hwhole : (unicode.folding o).matchLength syllable ['\u1100'] = none ∧
      (unicode.folding o).matchLength (decomposed syllable) ['\u1100'] = some 1 := by
    decide +kernel
  have hmarked : (unicode.folding p).matchLength marked ['a'] = some 1 ∧
      (unicode.folding p).matchLength (decomposed marked) ['a'] = none := by
    decide +kernel
  refine ⟨⟨?_, ?_⟩, ?_, ?_⟩
  · rw [matchAt_zero rfl, hwhole.1]
    rfl
  · rw [matchAt_zero rfl, hwhole.2]
    rfl
  · rw [matchAt_zero rfl, hmarked.1]
    rfl
  · rw [matchAt_zero rfl, hmarked.2]
    rfl

end CompareOptions

end TextScan
