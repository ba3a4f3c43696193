import TextScan.Compare.Match
import TextScan.Proofs.Unicode.Decomposition

/-!
# How the modes spell a character

A mode that folds spells a character without differences of width or case and decomposed, and
drops the marks from this spelling if diacritics do not count (`foldChar_eq`). `SpelledByParts`
says of a character that its spelling is that of its canonical decomposition, part by part, and
that the first part tells whether it is a mark and whether its spelling is dropped. Characters
that do not decompose are of this kind, and those that decompose to inert ones
(`spelledByParts_of_inert`).
-/

namespace TextScan

namespace CharacterData

/-- The spelling of a character without differences of width, if they do not count. -/
def plain (D : CharacterData) (width : Bool) (c : Char) : Text := if width then D.nfkc [c] else [c]

/-- The spelling of a character before marks are dropped. -/
def spelled (D : CharacterData) (width caseless : Bool) (c : Char) : Text :=
  D.nfd (if caseless then (D.plain width c).flatMap D.caseFold else D.plain width c)

theorem foldChar_eq {D : CharacterData} {o : CompareOptions} (ho : o.isLiteral = false) (c : Char) :
    D.foldChar o c =
      if o.diacriticInsensitive then
        (D.spelled o.widthInsensitive o.caseInsensitive c).filter fun d => D.combiningClass d = 0
      else D.spelled o.widthInsensitive o.caseInsensitive c := by
  unfold foldChar
  rw [if_neg (by rw [ho]; exact Bool.false_ne_true)]
  rfl

end CharacterData

namespace CompareOptions

open CharacterData (unicode)
open Unicode (combiningClass)

variable {o : CompareOptions}

theorem combiningClass_unicode : unicode.combiningClass = combiningClass := by
  simp only [unicode]

theorem foldChar_unicode (ho : o.isLiteral = false) (c : Char) :
    unicode.foldChar o c =
      if o.diacriticInsensitive then
        (unicode.spelled o.widthInsensitive o.caseInsensitive c).filter fun d =>
          combiningClass d = 0
      else unicode.spelled o.widthInsensitive o.caseInsensitive c := by
  rw [← combiningClass_unicode]
  exact CharacterData.foldChar_eq ho c

theorem isMark_unicode {c : Char} :
    (unicode.folding o).isMark c = false ↔ combiningClass c = 0 := by
  rw [← combiningClass_unicode, CharacterData.folding, decide_eq_false_iff_not, ne_eq,
    Decidable.not_not]

end CompareOptions

namespace Unicode

open CharacterData (unicode)

theorem nfd_unicode : unicode.nfd = nfd := by
  simp only [unicode]

theorem caseFold_unicode : unicode.caseFold = caseFold := by
  simp only [unicode]

theorem spelled_of_plain_eq {width : Bool} {c : Char} {t : Text} (h : unicode.plain width c = t) :
    unicode.spelled width false c = nfd t ∧
      unicode.spelled width true c = nfd (t.flatMap caseFold) := by
  simp only [CharacterData.spelled, h, nfd_unicode, caseFold_unicode, Bool.false_eq_true, if_false,
    if_true, and_self]

/-- In every mode the character is spelled as the parts of its decomposition are, and the first
part decides what the character counts as. -/
structure SpelledByParts (c : Char) : Prop where
  parts_ne_nil : nfd [c] ≠ []
  spelled_eq : ∀ width caseless,
    unicode.spelled width caseless c = (nfd [c]).flatMap (unicode.spelled width caseless)
  starter_of_head : ∀ {d : Char} {rest : Text}, nfd [c] = d :: rest →
    combiningClass d = 0 → combiningClass c = 0
  nil_of_head : ∀ {d : Char} {rest : Text}, nfd [c] = d :: rest → ∀ width caseless,
    unicode.spelled width caseless d = [] → unicode.spelled width caseless c = []
  marks_of_head : ∀ {d : Char} {rest : Text}, nfd [c] = d :: rest → ∀ width caseless,
    (∀ x ∈ unicode.spelled width caseless d, combiningClass x ≠ 0) →
      ∀ x ∈ unicode.spelled width caseless c, combiningClass x ≠ 0

theorem spelledByParts_of_none {c : Char} (h : canonicalStep? c = none) : SpelledByParts c := by
  have hparts : nfd [c] = [c] := nfd_singleton_of_none h
  constructor
  · rw [hparts]
    exact List.cons_ne_nil c []
  · intro width caseless
    rw [hparts, List.flatMap_singleton]
  all_goals
    intro d rest hd
    rw [hparts] at hd
    cases hd
  · exact id
  · exact fun _ _ => id
  · exact fun _ _ => id

theorem spelled_of_plain {c : Char} {t : Text} {width : Bool} (hplain : unicode.plain width c = t)
    (ht : t.flatMap caseFold = t) (caseless : Bool) :
    unicode.spelled width caseless c = nfd t := by
  rw [CharacterData.spelled, hplain]
  simp only [unicode, ht, ite_self]

theorem spelled_of_inert {c : Char} (h : Inert c) (width caseless : Bool) :
    unicode.spelled width caseless c = [c] := by
  have hplain : unicode.plain width c = [c] := by
    cases width with
    | false => rfl
    | true => exact nfkc_of_inert h
  rw [spelled_of_plain hplain (by rw [List.flatMap_singleton, h.caseless]),
    nfd_singleton_of_none h.canonical]

/-- A character with a step to inert characters is spelled as they are, whether or not they
compose to it. -/
theorem spelledByParts_of_inert {c : Char} {t : Text} (hstep : canonicalStep? c = some t)
    (hne : t ≠ []) (ht : ∀ d ∈ t, Inert d) (hcompose : compose t = [c] ∨ compose t = t)
    (hcase : caseFold c = [c]) (hstarter : combiningClass c = 0) : SpelledByParts c := by
  have hparts : nfd [c] = t := nfd_of_step hstep ht
  have hinert : t.flatMap caseFold = t := flatMap_of_forall fun d hd => (ht d hd).caseless
  have hspelled (width caseless : Bool) : unicode.spelled width caseless c = t := by
    have hplain : unicode.plain width c = [c] ∨ unicode.plain width c = t := by
      cases width with
      | false => exact .inl rfl
      | true =>
        have hnfkc : unicode.plain true c = compose t := nfkc_of_step hstep ht
        rwa [hnfkc]
    rcases hplain with hplain | hplain
    · rw [spelled_of_plain hplain (by rw [List.flatMap_singleton, hcase]), hparts]
    · rw [spelled_of_plain hplain hinert, nfd_of_inert ht]
  have hhead {d : Char} {rest : Text} (hd : nfd [c] = d :: rest) : Inert d := by
    rw [hparts] at hd
    exact ht d (hd ▸ List.mem_cons_self)
  refine ⟨by rwa [hparts], fun width caseless => ?_, fun _ _ => hstarter, ?_, ?_⟩
  · rw [hspelled, hparts]
    exact (flatMap_of_forall fun d hd => spelled_of_inert (ht d hd) width caseless).symm
  · intro d rest hd width caseless hnil
    rw [spelled_of_inert (hhead hd)] at hnil
    cases hnil
  · intro d rest hd width caseless hmarks
    rw [spelled_of_inert (hhead hd)] at hmarks
    exact absurd (hhead hd).starter (hmarks d List.mem_cons_self)

theorem spelledByParts_of_syllable {c : Char} {t : Text} (h : Hangul.decompose? c = some t) :
    SpelledByParts c := by
  obtain ⟨hletters, hcompose⟩ := Hangul.compose_decompose h
  obtain ⟨hlo, hhi⟩ := Hangul.mem_of_decompose? h
  have hstep : canonicalStep? c = some t := by
    rw [canonicalStep?, h]
    rfl
  have hzone : (0xAC00, 0xD7A3) ∈ inertZones ++ compositeZones := by decide
  refine spelledByParts_of_inert hstep ?_ (fun d hd => ?_) (.inl hcompose)
    (caseFold_of_mem hzone hlo hhi) (combiningClass_of_mem hzone hlo hhi)
  · rintro rfl
    cases hcompose
  · exact inert_of_mem (z := (0x1100, 0x11FF)) (by decide) (hletters d hd).1 (hletters d hd).2

end Unicode

end TextScan
