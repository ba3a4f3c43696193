import TextScan.Proofs.Compare.Inclusion
import TextScan.Proofs.Unicode.Recomposition

/-!
# Composed and decomposed texts

A mode that folds goes character by character: it decomposes each one and does not put marks of
different characters in order. A composed text folds like its characters decomposed one by one, and
these need only be reordered to give the decomposition of the text (`reorder_decomposed_nfc`). So
the two forms of a text fold alike just if there was nothing to reorder or marks are dropped, and
they always fold to the same characters (`fold_nfc`).
-/

namespace TextScan

namespace Unicode

open CharacterData (unicode)

/-! ## Decomposing character by character -/

theorem reorder_decomposed (t : Text) : reorder (decomposed t) = nfd t := by
  simp only [decomposed, nfd, List.flatMap_singleton]
  exact reorder_flatMap canonicalDecomposition t

theorem reorder_decomposed_nfc (t : Text) : reorder (decomposed (nfc t)) = nfd t := by
  rw [reorder_decomposed, nfd_nfc]

theorem elementary_decomposed (t : Text) : Elementary (decomposed t) := by
  intro d hd
  obtain ⟨c, -, hd⟩ := List.mem_flatMap.mp hd
  exact canonicalStep?_of_mem_nfd hd

/-! ## Marks that do not decompose -/

structure ElementaryMark (c : Char) : Prop where
  isMark : combiningClass c ≠ 0
  elementary : canonicalStep? c = none

/-- Whether a mark decomposes, or else has neither a compatibility mapping nor, unless it is the
iota, a case folding. -/
def checkPlainMark (c : Char) : Bool :=
  Nat.beq c.toNat iotaMark.toNat || stepFree c && uncased c || (canonicalStep? c).isSome

set_option maxRecDepth 100000 in
theorem plainMarkRows_checked :
    (CombiningClass.rows.all fun r => untouched r.lo r.hi || charsAll checkPlainMark r) = true := by
  decide +kernel

theorem iotaMark_caseFold : caseFold iotaMark = ['\u03B9'] ∧ combiningClass '\u03B9' = 0 ∧
    nfd ['\u03B9'] = ['\u03B9'] := by decide +kernel

/-- The iota is spelled as itself where case counts and else as the letter. -/
theorem spelled_iotaMark (width caseless : Bool) :
    unicode.spelled width caseless iotaMark = [if caseless then '\u03B9' else iotaMark] := by
  obtain ⟨-, hstep, -⟩ := iotaMark_spec
  obtain ⟨hfold, -, hletter⟩ := iotaMark_caseFold
  rw [spelled_of_stepFree hstep]
  cases caseless with
  | false => exact spelled_of_none (canonicalStep?_of_stepFree hstep)
  | true =>
    rw [spelled_caseless, hfold]
    exact hletter

/-- A mark that does not decompose is spelled as itself, unless it is the iota. -/
theorem spelled_of_elementaryMark {c : Char} (h : ElementaryMark c) (hiota : c ≠ iotaMark)
    (width caseless : Bool) : unicode.spelled width caseless c = [c] := by
  rcases mark_of_checkedRows plainMarkRows_checked h.isMark with ⟨hfree, hfold⟩ | hcheck
  · exact spelled_of_uncased hfree hfold width caseless
  · rw [checkPlainMark, h.elementary, Option.isSome_none, Bool.or_false, Bool.or_eq_true,
      Bool.and_eq_true, stepFree_iff, Nat.beq_eq] at hcheck
    rcases hcheck with hcode | ⟨hfree, hfold⟩
    · exact absurd (Char.toNat_inj.mp hcode) hiota
    · exact spelled_of_uncased hfree (eq_of_same hfold) width caseless

/-- The spelling of a mark that does not decompose is one character, and tells the mark. -/
theorem eq_of_spelled_append {a b : Char} (ha : ElementaryMark a) (hb : ElementaryMark b)
    {width caseless : Bool} {s t : Text}
    (h : unicode.spelled width caseless a ++ s = unicode.spelled width caseless b ++ t) :
    a = b ∧ s = t := by
  -- The letter that the iota is spelled as is no mark.
  have hletter {c : Char} (hc : ElementaryMark c) :
      (if caseless then '\u03B9' else iotaMark) = c → iotaMark = c := by
    rintro rfl
    cases caseless with
    | false => rfl
    | true => exact absurd iotaMark_caseFold.2.1 hc.isMark
  by_cases haiota : a = iotaMark
  · by_cases hbiota : b = iotaMark
    · subst haiota hbiota
      exact ⟨rfl, List.append_cancel_left h⟩
    · rw [haiota, spelled_iotaMark, spelled_of_elementaryMark hb hbiota] at h
      obtain ⟨hab, hst⟩ := List.cons.inj h
      exact ⟨haiota.trans (hletter hb hab), hst⟩
  · by_cases hbiota : b = iotaMark
    · rw [hbiota, spelled_iotaMark, spelled_of_elementaryMark ha haiota] at h
      obtain ⟨hab, hst⟩ := List.cons.inj h
      exact ⟨(hletter ha hab.symm).symm.trans hbiota.symm, hst⟩
    · rw [spelled_of_elementaryMark ha haiota, spelled_of_elementaryMark hb hbiota] at h
      exact List.cons.inj h

end Unicode

namespace CompareOptions

open Unicode
open CharacterData (unicode)

variable {o : CompareOptions}

/-! ## Texts with marks in another order -/

/-- Texts which differ in the order of marks are spelled alike only if they are equal. -/
theorem eq_of_spelledText {s t : Text} (h : List.Forall₂ SamePlace s t) (hs : Elementary s)
    (ht : Elementary t) (halike : o.spelledText s = o.spelledText t) : s = t := by
  induction h with
  | nil => rfl
  | @cons a b s t hab hrest ih =>
    have hastep : canonicalStep? a = none := hs a List.mem_cons_self
    have hbstep : canonicalStep? b = none := ht b List.mem_cons_self
    have hrests : o.spelledText s = o.spelledText t → s = t :=
      ih (fun d hd => hs d (List.mem_cons_of_mem a hd)) fun d hd => ht d (List.mem_cons_of_mem b hd)
    rw [spelledText, spelledText, List.flatMap_cons, List.flatMap_cons] at halike
    rcases hab with rfl | ⟨ha, hb⟩
    · rw [hrests (List.append_cancel_left halike)]
    · obtain ⟨rfl, hst⟩ := eq_of_spelled_append ⟨ha, hastep⟩ ⟨hb, hbstep⟩ halike
      rw [hrests hst]

theorem spelledText_reorder_iff {t : Text} (ht : Elementary t) :
    o.spelledText t = o.spelledText (reorder t) ↔ InOrder t := by
  have hreordered : Elementary (reorder t) := fun d hd => ht d ((reorder_perm t).mem_iff.mp hd)
  refine ⟨fun halike => ?_, fun h => by rw [reorder_of_inOrder h]⟩
  exact reorder_eq_self_iff.mp (eq_of_spelledText (forall₂_reorder t) hreordered ht halike.symm)

/-- Of two marks of different classes one is not the iota, and that one folds away. -/
theorem foldChar_append_comm (hdia : o.diacriticInsensitive = true) {c d : Char}
    (hc : combiningClass c ≠ 0) (hd : combiningClass d ≠ 0)
    (hne : combiningClass c ≠ combiningClass d) (t : Text) :
    o.foldChar c ++ (o.foldChar d ++ t) = o.foldChar d ++ (o.foldChar c ++ t) := by
  by_cases hiota : c = iotaMark
  · have hother : d ≠ iotaMark := by
      rintro rfl
      exact hne (by rw [hiota])
    rw [foldChar_of_mark hdia hd hother]
    rfl
  · rw [foldChar_of_mark hdia hc hiota]
    rfl

theorem fold_insertMark (hdia : o.diacriticInsensitive = true) (c : Char) (t : Text) :
    o.fold (insertMark c t) = o.foldChar c ++ o.fold t := by
  induction t with
  | nil => rfl
  | cons d rest ih =>
    by_cases hpass : 0 < combiningClass d ∧ combiningClass d < combiningClass c
    · rw [insertMark_of_lt hpass.1 hpass.2, fold_cons, fold_cons, ih]
      exact foldChar_append_comm hdia (by omega) (by omega) (by omega) _
    · rw [insertMark_of_not hpass, fold_cons]

/-- Where marks are dropped their order makes no difference. -/
theorem fold_reorder (hdia : o.diacriticInsensitive = true) (t : Text) :
    o.fold (reorder t) = o.fold t := by
  induction t with
  | nil => rfl
  | cons c rest ih => rw [reorder_cons, fold_insertMark hdia, ih, fold_cons]

/-! ## The two forms of a text -/

theorem fold_decomposed (ho : o.isLiteral = false) (t : Text) : o.fold (decomposed t) = o.fold t :=
  Folding.foldText_respelled (respells_nfd ho) t

/-- **The composed and the decomposed form of a text fold alike** just if marks are dropped or the
characters of the composed form, each decomposed, have their marks in order; in particular if marks
that stand together are of one class. In every case they fold to the same characters, some of them
in another order. -/
theorem fold_nfc (ho : o.isLiteral = false) (t : Text) :
    (o.fold (nfc t) = o.fold (nfd t) ↔
        o.diacriticInsensitive = true ∨ InOrder (decomposed (nfc t))) ∧
      (OneClass (nfd t) → o.fold (nfc t) = o.fold (nfd t)) ∧
        (o.fold (nfc t)).Perm (o.fold (nfd t)) := by
  have hreorder : reorder (decomposed (nfc t)) = nfd t := reorder_decomposed_nfc t
  have hiff : o.fold (nfc t) = o.fold (nfd t) ↔
      o.diacriticInsensitive = true ∨ InOrder (decomposed (nfc t)) := by
    rw [← fold_decomposed ho (nfc t), ← hreorder]
    cases hdia : o.diacriticInsensitive with
    | true =>
      rw [fold_reorder hdia]
      exact ⟨fun _ => .inl rfl, fun _ => rfl⟩
    | false =>
      rw [fold_eq ho, fold_eq ho, hdia, if_neg Bool.false_ne_true, if_neg Bool.false_ne_true,
        spelledText_reorder_iff (elementary_decomposed _)]
      exact ⟨.inr, fun h => h.resolve_left Bool.false_ne_true⟩
  refine ⟨hiff, fun hclass => ?_, ?_⟩
  · rw [← hreorder] at hclass
    exact hiff.mpr (.inr (inOrder_of_oneClass hclass))
  · rw [← fold_decomposed ho (nfc t), ← hreorder]
    exact ((reorder_perm _).flatMap_right _).symm

/-- A circumflex before a dot below: composed to one letter, and decomposed with the dot first. And
two marks of one class, of which the letter takes up the first. -/
theorem fold_nfc_dotBelow :
    let o : CompareOptions := ⟨true, false, false⟩
    let dotted : Text := ['E', '\u0302', '\u0323']
    let accented : Text := ['E', '\u0301', '\u0300']
    o.isLiteral = false ∧
      (nfc dotted = ['\u1EC6'] ∧ InOrder (decomposed (nfc dotted)) ∧
        o.fold (nfc dotted) = o.fold (nfd dotted)) ∧
      nfc accented = ['\u00C9', '\u0300'] ∧ OneClass (nfd accented) ∧
        o.fold (nfc accented) = o.fold (nfd accented) := by
  intro o dotted accented
  have hinOrder : InOrder (decomposed (nfc dotted)) := by decide +kernel
  have hclass : OneClass (nfd accented) := by decide +kernel
  obtain ⟨hdotted, -, -⟩ := fold_nfc (o := o) rfl dotted
  obtain ⟨-, haccented, -⟩ := fold_nfc (o := o) rfl accented
  exact ⟨rfl, ⟨by decide +kernel, hinOrder, hdotted.mpr (.inr hinOrder)⟩, by decide +kernel, hclass,
    haccented hclass⟩

/-- A letter takes up the acute from behind the cedilla, and decomposed by itself has it before the
cedilla. -/
theorem fold_nfc_cedilla :
    let o : CompareOptions := ⟨true, false, false⟩
    let t : Text := ['a', '\u0327', '\u0301']
    nfc t = ['\u00E1', '\u0327'] ∧ nfd t = t ∧ o.fold (nfc t) = ['a', '\u0301', '\u0327'] ∧
      o.fold (nfd t) = ['a', '\u0327', '\u0301'] ∧ o.fold (nfc t) ≠ o.fold (nfd t) := by
  decide +kernel

end CompareOptions

end TextScan
