import TextScan.Proofs.Compare.AbsorptionCheck
import TextScan.Proofs.Compare.Decomposed

/-!
# Modes with more flags

A mode with more flags folds what a mode with fewer made of a text as it folds the text itself
(`fold_fold`), so texts that are alike in a mode stay alike when flags are added
(`fold_of_includes`). There is one exception. The iota below is a mark, which a mode that ignores
diacritics drops, but its case folding is a letter; so a mode that ignores case as well keeps what
the mode without case dropped (`fold_of_includes_iota`). No other character does this.
-/

namespace TextScan

namespace CompareOptions

open Unicode
open CharacterData (unicode)

variable {o o' : CompareOptions}

/-! ## Inclusion -/

theorem includes_iff :
    o'.includes o = true ↔
      o.caseInsensitive ≤ o'.caseInsensitive ∧ o.diacriticInsensitive ≤ o'.diacriticInsensitive ∧
        o.widthInsensitive ≤ o'.widthInsensitive := by
  obtain ⟨c, d, w⟩ := o
  obtain ⟨c', d', w'⟩ := o'
  cases c <;> cases d <;> cases w <;> cases c' <;> cases d' <;> cases w' <;> decide

theorem isLiteral_iff : o.isLiteral = true ↔ o = literal := by
  obtain ⟨c, d, w⟩ := o
  cases c <;> cases d <;> cases w <;> decide

/-- Only the exact mode is included in the exact mode. -/
theorem eq_literal_of_includes (h : literal.includes o = true) : o = literal := by
  obtain ⟨c, d, w⟩ := o
  revert h
  cases c <;> cases d <;> cases w <;> decide

/-! ## Folding in two stages -/

/-- A text in the spelling of a mode, with the marks that the mode may drop. -/
def spelledText (o : CompareOptions) (t : Text) : Text :=
  t.flatMap (unicode.spelled o.widthInsensitive o.caseInsensitive)

theorem fold_literal (t : Text) : literal.fold t = t := flatMap_of_forall fun _ _ => rfl

theorem fold_cons (o : CompareOptions) (c : Char) (t : Text) :
    o.fold (c :: t) = o.foldChar c ++ o.fold t := rfl

theorem fold_eq (ho : o.isLiteral = false) (t : Text) :
    o.fold t = if o.diacriticInsensitive then
      (o.spelledText t).filter fun d => combiningClass d = 0 else o.spelledText t := by
  have hfold : o.fold t = t.flatMap (unicode.foldChar o) := rfl
  rw [hfold, funext (foldChar_unicode ho)]
  cases o.diacriticInsensitive with
  | false => rfl
  | true =>
    simp only [if_true]
    rw [spelledText, List.filter_flatMap]

/-- A coarser mode spells a text as it spells its spelling in a finer one. -/
theorem spelledText_spelledText (h : o'.includes o = true) (t : Text) :
    o'.spelledText (o.spelledText t) = o'.spelledText t := by
  obtain ⟨hcase, -, hwidth⟩ := includes_iff.mp h
  exact flatMap_absorbed (fun e _ => absorbs e) hwidth hcase

theorem fold_spelledText (h : o'.includes o = true) (ho' : o'.isLiteral = false) (t : Text) :
    o'.fold (o.spelledText t) = o'.fold t := by
  rw [fold_eq ho', fold_eq ho', spelledText_spelledText h]

/-- What folds away may be left out. -/
theorem fold_filter {p : Char → Bool} {t : Text}
    (h : ∀ d ∈ t, p d = false → o.foldChar d = []) : o.fold (t.filter p) = o.fold t := by
  induction t with
  | nil => rfl
  | cons c rest ih =>
    have hrest := ih fun d hd => h d (List.mem_cons_of_mem c hd)
    rw [fold_cons]
    cases hc : p c with
    | true => rw [List.filter_cons_of_pos hc, fold_cons, hrest]
    | false =>
      rw [List.filter_cons_of_neg (by rw [hc]; exact Bool.false_ne_true), hrest,
        h c List.mem_cons_self hc, List.nil_append]

/-! ## Marks that fold away -/

theorem isLiteral_of_diacriticInsensitive (hdia : o.diacriticInsensitive = true) :
    o.isLiteral = false := by
  rw [isLiteral, hdia, Bool.not_true, Bool.and_false, Bool.false_and]

theorem foldChar_of_marks (hdia : o.diacriticInsensitive = true) {c : Char}
    (h : ∀ x ∈ unicode.spelled o.widthInsensitive o.caseInsensitive c, combiningClass x ≠ 0) :
    o.foldChar c = [] := by
  have hfold : o.foldChar c = _ := foldChar_unicode (isLiteral_of_diacriticInsensitive hdia) c
  rw [hfold, if_pos hdia, List.filter_eq_nil_iff]
  simpa only [decide_eq_true_eq] using h

theorem foldChar_of_mark (hdia : o.diacriticInsensitive = true) {c : Char}
    (hclass : combiningClass c ≠ 0) (hiota : c ≠ iotaMark) : o.foldChar c = [] :=
  foldChar_of_marks hdia (spelled_of_mark hclass hiota _ _)

/-- The iota is a mark like others where case counts. -/
theorem foldChar_iotaMark (hdia : o.diacriticInsensitive = true)
    (hcase : o.caseInsensitive = false) : o.foldChar iotaMark = [] := by
  obtain ⟨-, hstep, hclass⟩ := iotaMark_spec
  refine foldChar_of_marks hdia fun x hx => ?_
  rw [hcase, spelled_of_stepFree hstep, spelled_of_none (canonicalStep?_of_stepFree hstep)] at hx
  rwa [List.mem_singleton.mp hx]

/-- Where case does not count there is no iota below. -/
theorem iotaMark_notMem (hcase : o.caseInsensitive = true) (t : Text) :
    iotaMark ∉ o.spelledText t := by
  intro hmem
  obtain ⟨c, -, hc⟩ := List.mem_flatMap.mp hmem
  rw [hcase] at hc
  exact (absorbs c).iota_notMem _ hc

/-! ## Folding again with more flags -/

/-- The one mode drops the iota below as a mark, the other keeps it as a letter. -/
def DropsIota (o o' : CompareOptions) : Prop :=
  o.diacriticInsensitive = true ∧ o.caseInsensitive = false ∧ o'.caseInsensitive = true

/-- The folding with the iota below kept. -/
def foldWithIota (o : CompareOptions) (t : Text) : Text :=
  if o.diacriticInsensitive then
    (o.spelledText t).filter fun d => combiningClass d = 0 || d = iotaMark
  else o.fold t

section Includes

variable (h : o'.includes o = true)
include h

/-- A mode that includes one that folds folds, and drops marks if that one does. -/
theorem isLiteral_of_includes (ho : o.isLiteral = false) : o'.isLiteral = false := by
  rw [Bool.eq_false_iff, ne_eq, isLiteral_iff]
  rintro rfl
  rw [eq_literal_of_includes h] at ho
  cases ho

theorem diacriticInsensitive_of_includes (hdia : o.diacriticInsensitive = true) :
    o'.diacriticInsensitive = true := (includes_iff.mp h).2.1 hdia

/-- Marks of the finer spelling may be left out if the coarser mode folds them away. -/
theorem fold_filter_spelledText (hdia : o.diacriticInsensitive = true) {p : Char → Bool} {t : Text}
    (hp : ∀ d, p d = false → combiningClass d ≠ 0)
    (hiota : iotaMark ∈ o.spelledText t → p iotaMark = false → o'.foldChar iotaMark = []) :
    o'.fold ((o.spelledText t).filter p) = o'.fold t := by
  have hdia' := diacriticInsensitive_of_includes h hdia
  have ho' := isLiteral_of_diacriticInsensitive hdia'
  rw [fold_filter fun d hd hpd => ?_, fold_spelledText h ho']
  by_cases hd' : d = iotaMark
  · subst hd'
    exact hiota hd hpd
  · exact foldChar_of_mark hdia' (hp d hpd) hd'

/-- Without marks dropped, the fold is the spelling. -/
theorem fold_fold_of_marksKept (hdia : o.diacriticInsensitive = false) (t : Text) :
    o'.fold (o.fold t) = o'.fold t := by
  cases ho : o.isLiteral with
  | true => rw [isLiteral_iff.mp ho, fold_literal]
  | false =>
    have hspelled : o.fold t = o.spelledText t := by
      rw [fold_eq ho, hdia, if_neg Bool.false_ne_true]
    rw [hspelled, fold_spelledText h (isLiteral_of_includes h ho)]

/-- **Folding again with more flags** is folding once with them, unless the iota is dropped. -/
theorem fold_fold {t : Text} (hiota : DropsIota o o' → iotaMark ∉ o.spelledText t) :
    o'.fold (o.fold t) = o'.fold t := by
  cases hdia : o.diacriticInsensitive with
  | false => exact fold_fold_of_marksKept h hdia t
  | true =>
    have ho : o.isLiteral = false := isLiteral_of_diacriticInsensitive hdia
    rw [fold_eq ho, if_pos hdia]
    refine fold_filter_spelledText h hdia (fun d hd => of_decide_eq_false hd) fun hmem _ => ?_
    cases hcase' : o'.caseInsensitive with
    | false => exact foldChar_iotaMark (diacriticInsensitive_of_includes h hdia) hcase'
    | true =>
      cases hcase : o.caseInsensitive with
      | true => exact absurd hmem (iotaMark_notMem hcase t)
      | false => exact absurd hmem (hiota ⟨hdia, hcase, hcase'⟩)

theorem fold_foldWithIota (t : Text) : o'.fold (o.foldWithIota t) = o'.fold t := by
  unfold foldWithIota
  cases hdia : o.diacriticInsensitive with
  | false =>
    rw [if_neg Bool.false_ne_true]
    exact fold_fold_of_marksKept h hdia t
  | true =>
    rw [if_pos rfl]
    refine fold_filter_spelledText h hdia (fun d hd => ?_) fun _ hdropped => ?_
    · simp only [Bool.or_eq_false_iff, decide_eq_false_iff_not] at hd
      exact hd.1
    · rw [decide_eq_true rfl, Bool.or_true] at hdropped
      cases hdropped

end Includes

/-- **Adding flags keeps texts alike.** Texts that a mode folds alike are folded alike by every mode
with more flags, unless the first drops the iota below and the other keeps it; and then still if
neither text has the iota in its spelling, or if they are alike with the iota kept. -/
theorem fold_of_includes (h : o'.includes o = true) (s t : Text) :
    (¬ DropsIota o o' → o.fold s = o.fold t → o'.fold s = o'.fold t) ∧
      (iotaMark ∉ o.spelledText s → iotaMark ∉ o.spelledText t →
        o.fold s = o.fold t → o'.fold s = o'.fold t) ∧
        (o.foldWithIota s = o.foldWithIota t → o'.fold s = o'.fold t) := by
  refine ⟨fun hkeeps heq => ?_, fun hs ht heq => ?_, fun heq => ?_⟩
  · rw [← fold_fold h (t := s) (absurd · hkeeps), heq, fold_fold h (absurd · hkeeps)]
  · rw [← fold_fold h fun _ => hs, heq, fold_fold h fun _ => ht]
  · rw [← fold_foldWithIota h s, heq, fold_foldWithIota h t]

/-- A ligature and its letters, alike without case, and a composed letter and its base, alike
without diacritics. -/
theorem fold_of_includes_letters :
    let case : CompareOptions := ⟨true, false, false⟩
    let marks : CompareOptions := ⟨false, true, false⟩
    let all : CompareOptions := ⟨true, true, true⟩
    (all.includes case = true ∧ case.fold ['\uFB03'] = case.fold ['F', 'f', 'I'] ∧
        all.fold ['\uFB03'] = all.fold ['F', 'f', 'I']) ∧
      all.includes marks = true ∧ marks.fold ['\u1F84'] = marks.fold ['\u03B1', '\u0345'] ∧
        marks.foldWithIota ['\u1F84'] = marks.foldWithIota ['\u03B1', '\u0345'] ∧
          all.fold ['\u1F84'] = all.fold ['\u03B1', '\u0345'] := by
  intro case marks all
  have hcase : all.includes case = true := by decide
  have hmarks : all.includes marks = true := by decide
  have hligature : case.fold ['\uFB03'] = case.fold ['F', 'f', 'I'] := by decide +kernel
  have hiota : marks.foldWithIota ['\u1F84'] = marks.foldWithIota ['\u03B1', '\u0345'] := by
    decide +kernel
  have hkeeps : ¬ DropsIota case all := fun hdrops => Bool.false_ne_true hdrops.1
  exact ⟨⟨hcase, hligature, (fold_of_includes hcase _ _).1 hkeeps hligature⟩, hmarks,
    by decide +kernel, hiota, (fold_of_includes hmarks _ _).2.2 hiota⟩

/-- The iota below folds to a letter: dropped as a mark it makes no difference, and without case it
does. -/
theorem fold_of_includes_iota :
    let o : CompareOptions := ⟨false, true, false⟩
    let o' : CompareOptions := ⟨true, true, false⟩
    o'.includes o = true ∧ o.fold ['\u03B1', '\u0345'] = o.fold ['\u03B1'] ∧
      o'.fold ['\u03B1', '\u0345'] ≠ o'.fold ['\u03B1'] := by
  decide +kernel

end CompareOptions

end TextScan
