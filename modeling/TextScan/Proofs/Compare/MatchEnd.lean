import TextScan.Proofs.Compare.Matching
import TextScan.Proofs.Compare.Opening

/-!
# What follows a match

A match in a mode that folds ends before a character without a class that does not fold away. Such a
character folds to a text with a starter in front, so that no mark of the last character that was
matched is left behind, with the exceptions that `joins` lists (`matchAt_stops`). An exception is left
behind wherever it follows a match (`matchAt_before_joined`).
-/

namespace TextScan

/-! ## More text behind a match -/

namespace Folding

variable {F : Folding} {t literal : Text}

/-- A match of a whole text stays one in front of a character that has to follow it. -/
theorem IsMatch.append (h : F.IsMatch t literal t.length) {c : Char} (hkept : F.fold c ≠ [])
    (hmark : F.isMark c = false) (rest : Text) : F.IsMatch (t ++ c :: rest) literal t.length := by
  have halike : F.foldText t = F.foldText literal := by
    rw [← h.alike, List.take_length]
  refine ⟨h.literal_kept, ?_, ?_, ?_, fun d hd => ?_⟩
  · cases t with
    | nil => exact absurd halike.symm h.literal_kept
    | cons a t => exact h.start_kept
  · rw [List.length_append]
    exact Nat.le_add_right _ _
  · rw [List.take_left]
    exact halike
  · rw [List.getElem?_append_right (Nat.le_refl _), Nat.sub_self] at hd
    cases hd
    exact ⟨hkept, hmark⟩

theorem isMatch_self {a : Char} (ha : F.fold a ≠ []) (t : Text) :
    F.IsMatch (a :: t) (a :: t) (a :: t).length := by
  refine ⟨?_, ?_, Nat.le_refl _, by rw [List.take_length], fun c hc => ?_⟩
  · rw [foldText_cons]
    exact fun hnil => ha (List.append_eq_nil_iff.mp hnil).1
  · rw [startsVanishing, Bool.eq_false_iff, ne_eq, vanishes_iff]
    exact ha
  · rw [List.getElem?_eq_none (Nat.le_refl _)] at hc
    cases hc

end Folding

namespace CompareOptions

open Unicode
open CharacterData (unicode)

/-- The characters without a class that fold to a mark in front: none if marks are dropped. -/
def joins (o : CompareOptions) (c : Char) : Bool :=
  !o.diacriticInsensitive && Unicode.joins o.widthInsensitive c

section Folds

variable {o : CompareOptions} (ho : o.isLiteral = false) {c : Char}
include ho

theorem foldChar_opens (hstarter : combiningClass c = 0) (hkept : o.foldChar c ≠ []) :
    ∃ d rest, o.foldChar c = d :: rest ∧ (combiningClass d = 0 ↔ o.joins c = false) := by
  have hfold : o.foldChar c = _ := foldChar_unicode ho c
  unfold joins
  cases hdiacritic : o.diacriticInsensitive with
  | false =>
    rw [hdiacritic, if_neg Bool.false_ne_true] at hfold
    rw [hfold]
    exact spelled_opens hstarter o.widthInsensitive o.caseInsensitive
  | true =>
    rw [hdiacritic, if_pos rfl] at hfold
    -- Whatever is left once marks are dropped is a starter.
    obtain ⟨d, rest, hd⟩ := List.exists_cons_of_ne_nil hkept
    have hmem : d ∈ o.foldChar c := hd ▸ List.mem_cons_self
    rw [hfold, List.mem_filter, decide_eq_true_eq] at hmem
    exact ⟨d, rest, hd, iff_of_true hmem.2 rfl⟩

/-- **A match stops before a starter.** The character at the end of a match has no class, and folds
to a text with a starter in front just if it is none of those that join the character before. -/
theorem matchAt_stops {source literal : Text} {start : Nat} (hs : start ≤ source.length) {e : Int}
    (h : o.matchAt source start literal = .ok (some e)) :
    ∃ stop : Nat, e = stop ∧ stop ≤ source.length ∧
      (stop < source.length → ∃ c d rest, source[stop]? = some c ∧ combiningClass c = 0 ∧
        o.foldChar c = d :: rest ∧ (combiningClass d = 0 ↔ o.joins c = false)) := by
  obtain ⟨found, hanswer, hfound, -, -⟩ :=
    CharacterData.matchAt_finds unicode o ho source literal start hs
  have hmatch : unicode.matchAt o source start literal = .ok (some e) := h
  rw [hmatch] at hanswer
  cases found with
  | none => cases hanswer
  | some stop =>
    cases hanswer
    have hto := (hfound stop).mp rfl
    refine ⟨stop, rfl, hto.stop_le, fun hlt => ?_⟩
    -- The match is known to end before a character without a class of its own that is kept.
    obtain hend | ⟨c, hc, hkept, hclass⟩ := hto.stops
    · omega
    · rw [combiningClass_unicode] at hclass
      obtain ⟨d, rest, hd, hiff⟩ := foldChar_opens ho hclass hkept
      exact ⟨c, d, rest, hc, hclass, hd, hiff⟩

/-- What joins the character before is left behind a match of that character all the same, and it
folds to a mark. -/
theorem matchAt_before_joined {t literal : Text}
    (h : o.matchAt t 0 literal = .ok (some (t.length : Int))) (hc : o.joins c = true) (rest : Text) :
    o.matchAt (t ++ c :: rest) 0 literal = .ok (some (t.length : Int)) ∧
      ∃ d more, o.foldChar c = d :: more ∧ combiningClass d ≠ 0 := by
  obtain ⟨hdiacritic, hjoins⟩ : (!o.diacriticInsensitive) = true ∧
      Unicode.joins o.widthInsensitive c = true := Bool.and_eq_true_iff.mp hc
  have hclass : combiningClass c = 0 := starter_of_joins hjoins
  have hfold : o.foldChar c = unicode.spelled o.widthInsensitive o.caseInsensitive c := by
    rw [Bool.not_eq_true'] at hdiacritic
    refine (foldChar_unicode ho c).trans ?_
    rw [hdiacritic, if_neg Bool.false_ne_true]
  obtain ⟨d, more, hd, hmark⟩ := spelled_opens hclass o.widthInsensitive o.caseInsensitive
  rw [← hfold] at hd
  have hkept : o.foldChar c ≠ [] := by
    rw [hd]
    exact List.cons_ne_nil d more
  refine ⟨?_, d, more, hd, ?_⟩
  · rw [matchAt_zero_iff ho] at h ⊢
    exact h.append hkept (isMark_unicode.mpr hclass) rest
  · rw [hjoins] at hmark
    exact fun hstarter => Bool.noConfusion (hmark.mp hstarter)

end Folds

/-- Between two ideographs, without regard to case and width. -/
theorem matchAt_stops_ideograph :
    let o : CompareOptions := ⟨true, false, true⟩
    o.isLiteral = false ∧ o.matchAt ['一', '二'] 0 ['一'] = .ok (some 1) ∧
      ∃ d rest, o.foldChar '二' = d :: rest ∧ combiningClass d = 0 := by
  intro o
  have hzone : (0x3400, 0x9FFF) ∈ inertZones := by decide
  have hfold (c : Char) (hc : Inert c) : o.foldChar c = [c] :=
    (foldChar_unicode rfl c).trans (spelled_of_inert hc true true)
  have hone : Inert '一' := inert_of_mem hzone (by decide) (by decide)
  have htwo : Inert '二' := inert_of_mem hzone (by decide) (by decide)
  have hkept {c : Char} (hc : Inert c) : (unicode.folding o).fold c ≠ [] := by
    show o.foldChar c ≠ []
    rw [hfold c hc]
    exact List.cons_ne_nil c []
  have hmatch : o.matchAt ['一', '二'] 0 ['一'] = .ok (some 1) :=
    (matchAt_zero_iff rfl).mpr ((Folding.isMatch_self (hkept hone) []).append (hkept htwo)
      (isMark_unicode.mpr htwo.starter) [])
  have hstart : 0 ≤ (['一', '二'] : Text).length := Nat.zero_le _
  obtain ⟨stop, hstop, -, hnext⟩ := matchAt_stops (o := o) rfl hstart hmatch
  obtain rfl : stop = 1 := Int.ofNat_inj.mp hstop.symm
  obtain ⟨c, d, rest, hc, -, hd, hiff⟩ := hnext (by decide)
  cases hc
  exact ⟨rfl, hmatch, d, rest, hd, hiff.mpr (by decide)⟩

/-- The voiced sound of a halfwidth letter is cut off, and what is left folds to a mark. -/
theorem matchAt_stops_soundMark :
    let o : CompareOptions := ⟨false, false, true⟩
    o.matchAt ['\uFF76', '\uFF9E'] 0 ['\u30AB'] = .ok (some 1) ∧
      o.foldChar '\uFF9E' = ['\u3099'] ∧ combiningClass '\u3099' = 8 := by
  intro o
  have hfacts : (unicode.folding o).matchLength ['\uFF76', '\uFF9E'] ['\u30AB'] = some 1 ∧
      o.foldChar '\uFF9E' = ['\u3099'] ∧ combiningClass '\u3099' = 8 := by
    decide +kernel
  refine ⟨?_, hfacts.2⟩
  rw [matchAt_zero rfl, hfacts.1]
  rfl

end CompareOptions

end TextScan
