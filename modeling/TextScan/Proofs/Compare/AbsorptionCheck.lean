import TextScan.Proofs.Compare.Absorption

/-!
# Kernel-cheap check of absorption

`absorbs` holds of every character: the checks go through the tables of mappings and of case
foldings, and characters that no table has need none. As in the check of spellings, characters are
computed before they are handed on (`forced`). What is asked of a whole row is asked of the other
tables at once (`RangeTree.clear`), and a row hands on what it sends a character to, so that the
character itself is not looked up again (`imagesAll`).
-/

namespace TextScan.Unicode

open CharacterData (unicode)

theorem spelling_fun (width caseless : Bool) :
    spelling width caseless = unicode.spelled width caseless :=
  funext (spelling_eq width caseless)

/-! ## Case foldings -/

def stepFree (c : Char) : Bool := isZoned c || (compatibilityStep? c).isNone

theorem stepFree_iff {c : Char} : stepFree c = true ↔ compatibilityStep? c = none := by
  rw [stepFree, Bool.or_eq_true, Option.isNone_iff_eq_none]
  exact or_iff_right_of_imp fun hzoned => (inert_of_isZoned hzoned).compatibilityStep?

def uncased (c : Char) : Bool := same (caseFold c) [c]

def isInert (c : Char) : Bool :=
  (canonicalStep? c).isNone && (compatibilityMapping? c).isNone && uncased c && isStarter c

theorem inert_of_isInert {c : Char} (h : isInert c = true) : Inert c := by
  simp only [isInert, Bool.and_eq_true, Option.isNone_iff_eq_none] at h
  obtain ⟨⟨⟨hcanonical, hcompatibility⟩, hcase⟩, hstarter⟩ := h
  exact ⟨hcanonical, hcompatibility, eq_of_same hcase, isStarter_iff.mp hstarter⟩

/-- Whether a character with this case folding folds to inert ones, if it does not decompose. -/
def checkFold (c : Char) (t : Text) : Bool := t.all (forced isInert) || !stepFree c

/-! ## Compatibility mappings -/

/-- The text that a character with this compatibility mapping decomposes to. -/
def letters (t : Text) : Text := reorder (t.flatMap (decompose compatibilityStep? 2))

/-- Whether a character with this compatibility mapping is spelled as its letters. -/
def checkLetters (t : Text) : Bool :=
  forcedText (fun u =>
    u.all (forced stepFree) &&
      forcedText (fun p =>
        same (forcedText nfd p) u &&
          same (forcedText nfd (p.flatMap caseFold)) (u.flatMap (forced (spelling false true))))
        (compose u)) (letters t)

def checkWidth (_ : Char) : Text → Bool
  | [e] => forced stepFree e || checkLetters [e]
  | t => checkLetters t

/-- Whether the spelling of a character without case absorbs. -/
def checkCase (c : Char) : Bool :=
  uncased c ||
    forcedText (fun t =>
      same (t.flatMap (forced (spelling false true))) t &&
        same (t.flatMap (forced (spelling true true))) (spelling true true c) &&
          t.all fun d => !Nat.beq d.toNat iotaMark.toNat) (spelling false true c)

def checkCaseRow (r : Mapping) : Bool :=
  CaseFolding.tree.clear r.lo r.hi || charsAll checkCase r

/-! ## Marks -/

/-- Whether no character from `lo` to `hi` decomposes or has a case folding. -/
def untouched (lo hi : Nat) : Bool :=
  (Nat.blt hi 0xAC00 || Nat.blt 0xD7A3 lo) && CanonicalMapping.tree.clear lo hi &&
    CompatibilityMapping.tree.clear lo hi && CaseFolding.tree.clear lo hi

/-- Whether a mark other than the iota is spelled with marks only, in every mode. -/
def checkMark (c : Char) : Bool :=
  Nat.beq c.toNat iotaMark.toNat || stepFree c && uncased c ||
    [false, true].all fun width => [false, true].all fun caseless =>
      (spelling width caseless c).all (!isStarter ·)

def checkMarkRow (r : Range Nat) : Bool := untouched r.lo r.hi || charsAll checkMark r

/-! ## The tables -/

-- A piece at a time, as the kernel keeps what it has computed until a piece is done.

set_option maxRecDepth 100000 in
theorem compatibilityRows_checked :
    CompatibilityMapping.rows.all (imagesAll checkWidth) = true ∧
      CompatibilityMapping.rows.all checkCaseRow = true := by
  have hwidth : CompatibilityMapping.rows.all (imagesAll checkWidth) = true :=
    all_of_pieces 1100 (by decide +kernel) (by decide +kernel)
  have hcase : CompatibilityMapping.rows.all checkCaseRow = true := by decide +kernel
  exact ⟨hwidth, hcase⟩

set_option maxRecDepth 100000 in
theorem otherRows_checked :
    CaseFolding.rows.all (imagesAll checkFold) = true ∧
      CombiningClass.rows.all checkMarkRow = true := by
  have hfold : CaseFolding.rows.all (imagesAll checkFold) = true := by decide +kernel
  have hmark : CombiningClass.rows.all checkMarkRow = true := by decide +kernel
  exact ⟨hfold, hmark⟩

/-! ## Absorption -/

theorem absorbs_of_none {c : Char} (h : compatibilityStep? c = none) : Absorbs c := by
  cases hfind : CaseFolding.tree.find? c.toNat with
  | none => exact absorbs_of_uncased h (caseFold_of_none hfind)
  | some r =>
    have hcheck : checkFold c (r.image c.toNat) = true := of_imagesAll otherRows_checked.1 hfind
    have himage : caseFold c = r.image c.toNat := by
      unfold caseFold
      rw [hfind]
    rw [checkFold, stepFree_iff.mpr h, Bool.not_true, Bool.or_false, ← himage] at hcheck
    refine absorbs_of_inert h fun d hd => inert_of_isInert ?_
    have hinert := List.all_eq_true.mp hcheck d hd
    rwa [forced_eq] at hinert

section Mapping

variable {c : Char} (hstep : canonicalStep? c = none)
include hstep

theorem nfkd_of_mapping {t : Text} (h : compatibilityMapping? c = some t) :
    nfkd [c] = letters t := by
  have hcompatibility : compatibilityStep? c = some t := by
    rw [compatibilityStep?, hstep, h]
    rfl
  rw [nfkd, List.flatMap_singleton, compatibilityDecomposition, longestChain, decompose,
    hcompatibility]
  rfl

theorem spelled_of_checkLetters {t : Text} (h : compatibilityMapping? c = some t)
    (hcheck : checkLetters t = true) :
    ∃ u : Text, (∀ e ∈ u, compatibilityStep? e = none) ∧ ∀ caseless,
      unicode.spelled true caseless c = u.flatMap (unicode.spelled true caseless) := by
  unfold checkLetters at hcheck
  simp only [forcedText_eq, forced_fun, spelling_fun, Bool.and_eq_true, List.all_eq_true,
    stepFree_iff] at hcheck
  rw [← nfkd_of_mapping hstep h] at hcheck
  obtain ⟨hfree, hnfd, hcase⟩ := hcheck
  exact ⟨nfkd [c], hfree, spelled_of_letters hfree (eq_of_same hnfd) (eq_of_same hcase)⟩

theorem spelled_of_checkWidth {t : Text} (h : compatibilityMapping? c = some t)
    (hcheck : checkWidth c t = true) :
    ∃ u : Text, (∀ e ∈ u, compatibilityStep? e = none) ∧ ∀ caseless,
      unicode.spelled true caseless c = u.flatMap (unicode.spelled true caseless) := by
  unfold checkWidth at hcheck
  split at hcheck
  · rename_i e
    rw [Bool.or_eq_true, forced_eq, stepFree_iff] at hcheck
    obtain hfree | hletters := hcheck
    · refine ⟨[e], fun d hd => (List.mem_singleton.mp hd).symm ▸ hfree, fun caseless => ?_⟩
      rw [List.flatMap_singleton]
      exact spelled_of_letter hstep h hfree caseless
    · exact spelled_of_checkLetters hstep h hletters
  · exact spelled_of_checkLetters hstep h hcheck

theorem absorbs_of_mapping {t : Text} (h : compatibilityMapping? c = some t)
    (hwidth : checkWidth c t = true)
    (hcase : ∀ width, (unicode.spelled false true c).flatMap (unicode.spelled width true) =
      unicode.spelled width true c)
    (hiota : iotaMark ∉ unicode.spelled false true c) : Absorbs c := by
  obtain ⟨u, hfree, hspelled⟩ := spelled_of_checkWidth hstep h hwidth
  exact absorbs_of_letters hstep hspelled (fun e he => absorbs_of_none (hfree e he)) hcase hiota

theorem absorbs_of_checkWidth_of_uncased {t : Text} (h : compatibilityMapping? c = some t)
    (hwidth : checkWidth c t = true) (hfold : caseFold c = [c]) : Absorbs c := by
  have hspelled := spelled_caseless_of_uncased hstep hfold
  refine absorbs_of_mapping hstep h hwidth (fun width => ?_) ?_
  · rw [hspelled, List.flatMap_singleton]
  · rw [hspelled, List.mem_singleton]
    rintro rfl
    exact iotaMark_spec.1 hfold

theorem absorbs_of_checkCase {t : Text} (h : compatibilityMapping? c = some t)
    (hwidth : checkWidth c t = true) (hcase : checkCase c = true) : Absorbs c := by
  unfold checkCase at hcase
  rw [Bool.or_eq_true] at hcase
  obtain huncased | hcase := hcase
  · exact absorbs_of_checkWidth_of_uncased hstep h hwidth (eq_of_same huncased)
  · simp only [forcedText_eq, forced_fun, spelling_fun, Bool.and_eq_true, List.all_eq_true,
      Bool.not_eq_true'] at hcase
    obtain ⟨⟨hnarrow, hwide⟩, hiota⟩ := hcase
    refine absorbs_of_mapping hstep h hwidth (fun width => ?_) fun hmem => ?_
    · cases width with
      | false => exact eq_of_same hnarrow
      | true => exact eq_of_same hwide
    · have hself := hiota iotaMark hmem
      rw [Nat.beq_refl] at hself
      cases hself

theorem absorbs_of_canonicalStep? : Absorbs c := by
  cases hmapping : compatibilityMapping? c with
  | none =>
    refine absorbs_of_none ?_
    rw [compatibilityStep?, hstep, hmapping]
    rfl
  | some t =>
    obtain ⟨r, hfind, rfl⟩ := Option.map_eq_some_iff.mp hmapping
    have hwidth : checkWidth c (r.image c.toNat) = true :=
      of_imagesAll compatibilityRows_checked.1 hfind
    obtain ⟨hmem, hlo, hhi⟩ := RangeTree.mem_of_find?_ofList hfind
    have hrow := List.all_eq_true.mp compatibilityRows_checked.2 r hmem
    rw [checkCaseRow, Bool.or_eq_true] at hrow
    obtain hclear | hchars := hrow
    · exact absorbs_of_checkWidth_of_uncased hstep hmapping hwidth
        (caseFold_of_none (RangeTree.find?_of_clear hclear hlo hhi))
    · exact absorbs_of_checkCase hstep hmapping hwidth (of_charsAll hchars hlo hhi)

end Mapping

/-- **Every character is spelled in a coarser mode as its spelling in a finer one is.** -/
theorem absorbs (c : Char) : Absorbs c :=
  absorbs_of_parts fun _ hd =>
    absorbs_of_canonicalStep? (canonicalStep?_of_mem_nfd hd)

/-! ## Spellings of marks -/

theorem untouched_spec {lo hi : Nat} (h : untouched lo hi = true) {c : Char} (hlo : lo ≤ c.toNat)
    (hhi : c.toNat ≤ hi) : compatibilityStep? c = none ∧ caseFold c = [c] := by
  simp only [untouched, Bool.and_eq_true, Bool.or_eq_true, Nat.blt_eq] at h
  obtain ⟨⟨⟨hapart, hcanonical⟩, hcompatibility⟩, hfold⟩ := h
  exact ⟨compatibilityStep?_of_clear hapart hcanonical hcompatibility hlo hhi,
    caseFold_of_none (RangeTree.find?_of_clear hfold hlo hhi)⟩

/-- A mark neither decomposes nor has a case folding, or it is in a row that is checked character by
character. -/
theorem mark_of_checkedRows {check : Char → Bool}
    (h : (CombiningClass.rows.all fun r => untouched r.lo r.hi || charsAll check r) = true)
    {c : Char} (hclass : combiningClass c ≠ 0) :
    compatibilityStep? c = none ∧ caseFold c = [c] ∨ check c = true := by
  cases hfind : CombiningClass.tree.find? c.toNat with
  | none => exact absurd (combiningClass_of_none hfind) hclass
  | some r =>
    obtain ⟨hmem, hlo, hhi⟩ := RangeTree.mem_of_find?_ofList hfind
    have hrow := List.all_eq_true.mp h r hmem
    rw [Bool.or_eq_true] at hrow
    rcases hrow with huntouched | hchars
    · exact .inl (untouched_spec huntouched hlo hhi)
    · exact .inr (of_charsAll hchars hlo hhi)

/-- In every mode, marks other than the iota are spelled with marks only. -/
theorem spelled_of_mark {c : Char} (hclass : combiningClass c ≠ 0) (hiota : c ≠ iotaMark)
    (width caseless : Bool) :
    ∀ x ∈ unicode.spelled width caseless c, combiningClass x ≠ 0 := by
  have hself (hstep : compatibilityStep? c = none) (hfold : caseFold c = [c]) :
      ∀ x ∈ unicode.spelled width caseless c, combiningClass x ≠ 0 := by
    rw [spelled_of_uncased hstep hfold]
    exact fun x hx => List.mem_singleton.mp hx ▸ hclass
  rcases mark_of_checkedRows otherRows_checked.2 hclass with ⟨hstep, hfold⟩ | hcheck
  · exact hself hstep hfold
  · simp only [checkMark, Bool.or_eq_true, Bool.and_eq_true, stepFree_iff, Nat.beq_eq] at hcheck
    obtain (hcode | ⟨hstep, hfold⟩) | hmarks := hcheck
    · exact absurd (Char.toNat_inj.mp hcode) hiota
    · exact hself hstep (eq_of_same hfold)
    · have hwidth := List.all_eq_true.mp hmarks width (by cases width <;> decide)
      have hmode := List.all_eq_true.mp hwidth caseless (by cases caseless <;> decide)
      rw [spelling_eq] at hmode
      intro x hx hstarter
      have hmark := List.all_eq_true.mp hmode x hx
      rw [isStarter_iff.mpr hstarter] at hmark
      cases hmark

end TextScan.Unicode
