import TextScan.Proofs.Compare.Spelling
import TextScan.Proofs.Unicode.Evaluation

/-!
# Kernel-cheap check of spellings

`checkRow` goes through a row of the table of canonical mappings and finds every character of it
spelled by its parts. What is found out about a part, which many characters share, is found out once
(`forced`). Ideographs need no look at single characters (`ideographRow`).
-/

namespace TextScan.Unicode

open CharacterData (unicode)

/-! ## One character -/

/-- The spelling of a character, with its parts computed as they are needed. -/
def spelling (width caseless : Bool) (c : Char) : Text :=
  let plain := bif width then nfkc [c] else [c]
  forcedText nfd (bif caseless then forcedText (·.flatMap caseFold) plain else plain)

theorem spelling_eq (width caseless : Bool) (c : Char) :
    spelling width caseless c = unicode.spelled width caseless c := by
  unfold spelling CharacterData.spelled CharacterData.plain
  cases width <;> cases caseless <;> simp [unicode]

/-- Whether a character is spelled by its parts, the first of them `d`, in one mode. -/
def checkMode (c : Char) (parts : Text) (d : Char) (width caseless : Bool) : Bool :=
  same (spelling width caseless c) (parts.flatMap (spelling width caseless)) &&
    ((spelling width caseless d).any isStarter ||
      !(spelling width caseless d).isEmpty && (spelling width caseless c).all (!isStarter ·))

theorem spelled_of_checkMode {c d : Char} {parts : Text} {width caseless : Bool}
    (h : checkMode c parts d width caseless = true) :
    unicode.spelled width caseless c = parts.flatMap (unicode.spelled width caseless) ∧
      (unicode.spelled width caseless d = [] → unicode.spelled width caseless c = []) ∧
        ((∀ x ∈ unicode.spelled width caseless d, combiningClass x ≠ 0) →
          ∀ x ∈ unicode.spelled width caseless c, combiningClass x ≠ 0) := by
  unfold checkMode at h
  rw [show spelling width caseless = unicode.spelled width caseless from
    funext (spelling_eq width caseless), Bool.and_eq_true, Bool.or_eq_true] at h
  obtain ⟨hsame, hstarter | hmarks⟩ := h
  · obtain ⟨x, hx, hclass⟩ := List.any_eq_true.mp hstarter
    rw [isStarter_iff] at hclass
    refine ⟨eq_of_same hsame, fun hnil => ?_, fun hall => absurd hclass (hall x hx)⟩
    rw [hnil] at hx
    cases hx
  · simp only [Bool.and_eq_true, Bool.not_eq_true', List.isEmpty_eq_false_iff, List.all_eq_true]
      at hmarks
    refine ⟨eq_of_same hsame, fun hnil => absurd hnil hmarks.1, fun _ x hx hclass => ?_⟩
    have hmark := hmarks.2 x hx
    rw [isStarter_iff.mpr hclass] at hmark
    cases hmark

def checkParts (c : Char) : Text → Bool
  | [] => false
  | d :: rest =>
    (isStarter c || !isStarter d) &&
      (checkMode c (d :: rest) d false false && checkMode c (d :: rest) d false true &&
        checkMode c (d :: rest) d true false && checkMode c (d :: rest) d true true)

def checkChar (c : Char) : Bool := forcedText (checkParts c) (nfd [c])

theorem spelledByParts_of_checkChar {c : Char} (h : checkChar c = true) : SpelledByParts c := by
  unfold checkChar at h
  rw [forcedText_eq] at h
  cases hparts : nfd [c] with
  | nil =>
    rw [hparts] at h
    cases h
  | cons d rest =>
    rw [hparts] at h
    simp only [checkParts, Bool.and_eq_true] at h
    obtain ⟨hstarter, ⟨⟨hff, hft⟩, htf⟩, htt⟩ := h
    have hmode (width caseless : Bool) : checkMode c (d :: rest) d width caseless = true := by
      cases width <;> cases caseless <;> assumption
    refine ⟨by rw [hparts]; exact List.cons_ne_nil d rest, fun width caseless => ?_, ?_, ?_, ?_⟩
    · rw [hparts]
      exact (spelled_of_checkMode (hmode width caseless)).1
    · intro d' rest' hd hclass
      cases hparts.symm.trans hd
      rw [isStarter_iff.mpr hclass, Bool.not_true, Bool.or_false] at hstarter
      exact isStarter_iff.mp hstarter
    · intro d' rest' hd width caseless
      cases hparts.symm.trans hd
      exact (spelled_of_checkMode (hmode width caseless)).2.1
    · intro d' rest' hd width caseless
      cases hparts.symm.trans hd
      exact (spelled_of_checkMode (hmode width caseless)).2.2

/-! ## The table -/

/-- Whether a row sends ideographs for compatibility to unified ones. -/
def ideographRow (r : Mapping) : Bool :=
  match r.value with
  | [n] =>
    inertZones.any (fun z => Nat.ble z.1 n && Nat.ble (n + (r.hi - r.lo)) z.2) &&
      compositeZones.any fun z => Nat.ble z.1 r.lo && Nat.ble r.hi z.2
  | _ => false

def checkRow (r : Mapping) : Bool :=
  ideographRow r ||
    (List.range (r.hi - r.lo + 1)).all fun k => forced checkChar (Char.ofNat (r.lo + k))

theorem isValidChar_of_mem {z : Zone} (hz : z ∈ inertZones) {n : Nat} (hlo : z.1 ≤ n)
    (hhi : n ≤ z.2) : n.isValidChar := by
  simp only [inertZones, List.mem_cons, List.not_mem_nil, or_false] at hz
  unfold Nat.isValidChar
  rcases hz with rfl | rfl | rfl <;> omega

theorem spelledByParts_of_ideographRow {r : Mapping} (h : ideographRow r = true) {c : Char}
    (hlo : r.lo ≤ c.toNat) (hhi : c.toNat ≤ r.hi)
    (hstep : canonicalStep? c = some (r.image c.toNat)) : SpelledByParts c := by
  unfold ideographRow at h
  split at h
  · rename_i n hvalue
    simp only [Bool.and_eq_true, List.any_eq_true, Nat.ble_eq] at h
    obtain ⟨⟨z, hz, hzlo, hzhi⟩, y, hy, hylo, hyhi⟩ := h
    have himage : r.image c.toNat = [Char.ofNat (n + (c.toNat - r.lo))] := by
      rw [Range.image, hvalue]
      rfl
    have htoNat := toNat_ofNat (isValidChar_of_mem hz (n := n + (c.toNat - r.lo)) (by omega)
      (by omega))
    have hinert : Inert (Char.ofNat (n + (c.toNat - r.lo))) :=
      inert_of_mem hz (by omega) (by omega)
    have hzone : y ∈ inertZones ++ compositeZones := List.mem_append_right _ hy
    rw [himage] at hstep
    refine spelledByParts_of_inert hstep (List.cons_ne_nil _ _) ?_ (.inr ?_)
      (caseFold_of_mem hzone (by omega) (by omega))
      (combiningClass_of_mem hzone (by omega) (by omega))
    · intro d hd
      rwa [List.mem_singleton.mp hd]
    · rw [compose, if_pos hinert.starter]
      rfl
  · cases h

theorem spelledByParts_of_checkRow {r : Mapping} (h : checkRow r = true) {c : Char}
    (hlo : r.lo ≤ c.toNat) (hhi : c.toNat ≤ r.hi)
    (hstep : canonicalStep? c = some (r.image c.toNat)) : SpelledByParts c := by
  unfold checkRow at h
  rw [Bool.or_eq_true] at h
  obtain hideograph | hall := h
  · exact spelledByParts_of_ideographRow hideograph hlo hhi hstep
  · have hchar := List.all_eq_true.mp hall (c.toNat - r.lo) (List.mem_range.mpr (by omega))
    rw [forced_eq, Nat.add_sub_cancel' hlo, c.ofNat_toNat] at hchar
    exact spelledByParts_of_checkChar hchar

open CanonicalMapping in
set_option maxRecDepth 100000 in
theorem checkRow_rows : rows.all checkRow = true := by
  -- Part by part, as the kernel keeps what it has computed until a part is done.
  have hlatin : (latin ++ phonetic).all checkRow = true := by decide +kernel
  have hscripts : (greek ++ cyrillic ++ semitic ++ indic ++ southeastAsian ++
      minorScripts).all checkRow = true := by decide +kernel
  have hlatinAdditional : latinAdditional.all checkRow = true := by decide +kernel
  have hgreekExtended : greekExtended.all checkRow = true := by decide +kernel
  have hothers : (symbols ++ eastAsian ++ ideographs ++ presentationForms ++ historicScripts ++
      mathematical ++ supplementaryIdeographs).all checkRow = true := by decide +kernel
  simp only [List.all_append, Bool.and_eq_true] at hlatin hscripts hothers
  simp only [rows, List.all_append, hlatin, hscripts, hlatinAdditional, hgreekExtended, hothers,
    Bool.and_self]

/-- **Every character is spelled by its parts.** -/
theorem spelledByParts (c : Char) : SpelledByParts c := by
  cases hsyllable : Hangul.decompose? c with
  | some t => exact spelledByParts_of_syllable hsyllable
  | none =>
    have hmapping : canonicalStep? c = canonicalMapping? c := by
      rw [canonicalStep?, hsyllable, Option.none_or]
    cases hfind : CanonicalMapping.tree.find? c.toNat with
    | none =>
      refine spelledByParts_of_none ?_
      rw [hmapping, canonicalMapping?, hfind]
      rfl
    | some r =>
      obtain ⟨hmem, hlo, hhi⟩ := RangeTree.mem_of_find?_ofList hfind
      refine spelledByParts_of_checkRow (List.all_eq_true.mp checkRow_rows r hmem) hlo hhi ?_
      rw [hmapping, canonicalMapping?, hfind]
      rfl

end TextScan.Unicode
