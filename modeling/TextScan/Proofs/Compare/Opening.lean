import TextScan.Proofs.Compare.Spelling
import TextScan.Proofs.Unicode.Evaluation

/-!
# How spellings open

A starter is spelled with a starter in front, in every mode, with five exceptions: three vowel signs
of Tibetan that decompose to marks only (`joined`), and, without regard to width, the two sound marks
of halfwidth Katakana (`soundMarks`). The steps of folding keep a starter in front (`OpensWith`) as
long as none of the exceptions gets there, and the tables, checked row by row, do not bring one there
(`openingRows_checked`). `spelled_opens` puts this together.
-/

namespace TextScan.Unicode

open CharacterData (unicode)

/-! ## Texts that open with a character of a kind -/

/-- The first character of the text has the property. -/
def OpensWith (P : Char → Prop) (t : Text) : Prop := ∃ c rest, t = c :: rest ∧ P c

section OpensWith

variable {P Q : Char → Prop} {t : Text}

theorem opensWith_cons {c : Char} (h : P c) (rest : Text) : OpensWith P (c :: rest) :=
  ⟨c, rest, rfl, h⟩

theorem OpensWith.mono (h : OpensWith P t) (hPQ : ∀ c, P c → Q c) : OpensWith Q t := by
  obtain ⟨c, rest, rfl, hc⟩ := h
  exact opensWith_cons (hPQ c hc) rest

theorem OpensWith.flatMap (h : OpensWith P t) {f : Char → Text}
    (hf : ∀ c, P c → OpensWith Q (f c)) : OpensWith Q (t.flatMap f) := by
  obtain ⟨c, rest, rfl, hc⟩ := h
  obtain ⟨d, more, hd, hQ⟩ := hf c hc
  rw [List.flatMap_cons, hd]
  exact opensWith_cons hQ _

/-- Decomposition keeps what each of its steps keeps. -/
theorem opensWith_decompose {step : Char → Option (List Char)}
    (hstep : ∀ c t, P c → step c = some t → OpensWith P t) (fuel : Nat) {c : Char} (hc : P c) :
    OpensWith P (decompose step fuel c) := by
  induction fuel generalizing c with
  | zero => exact opensWith_cons hc []
  | succ fuel ih =>
    unfold decompose
    cases h : step c with
    | none => exact opensWith_cons hc []
    | some t => exact (hstep c t hc h).flatMap fun d hd => ih hd

variable (hstarter : ∀ c, P c → combiningClass c = 0)
include hstarter

/-- Nothing is put in front of a starter. -/
theorem OpensWith.reorder (h : OpensWith P t) : OpensWith P (reorder t) := by
  obtain ⟨c, rest, rfl, hc⟩ := h
  rw [Unicode.reorder]
  cases Unicode.reorder rest with
  | nil => exact opensWith_cons hc []
  | cons d more =>
    have hclass : ¬ (0 < combiningClass d ∧ combiningClass d < combiningClass c) := by
      rw [hstarter c hc]
      omega
    rw [insertMark, if_neg hclass]
    exact opensWith_cons hc _

omit hstarter in
/-- Composition keeps what each pair that is composed keeps. -/
theorem opensWith_composeFrom (hpair : ∀ a b p, P a → composePair? a b = some p → P p) {a : Char}
    (ha : P a) (marks rest : Text) : OpensWith P (composeFrom a marks rest) := by
  induction rest generalizing a marks with
  | nil => exact opensWith_cons ha marks
  | cons c rest ih =>
    unfold composeFrom
    split
    · rename_i p hp
      split at hp
      · cases hp
      · exact ih (hpair a c p ha hp) marks
    · split
      · exact opensWith_cons ha _
      · exact ih ha _

theorem OpensWith.compose (hpair : ∀ a b p, P a → composePair? a b = some p → P p)
    (h : OpensWith P t) : OpensWith P (compose t) := by
  obtain ⟨c, rest, rfl, hc⟩ := h
  rw [Unicode.compose, if_pos (hstarter c hc)]
  exact opensWith_composeFrom hpair hc [] rest

end OpensWith

/-! ## The exceptions -/

/-- Starters that are spelled with marks only. -/
def joined : Text := ['\u0F73', '\u0F75', '\u0F81']

/-- Starters that are spelled with a mark without regard to width. -/
def soundMarks : Text := ['\uFF9E', '\uFF9F']

structure Opener (c : Char) : Prop where
  starter : combiningClass c = 0
  not_joined : c ∉ joined

structure WideOpener (c : Char) : Prop extends Opener c where
  not_soundMark : c ∉ soundMarks

theorem wideOpener_of_notMem {c : Char} (hstarter : combiningClass c = 0)
    (h : c ∉ joined ++ soundMarks) : WideOpener c := by
  rw [List.mem_append, not_or] at h
  exact ⟨⟨hstarter, h.1⟩, h.2⟩

theorem WideOpener.notMem {c : Char} (h : WideOpener c) : c ∉ joined ++ soundMarks := by
  rw [List.mem_append, not_or]
  exact ⟨h.not_joined, h.not_soundMark⟩

/-! ## Rows of the tables -/

/-- Whether the numbers from `lo` to `hi` are starters, and none of the exceptions. -/
def opensRange (lo hi : Nat) : Bool :=
  (Nat.blt hi 0xD800 || Nat.ble 0xE000 lo && Nat.blt hi 0x110000) &&
    CombiningClass.tree.clear lo hi &&
      (joined ++ soundMarks).all fun c => Nat.blt hi c.toNat || Nat.blt c.toNat lo

theorem wideOpener_of_opensRange {lo hi n : Nat} (h : opensRange lo hi = true) (hlo : lo ≤ n)
    (hhi : n ≤ hi) : WideOpener (Char.ofNat n) := by
  simp only [opensRange, Bool.and_eq_true, Bool.or_eq_true, Nat.blt_eq, Nat.ble_eq,
    List.all_eq_true] at h
  obtain ⟨⟨hvalid, hclear⟩, hexceptions⟩ := h
  have hnumber : (Char.ofNat n).toNat = n := by
    refine toNat_ofNat ?_
    unfold Nat.isValidChar
    omega
  have hapart (c : Char) (hc : c ∈ joined ++ soundMarks) : Char.ofNat n ≠ c := by
    rintro rfl
    have := hexceptions _ hc
    omega
  have hstarter : combiningClass (Char.ofNat n) = 0 := by
    apply combiningClass_of_none
    rw [hnumber, RangeTree.find?_of_clear hclear hlo hhi]
  exact wideOpener_of_notMem hstarter fun hmem => hapart _ hmem rfl

/-- Whether everything that a row sends a character to opens with a starter, and with none of the
exceptions. -/
def opensRow (r : Mapping) : Bool :=
  match r.value with
  | [] => false
  | [n] => opensRange n (n + (r.hi - r.lo))
  | n :: _ => opensRange n n

theorem opensWith_image {r : Mapping} (h : opensRow r = true) {n : Nat} (hlo : r.lo ≤ n)
    (hhi : n ≤ r.hi) : OpensWith WideOpener (r.image n) := by
  unfold opensRow at h
  unfold Range.image
  match hvalue : r.value with
  | [] =>
    rw [hvalue] at h
    cases h
  | [m] =>
    rw [hvalue] at h
    exact opensWith_cons (wideOpener_of_opensRange h (by omega) (by omega)) []
  | m :: k :: rest =>
    rw [hvalue] at h
    exact opensWith_cons (wideOpener_of_opensRange h (Nat.le_refl m) (Nat.le_refl m)) _

/-- Whether a row sends no starter, but for some, to a text that opens with another character. -/
def checkOpening (exempt : Text) (r : Mapping) : Bool :=
  opensRow r || charsAll (fun c => !isStarter c || decide (c ∈ exempt)) r

theorem opensWith_of_checkOpening {exempt : Text} {rows : List Mapping}
    (h : rows.all (checkOpening exempt) = true) {c : Char} (hstarter : combiningClass c = 0)
    (hexempt : c ∉ exempt) {r : Mapping}
    (hfind : (RangeTree.ofList rows).find? c.toNat = some r) :
    OpensWith WideOpener (r.image c.toNat) := by
  obtain ⟨hmem, hlo, hhi⟩ := RangeTree.mem_of_find?_ofList hfind
  have hrow := List.all_eq_true.mp h r hmem
  rw [checkOpening, Bool.or_eq_true] at hrow
  obtain hopens | hchars := hrow
  · exact opensWith_image hopens hlo hhi
  · have hcheck := of_charsAll hchars hlo hhi
    rw [isStarter_iff.mpr hstarter, decide_eq_false hexempt] at hcheck
    cases hcheck

set_option maxRecDepth 100000 in
theorem openingRows_checked :
    CanonicalMapping.rows.all (checkOpening joined) = true ∧
      CompatibilityMapping.rows.all (checkOpening (joined ++ soundMarks)) = true ∧
        CaseFolding.rows.all (checkOpening []) = true ∧
          Composition.rows.all (fun r => r.value.all fun e => opensRange e.2 e.2) = true := by
  -- The rows are too many for the elaborator to evaluate, one table at a time or all of them.
  refine ⟨?_, ?_, ?_, ?_⟩
  all_goals decide +kernel

/-! ## The steps of folding -/

/-- Letters of Hangul, syllables and ideographs are none of the exceptions. -/
theorem wideOpener_of_mem {c : Char} {z : Zone} (hz : z ∈ inertZones ++ compositeZones)
    (hlo : z.1 ≤ c.toNat) (hhi : c.toNat ≤ z.2) : WideOpener c := by
  have hapart : (inertZones ++ compositeZones).all (fun z =>
      (joined ++ soundMarks).all fun d => Nat.blt d.toNat z.1 || Nat.blt z.2 d.toNat) = true := by
    decide
  have hout : c ∉ joined ++ soundMarks := by
    intro hmem
    have hc := List.all_eq_true.mp (List.all_eq_true.mp hapart z hz) c hmem
    rw [Bool.or_eq_true, Nat.blt_eq, Nat.blt_eq] at hc
    omega
  exact wideOpener_of_notMem (combiningClass_of_mem hz hlo hhi) hout

theorem opensWith_canonicalStep? (c : Char) (t : Text) (hc : Opener c)
    (h : canonicalStep? c = some t) : OpensWith WideOpener t := by
  unfold canonicalStep? at h
  cases hsyllable : Hangul.decompose? c with
  | some letters =>
    rw [hsyllable, Option.some_or] at h
    obtain rfl := Option.some.inj h
    obtain ⟨hletters, hcompose⟩ := Hangul.compose_decompose hsyllable
    cases letters with
    | nil => cases hcompose
    | cons d rest =>
      obtain ⟨hlo, hhi⟩ := hletters d List.mem_cons_self
      exact opensWith_cons (wideOpener_of_mem (z := (0x1100, 0x11FF)) (by decide) hlo hhi) rest
  | none =>
    rw [hsyllable, Option.none_or] at h
    obtain ⟨r, hfind, rfl⟩ := Option.map_eq_some_iff.mp h
    exact opensWith_of_checkOpening openingRows_checked.1 hc.starter hc.not_joined hfind

theorem opensWith_compatibilityStep? (c : Char) (t : Text) (hc : WideOpener c)
    (h : compatibilityStep? c = some t) : OpensWith WideOpener t := by
  unfold compatibilityStep? at h
  cases hcanonical : canonicalStep? c with
  | some u =>
    rw [hcanonical, Option.some_or] at h
    exact opensWith_canonicalStep? c t hc.toOpener (hcanonical.trans h)
  | none =>
    rw [hcanonical, Option.none_or] at h
    obtain ⟨r, hfind, rfl⟩ := Option.map_eq_some_iff.mp h
    exact opensWith_of_checkOpening openingRows_checked.2.1 hc.starter hc.notMem hfind

theorem opensWith_caseFold {c : Char} (hc : Opener c) : OpensWith Opener (caseFold c) := by
  cases hfind : CaseFolding.tree.find? c.toNat with
  | none =>
    rw [caseFold_of_none hfind]
    exact opensWith_cons hc []
  | some r =>
    have himage : caseFold c = r.image c.toNat := by
      unfold caseFold
      rw [hfind]
    rw [himage]
    exact (opensWith_of_checkOpening openingRows_checked.2.2.1 hc.starter List.not_mem_nil
      hfind).mono fun _ hd => hd.toOpener

/-- A pair of letters of Hangul composes to a syllable. -/
theorem Hangul.mem_of_compose? {a b p : Char} (h : compose? a b = some p) :
    0xAC00 ≤ p.toNat ∧ p.toNat ≤ 0xD7A3 := by
  have hmem {s : Nat} (hs : s < 11172) :
      0xAC00 ≤ (Char.ofNat (0xAC00 + s)).toNat ∧ (Char.ofNat (0xAC00 + s)).toNat ≤ 0xD7A3 := by
    rw [toNat_ofNat (.inl (by omega))]
    omega
  unfold compose? at h
  split at h
  · rename_i l v hl hv
    obtain rfl := Option.some.inj h
    obtain ⟨-, hl⟩ := index?_eq_some hl
    obtain ⟨-, hv⟩ := index?_eq_some hv
    simp only [leadCount, vowelCount] at hl hv
    exact hmem (by simp only [vowelCount, trailCount]; omega)
  · split at h
    · rename_i s t hs ht
      split at h
      · rename_i hwhole
        obtain rfl := Option.some.inj h
        obtain ⟨-, hs⟩ := index?_eq_some hs
        obtain ⟨-, ht⟩ := index?_eq_some ht
        simp only [syllableCount, leadCount, vowelCount, trailCount] at hs ht hwhole
        rw [Nat.add_assoc]
        exact hmem (by omega)
      · cases h
    · cases h

theorem wideOpener_of_composePair? {a b p : Char} (h : composePair? a b = some p) :
    WideOpener p := by
  unfold composePair? at h
  cases hsyllable : Hangul.compose? a b with
  | some q =>
    rw [hsyllable, Option.some_or] at h
    cases h
    obtain ⟨hlo, hhi⟩ := Hangul.mem_of_compose? hsyllable
    exact wideOpener_of_mem (z := (0xAC00, 0xD7A3)) (by decide) hlo hhi
  | none =>
    rw [hsyllable, Option.none_or] at h
    obtain ⟨r, hfind, h⟩ := Option.bind_eq_some_iff.mp h
    obtain ⟨n, hlookup, h⟩ := Option.bind_eq_some_iff.mp h
    obtain rfl := Option.some.inj h
    obtain ⟨hmem, -, -⟩ := RangeTree.mem_of_find?_ofList hfind
    have hrow := List.all_eq_true.mp openingRows_checked.2.2.2 r hmem
    obtain ⟨before, after, hsplit, -⟩ := List.lookup_eq_some_iff.mp hlookup
    have hentry : (b.toNat, n) ∈ r.value := by
      rw [hsplit]
      exact List.mem_append_right _ List.mem_cons_self
    exact wideOpener_of_opensRange (List.all_eq_true.mp hrow _ hentry) (Nat.le_refl n)
      (Nat.le_refl n)

/-! ## Spellings -/

theorem opensWith_nfd {t : Text} (h : OpensWith Opener t) : OpensWith Opener (nfd t) := by
  refine OpensWith.reorder (fun _ hd => hd.starter) (h.flatMap fun c hc => ?_)
  exact opensWith_decompose
    (fun c t hc ht => (opensWith_canonicalStep? c t hc ht).mono fun _ hd => hd.toOpener)
    longestChain hc

theorem opensWith_nfkc {c : Char} (hc : WideOpener c) : OpensWith WideOpener (nfkc [c]) := by
  have hstarter : ∀ d, WideOpener d → combiningClass d = 0 := fun d hd => hd.starter
  refine OpensWith.compose hstarter (fun _ _ _ _ hp => wideOpener_of_composePair? hp) ?_
  refine OpensWith.reorder hstarter ((opensWith_cons hc []).flatMap fun d hd => ?_)
  exact opensWith_decompose opensWith_compatibilityStep? longestChain hd

/-- The starters that are spelled with a mark in front. -/
def joins (width : Bool) (c : Char) : Bool := decide (c ∈ joined) || width && decide (c ∈ soundMarks)

/-- Any other starter is spelled with a starter in front. -/
theorem opensWith_spelled {c : Char} (hstarter : combiningClass c = 0) {width : Bool}
    (hjoins : joins width c = false) (caseless : Bool) :
    OpensWith Opener (unicode.spelled width caseless c) := by
  simp only [joins, Bool.or_eq_false_iff, decide_eq_false_iff_not] at hjoins
  have hc : Opener c := ⟨hstarter, hjoins.1⟩
  have hplain : OpensWith Opener (unicode.plain width c) := by
    cases width with
    | false => exact opensWith_cons hc []
    | true =>
      rw [Bool.true_and, decide_eq_false_iff_not] at hjoins
      have hwide : WideOpener c := ⟨hc, hjoins.2⟩
      exact (opensWith_nfkc hwide).mono fun _ hd => hd.toOpener
  obtain ⟨hcased, hcaseless⟩ := spelled_of_plain_eq (rfl : unicode.plain width c = _)
  cases caseless with
  | false =>
    rw [hcased]
    exact opensWith_nfd hplain
  | true =>
    rw [hcaseless]
    exact opensWith_nfd (hplain.flatMap fun d hd => opensWith_caseFold hd)

def opensWithMark (t : Text) : Bool := t.head?.any fun c => !isStarter c

set_option maxRecDepth 10000 in
theorem exceptions_spec :
    (joined ++ soundMarks).all isStarter = true ∧
      ([false, true].all fun caseless =>
        [false, true].all fun width => (joined ++ soundMarks).all fun c =>
          !joins width c || opensWithMark (unicode.spelled width caseless c)) = true := by
  decide +kernel

theorem mem_of_joins {width : Bool} {c : Char} (h : joins width c = true) : c ∈ joined ++ soundMarks := by
  simp only [joins, Bool.or_eq_true, Bool.and_eq_true, decide_eq_true_eq] at h
  rw [List.mem_append]
  exact h.imp_right And.right

theorem starter_of_joins {width : Bool} {c : Char} (h : joins width c = true) :
    combiningClass c = 0 :=
  isStarter_iff.mp (List.all_eq_true.mp exceptions_spec.1 c (mem_of_joins h))

/-- **How a starter is spelled**: with a starter in front, unless it is one of the exceptions, and
with a mark if it is. -/
theorem spelled_opens {c : Char} (hstarter : combiningClass c = 0) (width caseless : Bool) :
    ∃ d rest, unicode.spelled width caseless c = d :: rest ∧
      (combiningClass d = 0 ↔ joins width c = false) := by
  cases hjoins : joins width c with
  | false =>
    obtain ⟨d, rest, hd, hopener⟩ := opensWith_spelled hstarter hjoins caseless
    exact ⟨d, rest, hd, iff_of_true hopener.starter rfl⟩
  | true =>
    have hmodes := List.all_eq_true.mp exceptions_spec.2 caseless (by cases caseless <;> decide)
    have hmode := List.all_eq_true.mp hmodes width (by cases width <;> decide)
    have hcheck := List.all_eq_true.mp hmode c (mem_of_joins hjoins)
    rw [hjoins, Bool.not_true, Bool.false_or, opensWithMark] at hcheck
    cases hspelled : unicode.spelled width caseless c with
    | nil =>
      rw [hspelled] at hcheck
      cases hcheck
    | cons d rest =>
      rw [hspelled] at hcheck
      refine ⟨d, rest, rfl, iff_of_false (fun hclass => ?_) nofun⟩
      rw [List.head?_cons, Option.any_some, isStarter_iff.mpr hclass] at hcheck
      cases hcheck

end TextScan.Unicode
