import TextScan.Unicode.CaseFolding
import TextScan.Unicode.Normalization

/-!
# Decompositions of one step

Most characters that decompose do so in one step, to characters that every normal form and case
folding leaves as they are (`Inert`). For these the normal forms need no tables: `nfd` is the step
itself and `nfkc` what it composes to. The syllables of Hangul and the ideographs for compatibility
are of this kind, which follows from where their parts stand (`inert_of_mem`) and, for Hangul, by
arithmetic (`Hangul.compose_decompose`).
-/

namespace TextScan.Unicode

/-! ## Zones without rows -/

section Zones

variable {α : Type}

theorem RangeTree.mem_of_find? {t : RangeTree α} {n : Nat} {r : Range α}
    (h : t.find? n = some r) : r ∈ t.toList ∧ r.lo ≤ n ∧ n ≤ r.hi := by
  induction t with
  | leaf => cases h
  | node left s right ihl ihr =>
    unfold find? at h
    simp only [toList, List.mem_append, List.mem_cons]
    cases hlo : Nat.blt n s.lo with
    | true =>
      rw [hlo] at h
      obtain ⟨hmem, hrange⟩ := ihl h
      exact ⟨.inl hmem, hrange⟩
    | false =>
      rw [hlo] at h
      cases hhi : Nat.blt s.hi n with
      | true =>
        rw [hhi] at h
        obtain ⟨hmem, hrange⟩ := ihr h
        exact ⟨.inr (.inr hmem), hrange⟩
      | false =>
        rw [hhi] at h
        cases h
        rw [Bool.eq_false_iff, ne_eq, Nat.blt_eq] at hlo hhi
        exact ⟨.inr (.inl rfl), by omega, by omega⟩

theorem RangeTree.mem_of_find?_ofList {rows : List (Range α)} {n : Nat} {r : Range α}
    (h : (RangeTree.ofList rows).find? n = some r) : r ∈ rows ∧ r.lo ≤ n ∧ n ≤ r.hi := by
  have hmem := RangeTree.mem_of_find? h
  rwa [RangeTree.toList_ofList] at hmem

/-- Numbers from the first to the second. -/
abbrev Zone := Nat × Nat

/-- No row has a number of one of the zones. -/
def apart (zones : List Zone) (rows : List (Range α)) : Bool :=
  rows.all fun r => zones.all fun z => Nat.blt r.hi z.1 || Nat.blt z.2 r.lo

theorem find?_eq_none_of_apart {zones : List Zone} {rows : List (Range α)}
    (h : apart zones rows = true) {z : Zone} (hz : z ∈ zones) {n : Nat} (hlo : z.1 ≤ n)
    (hhi : n ≤ z.2) : (RangeTree.ofList rows).find? n = none := by
  cases hfind : (RangeTree.ofList rows).find? n with
  | none => rfl
  | some r =>
    obtain ⟨hmem, hr⟩ := RangeTree.mem_of_find?_ofList hfind
    have hapart := List.all_eq_true.mp (List.all_eq_true.mp h r hmem) z hz
    simp only [Bool.or_eq_true, Nat.blt_eq] at hapart
    omega

end Zones

/-! ## The steps of the normal forms -/

theorem decompose_of_none {step : Char → Option (List Char)} {c : Char} (h : step c = none)
    (fuel : Nat) : decompose step fuel c = [c] := by
  cases fuel with
  | zero => rfl
  | succ fuel =>
    unfold decompose
    rw [h]

theorem flatMap_of_forall {f : Char → List Char} {t : List Char} (h : ∀ c ∈ t, f c = [c]) :
    t.flatMap f = t := by
  induction t with
  | nil => rfl
  | cons c rest ih =>
    rw [List.flatMap_cons, h c List.mem_cons_self,
      ih fun d hd => h d (List.mem_cons_of_mem c hd)]
    rfl

/-- A step to characters that take none is the whole decomposition. -/
theorem decompose_of_some {step : Char → Option (List Char)} {c : Char} {t : List Char}
    (h : step c = some t) (ht : ∀ d ∈ t, step d = none) (fuel : Nat) :
    decompose step (fuel + 1) c = t := by
  unfold decompose
  rw [h]
  exact flatMap_of_forall fun d hd => decompose_of_none (ht d hd) fuel

/-- Starters are in order. -/
theorem reorder_of_starters {t : List Char} (h : ∀ c ∈ t, combiningClass c = 0) :
    reorder t = t := by
  induction t with
  | nil => rfl
  | cons c rest ih =>
    rw [reorder, ih fun d hd => h d (List.mem_cons_of_mem c hd)]
    cases rest with
    | nil => rfl
    | cons d more =>
      have hd : combiningClass d = 0 := h d (List.mem_cons_of_mem c List.mem_cons_self)
      rw [insertMark, if_neg (by omega)]

theorem nfd_singleton_of_none {c : Char} (h : canonicalStep? c = none) : nfd [c] = [c] := by
  unfold nfd
  rw [List.flatMap_singleton, canonicalDecomposition, decompose_of_none h]
  rfl

/-! ## Inert characters -/

/-- A starter that no normal form and no case folding changes. -/
structure Inert (c : Char) : Prop where
  canonical : canonicalStep? c = none
  compatibility : compatibilityMapping? c = none
  caseless : caseFold c = [c]
  starter : combiningClass c = 0

theorem Inert.compatibilityStep? {c : Char} (h : Inert c) : compatibilityStep? c = none := by
  rw [Unicode.compatibilityStep?, h.canonical, h.compatibility]
  rfl

theorem nfd_of_inert {t : List Char} (h : ∀ d ∈ t, Inert d) : nfd t = t := by
  have hflat : t.flatMap canonicalDecomposition = t :=
    flatMap_of_forall fun d hd => decompose_of_none (h d hd).canonical longestChain
  rw [nfd, hflat, reorder_of_starters fun d hd => (h d hd).starter]

theorem nfkd_of_inert {t : List Char} (h : ∀ d ∈ t, Inert d) : nfkd t = t := by
  have hflat : t.flatMap compatibilityDecomposition = t :=
    flatMap_of_forall fun d hd => decompose_of_none (h d hd).compatibilityStep? longestChain
  rw [nfkd, hflat, reorder_of_starters fun d hd => (h d hd).starter]

theorem nfkc_of_inert {c : Char} (h : Inert c) : nfkc [c] = [c] := by
  have hc : ∀ d ∈ [c], Inert d := by
    intro d hd
    rwa [List.mem_singleton.mp hd]
  rw [nfkc, nfkd_of_inert hc, compose, if_pos h.starter]
  rfl

section Step

variable {c : Char} {t : List Char} (h : canonicalStep? c = some t) (ht : ∀ d ∈ t, Inert d)
include h ht

theorem nfd_of_step : nfd [c] = t := by
  unfold nfd
  rw [List.flatMap_singleton, canonicalDecomposition, longestChain,
    decompose_of_some h fun d hd => (ht d hd).canonical,
    reorder_of_starters fun d hd => (ht d hd).starter]

theorem nfkc_of_step : nfkc [c] = compose t := by
  have hstep : compatibilityStep? c = some t := by
    rw [compatibilityStep?, h]
    rfl
  unfold nfkc nfkd
  rw [List.flatMap_singleton, compatibilityDecomposition, longestChain,
    decompose_of_some hstep fun d hd => (ht d hd).compatibilityStep?,
    reorder_of_starters fun d hd => (ht d hd).starter]

end Step

/-! ## Letters of Hangul and ideographs -/

/-- The letters that syllables are made of, and the unified ideographs. -/
def inertZones : List Zone := [(0x1100, 0x11FF), (0x3400, 0x9FFF), (0x20000, 0x2F7FF)]

/-- The syllables of Hangul and the ideographs for compatibility. -/
def compositeZones : List Zone := [(0xAC00, 0xD7A3), (0xF900, 0xFAFF), (0x2F800, 0x2FA1F)]

set_option maxRecDepth 10000 in
theorem apart_canonical : apart inertZones CanonicalMapping.rows = true := by decide +kernel

set_option maxRecDepth 10000 in
theorem apart_compatibility : apart inertZones CompatibilityMapping.rows = true := by
  decide +kernel

set_option maxRecDepth 10000 in
theorem apart_caseFolding :
    apart (inertZones ++ compositeZones) CaseFolding.rows = true := by decide +kernel

set_option maxRecDepth 10000 in
theorem apart_combiningClass :
    apart (inertZones ++ compositeZones) CombiningClass.rows = true := by decide +kernel

theorem caseFold_of_none {c : Char} (h : CaseFolding.tree.find? c.toNat = none) :
    caseFold c = [c] := by
  unfold caseFold
  rw [h]

theorem combiningClass_of_none {c : Char} (h : CombiningClass.tree.find? c.toNat = none) :
    combiningClass c = 0 := by
  unfold combiningClass
  rw [h]

section Zones

variable {c : Char} {z : Zone}

theorem caseFold_of_mem (hz : z ∈ inertZones ++ compositeZones) (hlo : z.1 ≤ c.toNat)
    (hhi : c.toNat ≤ z.2) : caseFold c = [c] :=
  caseFold_of_none (find?_eq_none_of_apart apart_caseFolding hz hlo hhi)

theorem combiningClass_of_mem (hz : z ∈ inertZones ++ compositeZones) (hlo : z.1 ≤ c.toNat)
    (hhi : c.toNat ≤ z.2) : combiningClass c = 0 :=
  combiningClass_of_none (find?_eq_none_of_apart apart_combiningClass hz hlo hhi)

theorem inert_of_mem (hz : z ∈ inertZones) (hlo : z.1 ≤ c.toNat) (hhi : c.toNat ≤ z.2) :
    Inert c := by
  have hmore : z ∈ inertZones ++ compositeZones := List.mem_append_left _ hz
  refine ⟨?_, ?_, caseFold_of_mem hmore hlo hhi, combiningClass_of_mem hmore hlo hhi⟩
  · have hsyllable : Hangul.decompose? c = none := by
      rw [Hangul.decompose?, Hangul.index?, if_neg, Option.map_none]
      simp only [inertZones, List.mem_cons, List.not_mem_nil, or_false] at hz
      simp only [Hangul.syllableBase, Hangul.syllableCount, Hangul.leadCount, Hangul.vowelCount,
        Hangul.trailCount]
      rcases hz with rfl | rfl | rfl <;> omega
    have hfind : CanonicalMapping.tree.find? c.toNat = none :=
      find?_eq_none_of_apart apart_canonical hz hlo hhi
    rw [canonicalStep?, hsyllable, canonicalMapping?, hfind]
    rfl
  · have hfind : CompatibilityMapping.tree.find? c.toNat = none :=
      find?_eq_none_of_apart apart_compatibility hz hlo hhi
    rw [compatibilityMapping?, hfind]
    rfl

end Zones

/-! ## Syllables of Hangul -/

theorem toNat_ofNat {n : Nat} (h : n.isValidChar) : (Char.ofNat n).toNat = n := by
  rw [Char.ofNat, dif_pos h]
  rfl

namespace Hangul

theorem index?_eq_some {base count n : Nat} {c : Char} (h : index? base count c = some n) :
    c.toNat = base + n ∧ n < count := by
  unfold index? at h
  split at h <;> cases h
  omega

theorem index?_ofNat {base count n : Nat} (hn : n < count) (hbase : base + count ≤ 0xD800) :
    index? base count (Char.ofNat (base + n)) = some n := by
  unfold index?
  rw [toNat_ofNat (.inl (by omega)), if_pos (by omega), Nat.add_sub_cancel_left]

theorem compose?_vowel {l v : Nat} (hl : l < leadCount) (hv : v < vowelCount) :
    compose? (Char.ofNat (leadBase + l)) (Char.ofNat (vowelBase + v)) =
      some (Char.ofNat (syllableBase + (l * vowelCount + v) * trailCount)) := by
  unfold compose?
  rw [index?_ofNat hl (by decide), index?_ofNat hv (by decide)]

theorem compose?_trail {s t : Nat} (hs : s < syllableCount) (hwhole : s % trailCount = 0)
    (hpos : 0 < t) (ht : t < trailCount) :
    compose? (Char.ofNat (syllableBase + s)) (Char.ofNat (trailBase + t)) =
      some (Char.ofNat (syllableBase + s + t)) := by
  have hbound : syllableBase + s < 0xD800 := by
    have : syllableBase + syllableCount ≤ 0xD800 := by decide
    omega
  have hlead : index? leadBase leadCount (Char.ofNat (syllableBase + s)) = none := by
    have : leadBase + leadCount ≤ syllableBase := by decide
    rw [index?, toNat_ofNat (.inl hbound), if_neg (by omega)]
  unfold compose?
  rw [hlead, index?_ofNat hs (by decide), index?_ofNat ht (by decide)]
  dsimp only
  rw [if_pos ⟨hwhole, hpos⟩]

end Hangul

theorem composeFrom_of_pair {a b p : Char} {rest : List Char} (h : composePair? a b = some p) :
    composeFrom a [] (b :: rest) = composeFrom p [] rest := by
  have hfree : blocked [] b = false := rfl
  rw [composeFrom, hfree, if_neg Bool.false_ne_true, h]

theorem composePair?_of_letters {a b p : Char} (h : Hangul.compose? a b = some p) :
    composePair? a b = some p := by
  rw [composePair?, h]
  rfl

theorem Hangul.mem_of_decompose? {c : Char} {t : List Char} (h : decompose? c = some t) :
    0xAC00 ≤ c.toNat ∧ c.toNat ≤ 0xD7A3 := by
  unfold decompose? at h
  obtain ⟨s, hs, -⟩ := Option.map_eq_some_iff.mp h
  obtain ⟨hc, hs⟩ := index?_eq_some hs
  have hlast : syllableBase + syllableCount = 0xD7A4 := by decide
  have hfirst : syllableBase = 0xAC00 := rfl
  omega

/-- The places of the letters in their alphabets make up the number of the syllable. -/
theorem Hangul.letters_of_index {s : Nat} (hs : s < syllableCount) :
    s / (vowelCount * trailCount) < leadCount ∧
      s % (vowelCount * trailCount) / trailCount < vowelCount ∧
        (s / (vowelCount * trailCount) * vowelCount + s % (vowelCount * trailCount) / trailCount) *
          trailCount + s % trailCount = s := by
  simp only [syllableCount, leadCount, vowelCount, trailCount] at hs ⊢
  omega

theorem Hangul.letter_mem {base count : Nat} (hbase : 0x1100 ≤ base)
    (hlast : base + count ≤ 0x1200) {n : Nat} (hn : n < count) :
    0x1100 ≤ (Char.ofNat (base + n)).toNat ∧ (Char.ofNat (base + n)).toNat ≤ 0x11FF := by
  rw [toNat_ofNat (.inl (by omega))]
  omega

/-- A syllable decomposes to letters, and they compose to it. -/
theorem Hangul.compose_decompose {c : Char} {t : List Char} (h : decompose? c = some t) :
    (∀ d ∈ t, 0x1100 ≤ d.toNat ∧ d.toNat ≤ 0x11FF) ∧ compose t = [c] := by
  unfold decompose? at h
  obtain ⟨s, hs, rfl⟩ := Option.map_eq_some_iff.mp h
  obtain ⟨hc, hs⟩ := index?_eq_some hs
  obtain ⟨hl, hv, hsum⟩ := letters_of_index hs
  dsimp only
  generalize s / (vowelCount * trailCount) = l at hl hsum ⊢
  generalize s % (vowelCount * trailCount) / trailCount = v at hv hsum ⊢
  have hr : s % trailCount < trailCount := Nat.mod_lt s (by decide)
  have hlead := letter_mem (by decide : 0x1100 ≤ leadBase) (by decide) hl
  have hvowel := letter_mem (by decide : 0x1100 ≤ vowelBase) (by decide) hv
  have hstarter : combiningClass (Char.ofNat (leadBase + l)) = 0 :=
    combiningClass_of_mem (z := (0x1100, 0x11FF)) (by decide) hlead.1 hlead.2
  have hopen := composePair?_of_letters (compose?_vowel hl hv)
  split
  · rename_i hwhole
    refine ⟨?_, ?_⟩
    · simp only [List.mem_cons, List.not_mem_nil, or_false]
      rintro d (rfl | rfl)
      · exact hlead
      · exact hvowel
    · rw [compose, if_pos hstarter, composeFrom_of_pair hopen, composeFrom, ← c.ofNat_toNat, hc,
        ← hsum, hwhole, Nat.add_zero]
  · rename_i hclosed
    have htrail := letter_mem (by decide : 0x1100 ≤ trailBase) (by decide) hr
    have hbound : (l * vowelCount + v) * trailCount < syllableCount := by omega
    have hclose := composePair?_of_letters
      (compose?_trail hbound (Nat.mul_mod_left _ _) (Nat.pos_of_ne_zero hclosed) hr)
    refine ⟨?_, ?_⟩
    · simp only [List.mem_cons, List.not_mem_nil, or_false]
      rintro d (rfl | rfl | rfl)
      · exact hlead
      · exact hvowel
      · exact htrail
    · rw [compose, if_pos hstarter, composeFrom_of_pair hopen, composeFrom_of_pair hclose,
        composeFrom, Nat.add_assoc, hsum, ← hc, c.ofNat_toNat]

end TextScan.Unicode
