import TextScan.Proofs.Unicode.Settled

/-!
# Decomposing what was composed

Composition undoes steps of decomposition, so decomposing a composed text gives back what was
composed (`canonicalDecomposition_of_pair`), and the canonical decomposition of a text is that of
its composed form (`nfd_nfc`). A starter may have taken up a mark from behind marks of lower
classes that stay; decomposed, that mark comes before them and is put back when the marks are
reordered (`reorder_composeFrom`).
-/

namespace TextScan.Unicode

/-! ## Pairs -/

/-- Whether a first character and each that it composes with are the decomposition of the two. -/
def composesBack (r : Range (List (Nat × Nat))) : Bool :=
  charsAll (fun a => r.value.all fun e =>
    forced (fun b => forced (fun p => match canonicalStep? p with
      | some t => same t [a, b]
      | none => false) (Char.ofNat e.2)) (Char.ofNat e.1)) r

set_option maxRecDepth 100000 in
theorem composesBack_rows : Composition.rows.all composesBack = true := by decide +kernel

theorem canonicalStep?_of_composesBack {r : Range (List (Nat × Nat))} (h : composesBack r = true)
    {a : Char} (hlo : r.lo ≤ a.toNat) (hhi : a.toNat ≤ r.hi) {e : Nat × Nat} (he : e ∈ r.value) :
    canonicalStep? (Char.ofNat e.2) = some [a, Char.ofNat e.1] := by
  have hcheck := List.all_eq_true.mp (of_charsAll h hlo hhi) e he
  rw [forced_eq, forced_eq] at hcheck
  split at hcheck
  · rename_i t hstep
    rw [hstep, eq_of_same hcheck]
  · cases hcheck

namespace Hangul

theorem eq_of_index? {base count n : Nat} {c : Char} (h : index? base count c = some n) :
    c = Char.ofNat (base + n) ∧ n < count := by
  obtain ⟨hc, hn⟩ := index?_eq_some h
  exact ⟨by rw [← hc, c.ofNat_toNat], hn⟩

theorem decompose?_ofNat {s : Nat} (hs : s < syllableCount) :
    decompose? (Char.ofNat (syllableBase + s)) =
      some (if s % trailCount = 0 then
          [Char.ofNat (leadBase + s / (vowelCount * trailCount)),
            Char.ofNat (vowelBase + s % (vowelCount * trailCount) / trailCount)]
        else
          [Char.ofNat (leadBase + s / (vowelCount * trailCount)),
            Char.ofNat (vowelBase + s % (vowelCount * trailCount) / trailCount),
            Char.ofNat (trailBase + s % trailCount)]) := by
  rw [decompose?, index?_ofNat hs (by decide)]
  rfl

theorem parts_of_open {l v : Nat} (hl : l < leadCount) (hv : v < vowelCount) :
    (l * vowelCount + v) * trailCount < syllableCount ∧
      (l * vowelCount + v) * trailCount / (vowelCount * trailCount) = l ∧
        (l * vowelCount + v) * trailCount % (vowelCount * trailCount) / trailCount = v := by
  simp only [syllableCount, leadCount, vowelCount, trailCount] at hl hv ⊢
  omega

theorem parts_of_closed {s t : Nat} (hs : s < syllableCount) (hopen : s % trailCount = 0)
    (ht : t < trailCount) :
    s + t < syllableCount ∧ (s + t) % trailCount = t ∧
      (s + t) / (vowelCount * trailCount) = s / (vowelCount * trailCount) ∧
        (s + t) % (vowelCount * trailCount) / trailCount =
          s % (vowelCount * trailCount) / trailCount := by
  simp only [syllableCount, leadCount, vowelCount, trailCount] at hs hopen ht ⊢
  omega

/-- Two letters, or an open syllable and a letter, are what they compose to, decomposed. -/
theorem decompose?_of_compose? {a b p : Char} (h : compose? a b = some p) :
    decompose? p = some [a, b] ∨ ∃ t, decompose? a = some t ∧ decompose? p = some (t ++ [b]) := by
  unfold compose? at h
  split at h
  · rename_i l v hlead hvowel
    cases h
    obtain ⟨rfl, hl⟩ := eq_of_index? hlead
    obtain ⟨rfl, hv⟩ := eq_of_index? hvowel
    obtain ⟨hs, hdiv, hmod⟩ := parts_of_open hl hv
    left
    rw [decompose?_ofNat hs, if_pos (Nat.mul_mod_left _ _), hdiv, hmod]
  · split at h
    · rename_i s t hsyllable htrail
      split at h
      · rename_i hopen
        cases h
        obtain ⟨rfl, hs⟩ := eq_of_index? hsyllable
        obtain ⟨rfl, ht⟩ := eq_of_index? htrail
        obtain ⟨hsum, hlast, hdiv, hmod⟩ := parts_of_closed hs hopen.1 ht
        right
        refine ⟨_, decompose?_ofNat hs, ?_⟩
        rw [Nat.add_assoc, decompose?_ofNat hsum, hlast, hdiv, hmod, if_pos hopen.1,
          if_neg (by omega)]
        rfl
      · cases h
    · cases h

end Hangul

theorem canonicalDecomposition_of_none {c : Char} (h : canonicalStep? c = none) :
    canonicalDecomposition c = [c] := decompose_of_none h longestChain

theorem canonicalDecomposition_of_syllable {c : Char} {t : List Char}
    (h : Hangul.decompose? c = some t) : canonicalDecomposition c = t := by
  have hstep : canonicalStep? c = some t := by rw [canonicalStep?, h, Option.some_or]
  refine decompose_of_some hstep (fun d hd => ?_) 2
  obtain ⟨hlo, hhi⟩ := (Hangul.compose_decompose h).1 d hd
  exact (inert_of_mem (z := (0x1100, 0x11FF)) (by decide) hlo hhi).canonical

/-- A step of decomposition to two characters, of which the second decomposes no further. -/
theorem canonicalDecomposition_of_step {a b p : Char} (h : canonicalStep? p = some [a, b])
    (hb : canonicalStep? b = none) :
    canonicalDecomposition p = canonicalDecomposition a ++ [b] := by
  have ha : settles canonicalStep? 2 a = true :=
    settles_of_step (settles_canonicalStep? p) h a List.mem_cons_self
  rw [canonicalDecomposition, canonicalDecomposition, longestChain, decompose_of_settles ha,
    decompose, h]
  simp only [List.flatMap_cons, List.flatMap_nil, List.append_nil, decompose_of_none hb]

/-- **A composite decomposes to what it was composed of.** -/
theorem canonicalDecomposition_of_pair {a b p : Char} (h : composePair? a b = some p)
    (hb : canonicalStep? b = none) :
    canonicalDecomposition p = canonicalDecomposition a ++ [b] := by
  unfold composePair? at h
  cases hletters : Hangul.compose? a b with
  | some q =>
    rw [hletters, Option.some_or] at h
    cases h
    rcases Hangul.decompose?_of_compose? hletters with hp | ⟨t, ha, hp⟩
    · refine canonicalDecomposition_of_step ?_ hb
      rw [canonicalStep?, hp, Option.some_or]
    · rw [canonicalDecomposition_of_syllable hp, canonicalDecomposition_of_syllable ha]
  | none =>
    rw [hletters, Option.none_or] at h
    obtain ⟨r, hfind, h⟩ := Option.bind_eq_some_iff.mp h
    obtain ⟨n, hlookup, h⟩ := Option.bind_eq_some_iff.mp h
    obtain rfl := Option.some.inj h
    obtain ⟨hmem, hlo, hhi⟩ := RangeTree.mem_of_find?_ofList hfind
    have hback := List.all_eq_true.mp composesBack_rows r hmem
    obtain ⟨before, after, hsplit, -⟩ := List.lookup_eq_some_iff.mp hlookup
    have hentry : (b.toNat, n) ∈ r.value := by
      rw [hsplit]
      exact List.mem_append_right _ List.mem_cons_self
    have hstep := canonicalStep?_of_composesBack hback hlo hhi hentry
    rw [b.ofNat_toNat] at hstep
    exact canonicalDecomposition_of_step hstep hb

/-! ## Composed texts -/

theorem blocked_of_getLast? {marks : Text} {m c : Char} (h : marks.getLast? = some m) :
    blocked marks c = decide (combiningClass c ≤ combiningClass m) := by
  rw [blocked, h]

/-- The marks that stay apart from a starter, in order, and a rest in order that may stand behind
them. -/
structure Apart (marks rest : Text) : Prop where
  pos : ∀ m ∈ marks, 0 < combiningClass m
  le_last : ∀ l, marks.getLast? = some l → ∀ m ∈ marks, combiningClass m ≤ combiningClass l
  le_head : ∀ c more, rest = c :: more →
    combiningClass c = 0 ∨ ∀ m ∈ marks, combiningClass m ≤ combiningClass c
  inOrder : InOrder rest

namespace Apart

variable {marks rest : Text} {c : Char}

theorem nil (h : InOrder rest) : Apart [] rest where
  pos _ hm := absurd hm List.not_mem_nil
  le_last _ _ _ hm := absurd hm List.not_mem_nil
  le_head _ _ _ := .inr fun _ hm => absurd hm List.not_mem_nil
  inOrder := h

/-- The next mark stays apart as well. -/
theorem push (h : Apart marks (c :: rest)) (hc : combiningClass c ≠ 0) :
    Apart (marks ++ [c]) rest := by
  have hle (m : Char) (hm : m ∈ marks ++ [c]) : combiningClass m ≤ combiningClass c := by
    rcases List.mem_append.mp hm with hm | hm
    · exact (h.le_head c rest rfl).resolve_left hc m hm
    · rw [List.mem_singleton.mp hm]
  refine ⟨fun m hm => ?_, fun l hl m hm => ?_, fun d more hd => ?_, h.inOrder.tail⟩
  · rcases List.mem_append.mp hm with hm | hm
    · exact h.pos m hm
    · rw [List.mem_singleton.mp hm]
      omega
  · rw [List.getLast?_concat, Option.some.injEq] at hl
    exact hl ▸ hle m hm
  · subst hd
    have hcd := (List.isChain_cons_cons.mp h.inOrder).1
    exact hcd.imp_right fun hcd m hm => Nat.le_trans (hle m hm) hcd

/-- A mark that is not blocked is of a higher class than those that stay apart. -/
theorem lt_of_not_blocked (h : Apart marks rest) (hfree : blocked marks c = false) :
    ∀ m ∈ marks, combiningClass m < combiningClass c := by
  intro m hm
  cases hlast : marks.getLast? with
  | none =>
    rw [List.getLast?_eq_none_iff.mp hlast] at hm
    cases hm
  | some l =>
    rw [blocked_of_getLast? hlast, decide_eq_false_iff_not] at hfree
    have := h.le_last l hlast m hm
    omega

/-- The next mark is taken from between them. -/
theorem take (h : Apart marks (c :: rest)) (hfree : blocked marks c = false) :
    Apart marks rest where
  pos := h.pos
  le_last := h.le_last
  le_head d more hd := by
    subst hd
    have hcd := (List.isChain_cons_cons.mp h.inOrder).1
    refine hcd.imp_right fun hcd m hm => ?_
    have := h.lt_of_not_blocked hfree m hm
    omega
  inOrder := h.inOrder.tail

end Apart

/-- A text of characters that do not decompose. -/
def Elementary (t : Text) : Prop := ∀ d ∈ t, canonicalStep? d = none

theorem flatMap_of_elementary {t : Text} (h : Elementary t) :
    t.flatMap canonicalDecomposition = t :=
  flatMap_of_forall fun d hd => canonicalDecomposition_of_none (h d hd)

/-- A mark that the starter takes up, decomposed again, stands before the marks that it was taken
from behind, and these are of lower classes. -/
theorem reorder_composeFrom {a : Char} {marks rest : Text} (h : Apart marks rest)
    (helementary : Elementary (marks ++ rest)) :
    reorder ((composeFrom a marks rest).flatMap canonicalDecomposition) =
      reorder (canonicalDecomposition a ++ (marks ++ rest)) := by
  induction rest generalizing a marks with
  | nil =>
    rw [List.append_nil] at helementary ⊢
    rw [composeFrom, List.flatMap_cons, flatMap_of_elementary helementary]
  | cons c rest ih =>
    have hmarks : Elementary marks := fun d hd => helementary d (List.mem_append_left _ hd)
    have hc : canonicalStep? c = none :=
      helementary c (List.mem_append_right _ List.mem_cons_self)
    have hrest : Elementary rest := fun d hd =>
      helementary d (List.mem_append_right _ (List.mem_cons_of_mem c hd))
    unfold composeFrom
    split
    · rename_i p hp
      have hfree : blocked marks c = false := by
        cases hblocked : blocked marks c with
        | false => rfl
        | true => rw [hblocked] at hp; cases hp
      rw [hfree, if_neg Bool.false_ne_true] at hp
      have hboth : Elementary (marks ++ rest) := fun d hd =>
        (List.mem_append.mp hd).elim (hmarks d) (hrest d)
      rw [ih (h.take hfree) hboth, canonicalDecomposition_of_pair hp hc, List.append_assoc]
      apply reorder_append_congr
      exact (reorder_past (fun m hm => ⟨h.pos m hm, h.lt_of_not_blocked hfree m hm⟩) rest).symm
    · split
      · have hnext := ih (a := c) (Apart.nil h.inOrder.tail) hrest
        rw [canonicalDecomposition_of_none hc] at hnext
        rw [List.flatMap_append, List.flatMap_cons, flatMap_of_elementary hmarks,
          ← List.append_assoc]
        exact reorder_append_congr hnext _
      · rename_i hmark
        have hboth : Elementary (marks ++ [c] ++ rest) := by
          rwa [List.append_assoc]
        rw [ih (h.push hmark) hboth, List.append_assoc]
        rfl

theorem reorder_compose {t : Text} (h : InOrder t) (helementary : Elementary t) :
    reorder ((compose t).flatMap canonicalDecomposition) = reorder t := by
  induction t with
  | nil => rfl
  | cons c rest ih =>
    have hc : canonicalDecomposition c = [c] :=
      canonicalDecomposition_of_none (helementary c List.mem_cons_self)
    have hrest : Elementary rest := fun d hd => helementary d (List.mem_cons_of_mem c hd)
    unfold compose
    split
    · have hapart : Apart [] rest := .nil h.tail
      rw [reorder_composeFrom hapart hrest, hc]
      rfl
    · rw [List.flatMap_cons, hc]
      exact reorder_append_congr (ih h.tail hrest) [c]

/-- **Decomposing a composed text** gives the decomposition of the text. -/
theorem nfd_nfc (t : Text) : nfd (nfc t) = nfd t := by
  have helementary : Elementary (nfd t) := fun _ hd => canonicalStep?_of_mem_nfd hd
  have hinOrder : InOrder (nfd t) := inOrder_reorder _
  calc nfd (nfc t) = reorder ((compose (nfd t)).flatMap canonicalDecomposition) := rfl
    _ = reorder (nfd t) := reorder_compose hinOrder helementary
    _ = nfd t := reorder_of_inOrder hinOrder

end TextScan.Unicode
