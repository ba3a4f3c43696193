import TextScan.Proofs.Unicode.CanonicalOrder
import TextScan.Proofs.Unicode.Evaluation

/-!
# Settled decompositions

`decompose` takes a bounded number of steps. `settles` says that this is enough: what is left takes
no step (`step_of_mem_decompose`), and a greater bound makes no difference (`decompose_of_settles`).
The check of the table finds that every canonical decomposition settles (`settles_canonicalStep?`).
-/

namespace TextScan.Unicode

section Decompose

variable {step : Char → Option (List Char)}

/-- Whether no chain of steps from a character is longer than `n`. -/
def settles (step : Char → Option (List Char)) : Nat → Char → Bool
  | 0, c => (step c).isNone
  | n + 1, c =>
    match step c with
    | none => true
    | some t => t.all (forced (settles step n))

theorem settles_of_step {n : Nat} {c : Char} {t : List Char} (h : settles step (n + 1) c = true)
    (hc : step c = some t) : ∀ d ∈ t, settles step n d = true := by
  rw [settles, hc] at h
  intro d hd
  have hsettled := List.all_eq_true.mp h d hd
  rwa [forced_eq] at hsettled

theorem step_of_mem_decompose {n : Nat} {c d : Char} (h : settles step n c = true)
    (hd : d ∈ decompose step n c) : step d = none := by
  induction n generalizing c with
  | zero =>
    rw [List.mem_singleton.mp hd]
    exact Option.isNone_iff_eq_none.mp h
  | succ n ih =>
    unfold decompose at hd
    cases hc : step c with
    | none =>
      rw [hc] at hd
      rw [List.mem_singleton.mp hd]
      exact hc
    | some t =>
      rw [hc] at hd
      obtain ⟨e, he, hd⟩ := List.mem_flatMap.mp hd
      exact ih (settles_of_step h hc e he) hd

/-- A decomposition that has settled takes no further step. -/
theorem decompose_of_settles {n : Nat} {c : Char} (h : settles step n c = true) :
    decompose step (n + 1) c = decompose step n c := by
  induction n generalizing c with
  | zero => exact decompose_of_none (Option.isNone_iff_eq_none.mp h) 1
  | succ n ih =>
    cases hc : step c with
    | none => rw [decompose_of_none hc, decompose_of_none hc]
    | some t =>
      have hparts : t.flatMap (decompose step (n + 1)) = t.flatMap (decompose step n) :=
        List.flatMap_congr fun d hd => ih (settles_of_step h hc d hd)
      rw [decompose, decompose, hc]
      exact hparts

end Decompose

/-! ## The table -/

/-- Whether a character is in a zone without rows, so that it need not be looked up. -/
def isZoned (c : Char) : Bool :=
  inertZones.any fun z => Nat.ble z.1 c.toNat && Nat.ble c.toNat z.2

theorem inert_of_isZoned {c : Char} (h : isZoned c = true) : Inert c := by
  obtain ⟨z, hz, hrange⟩ := List.any_eq_true.mp h
  rw [Bool.and_eq_true, Nat.ble_eq, Nat.ble_eq] at hrange
  exact inert_of_mem hz hrange.1 hrange.2

def checkSettled (c : Char) : Bool := isZoned c || settles canonicalStep? 2 c

theorem settles_of_checkSettled {c : Char} (h : checkSettled c = true) :
    settles canonicalStep? 2 c = true := by
  unfold checkSettled at h
  rw [Bool.or_eq_true] at h
  obtain hzoned | hsettles := h
  · rw [settles, (inert_of_isZoned hzoned).canonical]
  · exact hsettles

/-- Whether the characters that a canonical mapping leads to settle in two more steps. -/
def checkSettles (_ : Char) (t : Text) : Bool := t.all (forced checkSettled)

set_option maxRecDepth 100000 in
theorem checkSettles_rows : CanonicalMapping.rows.all (imagesAll checkSettles) = true := by
  decide +kernel

/-- Every canonical decomposition settles. -/
theorem settles_canonicalStep? (c : Char) : settles canonicalStep? longestChain c = true := by
  unfold longestChain settles
  cases hsyllable : Hangul.decompose? c with
  | some t =>
    rw [canonicalStep?, hsyllable, Option.some_or]
    refine List.all_eq_true.mpr fun d hd => ?_
    obtain ⟨hlo, hhi⟩ := (Hangul.compose_decompose hsyllable).1 d hd
    rw [forced_eq, settles, (inert_of_mem (z := (0x1100, 0x11FF)) (by decide) hlo hhi).canonical]
  | none =>
    rw [canonicalStep?, hsyllable, Option.none_or, canonicalMapping?]
    cases hfind : CanonicalMapping.tree.find? c.toNat with
    | none => rfl
    | some r =>
      have hcheck : checkSettles c (r.image c.toNat) = true := of_imagesAll checkSettles_rows hfind
      refine List.all_eq_true.mpr fun d hd => ?_
      have hsettled := List.all_eq_true.mp hcheck d hd
      rw [forced_eq] at hsettled ⊢
      exact settles_of_checkSettled hsettled

/-- The characters of a decomposed text do not decompose. -/
theorem canonicalStep?_of_mem_nfd {t : Text} {d : Char} (h : d ∈ nfd t) :
    canonicalStep? d = none := by
  obtain ⟨c, -, hd⟩ := List.mem_flatMap.mp ((reorder_perm _).mem_iff.mp h)
  exact step_of_mem_decompose (settles_canonicalStep? c) hd

end TextScan.Unicode
