import TextScan.Compare.Match
import TextScan.Proofs.Text.Run

/-!
# What a match is

`Folding.IsMatch` says which lengths are matches of a literal, without looking for them: the
match folds to what the literal folds to, its first character does not fold away, and the text
behind it neither folds away nor starts with a mark. `matchLength_eq_some_iff`: the matcher finds
exactly these, for every folding. `MatchesTo` and `matchAt_finds` say the same of the match at a
place of a source, for every character data.
-/

namespace TextScan

namespace Folding

variable (F : Folding)

/-- The first `n` characters of the text are a match of the literal. -/
structure IsMatch (t literal : Text) (n : Nat) : Prop where
  literal_kept : F.foldText literal ≠ []
  start_kept : F.startsVanishing t = false
  le_length : n ≤ t.length
  alike : F.foldText (t.take n) = F.foldText literal
  stops : ∀ c, t[n]? = some c → F.fold c ≠ [] ∧ F.isMark c = false

variable {F}

theorem vanishes_iff {c : Char} : F.vanishes c = true ↔ F.fold c = [] := by
  simp [vanishes]

theorem foldText_eq_nil_iff {t : Text} : F.foldText t = [] ↔ ∀ c ∈ t, F.vanishes c = true := by
  simp [foldText, vanishes]

/-- A folding of a text splits where the text does. -/
theorem foldText_take_add (t : Text) (m n : Nat) :
    F.foldText (t.take (m + n)) = F.foldText (t.take m) ++ F.foldText ((t.drop m).take n) := by
  rw [List.take_add, foldText_append]

/-! ## The part that is covered -/

theorem cover_nil (t : Text) : F.cover [] t = some 0 := by
  cases t <;> rfl

/-- A target that is not used up goes on with the folding of the next character. -/
theorem cover_cons {target : Text} (h : target ≠ []) (c : Char) (rest : Text) :
    F.cover target (c :: rest) =
      if (F.fold c).isPrefixOf target then
        (F.cover (target.drop (F.fold c).length) rest).map (· + 1)
      else none := by
  cases target with
  | nil => exact absurd rfl h
  | cons d target => rfl

theorem alike_of_cover {target t : Text} {k : Nat} (h : F.cover target t = some k) :
    k ≤ t.length ∧ F.foldText (t.take k) = target := by
  induction t generalizing target k with
  | nil =>
    cases target with
    | nil =>
      cases h
      exact ⟨Nat.le_refl 0, rfl⟩
    | cons d target => cases h
  | cons c rest ih =>
    by_cases ht : target = []
    · subst ht
      rw [cover_nil] at h
      cases h
      exact ⟨Nat.zero_le _, rfl⟩
    · rw [cover_cons ht] at h
      split at h
      · rename_i hp
        obtain ⟨j, hj, rfl⟩ := Option.map_eq_some_iff.mp h
        obtain ⟨hle, heq⟩ := ih hj
        obtain ⟨more, rfl⟩ := List.isPrefixOf_iff_prefix.mp hp
        refine ⟨Nat.succ_le_succ hle, ?_⟩
        rw [List.take_succ_cons, foldText_cons, heq, List.drop_left]
      · cases h

/-- Whatever folds to the target is covered, by its end at the latest. -/
theorem cover_of_alike {target t : Text} {n : Nat} (h : F.foldText (t.take n) = target) :
    ∃ k, k ≤ n ∧ F.cover target t = some k := by
  induction t generalizing target n with
  | nil =>
    have : target = [] := by simpa using h.symm
    subst this
    exact ⟨0, Nat.zero_le n, rfl⟩
  | cons c rest ih =>
    by_cases ht : target = []
    · subst ht
      exact ⟨0, Nat.zero_le n, cover_nil _⟩
    · cases n with
      | zero => exact absurd h.symm ht
      | succ n =>
        rw [List.take_succ_cons, foldText_cons] at h
        obtain ⟨k, hk, hc⟩ := ih (rfl : F.foldText (rest.take n) = _)
        refine ⟨k + 1, Nat.succ_le_succ hk, ?_⟩
        have hp : (F.fold c).isPrefixOf target = true :=
          List.isPrefixOf_iff_prefix.mpr ⟨_, h⟩
        rw [cover_cons ht, if_pos hp, ← h, List.drop_left, hc]
        rfl

/-! ## The whole match -/

theorem length_vanishing_eq_iff {t : Text} {n : Nat} :
    (F.vanishing t).length = n ↔
      n ≤ t.length ∧ F.foldText (t.take n) = [] ∧ ∀ c, t[n]? = some c → F.fold c ≠ [] := by
  simp only [vanishing, Text.length_takeWhile_eq_iff, foldText_eq_nil_iff, ne_eq,
    ← vanishes_iff (F := F), Bool.not_eq_true]

theorem startsWithMark_drop {t : Text} {n : Nat} :
    F.startsWithMark (t.drop n) = false ↔ ∀ c, t[n]? = some c → F.isMark c = false := by
  rw [← List.head?_drop]
  cases t.drop n <;> simp [startsWithMark]

/-- The end of a match is where the marks that fold away end, behind the part that is covered. -/
theorem matchLength_eq_some {t literal : Text} {n : Nat} :
    F.matchLength t literal = some n ↔
      F.foldText literal ≠ [] ∧ F.startsVanishing t = false ∧
        ∃ k, F.cover (F.foldText literal) t = some k ∧
          k + (F.vanishing (t.drop k)).length = n ∧ F.startsWithMark (t.drop n) = false := by
  unfold matchLength
  split
  · rename_i h
    simp only [Bool.or_eq_true, List.isEmpty_iff] at h
    constructor
    · intro hn
      cases hn
    · rintro ⟨h1, h2, -⟩
      simp [h1, h2] at h
  · rename_i h
    simp only [Bool.or_eq_true, List.isEmpty_iff, not_or, Bool.not_eq_true] at h
    cases F.cover (F.foldText literal) t with
    | none => simp
    | some k => simp [h]; grind

/-- **The matcher finds exactly the matches.** -/
theorem matchLength_eq_some_iff {t literal : Text} {n : Nat} :
    F.matchLength t literal = some n ↔ F.IsMatch t literal n := by
  rw [matchLength_eq_some]
  constructor
  · rintro ⟨hl, hs, k, hk, rfl, hm⟩
    obtain ⟨hle, heq⟩ := alike_of_cover hk
    obtain ⟨hvle, hveq, hvstop⟩ := length_vanishing_eq_iff.mp
      (rfl : (F.vanishing (t.drop k)).length = _)
    rw [List.length_drop] at hvle
    refine ⟨hl, hs, by omega, ?_, fun c hc => ⟨hvstop c ?_, startsWithMark_drop.mp hm c hc⟩⟩
    · rw [foldText_take_add, heq, hveq, List.append_nil]
    · rw [List.getElem?_drop, hc]
  · rintro ⟨hl, hs, hle, heq, hstop⟩
    obtain ⟨k, hkn, hk⟩ := cover_of_alike heq
    obtain ⟨-, hkeq⟩ := alike_of_cover hk
    -- What lies between the covered part and the end of the match folds away.
    have hrest : F.foldText ((t.drop k).take (n - k)) = [] := by
      have h := foldText_take_add (F := F) t k (n - k)
      rw [Nat.add_sub_cancel' hkn, heq, hkeq] at h
      exact List.self_eq_append_right.mp h
    have hv : (F.vanishing (t.drop k)).length = n - k := by
      refine length_vanishing_eq_iff.mpr ⟨?_, hrest, fun c hc => (hstop c ?_).1⟩
      · rw [List.length_drop]
        omega
      · rwa [List.getElem?_drop, Nat.add_sub_cancel' hkn] at hc
    exact ⟨hl, hs, k, hk, by omega, startsWithMark_drop.mpr fun c hc => (hstop c hc).2⟩

end Folding

/-! ## At a place of a source -/

namespace CharacterData

variable (D : CharacterData) (o : CompareOptions)

/-- The literal matches at `start`, and `stop` is where the match ends. -/
structure MatchesTo (source literal : Text) (start stop : Nat) : Prop where
  literal_ne : literal ≠ []
  start_lt : start < stop
  stop_le : stop ≤ source.length
  alike : D.fold o (source.extract start stop) = D.fold o literal
  kept : D.fold o literal ≠ []
  start_kept : ∃ c, source[start]? = some c ∧ D.foldChar o c ≠ []
  stops : stop = source.length ∨
    ∃ c, source[stop]? = some c ∧ D.foldChar o c ≠ [] ∧ D.combiningClass c = 0

variable {D o} {source literal : Text} {start : Nat}

theorem matchLength_nil (t : Text) : D.matchLength o t [] = none := by
  simp [matchLength, Folding.matchLength]

/-- A match is not empty and no longer than the text. -/
theorem matchLength_bounds {t : Text} {n : Nat} (h : D.matchLength o t literal = some n) :
    0 < n ∧ n ≤ t.length := by
  unfold matchLength at h
  split at h
  · split at h
    · rename_i hp
      cases h
      simp only [Bool.and_eq_true, Bool.not_eq_true', List.isEmpty_eq_false_iff] at hp
      exact ⟨List.length_pos_iff.mpr hp.1, (List.isPrefixOf_iff_prefix.mp hp.2).length_le⟩
    · cases h
  · have hm := Folding.matchLength_eq_some_iff.mp h
    refine ⟨Nat.pos_of_ne_zero ?_, hm.le_length⟩
    rintro rfl
    exact hm.literal_kept hm.alike.symm

/-- At a place of the source the matcher looks at the rest of it. -/
theorem matchAt_of_le (hs : start ≤ source.length) :
    D.matchAt o source start literal =
      .ok ((D.matchLength o (source.drop start) literal).map fun n => ((start + n : Nat) : Int)) := by
  unfold matchAt
  by_cases hl : literal = []
  · subst hl
    simp [matchLength_nil]
  · have hcond : ¬ (literal.isEmpty ∨ (source.length : Int) < start) := by
      simp [hl]
      omega
    rw [if_neg hcond, if_pos (Int.natCast_nonneg start)]
    rfl

theorem isMatch_drop_iff (hs : start ≤ source.length) {n : Nat} :
    (D.folding o).IsMatch (source.drop start) literal n ↔
      D.MatchesTo o source literal start (start + n) := by
  have htake : source.extract start (start + n) = (source.drop start).take n := by
    rw [List.extract_eq_take_drop, Nat.add_sub_cancel_left]
  constructor
  · rintro ⟨hl, hstart, hle, heq, hstop⟩
    rw [List.length_drop] at hle
    have hn : n ≠ 0 := by
      rintro rfl
      exact hl heq.symm
    have hlt : start < source.length := by omega
    refine ⟨?_, by omega, by omega, ?_, hl, ?_, ?_⟩
    · rintro rfl
      exact hl rfl
    · rw [htake]
      exact heq
    · refine ⟨source[start], List.getElem?_eq_getElem hlt, ?_⟩
      rw [List.drop_eq_getElem_cons hlt] at hstart
      simpa [Folding.startsVanishing, Folding.vanishes, folding] using hstart
    · rcases Nat.lt_or_ge (start + n) source.length with h | h
      · have hc : (source.drop start)[n]? = some source[start + n] := by
          rw [List.getElem?_drop, List.getElem?_eq_getElem h]
        obtain ⟨hkept, hmark⟩ := hstop _ hc
        exact .inr ⟨_, List.getElem?_eq_getElem h, hkept, by simpa [folding] using hmark⟩
      · exact .inl (by omega)
  · rintro ⟨-, hlt, hle, heq, hkept, ⟨c, hc, hck⟩, hstop⟩
    rw [htake] at heq
    refine ⟨hkept, ?_, by rw [List.length_drop]; omega, heq, fun d hd => ?_⟩
    · have hhead : (source.drop start).head? = some c := by rw [List.head?_drop, hc]
      obtain ⟨rest, hrest⟩ := List.head?_eq_some_iff.mp hhead
      rw [hrest]
      simpa [Folding.startsVanishing, Folding.vanishes, folding] using hck
    · rw [List.getElem?_drop] at hd
      rcases hstop with h | ⟨e, he, hek, hem⟩
      · rw [h, List.getElem?_eq_none (Nat.le_refl _)] at hd
        cases hd
      · cases he.symm.trans hd
        exact ⟨hek, by simpa [folding] using hem⟩

/-- **What the matcher answers**, in every mode that folds and for every character data: at most
one end is right, and the answer is that end, or none if there is none. -/
theorem matchAt_finds (D : CharacterData) (o : CompareOptions) (ho : o.isLiteral = false)
    (source literal : Text) (start : Nat) (hs : start ≤ source.length) :
    ∃ found : Option Nat,
      D.matchAt o source start literal = .ok (found.map Int.ofNat) ∧
      (∀ stop, found = some stop ↔ D.MatchesTo o source literal start stop) ∧
      (found = none ↔ ∀ stop, ¬ D.MatchesTo o source literal start stop) ∧
      ∀ stop stop', D.MatchesTo o source literal start stop →
        D.MatchesTo o source literal start stop' → stop = stop' := by
  let length := (D.folding o).matchLength (source.drop start) literal
  have hmatch : D.matchLength o (source.drop start) literal = length := by
    simp [matchLength, ho, length]
  have hfound (stop : Nat) :
      length.map (start + ·) = some stop ↔ D.MatchesTo o source literal start stop := by
    rw [Option.map_eq_some_iff]
    constructor
    · rintro ⟨n, hn, rfl⟩
      exact (isMatch_drop_iff hs).mp (Folding.matchLength_eq_some_iff.mp hn)
    · intro h
      have hn : start + (stop - start) = stop := Nat.add_sub_cancel' (Nat.le_of_lt h.start_lt)
      rw [← hn] at h
      exact ⟨_, Folding.matchLength_eq_some_iff.mpr ((isMatch_drop_iff hs).mpr h), hn⟩
  refine ⟨length.map (start + ·), ?_, hfound, ?_, fun stop stop' h h' => ?_⟩
  · rw [matchAt_of_le hs, hmatch, Option.map_map]
    rfl
  · simp only [← hfound, Option.eq_none_iff_forall_ne_some]
  · have := (hfound stop).mpr h
    rw [(hfound stop').mpr h'] at this
    exact (Option.some.inj this).symm

/-- The accent belongs to the match when accents do not count, and no other end does. -/
theorem matchAt_finds_accented :
    let o : CompareOptions := ⟨true, true, false⟩
    let source : Text := ['c', 'a', 'E', '\u0301', 'x']
    o.isLiteral = false ∧ 1 ≤ source.length ∧
      ∀ stop, unicode.MatchesTo o source ['A', 'e'] 1 stop ↔ stop = 4 := by
  intro o source
  have hlength : unicode.matchLength o (source.drop 1) ['A', 'e'] = some 3 := by decide +kernel
  obtain ⟨found, hanswer, hfound, -, -⟩ :=
    matchAt_finds unicode o rfl source ['A', 'e'] 1 (by decide)
  have hfour : found = some 4 := by
    rw [matchAt_of_le (by decide), hlength] at hanswer
    cases found with
    | none => cases hanswer
    | some stop =>
      cases hanswer
      rfl
  refine ⟨rfl, by decide, fun stop => ?_⟩
  rw [← hfound, hfour, Option.some.injEq, eq_comm]

end CharacterData

/-! ## At the start of a text -/

namespace CompareOptions

open CharacterData (unicode)

variable {o : CompareOptions}

theorem matchAt_zero (ho : o.isLiteral = false) (t literal : Text) :
    o.matchAt t 0 literal = .ok (((unicode.folding o).matchLength t literal).map Int.ofNat) := by
  have hmatch : unicode.matchLength o t literal = (unicode.folding o).matchLength t literal := by
    rw [CharacterData.matchLength, ho, if_neg Bool.false_ne_true]
  have hzero : o.matchAt t (0 : Nat) literal =
      .ok ((unicode.matchLength o (t.drop 0) literal).map fun n => ((0 + n : Nat) : Int)) :=
    CharacterData.matchAt_of_le (Nat.zero_le t.length)
  rw [List.drop_zero, hmatch] at hzero
  simp only [Nat.zero_add] at hzero
  exact hzero

theorem matchAt_zero_iff (ho : o.isLiteral = false) {t literal : Text} {n : Nat} :
    o.matchAt t 0 literal = .ok (some (n : Int)) ↔ (unicode.folding o).IsMatch t literal n := by
  rw [matchAt_zero ho, ← Folding.matchLength_eq_some_iff]
  cases (unicode.folding o).matchLength t literal with
  | none => simp
  | some m =>
    rw [Option.map_some, Except.ok.injEq, Option.some.injEq, Option.some.injEq]
    exact Int.ofNat_inj

end CompareOptions

end TextScan
