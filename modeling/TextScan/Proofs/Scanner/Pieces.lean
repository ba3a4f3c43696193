import TextScan.Proofs.Compare.Comparison
import TextScan.Proofs.Scanner.Operations

/-!
# A literal in two pieces

A match of a literal ends before a character that is kept and is no mark, and so may a match begin
there. Behind the match of a first piece the matcher therefore looks for a second piece as it would
within the whole literal (`matchLength_append`), and a scanner that takes the first piece and then
the second gets as far as one that takes both at once. If the second piece does not follow they
part: the one stays behind the first piece, the other has not moved (`advanceIfEquals_append`).
-/

namespace TextScan

namespace Folding

variable {F : Folding} {t first second : Text} {n : Nat}

/-- A match of the whole goes on behind the match of the first piece, as one of the second. -/
theorem isMatch_append_iff (hfirst : F.IsMatch t first n) (hsecond : F.foldText second ≠ [])
    {m : Nat} :
    F.IsMatch t (first ++ second) m ↔ ∃ k, F.IsMatch (t.drop n) second k ∧ n + k = m := by
  have halike (k : Nat) : F.foldText (t.take (n + k)) = F.foldText (first ++ second) ↔
      F.foldText ((t.drop n).take k) = F.foldText second := by
    rw [foldText_take_add, hfirst.alike, foldText_append, List.append_cancel_left_eq]
  have hlength : (t.drop n).length = t.length - n := List.length_drop
  constructor
  · intro h
    have hle : n ≤ m := by
      rcases Nat.lt_or_ge m n with hlt | hge
      · -- A shorter match would fold to a part of what the first piece folds to.
        obtain ⟨j, rfl⟩ := Nat.exists_eq_add_of_lt hlt
        have hshort := hfirst.alike
        rw [Nat.add_assoc, foldText_take_add, h.alike, foldText_append, List.append_assoc] at hshort
        have hnil := List.append_eq_nil_iff.mp (List.self_eq_append_right.mp hshort.symm)
        exact absurd hnil.1 hsecond
      · exact hge
    obtain ⟨k, rfl⟩ := Nat.exists_eq_add_of_le hle
    have hrest := (halike k).mp h.alike
    refine ⟨k, ⟨hsecond, ?_, ?_, hrest, fun c hc => h.stops c ?_⟩, rfl⟩
    · -- The second piece takes at least one character, and the first match stops before it.
      cases hdrop : t.drop n with
      | nil =>
        rw [hdrop, List.take_nil] at hrest
        exact absurd hrest.symm hsecond
      | cons c rest =>
        have hc : t[n]? = some c := by
          rw [← List.head?_drop, hdrop, List.head?_cons]
        rw [startsVanishing, Bool.eq_false_iff, ne_eq, vanishes_iff]
        exact (hfirst.stops c hc).1
    · have := h.le_length
      omega
    · rwa [List.getElem?_drop] at hc
  · rintro ⟨k, h, rfl⟩
    refine ⟨?_, hfirst.start_kept, ?_, (halike k).mpr h.alike, fun c hc => h.stops c ?_⟩
    · rw [foldText_append]
      exact fun hnil => hsecond (List.append_eq_nil_iff.mp hnil).2
    · have := h.le_length
      have := hfirst.le_length
      omega
    · rwa [List.getElem?_drop]

theorem matchLength_append (hfirst : F.matchLength t first = some n)
    (hsecond : F.foldText second ≠ []) :
    F.matchLength t (first ++ second) = (F.matchLength (t.drop n) second).map (n + ·) := by
  apply Option.ext
  intro m
  rw [Option.map_eq_some_iff, matchLength_eq_some_iff,
    isMatch_append_iff (matchLength_eq_some_iff.mp hfirst) hsecond]
  simp only [matchLength_eq_some_iff]

end Folding

theorem CharacterData.matchLength_append {D : CharacterData} {o : CompareOptions}
    {t first second : Text} {n : Nat} (hfirst : D.matchLength o t first = some n)
    (hsecond : D.fold o second ≠ []) :
    D.matchLength o t (first ++ second) = (D.matchLength o (t.drop n) second).map (n + ·) := by
  rw [matchLength_comparison] at hfirst ⊢
  rw [matchLength_comparison, Folding.matchLength_append hfirst]
  rwa [foldText_comparison]

namespace Scanner

open CharacterData (unicode)

/-- **A literal in two pieces**, in every mode: behind a match of the first piece the second matches
where the whole does. A scanner that has taken the first piece then answers for the second as one
that has not moved answers for the whole. Both reach the same place if the answer is yes, and both
stay where they are if it is no. -/
theorem advanceIfEquals_append {o : CompareOptions} {source first second : Text} {start : Nat}
    {stop : Int} (hstart : start ≤ source.length) (hsecond : o.fold second ≠ [])
    (hfirst : o.matchAt source start first = .ok (some stop)) :
    o.matchAt source start (first ++ second) = o.matchAt source stop second ∧
      ∀ (s : Scanner) (options : Option OptionsArgument), s.source = source → s.cursor = start →
        chosenOptions s.config options = .ok o →
          ∃ t, s.run (advanceIfEquals first options) = (.ok true, t) ∧ (t.cursor : Int) = stop ∧
            ((∃ u, t.run (advanceIfEquals second options) = (.ok true, u) ∧
                s.run (advanceIfEquals (first ++ second) options) = (.ok true, u)) ∨
              t.run (advanceIfEquals second options) = (.ok false, t) ∧
                s.run (advanceIfEquals (first ++ second) options) = (.ok false, s)) := by
  have hmatch : unicode.matchAt o source start first = .ok (some stop) := hfirst
  rw [CharacterData.matchAt_of_le hstart, Except.ok.injEq, Option.map_eq_some_iff] at hmatch
  obtain ⟨n, hn, rfl⟩ := hmatch
  have hle : start + n ≤ source.length := by
    have := (CharacterData.matchLength_bounds hn).2
    rw [List.length_drop] at this
    omega
  have hwhole := CharacterData.matchLength_append hn hsecond
  rw [List.drop_drop] at hwhole
  constructor
  · show unicode.matchAt o source start (first ++ second) =
      unicode.matchAt o source (start + n : Nat) second
    rw [CharacterData.matchAt_of_le hstart, CharacterData.matchAt_of_le hle, hwhole, Option.map_map]
    simp only [Function.comp_def, Nat.add_assoc]
  · rintro s options rfl rfl ho
    have hahead : unicode.matchLength o s.ahead first = some n := hn
    have hbehind : (s.advanceBy n).cursor ≤ (s.advanceBy n).endIndex := hle
    refine ⟨s.advanceBy n, ?_, rfl, ?_⟩
    · rw [run_advanceIfEquals s hstart, ho]
      simp only [hahead]
    · rw [run_advanceIfEquals s hstart, run_advanceIfEquals _ hbehind, config_advanceBy, ho]
      have hwhole : unicode.matchLength o s.ahead (first ++ second) =
          (unicode.matchLength o (s.advanceBy n).ahead second).map (n + ·) := hwhole
      cases hsecond : unicode.matchLength o (s.advanceBy n).ahead second with
      | none =>
        rw [hsecond, Option.map_none] at hwhole
        right
        simp only [hwhole, hsecond, and_self]
      | some k =>
        rw [hsecond, Option.map_some] at hwhole
        left
        refine ⟨s.advanceBy (n + k), ?_, ?_⟩
        · simp only [hsecond, advanceBy_advanceBy]
        · simp only [hwhole]

/-- Two letters with an accent each, the second behind the match of the first. -/
theorem advanceIfEquals_append_accented :
    let o : CompareOptions := ⟨true, true, false⟩
    let source : Text := ['x', 'E', '\u0301', 's', '\u0327', 'u']
    let s : Scanner := ⟨source, 1, Config.default⟩
    let options : Option OptionsArgument := some (.exact o)
    1 ≤ source.length ∧ o.fold ['S', 'u'] ≠ [] ∧ o.matchAt source 1 ['e'] = .ok (some 3) ∧
      o.matchAt source 1 ['e', 'S', 'u'] = o.matchAt source 3 ['S', 'u'] ∧
        ∃ t, s.run (advanceIfEquals ['e'] options) = (.ok true, t) ∧ (t.cursor : Int) = 3 ∧
          ((∃ u, t.run (advanceIfEquals ['S', 'u'] options) = (.ok true, u) ∧
              s.run (advanceIfEquals ['e', 'S', 'u'] options) = (.ok true, u)) ∨
            t.run (advanceIfEquals ['S', 'u'] options) = (.ok false, t) ∧
              s.run (advanceIfEquals ['e', 'S', 'u'] options) = (.ok false, s)) := by
  intro o source s options
  have hfacts : o.fold ['S', 'u'] ≠ [] ∧ unicode.matchLength o (source.drop 1) ['e'] = some 2 := by
    decide +kernel
  have hstart : 1 ≤ source.length := by decide
  have hfirst : o.matchAt source (1 : Nat) ['e'] = .ok (some 3) := by
    show unicode.matchAt o source (1 : Nat) ['e'] = _
    rw [CharacterData.matchAt_of_le hstart, hfacts.2]
    rfl
  obtain ⟨hwhole, hscanner⟩ := advanceIfEquals_append hstart hfacts.1 hfirst
  exact ⟨hstart, hfacts.1, hfirst, hwhole, hscanner s options rfl rfl rfl⟩

/-- The second piece does not follow: a scanner behind the first piece stays there, one that looks
for the whole stays where it was. -/
theorem advanceIfEquals_append_parted :
    let s : Scanner := ⟨['a', 'b'], 0, Config.default⟩
    let t : Scanner := ⟨['a', 'b'], 1, Config.default⟩
    CompareOptions.literal.fold ['c'] ≠ [] ∧
      CompareOptions.literal.matchAt ['a', 'b'] 0 ['a'] = .ok (some 1) ∧
        s.run (advanceIfEquals ['a'] none) = (.ok true, t) ∧
          t.run (advanceIfEquals ['c'] none) = (.ok false, t) ∧
            s.run (advanceIfEquals ['a', 'c'] none) = (.ok false, s) ∧ t.cursor ≠ s.cursor := by
  refine ⟨by decide, rfl, rfl, rfl, rfl, by decide⟩

end Scanner

end TextScan
