import TextScan.Proofs.Compare.Comparison
import TextScan.Proofs.Scanner.Run

/-!
# Looking ahead

A look tells what the step that reads would do, and does nothing itself: `peek` answers as `read`
does, `nextEquals` as `expect` would and `peekMatches` by what `consumeWhile` would pass. A literal
compared exactly is looked at as a whole. It is there just if its characters can be expected one
after the other (`run_expectEach_ok_iff`), and both ways leave the scanner at the same place. These
laws hold in every state of a run (`run_looksAhead`).
-/

namespace TextScan

/-- The characters of a literal, expected one by one. -/
def Step.expectEach (literal : Text) : List Step := literal.map fun c => .expect [c]

/-- The exact mode finds a literal that the text starts with, and no empty one. -/
theorem CharacterData.matchLength_literal (D : CharacterData) (t literal : Text) :
    D.matchLength .literal t literal =
      if literal ≠ [] ∧ literal <+: t then some literal.length else none := by
  apply Option.ext
  intro n
  have hmode : D.comparison .literal = Folding.exact := rfl
  rw [matchLength_comparison, hmode, Folding.matchLength_eq_some_iff, Folding.isMatch_exact_iff,
    Option.ite_none_right_eq_some, Option.some.injEq, and_assoc]

namespace Session

open Scanner

variable {s : Session}

/-! ## One character -/

theorem step_expect (s : Session) (atom : Text) :
    s.step (.expect atom) =
      match s.scanner.ahead with
      | [] => (.error (.scan (.endOfInput s.scanner.cursor)), s)
      | c :: _ =>
        (if [c] = atom then .ok .nothing else .error (.scan (.mismatch atom c s.scanner.cursor)),
          s.withScanner (s.scanner.advanceBy 1)) := by
  show s.perform done (Scanner.expect atom) = _
  rw [perform, run_expect]
  cases s.scanner.ahead with
  | nil => rfl
  | cons c rest =>
    dsimp only
    split <;> rfl

/-- What is expected is what comes next. -/
theorem step_expect_ok_iff {atom : Text} :
    (s.step (.expect atom)).1 = .ok .nothing ↔ (s.scanner.nextIs fun c => [c] = atom) = true := by
  rw [step_expect, nextIs]
  cases s.scanner.ahead with
  | nil => simp
  | cons c rest => by_cases hc : [c] = atom <;> simp [hc]

theorem step_peek_eq_read (s : Session) : (s.step .peek).1 = (s.step .read).1 := by
  show (s.perform character Scanner.peek).1 = (s.perform character Scanner.read).1
  rw [perform, perform, run_peek, run_read]
  cases s.scanner.ahead <;> rfl

theorem step_peek_state (s : Session) : (s.step .peek).2 = s := by
  show (s.perform character Scanner.peek).2 = s
  rw [perform, run_peek]
  cases s.scanner.ahead <;> rfl

theorem step_nextEquals (s : Session) (atom : Text) :
    s.step (.nextEquals atom) = (.ok (.flag (s.scanner.nextIs fun c => [c] = atom)), s) :=
  perform_of_run (run_nextEquals s.scanner atom)

theorem step_peekMatches (s : Session) (p : Predicate) :
    s.step (.peekMatches p) = (.ok (.flag (s.scanner.nextIs p.test)), s) :=
  perform_of_run (run_peekMatches s.scanner p.test)

theorem step_consumeWhile (s : Session) (p : Predicate) :
    s.step (.consumeWhile p) =
      (.ok (.text (s.scanner.ahead.takeWhile p.test)),
        s.withScanner (s.scanner.advanceBy (s.scanner.ahead.takeWhile p.test).length)) :=
  perform_of_run (run_consumeWhile s.scanner p.test)

/-- A run of characters that satisfy a condition is not empty if the next one does. -/
theorem step_consumeWhile_nonempty_iff {p : Predicate} :
    (∃ t, t ≠ [] ∧ (s.step (.consumeWhile p)).1 = .ok (.text t)) ↔
      s.scanner.nextIs p.test = true := by
  rw [step_consumeWhile, nextIs, ← Text.takeWhile_ne_nil_iff]
  constructor
  · rintro ⟨t, ht, heq⟩
    cases heq
    exact ht
  · intro hne
    exact ⟨_, hne, rfl⟩

/-! ## A literal -/

theorem step_expect_of_cons {c : Char} {rest : Text} (h : s.scanner.ahead = c :: rest) :
    s.step (.expect [c]) = (.ok .nothing, s.withScanner (s.scanner.advanceBy 1)) := by
  rw [step_expect, h]
  dsimp only
  rw [if_pos rfl]

theorem exists_ahead_of_expect {c : Char} (h : (s.step (.expect [c])).1 = .ok .nothing) :
    ∃ rest, s.scanner.ahead = c :: rest := by
  have hnext := step_expect_ok_iff.mp h
  unfold nextIs at hnext
  cases hahead : s.scanner.ahead with
  | nil =>
    rw [hahead] at hnext
    cases hnext
  | cons d rest =>
    rw [hahead] at hnext
    obtain rfl : d = c := List.head_eq_of_cons_eq (of_decide_eq_true hnext)
    exact ⟨rest, rfl⟩

theorem run_expectEach_cons (s : Session) (c : Char) (literal : Text) :
    s.run (Step.expectEach (c :: literal)) =
      ((s.report (.expect [c])).1 :: ((s.step (.expect [c])).2.run (Step.expectEach literal)).1,
        ((s.step (.expect [c])).2.run (Step.expectEach literal)).2) := rfl

/-- Every character of a literal is there when it is expected just if the literal is ahead. -/
theorem run_expectEach_ok_iff {literal : Text} :
    (∀ r ∈ (s.run (Step.expectEach literal)).1, r.result = .ok .nothing) ↔
      literal <+: s.scanner.ahead := by
  induction literal generalizing s with
  | nil => exact iff_of_true nofun List.nil_prefix
  | cons c literal ih =>
    rw [run_expectEach_cons, List.forall_mem_cons]
    have hgoes {rest : Text} (hahead : s.scanner.ahead = c :: rest) :
        (∀ r ∈ ((s.step (.expect [c])).2.run (Step.expectEach literal)).1,
          r.result = .ok .nothing) ↔ literal <+: rest := by
      rw [step_expect_of_cons hahead, ih, ← ahead_advanceBy_one hahead]
      rfl
    constructor
    · rintro ⟨hfirst, hrest⟩
      obtain ⟨rest, hahead⟩ := exists_ahead_of_expect hfirst
      rw [hahead]
      exact List.cons_prefix_cons.mpr ⟨rfl, (hgoes hahead).mp hrest⟩
    · rintro ⟨tail, htail⟩
      have hahead : s.scanner.ahead = c :: (literal ++ tail) := htail.symm
      exact ⟨congrArg Prod.fst (step_expect_of_cons hahead),
        (hgoes hahead).mpr (List.prefix_append literal tail)⟩

/-- The characters of a literal that is ahead are passed when they are expected. -/
theorem run_expectEach_state {literal : Text} (h : literal <+: s.scanner.ahead) :
    (s.run (Step.expectEach literal)).2 = s.withScanner (s.scanner.advanceBy literal.length) := by
  induction literal generalizing s with
  | nil => rfl
  | cons c literal ih =>
    obtain ⟨tail, htail⟩ := h
    have hahead : s.scanner.ahead = c :: (literal ++ tail) := htail.symm
    have hrest : literal <+: (s.withScanner (s.scanner.advanceBy 1)).scanner.ahead := by
      show literal <+: (s.scanner.advanceBy 1).ahead
      rw [ahead_advanceBy_one hahead]
      exact List.prefix_append literal tail
    rw [run_expectEach_cons, step_expect_of_cons hahead, ih hrest, List.length_cons,
      Nat.add_comm literal.length, ← advanceBy_advanceBy]
    rfl

/-- At a place of the source a literal is taken exactly if it is ahead. -/
theorem step_advanceIfEquals_literal (hs : s.scanner.InBounds) (literal : Text) :
    s.step (.advanceIfEquals literal (some (.exact .literal))) =
      if literal ≠ [] ∧ literal <+: s.scanner.ahead then
        (.ok (.flag true), s.withScanner (s.scanner.advanceBy literal.length))
      else (.ok (.flag false), s) := by
  have hchosen : chosenOptions s.scanner.config (some (.exact .literal)) = .ok .literal := rfl
  have hrun := run_advanceIfEquals s.scanner hs literal (some (.exact .literal))
  rw [hchosen] at hrun
  dsimp only at hrun
  rw [CharacterData.matchLength_literal] at hrun
  split
  · rename_i h
    rw [if_pos h] at hrun
    exact perform_of_run hrun
  · rename_i h
    rw [if_neg h] at hrun
    exact perform_of_run hrun

/-! ## Every state -/

/-- What looks tell, and that they are nothing but looks. -/
structure LooksAhead (s : Session) : Prop where
  /-- The same character, or the same error at the end. -/
  peek_eq_read : (s.step .peek).1 = (s.step .read).1
  peek_stays : (s.step .peek).2 = s
  nextEquals : ∀ atom, ∃ b, s.step (.nextEquals atom) = (.ok (.flag b), s) ∧
    (b = true ↔ (s.step (.expect atom)).1 = .ok .nothing)
  peekMatches : ∀ p, ∃ b, s.step (.peekMatches p) = (.ok (.flag b), s) ∧
    (b = true ↔ ∃ t, t ≠ [] ∧ (s.step (.consumeWhile p)).1 = .ok (.text t))
  /-- A literal is taken, to where its characters lead one by one, or the state stays. -/
  takesLiteral : ∀ literal : Text, ∃ b t,
    s.step (.advanceIfEquals literal (some (.exact .literal))) = (.ok (.flag b), t) ∧
      (b = true ↔ literal ≠ [] ∧
        ∀ r ∈ (s.run (Step.expectEach literal)).1, r.result = .ok .nothing) ∧
      (b = true → t = (s.run (Step.expectEach literal)).2) ∧ (b = false → t = s)

/-- Within the bounds of the source looks tell the truth. -/
theorem looksAhead_of_inBounds (hs : s.scanner.InBounds) : s.LooksAhead where
  peek_eq_read := step_peek_eq_read s
  peek_stays := step_peek_state s
  nextEquals atom := ⟨_, step_nextEquals s atom, step_expect_ok_iff.symm⟩
  peekMatches p := ⟨_, step_peekMatches s p, step_consumeWhile_nonempty_iff.symm⟩
  takesLiteral literal := by
    rw [step_advanceIfEquals_literal hs]
    simp only [run_expectEach_ok_iff]
    by_cases h : literal ≠ [] ∧ literal <+: s.scanner.ahead
    · rw [if_pos h]
      exact ⟨true, _, rfl, iff_of_true rfl h, fun _ => (run_expectEach_state h.2).symm, nofun⟩
    · rw [if_neg h]
      exact ⟨false, s, rfl, iff_of_false Bool.false_ne_true h, nofun, fun _ => rfl⟩

/-- **Looks agree with reading** in every state of a run: the next character is the one that would
be read, it is an atom or of a class just if it would be expected or consumed as such, and a literal
is taken just if its characters can be expected one after the other. -/
theorem run_looksAhead {source : Text} {index : Int} {config : Config} {scanner : Scanner}
    (h : Scanner.startAt source index config = .ok scanner) (steps : List Step) :
    ((ofScanner scanner).run steps).2.LooksAhead :=
  looksAhead_of_inBounds (within_run (s := ofScanner scanner) (inBounds_startAt h).2 steps).2

/-- After a failed step: a literal that is ahead, and one that goes past the end of the source. -/
theorem run_looksAhead_pastEnd :
    let source : Text := ['a', 'b', 'a', 'b']
    let scanner : Scanner := ⟨source, 1, .default⟩
    let s := ((ofScanner scanner).run [.expect ['x']]).2
    let exact : Option OptionsArgument := some (.exact .literal)
    Scanner.startAt source 1 .default = .ok scanner ∧ s.LooksAhead ∧
      (s.step (.advanceIfEquals ['a', 'b'] exact)).1 = .ok (.flag true) ∧
        (s.step (.advanceIfEquals ['a', 'b', 'a'] exact)).1 = .ok (.flag false) := by
  intro source scanner s exact
  have hstart : Scanner.startAt source 1 .default = .ok scanner := rfl
  exact ⟨hstart, run_looksAhead hstart [.expect ['x']], rfl, rfl⟩

end Session

end TextScan
