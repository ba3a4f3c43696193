import TextScan.Proofs.Scanner.Operations

/-!
# Longest runs

The operations that go on while a condition holds, or until one does, take the longest run that is
ahead (`TakesRun`). A text has one longest run of a class, so two ways to take it never differ, and
none is left behind one that was taken. Going on until `p` fails is therefore going on while `p`
holds, and does nothing where that has stopped (`consume_longest`).
-/

namespace TextScan.Scanner

open Text

/-- From everywhere `consume` answers the longest run of `p` that is ahead and moves past exactly
that text, and `advance` moves to the same place. -/
structure TakesRun (p : Char → Bool) (consume : Scan Text) (advance : Scan Unit) : Prop where
  consumes : ∀ s : Scanner, ∃ t, LongestPrefix (IsRun p) s.ahead t ∧
    s.run consume = (.ok t, s.advanceBy t.length)
  advances : ∀ s : Scanner, s.run advance = (.ok (), (s.run consume).2)

theorem takesRun_while (p : Char → Bool) : TakesRun p (consumeWhile p) (advanceWhile p) where
  consumes s := ⟨_, longestPrefix_takeWhile p s.ahead, run_consumeWhile s p⟩
  advances s := by rw [run_advanceWhile, run_consumeWhile]

theorem takesRun_until (p : Char → Bool) :
    TakesRun (fun c => !p c) (consumeUntil p) (advanceUntil p) where
  consumes s := ⟨_, longestPrefix_takeWhile _ s.ahead, run_consumeUntil s p⟩
  advances s := by rw [run_advanceUntil, run_consumeUntil]

section Laws

variable {p : Char → Bool} {consume consume' : Scan Text} {advance advance' : Scan Unit}

/-- There is one longest run, however it is looked for. -/
theorem TakesRun.run_eq (h : TakesRun p consume advance) (h' : TakesRun p consume' advance')
    (s : Scanner) : s.run consume = s.run consume' := by
  obtain ⟨t, ht, hrun⟩ := h.consumes s
  obtain ⟨t', ht', hrun'⟩ := h'.consumes s
  rw [hrun, hrun', ht.unique ht']

/-- Behind a run that was taken there is nothing to take. -/
theorem TakesRun.run_again (h : TakesRun p consume advance) (s : Scanner) :
    (s.run consume).2.run consume = (.ok [], (s.run consume).2) := by
  obtain ⟨t, ht, hrun⟩ := h.consumes s
  rw [hrun]
  obtain ⟨u, hu, hagain⟩ := h.consumes (s.advanceBy t.length)
  rw [ahead_advanceBy] at hu
  obtain rfl := eq_nil_of_longestPrefix_drop ht hu
  exact hagain

end Laws

/-- **Runs are longest and complementary.** The text that is consumed while `p` holds is the longest
run of `p` ahead, until `p` holds it is the longest run where `p` fails, and moving on without the
text leads to the same place. Where a run of `p` has been consumed nothing is left of it: to consume
while `p` holds, or until it fails, answers no text and leaves the scanner as it is. -/
theorem consume_longest (p : Char → Bool) :
    TakesRun p (consumeWhile p) (advanceWhile p) ∧
      TakesRun (fun c => !p c) (consumeUntil p) (advanceUntil p) ∧
      ∀ s : Scanner, let stop := (s.run (consumeWhile p)).2
        stop.run (consumeWhile p) = (.ok [], stop) ∧
          stop.run (consumeUntil fun c => !p c) = (.ok [], stop) := by
  have hwhile := takesRun_while p
  -- What fails to fail holds, so both loops look for the same runs.
  have huntil : TakesRun p (consumeUntil fun c => !p c) (advanceUntil fun c => !p c) := by
    have hfails := takesRun_until fun c => !p c
    simpa only [Bool.not_not] using hfails
  refine ⟨hwhile, takesRun_until p, fun s => ?_⟩
  intro stop
  have hagain : stop.run (consumeWhile p) = (.ok [], stop) := hwhile.run_again s
  exact ⟨hagain, (huntil.run_eq hwhile stop).trans hagain⟩

/-- A run may go on to the end of the source. -/
example :
    Scanner.run ⟨['a', 'b', '1'], 1, .default⟩ (consumeUntil isWhitespace) =
      (.ok ['b', '1'], ⟨['a', 'b', '1'], 3, .default⟩) := rfl

end TextScan.Scanner
