import TextScan.Proofs.Scanner.Operations
import TextScan.Scanner.Session

/-!
# The bounds of the cursor

A scanner is in bounds when its cursor is not past the end of its source. An operation that is
`Forward` keeps it there: it moves past characters that are ahead, and no look or step inside it
goes past the end. All operations but the two unchecked ones are (`forward_read` and so on).
-/

namespace TextScan

namespace Fault

/-- A look or a step past the end of a text. -/
def isPastEnd : Fault → Bool
  | .outOfRange | .unguarded => true
  | _ => false

/-- A fault of what the caller passed or set, not of the text that is scanned. -/
def isCaller : Fault → Bool
  | .scan _ | .outOfRange | .unguarded => false
  | _ => true

theorem isPastEnd_of_isCaller {e : Fault} (h : e.isCaller = true) : e.isPastEnd = false := by
  cases e <;> first | rfl | cases h

theorem isCaller_ofWriteError (e : Value.WriteError) : (ofWriteError e).isCaller = true := by
  cases e <;> rfl

theorem isCaller_ofInvalid (v : InvalidValue) : (ofInvalid v).isCaller = true := by
  unfold ofInvalid
  split
  · exact isCaller_ofWriteError _
  · rfl

section Except

variable {α β ε : Type} {p : Fault → Bool} {b : Bool} {e : Fault}

theorem isCaller_of_ite {c : Prop} [Decidable c] {a : α} {v : InvalidValue}
    (h : (if c then .ok a else .error (ofInvalid v)) = Except.error e) : e.isCaller = true := by
  split at h
  · cases h
  · rw [← Except.error.inj h]
    exact isCaller_ofInvalid v

theorem of_mapError {f : ε → Fault} (hf : ∀ v, p (f v) = b) {r : Except ε α}
    (h : r.mapError f = .error e) : p e = b := by
  cases r with
  | ok a => cases h
  | error v =>
    cases h
    exact hf v

theorem of_map {f : α → β} {r : Except Fault α} (hr : ∀ e, r = .error e → p e = b)
    (h : r.map f = .error e) : p e = b := by
  cases r with
  | ok a => cases h
  | error e' =>
    cases h
    exact hr e rfl

theorem of_bind {f : α → Except Fault β} {r : Except Fault α} (hr : ∀ e, r = .error e → p e = b)
    (hf : ∀ a e, f a = .error e → p e = b) (h : r >>= f = .error e) : p e = b := by
  cases r with
  | ok a => exact hf a e h
  | error e' =>
    cases h
    exact hr e rfl

end Except

end Fault

namespace Scanner

def InBounds (s : Scanner) : Prop := s.cursor ≤ s.endIndex

theorem inBounds_advanceBy {s : Scanner} {n : Nat} (h : s.InBounds) (hn : n ≤ s.ahead.length) :
    (s.advanceBy n).InBounds := by
  rw [length_ahead] at hn
  unfold InBounds at h ⊢
  simp only [cursor_advanceBy, endIndex_advanceBy]
  omega

theorem inBounds_startAt {source : Text} {index : Int} {config : Config} {s : Scanner}
    (h : startAt source index config = .ok s) : s.source = source ∧ s.InBounds := by
  unfold startAt at h
  split at h
  · rename_i hi
    cases h
    refine ⟨rfl, ?_⟩
    show index.toNat ≤ source.length
    omega
  · cases h

/-! ## Operations -/

/-- In bounds, `m` leaves the scanner some of the characters ahead further on. -/
def Moves {α : Type} (m : Scan α) : Prop :=
  ∀ s : Scanner, s.InBounds → ∃ n, n ≤ s.ahead.length ∧ (s.run m).2 = s.advanceBy n

/-- In bounds, `m` moves on and does not fail by going past the end. -/
structure Forward {α : Type} (m : Scan α) : Prop where
  moves : Moves m
  guarded : ∀ s : Scanner, s.InBounds → ∀ e, (s.run m).1 = .error e → e.isPastEnd = false

section Combining

variable {α β : Type} {m : Scan α}

theorem forward_of_run
    (h : ∀ s : Scanner, s.InBounds → ∃ r n, s.run m = (r, s.advanceBy n) ∧ n ≤ s.ahead.length ∧
      ∀ e, r = .error e → e.isPastEnd = false) : Forward m where
  moves s hs := by
    obtain ⟨r, n, hrun, hn, -⟩ := h s hs
    exact ⟨n, hn, by rw [hrun]⟩
  guarded s hs e he := by
    obtain ⟨r, n, hrun, -, hr⟩ := h s hs
    rw [hrun] at he
    exact hr e he

theorem Forward.run (h : Forward m) {s : Scanner} (hs : s.InBounds) :
    ∃ r n, s.run m = (r, s.advanceBy n) ∧ n ≤ s.ahead.length ∧
      ∀ e, r = .error e → e.isPastEnd = false := by
  obtain ⟨n, hn, hmove⟩ := h.moves s hs
  exact ⟨(s.run m).1, n, by rw [← hmove], hn, h.guarded s hs⟩

theorem forward_ofExcept {r : Except Fault α} (h : ∀ e, r = .error e → e.isPastEnd = false) :
    Forward (MonadExcept.ofExcept r : Scan α) :=
  forward_of_run fun s _ => ⟨r, 0, run_ofExcept s r, Nat.zero_le _, h⟩

theorem forward_bind {f : α → Scan β} (hm : Forward m) (hf : ∀ a, Forward (f a)) :
    Forward (m >>= f) := by
  refine forward_of_run fun s hs => ?_
  obtain ⟨r, k, hrun, hk, hr⟩ := hm.run hs
  rw [run_bind, hrun]
  cases r with
  | error e => exact ⟨_, k, rfl, hk, fun e' he => hr e' (by cases he; rfl)⟩
  | ok a =>
    obtain ⟨q, n, hq, hn, hguard⟩ := (hf a).run (inBounds_advanceBy hs hk)
    rw [ahead_advanceBy, List.length_drop] at hn
    exact ⟨q, k + n, by rw [← advanceBy_advanceBy, ← hq], by omega, hguard⟩

/-- What is done with the scanner at hand is forward if it is for any scanner. -/
theorem forward_get_bind {f : Scanner → Scan β} (hf : ∀ s, Forward (f s)) :
    Forward (get >>= f) :=
  forward_of_run fun s hs => (hf s).run hs

end Combining

/-! ## Single characters -/

theorem forward_peek : Forward peek := by
  refine forward_of_run fun s _ => ?_
  rw [run_peek]
  cases s.ahead with
  | nil => exact ⟨_, 0, rfl, Nat.zero_le _, by rintro e ⟨⟩; rfl⟩
  | cons c rest => exact ⟨_, 0, rfl, Nat.zero_le _, by rintro e ⟨⟩⟩

theorem forward_advance : Forward advance := by
  refine forward_of_run fun s _ => ?_
  rw [run_advance]
  cases s.ahead with
  | nil => exact ⟨_, 0, rfl, Nat.zero_le _, by rintro e ⟨⟩; rfl⟩
  | cons c rest => exact ⟨_, 1, rfl, Nat.succ_le_succ (Nat.zero_le _), by rintro e ⟨⟩⟩

theorem forward_read : Forward read := by
  refine forward_of_run fun s _ => ?_
  rw [run_read]
  cases s.ahead with
  | nil => exact ⟨_, 0, rfl, Nat.zero_le _, by rintro e ⟨⟩; rfl⟩
  | cons c rest => exact ⟨_, 1, rfl, Nat.succ_le_succ (Nat.zero_le _), by rintro e ⟨⟩⟩

theorem forward_expect (atom : Text) : Forward (expect atom) := by
  refine forward_of_run fun s _ => ?_
  rw [run_expect]
  cases s.ahead with
  | nil => exact ⟨_, 0, rfl, Nat.zero_le _, by rintro e ⟨⟩; rfl⟩
  | cons c rest =>
    refine ⟨_, 1, rfl, Nat.succ_le_succ (Nat.zero_le _), fun e he => ?_⟩
    split at he <;> cases he
    rfl

theorem moves_peekUnchecked : Moves peekUnchecked := by
  intro s _
  refine ⟨0, Nat.zero_le _, ?_⟩
  unfold peekUnchecked
  rw [run_get_bind]
  split <;> rfl

theorem moves_advanceUnchecked : Moves advanceUnchecked := by
  intro s _
  unfold advanceUnchecked
  rw [run_get_bind, run_ite]
  split
  · rename_i h
    refine ⟨1, ?_, rfl⟩
    rw [length_ahead]
    omega
  · exact ⟨0, Nat.zero_le _, rfl⟩

/-! ## Runs of characters and looking ahead -/

theorem forward_advanceWhile (p : Char → Bool) : Forward (advanceWhile p) :=
  forward_of_run fun s _ =>
    ⟨_, _, run_advanceWhile s p, Text.length_takeWhile_le p s.ahead, by rintro e ⟨⟩⟩

theorem forward_textSince (start : Nat) : Forward (textSince start) :=
  forward_of_run fun s _ => ⟨_, 0, run_textSince s start, Nat.zero_le _, by rintro e ⟨⟩⟩

theorem forward_consumeWhile (p : Char → Bool) : Forward (consumeWhile p) :=
  forward_get_bind fun s => forward_bind (forward_advanceWhile p) fun _ =>
    forward_textSince s.cursor

theorem forward_consumeRemaining : Forward consumeRemaining :=
  forward_of_run fun s hs =>
    ⟨_, _, run_consumeRemaining s hs, Nat.le_refl _, by rintro e ⟨⟩⟩

theorem forward_peekMatches (p : Char → Bool) : Forward (peekMatches p) :=
  forward_of_run fun s _ => ⟨_, 0, run_peekMatches s p, Nat.zero_le _, by rintro e ⟨⟩⟩

theorem forward_nextEquals (atom : Text) : Forward (nextEquals atom) :=
  forward_of_run fun s _ => ⟨_, 0, run_nextEquals s atom, Nat.zero_le _, by rintro e ⟨⟩⟩

theorem isCaller_of_chosenOptions {c : Config} {options : Option OptionsArgument} {e : Fault}
    (h : chosenOptions c options = .error e) : e.isCaller = true := by
  cases options with
  | none => cases h
  | some given => exact Fault.of_mapError Fault.isCaller_ofInvalid h

/-- The end of a match is never past the end of the source. -/
theorem forward_advanceIfEquals (literal : Text) (options : Option OptionsArgument) :
    Forward (advanceIfEquals literal options) := by
  refine forward_of_run fun s hs => ?_
  rw [run_advanceIfEquals s hs]
  cases ho : chosenOptions s.config options with
  | error e =>
    refine ⟨_, 0, rfl, Nat.zero_le _, fun e' he => ?_⟩
    cases he
    exact Fault.isPastEnd_of_isCaller (isCaller_of_chosenOptions ho)
  | ok o =>
    dsimp only
    cases hm : CharacterData.unicode.matchLength o s.ahead literal with
    | none => exact ⟨_, 0, rfl, Nat.zero_le _, by rintro e ⟨⟩⟩
    | some n => exact ⟨_, n, rfl, (CharacterData.matchLength_bounds hm).2, by rintro e ⟨⟩⟩

/-! ## Numbers -/

theorem forward_skipIfWanted (skip : Option Bool) : Forward (skipIfWanted skip) := by
  refine forward_get_bind fun s => ?_
  split
  · exact forward_advanceWhile isWhitespace
  · exact forward_of_run fun s _ => ⟨_, 0, rfl, Nat.zero_le _, by rintro e ⟨⟩⟩

theorem source_skipped (s : Scanner) (skip : Option Bool) : (s.skipped skip).source = s.source := by
  unfold skipped
  split <;> rfl

theorem cursor_le_skipped (s : Scanner) (skip : Option Bool) :
    s.cursor ≤ (s.skipped skip).cursor := by
  unfold skipped
  split
  · exact Nat.le_add_right _ _
  · exact Nat.le_refl _

theorem inBounds_skipped {s : Scanner} (h : s.InBounds) (skip : Option Bool) :
    (s.skipped skip).InBounds := by
  unfold skipped
  split
  · exact inBounds_advanceBy h (Text.length_takeWhile_le isWhitespace s.ahead)
  · exact h

theorem isCaller_of_intRange {c : Config} {e : Fault} (h : c.intRange = .error e) :
    e.isCaller = true := by
  unfold Config.intRange at h
  repeat' split at h
  all_goals
    cases h
    try rfl

theorem isCaller_of_accepts {c : Config} {n : Nat} {e : Fault} (h : accepts c n = .error e) :
    e.isCaller = true :=
  Fault.of_map (fun _ he => isCaller_of_intRange he) h

theorem isPastEnd_of_convert {c : Config} {digits : Text} {start : Nat} {e : Fault}
    (h : convert c digits start = .error e) : e.isPastEnd = false := by
  unfold convert at h
  split at h
  · cases h
    rfl
  · split at h
    · cases h
      rfl
    · split at h
      · rename_i he
        cases h
        exact Fault.isPastEnd_of_isCaller (isCaller_of_accepts he)
      · cases h
      · cases h
        rfl

theorem forward_parseInt (skip : Option Bool) : Forward (parseInt skip) :=
  forward_bind (forward_skipIfWanted skip) fun _ =>
    forward_get_bind fun _ =>
      forward_bind (forward_consumeWhile isDigit) fun _ =>
        forward_ofExcept fun _ he => isPastEnd_of_convert he

/-- What goes on after a digit was required is forward where a digit is ahead. -/
theorem forward_requireDigit_bind {α : Type} (what : String) {f : Unit → Scan α}
    (hf : Forward (f ())) : Forward (requireDigit what >>= f) := by
  refine forward_of_run fun s hs => ?_
  rw [run_requireDigit_bind]
  split
  · exact hf.run hs
  · refine ⟨_, 0, rfl, Nat.zero_le _, fun e he => ?_⟩
    cases he
    rfl

theorem forward_parseIntString (skip : Option Bool) : Forward (parseIntString skip) :=
  forward_bind (forward_skipIfWanted skip) fun _ =>
    forward_requireDigit_bind _ (forward_consumeWhile isDigit)

/-- The point that is stepped over unchecked is there. -/
theorem forward_advanceFraction : Forward advanceFraction := by
  refine forward_of_run fun s hs => ?_
  rw [run_advanceFraction]
  split
  · rename_i hpoint
    have hlen : 1 ≤ s.ahead.length := by
      unfold nextIs at hpoint
      cases h : s.ahead with
      | nil => simp [h] at hpoint
      | cons c rest => exact Nat.succ_le_succ (Nat.zero_le _)
    split
    · refine ⟨_, _, by rw [advanceBy_advanceBy], ?_, by rintro e ⟨⟩⟩
      have := Text.length_takeWhile_le isDigit (s.advanceBy 1).ahead
      simp only [ahead_advanceBy, List.length_drop] at this ⊢
      omega
    · exact ⟨_, 1, rfl, hlen, by rintro e ⟨⟩; rfl⟩
  · exact ⟨_, 0, rfl, Nat.zero_le _, by rintro e ⟨⟩⟩

theorem forward_parseFloatString (skip : Option Bool) : Forward (parseFloatString skip) :=
  forward_bind (forward_skipIfWanted skip) fun _ =>
    forward_requireDigit_bind _ <|
      forward_get_bind fun s =>
        forward_bind (forward_advanceWhile isDigit) fun _ =>
          forward_bind forward_advanceFraction fun _ => forward_textSince s.cursor

end Scanner

end TextScan
