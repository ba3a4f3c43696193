import TextScan.Proofs.Compare.Matching
import TextScan.Scanner.Number

/-!
# What the operations do

Every operation answers by the text ahead and moves past a part of it: the `run_` lemmas give
each one as an answer and the scanner moved on by a number of characters (`advanceBy`). The
unchecked steps inside an operation find the character that they rely on.
-/

namespace TextScan.Scanner

/-- The scanner `n` characters on. -/
def advanceBy (n : Nat) (s : Scanner) : Scanner := { s with cursor := s.cursor + n }

/-- Whether the character ahead, if there is one, satisfies `p`. -/
def nextIs (p : Char → Bool) (s : Scanner) : Bool := s.ahead.head?.any p

variable (s : Scanner)

@[simp] theorem source_advanceBy (n : Nat) : (s.advanceBy n).source = s.source := rfl

@[simp] theorem config_advanceBy (n : Nat) : (s.advanceBy n).config = s.config := rfl

@[simp] theorem cursor_advanceBy (n : Nat) : (s.advanceBy n).cursor = s.cursor + n := rfl

@[simp] theorem endIndex_advanceBy (n : Nat) : (s.advanceBy n).endIndex = s.endIndex := rfl

@[simp] theorem advanceBy_zero : s.advanceBy 0 = s := rfl

@[simp] theorem advanceBy_advanceBy (m n : Nat) :
    (s.advanceBy m).advanceBy n = s.advanceBy (m + n) := by
  simp [advanceBy, Nat.add_assoc]

@[simp] theorem ahead_advanceBy (n : Nat) : (s.advanceBy n).ahead = s.ahead.drop n := by
  simp [ahead, advanceBy, List.drop_drop]

theorem length_ahead : s.ahead.length = s.endIndex - s.cursor := List.length_drop

theorem slice_advanceBy (n : Nat) : s.slice s.cursor (s.cursor + n) = s.ahead.take n := by
  rw [slice, List.extract_eq_take_drop, Nat.add_sub_cancel_left, ahead]

theorem isAtEnd_iff : s.isAtEnd = true ↔ s.ahead = [] := by
  rw [isAtEnd, decide_eq_true_eq, ahead, List.drop_eq_nil_iff]
  rfl

variable {s}

theorem isAtEnd_of_cons {c : Char} {rest : Text} (h : s.ahead = c :: rest) :
    ¬ s.isAtEnd = true := by
  rw [isAtEnd_iff, h]
  exact List.cons_ne_nil c rest

theorem getElem?_cursor {c : Char} {rest : Text} (h : s.ahead = c :: rest) :
    s.source[s.cursor]? = some c := by
  rw [← List.head?_drop, ← ahead, h]
  rfl

theorem ahead_advanceBy_one {c : Char} {rest : Text} (h : s.ahead = c :: rest) :
    (s.advanceBy 1).ahead = rest := by
  rw [ahead_advanceBy, h, List.drop_succ_cons, List.drop_zero]

/-! ## Unchecked steps -/

theorem run_peekUnchecked_of_cons {c : Char} {rest : Text} (h : s.ahead = c :: rest) :
    s.run peekUnchecked = (.ok c, s) := by
  rw [peekUnchecked, run_get_bind, getElem?_cursor h]
  rfl

theorem run_advanceUnchecked_of_cons {c : Char} {rest : Text} (h : s.ahead = c :: rest) :
    s.run advanceUnchecked = (.ok (), s.advanceBy 1) := by
  have hlt : s.cursor < s.endIndex := by
    have := s.length_ahead
    rw [h, List.length_cons] at this
    omega
  rw [advanceUnchecked, run_get_bind, if_pos hlt]
  rfl

variable (s)

/-- An operation that looks for the end first finds the character that it goes on with. -/
theorem run_look {α : Type} (m : Scan α) (f : Char → Scan α) :
    s.run (if s.isAtEnd then m else peekUnchecked >>= f) =
      match s.ahead with
      | [] => s.run m
      | c :: _ => s.run (f c) := by
  cases h : s.ahead with
  | nil => rw [if_pos ((isAtEnd_iff s).mpr h)]
  | cons c rest => rw [if_neg (isAtEnd_of_cons h), run_bind, run_peekUnchecked_of_cons h]

/-! ## Single characters -/

theorem run_peek :
    s.run peek =
      match s.ahead with
      | [] => (.error (.scan (.endOfInput s.cursor)), s)
      | c :: _ => (.ok c, s) := by
  unfold peek
  rw [run_get_bind]
  cases h : s.ahead with
  | nil => rw [if_pos ((isAtEnd_iff s).mpr h), run_throw]
  | cons c rest => rw [if_neg (isAtEnd_of_cons h), run_peekUnchecked_of_cons h]

theorem run_advance :
    s.run advance =
      match s.ahead with
      | [] => (.error (.scan (.endOfInput s.cursor)), s)
      | _ :: _ => (.ok (), s.advanceBy 1) := by
  unfold advance
  rw [run_get_bind]
  cases h : s.ahead with
  | nil => rw [if_pos ((isAtEnd_iff s).mpr h), run_throw]
  | cons c rest => rw [if_neg (isAtEnd_of_cons h), run_advanceUnchecked_of_cons h]

theorem run_read :
    s.run read =
      match s.ahead with
      | [] => (.error (.scan (.endOfInput s.cursor)), s)
      | c :: _ => (.ok c, s.advanceBy 1) := by
  unfold read
  rw [run_bind, run_peek]
  cases h : s.ahead with
  | nil => rfl
  | cons c rest =>
    dsimp only
    rw [run_bind, run_advanceUnchecked_of_cons h]
    rfl

theorem run_expect (atom : Text) :
    s.run (expect atom) =
      match s.ahead with
      | [] => (.error (.scan (.endOfInput s.cursor)), s)
      | c :: _ =>
        (if [c] = atom then .ok () else .error (.scan (.mismatch atom c s.cursor)),
          s.advanceBy 1) := by
  unfold expect
  rw [run_get_bind, run_bind, run_read]
  cases h : s.ahead with
  | nil => rfl
  | cons c rest =>
    dsimp only
    rw [run_ite]
    split <;> rfl

/-! ## Runs of characters -/

theorem run_advanceAtMost (p : Char → Bool) (n : Nat) :
    s.run (advanceAtMost p n) = (.ok (), s.advanceBy ((s.ahead.take n).takeWhile p).length) := by
  induction n generalizing s with
  | zero => rfl
  | succ n ih =>
    unfold advanceAtMost
    rw [run_get_bind, run_look]
    cases h : s.ahead with
    | nil => rfl
    | cons c rest =>
      dsimp only
      by_cases hc : p c = true
      · rw [if_pos hc, run_bind, run_advanceUnchecked_of_cons h]
        dsimp only
        rw [ih, ahead_advanceBy_one h, advanceBy_advanceBy, List.take_succ_cons,
          List.takeWhile_cons_of_pos hc, List.length_cons, Nat.add_comm 1]
      · rw [if_neg hc, List.take_succ_cons, List.takeWhile_cons_of_neg hc]
        rfl

theorem run_advanceWhile (p : Char → Bool) :
    s.run (advanceWhile p) = (.ok (), s.advanceBy (s.ahead.takeWhile p).length) := by
  unfold advanceWhile
  rw [run_get_bind, run_advanceAtMost, charsLeft, ← length_ahead, List.take_length]

theorem run_advanceUntil (p : Char → Bool) :
    s.run (advanceUntil p) = (.ok (), s.advanceBy (s.ahead.takeWhile fun c => !p c).length) :=
  run_advanceWhile s _

theorem run_textSince (start : Nat) :
    s.run (textSince start) = (.ok (s.slice start s.cursor), s) := rfl

theorem run_textSince_advanceBy (n : Nat) :
    (s.advanceBy n).run (textSince s.cursor) = (.ok (s.ahead.take n), s.advanceBy n) := by
  rw [run_textSince, ← slice_advanceBy]
  rfl

theorem run_consumeWhile (p : Char → Bool) :
    s.run (consumeWhile p) =
      (.ok (s.ahead.takeWhile p), s.advanceBy (s.ahead.takeWhile p).length) := by
  unfold consumeWhile
  rw [run_get_bind, run_bind, run_advanceWhile]
  dsimp only
  rw [run_textSince_advanceBy, Text.take_length_takeWhile]

theorem run_consumeUntil (p : Char → Bool) :
    s.run (consumeUntil p) =
      (.ok (s.ahead.takeWhile fun c => !p c),
        s.advanceBy (s.ahead.takeWhile fun c => !p c).length) :=
  run_consumeWhile s _

theorem run_consumeRemaining (h : s.cursor ≤ s.endIndex) :
    s.run consumeRemaining = (.ok s.ahead, s.advanceBy s.ahead.length) := by
  have hend : s.cursor + s.ahead.length = s.endIndex := by
    rw [length_ahead]
    omega
  unfold consumeRemaining
  rw [run_get_bind, run_bind, run_set]
  dsimp only
  rw [run_pure, ← hend, slice_advanceBy, List.take_length]
  rfl

theorem run_skipWhitespace :
    s.run skipWhitespace = (.ok (), s.advanceBy (s.ahead.takeWhile isWhitespace).length) :=
  run_advanceWhile s _

/-! ## Looking ahead -/

theorem run_peekMatches (p : Char → Bool) : s.run (peekMatches p) = (.ok (s.nextIs p), s) := by
  unfold peekMatches nextIs
  rw [run_get_bind, run_look]
  cases s.ahead <;> simp

theorem run_nextEquals (atom : Text) :
    s.run (nextEquals atom) = (.ok (s.nextIs fun c => [c] = atom), s) := by
  unfold nextEquals nextIs
  rw [run_get_bind, run_look]
  cases s.ahead <;> simp

/-- At a match the scanner moves past it. -/
theorem run_advanceIfEquals (h : s.cursor ≤ s.endIndex) (literal : Text)
    (options : Option OptionsArgument) :
    s.run (advanceIfEquals literal options) =
      match chosenOptions s.config options with
      | .error e => (.error e, s)
      | .ok o =>
        match CharacterData.unicode.matchLength o s.ahead literal with
        | some n => (.ok true, s.advanceBy n)
        | none => (.ok false, s) := by
  unfold advanceIfEquals
  rw [run_get_bind, run_bind, run_ofExcept]
  cases chosenOptions s.config options with
  | error e => rfl
  | ok o =>
    dsimp only
    rw [run_bind, run_ofExcept, CompareOptions.matchAt, CharacterData.matchAt_of_le h, ahead]
    cases CharacterData.unicode.matchLength o (s.source.drop s.cursor) literal with
    | none => rfl
    | some n =>
      dsimp only [Option.map_some]
      rw [run_bind, run_set]
      rfl

/-! ## Numbers -/

/-- The scanner past the white space that is skipped before a number. -/
def skipped (skip : Option Bool) : Scanner :=
  if skip.getD s.config.skipWhitespace then
    s.advanceBy (s.ahead.takeWhile isWhitespace).length
  else s

theorem run_skipIfWanted (skip : Option Bool) :
    s.run (skipIfWanted skip) = (.ok (), s.skipped skip) := by
  unfold skipIfWanted skipped
  rw [run_get_bind, run_ite, run_skipWhitespace, run_pure]
  split <;> rfl

theorem run_parseInt (skip : Option Bool) :
    s.run (parseInt skip) =
      (convert s.config ((s.skipped skip).ahead.takeWhile isDigit) (s.skipped skip).cursor,
        (s.skipped skip).advanceBy ((s.skipped skip).ahead.takeWhile isDigit).length) := by
  have hconfig : (s.skipped skip).config = s.config := by
    unfold skipped
    split <;> rfl
  unfold parseInt
  rw [run_bind, run_skipIfWanted]
  dsimp only
  rw [run_get_bind, run_bind, run_consumeWhile]
  dsimp only
  rw [run_ofExcept, hconfig]

/-- What needs a digit goes on if there is one, and fails where the scanner stands if not. -/
theorem run_requireDigit_bind {α : Type} (what : String) (f : Unit → Scan α) :
    s.run (requireDigit what >>= f) =
      if s.nextIs isDigit then s.run (f ())
      else (.error (.scan (.missing what s.ahead.head? s.cursor)), s) := by
  unfold requireDigit nextIs
  rw [run_bind, run_get_bind, run_look]
  cases s.ahead with
  | nil => rfl
  | cons c rest =>
    dsimp only
    rw [run_ite, List.head?_cons, Option.any_some]
    cases isDigit c <;> rfl

theorem run_parseIntString (skip : Option Bool) :
    s.run (parseIntString skip) =
      if (s.skipped skip).nextIs isDigit then
        (.ok ((s.skipped skip).ahead.takeWhile isDigit),
          (s.skipped skip).advanceBy ((s.skipped skip).ahead.takeWhile isDigit).length)
      else
        (.error (.scan (.missing "integer" (s.skipped skip).ahead.head? (s.skipped skip).cursor)),
          s.skipped skip) := by
  unfold parseIntString
  rw [run_bind, run_skipIfWanted]
  dsimp only
  rw [run_requireDigit_bind, run_consumeWhile]

/-- Behind a point the scanner is past it in either case. -/
theorem run_advanceFraction :
    s.run advanceFraction =
      if s.nextIs fun c => [c] = ['.'] then
        if (s.advanceBy 1).nextIs isDigit then
          (.ok (), (s.advanceBy 1).advanceBy ((s.advanceBy 1).ahead.takeWhile isDigit).length)
        else
          (.error (.scan (.missing "float" (s.advanceBy 1).ahead.head? (s.advanceBy 1).cursor)),
            s.advanceBy 1)
      else (.ok (), s) := by
  unfold advanceFraction
  rw [run_bind, run_nextEquals]
  dsimp only
  rw [run_ite]
  split
  · rename_i hpoint
    obtain ⟨c, rest, hc⟩ : ∃ c rest, s.ahead = c :: rest := by
      unfold nextIs at hpoint
      cases h : s.ahead with
      | nil => simp [h] at hpoint
      | cons c rest => exact ⟨c, rest, rfl⟩
    rw [run_bind, run_advanceUnchecked_of_cons hc]
    dsimp only
    rw [run_requireDigit_bind, run_advanceWhile]
  · rfl

theorem run_parseFloatString (skip : Option Bool) :
    s.run (parseFloatString skip) =
      if (s.skipped skip).nextIs isDigit then
        match ((s.skipped skip).advanceBy
          ((s.skipped skip).ahead.takeWhile isDigit).length).run advanceFraction with
        | (.ok _, t) => (.ok (t.slice (s.skipped skip).cursor t.cursor), t)
        | (.error e, t) => (.error e, t)
      else
        (.error (.scan (.missing "float" (s.skipped skip).ahead.head? (s.skipped skip).cursor)),
          s.skipped skip) := by
  unfold parseFloatString
  rw [run_bind, run_skipIfWanted]
  dsimp only
  rw [run_requireDigit_bind, run_get_bind, run_bind, run_advanceWhile]
  dsimp only
  rw [run_bind]
  generalize Scanner.run _ advanceFraction = out
  obtain ⟨_ | _, t⟩ := out <;> rfl

end TextScan.Scanner
