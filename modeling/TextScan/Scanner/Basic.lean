import TextScan.CharClass
import TextScan.Compare.Match
import TextScan.Config.Basic
import TextScan.Position

/-!
# Scanner

A scanner is a source text and a cursor in it that only moves forward, with the settings in
force. An operation (`Scan`) ends in an answer or a fault, and leaves a scanner behind in either
case, since some operations fail after characters have been read. `peekUnchecked` and
`advanceUnchecked` are for those who have seen that a character is ahead; every other operation
looks first.
-/

namespace TextScan

structure Scanner where
  source : Text
  cursor : Nat
  config : Config
  deriving DecidableEq

/-- An operation on a scanner. -/
abbrev Scan (α : Type) : Type := ExceptT Fault (StateM Scanner) α

namespace Scanner

/-! ### The state -/

/-- The index past the last character. -/
def endIndex (s : Scanner) : Nat := s.source.length

def position (s : Scanner) : Position := ⟨s.cursor⟩

/-- The text from the cursor on. -/
def ahead (s : Scanner) : Text := s.source.drop s.cursor

def isAtEnd (s : Scanner) : Bool := s.endIndex ≤ s.cursor

/-- How many characters are ahead. -/
def charsLeft (s : Scanner) : Nat := s.endIndex - s.cursor

/-- The text between two indices of the source. -/
def slice (s : Scanner) (start stop : Nat) : Text := s.source.extract start stop

/-- A scanner at a given place of a source. -/
def startAt (source : Text) (index : Int) (config : Config) : Except Fault Scanner :=
  if 0 ≤ index ∧ index ≤ source.length then .ok ⟨source, index.toNat, config⟩
  else .error (.ofInvalid (.startOutside index source.length))

/-- The text from `start` to the cursor. -/
def span (start : Int) (s : Scanner) : Except Fault Text :=
  if 0 ≤ start ∧ start ≤ s.cursor then .ok (s.slice start.toNat s.cursor)
  else .error (.ofInvalid (.spanOutside start s.cursor))

/-- Code units before the cursor, in an encoding given by name. -/
def codeUnitOffset (encoding : Text) (s : Scanner) : Except Fault Nat :=
  s.position.offsetIn s.source encoding

def display (s : Scanner) : String := s!"Scanner(position={s.cursor}, end={s.endIndex})"

/-! ### Carrying out operations -/

section Run

variable {α β : Type} (s : Scanner)

/-- Carries out an operation. -/
def run (m : Scan α) : Except Fault α × Scanner := (m.run.run s).run

@[simp] theorem run_pure (a : α) : s.run (pure a) = (.ok a, s) := rfl

@[simp] theorem run_get : s.run get = (.ok s, s) := rfl

@[simp] theorem run_set (t : Scanner) : s.run (set t) = (.ok (), t) := rfl

@[simp] theorem run_throw (e : Fault) : s.run (throw e : Scan α) = (.error e, s) := rfl

@[simp] theorem run_ofExcept (r : Except Fault α) :
    s.run (MonadExcept.ofExcept r : Scan α) = (r, s) := by
  cases r <;> rfl

/-- The operation after a failed one is not carried out. -/
theorem run_bind (m : Scan α) (f : α → Scan β) :
    s.run (m >>= f) =
      match s.run m with
      | (.ok a, t) => t.run (f a)
      | (.error e, t) => (.error e, t) := by
  show (match m s with | (r, t) => ExceptT.bindCont f r t) = _
  show _ = match m s with | (.ok a, t) => _ | (.error e, t) => _
  obtain ⟨r, t⟩ := m s
  cases r <;> rfl

theorem run_get_bind (f : Scanner → Scan β) : s.run (get >>= f) = s.run (f s) := rfl

theorem run_ite (c : Prop) [Decidable c] (m n : Scan α) :
    s.run (if c then m else n) = if c then s.run m else s.run n := by
  split <;> rfl

end Run

/-! ### Unchecked steps -/

/-- The character at the cursor, for those who have seen that there is one. -/
def peekUnchecked : Scan Char := do
  let s ← get
  match s.source[s.cursor]? with
  | some c => return c
  | none => throw .outOfRange

/-- Moves past a character, for those who have seen that there is one. -/
def advanceUnchecked : Scan Unit := do
  let s ← get
  if s.cursor < s.endIndex then set { s with cursor := s.cursor + 1 } else throw .unguarded

/-! ### Single characters -/

def peek : Scan Char := do
  let s ← get
  if s.isAtEnd then throw (.scan (.endOfInput s.cursor)) else peekUnchecked

def advance : Scan Unit := do
  let s ← get
  if s.isAtEnd then throw (.scan (.endOfInput s.cursor)) else advanceUnchecked

def read : Scan Char := do
  let c ← peek
  advanceUnchecked
  return c

/-- Reads one character, which has to be the whole of `atom`. A character that is not is read
all the same, so that a caller who goes on after the error does not meet it again. -/
def expect (atom : Text) : Scan Unit := do
  let s ← get
  let c ← read
  if [c] = atom then return () else throw (.scan (.mismatch atom c s.cursor))

/-! ### Runs of characters -/

/-- Moves past characters while they satisfy `p`, past `n` of them at most. -/
def advanceAtMost (p : Char → Bool) : Nat → Scan Unit
  | 0 => return ()
  | n + 1 => do
    let s ← get
    if s.isAtEnd then return ()
    else
      let c ← peekUnchecked
      if p c then
        advanceUnchecked
        advanceAtMost p n
      else return ()

/-- Moves past characters while they satisfy `p`. -/
def advanceWhile (p : Char → Bool) : Scan Unit := do
  let s ← get
  advanceAtMost p s.charsLeft

def advanceUntil (p : Char → Bool) : Scan Unit := advanceWhile fun c => !p c

/-- The text from an earlier place of the cursor. -/
def textSince (start : Nat) : Scan Text := do
  let s ← get
  return s.slice start s.cursor

def consumeWhile (p : Char → Bool) : Scan Text := do
  let s ← get
  advanceWhile p
  textSince s.cursor

def consumeUntil (p : Char → Bool) : Scan Text := do
  let s ← get
  advanceUntil p
  textSince s.cursor

def consumeRemaining : Scan Text := do
  let s ← get
  set { s with cursor := s.endIndex }
  return s.slice s.cursor s.endIndex

def skipWhitespace : Scan Unit := advanceWhile isWhitespace

/-! ### Looking ahead -/

def peekMatches (p : Char → Bool) : Scan Bool := do
  let s ← get
  if s.isAtEnd then return false
  else
    let c ← peekUnchecked
    return p c

/-- Whether the character ahead is the whole of `atom`. -/
def nextEquals (atom : Text) : Scan Bool := do
  let s ← get
  if s.isAtEnd then return false
  else
    let c ← peekUnchecked
    return [c] = atom

/-- The options that a literal is compared by: those that are given, or those in force. -/
def chosenOptions (c : Config) : Option OptionsArgument → Except Fault CompareOptions
  | none => .ok c.options
  | some options => (CompareOptions.ofArgument options).mapError .ofInvalid

/-- Moves to the end of the match of a literal, if it is what comes next. -/
def advanceIfEquals (literal : Text) (options : Option OptionsArgument) : Scan Bool := do
  let s ← get
  let o ← MonadExcept.ofExcept (chosenOptions s.config options)
  let stop? ← MonadExcept.ofExcept (o.matchAt s.source s.cursor literal)
  match stop? with
  | some stop =>
    set { s with cursor := stop.toNat }
    return true
  | none => return false

end Scanner

end TextScan
