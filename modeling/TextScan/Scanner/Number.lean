import TextScan.Scanner.Basic

/-!
# Numbers

Reading numbers: an integer as a value within the configured range, or an integer or a decimal
fraction as text. White space before a number is skipped if the caller or the settings say so,
and stays skipped when no number follows.
-/

namespace TextScan.Scanner

/-- Skips white space if `skip` says so, or without it if the settings do. -/
def skipIfWanted (skip : Option Bool) : Scan Unit := do
  let s ← get
  if skip.getD s.config.skipWhitespace then skipWhitespace else return ()

/-- Whether the configured range holds a number. -/
def accepts (c : Config) (n : Nat) : Except Fault Bool :=
  c.intRange.map fun
    | some r => r.contains n
    | none => true

/-- The number that a run of digits starting at `start` stands for under a configuration. -/
def convert (c : Config) (digits : Text) (start : Nat) : Except Fault Nat :=
  if digits.isEmpty then .error (.scan (.noNumber start))
  else if Integer.maxDigits < digits.length then
    .error (.invalid (.tooManyDigits digits.length))
  else
    match accepts c (Integer.ofAsciiDigits digits) with
    | .error e => .error e
    | .ok true => .ok (Integer.ofAsciiDigits digits)
    | .ok false => .error (.scan (.overflow digits (c.intBits.getD 0) start))

/-- Reads a run of digits as a number. The digits are read also when they are no number that is
accepted. -/
def parseInt (skip : Option Bool) : Scan Nat := do
  skipIfWanted skip
  let s ← get
  let digits ← consumeWhile isDigit
  MonadExcept.ofExcept (convert s.config digits s.cursor)

/-- Fails unless a digit is ahead. -/
def requireDigit (what : String) : Scan Unit := do
  let s ← get
  if s.isAtEnd then throw (.scan (.missing what none s.cursor))
  else
    let c ← peekUnchecked
    if isDigit c then return () else throw (.scan (.missing what (some c) s.cursor))

/-- Reads a run of digits as text. -/
def parseIntString (skip : Option Bool) : Scan Text := do
  skipIfWanted skip
  requireDigit "integer"
  consumeWhile isDigit

/-- Moves past the fraction of a number, if a point is ahead. After a point that no digit
follows the scanner stays past the point. -/
def advanceFraction : Scan Unit := do
  if ← nextEquals ['.'] then
    advanceUnchecked
    requireDigit "float"
    advanceWhile isDigit
  else return ()

/-- Reads digits, and a point and more digits if a point follows, as text. -/
def parseFloatString (skip : Option Bool) : Scan Text := do
  skipIfWanted skip
  requireDigit "float"
  let s ← get
  advanceWhile isDigit
  advanceFraction
  textSince s.cursor

end TextScan.Scanner
