import TextScan.Text.Blank
import TextScan.Unicode.Letter

/-!
# Character classes

The classes that a scanner tests characters for. Digits are those of ASCII alone, because
numbers are converted digit by digit; letters include combining marks, so that a decomposed
letter does not end a word.
-/

namespace TextScan

inductive CharClass where
  | digit
  | stringDelimiter
  | whitespace
  | letter
  | alphanumeric
  deriving DecidableEq, Repr

def isDigit (c : Char) : Bool := Nat.ble 0x30 c.toNat && Nat.ble c.toNat 0x39

def isStringDelimiter (c : Char) : Bool := c = Text.doubleQuote || c = Text.apostrophe

def isLetter (c : Char) : Bool := Unicode.isLetterOrMark c

def isAlphanumeric (c : Char) : Bool := isLetter c || isDigit c

namespace CharClass

def holds : CharClass → Char → Bool
  | .digit => isDigit
  | .stringDelimiter => isStringDelimiter
  | .whitespace => isWhitespace
  | .letter => isLetter
  | .alphanumeric => isAlphanumeric

def all : List CharClass := [.digit, .stringDelimiter, .whitespace, .letter, .alphanumeric]

/-- The classes that hold a character. -/
def of (c : Char) : List CharClass := all.filter (·.holds c)

end CharClass

end TextScan
