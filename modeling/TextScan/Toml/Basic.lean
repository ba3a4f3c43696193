import TextScan.CharClass
import TextScan.Text.Split
import TextScan.Value

/-!
# Marks in a document

What all readers of a document share: the ways in which one can be faulty, and the marks inside
a line. A mark counts where it stands outside quotes; `quoteSegments` cuts a line at its quotes
for that, and `marksQuoted` counts the marks that do not.
-/

namespace TextScan.Toml

/-- Why a text is no document. -/
inductive DocumentError where
  | malformed
  /-- A part that needs at least one character, item or entry is empty, or the text ends in it. -/
  | incomplete
  /-- Something that holds no entries stands where a table has to. -/
  | noTable
  /-- An escape gives a number too large for any character set. -/
  | tooLarge
  /-- Values are nested too deep. -/
  | tooDeep
  /-- A string of several lines has no name. -/
  | namelessString
  /-- A message about the document would show a table that cannot be written. -/
  | unwritable (e : Value.WriteError)
  deriving DecidableEq, Repr

def malformedIfNone {α : Type} : Option α → Except DocumentError α
  | some a => .ok a
  | none => .error .malformed

/-- Whether the text behind, given backwards, ends in a backslash that escapes what follows. -/
def escapesNext (behind : Text) : Bool := (behind.takeWhile (· = '\\')).length % 2 = 1

/-- Whether the last character of a text is a backslash that escapes what follows. -/
def endsInEscape (t : Text) : Bool := escapesNext t.reverse

/-- All but the first and the last character. -/
def inside {α : Type} (t : List α) : List α := (t.drop 1).dropLast

/-! ### Marks outside quotes -/

/-- Cuts at apostrophes until an even number of them is found. The double quotes up to there
stand inside of apostrophes, so their parts are joined again. -/
def closeApostrophes : List Text → List Text → List Text × List Text
  | segments, [] => (segments, [])
  | segments, part :: rest =>
    if segments.length % 2 = 1 then (segments, part :: rest)
    else
      let joined := segments.getLastD [] ++ Text.doubleQuote :: part
      closeApostrophes (segments.dropLast ++ joined.splitOn Text.apostrophe) rest

/-- The segments of a line in turn outside and inside quotes. -/
def quoteSegments (line : Text) : List Text :=
  let parts := line.splitOn Text.doubleQuote
  let first := parts.headD []
  let (closed, rest) :=
    if 1 < parts.length && first.contains Text.apostrophe then
      closeApostrophes (first.splitOn Text.apostrophe) parts.tail
    else ([], parts)
  match rest with
  | [] => closed
  | part :: rest => closed ++ part.splitOn Text.apostrophe ++ rest

/-- The occurrences of a mark before the first segment that has one outside quotes. -/
def countQuoted (mark : Text) : Bool → List Text → Nat
  | _, [] => 0
  | quoted, s :: rest =>
    if !quoted && Text.occurrences mark s ≠ 0 then 0
    else Text.occurrences mark s + countQuoted mark (!quoted) rest

/-- The occurrences of a mark in a line before the first one outside quotes. -/
def marksQuoted (mark line : Text) : Nat := countQuoted mark false (quoteSegments line)

end TextScan.Toml
