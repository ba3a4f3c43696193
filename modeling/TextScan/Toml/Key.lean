import TextScan.Text.Blank
import TextScan.Toml.Quoted

/-!
# Keys and headers

A key names an entry, and with points in it the tables around the entry. A header names a table
in the same way. Names that are not words of a key stand in quotes.
-/

namespace TextScan.Toml

/-- The names of a path, the last of which is that of the entry. -/
structure KeyPath where
  parents : List Text
  name : Text
  deriving DecidableEq, Repr

/-! ### Keys -/

/-- The names in a key with points, given its segments in turn outside and inside quotes. -/
def namesOf : Bool → List Text → List Text
  | _, [] => []
  | true, s :: rest => s :: namesOf false rest
  | false, s :: rest => (s.splitOn '.').map Text.trim ++ namesOf true rest

/-- Empty names count for nothing, but there is one that is not empty. -/
def pathOf (names : List Text) : Except DocumentError KeyPath :=
  match names.reverse.dropWhile List.isEmpty with
  | [] => .error .incomplete
  | name :: parents => .ok ⟨parents.reverse.filter (!·.isEmpty), Text.trim name⟩

def readKey (key : Text) : Except DocumentError KeyPath :=
  if key.contains '.' then
    pathOf (if key.any isStringDelimiter then namesOf false (quoteSegments key)
      else key.splitOn '.')
  else
    match key with
    | [] => .error .incomplete
    | c :: _ =>
      if isStringDelimiter c && key.getLast? = some c then do
        return ⟨[], (← malformedIfNone (unescape? (.ofText (inside key)))).plain⟩
      else .ok ⟨[], key⟩

/-! ### Headers -/

def isWordChar (c : Char) : Bool := c.isAlphanum || c = '_' || c = '-'

def isWord (t : Text) : Bool := !t.isEmpty && t.all isWordChar

/-- Whether a name ends in the quote that it starts with. -/
def isClosedName (t : Text) : Bool := 1 < t.length && t.head? = t.getLast?

/-- A name in quotes that was cut at its points, joined again, and the pieces after it. -/
def joinName? : Text → List Text → Option (Text × List Text)
  | part, rest =>
    if isClosedName part.trim then some (inside part.trim, rest)
    else match rest with
      | [] => none
      | next :: rest => joinName? (part ++ '.' :: next) rest

/-- The names of a header, given its pieces between the points. The number bounds the pieces. -/
def headerNames? : Nat → List Text → Option (List Text)
  | _, [] => some []
  | 0, _ => none
  | fuel + 1, piece :: rest =>
    let name := piece.trim
    if name.head?.any isStringDelimiter then do
      let (name, rest) ← joinName? name rest
      return name :: (← headerNames? fuel rest)
    else if isWord name then (headerNames? fuel rest).map (name :: ·)
    else none

/-- The names in a header, given what follows its opening brackets. Nothing but blanks may
follow the closing ones. -/
def readHeader? (closing line : Text) : Option (List Text) :=
  let parts := Text.parts closing line
  let n := marksQuoted closing line + 1
  if parts.length ≤ n then none
  else
    let (name, rest) := Text.cutParts closing n parts
    let pieces := name.splitOn '.'
    if rest.trim.isEmpty then headerNames? pieces.length pieces else none

end TextScan.Toml
