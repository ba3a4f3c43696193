import TextScan.Compare.Options
import TextScan.Error

/-!
# Reading compare options

Options are written as names with commas or bars between them; blanks around a name and empty
names do not matter. The first unknown name is the error; a name with a surrogate is unknown.
-/

namespace TextScan

/-- What options can be given as: themselves, or a value that must be a text of names. -/
inductive OptionsArgument where
  | exact (o : CompareOptions)
  | value (v : Value)

namespace CompareOptions

def isNameSeparator (c : Char) : Bool := c = ',' || c = '|'

/-- Adds the options of one name, blanks around it included. -/
def addName (o : CompareOptions) (raw : Text) : Except InvalidValue CompareOptions :=
  let name := raw.trim
  if name.isEmpty then .ok o
  else
    match ofName? name with
    | some p => .ok (o.union p)
    | none => .error (.unknownOption (.ofText name))

def readNames (t : Text) : Except InvalidValue CompareOptions :=
  (t.splitOnP isNameSeparator).foldlM addName literal

/-- Adds the options of one name that may hold surrogates. -/
def addPiece (o : CompareOptions) (piece : CodePoints) : Except InvalidValue CompareOptions :=
  match piece.toText? with
  | some raw => o.addName raw
  | none => .error (.unknownOption piece.trim)

def isSeparatorPoint (p : CodePoint) : Bool := p = .char ',' || p = .char '|'

def readPieces (t : CodePoints) : Except InvalidValue CompareOptions :=
  (t.splitOnP isSeparatorPoint).foldlM addPiece literal

def readValue : Value → Except InvalidValue CompareOptions
  | .text t => readNames t
  | .brokenText t => readPieces t
  | v => .error (.notOptionNames v)

def ofArgument : OptionsArgument → Except InvalidValue CompareOptions
  | .exact o => .ok o
  | .value v => readValue v

end CompareOptions

end TextScan
