import TextScan.Compare.Options
import TextScan.Encoding
import TextScan.Value

/-!
# Errors

Three layers. A `ScanError` is what scanning text runs into: it has a cause and mostly a
position, and the caller is expected to handle it. An `InvalidValue` is an argument or a setting
of the right kind with a value that is no use. A `Fault` is either of them or a misuse of the
library.
-/

namespace TextScan

/-! ### Errors of scanning -/

/-- What a scan ran into. -/
inductive ScanCause where
  | general
  | endOfInput
  /-- Something else was required; `actual` is absent where the input ended instead. -/
  | unexpectedCharacter (expected : String) (actual : Option Text)
  /-- The digits read are no number, or none that is accepted. -/
  | invalidNumber (raw : Text)
  deriving DecidableEq, Repr

/-- A failed scan. Errors of the scanner have a message and a position; one put together by hand
may lack either. -/
structure ScanError where
  cause : ScanCause
  message : Option String
  position : Option Nat
  deriving DecidableEq, Repr

namespace ScanError

def endOfInputMessage : String := "Reached unexpected end of input string"

def endOfInput (position : Nat) : ScanError :=
  ⟨.endOfInput, some endOfInputMessage, some position⟩

/-- The message of an unexpected character that has no more to say. -/
def unexpectedMessage (expected : String) (actual : Option Text) : String :=
  match actual with
  | some t => s!"Expected {expected} but received '{String.ofList t}'"
  | none => s!"Expected {expected} but received end of input"

/-- A character was read that is not the required one. -/
def mismatch (atom : Text) (c : Char) (position : Nat) : ScanError :=
  let wanted := String.ofList atom
  ⟨.unexpectedCharacter s!"'{wanted}'" (some [c]),
    some s!"Expected '{wanted}', received '{c}' instead", some position⟩

/-- A character of a class is required where another one is, or none. -/
def missing (what : String) (actual : Option Char) (position : Nat) : ScanError :=
  match actual with
  | none =>
    ⟨.unexpectedCharacter what none, some s!"Expected {what} but reached end of input",
      some position⟩
  | some c =>
    ⟨.unexpectedCharacter what (some [c]), some s!"Expected {what} but received '{c}'",
      some position⟩

def invalidNumberReason : String := "Invalid integer string"

def invalidNumberMessage (reason : String) (raw : Text) : String :=
  s!"{reason} '{String.ofList raw}'"

/-- There is no number where one should start. -/
def noNumber (position : Nat) : ScanError :=
  ⟨.invalidNumber [], some (invalidNumberMessage invalidNumberReason []), some position⟩

/-- The number does not fit the width set for integers. -/
def overflow (raw : Text) (bits : Int) (position : Nat) : ScanError :=
  ⟨.invalidNumber raw, some (invalidNumberMessage s!"Integer overflows {bits} bits:" raw),
    some position⟩

/-- The text shown for an error. -/
def display (e : ScanError) : String := e.message.getD "None"

end ScanError

/-! ### Invalid values -/

/-- Why a value is no use. -/
inductive InvalidValue where
  /-- Neither a truth value nor a text that could name one. -/
  | notBoolean (v : Value)
  | unknownBoolean (t : CodePoints)
  /-- Compare options are given as names in a text. -/
  | notOptionNames (v : Value)
  | unknownOption (name : CodePoints)
  | notInteger (t : CodePoints)
  | tooManyDigits (count : Nat)
  | badWidth (v : Value)
  /-- The range of integers of no bits, or fewer, was asked for. -/
  | negativeShift
  | tooLongToWrite
  /-- A whole number was asked of a value that is none. -/
  | notANumber
  | unknownEncoding (name : Text)
  | negativePosition (index : Int)
  | positionOutside (index length : Nat)
  | negativeOffset (offset : Int)
  | offsetInside (e : Encoding) (offset index : Nat)
  | offsetBeyond (e : Encoding) (offset total : Nat)
  | startNotIndex (typeName : String)
  | startOutside (start : Int) (length : Nat)
  | spanOutside (start : Int) (cursor : Nat)
  deriving DecidableEq

namespace InvalidValue

def encodingNames : String := ", ".intercalate (Encoding.all.map Encoding.name)

/-- The values that the message quotes, in their order. -/
def quotedValues : InvalidValue → List Value
  | .notBoolean v | .notOptionNames v | .badWidth v => [v]
  | .negativePosition n | .negativeOffset n => [.int n]
  | .positionOutside m n | .offsetInside _ m n | .offsetBeyond _ m n => [.int m, .int n]
  | .startOutside m n | .spanOutside m n => [.int m, .int n]
  | _ => []

/-- The message about an invalid value whose quoted values can all be written; a fault is made of
no other one (`Fault.ofInvalid`). It may repeat a surrogate of the value. -/
def message : InvalidValue → CodePoints
  | .notBoolean v => .ofString s!"Expected a boolean or a string, got {String.ofList v.quoted}"
  | .unknownBoolean t => .ofString "Cannot interpret '" ++ t ++ .ofString "' as a boolean"
  | .notOptionNames v =>
    .ofString s!"Compare options must be given as a string of names, got {String.ofList v.quoted}"
  | .unknownOption name =>
    .ofString "Unknown compare option '" ++ name ++
      .ofString s!"'. Valid options: {CompareOptions.allNames}."
  | .notInteger t =>
    .ofString s!"invalid literal for int() with base 10: {String.ofList (t.quoted.take 200)}"
  | .tooManyDigits count =>
    .ofString <| s!"Exceeds the limit ({Integer.maxDigits} digits) for integer string " ++
      s!"conversion: value has {count} digits; use sys.set_int_max_str_digits() to increase " ++
      "the limit"
  | .badWidth v =>
    .ofString s!"int_bits must be an integer of at least 2 or None, got {String.ofList v.quoted}"
  | .negativeShift => .ofString "negative shift count"
  | .tooLongToWrite =>
    .ofString <| s!"Exceeds the limit ({Integer.maxDigits} digits) for integer string " ++
      "conversion; use sys.set_int_max_str_digits() to increase the limit"
  | .notANumber => .ofString "cannot convert float NaN to integer"
  | .unknownEncoding name =>
    .ofString s!"Unsupported encoding '{String.ofList name}'. Expected one of: {encodingNames}."
  | .negativePosition index => .ofString s!"Position index must be non-negative, got {index}"
  | .positionOutside index length =>
    .ofString s!"Position {index} is outside a source of length {length}"
  | .negativeOffset offset => .ofString s!"Code unit offset must be non-negative, got {offset}"
  | .offsetInside e offset index =>
    .ofString s!"{e.name} offset {offset} falls inside the scalar at position {index}"
  | .offsetBeyond e offset total =>
    .ofString <| s!"{e.name} offset {offset} is beyond the end of the source " ++
      s!"({total} code units)"
  | .startNotIndex typeName =>
    .ofString s!"Scanner start must be a Position or int, got {typeName}"
  | .startOutside start length =>
    .ofString s!"Scanner start {start} is outside a source of length {length}"
  | .spanOutside start cursor =>
    .ofString s!"Span start {start} must lie between 0 and the cursor ({cursor})"

end InvalidValue

/-! ### Faults -/

/-- Any way in which a call of the library can fail. -/
inductive Fault where
  | scan (e : ScanError)
  | invalid (v : InvalidValue)
  /-- A position was made of something that is not an integer. -/
  | positionType (typeName : String)
  /-- A scanner was given something that is not a text. -/
  | sourceType (typeName : String)
  /-- An operation met a value of a type that it is not defined for. -/
  | unsupportedType
  /-- A look past one of the ends of a text. -/
  | outOfRange
  /-- A number that is too large to be represented. -/
  | tooLarge
  /-- A number that could be represented, but not in the memory there is. -/
  | outOfMemory
  /-- Values are nested too deep to be read or written. -/
  | tooDeep
  /-- A step that the caller had to guard was taken at the end of the input. -/
  | unguarded
  /-- Named entries were asked of something that is not a table. -/
  | notTable
  | fileNotFound (path : Text)
  | malformedDocument
  /-- A string of several lines has no name that it could be stored under. -/
  | namelessString
  /-- No position was stored under this name. -/
  | unknownMark (name : Text)
  deriving DecidableEq

namespace Fault

def ofWriteError : Value.WriteError → Fault
  | .tooManyDigits => .invalid .tooLongToWrite
  | .tooDeep => .tooDeep

/-- The fault that an invalid value is. Where its message quotes a value that cannot be written,
that is the fault instead. -/
def ofInvalid (v : InvalidValue) : Fault :=
  match forM v.quotedValues Value.checkWrite with
  | .error e => ofWriteError e
  | .ok _ => .invalid v

/-- A message that quotes nothing but integers is kept if all of them can be written. -/
theorem ofInvalid_of_integers {v : InvalidValue} (ns : List Int)
    (h : v.quotedValues = ns.map .int) :
    ofInvalid v = .invalid (if ns.all Integer.isWritable then v else .tooLongToWrite) := by
  rw [ofInvalid, h, Value.forM_checkWrite_int]
  cases ns.all Integer.isWritable <;> rfl

/-- The message of a fault, for those that have one. -/
def message : Fault → Option CodePoints
  | .scan e => e.message.map .ofString
  | .invalid v => some v.message
  | .positionType typeName =>
    some (.ofString s!"Position index must be an int, got {typeName}")
  | .sourceType typeName => some (.ofString s!"Scanner source must be a str, got {typeName}")
  | .fileNotFound path =>
    some (.ofString s!"Scanner config file not found at '{String.ofList path}'")
  | _ => none

end Fault

end TextScan
