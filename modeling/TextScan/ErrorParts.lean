import TextScan.Error

/-!
# Errors put together by hand

Code that is built on a scanner raises errors of its own of the same four kinds. Each kind takes
some parts, of which some are required; a part that the kind does not take is refused.
-/

namespace TextScan

inductive ErrorKind where
  | general
  | endOfInput
  | unexpectedCharacter
  | invalidNumber
  deriving DecidableEq, Repr

/-- The parts that were given. A message or a found character can also be given as absent. -/
structure ErrorParts where
  message : Option (Option String)
  position : Option Nat
  expected : Option String
  actual : Option (Option Text)
  raw : Option Text
  reason : Option Value

namespace ErrorParts

def takesNoClass (p : ErrorParts) : Bool := p.expected.isNone && p.actual.isNone

def takesNoNumber (p : ErrorParts) : Bool := p.raw.isNone && p.reason.isNone

def generalError? (p : ErrorParts) : Option ScanError := do
  let message ← p.message
  if p.takesNoClass && p.takesNoNumber then some ⟨.general, message, p.position⟩ else none

def endOfInputError? (p : ErrorParts) : Option ScanError :=
  if p.takesNoClass && p.takesNoNumber then
    some ⟨.endOfInput, p.message.getD (some ScanError.endOfInputMessage), p.position⟩
  else none

def unexpectedCharacterError? (p : ErrorParts) : Option ScanError := do
  let expected ← p.expected
  let actual ← p.actual
  let message := p.message.join.getD (ScanError.unexpectedMessage expected actual)
  if p.takesNoNumber then
    some ⟨.unexpectedCharacter expected actual, some message, p.position⟩
  else none

/-- The reason as it stands in a message. -/
def reasonText (v : Value) : String := String.ofList v.display.plain

def invalidNumberError? (p : ErrorParts) : Option ScanError := do
  let raw ← p.raw
  let reason := (p.reason.map reasonText).getD ScanError.invalidNumberReason
  if p.message.isNone && p.takesNoClass then
    some ⟨.invalidNumber raw, some (ScanError.invalidNumberMessage reason raw), p.position⟩
  else none

/-- The error of a kind made of these parts. A reason that cannot be written is a fault of its
own. -/
def build (p : ErrorParts) (kind : ErrorKind) : Except Fault ScanError :=
  let made := match kind with
    | .general => p.generalError?
    | .endOfInput => p.endOfInputError?
    | .unexpectedCharacter => p.unexpectedCharacterError?
    | .invalidNumber => p.invalidNumberError?
  match made with
  | some e => do
    (p.reason.getD .null).checkWrite.mapError .ofWriteError
    return e
  | none => .error .unsupportedType

end ErrorParts

end TextScan
