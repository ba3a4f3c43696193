import TextScan.Error

/-!
# Positions

A position is an index into a source text, counted in characters; the index past the last
character counts as well. Other tools count code units of an encoding: `offset` gives the units
before a position, `ofOffset` the position at which a number of units has passed. These say what
is wrong with a number; what takes a caller's arguments (`ofValue`, `offsetIn`, `ofOffsetIn`) makes
a fault of that, which may be that the number is too long to be quoted (`Fault.ofInvalid`).
-/

namespace TextScan

namespace Encoding

def ofName (t : Text) : Except InvalidValue Encoding :=
  match ofName? t with
  | some e => .ok e
  | none => .error (.unknownEncoding t)

/-- The code units of a text that has to be one character. -/
def widthIn (encoding t : Text) : Except Fault Nat :=
  match ofName encoding, t with
  | .error v, _ => .error (.ofInvalid v)
  | .ok e, [c] => .ok (e.unitWidth c)
  | .ok _, _ => .error .unsupportedType

end Encoding

structure Position where
  index : Nat
  deriving DecidableEq, Repr

namespace Position

instance : LE Position := ⟨fun p q => p.index ≤ q.index⟩

instance : LT Position := ⟨fun p q => p.index < q.index⟩

instance (p q : Position) : Decidable (p ≤ q) := inferInstanceAs (Decidable (p.index ≤ q.index))

instance (p q : Position) : Decidable (p < q) := inferInstanceAs (Decidable (p.index < q.index))

def ofInt (n : Int) : Except InvalidValue Position :=
  if n < 0 then .error (.negativePosition n) else .ok ⟨n.toNat⟩

/-- A position made of a value, which must be an integer; a truth value is none. -/
def ofValue : Value → Except Fault Position
  | .int n => (ofInt n).mapError .ofInvalid
  | v => .error (.positionType v.typeName)

/-- The position on one line, if its index can be written. -/
def display (p : Position) : Except Fault String :=
  if Integer.isWritable p.index then .ok s!"Position(index={p.index})"
  else .error (.invalid .tooLongToWrite)

/-- Whether the position lies within a source. -/
def isValidIn (p : Position) (source : Text) : Bool := p.index ≤ source.length

/-- The source up to the position. -/
def before (p : Position) (source : Text) : Text := source.take p.index

/-! ### Code units -/

/-- The code units before the position. -/
def offset (p : Position) (source : Text) (e : Encoding) : Except InvalidValue Nat :=
  if p.isValidIn source then .ok (e.length (p.before source))
  else .error (.positionOutside p.index source.length)

/-- Walks on from the character numbered `index`, before which there are `units` code units. -/
def seek (e : Encoding) (offset index units : Nat) : Text → Except InvalidValue Position
  | [] => if units = offset then .ok ⟨index⟩ else .error (.offsetBeyond e offset units)
  | c :: rest =>
    if units = offset then .ok ⟨index⟩
    else if offset < units + e.unitWidth c then .error (.offsetInside e offset index)
    else seek e offset (index + 1) (units + e.unitWidth c) rest

/-- The position that a number of code units leads to. -/
def ofOffset (source : Text) (offset : Int) (e : Encoding) : Except InvalidValue Position :=
  if offset < 0 then .error (.negativeOffset offset) else seek e offset.toNat 0 0 source

/-! ### With the encoding given by name -/

def offsetIn (p : Position) (source encoding : Text) : Except Fault Nat :=
  Except.mapError .ofInvalid <|
    if p.isValidIn source then Encoding.ofName encoding >>= p.offset source
    else .error (.positionOutside p.index source.length)

def ofOffsetIn (source : Text) (offset : Int) (encoding : Text) : Except Fault Position :=
  Except.mapError .ofInvalid <|
    if offset < 0 then .error (.negativeOffset offset)
    else Encoding.ofName encoding >>= ofOffset source offset

end Position

end TextScan
