import TextScan.Numeral.Based
import TextScan.Numeral.Real
import TextScan.Value

/-!
# Numbers in a document

Integers in decimal or after a mark for another base, and floats. One sign stands before a
number; a second one belongs to the numeral itself.
-/

namespace TextScan.Toml

/-- Whether one of the pairs of neighbours in a text is among those listed. -/
def hasNeighbours (pairs : List (Char × Char)) (t : Text) : Bool :=
  (t.zip t.tail).any pairs.contains

/-- What may follow a leading zero: a point or the mark of a base. -/
def baseMarks : List Char := ['.', 'o', 'b', 'x']

/-- The form of the number in an entry: no underscore at an end, beside a point or beside
another one, and no leading zero. Behind a sign only a point may follow a zero. -/
def isStrictNumber (t : Text) : Bool :=
  match t.trim with
  | [] => false
  | [c] => c ≠ '_'
  | c :: d :: rest =>
    let n := c :: d :: rest
    c ≠ '_' && n.getLast? ≠ some '_' && !hasNeighbours [('_', '.'), ('.', '_')] n &&
      !(c = '0' && !baseMarks.contains d) &&
      !((c = '+' || c = '-') && d = '0' && rest.head?.any (· ≠ '.')) &&
      !hasNeighbours [('_', '_')] n

/-! ### Integers -/

/-- A number without its sign. In decimal zero alone may start with a zero, and no more digits
are read than in any integer. -/
def unsignedInteger? : Text → Option Nat
  | '0' :: c :: rest =>
    match c.toLower with
    | 'x' => Numeral.natIn? 16 rest
    | 'o' => Numeral.natIn? 8 rest
    | 'b' => Numeral.natIn? 2 rest
    | _ =>
      if (c :: rest).all (· = '0') && rest.length + 2 ≤ Integer.maxDigits then some 0 else none
  | t => if t.length ≤ Integer.maxDigits then Numeral.natIn? 10 t else none

def integer? (t : Text) : Option Int :=
  let (negative, body) := Integer.splitSign (Numeral.plainDigits (t.trimBy isWhitespace))
  (unsignedInteger? body).map fun n => if negative then -n else n

/-! ### Numbers of both kinds -/

def isFloatForm (t : Text) : Bool :=
  t.contains '.' || (!t.contains 'x' && t.any Numeral.isExponentMark)

/-- A float starts with a digit, and something follows its point. -/
def float? (t : Text) : Option Binary64 :=
  let bareTail := t.contains '.' && ((t.dropWhile (· ≠ '.')).drop 1).isEmpty
  if bareTail || !t.head?.any isDigit then none else Binary64.read? t

def isNamedFloat (t : Text) : Bool :=
  ["inf", "nan"].contains (String.ofList (Text.lowerAscii t))

/-- A number. Its value with a minus is that of the rest taken from zero. -/
def number? (t : Text) : Option Value :=
  let (negative, rest) := Integer.splitSign t
  let body := rest.filter (· ≠ '_')
  if isFloatForm body || isNamedFloat body then
    (if isFloatForm body then float? body else Binary64.read? body).map fun x =>
      .float (if negative then x.zeroMinus else x)
  else (integer? body).map fun n => .int (if negative then -n else n)

end TextScan.Toml
