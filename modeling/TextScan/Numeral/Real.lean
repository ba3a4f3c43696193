import TextScan.CharClass
import TextScan.Numeral.Binary64
import TextScan.Numeral.Integer

/-!
# Reading decimal numbers

`Binary64.read?` reads a decimal number with an optional sign, point and exponent, or the name
of an infinity or of no number at all. Digits may be of any script, and single underscores may
stand between them.
-/

namespace TextScan

namespace Numeral

/-- The text with every decimal digit as the ASCII digit of its value. -/
def plainDigits (t : Text) : Text :=
  t.map fun c => match Unicode.digitValue? c with
    | some d => Nat.digitChar d
    | none => c

/-- Whether each underscore stands between two digits; `last` is the character before. -/
def underscoresFit : Option Char → Text → Bool
  | last, [] => last != some '_'
  | last, c :: rest =>
    (if c = '_' then last.any isDigit else last != some '_' || isDigit c) &&
      underscoresFit (some c) rest

/-- The number at the end of a numeral, with an optional sign. -/
def exponent? (t : Text) : Option Int :=
  let (negative, digits) := Integer.splitSign t
  if digits.isEmpty || !digits.all isDigit then none
  else
    let n : Int := Integer.ofAsciiDigits digits
    some (if negative then -n else n)

def isExponentMark (c : Char) : Bool := c = 'e' || c = 'E'

/-- Digits with a point perhaps, and an exponent perhaps. -/
def decimal? (t : Text) : Option Binary64 := do
  let mantissa := t.takeWhile fun c => !isExponentMark c
  let exponent ← match t.dropWhile fun c => !isExponentMark c with
    | [] => some 0
    | _ :: rest => exponent? rest
  let whole := mantissa.takeWhile (· != '.')
  let fraction := (mantissa.dropWhile (· != '.')).drop 1
  let digits := whole ++ fraction
  if digits.isEmpty || !digits.all isDigit then none
  else some (.ofDecimal (Integer.ofAsciiDigits digits) (exponent - fraction.length))

def infinityNames : List String := ["inf", "infinity"]

/-- A number without its sign. -/
def unsigned? (t : Text) : Option Binary64 :=
  let name := String.ofList (Text.lowerAscii t)
  if infinityNames.contains name then some (.infinite false)
  else if name = "nan" then some .nan
  else decimal? t

end Numeral

namespace Binary64

def read? (t : Text) : Option Binary64 :=
  let t := Numeral.plainDigits (t.trimBy isWhitespace)
  if Numeral.underscoresFit none t then
    let (negative, body) := Integer.splitSign (t.filter (· != '_'))
    (Numeral.unsigned? body).map fun x => if negative then x.negate else x
  else none

end Binary64

end TextScan
