import TextScan.Numeral.Binary64
import TextScan.Numeral.Integer

/-!
# Shortest decimals

The decimal text of a double has the fewest digits that read back as the same double, and of
those the nearest ones to it. All arithmetic is exact: the double and the two ends of the
interval of reals that round to it are whole multiples of a common power of two.
-/

namespace TextScan

/-- The reals that round to a double, in quarters of its unit in the last place: it lies at
`middle`, and the ends belong to the interval if `closed`. -/
structure RoundingInterval where
  low : Nat
  middle : Nat
  high : Nat
  closed : Bool
  /-- The quarter of a unit is two to this power. -/
  scale : Int

namespace RoundingInterval

/-- Below a power of two the doubles lie twice as dense, so the interval is shorter there. -/
def ofParts (mantissa : Nat) (exponent : Int) : RoundingInterval where
  low :=
    if mantissa = Binary64.hiddenBit ∧ -1074 < exponent then 4 * mantissa - 1
    else 4 * mantissa - 2
  middle := 4 * mantissa
  high := 4 * mantissa + 2
  closed := mantissa % 2 = 0
  scale := exponent - 2

/-- A decimal `digits · 10 ^ exponent`. -/
structure Decimal where
  digits : Nat
  exponent : Int
  deriving DecidableEq, Repr

/-- Numerator and denominator of one quarter in units of `10 ^ k`. -/
def ratio (i : RoundingInterval) (k : Int) : Nat × Nat :=
  (Nat.pow 10 (-k).toNat <<< i.scale.toNat, Nat.pow 10 k.toNat <<< (-i.scale).toNat)

/-- Whether `d · 10 ^ k` lies in the interval, with `10 ^ k` as `den` parts and a quarter as
`num` parts. -/
def holds (i : RoundingInterval) (num den d : Nat) : Bool :=
  if i.closed then i.low * num ≤ d * den && d * den ≤ i.high * num
  else i.low * num < d * den && d * den < i.high * num

/-- The nearest multiple of `10 ^ k` in the interval; of two at the same distance the even one. -/
def onGrid? (i : RoundingInterval) (k : Int) : Option Decimal :=
  let (num, den) := i.ratio k
  let below := i.middle * num / den
  let twice := 2 * (i.middle * num % den)
  let first := if twice < den ∨ (twice = den ∧ below % 2 = 0) then below else below + 1
  let second := if first = below then below + 1 else below
  if i.holds num den first then some ⟨first, k⟩
  else if i.holds num den second then some ⟨second, k⟩
  else none

/-- The exponent of the first digit of the middle. -/
def leadingExponent (i : RoundingInterval) : Int :=
  let (num, den) := i.ratio 0
  let a := i.middle * num
  if den ≤ a then (Nat.toDigits 10 (a / den)).length - 1
  else -((Nat.toDigits 10 ((den + a - 1) / a - 1)).length : Int)

/-- The first grid with a hit, from `fuel` digits short of the finest one on. -/
def search (i : RoundingInterval) (k : Int) : Nat → Decimal
  | 0 => ⟨0, 0⟩
  | fuel + 1 =>
    match i.onGrid? k with
    | some d => d
    | none => search i (k - 1) fuel

/-- Seventeen digits are always enough. -/
def shortest (i : RoundingInterval) : Decimal := i.search i.leadingExponent 17

end RoundingInterval

/-! ### The text of a double -/

namespace Binary64

/-- Numbers are written positionally from the power `10 ^ (-4)` on and below `10 ^ 16`. -/
def isPositional (exponent : Int) : Bool := -4 ≤ exponent && exponent < 16

def writeExponent (e : Int) : Text :=
  let digits := Nat.toDigits 10 e.natAbs
  let padded := if digits.length < 2 then '0' :: digits else digits
  'e' :: (if e < 0 then '-' else '+') :: padded

/-- Text of the number whose first digit counts `10 ^ exponent`; a whole number ends in a point
and a zero when written positionally. -/
def writeDigits (digits : Text) (exponent : Int) : Text :=
  if isPositional exponent then
    let point := (exponent + 1).toNat
    if exponent < 0 then
      "0.".toList ++ List.replicate (-exponent - 1).toNat '0' ++ digits
    else if digits.length ≤ point then
      digits ++ List.replicate (point - digits.length) '0' ++ ".0".toList
    else digits.take point ++ '.' :: digits.drop point
  else
    match digits with
    | [d] => d :: writeExponent exponent
    | d :: more => d :: '.' :: more ++ writeExponent exponent
    | [] => writeExponent exponent

def dropTrailingZeros (digits : Text) : Text :=
  (digits.reverse.dropWhile (· = '0')).reverse

def writeMagnitude (mantissa : Nat) (exponent : Int) : Text :=
  if mantissa = 0 then "0.0".toList
  else
    let d := (RoundingInterval.ofParts mantissa exponent).shortest
    let digits := Nat.toDigits 10 d.digits
    writeDigits (dropTrailingZeros digits) (d.exponent + digits.length - 1)

def write : Binary64 → Text
  | .finite negative m e => (if negative then ['-'] else []) ++ writeMagnitude m e
  | .infinite negative => if negative then "-inf".toList else "inf".toList
  | .nan => "nan".toList

end Binary64

end TextScan
