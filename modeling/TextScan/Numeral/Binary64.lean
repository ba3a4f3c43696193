/-!
# Binary floating point

A finite double is `± mantissa · 2 ^ exponent` with whole numbers. `Binary64.ofFloat` decodes
the bits of a float; `truncate` gives the whole number next to it towards zero.
-/

namespace TextScan

inductive Binary64 where
  | finite (negative : Bool) (mantissa : Nat) (exponent : Int)
  | infinite (negative : Bool)
  | nan
  deriving DecidableEq, Repr

namespace Binary64

/-- The leading bit of a mantissa, which is not written down. -/
def hiddenBit : Nat := 0x10000000000000

def ofBits (bits : Nat) : Binary64 :=
  let negative := bits.testBit 63
  let biased : Nat := (bits >>> 52) % 0x800
  let fraction : Nat := bits % hiddenBit
  if biased = 2047 then
    if fraction = 0 then .infinite negative else .nan
  else if biased = 0 then .finite negative fraction (-1074)
  else .finite negative (hiddenBit + fraction) ((biased : Int) - 1075)

def ofFloat (x : Float) : Binary64 := ofBits x.toBits.toNat

def negate : Binary64 → Binary64
  | .finite negative m e => .finite (!negative) m e
  | .infinite negative => .infinite !negative
  | .nan => .nan

/-- Zero less the number: like `negate`, but a zero keeps the plus sign. -/
def zeroMinus : Binary64 → Binary64
  | .finite _ 0 e => .finite false 0 e
  | x => x.negate

/-- Numbers with more digits than this before the point are beyond every double, and numbers
with more zeros than this after it are closer to zero than to any other double. -/
def maxMagnitude : Int := 400

/-- The double next to `mantissa · 10 ^ exponent`. -/
def ofDecimal (mantissa : Nat) (exponent : Int) : Binary64 :=
  let magnitude := exponent + (Nat.toDigits 10 mantissa).length
  if mantissa = 0 || magnitude < -maxMagnitude then .finite false 0 (-1074)
  else if maxMagnitude < magnitude then .infinite false
  else ofFloat (Float.ofScientific mantissa (exponent < 0) exponent.natAbs)

/-- The whole part of a finite number. -/
def truncate : Binary64 → Option Int
  | .finite negative m e =>
    let n : Int := if 0 ≤ e then (m <<< e.toNat : Nat) else (m >>> (-e).toNat : Nat)
    some (if negative then -n else n)
  | _ => none

end Binary64

end TextScan
