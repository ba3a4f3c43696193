import TextScan.Text.Blank
import TextScan.Unicode.DecimalDigit

/-!
# Integers in decimal

`Integer.read` reads an integer with an optional sign. Its digits may be of any script, and
single underscores may stand between them. `Integer.write` writes the canonical form. Reading
and writing are limited to 4300 digits, so that the cost of an untrusted number stays bounded.
-/

namespace TextScan.Integer

/-- Why a text is no integer. -/
inductive ReadError where
  | malformed
  | tooManyDigits (count : Nat)
  deriving DecidableEq, Repr

def maxDigits : Nat := 4300

/-- The number with these decimal digits, the highest first. -/
def ofDigits (digits : List Nat) : Nat := digits.foldl (fun n d => 10 * n + d) 0

/-- The value of a run of ASCII digits. -/
def ofAsciiDigits (digits : Text) : Nat := ofDigits (digits.map fun c => c.toNat - 0x30)

def isDigitOrUnderscore (c : Char) : Bool := (Unicode.digitValue? c).isSome || c = '_'

/-- Takes off a sign; the flag tells a minus. -/
def splitSign : Text → Bool × Text
  | '-' :: rest => (true, rest)
  | '+' :: rest => (false, rest)
  | t => (false, t)

/-- Reads digits, with single underscores between them, up to the end of the text. -/
def readDigits (t : Text) : Except ReadError Nat :=
  let groups := (t.takeWhile isDigitOrUnderscore).splitOn '_'
  let digits := groups.flatten.filterMap Unicode.digitValue?
  if groups.contains [] then .error .malformed
  else if maxDigits < digits.length then .error (.tooManyDigits digits.length)
  else if t.dropWhile isDigitOrUnderscore ≠ [] then .error .malformed
  else .ok (ofDigits digits)

def read (t : Text) : Except ReadError Int :=
  let (negative, body) := splitSign (t.trimBy isWhitespace)
  (readDigits body).map fun n => if negative then -n else n

def write (n : Int) : Text :=
  if n < 0 then '-' :: Nat.toDigits 10 n.natAbs else Nat.toDigits 10 n.natAbs

/-- Whether an integer has no more digits than are written. -/
def isWritable (n : Int) : Bool := n.natAbs < Nat.pow 10 maxDigits

theorem isWritable_of_le {m n : Int} (h : m.natAbs ≤ n.natAbs) (hn : isWritable n = true) :
    isWritable m = true :=
  decide_eq_true (Nat.lt_of_le_of_lt h (of_decide_eq_true hn))

/-- There are numbers of more digits, of either sign. -/
theorem not_isWritable_pow :
    0 < Int.ofNat (Nat.pow 10 maxDigits) ∧ ¬ isWritable (Int.ofNat (Nat.pow 10 maxDigits)) = true ∧
      ¬ isWritable (-Int.ofNat (Nat.pow 10 maxDigits)) = true := by
  have hpos (digits : Nat) : 0 < Nat.pow 10 digits := Nat.pow_pos (by decide)
  have h := hpos maxDigits
  rw [isWritable, isWritable, decide_eq_true_eq, decide_eq_true_eq, Int.natAbs_neg]
  -- What the number is does not matter, and nothing should try to compute it.
  generalize Nat.pow 10 maxDigits = limit at h
  exact ⟨Int.ofNat_lt.mpr h, Nat.lt_irrefl limit, Nat.lt_irrefl limit⟩

end TextScan.Integer
