import TextScan.Compare.Reading

/-!
# Configuration

The settings of a scanner: whether numbers may follow white space, how literals are compared,
and how many bits an integer may take. Each setting is read from a value, and a configuration
from a table of them; `toTable` writes one back.
-/

namespace TextScan

structure Config where
  skipWhitespace : Bool
  options : CompareOptions
  /-- Integers are signed and of this many bits, or unbounded. -/
  intBits : Option Int
  deriving DecidableEq, Repr

namespace Config

def defaultBits : Int := 64

def default : Config := ⟨true, .literal, some defaultBits⟩

instance : Inhabited Config := ⟨default⟩

/-! ### Single settings -/

def trueWords : List String := ["1", "true", "yes", "on"]

def falseWords : List String := ["0", "false", "no", "off"]

def unboundedWords : List String := ["none", "unbounded", ""]

/-- Whether a text is one of the words, apart from case and blanks around it. Lower case of
ASCII letters is enough: no other character has a letter of the words as its lower case. -/
def isWord (words : List String) (t : Text) : Bool :=
  words.any fun w => w.toList = Text.lowerAscii t.trim

def readBool : Value → Except InvalidValue Bool
  | .bool b => .ok b
  | .text t =>
    if isWord trueWords t then .ok true
    else if isWord falseWords t then .ok false
    else .error (.unknownBoolean (.ofText t))
  | .brokenText t => .error (.unknownBoolean t)
  | v => .error (.notBoolean v)

/-- Integers have a sign bit and at least one more. -/
def checkBits (n : Int) : Except InvalidValue (Option Int) :=
  if n < 2 then .error (.badWidth (.int n)) else .ok (some n)

/-- An integer in decimal. A surrogate is as little a part of it as a replacement character. -/
def readInteger (t : CodePoints) : Except InvalidValue Int :=
  match Integer.read t.plain with
  | .ok n => .ok n
  | .error .malformed => .error (.notInteger t)
  | .error (.tooManyDigits count) => .error (.tooManyDigits count)

def readBits : Value → Except InvalidValue (Option Int)
  | .null => .ok none
  | .text t =>
    if isWord unboundedWords t then .ok none else readInteger (.ofText t.trim) >>= checkBits
  | .brokenText t => readInteger t.trim >>= checkBits
  | .int n => checkBits n
  | v => .error (.badWidth v)

/-! ### Whole configurations -/

/-- Reads the three settings in turn; the first one that is no use is the error. -/
def ofValues (skip : Value) (options : OptionsArgument) (bits : Value) :
    Except InvalidValue Config := do
  let skip ← readBool skip
  let options ← CompareOptions.ofArgument options
  let bits ← readBits bits
  return ⟨skip, options, bits⟩

def skipKey : Text := "skip_leading_whitespace".toList

def optionsKey : Text := "compare_options".toList

def bitsKey : Text := "int_bits".toList

/-- Options in a table may also be a list of names. -/
def joinNames : Value → Except Value.WriteError Value
  | .list items => do
    items.forM Value.checkWrite
    return .ofCodePoints ([.char ','].intercalate (items.map Value.display))
  | v => .ok v

/-- Reads a table; what it does not set has its default, and other entries do not matter. -/
def ofTable (t : Table) : Except Fault Config := do
  let options ← (joinNames ((t.lookup optionsKey).getD
    (.text CompareOptions.literal.write))).mapError .ofWriteError
  (ofValues ((t.lookup skipKey).getD (.bool true)) (.value options)
    ((t.lookup bitsKey).getD (.int defaultBits))).mapError .ofInvalid

def ofValue : Value → Except Fault Config
  | .table t => ofTable t
  | _ => .error .notTable

def bitsValue : Option Int → Value
  | some n => .int n
  | none => .null

def toTable (c : Config) : Table :=
  [(skipKey, .bool c.skipWhitespace), (optionsKey, .text c.options.write),
   (bitsKey, bitsValue c.intBits)]

/-- The table of a configuration on one line. -/
def summary (c : Config) : String := String.ofList (Value.table c.toTable).quoted

/-- The settings on one line, if the width can be written. -/
def display (c : Config) : Except Fault String := do
  (bitsValue c.intBits).checkWrite.mapError .ofWriteError
  let skip := String.ofList (Value.writeBool c.skipWhitespace)
  let bits := String.ofList (bitsValue c.intBits).quoted
  return s!"ScannerConfig(skip_leading_whitespace={skip}, " ++
    s!"compare_options={c.options.display}, int_bits={bits})"

/-! ### The range of integers -/

/-- The signed integers of a width: from `start` on and below `stop`. -/
structure IntRange where
  /-- The bits, one of them for the sign. -/
  width : Nat
  deriving DecidableEq, Repr

namespace IntRange

def limit (r : IntRange) : Nat := Nat.pow 2 (r.width - 1)

def start (r : IntRange) : Int := -Int.ofNat r.limit

def stop (r : IntRange) : Int := Int.ofNat r.limit

/-- Whether the range holds an integer. One with fewer bits than the width is in it, so the ends
of a wide range need not be computed. -/
def contains (r : IntRange) (n : Int) : Bool :=
  n.natAbs.log2 + 1 < r.width || (r.start ≤ n && n < r.stop)

theorem contains_iff (r : IntRange) (n : Int) :
    r.contains n = true ↔ r.start ≤ n ∧ n < r.stop := by
  have short (h : n.natAbs.log2 + 1 < r.width) : n.natAbs < r.limit :=
    Nat.lt_of_lt_of_le Nat.lt_log2_self (Nat.pow_le_pow_right (by decide) (by omega))
  simp only [contains, Bool.or_eq_true, Bool.and_eq_true, decide_eq_true_eq]
  refine ⟨?_, Or.inr⟩
  rintro (h | h)
  · have := short h
    simp only [start, stop, Int.ofNat_eq_natCast]
    omega
  · exact h

end IntRange

/-- Wider ranges have ends that no integer can represent. -/
def maxWidth : Int := 69175290276410818321

/-- Wider ranges have ends that are taken to fit into no memory. That is an assumption about the
machine, not a rule of the settings: at this width an end takes 8 GiB. A machine with more memory
computes wider ranges, and one with less gives up at narrower ones. -/
def maxWidthInMemory : Int := 0x1000000000

/-- The range of the integers that are accepted, if it is bounded. A width below one, which no
configuration that was read has, gives none. -/
def intRange (c : Config) : Except Fault (Option IntRange) :=
  match c.intBits with
  | none => .ok none
  | some bits =>
    if bits < 1 then .error (.invalid .negativeShift)
    else if maxWidth < bits then .error .tooLarge
    else if maxWidthInMemory < bits then .error .outOfMemory
    else .ok (some ⟨bits.toNat⟩)

/-- Wider ranges have ends of more digits than are written. -/
def maxWrittenWidth : Nat := 14285

theorem isWritable_start (r : IntRange) :
    Integer.isWritable r.start = decide (r.width ≤ maxWrittenWidth) := by
  have low : Nat.pow 2 (maxWrittenWidth - 1) < Nat.pow 10 Integer.maxDigits := by decide +kernel
  have high : Nat.pow 10 Integer.maxDigits ≤ Nat.pow 2 maxWrittenWidth := by decide +kernel
  have grows {m n : Nat} (h : m ≤ n) : Nat.pow 2 m ≤ Nat.pow 2 n :=
    Nat.pow_le_pow_right (by decide) h
  have abs : r.start.natAbs = r.limit := by simp [IntRange.start]
  simp only [Integer.isWritable, abs, IntRange.limit]
  congr 1
  rw [eq_iff_iff]
  constructor
  · intro h
    rcases Nat.lt_or_ge maxWrittenWidth r.width with w | w
    · have := grows (show maxWrittenWidth ≤ r.width - 1 by omega)
      omega
    · exact w
  · intro w
    have := grows (show r.width - 1 ≤ maxWrittenWidth - 1 by omega)
    omega

/-- The two ends of the range in decimal. -/
def writtenRange (c : Config) : Except Fault (Option (Text × Text)) := do
  match ← c.intRange with
  | none => return none
  | some r =>
    if r.width ≤ maxWrittenWidth then
      return some (Integer.write r.start, Integer.write r.stop)
    else .error (.invalid .tooLongToWrite)

end Config

end TextScan
