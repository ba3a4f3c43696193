import TextScan.Unicode.CanonicalMapping
import TextScan.Unicode.CombiningClass
import TextScan.Unicode.CompatibilityMapping
import TextScan.Unicode.Composition
import TextScan.Unicode.Hangul

/-!
# Normal forms

The four normal forms of a text: every character is decomposed (`decompose`), marks are put into
canonical order (`reorder`), and for the composed forms starters take up the marks that have a
composite with them (`compose`).
-/

namespace TextScan.Unicode

/-! ### Decomposition -/

def canonicalStep? (c : Char) : Option (List Char) :=
  (Hangul.decompose? c).or (canonicalMapping? c)

def compatibilityStep? (c : Char) : Option (List Char) :=
  (canonicalStep? c).or (compatibilityMapping? c)

/-- Takes steps until none applies, `fuel` deep at most. -/
def decompose (step : Char → Option (List Char)) : Nat → Char → List Char
  | 0, c => [c]
  | fuel + 1, c =>
    match step c with
    | some t => t.flatMap (decompose step fuel)
    | none => [c]

/-- No chain of mappings is longer than three. -/
def longestChain : Nat := 3

def canonicalDecomposition (c : Char) : List Char := decompose canonicalStep? longestChain c

def compatibilityDecomposition (c : Char) : List Char :=
  decompose compatibilityStep? longestChain c

/-! ### Canonical order -/

/-- Puts `c` in front of an ordered text, past the marks of lower class at its start. -/
def insertMark (c : Char) : List Char → List Char
  | [] => [c]
  | d :: rest =>
    if 0 < combiningClass d ∧ combiningClass d < combiningClass c then d :: insertMark c rest
    else c :: d :: rest

/-- Sorts every run of marks by class, leaving marks of one class in their order. -/
def reorder : List Char → List Char
  | [] => []
  | c :: rest => insertMark c (reorder rest)

/-! ### Composition -/

/-- A mark cannot reach the starter past a mark of the same or a higher class. -/
def blocked (marks : List Char) (c : Char) : Bool :=
  match marks.getLast? with
  | some m => combiningClass c ≤ combiningClass m
  | none => false

/-- Composes the rest of a text in canonical order, after a starter and the marks that stayed
apart from it. -/
def composeFrom (starter : Char) (marks : List Char) : List Char → List Char
  | [] => starter :: marks
  | c :: rest =>
    match if blocked marks c then none else composePair? starter c with
    | some p => composeFrom p marks rest
    | none =>
      if combiningClass c = 0 then starter :: marks ++ composeFrom c [] rest
      else composeFrom starter (marks ++ [c]) rest

def compose : List Char → List Char
  | [] => []
  | c :: rest => if combiningClass c = 0 then composeFrom c [] rest else c :: compose rest

/-! ### The normal forms -/

def nfd (t : List Char) : List Char := reorder (t.flatMap canonicalDecomposition)

def nfc (t : List Char) : List Char := compose (nfd t)

def nfkd (t : List Char) : List Char := reorder (t.flatMap compatibilityDecomposition)

def nfkc (t : List Char) : List Char := compose (nfkd t)

end TextScan.Unicode
