import TextScan.Unicode.RangeTree

/-!
# Character mappings

A mapping row sends a run of characters to texts that differ in their last character only: the
first of the run goes to `value`, and each next one to the text whose last character is one
further on.
-/

namespace TextScan.Unicode

abbrev Mapping := Range (List Nat)

/-- The same text with its last character moved on by `k`. -/
def advanceLast (k : Nat) : List Nat → List Nat
  | [] => []
  | [n] => [n + k]
  | n :: rest => n :: advanceLast k rest

/-- What the row makes of the character numbered `n`. -/
def Range.image (row : Mapping) (n : Nat) : List Char :=
  (advanceLast (n - row.lo) row.value).map Char.ofNat

end TextScan.Unicode
