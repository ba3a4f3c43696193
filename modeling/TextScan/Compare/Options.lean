import TextScan.Text.Basic

/-!
# Compare options

How a literal is compared with the text it is looked for in: exactly, or without regard to
case, diacritics or width, in any combination.
-/

namespace TextScan

structure CompareOptions where
  caseInsensitive : Bool
  diacriticInsensitive : Bool
  widthInsensitive : Bool
  deriving DecidableEq, Repr

namespace CompareOptions

/-- The exact comparison, character by character. -/
def literal : CompareOptions := ⟨false, false, false⟩

instance : Inhabited CompareOptions := ⟨literal⟩

def isLiteral (o : CompareOptions) : Bool :=
  !o.caseInsensitive && !o.diacriticInsensitive && !o.widthInsensitive

/-- The options with every flag of either. -/
def union (o p : CompareOptions) : CompareOptions :=
  ⟨o.caseInsensitive || p.caseInsensitive, o.diacriticInsensitive || p.diacriticInsensitive,
    o.widthInsensitive || p.widthInsensitive⟩

/-- Whether every flag of `p` is set in `o`. -/
def includes (o p : CompareOptions) : Bool := o.union p = o

/-! ### Names -/

/-- The single flags and their names, in order of value. -/
def flags : List (String × CompareOptions) :=
  [("case_insensitive", ⟨true, false, false⟩),
   ("diacritic_insensitive", ⟨false, true, false⟩),
   ("width_insensitive", ⟨false, false, true⟩)]

/-- Every name that options can be given by. -/
def named : List (String × CompareOptions) := ("literal", literal) :: flags

def allNames : String := ", ".intercalate (named.map Prod.fst)

/-- A character of a name in the spelling of `named`: case does not matter and a dash stands for
the underscore. Besides the letters of ASCII only the long s and the dotless i have a letter of
these names as their upper case. -/
def nameChar (c : Char) : Char :=
  if c = '-' then '_'
  else if c = '\u017f' then 's'
  else if c = '\u0131' then 'i'
  else c.toLower

def ofName? (name : Text) : Option CompareOptions :=
  let key := name.map nameChar
  (named.find? fun e => e.1.toList = key).map Prod.snd

/-- The names of the flags that are set, or the name of the exact comparison. -/
def names (o : CompareOptions) : List String :=
  match flags.filter fun e => o.includes e.2 with
  | [] => ["literal"]
  | set => set.map Prod.fst

/-- The names in the form that options are read in. -/
def write (o : CompareOptions) : Text := (",".intercalate o.names).toList

def display (o : CompareOptions) : String :=
  "CompareOptions." ++ "|".intercalate (o.names.map String.toUpper)

/-! ### The numeric form -/

/-- The flags as binary digits: case, diacritics, width from the lowest on. -/
def mask (o : CompareOptions) : Nat :=
  o.caseInsensitive.toNat + 2 * o.diacriticInsensitive.toNat + 4 * o.widthInsensitive.toNat

def ofMask (n : Nat) : CompareOptions := ⟨n.testBit 0, n.testBit 1, n.testBit 2⟩

end CompareOptions

end TextScan
