import TextScan.Text.Blank
import TextScan.Text.Quoted

/-!
# Code points

A number in a string can name any code point, also a surrogate, which is no character. What holds
one is kept as its code points. `ofText` and `toText?` go from text to code points and back, and
code points that are all characters are quoted as their text is (`quoted_ofText`).
-/

namespace TextScan

inductive CodePoint where
  | char (c : Char)
  /-- A surrogate, by its place among them. -/
  | surrogate (place : Fin 0x800)
  deriving DecidableEq, Repr

abbrev CodePoints := List CodePoint

namespace CodePoint

/-- The number of the first surrogate. -/
def surrogates : Nat := 0xD800

def toNat : CodePoint → Nat
  | .char c => c.toNat
  | .surrogate place => surrogates + place.val

/-- The code point with a number. -/
def ofNat? (n : Nat) : Option CodePoint :=
  if n.isValidChar then some (.char (Char.ofNat n))
  else if h : n - surrogates < 0x800 then some (.surrogate ⟨n - surrogates, h⟩)
  else none

/-- A surrogate is no blank. -/
def isBlank : CodePoint → Bool
  | .char c => TextScan.isBlank c
  | .surrogate _ => false

/-- The code point as it stands inside quotes. -/
def escape (quote : Char) : CodePoint → Text
  | .char c => Text.escape quote c
  | .surrogate place => Text.escapeNumber (surrogates + place.val)

/-- The replacement character for a surrogate. -/
def plain : CodePoint → Char
  | .char c => c
  | .surrogate _ => '\uFFFD'

end CodePoint

namespace CodePoints

def ofText (t : Text) : CodePoints := t.map .char

def ofString (s : String) : CodePoints := ofText s.toList

/-- The text, if every code point is a character. -/
def toText? : CodePoints → Option Text
  | [] => some []
  | .char c :: rest => (toText? rest).map (c :: ·)
  | .surrogate _ :: _ => none

/-- The text with replacement characters for surrogates. -/
def plain (t : CodePoints) : Text := t.map CodePoint.plain

/-- The code points without the blanks around them. -/
def trim (t : CodePoints) : CodePoints :=
  ((t.dropWhile CodePoint.isBlank).reverse.dropWhile CodePoint.isBlank).reverse

/-- The code points in quotes on one line. No quote is a surrogate, so the plain text tells
which quote is used. -/
def quoted (t : CodePoints) : Text :=
  let quote := t.plain.quoteFor
  quote :: t.flatMap (CodePoint.escape quote) ++ [quote]

theorem ofString_append (s t : String) : ofString (s ++ t) = ofString s ++ ofString t := by
  rw [ofString, ofText, String.toList_append, List.map_append]
  rfl

/-- A string of parts starts as the first part does. -/
theorem head?_ofString_append {s : String} {c : CodePoint} (hs : (ofString s).head? = some c)
    (t : String) : (ofString (s ++ t)).head? = some c := by
  rw [ofString_append, List.head?_append, hs]
  rfl

@[simp]
theorem toText?_ofText (t : Text) : (ofText t).toText? = some t := by
  induction t with
  | nil => rfl
  | cons c rest ih =>
    show ((ofText rest).toText?).map (c :: ·) = some (c :: rest)
    rw [ih]
    rfl

@[simp]
theorem plain_ofText (t : Text) : (ofText t).plain = t := by
  induction t with
  | nil => rfl
  | cons c rest ih => exact congrArg (c :: ·) ih

theorem quoted_ofText (t : Text) : (ofText t).quoted = t.quoted := by
  simp only [quoted, plain_ofText]
  simp only [ofText, List.flatMap_map]
  rfl

end CodePoints

end TextScan
