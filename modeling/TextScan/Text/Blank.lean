import TextScan.Text.Basic

/-!
# White space

Two classes of blank characters. `isWhitespace` holds the separators of Unicode (categories Zs,
Zl and Zp) and the line controls; it is what a scanner skips. `isBlank` adds the four information
separators U+001C to U+001F; it is what surrounds a setting and is trimmed from it.
-/

namespace TextScan

/-- Tab, the line and page breaks among the controls, and the next-line control. -/
def isLineControl (c : Char) : Bool :=
  (Nat.ble 0x09 c.toNat && Nat.ble c.toNat 0x0D) || Nat.beq c.toNat 0x85

/-- The general categories Zs, Zl and Zp. -/
def isSeparator (c : Char) : Bool :=
  [0x20, 0xA0, 0x1680, 0x2028, 0x2029, 0x202F, 0x205F, 0x3000].contains c.toNat ||
    (Nat.ble 0x2000 c.toNat && Nat.ble c.toNat 0x200A)

def isWhitespace (c : Char) : Bool := isLineControl c || isSeparator c

def isBlank (c : Char) : Bool :=
  isWhitespace c || (Nat.ble 0x1C c.toNat && Nat.ble c.toNat 0x1F)

namespace Text

/-- The text without the characters of the class at its two ends. -/
def trimBy (drop : Char → Bool) (t : Text) : Text :=
  ((t.dropWhile drop).reverse.dropWhile drop).reverse

/-- The text without the blanks around it. -/
def trim (t : Text) : Text := t.trimBy isBlank

end Text

end TextScan
