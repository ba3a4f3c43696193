import TextScan.Text.Basic
import TextScan.Unicode.Printable

/-!
# Quoted text

A text in quotes on one line. The quote is the apostrophe, or the double quote where the text
holds apostrophes and no double quote. Inside, the quote and the backslash follow a backslash,
the common controls have short escapes, and every other character that is not printable is
written as its number in lower-case hexadecimal.
-/

namespace TextScan.Text

/-- The quote that a text is written in. -/
def quoteFor (t : Text) : Char :=
  if t.contains apostrophe && !t.contains doubleQuote then doubleQuote else apostrophe

/-- The last `width` hexadecimal digits of a number. -/
def hexDigits : Nat → Nat → Text
  | 0, _ => []
  | width + 1, n => hexDigits width (n / 16) ++ [Nat.digitChar (n % 16)]

/-- The number of a character, with a letter that gives its width. -/
def escapeNumber (n : Nat) : Text :=
  if n < 0x100 then ['\\', 'x'] ++ hexDigits 2 n
  else if n < 0x10000 then ['\\', 'u'] ++ hexDigits 4 n
  else ['\\', 'U'] ++ hexDigits 8 n

/-- A character as it stands inside the quotes. -/
def escape (quote c : Char) : Text :=
  if c = quote || c = '\\' then ['\\', c]
  else if c = '\t' then ['\\', 't']
  else if c = '\n' then ['\\', 'n']
  else if c = '\r' then ['\\', 'r']
  else if Unicode.isPrintable c then [c]
  else escapeNumber c.toNat

def quoted (t : Text) : Text :=
  let quote := t.quoteFor
  quote :: t.flatMap (escape quote) ++ [quote]

end TextScan.Text
