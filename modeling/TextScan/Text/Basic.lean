/-!
# Text

A text is the list of its characters, each one Unicode scalar. Positions and lengths count
characters.
-/

namespace TextScan

abbrev Text := List Char

namespace Text

def apostrophe : Char := '\x27'

def doubleQuote : Char := '\x22'

/-- Lower case of the letters A to Z; every other character stays. -/
def lowerAscii (t : Text) : Text := t.map Char.toLower

end Text

end TextScan
