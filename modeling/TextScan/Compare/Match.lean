import TextScan.Compare.Folding
import TextScan.Compare.Options
import TextScan.Error
import TextScan.Unicode.CaseFolding
import TextScan.Unicode.Normalization

/-!
# Matching a literal

The folding that compare options stand for, and the match of a literal at a place of a text. What
characters decompose and fold to is looked up in `CharacterData`; the options themselves go by
the data of Unicode.
-/

namespace TextScan

/-- What folding looks up: normal forms, case foldings and combining classes. -/
structure CharacterData where
  nfkc : Text → Text
  nfd : Text → Text
  caseFold : Char → Text
  combiningClass : Char → Nat

namespace CharacterData

def unicode : CharacterData where
  nfkc := Unicode.nfkc
  nfd := Unicode.nfd
  caseFold := Unicode.caseFold
  combiningClass := Unicode.combiningClass

variable (D : CharacterData) (o : CompareOptions)

/-- Folds one character. Every mode but the exact one decomposes it, so that composed and
decomposed spellings of a character fold alike. -/
def foldChar (c : Char) : Text :=
  if o.isLiteral then [c]
  else
    let plain := if o.widthInsensitive then D.nfkc [c] else [c]
    let caseless := if o.caseInsensitive then plain.flatMap D.caseFold else plain
    let decomposed := D.nfd caseless
    if o.diacriticInsensitive then decomposed.filter fun d => D.combiningClass d = 0
    else decomposed

def folding : Folding where
  fold := D.foldChar o
  isMark c := D.combiningClass c ≠ 0

def fold (t : Text) : Text := (D.folding o).foldText t

/-- The length of the match of a literal at the start of a text. An empty literal never
matches. -/
def matchLength (t literal : Text) : Option Nat :=
  if o.isLiteral then
    if !literal.isEmpty && literal.isPrefixOf t then some literal.length else none
  else (D.folding o).matchLength t literal

/-- The end of the match of a literal at `start`, which may be counted from the end of the
text by a negative number. A negative start in a folding mode goes on from the end of the text
at its beginning. -/
def matchAt (source : Text) (start : Int) (literal : Text) : Except Fault (Option Int) :=
  let back := (-start).toNat
  let endOf (length : Option Nat) : Option Int := length.map fun (n : Nat) => start + n
  if literal.isEmpty ∨ (source.length : Int) < start then .ok none
  else if 0 ≤ start then .ok (endOf (D.matchLength o (source.drop start.toNat) literal))
  else if o.isLiteral then
    .ok (endOf (D.matchLength o (source.drop (source.length - back)) literal))
  else if (D.fold o literal).isEmpty then .ok none
  else if source.length < back then .error .outOfRange
  else .ok (endOf (D.matchLength o (source.drop (source.length - back) ++ source) literal))

end CharacterData

namespace CompareOptions

def foldChar (o : CompareOptions) (c : Char) : Text := CharacterData.unicode.foldChar o c

def fold (o : CompareOptions) (t : Text) : Text := CharacterData.unicode.fold o t

def matchAt (o : CompareOptions) (source : Text) (start : Int) (literal : Text) :
    Except Fault (Option Int) :=
  CharacterData.unicode.matchAt o source start literal

end CompareOptions

end TextScan
