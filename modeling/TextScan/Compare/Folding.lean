import TextScan.Text.Basic

/-!
# Matching under a folding

A folding sends each character to a text, perhaps an empty one; two texts are alike when their
foldings are equal. `matchLength` looks for a literal at the very start of a text and tells how
many characters of the text it covers. A match covers whole characters: marks that fold away
belong to the character before them, and a mark that survives must not follow the match.
-/

namespace TextScan

structure Folding where
  fold : Char → Text
  /-- The characters that combine with the one before them. -/
  isMark : Char → Bool

namespace Folding

def foldText (F : Folding) (t : Text) : Text := t.flatMap F.fold

@[simp] theorem foldText_nil (F : Folding) : F.foldText [] = [] := rfl

@[simp] theorem foldText_cons (F : Folding) (c : Char) (t : Text) :
    F.foldText (c :: t) = F.fold c ++ F.foldText t := rfl

theorem foldText_append (F : Folding) (s t : Text) :
    F.foldText (s ++ t) = F.foldText s ++ F.foldText t := by
  simp [foldText]

/-- Whether a character folds away. -/
def vanishes (F : Folding) (c : Char) : Bool := (F.fold c).isEmpty

/-- How many characters from the start of the text fold to `target`, no more than needed. -/
def cover (F : Folding) : Text → Text → Option Nat
  | [], _ => some 0
  | _ :: _, [] => none
  | target, c :: rest =>
    if (F.fold c).isPrefixOf target then
      (F.cover (target.drop (F.fold c).length) rest).map (· + 1)
    else none

/-- The marks at the start of the text that fold away. -/
def vanishing (F : Folding) (t : Text) : Text := t.takeWhile F.vanishes

/-- Whether the text starts with a mark. -/
def startsWithMark (F : Folding) : Text → Bool
  | [] => false
  | c :: _ => F.isMark c

def startsVanishing (F : Folding) : Text → Bool
  | [] => false
  | c :: _ => F.vanishes c

/-- The length of the match of a literal at the start of a text. Nothing matches a literal that
folds away, and no match starts with a character that does. -/
def matchLength (F : Folding) (t literal : Text) : Option Nat :=
  if (F.foldText literal).isEmpty || F.startsVanishing t then none
  else
    match F.cover (F.foldText literal) t with
    | none => none
    | some covered =>
      let length := covered + (F.vanishing (t.drop covered)).length
      if F.startsWithMark (t.drop length) then none else some length

end Folding

end TextScan
