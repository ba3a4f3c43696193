import TextScan.Numeral.Based
import TextScan.Toml.Basic

/-!
# Strings in a document

A string starts with its quote. The part of a document that is read as one string ends where
some mark outside it was found, so its last character is taken for the closing quote. Escapes
are read in double quotes only: first the numbered characters, then the letters.
-/

namespace TextScan.Toml

/-! ### Escapes -/

/-- The character that a letter after a backslash stands for. -/
def escaped? : Char → Option Char
  | '0' => some '\x00'
  | 'b' => some '\x08'
  | 'f' => some '\x0c'
  | 'n' => some '\n'
  | 'r' => some '\r'
  | 't' => some '\t'
  | '\x22' => some '\x22'
  | _ => none

/-- Replaces the escapes with a letter. Those with a number stay. -/
def unescape? : CodePoints → Option CodePoints
  | .char '\\' :: .char c :: rest =>
    if c = '\\' then (unescape? rest).map (.char '\\' :: ·)
    else if c = 'u' || c = 'U' then (unescape? rest).map fun t => .char '\\' :: .char c :: t
    else (escaped? c).bind fun e => (unescape? rest).map (.char e :: ·)
  | .char '\\' :: .surrogate _ :: _ => none
  | p :: rest => (unescape? rest).map (p :: ·)
  | [] => some []

/-- Whether each of the pieces between backslashes starts with a letter that can be escaped.
The flag tells that the piece follows an escaped backslash. -/
def escapesKnown : Bool → List Text → Bool
  | _, [] => true
  | afterPair, [] :: rest => escapesKnown (!afterPair) rest
  | afterPair, (c :: _) :: rest =>
    (afterPair || c = 'u' || c = 'U' || (escaped? c).isSome) && escapesKnown false rest

/-- The numbers after a backslash are signed ones of 32 bits. -/
def maxCodePoint : Nat := 0x7FFFFFFF

/-- The code point of a number in hexadecimal. A number that starts like that of a surrogate is
refused; behind zeros a surrogate can have its number. -/
def numbered (digits : Text) : Except DocumentError CodePoint :=
  match digits with
  | [] | ['d'] => .error .incomplete
  | c :: rest =>
    match Numeral.natIn? 16 digits with
    | none => .error .malformed
    | some n =>
      if c = 'd' && !rest.head?.any fun e => isDigit e && e < '8' then .error .malformed
      else if maxCodePoint < n then .error .tooLarge
      else malformedIfNone (CodePoint.ofNat? n)

/-- The pieces after the first one, each of them behind a mark for a number of so many digits.
The flag tells that the backslash of the mark is escaped itself. -/
def replaceNumbers (mark : Text) (width : Nat) :
    Bool → List Text → Except DocumentError CodePoints
  | _, [] => .ok []
  | true, piece :: rest => do
    return .ofText (mark ++ piece) ++ (← replaceNumbers mark width (endsInEscape piece) rest)
  | false, piece :: rest => do
    let digits := Text.lowerAscii (piece.take width)
    let p ← numbered digits
    return p :: CodePoints.ofText (piece.drop width) ++
      (← replaceNumbers mark width false rest)

/-- Replaces the escapes with a number of so many digits. -/
def expandNumbers (mark : Text) (width : Nat) (t : Text) : Except DocumentError CodePoints :=
  match Text.parts mark t with
  | [] => .ok []
  | first :: rest => do
    return .ofText first ++ (← replaceNumbers mark width (endsInEscape first) rest)

/-- Replaces all escapes. Four digits are too few for the number of a surrogate that is not
refused, so the short numbers leave a text. -/
def expandEscapes (t : Text) : Except DocumentError CodePoints := do
  if escapesKnown false (t.splitOn '\\').tail then
    let short ← expandNumbers ['\\', 'u'] 4 t
    let long ← expandNumbers ['\\', 'U'] 8 short.plain
    malformedIfNone (unescape? long)
  else .error .malformed

/-! ### The ends of a string -/

/-- Whether something follows the end of the string, given the pieces between its quotes. In
a string of several lines two quotes in a row are no end, and `count` counts them. -/
def textFollows (multiline : Bool) : Bool → Nat → List Text → Bool
  | _, _, [] => false
  | closed, count, [] :: rest =>
    textFollows multiline (closed || !multiline) (if multiline then count + 1 else count) rest
  | closed, count, piece :: rest =>
    if endsInEscape piece then textFollows multiline closed count rest
    else if closed then true
    else if !multiline || 1 < count then textFollows multiline true count rest
    else textFollows multiline false 0 rest

def isWellClosed (quote : Char) (t : Text) : Bool :=
  match t.splitOn quote with
  | [] :: [] :: rest => !textFollows true false 0 rest
  | pieces => !textFollows false false 0 pieces

/-- What stands between the quotes; of three quotes in a row two go with their counterparts. -/
def betweenQuotes {α : Type} [DecidableEq α] (quote : α) (t : List α) : List α :=
  match t with
  | _ :: c :: rest =>
    if c = quote && rest.head?.all (· = quote) then inside (inside (inside t)) else inside t
  | _ => inside t

/-- The value of a string with its quotes. -/
def readString (t : Text) : Except DocumentError Value :=
  match t with
  | [] => .error .malformed
  | quote :: rest =>
    if !isWellClosed quote rest then .error .malformed
    else if quote = Text.doubleQuote then do
      return .ofCodePoints (betweenQuotes (.char quote) (← expandEscapes t))
    else .ok (.text (betweenQuotes quote t))

end TextScan.Toml
