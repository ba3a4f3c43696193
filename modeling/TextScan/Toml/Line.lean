import TextScan.Toml.Basic
import TextScan.Unicode.LetterOrNumber

/-!
# Lines of a document

The first pass over a document makes lines of it that can be read one by one: comments become
blanks, and so does the line end inside an array; a line end inside a string of several lines
stays. The pass follows quotes and brackets from character to character, and it refuses a key
that is not followed by an equals sign and a string that is not closed.
-/

namespace TextScan.Toml

/-- Where a character stands with regard to the key of an entry. -/
inductive KeyPart where
  /-- Before a key or after its equals sign. -/
  | outside
  | word
  /-- Behind a word or a quoted key. -/
  | behind
  deriving DecidableEq, Repr

/-- A header stands in single brackets, that of an array of tables in double ones. -/
inductive HeaderKind where
  | table
  | array
  deriving DecidableEq, Repr

/-- What the pass knows between two characters. -/
structure Pass where
  /-- The text passed, the nearest character first. Behind the first character the text goes
  round: its own end stands there. -/
  behind : Text
  /-- The quote of the string that is open. -/
  quote : Option Char := none
  multiline : Bool := false
  /-- Open brackets of arrays; negative after a bracket too many. -/
  arrays : Int := 0
  header : Option HeaderKind := none
  lineStart : Bool := true
  key : KeyPart := .outside
  /-- Whether the key has a point. -/
  dotted : Bool := false
  comment : Bool := false

namespace Pass

def push (s : Pass) (c : Char) : Pass := { s with behind := c :: s.behind }

/-! ### Keys -/

def isKeyChar (c : Char) : Bool := Unicode.isLetterOrNumber c || c = '_' || c = '-'

/-- Only an equals sign ends a key. -/
def endKey (s : Pass) (c : Char) : Except DocumentError Pass :=
  if c = '=' then .ok { s.push c with key := .outside, dotted := false } else .error .malformed

/-- Whether the next word of a key starts right after a point or blank. -/
def resumeKey (s : Pass) : Option Char → Except DocumentError Pass
  | none => .error .incomplete
  | some c => .ok (if isBlank c || c = '.' then s else { s with key := .word })

/-- A character of a key, or of what stands between a key and its equals sign. -/
def keyStep (s : Pass) (c : Char) (next : Option Char) : Except DocumentError Pass :=
  if c = '\n' then .error .malformed
  else match s.quote, s.key with
    | some q, _ =>
      if c = q && !escapesNext s.behind then .ok { s.push c with quote := none, key := .behind }
      else .ok (s.push c)
    | none, .word =>
      if isBlank c then .ok { s.push c with key := .behind }
      else if c = '.' then .ok { s.push c with dotted := true }
      else if isKeyChar c then .ok (s.push c)
      else if s.dotted && s.behind.head? = some '.' && isStringDelimiter c then
        .ok { s.push c with quote := some c }
      else s.endKey c
    | none, _ =>
      if isBlank c then
        if s.dotted then (s.push c).resumeKey next else .ok (s.push c)
      else if c = '.' then { s.push c with dotted := true }.resumeKey next
      else s.endKey c

/-! ### Quotes, brackets and line ends -/

/-- A quote opens a string or closes one; a third quote in a row opens or closes a string of
several lines. Double quotes can be escaped, except for the second of two. -/
def quoteStep (s : Pass) (c : Char) : Pass :=
  if s.quote.any (· ≠ c) then s
  else
    let before := ((s.behind.take 2).takeWhile (· = c)).length
    if c = Text.doubleQuote && before ≠ 1 && escapesNext (s.behind.drop before) then s
    else if before = 2 then
      { s with multiline := !s.multiline, quote := if s.multiline then none else some c }
    else { s with quote := if s.quote.isSome then none else some c }

def openBracket (s : Pass) (next : Option Char) : Pass :=
  if s.quote.isSome || s.header.isSome then s
  else if s.lineStart then
    { s with header := some (if next = some '[' then .array else .table) }
  else { s with arrays := s.arrays + 1 }

def closeBracket (s : Pass) : Pass :=
  if s.quote.isSome then s
  else match s.header with
    | some .table => { s with header := none }
    | some .array => if s.behind.head? = some ']' then { s with header := none } else s
    | none => { s with arrays := s.arrays - 1 }

/-- The line end right after two quotes of a string of several lines is no part of its text: a
quote takes its place, and a third quote before the two gives way to a blank. -/
def joinOpeningQuotes : Text → Text
  | a :: b :: c :: rest =>
    if isStringDelimiter a && a = b then a :: a :: b :: (if c = a then ' ' else c) :: rest
    else '\n' :: a :: b :: c :: rest
  | behind => '\n' :: behind

def lineEnd (s : Pass) : Except DocumentError Pass :=
  if s.quote.isSome && !s.multiline then .error .malformed
  else if s.multiline then .ok { s with behind := joinOpeningQuotes s.behind }
  else if s.arrays ≠ 0 then .ok (s.push ' ')
  else .ok { s.push '\n' with lineStart := true }

/-- The first character of a line that is no blank starts a key, unless it opens a header. It
may be any character but an equals sign. -/
def startLine (s : Pass) (c : Char) : Except DocumentError Pass :=
  if !s.lineStart || c = ' ' || c = '\t' then .ok s
  else if s.header.isSome then .ok { s with lineStart := false }
  else if c = '=' then .error .malformed
  else .ok { s with lineStart := false, key := .word }

/-! ### The pass -/

def step (s : Pass) (c : Char) (next : Option Char) : Except DocumentError Pass :=
  if s.comment && c ≠ '\n' then .ok (s.push ' ')
  else if s.key ≠ .outside then s.keyStep c next
  else if c = '\n' then { s with comment := false }.lineEnd
  else if c = '#' && s.quote.isNone && s.header.isNone then
    .ok { s.push ' ' with comment := true }
  else do
    let s' :=
      if isStringDelimiter c then s.quoteStep c
      else if c = '[' then s.openBracket next
      else if c = ']' then s.closeBracket
      else s
    return (← s'.startLine c).push c

def run (s : Pass) : Text → Except DocumentError Pass
  | [] => if s.key ≠ .outside || s.quote.isSome then .error .malformed else .ok s
  | c :: rest => do (← s.step c rest.head?).run rest

end Pass

/-- The lines of a document. -/
def documentLines (t : Text) : Except DocumentError (List Text) := do
  let s ← Pass.run { behind := t.reverse } t
  return (s.behind.take t.length).reverse.splitOn '\n'

end TextScan.Toml
