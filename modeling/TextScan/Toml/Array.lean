import TextScan.Text.Blank
import TextScan.Toml.Basic

/-!
# Items of an array

An array stands in brackets on one line; its last character is taken for the bracket that closes
it. What its first item is decides where the items end: arrays are cut at the commas outside of
inner brackets, tables at their braces, and anything else at every comma, after which the pieces
of a string are joined again.
-/

namespace TextScan.Toml

def startsQuoted (t : Text) : Bool := t.head?.any isStringDelimiter

/-- Whether the first item of an array is a string. -/
def isStringArray (array : Text) : Bool := startsQuoted (Text.trim (inside array))

/-! ### Arrays of arrays -/

/-- Cuts at the commas at depth zero. `part` is the item so far, the last character first. -/
def cutNested (depth : Int) (part : Text) : Text → List Text
  | [] => [part.reverse]
  | c :: rest =>
    if c = ',' && depth = 0 then part.reverse :: cutNested 0 [] rest
    else
      let depth := if c = '[' then depth + 1 else if c = ']' then depth - 1 else depth
      cutNested depth (c :: part) rest

/-! ### Arrays of tables -/

inductive TablePlace where
  /-- In a table, with the text of it so far, the last character first. -/
  | within (text : Text) (quoted : Bool)
  /-- Right behind the brace that closes a table. -/
  | closed
  | between

/-- The tables ahead. `depth` counts the open braces; once a table is closed the brace that
opens the next one is not counted again. -/
def cutTables (depth : Nat) (place : TablePlace) : Text → List Text
  | [] => []
  | c :: rest =>
    match place with
    | .closed => cutTables depth .between rest
    | .between => cutTables depth (if c = '\x7b' then .within [c] false else .between) rest
    | .within text quoted =>
      let quoted := if isStringDelimiter c then !quoted || escapesNext text else quoted
      let depth := if !quoted && c = '\x7b' then depth + 1 else depth
      if quoted || c ≠ '\x7d' then cutTables depth (.within (c :: text) quoted) rest
      else if 1 < depth then cutTables (depth - 1) (.within (c :: text) quoted) rest
      else (c :: text).reverse :: cutTables depth .closed rest

/-- The tables in the text between the brackets of an array. -/
def tablesIn : Text → List Text
  | [] => []
  | c :: rest => cutTables (if c = '\x7b' then 1 else 0) (.within [c] false) rest

/-! ### Arrays of strings -/

/-- Whether a piece is a whole string, with a closing quote like its opening one. A piece that
opens with three quotes needs as many at its end. -/
def isWholeString (t : Text) : Bool :=
  let last := t.reverse
  match t, last with
  | q :: a :: b :: _, e :: y :: x :: _ =>
    e = q && !escapesNext (last.drop 1).dropLast && !(q = a && a = b && y ≠ q && x ≠ q)
  | q :: _, e :: _ => e = q && !escapesNext (last.drop 1).dropLast
  | _, _ => true

/-- Joins pieces with a comma until each of them is a whole string; the last one need not be, if
nothing was joined to it. -/
def joinStrings : List Text → Except DocumentError (List Text)
  | [] => .ok []
  | [t] => .ok [t]
  | t :: u :: rest =>
    if isWholeString t.trim then do return t :: (← joinStrings (u :: rest))
    else
      let joined := t ++ ',' :: u
      if rest.isEmpty then
        if isWholeString joined.trim then .ok [joined] else .error .incomplete
      else joinStrings (joined :: rest)
termination_by pieces => pieces.length

/-! ### Arrays of any kind -/

/-- The items of an array; blank ones count for nothing. -/
def arrayItems (array : Text) : Except DocumentError (List Text) := do
  let body : Text := inside array
  let items ←
    if body.contains '[' && (Text.trim (body.takeWhile (· ≠ '['))).isEmpty then
      .ok (cutNested 0 [] body)
    else if body.trim.head? = some '\x7b' then .ok (tablesIn body)
    else if isStringArray array then joinStrings (body.splitOn ',')
    else .ok (body.splitOn ',')
  return (items.map Text.trim).filter (!·.isEmpty)

end TextScan.Toml
