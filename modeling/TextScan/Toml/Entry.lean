import TextScan.Toml.Array
import TextScan.Toml.Key
import TextScan.Toml.Moment
import TextScan.Toml.Number

/-!
# Values and entries

An entry is a key and a value with an equals sign between them. Which equals sign that is
depends on the value: a number, date or time right behind the sign has to be readable, or else
the next sign is tried. A value is told by its first character; arrays and inline tables are cut
into the texts of their parts, which are read in turn.
-/

namespace TextScan.Toml

/-! ### Key and value of an entry -/

/-- An entry before its value is read. -/
structure RawEntry where
  key : Text
  value : Text
  /-- Whether the value has the form that a number in an entry must have. -/
  strict : Bool

/-- Whether nothing tells what kind of value the text is. -/
def isUnmarked (t : Text) : Bool :=
  t.head?.any (fun c => !([' ', '\t', '[', '\x7b'].contains c || isStringDelimiter c)) &&
    t.trim ≠ "true".toList && t.trim ≠ "false".toList

def isPlainValue (t : Text) : Bool :=
  (Binary64.read? t).isSome || (date? t).isSome || isTimeForm t

/-- Moves the cut behind `n` equals signs on until the value can be read. The first number
bounds the moves. -/
def settleCut (pieces : List Text) : Nat → Nat → Text → Bool → Except DocumentError RawEntry
  | 0, _, _, _ => .error .malformed
  | fuel + 1, n, value, strict =>
    if isUnmarked value && !isPlainValue value then
      let next := (Text.cutParts ['='] (n + 1) pieces).2
      if next = value then .error .malformed
      else settleCut pieces fuel (n + 1) next (strict && isStrictNumber next)
    else .ok ⟨(Text.cutParts ['='] n pieces).1.trim, value.trim, strict⟩

/-- Cuts an entry at its first equals sign outside quotes, or after it where the value asks for
that. Underscores in a value that starts with a digit are dropped. -/
def cutEntry (line : Text) : Except DocumentError RawEntry :=
  let pieces := line.splitOn '='
  let n := marksQuoted ['='] line + 1
  let value := (Text.cutParts ['='] n pieces).2
  let plain := if value.head?.any isDigit then value.filter (· ≠ '_') else value
  settleCut pieces (pieces.length + 2) n plain (isStrictNumber value)

/-! ### Strings that go on in the next line -/

/-- A string of several lines that is still open. -/
structure OpenString where
  key : Text
  /-- The text so far, from its opening quotes or those of its array on. -/
  text : Text
  /-- Whether the last line ended in a backslash, which joins the next line to it. -/
  joined : Bool

/-- The last string in an array, given the pieces between its commas, the last one first. -/
def lastString : List Text → Except DocumentError Text
  | [] => .ok []
  | [t] => .ok t
  | t :: u :: rest =>
    if t.isEmpty then .error .incomplete
    else if startsQuoted t then .ok t
    else lastString ((u ++ ',' :: t) :: rest)
termination_by pieces => pieces.length

/-- Whether a text opens with three quotes and does not end with another three. -/
def isOpenString (t : Text) : Bool :=
  match t with
  | q :: a :: b :: _ =>
    isStringDelimiter q && a = q && b = q &&
      !(5 < t.length && (t.reverse.take 3).all (· = q))
  | _ => false

/-- The part of a value that a string of several lines would start. -/
def stringPart (value : Text) : Except DocumentError Text :=
  if value.head? = some '[' && value.getLast? ≠ some ']' && isStringArray value then do
    let t ← lastString ((Text.trim (value.drop 1)).splitOn ',').reverse
    match t with
    | [_] => .error .incomplete
    | [q, a] => if a = q then .error .incomplete else .ok t
    | _ => .ok t
  else .ok value

/-- The string that a value leaves open. -/
def openString? (key value : Text) : Except DocumentError (Option OpenString) := do
  if value.length < 3 then return none
  else
    let part ← stringPart value
    if !isOpenString part then return none
    else if endsInEscape part then return some ⟨key, value.dropLast, true⟩
    else return some ⟨key, value ++ ['\n'], false⟩

/-! ### Tables -/

/-- Sets an entry; a new one comes last. -/
def put (key : Text) (v : Value) (t : Table) : Table :=
  if (t.lookup key).isSome then t.map fun (k, w) => if k = key then (k, v) else (k, w)
  else t ++ [(key, v)]

/-- Does something at the end of a path; the tables missing on the way are made. -/
def atParents {α : Type} (f : Value → Except DocumentError (Value × α)) :
    List Text → Value → Except DocumentError (Value × α)
  | [], v => f v
  | name :: rest, .table t => do
    let (sub, a) ← atParents f rest ((t.lookup name).getD (.table []))
    return (.table (put name sub t), a)
  | _ :: _, _ => .error .noTable

/-- The table that an entry goes into, which does not have it yet. -/
def tableWithout (key : Text) : Value → Except DocumentError Table
  | .table t => if (t.lookup key).isSome then .error .malformed else .ok t
  | _ => .error .malformed

/-! ### Inline tables -/

def startsInline (c : Char) : Bool := isDigit c || c = '-'

def isEnclosed (t : Text) : Bool :=
  match t, t.getLast? with
  | '[' :: _, some ']' => true
  | '\x7b' :: _, some '\x7d' => true
  | c :: _, some d => isStringDelimiter c && d = c
  | _, _ => false

/-- Whether a piece of an inline table is an entry of its own. -/
def isWholeEntry (entry : Text) : Except DocumentError Bool := do
  if !entry.contains '=' then .error .malformed
  else
    let value := Text.trim ((entry.dropWhile (· ≠ '=')).drop 1)
    match value with
    | [] => .error .incomplete
    | c :: _ =>
      return isEnclosed value || startsInline c || value = "true".toList || value = "false".toList

/-- Joins the pieces between commas until each of them is an entry. -/
def joinEntries : List Text → Except DocumentError (List Text)
  | [] => .ok []
  | [entry] => do if ← isWholeEntry entry then return [entry] else .error .malformed
  | entry :: next :: rest => do
    if ← isWholeEntry entry then return entry :: (← joinEntries (next :: rest))
    else joinEntries ((entry ++ ',' :: next) :: rest)
termination_by pieces => pieces.length

/-- The entries in an inline table, given with its braces. -/
def inlineEntries (t : Text) : Except DocumentError (List Text) :=
  match (inside t).splitOn ',' with
  | [entry] => if (Text.trim entry).isEmpty then .ok [] else joinEntries [entry]
  | pieces => joinEntries pieces

/-- Reads the entries in turn into a table, up to one that leaves a string open. -/
def readEntries (read : Text → Value → Except DocumentError (Value × Option OpenString)) :
    List Text → Value → Except DocumentError Value
  | [], v => .ok v
  | entry :: rest, v => do
    match ← read entry v with
    | (v, none) => readEntries read rest v
    | (v, some _) => return v

/-! ### Values -/

/-- The items of an array are of one type. A date and a date with a time have the same one. -/
def sameType : Value → Value → Bool
  | .moment (.time _), .moment (.time _) => true
  | .moment (.time _), .moment _ => false
  | .moment _, .moment (.time _) => false
  | .moment _, .moment _ => true
  | v, w => v.typeName = w.typeName

/-- A truth value, number, date or time. -/
def readPlain (strict : Bool) (t : Text) : Except DocumentError Value :=
  if t = "true".toList then .ok (.bool true)
  else if t = "false".toList then .ok (.bool false)
  else if ["true", "false"].contains (String.ofList (Text.lowerAscii t)) then .error .malformed
  else if isTimeForm t then malformedIfNone ((time? t).map fun m => .moment (.time m))
  else match date? t with
    | some m => .ok (.moment m)
    | none => if strict then malformedIfNone (number? t) else .error .malformed

/-- Reads an entry into a table, unless its value is a string that goes on in the next line. -/
def readEntry (read : Bool → Text → Except DocumentError Value) (line : Text) (table : Value) :
    Except DocumentError (Value × Option OpenString) := do
  let entry ← cutEntry line
  let path ← readKey entry.key
  atParents (fun t => do
    match ← openString? path.name entry.value with
    | some s =>
      let t ← tableWithout path.name t
      if path.name.isEmpty then .error .namelessString else return (.table t, some s)
    | none =>
      let v ← read entry.strict entry.value
      return (.table (put path.name v (← tableWithout path.name t)), none)) path.parents table

/-- Reads an item of an array behind those that have been read. -/
def readItem (read : Text → Except DocumentError Value) (values : List Value) (item : Text) :
    Except DocumentError (List Value) := do
  let v ← read item
  if values.head?.all (sameType v) then return values ++ [v] else .error .malformed

/-- A value, in a place where values may still be nested so deep. An array takes two levels, an
inline table with its entries three. -/
def readValueAt : Nat → Bool → Text → Except DocumentError Value
  | _, _, [] => .error .malformed
  | depth, strict, c :: rest =>
    if isStringDelimiter c then readString (c :: rest)
    else if c = '[' then
      match depth with
      | depth + 2 => do
        return .list (← (← arrayItems (c :: rest)).foldlM (readItem (readValueAt depth true)) [])
      | _ => .error .tooDeep
    else if c = '\x7b' then
      match depth with
      | depth + 3 => do
        readEntries (readEntry (readValueAt depth)) (← inlineEntries (c :: rest)) (.table [])
      | _ => .error .tooDeep
    else readPlain strict (c :: rest)

def readValue : Bool → Text → Except DocumentError Value := readValueAt Value.maxDepth

end TextScan.Toml
