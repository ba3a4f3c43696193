import TextScan.Toml.Entry
import TextScan.Toml.Line

/-!
# Documents

A document is read line by line. A header opens a table, and the entries that follow go into it;
an array of tables stands for its last one. Each entry is given once, and so is each header; but
a table that came about as the parent of another one can still get a header. Which tables came
about like that is remembered by name, wherever in the document they are.
-/

namespace TextScan.Toml

/-! ### The open table -/

/-- A way down from a value. -/
inductive Step where
  | entry (name : Text)
  /-- To the last item of a list. -/
  | last
  deriving DecidableEq, Repr

/-- Changes the value at the end of a path that exists. -/
def changeAt {α : Type} (f : Value → Except DocumentError (Value × α)) :
    List Step → Value → Except DocumentError (Value × α)
  | [], v => f v
  | .entry name :: path, .table t =>
    match t.lookup name with
    | none => .error .malformed
    | some v => (changeAt f path v).map fun (v, a) => (.table (put name v t), a)
  | .last :: path, .list items =>
    match items.getLast? with
    | none => .error .malformed
    | some v => (changeAt f path v).map fun (v, a) => (.list (items.dropLast ++ [v]), a)
  | _, _ => .error .malformed

/-- A tree after a header, with the path to the table that is open now and the names of the
tables that came about as parents. -/
structure Opened where
  tree : Value
  path : List Step
  implicit : List Text

/-- What a header makes of the table it names, if there was none. -/
def fresh (kind : HeaderKind) (isLast : Bool) : Value :=
  if isLast && kind = .array then .list [.table []] else .table []

/-- The error of a second header for a table, whose message shows the table around it. -/
def duplicateHeader (around : Table) : DocumentError :=
  match (Value.table around).checkWrite with
  | .ok () => .malformed
  | .error e => .unwritable e

/-- What stands under a name on the path of a header after it, and the names of the parents. -/
def childOf (kind : HeaderKind) (isLast : Bool) (implicit : List Text) (name : Text)
    (t : Table) : Except DocumentError (Value × List Text) :=
  match t.lookup name with
  | none => .ok (fresh kind isLast, if isLast then implicit else implicit ++ [name])
  | some v =>
    if !isLast then .ok (v, implicit)
    else if implicit.contains name then
      if kind = .array then .error .malformed else .ok (v, implicit.erase name)
    else
      match kind, v with
      | .table, _ => .error (duplicateHeader t)
      | .array, .list items => .ok (.list (items ++ [.table []]), implicit)
      | .array, _ => .error .noTable

/-- Goes on at a child. On the path of an array of tables a list stands for its last item. -/
def goOn (kind : HeaderKind) (f : Value → Except DocumentError Opened) :
    Value → Except DocumentError Opened
  | .list items =>
    if kind = .table then f (.list items)
    else match items.getLast? with
      | none => .error .incomplete
      | some v => (f v).map fun o =>
        { o with tree := .list (items.dropLast ++ [o.tree]), path := .last :: o.path }
  | .text [] => if kind = .table then f (.text []) else .error .incomplete
  | .table t => f (.table t)
  | .text t => f (.text t)
  | v => if kind = .table then f v else .error .noTable

/-- Follows the names of a header down from a value. -/
def openHeader (kind : HeaderKind) : List Text → List Text → Value → Except DocumentError Opened
  | [], implicit, v => .ok ⟨v, [], implicit⟩
  | name :: rest, implicit, v =>
    if name.isEmpty then .error .malformed
    else
      match v with
      | .table t => do
        let (child, implicit) ← childOf kind rest.isEmpty implicit name t
        let o ← goOn kind (openHeader kind rest implicit) child
        return { o with tree := .table (put name o.tree t), path := .entry name :: o.path }
      | .list items =>
        match items.getLast? with
        | none => .error .incomplete
        | some (.table t) => do
          let child := (t.lookup name).getD (fresh kind rest.isEmpty)
          let o ← goOn kind (openHeader kind rest implicit) child
          return { o with
            tree := .list (items.dropLast ++ [.table (put name o.tree t)])
            path := .last :: .entry name :: o.path }
        | some _ => .error .noTable
      | .text [] => .error .incomplete
      | _ => .error .noTable

/-! ### Lines -/

/-- What has been read, with the path to the open table. -/
structure Draft where
  tree : Value
  path : List Step
  implicit : List Text
  string : Option OpenString

namespace Draft

def empty : Draft := ⟨.table [], [], [], none⟩

/-- Does something to the open table. -/
def change {α : Type} (d : Draft) (f : Value → Except DocumentError (Value × α)) :
    Except DocumentError (Draft × α) := do
  let (tree, a) ← changeAt f d.path d.tree
  return ({ d with tree := tree }, a)

/-- Sets an entry of the open table, also one that is there. -/
def setEntry (d : Draft) (key : Text) (v : Value) : Except DocumentError Draft := do
  let (d, _) ← d.change fun
    | .table t => .ok (.table (put key v t), ())
    | _ => .error .noTable
  return d

/-! ### Strings of several lines -/

/-- Whether a line ends the string that started before it. A string in an array ends with the
line that ends the array. -/
def endsString (text line : Text) : Except DocumentError Bool :=
  match text.head?, line.getLast? with
  | some '[', none => .error .incomplete
  | some '[', some c => .ok (c = ']')
  | some q, _ => .ok (2 < line.length && (line.reverse.take 3).all (· = q))
  | none, _ => .ok false

/-- The next line of an open string. -/
def continueString (d : Draft) (s : OpenString) (line : Text) : Except DocumentError Draft := do
  let text := s.text ++ line
  if ← endsString text line then
    let d := { d with string := none }
    d.setEntry s.key (← readValue true text)
  else if endsInEscape text then
    return { d with string := some ⟨s.key, text.dropLast, true⟩ }
  else return { d with string := some ⟨s.key, text ++ ['\n'], false⟩ }

/-- Blanks around a line count for nothing, except inside a string that goes on. -/
def trimLine (d : Draft) (line : Text) : Text :=
  match d.string with
  | none => line.trim
  | some s => if s.joined || !s.text.contains '\n' then line.trim else line

/-! ### Headers, entries and inline tables -/

def readHeaderLine (d : Draft) (line : Text) : Except DocumentError Draft := do
  let (kind, names) ← match line with
    | '[' :: '[' :: rest => do
      pure (HeaderKind.array, ← malformedIfNone (readHeader? [']', ']'] rest))
    | _ => do
      pure (HeaderKind.table, ← malformedIfNone (readHeader? [']'] (line.drop 1)))
  let o ← openHeader kind names d.implicit d.tree
  return { d with tree := o.tree, path := o.path, implicit := o.implicit }

/-- The entries of an inline table that has no key go into the open table. -/
def readInlineLine (d : Draft) (line : Text) : Except DocumentError Draft := do
  if line.getLast? ≠ some '\x7d' then .error .malformed
  else
    let entries ← inlineEntries line
    let (d, _) ← d.change fun v => do
      return (← readEntries (readEntry readValue) entries v, ())
    return d

def readEntryLine (d : Draft) (line : Text) : Except DocumentError Draft := do
  let (d, string) ← d.change (readEntry readValue line)
  return { d with string := string }

/-! ### Documents -/

/-- A line that is no header and has no equals sign counts for nothing. -/
def readLine (d : Draft) (line : Text) : Except DocumentError Draft :=
  let line := d.trimLine line
  match d.string, line with
  | none, [] => .ok d
  | none, c :: rest =>
    if c = '[' then d.readHeaderLine (c :: rest)
    else if c = '\x7b' then d.readInlineLine (c :: rest)
    else if c = '=' || rest.contains '=' then d.readEntryLine (c :: rest)
    else .ok d
  | some s, line => if line.isEmpty && s.joined then .ok d else d.continueString s line

end Draft

/-- The table that a document describes. A string left open at its end is dropped. -/
def readDocument (t : Text) : Except DocumentError Table := do
  let d ← (← documentLines t).foldlM Draft.readLine .empty
  match d.tree with
  | .table t => return t
  | _ => .error .malformed

end TextScan.Toml
