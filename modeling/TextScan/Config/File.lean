import TextScan.Config.Basic
import TextScan.Log
import TextScan.Toml.Document

/-!
# Configuration from a file

A configuration file is a TOML document with the settings in its table `scanner`. Line ends may
be of any of the three usual kinds.
-/

namespace TextScan

/-- The text with every line end as one line feed. -/
def unifyLineEnds : Text → Text
  | [] => []
  | '\r' :: '\n' :: rest => '\n' :: unifyLineEnds rest
  | '\r' :: rest => '\n' :: unifyLineEnds rest
  | c :: rest => c :: unifyLineEnds rest

namespace Config

def readTable (content : Text) : Except Fault Table :=
  (Toml.readDocument (unifyLineEnds content)).mapError fun
    | .malformed => .malformedDocument
    | .incomplete => .outOfRange
    | .noTable => .unsupportedType
    | .tooLarge => .tooLarge
    | .tooDeep => .tooDeep
    | .namelessString => .namelessString
    | .unwritable e => .ofWriteError e

/-- The configuration in a document; without a table for it every setting has its default. -/
def ofDocument (content : Text) : Except Fault Config := do
  let t ← readTable content
  ofValue ((t.lookup "scanner".toList).getD (.table []))

/-- The configuration in the file at a path. `content` is what the file holds, if there is one.
The log shows the settings, so all of them have to be writable. -/
def ofFile (path : Text) (content : Option Text) : Except Fault (Config × Log) :=
  match content with
  | none => .error (.fileNotFound path)
  | some content => do
    let c ← ofDocument content
    (Value.table c.toTable).checkWrite.mapError .ofWriteError
    return (c, [⟨.debug, s!"ScannerConfig loaded from {String.ofList path}: {c.summary}"⟩])

end Config

end TextScan
