import TextScan.Log
import TextScan.Predicate
import TextScan.Scanner.Number

/-!
# Sessions

A session is a scanner under way, with the positions stored under names and the log. `Step`
lists what can be done with it, `Session.step` does one thing and `Session.run` one after the
other; a step that fails is reported and the session goes on.
-/

namespace TextScan

/-! ### Places -/

/-- A place in a source as a caller may give it: a position made of a value, or a value. -/
inductive PlaceArgument where
  | position (index : Value)
  | value (v : Value)

/-- A place after its position, if it is one, has been made. -/
inductive Place where
  | position (p : Position)
  | value (v : Value)

def PlaceArgument.make : PlaceArgument → Except Fault Place
  | .position index => (Position.ofValue index).map .position
  | .value v => .ok (.value v)

namespace Place

/-- The place as the start of a scanner: a position or an integer, and a truth value is none. -/
def startIndex : Place → Except Fault Int
  | .position p => .ok p.index
  | .value (.int n) => .ok n
  | .value v => .error (.ofInvalid (.startNotIndex v.typeName))

/-- The whole part of a number; an infinite one has none. -/
def wholePart : Binary64 → Except Fault Int
  | .nan => .error (.ofInvalid .notANumber)
  | x =>
    match x.truncate with
    | some n => .ok n
    | none => .error .tooLarge

def readIndex (t : CodePoints) : Except Fault Int := (Config.readInteger t).mapError .ofInvalid

/-- The place as the start of a span: whatever can be converted to an integer. -/
def spanIndex : Place → Except Fault Int
  | .position p => .ok p.index
  | .value (.bool b) => .ok b.toInt
  | .value (.int n) => .ok n
  | .value (.float x) => wholePart x
  | .value (.text t) => readIndex (.ofText t)
  | .value (.brokenText t) => readIndex t
  | .value _ => .error .unsupportedType

end Place

/-! ### Steps -/

inductive Step where
  | peek
  | read
  | advance
  | skipWhitespace
  | isAtEnd
  | consumeRemaining
  | expect (atom : Text)
  | nextEquals (atom : Text)
  | advanceWhile (p : Predicate)
  | advanceUntil (p : Predicate)
  | consumeWhile (p : Predicate)
  | consumeUntil (p : Predicate)
  | peekMatches (p : Predicate)
  /-- Without options those of the configuration count. -/
  | advanceIfEquals (literal : Text) (options : Option OptionsArgument)
  | parseInt (skip : Option Bool)
  | parseIntString (skip : Option Bool)
  | parseFloatString (skip : Option Bool)
  | span (start : PlaceArgument)
  | mark (name : Text)
  | spanMark (name : Text)
  | codeUnitOffset (encoding : Text)
  | endIndex
  | source
  | display
  | config
  | peekUnchecked
  | advanceUnchecked
  | newAt (start : PlaceArgument)
  | setSkip (b : Bool)
  | setIntBits (bits : Option Int)
  | setCompare (options : OptionsArgument)

/-- What a step answers. -/
inductive Answer where
  | nothing
  | flag (b : Bool)
  | text (t : Text)
  /-- A number that was read. -/
  | number (n : Nat)
  /-- A place or a length. -/
  | index (n : Nat)
  | line (s : String)
  /-- The settings, as one line as well, and the ends of the range of integers. -/
  | config (c : Config) (line : String) (range : Option (Text × Text))
  deriving DecidableEq

structure Session where
  scanner : Scanner
  marks : List (Text × Position)
  log : Log

namespace Session

/-! ### Starting -/

/-- What is logged when a scanner starts elsewhere than at the beginning of its source. -/
def startLog (s : Scanner) : Log :=
  if s.cursor = 0 then []
  else [⟨.debug, s!"Scanner resuming at position {s.cursor} of {s.endIndex}"⟩]

/-- The session that a scanner starts. -/
def ofScanner (s : Scanner) : Session := ⟨s, [], startLog s⟩

def sourceText : Value → Except Fault Text
  | .text t => .ok t
  | v => .error (.sourceType v.typeName)

def startAt (source : Text) (place : Place) (config : Config) : Except Fault Scanner := do
  let index ← place.startIndex
  Scanner.startAt source index config

/-- Starts a session. The settings are read first, then the place, then the source. -/
def start (source : Value) (place : PlaceArgument) (settings : Option Value) :
    Except Fault Session := do
  let config ← match settings with
    | none => .ok Config.default
    | some v => Config.ofValue v
  let place ← place.make
  let source ← sourceText source
  let scanner ← startAt source place config
  return ofScanner scanner

/-! ### Going on -/

/-- The session with a scanner that has moved. -/
def withScanner (s : Session) (scanner : Scanner) : Session := { s with scanner := scanner }

/-- Carries out an operation of the scanner as a step. -/
def perform {α : Type} (s : Session) (answer : α → Answer) (m : Scan α) :
    Except Fault Answer × Session :=
  ((s.scanner.run m).1.map answer, s.withScanner (s.scanner.run m).2)

def configAnswer (c : Config) : Except Fault Answer := do
  let line ← c.display
  let range ← c.writtenRange
  return .config c line range

def spanFrom (s : Session) (place : Place) : Except Fault Answer := do
  let start ← place.spanIndex
  (s.scanner.span start).map .text

/-- Starts again at another place of the same source, or stays if there is no such place. -/
def restart (s : Session) (place : PlaceArgument) : Except Fault Session := do
  let place ← place.make
  let scanner ← startAt s.scanner.source place s.scanner.config
  return { s with scanner := scanner, log := s.log ++ startLog scanner }

def configure (s : Session) (change : Config → Config) : Session :=
  s.withScanner { s.scanner with config := change s.scanner.config }

def character (c : Char) : Answer := .text [c]

def done (_ : Unit) : Answer := .nothing

def step (s : Session) : Step → Except Fault Answer × Session
  | .peek => s.perform character Scanner.peek
  | .read => s.perform character Scanner.read
  | .advance => s.perform done Scanner.advance
  | .skipWhitespace => s.perform done Scanner.skipWhitespace
  | .isAtEnd => (.ok (.flag s.scanner.isAtEnd), s)
  | .consumeRemaining => s.perform .text Scanner.consumeRemaining
  | .expect atom => s.perform done (Scanner.expect atom)
  | .nextEquals atom => s.perform .flag (Scanner.nextEquals atom)
  | .advanceWhile p => s.perform done (Scanner.advanceWhile p.test)
  | .advanceUntil p => s.perform done (Scanner.advanceUntil p.test)
  | .consumeWhile p => s.perform .text (Scanner.consumeWhile p.test)
  | .consumeUntil p => s.perform .text (Scanner.consumeUntil p.test)
  | .peekMatches p => s.perform .flag (Scanner.peekMatches p.test)
  | .advanceIfEquals literal options =>
    s.perform .flag (Scanner.advanceIfEquals literal options)
  | .parseInt skip => s.perform .number (Scanner.parseInt skip)
  | .parseIntString skip => s.perform .text (Scanner.parseIntString skip)
  | .parseFloatString skip => s.perform .text (Scanner.parseFloatString skip)
  | .span start => (start.make >>= s.spanFrom, s)
  | .mark name => (.ok .nothing, { s with marks := (name, s.scanner.position) :: s.marks })
  | .spanMark name =>
    match s.marks.lookup name with
    | some p => (s.spanFrom (.position p), s)
    | none => (.error (.unknownMark name), s)
  | .codeUnitOffset encoding => ((s.scanner.codeUnitOffset encoding).map .index, s)
  | .endIndex => (.ok (.index s.scanner.endIndex), s)
  | .source => (.ok (.text s.scanner.source), s)
  | .display => (.ok (.line s.scanner.display), s)
  | .config => (configAnswer s.scanner.config, s)
  | .peekUnchecked => s.perform character Scanner.peekUnchecked
  | .advanceUnchecked => s.perform done Scanner.advanceUnchecked
  | .newAt start =>
    match s.restart start with
    | .ok t => (.ok .nothing, t)
    | .error e => (.error e, s)
  | .setSkip b => (.ok .nothing, s.configure fun c => { c with skipWhitespace := b })
  | .setIntBits bits => (.ok .nothing, s.configure fun c => { c with intBits := bits })
  | .setCompare options =>
    match CompareOptions.ofArgument options with
    | .ok o => (.ok .nothing, s.configure fun c => { c with options := o })
    | .error v => (.error (.ofInvalid v), s)

/-! ### Runs -/

/-- The outcome of one step and the state it left. -/
structure Report where
  result : Except Fault Answer
  cursor : Nat
  atEnd : Bool

def report (s : Session) (st : Step) : Report × Session :=
  let (r, after) := s.step st
  (⟨r, after.scanner.cursor, after.scanner.isAtEnd⟩, after)

/-- Takes steps one after the other, whatever comes of each. -/
def run (s : Session) : List Step → List Report × Session
  | [] => ([], s)
  | st :: rest =>
    let (first, after) := s.report st
    let (reports, last) := run after rest
    (first :: reports, last)

end Session

end TextScan
