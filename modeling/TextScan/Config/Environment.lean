import TextScan.Config.Basic
import TextScan.Log

/-!
# Configuration from the environment

Each of three environment variables sets one field. A value that cannot be read is reported as a
warning and its field keeps the default, so reading the environment always succeeds.
-/

namespace TextScan

/-- The values of the three variables, where they are set. Bytes that stand for no character, which
a process can also be given, are left out of account. -/
structure Environment where
  skipWhitespace : Option Text
  options : Option Text
  intBits : Option Text
  deriving DecidableEq, Repr

namespace Environment

def skipVariable : String := "SCANLEX_SKIP_WHITESPACE"

def optionsVariable : String := "SCANLEX_COMPARE_OPTIONS"

def bitsVariable : String := "SCANLEX_INT_BITS"

/-- The warning about a variable that cannot be read. -/
def warning (key : String) (raw : Text) (reason : String) : LogEntry :=
  ⟨.warning, s!"Ignoring {key}={String.ofList raw.quoted}: {reason}"⟩

/-- Reads one variable, or keeps the default, with a warning if it is set. -/
def readField {α : Type} (read : Value → Except InvalidValue α) (fallback : α)
    (key : String) (reason : InvalidValue → String) : Option Text → α × Log
  | none => (fallback, [])
  | some raw =>
    match read (.text raw) with
    | .ok a => (a, [])
    | .error e => (fallback, [warning key raw (reason e)])

def readSkip (env : Environment) : Bool × Log :=
  readField Config.readBool Config.default.skipWhitespace skipVariable
    (fun _ => "not a boolean.") env.skipWhitespace

def readOptions (env : Environment) : CompareOptions × Log :=
  readField CompareOptions.readValue Config.default.options optionsVariable
    (fun e => String.ofList e.message.plain) env.options

def readBits (env : Environment) : Option Int × Log :=
  readField Config.readBits Config.default.intBits bitsVariable
    (fun _ => "expected a width of at least 2 or 'none'.") env.intBits

end Environment

namespace Config

def ofEnvironment (env : Environment) : Config × Log :=
  let (skip, skipLog) := env.readSkip
  let (options, optionsLog) := env.readOptions
  let (bits, bitsLog) := env.readBits
  let c : Config := ⟨skip, options, bits⟩
  let loaded : LogEntry := ⟨.debug, s!"ScannerConfig loaded from environment: {c.summary}"⟩
  (c, skipLog ++ optionsLog ++ bitsLog ++ [loaded])

end Config

end TextScan
