/-!
# Log

What the library reports while it works, in order.
-/

namespace TextScan

inductive LogLevel where
  | debug
  | warning
  deriving DecidableEq, Repr

structure LogEntry where
  level : LogLevel
  text : String
  deriving DecidableEq, Repr

abbrev Log := List LogEntry

end TextScan
