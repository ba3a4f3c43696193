import TextScan.Numeral.Real
import TextScan.Value

/-!
# Dates and times in a document

The parts of a date stand at fixed places of the text, whatever stands between them. A time is
recognised by its first eight characters.
-/

namespace TextScan.Toml

/-- The characters from one place up to another. -/
def slice (start stop : Nat) (t : Text) : Text := (t.take stop).drop start

def integerAt? (start stop : Nat) (t : Text) : Option Int :=
  (Integer.read (slice start stop t)).toOption

/-! ### Times -/

/-- Two digits at a place, as a number. -/
def twoDigits? (start : Nat) (t : Text) : Option Int :=
  let digits := slice start (start + 2) t
  if digits.length = 2 && digits.all isDigit then some (Integer.ofAsciiDigits digits) else none

/-- The number after the point of a time, from its first six digits; it has three at least. -/
def fraction (t : Text) : Int :=
  let digits := ((t.drop 9).take 6).takeWhile isDigit
  if t[8]? = some '.' && 3 ≤ digits.length then Integer.ofAsciiDigits digits else 0

def isTimeForm (t : Text) : Bool :=
  (twoDigits? 0 t).isSome && t[2]? = some ':' && (twoDigits? 3 t).isSome && t[5]? = some ':' &&
    (twoDigits? 6 t).isSome

def time? (t : Text) : Option TimeOfDay := do
  TimeOfDay.ofNumbers? (← twoDigits? 0 t) (← twoDigits? 3 t) (← twoDigits? 6 t) (fraction t)

/-! ### Offsets and fractions of a second -/

/-- An offset from universal time in minutes, `Z` or a sign with hours and minutes. -/
def offset? (t : Text) : Option Int :=
  if t = ['Z'] then some 0
  else do
    let minutes := 60 * (← integerAt? 1 3 t) + (← integerAt? 4 6 t)
    return if t.head? = some '-' then -minutes else minutes

/-- The digits after the point and the offset after them. -/
def splitOffset (t : Text) : Text × Option Text :=
  if t.getLast?.any (·.toUpper = 'Z') then (t.dropLast, some ['Z'])
  else
    let mark := if t.contains '+' then '+' else '-'
    match t.dropWhile (· ≠ mark) with
    | [] => (t, none)
    | offset => (t.takeWhile (· ≠ mark), some offset)

/-- Digits after a point in millionths. -/
def microseconds? (digits : Text) : Option Int := do
  let n ← integerAt? 0 digits.length digits
  if digits.length ≤ 6 then return n * Nat.pow 10 (6 - digits.length)
  else return Int.tdiv n (Nat.pow 10 (digits.length - 6))

/-- The millionths and the offset from the twentieth character on. An offset that cannot be
read is none, and then there is no fraction either. -/
def timeTail (t : Text) : Int × Option Int :=
  match t with
  | [] => (0, none)
  | '.' :: rest =>
    match splitOffset rest with
    | (digits, none) => ((microseconds? digits).getD 0, none)
    | (digits, some offset) =>
      match offset? offset with
      | none => (0, none)
      | some minutes =>
        match microseconds? digits with
        | none => (0, none)
        | some micros => (micros, some minutes)
  | t => (0, offset? t)

/-! ### Dates -/

/-- A date, with a time of day if the text has not ten characters. -/
def date? (t : Text) : Option Moment := do
  if !(t.drop 1).contains '-' then none
  else
    let d ← Date.ofNumbers? (← integerAt? 0 4 t) (← integerAt? 5 7 t) (← integerAt? 8 10 t)
    if t.length = 10 then return .date d
    else
      let (micros, offset) := timeTail (t.drop 19)
      let time ← TimeOfDay.ofNumbers? (← integerAt? 11 13 t) (← integerAt? 14 16 t)
        (← integerAt? 17 19 t) micros
      return .dateTime d time offset

end TextScan.Toml
