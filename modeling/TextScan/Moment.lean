import TextScan.Numeral.Integer

/-!
# Dates and times

A date of the calendar, a time of day, or both. The display is that of ISO 8601 with a blank
between date and time; the quoted form lists the parts as numbers and leaves out a second and a
fraction that are zero.
-/

namespace TextScan

structure Date where
  year : Nat
  month : Nat
  day : Nat
  deriving DecidableEq, Repr

structure TimeOfDay where
  hour : Nat
  minute : Nat
  second : Nat
  microsecond : Nat
  deriving DecidableEq, Repr

inductive Moment where
  | date (d : Date)
  | time (t : TimeOfDay)
  /-- The offset is that of local time from universal time, in minutes. -/
  | dateTime (d : Date) (t : TimeOfDay) (offset : Option Int)
  deriving DecidableEq, Repr

namespace Date

def isLeap (year : Nat) : Bool := year % 4 = 0 && (year % 100 ≠ 0 || year % 400 = 0)

def daysIn (year month : Nat) : Nat :=
  if month = 2 then (if isLeap year then 29 else 28)
  else if [4, 6, 9, 11].contains month then 30
  else 31

/-- The date with these numbers, if the calendar has it. -/
def ofNumbers? (year month day : Int) : Option Date :=
  if 1 ≤ year ∧ year ≤ 9999 ∧ 1 ≤ month ∧ month ≤ 12 ∧ 1 ≤ day ∧
      day ≤ daysIn year.toNat month.toNat then
    some ⟨year.toNat, month.toNat, day.toNat⟩
  else none

end Date

namespace TimeOfDay

def ofNumbers? (hour minute second microsecond : Int) : Option TimeOfDay :=
  if 0 ≤ hour ∧ hour < 24 ∧ 0 ≤ minute ∧ minute < 60 ∧ 0 ≤ second ∧ second < 60 ∧
      0 ≤ microsecond ∧ microsecond < 1000000 then
    some ⟨hour.toNat, minute.toNat, second.toNat, microsecond.toNat⟩
  else none

end TimeOfDay

namespace Moment

/-- A number in decimal with zeros before it up to a width. -/
def padded (width n : Nat) : Text :=
  let digits := Nat.toDigits 10 n
  List.replicate (width - digits.length) '0' ++ digits

def displayDate (d : Date) : Text :=
  padded 4 d.year ++ '-' :: padded 2 d.month ++ '-' :: padded 2 d.day

def displayTime (t : TimeOfDay) : Text :=
  padded 2 t.hour ++ ':' :: padded 2 t.minute ++ ':' :: padded 2 t.second ++
    if t.microsecond = 0 then [] else '.' :: padded 6 t.microsecond

def displayOffset (minutes : Int) : Text :=
  (if minutes < 0 then '-' else '+') ::
    padded 2 (minutes.natAbs / 60) ++ ':' :: padded 2 (minutes.natAbs % 60)

def display : Moment → Text
  | .date d => displayDate d
  | .time t => displayTime t
  | .dateTime d t none => displayDate d ++ ' ' :: displayTime t
  | .dateTime d t (some minutes) =>
    displayDate d ++ ' ' :: displayTime t ++ displayOffset minutes

def dateNumbers (d : Date) : List Nat := [d.year, d.month, d.day]

def timeNumbers (t : TimeOfDay) : List Nat :=
  if t.microsecond ≠ 0 then [t.hour, t.minute, t.second, t.microsecond]
  else if t.second ≠ 0 then [t.hour, t.minute, t.second]
  else [t.hour, t.minute]

/-- The numbers in brackets after the name of the kind. -/
def quotedAs (kind : String) (numbers : List Nat) : Text :=
  kind.toList ++ '(' :: ", ".toList.intercalate (numbers.map (Nat.toDigits 10)) ++ [')']

def quoted : Moment → Text
  | .date d => quotedAs "datetime.date" (dateNumbers d)
  | .time t => quotedAs "datetime.time" (timeNumbers t)
  | .dateTime d t _ => quotedAs "datetime.datetime" (dateNumbers d ++ timeNumbers t)

end Moment

end TextScan
