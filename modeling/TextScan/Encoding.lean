import TextScan.Text.Blank

/-!
# Encodings

The three Unicode encodings and the number of code units a character takes in each.
-/

namespace TextScan

inductive Encoding where
  | utf8
  | utf16
  | utf32
  deriving DecidableEq, Repr

namespace Encoding

def name : Encoding → String
  | .utf8 => "utf-8"
  | .utf16 => "utf-16"
  | .utf32 => "utf-32"

def all : List Encoding := [.utf8, .utf16, .utf32]

/-- The name with its dash left out. -/
def bareName : Encoding → String
  | .utf8 => "utf8"
  | .utf16 => "utf16"
  | .utf32 => "utf32"

/-- Finds an encoding by its name: case and surrounding blanks do not matter, an underscore may
stand for the dash, and the dash may be left out. Lower case of ASCII letters is enough, since
no other character has one of the letters of these names as its lower case. -/
def ofName? (t : Text) : Option Encoding :=
  let key := (Text.lowerAscii t.trim).map fun c => if c = '_' then '-' else c
  all.find? fun e => key = e.name.toList || key = e.bareName.toList

/-- Code units that a character takes. -/
def unitWidth : Encoding → Char → Nat
  | .utf8, c =>
    if c.toNat < 0x80 then 1 else if c.toNat < 0x800 then 2 else if c.toNat < 0x10000 then 3 else 4
  | .utf16, c => if c.toNat < 0x10000 then 1 else 2
  | .utf32, _ => 1

/-- Code units that a text takes. -/
def length (e : Encoding) : Text → Nat
  | [] => 0
  | c :: rest => e.unitWidth c + e.length rest

theorem unitWidth_pos (e : Encoding) (c : Char) : 0 < e.unitWidth c := by
  cases e <;> simp only [unitWidth] <;> repeat' split
  all_goals decide

theorem length_append (e : Encoding) (s t : Text) :
    e.length (s ++ t) = e.length s + e.length t := by
  induction s with
  | nil => simp [length]
  | cons c rest ih => simp [length, ih, Nat.add_assoc]

end Encoding

end TextScan
