/-!
# Hangul syllables

A modern syllable is made of a leading consonant, a vowel and perhaps a trailing consonant, and
its number is computed from theirs, so decomposition and composition need no table.
-/

namespace TextScan.Unicode.Hangul

def leadBase : Nat := 0x1100
def vowelBase : Nat := 0x1161

/-- One before the first trailing consonant: index 0 stands for none. -/
def trailBase : Nat := 0x11A7
def syllableBase : Nat := 0xAC00

def leadCount : Nat := 19
def vowelCount : Nat := 21
def trailCount : Nat := 28
def syllableCount : Nat := leadCount * vowelCount * trailCount

/-- Place of a character among the `count` ones that start at `base`. -/
def index? (base count : Nat) (c : Char) : Option Nat :=
  if base ≤ c.toNat ∧ c.toNat < base + count then some (c.toNat - base) else none

/-- The letters of a syllable. -/
def decompose? (c : Char) : Option (List Char) :=
  (index? syllableBase syllableCount c).map fun s =>
    let lead := Char.ofNat (leadBase + s / (vowelCount * trailCount))
    let vowel := Char.ofNat (vowelBase + s % (vowelCount * trailCount) / trailCount)
    if s % trailCount = 0 then [lead, vowel]
    else [lead, vowel, Char.ofNat (trailBase + s % trailCount)]

/-- A leading consonant and a vowel make a syllable, and so do a syllable without a trailing
consonant and a trailing consonant. -/
def compose? (a b : Char) : Option Char :=
  match index? leadBase leadCount a, index? vowelBase vowelCount b with
  | some l, some v => some (Char.ofNat (syllableBase + (l * vowelCount + v) * trailCount))
  | _, _ =>
    match index? syllableBase syllableCount a, index? trailBase trailCount b with
    | some s, some t =>
      if s % trailCount = 0 ∧ 0 < t then some (Char.ofNat (syllableBase + s + t)) else none
    | _, _ => none

end TextScan.Unicode.Hangul
