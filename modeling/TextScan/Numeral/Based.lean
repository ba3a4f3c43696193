import TextScan.CharClass

/-!
# Digits in other bases

Whole numbers in a base up to sixteen. The letters from A to F are the digits above nine, in
either case.
-/

namespace TextScan.Numeral

def digitIn? (base : Nat) (c : Char) : Option Nat :=
  let n :=
    if isDigit c then c.toNat - 0x30
    else if Nat.ble 0x61 c.toLower.toNat && Nat.ble c.toLower.toNat 0x66 then
      c.toLower.toNat - 0x61 + 10
    else base
  if n < base then some n else none

/-- A non-empty run of digits. -/
def natIn? (base : Nat) : Text → Option Nat
  | [] => none
  | t => t.foldlM (fun n c => (digitIn? base c).map (base * n + ·)) 0

end TextScan.Numeral
