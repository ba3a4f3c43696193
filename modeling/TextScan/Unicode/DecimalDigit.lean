import TextScan.Unicode.RangeTree

/-!
# Decimal digits

The characters of the general category Nd of Unicode 14.0. Each range starts with a digit zero
and holds whole sets of ten, in order, so a digit's value is its distance from the start modulo
ten.
-/

namespace TextScan.Unicode

namespace DecimalDigit

def rows : List (Range Unit) := [
  .mk 0x30 0x39 (), .mk 0x660 0x669 (), .mk 0x6F0 0x6F9 (), .mk 0x7C0 0x7C9 (), .mk 0x966 0x96F (),
  .mk 0x9E6 0x9EF (), .mk 0xA66 0xA6F (), .mk 0xAE6 0xAEF (), .mk 0xB66 0xB6F (),
  .mk 0xBE6 0xBEF (), .mk 0xC66 0xC6F (), .mk 0xCE6 0xCEF (), .mk 0xD66 0xD6F (),
  .mk 0xDE6 0xDEF (), .mk 0xE50 0xE59 (), .mk 0xED0 0xED9 (), .mk 0xF20 0xF29 (),
  .mk 0x1040 0x1049 (), .mk 0x1090 0x1099 (), .mk 0x17E0 0x17E9 (), .mk 0x1810 0x1819 (),
  .mk 0x1946 0x194F (), .mk 0x19D0 0x19D9 (), .mk 0x1A80 0x1A89 (), .mk 0x1A90 0x1A99 (),
  .mk 0x1B50 0x1B59 (), .mk 0x1BB0 0x1BB9 (), .mk 0x1C40 0x1C49 (), .mk 0x1C50 0x1C59 (),
  .mk 0xA620 0xA629 (), .mk 0xA8D0 0xA8D9 (), .mk 0xA900 0xA909 (), .mk 0xA9D0 0xA9D9 (),
  .mk 0xA9F0 0xA9F9 (), .mk 0xAA50 0xAA59 (), .mk 0xABF0 0xABF9 (), .mk 0xFF10 0xFF19 (),
  .mk 0x104A0 0x104A9 (), .mk 0x10D30 0x10D39 (), .mk 0x11066 0x1106F (), .mk 0x110F0 0x110F9 (),
  .mk 0x11136 0x1113F (), .mk 0x111D0 0x111D9 (), .mk 0x112F0 0x112F9 (), .mk 0x11450 0x11459 (),
  .mk 0x114D0 0x114D9 (), .mk 0x11650 0x11659 (), .mk 0x116C0 0x116C9 (), .mk 0x11730 0x11739 (),
  .mk 0x118E0 0x118E9 (), .mk 0x11950 0x11959 (), .mk 0x11C50 0x11C59 (), .mk 0x11D50 0x11D59 (),
  .mk 0x11DA0 0x11DA9 (), .mk 0x16A60 0x16A69 (), .mk 0x16AC0 0x16AC9 (), .mk 0x16B50 0x16B59 (),
  .mk 0x1D7CE 0x1D7FF (), .mk 0x1E140 0x1E149 (), .mk 0x1E2F0 0x1E2F9 (), .mk 0x1E950 0x1E959 (),
  .mk 0x1FBF0 0x1FBF9 ()]

def tree : RangeTree Unit := .ofList rows

end DecimalDigit

/-- The value of a decimal digit of any script. -/
def digitValue? (c : Char) : Option Nat :=
  (DecimalDigit.tree.find? c.toNat).map fun r => (c.toNat - r.lo) % 10

end TextScan.Unicode
