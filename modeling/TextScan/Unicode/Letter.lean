import TextScan.Unicode.RangeTree

/-!
# Letters and marks

The characters of the general categories Lu, Ll, Lt, Lm, Lo, Mn, Mc and Me of Unicode 14.0.
-/

namespace TextScan.Unicode

namespace Letter

def latin : List (Range Unit) := [
  .mk 0x41 0x5A (), .mk 0x61 0x7A (), .mk 0xAA 0xAA (), .mk 0xB5 0xB5 (), .mk 0xBA 0xBA (),
  .mk 0xC0 0xD6 (), .mk 0xD8 0xF6 (), .mk 0xF8 0x2C1 ()]

def phonetic : List (Range Unit) := [
  .mk 0x2C6 0x2D1 (), .mk 0x2E0 0x2E4 (), .mk 0x2EC 0x2EC (), .mk 0x2EE 0x2EE (),
  .mk 0x300 0x374 ()]

def greek : List (Range Unit) := [
  .mk 0x376 0x377 (), .mk 0x37A 0x37D (), .mk 0x37F 0x37F (), .mk 0x386 0x386 (),
  .mk 0x388 0x38A (), .mk 0x38C 0x38C (), .mk 0x38E 0x3A1 (), .mk 0x3A3 0x3F5 (),
  .mk 0x3F7 0x481 ()]

def cyrillic : List (Range Unit) := [
  .mk 0x483 0x52F (), .mk 0x531 0x556 (), .mk 0x559 0x559 (), .mk 0x560 0x588 ()]

def semitic : List (Range Unit) := [
  .mk 0x591 0x5BD (), .mk 0x5BF 0x5BF (), .mk 0x5C1 0x5C2 (), .mk 0x5C4 0x5C5 (),
  .mk 0x5C7 0x5C7 (), .mk 0x5D0 0x5EA (), .mk 0x5EF 0x5F2 (), .mk 0x610 0x61A (),
  .mk 0x620 0x65F (), .mk 0x66E 0x6D3 (), .mk 0x6D5 0x6DC (), .mk 0x6DF 0x6E8 (),
  .mk 0x6EA 0x6EF (), .mk 0x6FA 0x6FC (), .mk 0x6FF 0x6FF (), .mk 0x710 0x74A (),
  .mk 0x74D 0x7B1 (), .mk 0x7CA 0x7F5 (), .mk 0x7FA 0x7FA (), .mk 0x7FD 0x7FD (),
  .mk 0x800 0x82D (), .mk 0x840 0x85B (), .mk 0x860 0x86A (), .mk 0x870 0x887 (),
  .mk 0x889 0x88E (), .mk 0x898 0x8E1 (), .mk 0x8E3 0x963 ()]

def indic : List (Range Unit) := [
  .mk 0x971 0x983 (), .mk 0x985 0x98C (), .mk 0x98F 0x990 (), .mk 0x993 0x9A8 (),
  .mk 0x9AA 0x9B0 (), .mk 0x9B2 0x9B2 (), .mk 0x9B6 0x9B9 (), .mk 0x9BC 0x9C4 (),
  .mk 0x9C7 0x9C8 (), .mk 0x9CB 0x9CE (), .mk 0x9D7 0x9D7 (), .mk 0x9DC 0x9DD (),
  .mk 0x9DF 0x9E3 (), .mk 0x9F0 0x9F1 (), .mk 0x9FC 0x9FC (), .mk 0x9FE 0x9FE (),
  .mk 0xA01 0xA03 (), .mk 0xA05 0xA0A (), .mk 0xA0F 0xA10 (), .mk 0xA13 0xA28 (),
  .mk 0xA2A 0xA30 (), .mk 0xA32 0xA33 (), .mk 0xA35 0xA36 (), .mk 0xA38 0xA39 (),
  .mk 0xA3C 0xA3C (), .mk 0xA3E 0xA42 (), .mk 0xA47 0xA48 (), .mk 0xA4B 0xA4D (),
  .mk 0xA51 0xA51 (), .mk 0xA59 0xA5C (), .mk 0xA5E 0xA5E (), .mk 0xA70 0xA75 (),
  .mk 0xA81 0xA83 (), .mk 0xA85 0xA8D (), .mk 0xA8F 0xA91 (), .mk 0xA93 0xAA8 (),
  .mk 0xAAA 0xAB0 (), .mk 0xAB2 0xAB3 (), .mk 0xAB5 0xAB9 (), .mk 0xABC 0xAC5 (),
  .mk 0xAC7 0xAC9 (), .mk 0xACB 0xACD (), .mk 0xAD0 0xAD0 (), .mk 0xAE0 0xAE3 (),
  .mk 0xAF9 0xAFF (), .mk 0xB01 0xB03 (), .mk 0xB05 0xB0C (), .mk 0xB0F 0xB10 (),
  .mk 0xB13 0xB28 (), .mk 0xB2A 0xB30 (), .mk 0xB32 0xB33 (), .mk 0xB35 0xB39 (),
  .mk 0xB3C 0xB44 (), .mk 0xB47 0xB48 (), .mk 0xB4B 0xB4D (), .mk 0xB55 0xB57 (),
  .mk 0xB5C 0xB5D (), .mk 0xB5F 0xB63 (), .mk 0xB71 0xB71 (), .mk 0xB82 0xB83 (),
  .mk 0xB85 0xB8A (), .mk 0xB8E 0xB90 (), .mk 0xB92 0xB95 (), .mk 0xB99 0xB9A (),
  .mk 0xB9C 0xB9C (), .mk 0xB9E 0xB9F (), .mk 0xBA3 0xBA4 (), .mk 0xBA8 0xBAA (),
  .mk 0xBAE 0xBB9 (), .mk 0xBBE 0xBC2 (), .mk 0xBC6 0xBC8 (), .mk 0xBCA 0xBCD (),
  .mk 0xBD0 0xBD0 (), .mk 0xBD7 0xBD7 (), .mk 0xC00 0xC0C (), .mk 0xC0E 0xC10 (),
  .mk 0xC12 0xC28 (), .mk 0xC2A 0xC39 (), .mk 0xC3C 0xC44 (), .mk 0xC46 0xC48 (),
  .mk 0xC4A 0xC4D (), .mk 0xC55 0xC56 (), .mk 0xC58 0xC5A (), .mk 0xC5D 0xC5D (),
  .mk 0xC60 0xC63 (), .mk 0xC80 0xC83 (), .mk 0xC85 0xC8C (), .mk 0xC8E 0xC90 (),
  .mk 0xC92 0xCA8 (), .mk 0xCAA 0xCB3 (), .mk 0xCB5 0xCB9 (), .mk 0xCBC 0xCC4 (),
  .mk 0xCC6 0xCC8 (), .mk 0xCCA 0xCCD (), .mk 0xCD5 0xCD6 (), .mk 0xCDD 0xCDE (),
  .mk 0xCE0 0xCE3 (), .mk 0xCF1 0xCF2 (), .mk 0xD00 0xD0C (), .mk 0xD0E 0xD10 (),
  .mk 0xD12 0xD44 (), .mk 0xD46 0xD48 (), .mk 0xD4A 0xD4E (), .mk 0xD54 0xD57 (),
  .mk 0xD5F 0xD63 (), .mk 0xD7A 0xD7F (), .mk 0xD81 0xD83 (), .mk 0xD85 0xD96 (),
  .mk 0xD9A 0xDB1 (), .mk 0xDB3 0xDBB (), .mk 0xDBD 0xDBD (), .mk 0xDC0 0xDC6 (),
  .mk 0xDCA 0xDCA (), .mk 0xDCF 0xDD4 (), .mk 0xDD6 0xDD6 (), .mk 0xDD8 0xDDF (),
  .mk 0xDF2 0xDF3 ()]

def southeastAsian : List (Range Unit) := [
  .mk 0xE01 0xE3A (), .mk 0xE40 0xE4E (), .mk 0xE81 0xE82 (), .mk 0xE84 0xE84 (),
  .mk 0xE86 0xE8A (), .mk 0xE8C 0xEA3 (), .mk 0xEA5 0xEA5 (), .mk 0xEA7 0xEBD (),
  .mk 0xEC0 0xEC4 (), .mk 0xEC6 0xEC6 (), .mk 0xEC8 0xECD (), .mk 0xEDC 0xEDF (),
  .mk 0xF00 0xF00 (), .mk 0xF18 0xF19 (), .mk 0xF35 0xF35 (), .mk 0xF37 0xF37 (),
  .mk 0xF39 0xF39 (), .mk 0xF3E 0xF47 (), .mk 0xF49 0xF6C (), .mk 0xF71 0xF84 (),
  .mk 0xF86 0xF97 (), .mk 0xF99 0xFBC (), .mk 0xFC6 0xFC6 (), .mk 0x1000 0x103F (),
  .mk 0x1050 0x108F (), .mk 0x109A 0x109D (), .mk 0x10A0 0x10C5 (), .mk 0x10C7 0x10C7 (),
  .mk 0x10CD 0x10CD (), .mk 0x10D0 0x10FA (), .mk 0x10FC 0x1248 (), .mk 0x124A 0x124D (),
  .mk 0x1250 0x1256 (), .mk 0x1258 0x1258 (), .mk 0x125A 0x125D (), .mk 0x1260 0x1288 (),
  .mk 0x128A 0x128D (), .mk 0x1290 0x12B0 (), .mk 0x12B2 0x12B5 (), .mk 0x12B8 0x12BE (),
  .mk 0x12C0 0x12C0 (), .mk 0x12C2 0x12C5 (), .mk 0x12C8 0x12D6 (), .mk 0x12D8 0x1310 (),
  .mk 0x1312 0x1315 (), .mk 0x1318 0x135A (), .mk 0x135D 0x135F (), .mk 0x1380 0x138F (),
  .mk 0x13A0 0x13F5 (), .mk 0x13F8 0x13FD (), .mk 0x1401 0x166C (), .mk 0x166F 0x167F (),
  .mk 0x1681 0x169A (), .mk 0x16A0 0x16EA (), .mk 0x16F1 0x16F8 (), .mk 0x1700 0x1715 (),
  .mk 0x171F 0x1734 (), .mk 0x1740 0x1753 (), .mk 0x1760 0x176C (), .mk 0x176E 0x1770 (),
  .mk 0x1772 0x1773 (), .mk 0x1780 0x17D3 (), .mk 0x17D7 0x17D7 (), .mk 0x17DC 0x17DD (),
  .mk 0x180B 0x180D (), .mk 0x180F 0x180F (), .mk 0x1820 0x1878 (), .mk 0x1880 0x18AA (),
  .mk 0x18B0 0x18F5 ()]

def minorScripts : List (Range Unit) := [
  .mk 0x1900 0x191E (), .mk 0x1920 0x192B (), .mk 0x1930 0x193B (), .mk 0x1950 0x196D (),
  .mk 0x1970 0x1974 (), .mk 0x1980 0x19AB (), .mk 0x19B0 0x19C9 (), .mk 0x1A00 0x1A1B (),
  .mk 0x1A20 0x1A5E (), .mk 0x1A60 0x1A7C (), .mk 0x1A7F 0x1A7F (), .mk 0x1AA7 0x1AA7 (),
  .mk 0x1AB0 0x1ACE (), .mk 0x1B00 0x1B4C (), .mk 0x1B6B 0x1B73 (), .mk 0x1B80 0x1BAF (),
  .mk 0x1BBA 0x1BF3 (), .mk 0x1C00 0x1C37 (), .mk 0x1C4D 0x1C4F (), .mk 0x1C5A 0x1C7D (),
  .mk 0x1C80 0x1C88 (), .mk 0x1C90 0x1CBA (), .mk 0x1CBD 0x1CBF (), .mk 0x1CD0 0x1CD2 (),
  .mk 0x1CD4 0x1CFA ()]

def phoneticExtensions : List (Range Unit) := [
  .mk 0x1D00 0x1F15 ()]

def greekExtended : List (Range Unit) := [
  .mk 0x1F18 0x1F1D (), .mk 0x1F20 0x1F45 (), .mk 0x1F48 0x1F4D (), .mk 0x1F50 0x1F57 (),
  .mk 0x1F59 0x1F59 (), .mk 0x1F5B 0x1F5B (), .mk 0x1F5D 0x1F5D (), .mk 0x1F5F 0x1F7D (),
  .mk 0x1F80 0x1FB4 (), .mk 0x1FB6 0x1FBC (), .mk 0x1FBE 0x1FBE (), .mk 0x1FC2 0x1FC4 (),
  .mk 0x1FC6 0x1FCC (), .mk 0x1FD0 0x1FD3 (), .mk 0x1FD6 0x1FDB (), .mk 0x1FE0 0x1FEC (),
  .mk 0x1FF2 0x1FF4 (), .mk 0x1FF6 0x1FFC ()]

def symbols : List (Range Unit) := [
  .mk 0x2071 0x2071 (), .mk 0x207F 0x207F (), .mk 0x2090 0x209C (), .mk 0x20D0 0x20F0 (),
  .mk 0x2102 0x2102 (), .mk 0x2107 0x2107 (), .mk 0x210A 0x2113 (), .mk 0x2115 0x2115 (),
  .mk 0x2119 0x211D (), .mk 0x2124 0x2124 (), .mk 0x2126 0x2126 (), .mk 0x2128 0x2128 (),
  .mk 0x212A 0x212D (), .mk 0x212F 0x2139 (), .mk 0x213C 0x213F (), .mk 0x2145 0x2149 (),
  .mk 0x214E 0x214E (), .mk 0x2183 0x2184 ()]

def supplements : List (Range Unit) := [
  .mk 0x2C00 0x2CE4 (), .mk 0x2CEB 0x2CF3 (), .mk 0x2D00 0x2D25 (), .mk 0x2D27 0x2D27 (),
  .mk 0x2D2D 0x2D2D (), .mk 0x2D30 0x2D67 (), .mk 0x2D6F 0x2D6F (), .mk 0x2D7F 0x2D96 (),
  .mk 0x2DA0 0x2DA6 (), .mk 0x2DA8 0x2DAE (), .mk 0x2DB0 0x2DB6 (), .mk 0x2DB8 0x2DBE (),
  .mk 0x2DC0 0x2DC6 (), .mk 0x2DC8 0x2DCE (), .mk 0x2DD0 0x2DD6 (), .mk 0x2DD8 0x2DDE (),
  .mk 0x2DE0 0x2DFF (), .mk 0x2E2F 0x2E2F ()]

def eastAsian : List (Range Unit) := [
  .mk 0x3005 0x3006 (), .mk 0x302A 0x302F (), .mk 0x3031 0x3035 (), .mk 0x303B 0x303C (),
  .mk 0x3041 0x3096 (), .mk 0x3099 0x309A (), .mk 0x309D 0x309F (), .mk 0x30A1 0x30FA (),
  .mk 0x30FC 0x30FF (), .mk 0x3105 0x312F (), .mk 0x3131 0x318E (), .mk 0x31A0 0x31BF (),
  .mk 0x31F0 0x31FF (), .mk 0x3400 0x4DBF (), .mk 0x4E00 0xA48C ()]

def modernScripts : List (Range Unit) := [
  .mk 0xA4D0 0xA4FD (), .mk 0xA500 0xA60C (), .mk 0xA610 0xA61F (), .mk 0xA62A 0xA62B (),
  .mk 0xA640 0xA672 (), .mk 0xA674 0xA67D (), .mk 0xA67F 0xA6E5 (), .mk 0xA6F0 0xA6F1 (),
  .mk 0xA717 0xA71F (), .mk 0xA722 0xA788 (), .mk 0xA78B 0xA7CA (), .mk 0xA7D0 0xA7D1 (),
  .mk 0xA7D3 0xA7D3 (), .mk 0xA7D5 0xA7D9 (), .mk 0xA7F2 0xA827 (), .mk 0xA82C 0xA82C (),
  .mk 0xA840 0xA873 (), .mk 0xA880 0xA8C5 (), .mk 0xA8E0 0xA8F7 (), .mk 0xA8FB 0xA8FB (),
  .mk 0xA8FD 0xA8FF (), .mk 0xA90A 0xA92D (), .mk 0xA930 0xA953 (), .mk 0xA960 0xA97C (),
  .mk 0xA980 0xA9C0 (), .mk 0xA9CF 0xA9CF (), .mk 0xA9E0 0xA9EF (), .mk 0xA9FA 0xA9FE (),
  .mk 0xAA00 0xAA36 (), .mk 0xAA40 0xAA4D (), .mk 0xAA60 0xAA76 (), .mk 0xAA7A 0xAAC2 (),
  .mk 0xAADB 0xAADD (), .mk 0xAAE0 0xAAEF (), .mk 0xAAF2 0xAAF6 (), .mk 0xAB01 0xAB06 (),
  .mk 0xAB09 0xAB0E (), .mk 0xAB11 0xAB16 (), .mk 0xAB20 0xAB26 (), .mk 0xAB28 0xAB2E (),
  .mk 0xAB30 0xAB5A (), .mk 0xAB5C 0xAB69 (), .mk 0xAB70 0xABEA (), .mk 0xABEC 0xABED ()]

def hangul : List (Range Unit) := [
  .mk 0xAC00 0xD7A3 (), .mk 0xD7B0 0xD7C6 (), .mk 0xD7CB 0xD7FB ()]

def ideographs : List (Range Unit) := [
  .mk 0xF900 0xFA6D (), .mk 0xFA70 0xFAD9 ()]

def presentationForms : List (Range Unit) := [
  .mk 0xFB00 0xFB06 (), .mk 0xFB13 0xFB17 (), .mk 0xFB1D 0xFB28 (), .mk 0xFB2A 0xFB36 (),
  .mk 0xFB38 0xFB3C (), .mk 0xFB3E 0xFB3E (), .mk 0xFB40 0xFB41 (), .mk 0xFB43 0xFB44 (),
  .mk 0xFB46 0xFBB1 (), .mk 0xFBD3 0xFD3D (), .mk 0xFD50 0xFD8F (), .mk 0xFD92 0xFDC7 (),
  .mk 0xFDF0 0xFDFB ()]

def halfAndFullWidth : List (Range Unit) := [
  .mk 0xFE00 0xFE0F (), .mk 0xFE20 0xFE2F (), .mk 0xFE70 0xFE74 (), .mk 0xFE76 0xFEFC (),
  .mk 0xFF21 0xFF3A (), .mk 0xFF41 0xFF5A (), .mk 0xFF66 0xFFBE (), .mk 0xFFC2 0xFFC7 (),
  .mk 0xFFCA 0xFFCF (), .mk 0xFFD2 0xFFD7 (), .mk 0xFFDA 0xFFDC ()]

def historicScripts : List (Range Unit) := [
  .mk 0x10000 0x1000B (), .mk 0x1000D 0x10026 (), .mk 0x10028 0x1003A (), .mk 0x1003C 0x1003D (),
  .mk 0x1003F 0x1004D (), .mk 0x10050 0x1005D (), .mk 0x10080 0x100FA (), .mk 0x101FD 0x101FD (),
  .mk 0x10280 0x1029C (), .mk 0x102A0 0x102D0 (), .mk 0x102E0 0x102E0 (), .mk 0x10300 0x1031F (),
  .mk 0x1032D 0x10340 (), .mk 0x10342 0x10349 (), .mk 0x10350 0x1037A (), .mk 0x10380 0x1039D (),
  .mk 0x103A0 0x103C3 (), .mk 0x103C8 0x103CF (), .mk 0x10400 0x1049D (), .mk 0x104B0 0x104D3 (),
  .mk 0x104D8 0x104FB (), .mk 0x10500 0x10527 (), .mk 0x10530 0x10563 (), .mk 0x10570 0x1057A (),
  .mk 0x1057C 0x1058A (), .mk 0x1058C 0x10592 (), .mk 0x10594 0x10595 (), .mk 0x10597 0x105A1 (),
  .mk 0x105A3 0x105B1 (), .mk 0x105B3 0x105B9 (), .mk 0x105BB 0x105BC (), .mk 0x10600 0x10736 (),
  .mk 0x10740 0x10755 (), .mk 0x10760 0x10767 (), .mk 0x10780 0x10785 (), .mk 0x10787 0x107B0 (),
  .mk 0x107B2 0x107BA (), .mk 0x10800 0x10805 (), .mk 0x10808 0x10808 (), .mk 0x1080A 0x10835 (),
  .mk 0x10837 0x10838 (), .mk 0x1083C 0x1083C (), .mk 0x1083F 0x10855 (), .mk 0x10860 0x10876 (),
  .mk 0x10880 0x1089E (), .mk 0x108E0 0x108F2 (), .mk 0x108F4 0x108F5 (), .mk 0x10900 0x10915 (),
  .mk 0x10920 0x10939 (), .mk 0x10980 0x109B7 (), .mk 0x109BE 0x109BF (), .mk 0x10A00 0x10A03 (),
  .mk 0x10A05 0x10A06 (), .mk 0x10A0C 0x10A13 (), .mk 0x10A15 0x10A17 (), .mk 0x10A19 0x10A35 (),
  .mk 0x10A38 0x10A3A (), .mk 0x10A3F 0x10A3F (), .mk 0x10A60 0x10A7C (), .mk 0x10A80 0x10A9C (),
  .mk 0x10AC0 0x10AC7 (), .mk 0x10AC9 0x10AE6 (), .mk 0x10B00 0x10B35 (), .mk 0x10B40 0x10B55 (),
  .mk 0x10B60 0x10B72 (), .mk 0x10B80 0x10B91 (), .mk 0x10C00 0x10C48 (), .mk 0x10C80 0x10CB2 (),
  .mk 0x10CC0 0x10CF2 (), .mk 0x10D00 0x10D27 (), .mk 0x10E80 0x10EA9 (), .mk 0x10EAB 0x10EAC (),
  .mk 0x10EB0 0x10EB1 (), .mk 0x10F00 0x10F1C (), .mk 0x10F27 0x10F27 (), .mk 0x10F30 0x10F50 (),
  .mk 0x10F70 0x10F85 (), .mk 0x10FB0 0x10FC4 (), .mk 0x10FE0 0x10FF6 (), .mk 0x11000 0x11046 (),
  .mk 0x11070 0x11075 (), .mk 0x1107F 0x110BA (), .mk 0x110C2 0x110C2 (), .mk 0x110D0 0x110E8 (),
  .mk 0x11100 0x11134 (), .mk 0x11144 0x11147 (), .mk 0x11150 0x11173 (), .mk 0x11176 0x11176 (),
  .mk 0x11180 0x111C4 (), .mk 0x111C9 0x111CC (), .mk 0x111CE 0x111CF (), .mk 0x111DA 0x111DA (),
  .mk 0x111DC 0x111DC (), .mk 0x11200 0x11211 (), .mk 0x11213 0x11237 (), .mk 0x1123E 0x1123E (),
  .mk 0x11280 0x11286 (), .mk 0x11288 0x11288 (), .mk 0x1128A 0x1128D (), .mk 0x1128F 0x1129D (),
  .mk 0x1129F 0x112A8 (), .mk 0x112B0 0x112EA (), .mk 0x11300 0x11303 (), .mk 0x11305 0x1130C (),
  .mk 0x1130F 0x11310 (), .mk 0x11313 0x11328 (), .mk 0x1132A 0x11330 (), .mk 0x11332 0x11333 (),
  .mk 0x11335 0x11339 (), .mk 0x1133B 0x11344 (), .mk 0x11347 0x11348 (), .mk 0x1134B 0x1134D (),
  .mk 0x11350 0x11350 (), .mk 0x11357 0x11357 (), .mk 0x1135D 0x11363 (), .mk 0x11366 0x1136C (),
  .mk 0x11370 0x11374 (), .mk 0x11400 0x1144A (), .mk 0x1145E 0x11461 (), .mk 0x11480 0x114C5 (),
  .mk 0x114C7 0x114C7 (), .mk 0x11580 0x115B5 (), .mk 0x115B8 0x115C0 (), .mk 0x115D8 0x115DD (),
  .mk 0x11600 0x11640 (), .mk 0x11644 0x11644 (), .mk 0x11680 0x116B8 (), .mk 0x11700 0x1171A (),
  .mk 0x1171D 0x1172B (), .mk 0x11740 0x11746 (), .mk 0x11800 0x1183A (), .mk 0x118A0 0x118DF (),
  .mk 0x118FF 0x11906 (), .mk 0x11909 0x11909 (), .mk 0x1190C 0x11913 (), .mk 0x11915 0x11916 (),
  .mk 0x11918 0x11935 (), .mk 0x11937 0x11938 (), .mk 0x1193B 0x11943 (), .mk 0x119A0 0x119A7 (),
  .mk 0x119AA 0x119D7 (), .mk 0x119DA 0x119E1 (), .mk 0x119E3 0x119E4 (), .mk 0x11A00 0x11A3E (),
  .mk 0x11A47 0x11A47 (), .mk 0x11A50 0x11A99 (), .mk 0x11A9D 0x11A9D (), .mk 0x11AB0 0x11AF8 (),
  .mk 0x11C00 0x11C08 (), .mk 0x11C0A 0x11C36 (), .mk 0x11C38 0x11C40 (), .mk 0x11C72 0x11C8F (),
  .mk 0x11C92 0x11CA7 (), .mk 0x11CA9 0x11CB6 (), .mk 0x11D00 0x11D06 (), .mk 0x11D08 0x11D09 (),
  .mk 0x11D0B 0x11D36 (), .mk 0x11D3A 0x11D3A (), .mk 0x11D3C 0x11D3D (), .mk 0x11D3F 0x11D47 (),
  .mk 0x11D60 0x11D65 (), .mk 0x11D67 0x11D68 (), .mk 0x11D6A 0x11D8E (), .mk 0x11D90 0x11D91 (),
  .mk 0x11D93 0x11D98 (), .mk 0x11EE0 0x11EF6 (), .mk 0x11FB0 0x11FB0 (), .mk 0x12000 0x12399 (),
  .mk 0x12480 0x12543 (), .mk 0x12F90 0x12FF0 (), .mk 0x13000 0x1342E (), .mk 0x14400 0x14646 (),
  .mk 0x16800 0x16A38 (), .mk 0x16A40 0x16A5E (), .mk 0x16A70 0x16ABE (), .mk 0x16AD0 0x16AED (),
  .mk 0x16AF0 0x16AF4 (), .mk 0x16B00 0x16B36 (), .mk 0x16B40 0x16B43 (), .mk 0x16B63 0x16B77 (),
  .mk 0x16B7D 0x16B8F (), .mk 0x16E40 0x16E7F (), .mk 0x16F00 0x16F4A (), .mk 0x16F4F 0x16F87 (),
  .mk 0x16F8F 0x16F9F (), .mk 0x16FE0 0x16FE1 (), .mk 0x16FE3 0x16FE4 (), .mk 0x16FF0 0x16FF1 (),
  .mk 0x17000 0x187F7 (), .mk 0x18800 0x18CD5 (), .mk 0x18D00 0x18D08 (), .mk 0x1AFF0 0x1AFF3 (),
  .mk 0x1AFF5 0x1AFFB (), .mk 0x1AFFD 0x1AFFE ()]

def supplementaryKana : List (Range Unit) := [
  .mk 0x1B000 0x1B122 (), .mk 0x1B150 0x1B152 (), .mk 0x1B164 0x1B167 (), .mk 0x1B170 0x1B2FB (),
  .mk 0x1BC00 0x1BC6A (), .mk 0x1BC70 0x1BC7C (), .mk 0x1BC80 0x1BC88 (), .mk 0x1BC90 0x1BC99 (),
  .mk 0x1BC9D 0x1BC9E (), .mk 0x1CF00 0x1CF2D (), .mk 0x1CF30 0x1CF46 ()]

def mathematical : List (Range Unit) := [
  .mk 0x1D165 0x1D169 (), .mk 0x1D16D 0x1D172 (), .mk 0x1D17B 0x1D182 (), .mk 0x1D185 0x1D18B (),
  .mk 0x1D1AA 0x1D1AD (), .mk 0x1D242 0x1D244 (), .mk 0x1D400 0x1D454 (), .mk 0x1D456 0x1D49C (),
  .mk 0x1D49E 0x1D49F (), .mk 0x1D4A2 0x1D4A2 (), .mk 0x1D4A5 0x1D4A6 (), .mk 0x1D4A9 0x1D4AC (),
  .mk 0x1D4AE 0x1D4B9 (), .mk 0x1D4BB 0x1D4BB (), .mk 0x1D4BD 0x1D4C3 (), .mk 0x1D4C5 0x1D505 (),
  .mk 0x1D507 0x1D50A (), .mk 0x1D50D 0x1D514 (), .mk 0x1D516 0x1D51C (), .mk 0x1D51E 0x1D539 (),
  .mk 0x1D53B 0x1D53E (), .mk 0x1D540 0x1D544 (), .mk 0x1D546 0x1D546 (), .mk 0x1D54A 0x1D550 (),
  .mk 0x1D552 0x1D6A5 (), .mk 0x1D6A8 0x1D6C0 (), .mk 0x1D6C2 0x1D6DA (), .mk 0x1D6DC 0x1D6FA (),
  .mk 0x1D6FC 0x1D714 (), .mk 0x1D716 0x1D734 (), .mk 0x1D736 0x1D74E (), .mk 0x1D750 0x1D76E (),
  .mk 0x1D770 0x1D788 (), .mk 0x1D78A 0x1D7A8 (), .mk 0x1D7AA 0x1D7C2 (), .mk 0x1D7C4 0x1D7CB (),
  .mk 0x1DA00 0x1DA36 (), .mk 0x1DA3B 0x1DA6C (), .mk 0x1DA75 0x1DA75 (), .mk 0x1DA84 0x1DA84 (),
  .mk 0x1DA9B 0x1DA9F (), .mk 0x1DAA1 0x1DAAF (), .mk 0x1DF00 0x1DF1E ()]

def lateScripts : List (Range Unit) := [
  .mk 0x1E000 0x1E006 (), .mk 0x1E008 0x1E018 (), .mk 0x1E01B 0x1E021 (), .mk 0x1E023 0x1E024 (),
  .mk 0x1E026 0x1E02A (), .mk 0x1E100 0x1E12C (), .mk 0x1E130 0x1E13D (), .mk 0x1E14E 0x1E14E (),
  .mk 0x1E290 0x1E2AE (), .mk 0x1E2C0 0x1E2EF (), .mk 0x1E7E0 0x1E7E6 (), .mk 0x1E7E8 0x1E7EB (),
  .mk 0x1E7ED 0x1E7EE (), .mk 0x1E7F0 0x1E7FE (), .mk 0x1E800 0x1E8C4 (), .mk 0x1E8D0 0x1E8D6 (),
  .mk 0x1E900 0x1E94B (), .mk 0x1EE00 0x1EE03 (), .mk 0x1EE05 0x1EE1F (), .mk 0x1EE21 0x1EE22 (),
  .mk 0x1EE24 0x1EE24 (), .mk 0x1EE27 0x1EE27 (), .mk 0x1EE29 0x1EE32 (), .mk 0x1EE34 0x1EE37 (),
  .mk 0x1EE39 0x1EE39 (), .mk 0x1EE3B 0x1EE3B (), .mk 0x1EE42 0x1EE42 (), .mk 0x1EE47 0x1EE47 (),
  .mk 0x1EE49 0x1EE49 (), .mk 0x1EE4B 0x1EE4B (), .mk 0x1EE4D 0x1EE4F (), .mk 0x1EE51 0x1EE52 (),
  .mk 0x1EE54 0x1EE54 (), .mk 0x1EE57 0x1EE57 (), .mk 0x1EE59 0x1EE59 (), .mk 0x1EE5B 0x1EE5B (),
  .mk 0x1EE5D 0x1EE5D (), .mk 0x1EE5F 0x1EE5F (), .mk 0x1EE61 0x1EE62 (), .mk 0x1EE64 0x1EE64 (),
  .mk 0x1EE67 0x1EE6A (), .mk 0x1EE6C 0x1EE72 (), .mk 0x1EE74 0x1EE77 (), .mk 0x1EE79 0x1EE7C (),
  .mk 0x1EE7E 0x1EE7E (), .mk 0x1EE80 0x1EE89 (), .mk 0x1EE8B 0x1EE9B (), .mk 0x1EEA1 0x1EEA3 (),
  .mk 0x1EEA5 0x1EEA9 (), .mk 0x1EEAB 0x1EEBB ()]

def supplementaryIdeographs : List (Range Unit) := [
  .mk 0x20000 0x2A6DF (), .mk 0x2A700 0x2B738 (), .mk 0x2B740 0x2B81D (), .mk 0x2B820 0x2CEA1 (),
  .mk 0x2CEB0 0x2EBE0 (), .mk 0x2F800 0x2FA1D (), .mk 0x30000 0x3134A (), .mk 0xE0100 0xE01EF ()]

/-- The letters and combining marks. -/
def rows : List (Range Unit) :=
  latin ++ phonetic ++ greek ++ cyrillic ++ semitic ++ indic ++ southeastAsian ++ minorScripts ++
  phoneticExtensions ++ greekExtended ++ symbols ++ supplements ++ eastAsian ++ modernScripts ++
  hangul ++ ideographs ++ presentationForms ++ halfAndFullWidth ++ historicScripts ++
  supplementaryKana ++ mathematical ++ lateScripts ++ supplementaryIdeographs

def tree : RangeTree Unit := .ofList rows

end Letter

/-- Whether the general category is that of a letter or a combining mark. -/
def isLetterOrMark (c : Char) : Bool := Letter.tree.contains c.toNat

end TextScan.Unicode
