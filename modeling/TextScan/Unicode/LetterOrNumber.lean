import TextScan.Unicode.RangeTree

/-!
# Letters and numbers

The characters of the general categories Lu, Ll, Lt, Lm, Lo, Nd, Nl and No of Unicode 14.0.
-/

namespace TextScan.Unicode

namespace LetterOrNumber

def latin : List (Range Unit) := [
  .mk 0x30 0x39 (), .mk 0x41 0x5A (), .mk 0x61 0x7A (), .mk 0xAA 0xAA (), .mk 0xB2 0xB3 (),
  .mk 0xB5 0xB5 (), .mk 0xB9 0xBA (), .mk 0xBC 0xBE (), .mk 0xC0 0xD6 (), .mk 0xD8 0xF6 (),
  .mk 0xF8 0x2C1 ()]

def phonetic : List (Range Unit) := [
  .mk 0x2C6 0x2D1 (), .mk 0x2E0 0x2E4 (), .mk 0x2EC 0x2EC (), .mk 0x2EE 0x2EE ()]

def greek : List (Range Unit) := [
  .mk 0x370 0x374 (), .mk 0x376 0x377 (), .mk 0x37A 0x37D (), .mk 0x37F 0x37F (),
  .mk 0x386 0x386 (), .mk 0x388 0x38A (), .mk 0x38C 0x38C (), .mk 0x38E 0x3A1 (),
  .mk 0x3A3 0x3F5 (), .mk 0x3F7 0x481 ()]

def cyrillic : List (Range Unit) := [
  .mk 0x48A 0x52F (), .mk 0x531 0x556 (), .mk 0x559 0x559 (), .mk 0x560 0x588 ()]

def semitic : List (Range Unit) := [
  .mk 0x5D0 0x5EA (), .mk 0x5EF 0x5F2 (), .mk 0x620 0x64A (), .mk 0x660 0x669 (),
  .mk 0x66E 0x66F (), .mk 0x671 0x6D3 (), .mk 0x6D5 0x6D5 (), .mk 0x6E5 0x6E6 (),
  .mk 0x6EE 0x6FC (), .mk 0x6FF 0x6FF (), .mk 0x710 0x710 (), .mk 0x712 0x72F (),
  .mk 0x74D 0x7A5 (), .mk 0x7B1 0x7B1 (), .mk 0x7C0 0x7EA (), .mk 0x7F4 0x7F5 (),
  .mk 0x7FA 0x7FA (), .mk 0x800 0x815 (), .mk 0x81A 0x81A (), .mk 0x824 0x824 (),
  .mk 0x828 0x828 (), .mk 0x840 0x858 (), .mk 0x860 0x86A (), .mk 0x870 0x887 (),
  .mk 0x889 0x88E (), .mk 0x8A0 0x8C9 ()]

def indic : List (Range Unit) := [
  .mk 0x904 0x939 (), .mk 0x93D 0x93D (), .mk 0x950 0x950 (), .mk 0x958 0x961 (),
  .mk 0x966 0x96F (), .mk 0x971 0x980 (), .mk 0x985 0x98C (), .mk 0x98F 0x990 (),
  .mk 0x993 0x9A8 (), .mk 0x9AA 0x9B0 (), .mk 0x9B2 0x9B2 (), .mk 0x9B6 0x9B9 (),
  .mk 0x9BD 0x9BD (), .mk 0x9CE 0x9CE (), .mk 0x9DC 0x9DD (), .mk 0x9DF 0x9E1 (),
  .mk 0x9E6 0x9F1 (), .mk 0x9F4 0x9F9 (), .mk 0x9FC 0x9FC (), .mk 0xA05 0xA0A (),
  .mk 0xA0F 0xA10 (), .mk 0xA13 0xA28 (), .mk 0xA2A 0xA30 (), .mk 0xA32 0xA33 (),
  .mk 0xA35 0xA36 (), .mk 0xA38 0xA39 (), .mk 0xA59 0xA5C (), .mk 0xA5E 0xA5E (),
  .mk 0xA66 0xA6F (), .mk 0xA72 0xA74 (), .mk 0xA85 0xA8D (), .mk 0xA8F 0xA91 (),
  .mk 0xA93 0xAA8 (), .mk 0xAAA 0xAB0 (), .mk 0xAB2 0xAB3 (), .mk 0xAB5 0xAB9 (),
  .mk 0xABD 0xABD (), .mk 0xAD0 0xAD0 (), .mk 0xAE0 0xAE1 (), .mk 0xAE6 0xAEF (),
  .mk 0xAF9 0xAF9 (), .mk 0xB05 0xB0C (), .mk 0xB0F 0xB10 (), .mk 0xB13 0xB28 (),
  .mk 0xB2A 0xB30 (), .mk 0xB32 0xB33 (), .mk 0xB35 0xB39 (), .mk 0xB3D 0xB3D (),
  .mk 0xB5C 0xB5D (), .mk 0xB5F 0xB61 (), .mk 0xB66 0xB6F (), .mk 0xB71 0xB77 (),
  .mk 0xB83 0xB83 (), .mk 0xB85 0xB8A (), .mk 0xB8E 0xB90 (), .mk 0xB92 0xB95 (),
  .mk 0xB99 0xB9A (), .mk 0xB9C 0xB9C (), .mk 0xB9E 0xB9F (), .mk 0xBA3 0xBA4 (),
  .mk 0xBA8 0xBAA (), .mk 0xBAE 0xBB9 (), .mk 0xBD0 0xBD0 (), .mk 0xBE6 0xBF2 (),
  .mk 0xC05 0xC0C (), .mk 0xC0E 0xC10 (), .mk 0xC12 0xC28 (), .mk 0xC2A 0xC39 (),
  .mk 0xC3D 0xC3D (), .mk 0xC58 0xC5A (), .mk 0xC5D 0xC5D (), .mk 0xC60 0xC61 (),
  .mk 0xC66 0xC6F (), .mk 0xC78 0xC7E (), .mk 0xC80 0xC80 (), .mk 0xC85 0xC8C (),
  .mk 0xC8E 0xC90 (), .mk 0xC92 0xCA8 (), .mk 0xCAA 0xCB3 (), .mk 0xCB5 0xCB9 (),
  .mk 0xCBD 0xCBD (), .mk 0xCDD 0xCDE (), .mk 0xCE0 0xCE1 (), .mk 0xCE6 0xCEF (),
  .mk 0xCF1 0xCF2 (), .mk 0xD04 0xD0C (), .mk 0xD0E 0xD10 (), .mk 0xD12 0xD3A (),
  .mk 0xD3D 0xD3D (), .mk 0xD4E 0xD4E (), .mk 0xD54 0xD56 (), .mk 0xD58 0xD61 (),
  .mk 0xD66 0xD78 (), .mk 0xD7A 0xD7F (), .mk 0xD85 0xD96 (), .mk 0xD9A 0xDB1 (),
  .mk 0xDB3 0xDBB (), .mk 0xDBD 0xDBD (), .mk 0xDC0 0xDC6 (), .mk 0xDE6 0xDEF ()]

def southeastAsian : List (Range Unit) := [
  .mk 0xE01 0xE30 (), .mk 0xE32 0xE33 (), .mk 0xE40 0xE46 (), .mk 0xE50 0xE59 (),
  .mk 0xE81 0xE82 (), .mk 0xE84 0xE84 (), .mk 0xE86 0xE8A (), .mk 0xE8C 0xEA3 (),
  .mk 0xEA5 0xEA5 (), .mk 0xEA7 0xEB0 (), .mk 0xEB2 0xEB3 (), .mk 0xEBD 0xEBD (),
  .mk 0xEC0 0xEC4 (), .mk 0xEC6 0xEC6 (), .mk 0xED0 0xED9 (), .mk 0xEDC 0xEDF (),
  .mk 0xF00 0xF00 (), .mk 0xF20 0xF33 (), .mk 0xF40 0xF47 (), .mk 0xF49 0xF6C (),
  .mk 0xF88 0xF8C (), .mk 0x1000 0x102A (), .mk 0x103F 0x1049 (), .mk 0x1050 0x1055 (),
  .mk 0x105A 0x105D (), .mk 0x1061 0x1061 (), .mk 0x1065 0x1066 (), .mk 0x106E 0x1070 (),
  .mk 0x1075 0x1081 (), .mk 0x108E 0x108E (), .mk 0x1090 0x1099 (), .mk 0x10A0 0x10C5 (),
  .mk 0x10C7 0x10C7 (), .mk 0x10CD 0x10CD (), .mk 0x10D0 0x10FA (), .mk 0x10FC 0x1248 (),
  .mk 0x124A 0x124D (), .mk 0x1250 0x1256 (), .mk 0x1258 0x1258 (), .mk 0x125A 0x125D (),
  .mk 0x1260 0x1288 (), .mk 0x128A 0x128D (), .mk 0x1290 0x12B0 (), .mk 0x12B2 0x12B5 (),
  .mk 0x12B8 0x12BE (), .mk 0x12C0 0x12C0 (), .mk 0x12C2 0x12C5 (), .mk 0x12C8 0x12D6 (),
  .mk 0x12D8 0x1310 (), .mk 0x1312 0x1315 (), .mk 0x1318 0x135A (), .mk 0x1369 0x137C (),
  .mk 0x1380 0x138F (), .mk 0x13A0 0x13F5 (), .mk 0x13F8 0x13FD (), .mk 0x1401 0x166C (),
  .mk 0x166F 0x167F (), .mk 0x1681 0x169A (), .mk 0x16A0 0x16EA (), .mk 0x16EE 0x16F8 (),
  .mk 0x1700 0x1711 (), .mk 0x171F 0x1731 (), .mk 0x1740 0x1751 (), .mk 0x1760 0x176C (),
  .mk 0x176E 0x1770 (), .mk 0x1780 0x17B3 (), .mk 0x17D7 0x17D7 (), .mk 0x17DC 0x17DC (),
  .mk 0x17E0 0x17E9 (), .mk 0x17F0 0x17F9 (), .mk 0x1810 0x1819 (), .mk 0x1820 0x1878 (),
  .mk 0x1880 0x1884 (), .mk 0x1887 0x18A8 (), .mk 0x18AA 0x18AA (), .mk 0x18B0 0x18F5 ()]

def minorScripts : List (Range Unit) := [
  .mk 0x1900 0x191E (), .mk 0x1946 0x196D (), .mk 0x1970 0x1974 (), .mk 0x1980 0x19AB (),
  .mk 0x19B0 0x19C9 (), .mk 0x19D0 0x19DA (), .mk 0x1A00 0x1A16 (), .mk 0x1A20 0x1A54 (),
  .mk 0x1A80 0x1A89 (), .mk 0x1A90 0x1A99 (), .mk 0x1AA7 0x1AA7 (), .mk 0x1B05 0x1B33 (),
  .mk 0x1B45 0x1B4C (), .mk 0x1B50 0x1B59 (), .mk 0x1B83 0x1BA0 (), .mk 0x1BAE 0x1BE5 (),
  .mk 0x1C00 0x1C23 (), .mk 0x1C40 0x1C49 (), .mk 0x1C4D 0x1C7D (), .mk 0x1C80 0x1C88 (),
  .mk 0x1C90 0x1CBA (), .mk 0x1CBD 0x1CBF (), .mk 0x1CE9 0x1CEC (), .mk 0x1CEE 0x1CF3 (),
  .mk 0x1CF5 0x1CF6 (), .mk 0x1CFA 0x1CFA ()]

def phoneticExtensions : List (Range Unit) := [
  .mk 0x1D00 0x1DBF ()]

def latinAdditional : List (Range Unit) := [
  .mk 0x1E00 0x1F15 ()]

def greekExtended : List (Range Unit) := [
  .mk 0x1F18 0x1F1D (), .mk 0x1F20 0x1F45 (), .mk 0x1F48 0x1F4D (), .mk 0x1F50 0x1F57 (),
  .mk 0x1F59 0x1F59 (), .mk 0x1F5B 0x1F5B (), .mk 0x1F5D 0x1F5D (), .mk 0x1F5F 0x1F7D (),
  .mk 0x1F80 0x1FB4 (), .mk 0x1FB6 0x1FBC (), .mk 0x1FBE 0x1FBE (), .mk 0x1FC2 0x1FC4 (),
  .mk 0x1FC6 0x1FCC (), .mk 0x1FD0 0x1FD3 (), .mk 0x1FD6 0x1FDB (), .mk 0x1FE0 0x1FEC (),
  .mk 0x1FF2 0x1FF4 (), .mk 0x1FF6 0x1FFC ()]

def symbols : List (Range Unit) := [
  .mk 0x2070 0x2071 (), .mk 0x2074 0x2079 (), .mk 0x207F 0x2089 (), .mk 0x2090 0x209C (),
  .mk 0x2102 0x2102 (), .mk 0x2107 0x2107 (), .mk 0x210A 0x2113 (), .mk 0x2115 0x2115 (),
  .mk 0x2119 0x211D (), .mk 0x2124 0x2124 (), .mk 0x2126 0x2126 (), .mk 0x2128 0x2128 (),
  .mk 0x212A 0x212D (), .mk 0x212F 0x2139 (), .mk 0x213C 0x213F (), .mk 0x2145 0x2149 (),
  .mk 0x214E 0x214E (), .mk 0x2150 0x2189 (), .mk 0x2460 0x249B (), .mk 0x24EA 0x24FF (),
  .mk 0x2776 0x2793 ()]

def supplements : List (Range Unit) := [
  .mk 0x2C00 0x2CE4 (), .mk 0x2CEB 0x2CEE (), .mk 0x2CF2 0x2CF3 (), .mk 0x2CFD 0x2CFD (),
  .mk 0x2D00 0x2D25 (), .mk 0x2D27 0x2D27 (), .mk 0x2D2D 0x2D2D (), .mk 0x2D30 0x2D67 (),
  .mk 0x2D6F 0x2D6F (), .mk 0x2D80 0x2D96 (), .mk 0x2DA0 0x2DA6 (), .mk 0x2DA8 0x2DAE (),
  .mk 0x2DB0 0x2DB6 (), .mk 0x2DB8 0x2DBE (), .mk 0x2DC0 0x2DC6 (), .mk 0x2DC8 0x2DCE (),
  .mk 0x2DD0 0x2DD6 (), .mk 0x2DD8 0x2DDE (), .mk 0x2E2F 0x2E2F ()]

def eastAsian : List (Range Unit) := [
  .mk 0x3005 0x3007 (), .mk 0x3021 0x3029 (), .mk 0x3031 0x3035 (), .mk 0x3038 0x303C (),
  .mk 0x3041 0x3096 (), .mk 0x309D 0x309F (), .mk 0x30A1 0x30FA (), .mk 0x30FC 0x30FF (),
  .mk 0x3105 0x312F (), .mk 0x3131 0x318E (), .mk 0x3192 0x3195 (), .mk 0x31A0 0x31BF (),
  .mk 0x31F0 0x31FF (), .mk 0x3220 0x3229 (), .mk 0x3248 0x324F (), .mk 0x3251 0x325F (),
  .mk 0x3280 0x3289 (), .mk 0x32B1 0x32BF (), .mk 0x3400 0x4DBF (), .mk 0x4E00 0xA48C ()]

def modernScripts : List (Range Unit) := [
  .mk 0xA4D0 0xA4FD (), .mk 0xA500 0xA60C (), .mk 0xA610 0xA62B (), .mk 0xA640 0xA66E (),
  .mk 0xA67F 0xA69D (), .mk 0xA6A0 0xA6EF (), .mk 0xA717 0xA71F (), .mk 0xA722 0xA788 (),
  .mk 0xA78B 0xA7CA (), .mk 0xA7D0 0xA7D1 (), .mk 0xA7D3 0xA7D3 (), .mk 0xA7D5 0xA7D9 (),
  .mk 0xA7F2 0xA801 (), .mk 0xA803 0xA805 (), .mk 0xA807 0xA80A (), .mk 0xA80C 0xA822 (),
  .mk 0xA830 0xA835 (), .mk 0xA840 0xA873 (), .mk 0xA882 0xA8B3 (), .mk 0xA8D0 0xA8D9 (),
  .mk 0xA8F2 0xA8F7 (), .mk 0xA8FB 0xA8FB (), .mk 0xA8FD 0xA8FE (), .mk 0xA900 0xA925 (),
  .mk 0xA930 0xA946 (), .mk 0xA960 0xA97C (), .mk 0xA984 0xA9B2 (), .mk 0xA9CF 0xA9D9 (),
  .mk 0xA9E0 0xA9E4 (), .mk 0xA9E6 0xA9FE (), .mk 0xAA00 0xAA28 (), .mk 0xAA40 0xAA42 (),
  .mk 0xAA44 0xAA4B (), .mk 0xAA50 0xAA59 (), .mk 0xAA60 0xAA76 (), .mk 0xAA7A 0xAA7A (),
  .mk 0xAA7E 0xAAAF (), .mk 0xAAB1 0xAAB1 (), .mk 0xAAB5 0xAAB6 (), .mk 0xAAB9 0xAABD (),
  .mk 0xAAC0 0xAAC0 (), .mk 0xAAC2 0xAAC2 (), .mk 0xAADB 0xAADD (), .mk 0xAAE0 0xAAEA (),
  .mk 0xAAF2 0xAAF4 (), .mk 0xAB01 0xAB06 (), .mk 0xAB09 0xAB0E (), .mk 0xAB11 0xAB16 (),
  .mk 0xAB20 0xAB26 (), .mk 0xAB28 0xAB2E (), .mk 0xAB30 0xAB5A (), .mk 0xAB5C 0xAB69 (),
  .mk 0xAB70 0xABE2 (), .mk 0xABF0 0xABF9 ()]

def hangul : List (Range Unit) := [
  .mk 0xAC00 0xD7A3 (), .mk 0xD7B0 0xD7C6 (), .mk 0xD7CB 0xD7FB ()]

def ideographs : List (Range Unit) := [
  .mk 0xF900 0xFA6D (), .mk 0xFA70 0xFAD9 ()]

def presentationForms : List (Range Unit) := [
  .mk 0xFB00 0xFB06 (), .mk 0xFB13 0xFB17 (), .mk 0xFB1D 0xFB1D (), .mk 0xFB1F 0xFB28 (),
  .mk 0xFB2A 0xFB36 (), .mk 0xFB38 0xFB3C (), .mk 0xFB3E 0xFB3E (), .mk 0xFB40 0xFB41 (),
  .mk 0xFB43 0xFB44 (), .mk 0xFB46 0xFBB1 (), .mk 0xFBD3 0xFD3D (), .mk 0xFD50 0xFD8F (),
  .mk 0xFD92 0xFDC7 (), .mk 0xFDF0 0xFDFB ()]

def halfAndFullWidth : List (Range Unit) := [
  .mk 0xFE70 0xFE74 (), .mk 0xFE76 0xFEFC (), .mk 0xFF10 0xFF19 (), .mk 0xFF21 0xFF3A (),
  .mk 0xFF41 0xFF5A (), .mk 0xFF66 0xFFBE (), .mk 0xFFC2 0xFFC7 (), .mk 0xFFCA 0xFFCF (),
  .mk 0xFFD2 0xFFD7 (), .mk 0xFFDA 0xFFDC ()]

def historicScripts : List (Range Unit) := [
  .mk 0x10000 0x1000B (), .mk 0x1000D 0x10026 (), .mk 0x10028 0x1003A (), .mk 0x1003C 0x1003D (),
  .mk 0x1003F 0x1004D (), .mk 0x10050 0x1005D (), .mk 0x10080 0x100FA (), .mk 0x10107 0x10133 (),
  .mk 0x10140 0x10178 (), .mk 0x1018A 0x1018B (), .mk 0x10280 0x1029C (), .mk 0x102A0 0x102D0 (),
  .mk 0x102E1 0x102FB (), .mk 0x10300 0x10323 (), .mk 0x1032D 0x1034A (), .mk 0x10350 0x10375 (),
  .mk 0x10380 0x1039D (), .mk 0x103A0 0x103C3 (), .mk 0x103C8 0x103CF (), .mk 0x103D1 0x103D5 (),
  .mk 0x10400 0x1049D (), .mk 0x104A0 0x104A9 (), .mk 0x104B0 0x104D3 (), .mk 0x104D8 0x104FB (),
  .mk 0x10500 0x10527 (), .mk 0x10530 0x10563 (), .mk 0x10570 0x1057A (), .mk 0x1057C 0x1058A (),
  .mk 0x1058C 0x10592 (), .mk 0x10594 0x10595 (), .mk 0x10597 0x105A1 (), .mk 0x105A3 0x105B1 (),
  .mk 0x105B3 0x105B9 (), .mk 0x105BB 0x105BC (), .mk 0x10600 0x10736 (), .mk 0x10740 0x10755 (),
  .mk 0x10760 0x10767 (), .mk 0x10780 0x10785 (), .mk 0x10787 0x107B0 (), .mk 0x107B2 0x107BA (),
  .mk 0x10800 0x10805 (), .mk 0x10808 0x10808 (), .mk 0x1080A 0x10835 (), .mk 0x10837 0x10838 (),
  .mk 0x1083C 0x1083C (), .mk 0x1083F 0x10855 (), .mk 0x10858 0x10876 (), .mk 0x10879 0x1089E (),
  .mk 0x108A7 0x108AF (), .mk 0x108E0 0x108F2 (), .mk 0x108F4 0x108F5 (), .mk 0x108FB 0x1091B (),
  .mk 0x10920 0x10939 (), .mk 0x10980 0x109B7 (), .mk 0x109BC 0x109CF (), .mk 0x109D2 0x10A00 (),
  .mk 0x10A10 0x10A13 (), .mk 0x10A15 0x10A17 (), .mk 0x10A19 0x10A35 (), .mk 0x10A40 0x10A48 (),
  .mk 0x10A60 0x10A7E (), .mk 0x10A80 0x10A9F (), .mk 0x10AC0 0x10AC7 (), .mk 0x10AC9 0x10AE4 (),
  .mk 0x10AEB 0x10AEF (), .mk 0x10B00 0x10B35 (), .mk 0x10B40 0x10B55 (), .mk 0x10B58 0x10B72 (),
  .mk 0x10B78 0x10B91 (), .mk 0x10BA9 0x10BAF (), .mk 0x10C00 0x10C48 (), .mk 0x10C80 0x10CB2 (),
  .mk 0x10CC0 0x10CF2 (), .mk 0x10CFA 0x10D23 (), .mk 0x10D30 0x10D39 (), .mk 0x10E60 0x10E7E (),
  .mk 0x10E80 0x10EA9 (), .mk 0x10EB0 0x10EB1 (), .mk 0x10F00 0x10F27 (), .mk 0x10F30 0x10F45 (),
  .mk 0x10F51 0x10F54 (), .mk 0x10F70 0x10F81 (), .mk 0x10FB0 0x10FCB (), .mk 0x10FE0 0x10FF6 (),
  .mk 0x11003 0x11037 (), .mk 0x11052 0x1106F (), .mk 0x11071 0x11072 (), .mk 0x11075 0x11075 (),
  .mk 0x11083 0x110AF (), .mk 0x110D0 0x110E8 (), .mk 0x110F0 0x110F9 (), .mk 0x11103 0x11126 (),
  .mk 0x11136 0x1113F (), .mk 0x11144 0x11144 (), .mk 0x11147 0x11147 (), .mk 0x11150 0x11172 (),
  .mk 0x11176 0x11176 (), .mk 0x11183 0x111B2 (), .mk 0x111C1 0x111C4 (), .mk 0x111D0 0x111DA (),
  .mk 0x111DC 0x111DC (), .mk 0x111E1 0x111F4 (), .mk 0x11200 0x11211 (), .mk 0x11213 0x1122B (),
  .mk 0x11280 0x11286 (), .mk 0x11288 0x11288 (), .mk 0x1128A 0x1128D (), .mk 0x1128F 0x1129D (),
  .mk 0x1129F 0x112A8 (), .mk 0x112B0 0x112DE (), .mk 0x112F0 0x112F9 (), .mk 0x11305 0x1130C (),
  .mk 0x1130F 0x11310 (), .mk 0x11313 0x11328 (), .mk 0x1132A 0x11330 (), .mk 0x11332 0x11333 (),
  .mk 0x11335 0x11339 (), .mk 0x1133D 0x1133D (), .mk 0x11350 0x11350 (), .mk 0x1135D 0x11361 (),
  .mk 0x11400 0x11434 (), .mk 0x11447 0x1144A (), .mk 0x11450 0x11459 (), .mk 0x1145F 0x11461 (),
  .mk 0x11480 0x114AF (), .mk 0x114C4 0x114C5 (), .mk 0x114C7 0x114C7 (), .mk 0x114D0 0x114D9 (),
  .mk 0x11580 0x115AE (), .mk 0x115D8 0x115DB (), .mk 0x11600 0x1162F (), .mk 0x11644 0x11644 (),
  .mk 0x11650 0x11659 (), .mk 0x11680 0x116AA (), .mk 0x116B8 0x116B8 (), .mk 0x116C0 0x116C9 (),
  .mk 0x11700 0x1171A (), .mk 0x11730 0x1173B (), .mk 0x11740 0x11746 (), .mk 0x11800 0x1182B (),
  .mk 0x118A0 0x118F2 (), .mk 0x118FF 0x11906 (), .mk 0x11909 0x11909 (), .mk 0x1190C 0x11913 (),
  .mk 0x11915 0x11916 (), .mk 0x11918 0x1192F (), .mk 0x1193F 0x1193F (), .mk 0x11941 0x11941 (),
  .mk 0x11950 0x11959 (), .mk 0x119A0 0x119A7 (), .mk 0x119AA 0x119D0 (), .mk 0x119E1 0x119E1 (),
  .mk 0x119E3 0x119E3 (), .mk 0x11A00 0x11A00 (), .mk 0x11A0B 0x11A32 (), .mk 0x11A3A 0x11A3A (),
  .mk 0x11A50 0x11A50 (), .mk 0x11A5C 0x11A89 (), .mk 0x11A9D 0x11A9D (), .mk 0x11AB0 0x11AF8 (),
  .mk 0x11C00 0x11C08 (), .mk 0x11C0A 0x11C2E (), .mk 0x11C40 0x11C40 (), .mk 0x11C50 0x11C6C (),
  .mk 0x11C72 0x11C8F (), .mk 0x11D00 0x11D06 (), .mk 0x11D08 0x11D09 (), .mk 0x11D0B 0x11D30 (),
  .mk 0x11D46 0x11D46 (), .mk 0x11D50 0x11D59 (), .mk 0x11D60 0x11D65 (), .mk 0x11D67 0x11D68 (),
  .mk 0x11D6A 0x11D89 (), .mk 0x11D98 0x11D98 (), .mk 0x11DA0 0x11DA9 (), .mk 0x11EE0 0x11EF2 (),
  .mk 0x11FB0 0x11FB0 (), .mk 0x11FC0 0x11FD4 (), .mk 0x12000 0x12399 (), .mk 0x12400 0x1246E (),
  .mk 0x12480 0x12543 (), .mk 0x12F90 0x12FF0 (), .mk 0x13000 0x1342E (), .mk 0x14400 0x14646 (),
  .mk 0x16800 0x16A38 (), .mk 0x16A40 0x16A5E (), .mk 0x16A60 0x16A69 (), .mk 0x16A70 0x16ABE (),
  .mk 0x16AC0 0x16AC9 (), .mk 0x16AD0 0x16AED (), .mk 0x16B00 0x16B2F (), .mk 0x16B40 0x16B43 (),
  .mk 0x16B50 0x16B59 (), .mk 0x16B5B 0x16B61 (), .mk 0x16B63 0x16B77 (), .mk 0x16B7D 0x16B8F (),
  .mk 0x16E40 0x16E96 (), .mk 0x16F00 0x16F4A (), .mk 0x16F50 0x16F50 (), .mk 0x16F93 0x16F9F (),
  .mk 0x16FE0 0x16FE1 (), .mk 0x16FE3 0x16FE3 (), .mk 0x17000 0x187F7 (), .mk 0x18800 0x18CD5 (),
  .mk 0x18D00 0x18D08 (), .mk 0x1AFF0 0x1AFF3 (), .mk 0x1AFF5 0x1AFFB (), .mk 0x1AFFD 0x1AFFE ()]

def supplementaryKana : List (Range Unit) := [
  .mk 0x1B000 0x1B122 (), .mk 0x1B150 0x1B152 (), .mk 0x1B164 0x1B167 (), .mk 0x1B170 0x1B2FB (),
  .mk 0x1BC00 0x1BC6A (), .mk 0x1BC70 0x1BC7C (), .mk 0x1BC80 0x1BC88 (), .mk 0x1BC90 0x1BC99 ()]

def mathematical : List (Range Unit) := [
  .mk 0x1D2E0 0x1D2F3 (), .mk 0x1D360 0x1D378 (), .mk 0x1D400 0x1D454 (), .mk 0x1D456 0x1D49C (),
  .mk 0x1D49E 0x1D49F (), .mk 0x1D4A2 0x1D4A2 (), .mk 0x1D4A5 0x1D4A6 (), .mk 0x1D4A9 0x1D4AC (),
  .mk 0x1D4AE 0x1D4B9 (), .mk 0x1D4BB 0x1D4BB (), .mk 0x1D4BD 0x1D4C3 (), .mk 0x1D4C5 0x1D505 (),
  .mk 0x1D507 0x1D50A (), .mk 0x1D50D 0x1D514 (), .mk 0x1D516 0x1D51C (), .mk 0x1D51E 0x1D539 (),
  .mk 0x1D53B 0x1D53E (), .mk 0x1D540 0x1D544 (), .mk 0x1D546 0x1D546 (), .mk 0x1D54A 0x1D550 (),
  .mk 0x1D552 0x1D6A5 (), .mk 0x1D6A8 0x1D6C0 (), .mk 0x1D6C2 0x1D6DA (), .mk 0x1D6DC 0x1D6FA (),
  .mk 0x1D6FC 0x1D714 (), .mk 0x1D716 0x1D734 (), .mk 0x1D736 0x1D74E (), .mk 0x1D750 0x1D76E (),
  .mk 0x1D770 0x1D788 (), .mk 0x1D78A 0x1D7A8 (), .mk 0x1D7AA 0x1D7C2 (), .mk 0x1D7C4 0x1D7CB (),
  .mk 0x1D7CE 0x1D7FF (), .mk 0x1DF00 0x1DF1E ()]

def lateScripts : List (Range Unit) := [
  .mk 0x1E100 0x1E12C (), .mk 0x1E137 0x1E13D (), .mk 0x1E140 0x1E149 (), .mk 0x1E14E 0x1E14E (),
  .mk 0x1E290 0x1E2AD (), .mk 0x1E2C0 0x1E2EB (), .mk 0x1E2F0 0x1E2F9 (), .mk 0x1E7E0 0x1E7E6 (),
  .mk 0x1E7E8 0x1E7EB (), .mk 0x1E7ED 0x1E7EE (), .mk 0x1E7F0 0x1E7FE (), .mk 0x1E800 0x1E8C4 (),
  .mk 0x1E8C7 0x1E8CF (), .mk 0x1E900 0x1E943 (), .mk 0x1E94B 0x1E94B (), .mk 0x1E950 0x1E959 (),
  .mk 0x1EC71 0x1ECAB (), .mk 0x1ECAD 0x1ECAF (), .mk 0x1ECB1 0x1ECB4 (), .mk 0x1ED01 0x1ED2D (),
  .mk 0x1ED2F 0x1ED3D (), .mk 0x1EE00 0x1EE03 (), .mk 0x1EE05 0x1EE1F (), .mk 0x1EE21 0x1EE22 (),
  .mk 0x1EE24 0x1EE24 (), .mk 0x1EE27 0x1EE27 (), .mk 0x1EE29 0x1EE32 (), .mk 0x1EE34 0x1EE37 (),
  .mk 0x1EE39 0x1EE39 (), .mk 0x1EE3B 0x1EE3B (), .mk 0x1EE42 0x1EE42 (), .mk 0x1EE47 0x1EE47 (),
  .mk 0x1EE49 0x1EE49 (), .mk 0x1EE4B 0x1EE4B (), .mk 0x1EE4D 0x1EE4F (), .mk 0x1EE51 0x1EE52 (),
  .mk 0x1EE54 0x1EE54 (), .mk 0x1EE57 0x1EE57 (), .mk 0x1EE59 0x1EE59 (), .mk 0x1EE5B 0x1EE5B (),
  .mk 0x1EE5D 0x1EE5D (), .mk 0x1EE5F 0x1EE5F (), .mk 0x1EE61 0x1EE62 (), .mk 0x1EE64 0x1EE64 (),
  .mk 0x1EE67 0x1EE6A (), .mk 0x1EE6C 0x1EE72 (), .mk 0x1EE74 0x1EE77 (), .mk 0x1EE79 0x1EE7C (),
  .mk 0x1EE7E 0x1EE7E (), .mk 0x1EE80 0x1EE89 (), .mk 0x1EE8B 0x1EE9B (), .mk 0x1EEA1 0x1EEA3 (),
  .mk 0x1EEA5 0x1EEA9 (), .mk 0x1EEAB 0x1EEBB ()]

def pictographs : List (Range Unit) := [
  .mk 0x1F100 0x1F10C (), .mk 0x1FBF0 0x1FBF9 ()]

def supplementaryIdeographs : List (Range Unit) := [
  .mk 0x20000 0x2A6DF (), .mk 0x2A700 0x2B738 (), .mk 0x2B740 0x2B81D (), .mk 0x2B820 0x2CEA1 (),
  .mk 0x2CEB0 0x2EBE0 (), .mk 0x2F800 0x2FA1D (), .mk 0x30000 0x3134A ()]

/-- The letters and numbers. -/
def rows : List (Range Unit) :=
  latin ++ phonetic ++ greek ++ cyrillic ++ semitic ++ indic ++ southeastAsian ++ minorScripts ++
  phoneticExtensions ++ latinAdditional ++ greekExtended ++ symbols ++ supplements ++ eastAsian ++
  modernScripts ++ hangul ++ ideographs ++ presentationForms ++ halfAndFullWidth ++
  historicScripts ++ supplementaryKana ++ mathematical ++ lateScripts ++ pictographs ++
  supplementaryIdeographs

def tree : RangeTree Unit := .ofList rows

end LetterOrNumber

/-- Whether the general category is that of a letter or a number. -/
def isLetterOrNumber (c : Char) : Bool := LetterOrNumber.tree.contains c.toNat

end TextScan.Unicode
