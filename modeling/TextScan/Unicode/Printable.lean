import TextScan.Unicode.RangeTree

/-!
# Printable characters

A character is printable unless its general category is Cc, Cf, Cs, Co, Cn, Zl or Zp, or it is
a Zs other than the plain space. Unicode 14.0.
-/

namespace TextScan.Unicode

namespace Printable

def latin : List (Range Unit) := [
  .mk 0x0 0x1F (), .mk 0x7F 0xA0 (), .mk 0xAD 0xAD ()]

def greek : List (Range Unit) := [
  .mk 0x378 0x379 (), .mk 0x380 0x383 (), .mk 0x38B 0x38B (), .mk 0x38D 0x38D (),
  .mk 0x3A2 0x3A2 ()]

def cyrillic : List (Range Unit) := [
  .mk 0x530 0x530 (), .mk 0x557 0x558 (), .mk 0x58B 0x58C ()]

def semitic : List (Range Unit) := [
  .mk 0x590 0x590 (), .mk 0x5C8 0x5CF (), .mk 0x5EB 0x5EE (), .mk 0x5F5 0x605 (),
  .mk 0x61C 0x61C (), .mk 0x6DD 0x6DD (), .mk 0x70E 0x70F (), .mk 0x74B 0x74C (),
  .mk 0x7B2 0x7BF (), .mk 0x7FB 0x7FC (), .mk 0x82E 0x82F (), .mk 0x83F 0x83F (),
  .mk 0x85C 0x85D (), .mk 0x85F 0x85F (), .mk 0x86B 0x86F (), .mk 0x88F 0x897 (),
  .mk 0x8E2 0x8E2 ()]

def indic : List (Range Unit) := [
  .mk 0x984 0x984 (), .mk 0x98D 0x98E (), .mk 0x991 0x992 (), .mk 0x9A9 0x9A9 (),
  .mk 0x9B1 0x9B1 (), .mk 0x9B3 0x9B5 (), .mk 0x9BA 0x9BB (), .mk 0x9C5 0x9C6 (),
  .mk 0x9C9 0x9CA (), .mk 0x9CF 0x9D6 (), .mk 0x9D8 0x9DB (), .mk 0x9DE 0x9DE (),
  .mk 0x9E4 0x9E5 (), .mk 0x9FF 0xA00 (), .mk 0xA04 0xA04 (), .mk 0xA0B 0xA0E (),
  .mk 0xA11 0xA12 (), .mk 0xA29 0xA29 (), .mk 0xA31 0xA31 (), .mk 0xA34 0xA34 (),
  .mk 0xA37 0xA37 (), .mk 0xA3A 0xA3B (), .mk 0xA3D 0xA3D (), .mk 0xA43 0xA46 (),
  .mk 0xA49 0xA4A (), .mk 0xA4E 0xA50 (), .mk 0xA52 0xA58 (), .mk 0xA5D 0xA5D (),
  .mk 0xA5F 0xA65 (), .mk 0xA77 0xA80 (), .mk 0xA84 0xA84 (), .mk 0xA8E 0xA8E (),
  .mk 0xA92 0xA92 (), .mk 0xAA9 0xAA9 (), .mk 0xAB1 0xAB1 (), .mk 0xAB4 0xAB4 (),
  .mk 0xABA 0xABB (), .mk 0xAC6 0xAC6 (), .mk 0xACA 0xACA (), .mk 0xACE 0xACF (),
  .mk 0xAD1 0xADF (), .mk 0xAE4 0xAE5 (), .mk 0xAF2 0xAF8 (), .mk 0xB00 0xB00 (),
  .mk 0xB04 0xB04 (), .mk 0xB0D 0xB0E (), .mk 0xB11 0xB12 (), .mk 0xB29 0xB29 (),
  .mk 0xB31 0xB31 (), .mk 0xB34 0xB34 (), .mk 0xB3A 0xB3B (), .mk 0xB45 0xB46 (),
  .mk 0xB49 0xB4A (), .mk 0xB4E 0xB54 (), .mk 0xB58 0xB5B (), .mk 0xB5E 0xB5E (),
  .mk 0xB64 0xB65 (), .mk 0xB78 0xB81 (), .mk 0xB84 0xB84 (), .mk 0xB8B 0xB8D (),
  .mk 0xB91 0xB91 (), .mk 0xB96 0xB98 (), .mk 0xB9B 0xB9B (), .mk 0xB9D 0xB9D (),
  .mk 0xBA0 0xBA2 (), .mk 0xBA5 0xBA7 (), .mk 0xBAB 0xBAD (), .mk 0xBBA 0xBBD (),
  .mk 0xBC3 0xBC5 (), .mk 0xBC9 0xBC9 (), .mk 0xBCE 0xBCF (), .mk 0xBD1 0xBD6 (),
  .mk 0xBD8 0xBE5 (), .mk 0xBFB 0xBFF (), .mk 0xC0D 0xC0D (), .mk 0xC11 0xC11 (),
  .mk 0xC29 0xC29 (), .mk 0xC3A 0xC3B (), .mk 0xC45 0xC45 (), .mk 0xC49 0xC49 (),
  .mk 0xC4E 0xC54 (), .mk 0xC57 0xC57 (), .mk 0xC5B 0xC5C (), .mk 0xC5E 0xC5F (),
  .mk 0xC64 0xC65 (), .mk 0xC70 0xC76 (), .mk 0xC8D 0xC8D (), .mk 0xC91 0xC91 (),
  .mk 0xCA9 0xCA9 (), .mk 0xCB4 0xCB4 (), .mk 0xCBA 0xCBB (), .mk 0xCC5 0xCC5 (),
  .mk 0xCC9 0xCC9 (), .mk 0xCCE 0xCD4 (), .mk 0xCD7 0xCDC (), .mk 0xCDF 0xCDF (),
  .mk 0xCE4 0xCE5 (), .mk 0xCF0 0xCF0 (), .mk 0xCF3 0xCFF (), .mk 0xD0D 0xD0D (),
  .mk 0xD11 0xD11 (), .mk 0xD45 0xD45 (), .mk 0xD49 0xD49 (), .mk 0xD50 0xD53 (),
  .mk 0xD64 0xD65 (), .mk 0xD80 0xD80 (), .mk 0xD84 0xD84 (), .mk 0xD97 0xD99 (),
  .mk 0xDB2 0xDB2 (), .mk 0xDBC 0xDBC (), .mk 0xDBE 0xDBF (), .mk 0xDC7 0xDC9 (),
  .mk 0xDCB 0xDCE (), .mk 0xDD5 0xDD5 (), .mk 0xDD7 0xDD7 (), .mk 0xDE0 0xDE5 (),
  .mk 0xDF0 0xDF1 (), .mk 0xDF5 0xE00 ()]

def southeastAsian : List (Range Unit) := [
  .mk 0xE3B 0xE3E (), .mk 0xE5C 0xE80 (), .mk 0xE83 0xE83 (), .mk 0xE85 0xE85 (),
  .mk 0xE8B 0xE8B (), .mk 0xEA4 0xEA4 (), .mk 0xEA6 0xEA6 (), .mk 0xEBE 0xEBF (),
  .mk 0xEC5 0xEC5 (), .mk 0xEC7 0xEC7 (), .mk 0xECE 0xECF (), .mk 0xEDA 0xEDB (),
  .mk 0xEE0 0xEFF (), .mk 0xF48 0xF48 (), .mk 0xF6D 0xF70 (), .mk 0xF98 0xF98 (),
  .mk 0xFBD 0xFBD (), .mk 0xFCD 0xFCD (), .mk 0xFDB 0xFFF (), .mk 0x10C6 0x10C6 (),
  .mk 0x10C8 0x10CC (), .mk 0x10CE 0x10CF (), .mk 0x1249 0x1249 (), .mk 0x124E 0x124F (),
  .mk 0x1257 0x1257 (), .mk 0x1259 0x1259 (), .mk 0x125E 0x125F (), .mk 0x1289 0x1289 (),
  .mk 0x128E 0x128F (), .mk 0x12B1 0x12B1 (), .mk 0x12B6 0x12B7 (), .mk 0x12BF 0x12BF (),
  .mk 0x12C1 0x12C1 (), .mk 0x12C6 0x12C7 (), .mk 0x12D7 0x12D7 (), .mk 0x1311 0x1311 (),
  .mk 0x1316 0x1317 (), .mk 0x135B 0x135C (), .mk 0x137D 0x137F (), .mk 0x139A 0x139F (),
  .mk 0x13F6 0x13F7 (), .mk 0x13FE 0x13FF (), .mk 0x1680 0x1680 (), .mk 0x169D 0x169F (),
  .mk 0x16F9 0x16FF (), .mk 0x1716 0x171E (), .mk 0x1737 0x173F (), .mk 0x1754 0x175F (),
  .mk 0x176D 0x176D (), .mk 0x1771 0x1771 (), .mk 0x1774 0x177F (), .mk 0x17DE 0x17DF (),
  .mk 0x17EA 0x17EF (), .mk 0x17FA 0x17FF (), .mk 0x180E 0x180E (), .mk 0x181A 0x181F (),
  .mk 0x1879 0x187F (), .mk 0x18AB 0x18AF (), .mk 0x18F6 0x18FF ()]

def minorScripts : List (Range Unit) := [
  .mk 0x191F 0x191F (), .mk 0x192C 0x192F (), .mk 0x193C 0x193F (), .mk 0x1941 0x1943 (),
  .mk 0x196E 0x196F (), .mk 0x1975 0x197F (), .mk 0x19AC 0x19AF (), .mk 0x19CA 0x19CF (),
  .mk 0x19DB 0x19DD (), .mk 0x1A1C 0x1A1D (), .mk 0x1A5F 0x1A5F (), .mk 0x1A7D 0x1A7E (),
  .mk 0x1A8A 0x1A8F (), .mk 0x1A9A 0x1A9F (), .mk 0x1AAE 0x1AAF (), .mk 0x1ACF 0x1AFF (),
  .mk 0x1B4D 0x1B4F (), .mk 0x1B7F 0x1B7F (), .mk 0x1BF4 0x1BFB (), .mk 0x1C38 0x1C3A (),
  .mk 0x1C4A 0x1C4C (), .mk 0x1C89 0x1C8F (), .mk 0x1CBB 0x1CBC (), .mk 0x1CC8 0x1CCF (),
  .mk 0x1CFB 0x1CFF ()]

def greekExtended : List (Range Unit) := [
  .mk 0x1F16 0x1F17 (), .mk 0x1F1E 0x1F1F (), .mk 0x1F46 0x1F47 (), .mk 0x1F4E 0x1F4F (),
  .mk 0x1F58 0x1F58 (), .mk 0x1F5A 0x1F5A (), .mk 0x1F5C 0x1F5C (), .mk 0x1F5E 0x1F5E (),
  .mk 0x1F7E 0x1F7F (), .mk 0x1FB5 0x1FB5 (), .mk 0x1FC5 0x1FC5 (), .mk 0x1FD4 0x1FD5 (),
  .mk 0x1FDC 0x1FDC (), .mk 0x1FF0 0x1FF1 (), .mk 0x1FF5 0x1FF5 (), .mk 0x1FFF 0x200F ()]

def symbols : List (Range Unit) := [
  .mk 0x2028 0x202F (), .mk 0x205F 0x206F (), .mk 0x2072 0x2073 (), .mk 0x208F 0x208F (),
  .mk 0x209D 0x209F (), .mk 0x20C1 0x20CF (), .mk 0x20F1 0x20FF (), .mk 0x218C 0x218F (),
  .mk 0x2427 0x243F (), .mk 0x244B 0x245F (), .mk 0x2B74 0x2B75 (), .mk 0x2B96 0x2B96 ()]

def supplements : List (Range Unit) := [
  .mk 0x2CF4 0x2CF8 (), .mk 0x2D26 0x2D26 (), .mk 0x2D28 0x2D2C (), .mk 0x2D2E 0x2D2F (),
  .mk 0x2D68 0x2D6E (), .mk 0x2D71 0x2D7E (), .mk 0x2D97 0x2D9F (), .mk 0x2DA7 0x2DA7 (),
  .mk 0x2DAF 0x2DAF (), .mk 0x2DB7 0x2DB7 (), .mk 0x2DBF 0x2DBF (), .mk 0x2DC7 0x2DC7 (),
  .mk 0x2DCF 0x2DCF (), .mk 0x2DD7 0x2DD7 (), .mk 0x2DDF 0x2DDF (), .mk 0x2E5E 0x2E7F ()]

def eastAsian : List (Range Unit) := [
  .mk 0x2E9A 0x2E9A (), .mk 0x2EF4 0x2EFF (), .mk 0x2FD6 0x2FEF (), .mk 0x2FFC 0x3000 (),
  .mk 0x3040 0x3040 (), .mk 0x3097 0x3098 (), .mk 0x3100 0x3104 (), .mk 0x3130 0x3130 (),
  .mk 0x318F 0x318F (), .mk 0x31E4 0x31EF (), .mk 0x321F 0x321F ()]

def modernScripts : List (Range Unit) := [
  .mk 0xA48D 0xA48F (), .mk 0xA4C7 0xA4CF (), .mk 0xA62C 0xA63F (), .mk 0xA6F8 0xA6FF (),
  .mk 0xA7CB 0xA7CF (), .mk 0xA7D2 0xA7D2 (), .mk 0xA7D4 0xA7D4 (), .mk 0xA7DA 0xA7F1 (),
  .mk 0xA82D 0xA82F (), .mk 0xA83A 0xA83F (), .mk 0xA878 0xA87F (), .mk 0xA8C6 0xA8CD (),
  .mk 0xA8DA 0xA8DF (), .mk 0xA954 0xA95E (), .mk 0xA97D 0xA97F (), .mk 0xA9CE 0xA9CE (),
  .mk 0xA9DA 0xA9DD (), .mk 0xA9FF 0xA9FF (), .mk 0xAA37 0xAA3F (), .mk 0xAA4E 0xAA4F (),
  .mk 0xAA5A 0xAA5B (), .mk 0xAAC3 0xAADA (), .mk 0xAAF7 0xAB00 (), .mk 0xAB07 0xAB08 (),
  .mk 0xAB0F 0xAB10 (), .mk 0xAB17 0xAB1F (), .mk 0xAB27 0xAB27 (), .mk 0xAB2F 0xAB2F (),
  .mk 0xAB6C 0xAB6F (), .mk 0xABEE 0xABEF (), .mk 0xABFA 0xABFF ()]

def hangul : List (Range Unit) := [
  .mk 0xD7A4 0xD7AF (), .mk 0xD7C7 0xD7CA ()]

def surrogates : List (Range Unit) := [
  .mk 0xD7FC 0xF8FF ()]

def ideographs : List (Range Unit) := [
  .mk 0xFA6E 0xFA6F (), .mk 0xFADA 0xFAFF ()]

def presentationForms : List (Range Unit) := [
  .mk 0xFB07 0xFB12 (), .mk 0xFB18 0xFB1C (), .mk 0xFB37 0xFB37 (), .mk 0xFB3D 0xFB3D (),
  .mk 0xFB3F 0xFB3F (), .mk 0xFB42 0xFB42 (), .mk 0xFB45 0xFB45 (), .mk 0xFBC3 0xFBD2 (),
  .mk 0xFD90 0xFD91 (), .mk 0xFDC8 0xFDCE (), .mk 0xFDD0 0xFDEF ()]

def halfAndFullWidth : List (Range Unit) := [
  .mk 0xFE1A 0xFE1F (), .mk 0xFE53 0xFE53 (), .mk 0xFE67 0xFE67 (), .mk 0xFE6C 0xFE6F (),
  .mk 0xFE75 0xFE75 (), .mk 0xFEFD 0xFF00 (), .mk 0xFFBF 0xFFC1 (), .mk 0xFFC8 0xFFC9 (),
  .mk 0xFFD0 0xFFD1 (), .mk 0xFFD8 0xFFD9 (), .mk 0xFFDD 0xFFDF (), .mk 0xFFE7 0xFFE7 (),
  .mk 0xFFEF 0xFFFB (), .mk 0xFFFE 0xFFFF ()]

def historicScripts : List (Range Unit) := [
  .mk 0x1000C 0x1000C (), .mk 0x10027 0x10027 (), .mk 0x1003B 0x1003B (), .mk 0x1003E 0x1003E (),
  .mk 0x1004E 0x1004F (), .mk 0x1005E 0x1007F (), .mk 0x100FB 0x100FF (), .mk 0x10103 0x10106 (),
  .mk 0x10134 0x10136 (), .mk 0x1018F 0x1018F (), .mk 0x1019D 0x1019F (), .mk 0x101A1 0x101CF (),
  .mk 0x101FE 0x1027F (), .mk 0x1029D 0x1029F (), .mk 0x102D1 0x102DF (), .mk 0x102FC 0x102FF (),
  .mk 0x10324 0x1032C (), .mk 0x1034B 0x1034F (), .mk 0x1037B 0x1037F (), .mk 0x1039E 0x1039E (),
  .mk 0x103C4 0x103C7 (), .mk 0x103D6 0x103FF (), .mk 0x1049E 0x1049F (), .mk 0x104AA 0x104AF (),
  .mk 0x104D4 0x104D7 (), .mk 0x104FC 0x104FF (), .mk 0x10528 0x1052F (), .mk 0x10564 0x1056E (),
  .mk 0x1057B 0x1057B (), .mk 0x1058B 0x1058B (), .mk 0x10593 0x10593 (), .mk 0x10596 0x10596 (),
  .mk 0x105A2 0x105A2 (), .mk 0x105B2 0x105B2 (), .mk 0x105BA 0x105BA (), .mk 0x105BD 0x105FF (),
  .mk 0x10737 0x1073F (), .mk 0x10756 0x1075F (), .mk 0x10768 0x1077F (), .mk 0x10786 0x10786 (),
  .mk 0x107B1 0x107B1 (), .mk 0x107BB 0x107FF (), .mk 0x10806 0x10807 (), .mk 0x10809 0x10809 (),
  .mk 0x10836 0x10836 (), .mk 0x10839 0x1083B (), .mk 0x1083D 0x1083E (), .mk 0x10856 0x10856 (),
  .mk 0x1089F 0x108A6 (), .mk 0x108B0 0x108DF (), .mk 0x108F3 0x108F3 (), .mk 0x108F6 0x108FA (),
  .mk 0x1091C 0x1091E (), .mk 0x1093A 0x1093E (), .mk 0x10940 0x1097F (), .mk 0x109B8 0x109BB (),
  .mk 0x109D0 0x109D1 (), .mk 0x10A04 0x10A04 (), .mk 0x10A07 0x10A0B (), .mk 0x10A14 0x10A14 (),
  .mk 0x10A18 0x10A18 (), .mk 0x10A36 0x10A37 (), .mk 0x10A3B 0x10A3E (), .mk 0x10A49 0x10A4F (),
  .mk 0x10A59 0x10A5F (), .mk 0x10AA0 0x10ABF (), .mk 0x10AE7 0x10AEA (), .mk 0x10AF7 0x10AFF (),
  .mk 0x10B36 0x10B38 (), .mk 0x10B56 0x10B57 (), .mk 0x10B73 0x10B77 (), .mk 0x10B92 0x10B98 (),
  .mk 0x10B9D 0x10BA8 (), .mk 0x10BB0 0x10BFF (), .mk 0x10C49 0x10C7F (), .mk 0x10CB3 0x10CBF (),
  .mk 0x10CF3 0x10CF9 (), .mk 0x10D28 0x10D2F (), .mk 0x10D3A 0x10E5F (), .mk 0x10E7F 0x10E7F (),
  .mk 0x10EAA 0x10EAA (), .mk 0x10EAE 0x10EAF (), .mk 0x10EB2 0x10EFF (), .mk 0x10F28 0x10F2F (),
  .mk 0x10F5A 0x10F6F (), .mk 0x10F8A 0x10FAF (), .mk 0x10FCC 0x10FDF (), .mk 0x10FF7 0x10FFF (),
  .mk 0x1104E 0x11051 (), .mk 0x11076 0x1107E (), .mk 0x110BD 0x110BD (), .mk 0x110C3 0x110CF (),
  .mk 0x110E9 0x110EF (), .mk 0x110FA 0x110FF (), .mk 0x11135 0x11135 (), .mk 0x11148 0x1114F (),
  .mk 0x11177 0x1117F (), .mk 0x111E0 0x111E0 (), .mk 0x111F5 0x111FF (), .mk 0x11212 0x11212 (),
  .mk 0x1123F 0x1127F (), .mk 0x11287 0x11287 (), .mk 0x11289 0x11289 (), .mk 0x1128E 0x1128E (),
  .mk 0x1129E 0x1129E (), .mk 0x112AA 0x112AF (), .mk 0x112EB 0x112EF (), .mk 0x112FA 0x112FF (),
  .mk 0x11304 0x11304 (), .mk 0x1130D 0x1130E (), .mk 0x11311 0x11312 (), .mk 0x11329 0x11329 (),
  .mk 0x11331 0x11331 (), .mk 0x11334 0x11334 (), .mk 0x1133A 0x1133A (), .mk 0x11345 0x11346 (),
  .mk 0x11349 0x1134A (), .mk 0x1134E 0x1134F (), .mk 0x11351 0x11356 (), .mk 0x11358 0x1135C (),
  .mk 0x11364 0x11365 (), .mk 0x1136D 0x1136F (), .mk 0x11375 0x113FF (), .mk 0x1145C 0x1145C (),
  .mk 0x11462 0x1147F (), .mk 0x114C8 0x114CF (), .mk 0x114DA 0x1157F (), .mk 0x115B6 0x115B7 (),
  .mk 0x115DE 0x115FF (), .mk 0x11645 0x1164F (), .mk 0x1165A 0x1165F (), .mk 0x1166D 0x1167F (),
  .mk 0x116BA 0x116BF (), .mk 0x116CA 0x116FF (), .mk 0x1171B 0x1171C (), .mk 0x1172C 0x1172F (),
  .mk 0x11747 0x117FF (), .mk 0x1183C 0x1189F (), .mk 0x118F3 0x118FE (), .mk 0x11907 0x11908 (),
  .mk 0x1190A 0x1190B (), .mk 0x11914 0x11914 (), .mk 0x11917 0x11917 (), .mk 0x11936 0x11936 (),
  .mk 0x11939 0x1193A (), .mk 0x11947 0x1194F (), .mk 0x1195A 0x1199F (), .mk 0x119A8 0x119A9 (),
  .mk 0x119D8 0x119D9 (), .mk 0x119E5 0x119FF (), .mk 0x11A48 0x11A4F (), .mk 0x11AA3 0x11AAF (),
  .mk 0x11AF9 0x11BFF (), .mk 0x11C09 0x11C09 (), .mk 0x11C37 0x11C37 (), .mk 0x11C46 0x11C4F (),
  .mk 0x11C6D 0x11C6F (), .mk 0x11C90 0x11C91 (), .mk 0x11CA8 0x11CA8 (), .mk 0x11CB7 0x11CFF (),
  .mk 0x11D07 0x11D07 (), .mk 0x11D0A 0x11D0A (), .mk 0x11D37 0x11D39 (), .mk 0x11D3B 0x11D3B (),
  .mk 0x11D3E 0x11D3E (), .mk 0x11D48 0x11D4F (), .mk 0x11D5A 0x11D5F (), .mk 0x11D66 0x11D66 (),
  .mk 0x11D69 0x11D69 (), .mk 0x11D8F 0x11D8F (), .mk 0x11D92 0x11D92 (), .mk 0x11D99 0x11D9F (),
  .mk 0x11DAA 0x11EDF (), .mk 0x11EF9 0x11FAF (), .mk 0x11FB1 0x11FBF (), .mk 0x11FF2 0x11FFE (),
  .mk 0x1239A 0x123FF (), .mk 0x1246F 0x1246F (), .mk 0x12475 0x1247F (), .mk 0x12544 0x12F8F (),
  .mk 0x12FF3 0x12FFF (), .mk 0x1342F 0x143FF (), .mk 0x14647 0x167FF (), .mk 0x16A39 0x16A3F (),
  .mk 0x16A5F 0x16A5F (), .mk 0x16A6A 0x16A6D (), .mk 0x16ABF 0x16ABF (), .mk 0x16ACA 0x16ACF (),
  .mk 0x16AEE 0x16AEF (), .mk 0x16AF6 0x16AFF (), .mk 0x16B46 0x16B4F (), .mk 0x16B5A 0x16B5A (),
  .mk 0x16B62 0x16B62 (), .mk 0x16B78 0x16B7C (), .mk 0x16B90 0x16E3F (), .mk 0x16E9B 0x16EFF (),
  .mk 0x16F4B 0x16F4E (), .mk 0x16F88 0x16F8E (), .mk 0x16FA0 0x16FDF (), .mk 0x16FE5 0x16FEF (),
  .mk 0x16FF2 0x16FFF (), .mk 0x187F8 0x187FF (), .mk 0x18CD6 0x18CFF (), .mk 0x18D09 0x1AFEF (),
  .mk 0x1AFF4 0x1AFF4 (), .mk 0x1AFFC 0x1AFFC (), .mk 0x1AFFF 0x1AFFF ()]

def supplementaryKana : List (Range Unit) := [
  .mk 0x1B123 0x1B14F (), .mk 0x1B153 0x1B163 (), .mk 0x1B168 0x1B16F (), .mk 0x1B2FC 0x1BBFF (),
  .mk 0x1BC6B 0x1BC6F (), .mk 0x1BC7D 0x1BC7F (), .mk 0x1BC89 0x1BC8F (), .mk 0x1BC9A 0x1BC9B (),
  .mk 0x1BCA0 0x1CEFF (), .mk 0x1CF2E 0x1CF2F (), .mk 0x1CF47 0x1CF4F (), .mk 0x1CFC4 0x1CFFF ()]

def mathematical : List (Range Unit) := [
  .mk 0x1D0F6 0x1D0FF (), .mk 0x1D127 0x1D128 (), .mk 0x1D173 0x1D17A (), .mk 0x1D1EB 0x1D1FF (),
  .mk 0x1D246 0x1D2DF (), .mk 0x1D2F4 0x1D2FF (), .mk 0x1D357 0x1D35F (), .mk 0x1D379 0x1D3FF (),
  .mk 0x1D455 0x1D455 (), .mk 0x1D49D 0x1D49D (), .mk 0x1D4A0 0x1D4A1 (), .mk 0x1D4A3 0x1D4A4 (),
  .mk 0x1D4A7 0x1D4A8 (), .mk 0x1D4AD 0x1D4AD (), .mk 0x1D4BA 0x1D4BA (), .mk 0x1D4BC 0x1D4BC (),
  .mk 0x1D4C4 0x1D4C4 (), .mk 0x1D506 0x1D506 (), .mk 0x1D50B 0x1D50C (), .mk 0x1D515 0x1D515 (),
  .mk 0x1D51D 0x1D51D (), .mk 0x1D53A 0x1D53A (), .mk 0x1D53F 0x1D53F (), .mk 0x1D545 0x1D545 (),
  .mk 0x1D547 0x1D549 (), .mk 0x1D551 0x1D551 (), .mk 0x1D6A6 0x1D6A7 (), .mk 0x1D7CC 0x1D7CD (),
  .mk 0x1DA8C 0x1DA9A (), .mk 0x1DAA0 0x1DAA0 (), .mk 0x1DAB0 0x1DEFF (), .mk 0x1DF1F 0x1DFFF ()]

def lateScripts : List (Range Unit) := [
  .mk 0x1E007 0x1E007 (), .mk 0x1E019 0x1E01A (), .mk 0x1E022 0x1E022 (), .mk 0x1E025 0x1E025 (),
  .mk 0x1E02B 0x1E0FF (), .mk 0x1E12D 0x1E12F (), .mk 0x1E13E 0x1E13F (), .mk 0x1E14A 0x1E14D (),
  .mk 0x1E150 0x1E28F (), .mk 0x1E2AF 0x1E2BF (), .mk 0x1E2FA 0x1E2FE (), .mk 0x1E300 0x1E7DF (),
  .mk 0x1E7E7 0x1E7E7 (), .mk 0x1E7EC 0x1E7EC (), .mk 0x1E7EF 0x1E7EF (), .mk 0x1E7FF 0x1E7FF (),
  .mk 0x1E8C5 0x1E8C6 (), .mk 0x1E8D7 0x1E8FF (), .mk 0x1E94C 0x1E94F (), .mk 0x1E95A 0x1E95D (),
  .mk 0x1E960 0x1EC70 (), .mk 0x1ECB5 0x1ED00 (), .mk 0x1ED3E 0x1EDFF (), .mk 0x1EE04 0x1EE04 (),
  .mk 0x1EE20 0x1EE20 (), .mk 0x1EE23 0x1EE23 (), .mk 0x1EE25 0x1EE26 (), .mk 0x1EE28 0x1EE28 (),
  .mk 0x1EE33 0x1EE33 (), .mk 0x1EE38 0x1EE38 (), .mk 0x1EE3A 0x1EE3A (), .mk 0x1EE3C 0x1EE41 (),
  .mk 0x1EE43 0x1EE46 (), .mk 0x1EE48 0x1EE48 (), .mk 0x1EE4A 0x1EE4A (), .mk 0x1EE4C 0x1EE4C (),
  .mk 0x1EE50 0x1EE50 (), .mk 0x1EE53 0x1EE53 (), .mk 0x1EE55 0x1EE56 (), .mk 0x1EE58 0x1EE58 (),
  .mk 0x1EE5A 0x1EE5A (), .mk 0x1EE5C 0x1EE5C (), .mk 0x1EE5E 0x1EE5E (), .mk 0x1EE60 0x1EE60 (),
  .mk 0x1EE63 0x1EE63 (), .mk 0x1EE65 0x1EE66 (), .mk 0x1EE6B 0x1EE6B (), .mk 0x1EE73 0x1EE73 (),
  .mk 0x1EE78 0x1EE78 (), .mk 0x1EE7D 0x1EE7D (), .mk 0x1EE7F 0x1EE7F (), .mk 0x1EE8A 0x1EE8A (),
  .mk 0x1EE9C 0x1EEA0 (), .mk 0x1EEA4 0x1EEA4 (), .mk 0x1EEAA 0x1EEAA (), .mk 0x1EEBC 0x1EEEF (),
  .mk 0x1EEF2 0x1EFFF ()]

def pictographs : List (Range Unit) := [
  .mk 0x1F02C 0x1F02F (), .mk 0x1F094 0x1F09F (), .mk 0x1F0AF 0x1F0B0 (), .mk 0x1F0C0 0x1F0C0 (),
  .mk 0x1F0D0 0x1F0D0 (), .mk 0x1F0F6 0x1F0FF (), .mk 0x1F1AE 0x1F1E5 (), .mk 0x1F203 0x1F20F (),
  .mk 0x1F23C 0x1F23F (), .mk 0x1F249 0x1F24F (), .mk 0x1F252 0x1F25F (), .mk 0x1F266 0x1F2FF (),
  .mk 0x1F6D8 0x1F6DC (), .mk 0x1F6ED 0x1F6EF (), .mk 0x1F6FD 0x1F6FF (), .mk 0x1F774 0x1F77F (),
  .mk 0x1F7D9 0x1F7DF (), .mk 0x1F7EC 0x1F7EF (), .mk 0x1F7F1 0x1F7FF (), .mk 0x1F80C 0x1F80F (),
  .mk 0x1F848 0x1F84F (), .mk 0x1F85A 0x1F85F (), .mk 0x1F888 0x1F88F (), .mk 0x1F8AE 0x1F8AF (),
  .mk 0x1F8B2 0x1F8FF (), .mk 0x1FA54 0x1FA5F (), .mk 0x1FA6E 0x1FA6F (), .mk 0x1FA75 0x1FA77 (),
  .mk 0x1FA7D 0x1FA7F (), .mk 0x1FA87 0x1FA8F (), .mk 0x1FAAD 0x1FAAF (), .mk 0x1FABB 0x1FABF (),
  .mk 0x1FAC6 0x1FACF (), .mk 0x1FADA 0x1FADF (), .mk 0x1FAE8 0x1FAEF (), .mk 0x1FAF7 0x1FAFF (),
  .mk 0x1FB93 0x1FB93 (), .mk 0x1FBCB 0x1FBEF (), .mk 0x1FBFA 0x1FFFF ()]

def supplementaryIdeographs : List (Range Unit) := [
  .mk 0x2A6E0 0x2A6FF (), .mk 0x2B739 0x2B73F (), .mk 0x2B81E 0x2B81F (), .mk 0x2CEA2 0x2CEAF (),
  .mk 0x2EBE1 0x2F7FF (), .mk 0x2FA1E 0x2FFFF (), .mk 0x3134B 0xE00FF (), .mk 0xE01F0 0x10FFFF ()]

/-- The characters that are not printable. -/
def exceptions : List (Range Unit) :=
  latin ++ greek ++ cyrillic ++ semitic ++ indic ++ southeastAsian ++ minorScripts ++
  greekExtended ++ symbols ++ supplements ++ eastAsian ++ modernScripts ++ hangul ++ surrogates ++
  ideographs ++ presentationForms ++ halfAndFullWidth ++ historicScripts ++ supplementaryKana ++
  mathematical ++ lateScripts ++ pictographs ++ supplementaryIdeographs

def tree : RangeTree Unit := .ofList exceptions

end Printable

/-- Whether a character can stand for itself in quoted text. -/
def isPrintable (c : Char) : Bool := !Printable.tree.contains c.toNat

end TextScan.Unicode
