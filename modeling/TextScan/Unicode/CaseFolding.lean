import TextScan.Unicode.Mapping

/-!
# Full case folding

What a character becomes when differences of case are dropped: its common and its full folding.
A folding may be longer than one character. Unicode 14.0.
-/

namespace TextScan.Unicode

namespace CaseFolding

def latin : List Mapping := [
  .mk 0x41 0x5A [0x61], .mk 0xB5 0xB5 [0x3BC], .mk 0xC0 0xD6 [0xE0], .mk 0xD8 0xDE [0xF8],
  .mk 0xDF 0xDF [0x73, 0x73], .mk 0x100 0x100 [0x101], .mk 0x102 0x102 [0x103],
  .mk 0x104 0x104 [0x105], .mk 0x106 0x106 [0x107], .mk 0x108 0x108 [0x109],
  .mk 0x10A 0x10A [0x10B], .mk 0x10C 0x10C [0x10D], .mk 0x10E 0x10E [0x10F],
  .mk 0x110 0x110 [0x111], .mk 0x112 0x112 [0x113], .mk 0x114 0x114 [0x115],
  .mk 0x116 0x116 [0x117], .mk 0x118 0x118 [0x119], .mk 0x11A 0x11A [0x11B],
  .mk 0x11C 0x11C [0x11D], .mk 0x11E 0x11E [0x11F], .mk 0x120 0x120 [0x121],
  .mk 0x122 0x122 [0x123], .mk 0x124 0x124 [0x125], .mk 0x126 0x126 [0x127],
  .mk 0x128 0x128 [0x129], .mk 0x12A 0x12A [0x12B], .mk 0x12C 0x12C [0x12D],
  .mk 0x12E 0x12E [0x12F], .mk 0x130 0x130 [0x69, 0x307], .mk 0x132 0x132 [0x133],
  .mk 0x134 0x134 [0x135], .mk 0x136 0x136 [0x137], .mk 0x139 0x139 [0x13A],
  .mk 0x13B 0x13B [0x13C], .mk 0x13D 0x13D [0x13E], .mk 0x13F 0x13F [0x140],
  .mk 0x141 0x141 [0x142], .mk 0x143 0x143 [0x144], .mk 0x145 0x145 [0x146],
  .mk 0x147 0x147 [0x148], .mk 0x149 0x149 [0x2BC, 0x6E], .mk 0x14A 0x14A [0x14B],
  .mk 0x14C 0x14C [0x14D], .mk 0x14E 0x14E [0x14F], .mk 0x150 0x150 [0x151],
  .mk 0x152 0x152 [0x153], .mk 0x154 0x154 [0x155], .mk 0x156 0x156 [0x157],
  .mk 0x158 0x158 [0x159], .mk 0x15A 0x15A [0x15B], .mk 0x15C 0x15C [0x15D],
  .mk 0x15E 0x15E [0x15F], .mk 0x160 0x160 [0x161], .mk 0x162 0x162 [0x163],
  .mk 0x164 0x164 [0x165], .mk 0x166 0x166 [0x167], .mk 0x168 0x168 [0x169],
  .mk 0x16A 0x16A [0x16B], .mk 0x16C 0x16C [0x16D], .mk 0x16E 0x16E [0x16F],
  .mk 0x170 0x170 [0x171], .mk 0x172 0x172 [0x173], .mk 0x174 0x174 [0x175],
  .mk 0x176 0x176 [0x177], .mk 0x178 0x178 [0xFF], .mk 0x179 0x179 [0x17A], .mk 0x17B 0x17B [0x17C],
  .mk 0x17D 0x17D [0x17E], .mk 0x17F 0x17F [0x73], .mk 0x181 0x181 [0x253], .mk 0x182 0x182 [0x183],
  .mk 0x184 0x184 [0x185], .mk 0x186 0x186 [0x254], .mk 0x187 0x187 [0x188],
  .mk 0x189 0x18A [0x256], .mk 0x18B 0x18B [0x18C], .mk 0x18E 0x18E [0x1DD],
  .mk 0x18F 0x18F [0x259], .mk 0x190 0x190 [0x25B], .mk 0x191 0x191 [0x192],
  .mk 0x193 0x193 [0x260], .mk 0x194 0x194 [0x263], .mk 0x196 0x196 [0x269],
  .mk 0x197 0x197 [0x268], .mk 0x198 0x198 [0x199], .mk 0x19C 0x19C [0x26F],
  .mk 0x19D 0x19D [0x272], .mk 0x19F 0x19F [0x275], .mk 0x1A0 0x1A0 [0x1A1],
  .mk 0x1A2 0x1A2 [0x1A3], .mk 0x1A4 0x1A4 [0x1A5], .mk 0x1A6 0x1A6 [0x280],
  .mk 0x1A7 0x1A7 [0x1A8], .mk 0x1A9 0x1A9 [0x283], .mk 0x1AC 0x1AC [0x1AD],
  .mk 0x1AE 0x1AE [0x288], .mk 0x1AF 0x1AF [0x1B0], .mk 0x1B1 0x1B2 [0x28A],
  .mk 0x1B3 0x1B3 [0x1B4], .mk 0x1B5 0x1B5 [0x1B6], .mk 0x1B7 0x1B7 [0x292],
  .mk 0x1B8 0x1B8 [0x1B9], .mk 0x1BC 0x1BC [0x1BD], .mk 0x1C4 0x1C4 [0x1C6],
  .mk 0x1C5 0x1C5 [0x1C6], .mk 0x1C7 0x1C7 [0x1C9], .mk 0x1C8 0x1C8 [0x1C9],
  .mk 0x1CA 0x1CA [0x1CC], .mk 0x1CB 0x1CB [0x1CC], .mk 0x1CD 0x1CD [0x1CE],
  .mk 0x1CF 0x1CF [0x1D0], .mk 0x1D1 0x1D1 [0x1D2], .mk 0x1D3 0x1D3 [0x1D4],
  .mk 0x1D5 0x1D5 [0x1D6], .mk 0x1D7 0x1D7 [0x1D8], .mk 0x1D9 0x1D9 [0x1DA],
  .mk 0x1DB 0x1DB [0x1DC], .mk 0x1DE 0x1DE [0x1DF], .mk 0x1E0 0x1E0 [0x1E1],
  .mk 0x1E2 0x1E2 [0x1E3], .mk 0x1E4 0x1E4 [0x1E5], .mk 0x1E6 0x1E6 [0x1E7],
  .mk 0x1E8 0x1E8 [0x1E9], .mk 0x1EA 0x1EA [0x1EB], .mk 0x1EC 0x1EC [0x1ED],
  .mk 0x1EE 0x1EE [0x1EF], .mk 0x1F0 0x1F0 [0x6A, 0x30C], .mk 0x1F1 0x1F1 [0x1F3],
  .mk 0x1F2 0x1F2 [0x1F3], .mk 0x1F4 0x1F4 [0x1F5], .mk 0x1F6 0x1F6 [0x195],
  .mk 0x1F7 0x1F7 [0x1BF], .mk 0x1F8 0x1F8 [0x1F9], .mk 0x1FA 0x1FA [0x1FB],
  .mk 0x1FC 0x1FC [0x1FD], .mk 0x1FE 0x1FE [0x1FF], .mk 0x200 0x200 [0x201],
  .mk 0x202 0x202 [0x203], .mk 0x204 0x204 [0x205], .mk 0x206 0x206 [0x207],
  .mk 0x208 0x208 [0x209], .mk 0x20A 0x20A [0x20B], .mk 0x20C 0x20C [0x20D],
  .mk 0x20E 0x20E [0x20F], .mk 0x210 0x210 [0x211], .mk 0x212 0x212 [0x213],
  .mk 0x214 0x214 [0x215], .mk 0x216 0x216 [0x217], .mk 0x218 0x218 [0x219],
  .mk 0x21A 0x21A [0x21B], .mk 0x21C 0x21C [0x21D], .mk 0x21E 0x21E [0x21F],
  .mk 0x220 0x220 [0x19E], .mk 0x222 0x222 [0x223], .mk 0x224 0x224 [0x225],
  .mk 0x226 0x226 [0x227], .mk 0x228 0x228 [0x229], .mk 0x22A 0x22A [0x22B],
  .mk 0x22C 0x22C [0x22D], .mk 0x22E 0x22E [0x22F], .mk 0x230 0x230 [0x231],
  .mk 0x232 0x232 [0x233], .mk 0x23A 0x23A [0x2C65], .mk 0x23B 0x23B [0x23C],
  .mk 0x23D 0x23D [0x19A], .mk 0x23E 0x23E [0x2C66], .mk 0x241 0x241 [0x242],
  .mk 0x243 0x243 [0x180], .mk 0x244 0x244 [0x289], .mk 0x245 0x245 [0x28C],
  .mk 0x246 0x246 [0x247], .mk 0x248 0x248 [0x249], .mk 0x24A 0x24A [0x24B],
  .mk 0x24C 0x24C [0x24D], .mk 0x24E 0x24E [0x24F]]

def phonetic : List Mapping := [
  .mk 0x345 0x345 [0x3B9]]

def greek : List Mapping := [
  .mk 0x370 0x370 [0x371], .mk 0x372 0x372 [0x373], .mk 0x376 0x376 [0x377],
  .mk 0x37F 0x37F [0x3F3], .mk 0x386 0x386 [0x3AC], .mk 0x388 0x38A [0x3AD],
  .mk 0x38C 0x38C [0x3CC], .mk 0x38E 0x38F [0x3CD], .mk 0x390 0x390 [0x3B9, 0x308, 0x301],
  .mk 0x391 0x3A1 [0x3B1], .mk 0x3A3 0x3AB [0x3C3], .mk 0x3B0 0x3B0 [0x3C5, 0x308, 0x301],
  .mk 0x3C2 0x3C2 [0x3C3], .mk 0x3CF 0x3CF [0x3D7], .mk 0x3D0 0x3D0 [0x3B2],
  .mk 0x3D1 0x3D1 [0x3B8], .mk 0x3D5 0x3D5 [0x3C6], .mk 0x3D6 0x3D6 [0x3C0],
  .mk 0x3D8 0x3D8 [0x3D9], .mk 0x3DA 0x3DA [0x3DB], .mk 0x3DC 0x3DC [0x3DD],
  .mk 0x3DE 0x3DE [0x3DF], .mk 0x3E0 0x3E0 [0x3E1], .mk 0x3E2 0x3E2 [0x3E3],
  .mk 0x3E4 0x3E4 [0x3E5], .mk 0x3E6 0x3E6 [0x3E7], .mk 0x3E8 0x3E8 [0x3E9],
  .mk 0x3EA 0x3EA [0x3EB], .mk 0x3EC 0x3EC [0x3ED], .mk 0x3EE 0x3EE [0x3EF],
  .mk 0x3F0 0x3F0 [0x3BA], .mk 0x3F1 0x3F1 [0x3C1], .mk 0x3F4 0x3F4 [0x3B8],
  .mk 0x3F5 0x3F5 [0x3B5], .mk 0x3F7 0x3F7 [0x3F8], .mk 0x3F9 0x3F9 [0x3F2],
  .mk 0x3FA 0x3FA [0x3FB], .mk 0x3FD 0x3FF [0x37B]]

def cyrillic : List Mapping := [
  .mk 0x400 0x40F [0x450], .mk 0x410 0x42F [0x430], .mk 0x460 0x460 [0x461],
  .mk 0x462 0x462 [0x463], .mk 0x464 0x464 [0x465], .mk 0x466 0x466 [0x467],
  .mk 0x468 0x468 [0x469], .mk 0x46A 0x46A [0x46B], .mk 0x46C 0x46C [0x46D],
  .mk 0x46E 0x46E [0x46F], .mk 0x470 0x470 [0x471], .mk 0x472 0x472 [0x473],
  .mk 0x474 0x474 [0x475], .mk 0x476 0x476 [0x477], .mk 0x478 0x478 [0x479],
  .mk 0x47A 0x47A [0x47B], .mk 0x47C 0x47C [0x47D], .mk 0x47E 0x47E [0x47F],
  .mk 0x480 0x480 [0x481], .mk 0x48A 0x48A [0x48B], .mk 0x48C 0x48C [0x48D],
  .mk 0x48E 0x48E [0x48F], .mk 0x490 0x490 [0x491], .mk 0x492 0x492 [0x493],
  .mk 0x494 0x494 [0x495], .mk 0x496 0x496 [0x497], .mk 0x498 0x498 [0x499],
  .mk 0x49A 0x49A [0x49B], .mk 0x49C 0x49C [0x49D], .mk 0x49E 0x49E [0x49F],
  .mk 0x4A0 0x4A0 [0x4A1], .mk 0x4A2 0x4A2 [0x4A3], .mk 0x4A4 0x4A4 [0x4A5],
  .mk 0x4A6 0x4A6 [0x4A7], .mk 0x4A8 0x4A8 [0x4A9], .mk 0x4AA 0x4AA [0x4AB],
  .mk 0x4AC 0x4AC [0x4AD], .mk 0x4AE 0x4AE [0x4AF], .mk 0x4B0 0x4B0 [0x4B1],
  .mk 0x4B2 0x4B2 [0x4B3], .mk 0x4B4 0x4B4 [0x4B5], .mk 0x4B6 0x4B6 [0x4B7],
  .mk 0x4B8 0x4B8 [0x4B9], .mk 0x4BA 0x4BA [0x4BB], .mk 0x4BC 0x4BC [0x4BD],
  .mk 0x4BE 0x4BE [0x4BF], .mk 0x4C0 0x4C0 [0x4CF], .mk 0x4C1 0x4C1 [0x4C2],
  .mk 0x4C3 0x4C3 [0x4C4], .mk 0x4C5 0x4C5 [0x4C6], .mk 0x4C7 0x4C7 [0x4C8],
  .mk 0x4C9 0x4C9 [0x4CA], .mk 0x4CB 0x4CB [0x4CC], .mk 0x4CD 0x4CD [0x4CE],
  .mk 0x4D0 0x4D0 [0x4D1], .mk 0x4D2 0x4D2 [0x4D3], .mk 0x4D4 0x4D4 [0x4D5],
  .mk 0x4D6 0x4D6 [0x4D7], .mk 0x4D8 0x4D8 [0x4D9], .mk 0x4DA 0x4DA [0x4DB],
  .mk 0x4DC 0x4DC [0x4DD], .mk 0x4DE 0x4DE [0x4DF], .mk 0x4E0 0x4E0 [0x4E1],
  .mk 0x4E2 0x4E2 [0x4E3], .mk 0x4E4 0x4E4 [0x4E5], .mk 0x4E6 0x4E6 [0x4E7],
  .mk 0x4E8 0x4E8 [0x4E9], .mk 0x4EA 0x4EA [0x4EB], .mk 0x4EC 0x4EC [0x4ED],
  .mk 0x4EE 0x4EE [0x4EF], .mk 0x4F0 0x4F0 [0x4F1], .mk 0x4F2 0x4F2 [0x4F3],
  .mk 0x4F4 0x4F4 [0x4F5], .mk 0x4F6 0x4F6 [0x4F7], .mk 0x4F8 0x4F8 [0x4F9],
  .mk 0x4FA 0x4FA [0x4FB], .mk 0x4FC 0x4FC [0x4FD], .mk 0x4FE 0x4FE [0x4FF],
  .mk 0x500 0x500 [0x501], .mk 0x502 0x502 [0x503], .mk 0x504 0x504 [0x505],
  .mk 0x506 0x506 [0x507], .mk 0x508 0x508 [0x509], .mk 0x50A 0x50A [0x50B],
  .mk 0x50C 0x50C [0x50D], .mk 0x50E 0x50E [0x50F], .mk 0x510 0x510 [0x511],
  .mk 0x512 0x512 [0x513], .mk 0x514 0x514 [0x515], .mk 0x516 0x516 [0x517],
  .mk 0x518 0x518 [0x519], .mk 0x51A 0x51A [0x51B], .mk 0x51C 0x51C [0x51D],
  .mk 0x51E 0x51E [0x51F], .mk 0x520 0x520 [0x521], .mk 0x522 0x522 [0x523],
  .mk 0x524 0x524 [0x525], .mk 0x526 0x526 [0x527], .mk 0x528 0x528 [0x529],
  .mk 0x52A 0x52A [0x52B], .mk 0x52C 0x52C [0x52D], .mk 0x52E 0x52E [0x52F],
  .mk 0x531 0x556 [0x561], .mk 0x587 0x587 [0x565, 0x582]]

def southeastAsian : List Mapping := [
  .mk 0x10A0 0x10C5 [0x2D00], .mk 0x10C7 0x10C7 [0x2D27], .mk 0x10CD 0x10CD [0x2D2D],
  .mk 0x13F8 0x13FD [0x13F0]]

def minorScripts : List Mapping := [
  .mk 0x1C80 0x1C80 [0x432], .mk 0x1C81 0x1C81 [0x434], .mk 0x1C82 0x1C82 [0x43E],
  .mk 0x1C83 0x1C84 [0x441], .mk 0x1C85 0x1C85 [0x442], .mk 0x1C86 0x1C86 [0x44A],
  .mk 0x1C87 0x1C87 [0x463], .mk 0x1C88 0x1C88 [0xA64B], .mk 0x1C90 0x1CBA [0x10D0],
  .mk 0x1CBD 0x1CBF [0x10FD]]

def latinAdditional : List Mapping := [
  .mk 0x1E00 0x1E00 [0x1E01], .mk 0x1E02 0x1E02 [0x1E03], .mk 0x1E04 0x1E04 [0x1E05],
  .mk 0x1E06 0x1E06 [0x1E07], .mk 0x1E08 0x1E08 [0x1E09], .mk 0x1E0A 0x1E0A [0x1E0B],
  .mk 0x1E0C 0x1E0C [0x1E0D], .mk 0x1E0E 0x1E0E [0x1E0F], .mk 0x1E10 0x1E10 [0x1E11],
  .mk 0x1E12 0x1E12 [0x1E13], .mk 0x1E14 0x1E14 [0x1E15], .mk 0x1E16 0x1E16 [0x1E17],
  .mk 0x1E18 0x1E18 [0x1E19], .mk 0x1E1A 0x1E1A [0x1E1B], .mk 0x1E1C 0x1E1C [0x1E1D],
  .mk 0x1E1E 0x1E1E [0x1E1F], .mk 0x1E20 0x1E20 [0x1E21], .mk 0x1E22 0x1E22 [0x1E23],
  .mk 0x1E24 0x1E24 [0x1E25], .mk 0x1E26 0x1E26 [0x1E27], .mk 0x1E28 0x1E28 [0x1E29],
  .mk 0x1E2A 0x1E2A [0x1E2B], .mk 0x1E2C 0x1E2C [0x1E2D], .mk 0x1E2E 0x1E2E [0x1E2F],
  .mk 0x1E30 0x1E30 [0x1E31], .mk 0x1E32 0x1E32 [0x1E33], .mk 0x1E34 0x1E34 [0x1E35],
  .mk 0x1E36 0x1E36 [0x1E37], .mk 0x1E38 0x1E38 [0x1E39], .mk 0x1E3A 0x1E3A [0x1E3B],
  .mk 0x1E3C 0x1E3C [0x1E3D], .mk 0x1E3E 0x1E3E [0x1E3F], .mk 0x1E40 0x1E40 [0x1E41],
  .mk 0x1E42 0x1E42 [0x1E43], .mk 0x1E44 0x1E44 [0x1E45], .mk 0x1E46 0x1E46 [0x1E47],
  .mk 0x1E48 0x1E48 [0x1E49], .mk 0x1E4A 0x1E4A [0x1E4B], .mk 0x1E4C 0x1E4C [0x1E4D],
  .mk 0x1E4E 0x1E4E [0x1E4F], .mk 0x1E50 0x1E50 [0x1E51], .mk 0x1E52 0x1E52 [0x1E53],
  .mk 0x1E54 0x1E54 [0x1E55], .mk 0x1E56 0x1E56 [0x1E57], .mk 0x1E58 0x1E58 [0x1E59],
  .mk 0x1E5A 0x1E5A [0x1E5B], .mk 0x1E5C 0x1E5C [0x1E5D], .mk 0x1E5E 0x1E5E [0x1E5F],
  .mk 0x1E60 0x1E60 [0x1E61], .mk 0x1E62 0x1E62 [0x1E63], .mk 0x1E64 0x1E64 [0x1E65],
  .mk 0x1E66 0x1E66 [0x1E67], .mk 0x1E68 0x1E68 [0x1E69], .mk 0x1E6A 0x1E6A [0x1E6B],
  .mk 0x1E6C 0x1E6C [0x1E6D], .mk 0x1E6E 0x1E6E [0x1E6F], .mk 0x1E70 0x1E70 [0x1E71],
  .mk 0x1E72 0x1E72 [0x1E73], .mk 0x1E74 0x1E74 [0x1E75], .mk 0x1E76 0x1E76 [0x1E77],
  .mk 0x1E78 0x1E78 [0x1E79], .mk 0x1E7A 0x1E7A [0x1E7B], .mk 0x1E7C 0x1E7C [0x1E7D],
  .mk 0x1E7E 0x1E7E [0x1E7F], .mk 0x1E80 0x1E80 [0x1E81], .mk 0x1E82 0x1E82 [0x1E83],
  .mk 0x1E84 0x1E84 [0x1E85], .mk 0x1E86 0x1E86 [0x1E87], .mk 0x1E88 0x1E88 [0x1E89],
  .mk 0x1E8A 0x1E8A [0x1E8B], .mk 0x1E8C 0x1E8C [0x1E8D], .mk 0x1E8E 0x1E8E [0x1E8F],
  .mk 0x1E90 0x1E90 [0x1E91], .mk 0x1E92 0x1E92 [0x1E93], .mk 0x1E94 0x1E94 [0x1E95],
  .mk 0x1E96 0x1E96 [0x68, 0x331], .mk 0x1E97 0x1E97 [0x74, 0x308], .mk 0x1E98 0x1E98 [0x77, 0x30A],
  .mk 0x1E99 0x1E99 [0x79, 0x30A], .mk 0x1E9A 0x1E9A [0x61, 0x2BE], .mk 0x1E9B 0x1E9B [0x1E61],
  .mk 0x1E9E 0x1E9E [0x73, 0x73], .mk 0x1EA0 0x1EA0 [0x1EA1], .mk 0x1EA2 0x1EA2 [0x1EA3],
  .mk 0x1EA4 0x1EA4 [0x1EA5], .mk 0x1EA6 0x1EA6 [0x1EA7], .mk 0x1EA8 0x1EA8 [0x1EA9],
  .mk 0x1EAA 0x1EAA [0x1EAB], .mk 0x1EAC 0x1EAC [0x1EAD], .mk 0x1EAE 0x1EAE [0x1EAF],
  .mk 0x1EB0 0x1EB0 [0x1EB1], .mk 0x1EB2 0x1EB2 [0x1EB3], .mk 0x1EB4 0x1EB4 [0x1EB5],
  .mk 0x1EB6 0x1EB6 [0x1EB7], .mk 0x1EB8 0x1EB8 [0x1EB9], .mk 0x1EBA 0x1EBA [0x1EBB],
  .mk 0x1EBC 0x1EBC [0x1EBD], .mk 0x1EBE 0x1EBE [0x1EBF], .mk 0x1EC0 0x1EC0 [0x1EC1],
  .mk 0x1EC2 0x1EC2 [0x1EC3], .mk 0x1EC4 0x1EC4 [0x1EC5], .mk 0x1EC6 0x1EC6 [0x1EC7],
  .mk 0x1EC8 0x1EC8 [0x1EC9], .mk 0x1ECA 0x1ECA [0x1ECB], .mk 0x1ECC 0x1ECC [0x1ECD],
  .mk 0x1ECE 0x1ECE [0x1ECF], .mk 0x1ED0 0x1ED0 [0x1ED1], .mk 0x1ED2 0x1ED2 [0x1ED3],
  .mk 0x1ED4 0x1ED4 [0x1ED5], .mk 0x1ED6 0x1ED6 [0x1ED7], .mk 0x1ED8 0x1ED8 [0x1ED9],
  .mk 0x1EDA 0x1EDA [0x1EDB], .mk 0x1EDC 0x1EDC [0x1EDD], .mk 0x1EDE 0x1EDE [0x1EDF],
  .mk 0x1EE0 0x1EE0 [0x1EE1], .mk 0x1EE2 0x1EE2 [0x1EE3], .mk 0x1EE4 0x1EE4 [0x1EE5],
  .mk 0x1EE6 0x1EE6 [0x1EE7], .mk 0x1EE8 0x1EE8 [0x1EE9], .mk 0x1EEA 0x1EEA [0x1EEB],
  .mk 0x1EEC 0x1EEC [0x1EED], .mk 0x1EEE 0x1EEE [0x1EEF], .mk 0x1EF0 0x1EF0 [0x1EF1],
  .mk 0x1EF2 0x1EF2 [0x1EF3], .mk 0x1EF4 0x1EF4 [0x1EF5], .mk 0x1EF6 0x1EF6 [0x1EF7],
  .mk 0x1EF8 0x1EF8 [0x1EF9], .mk 0x1EFA 0x1EFA [0x1EFB], .mk 0x1EFC 0x1EFC [0x1EFD],
  .mk 0x1EFE 0x1EFE [0x1EFF]]

def greekExtended : List Mapping := [
  .mk 0x1F08 0x1F0F [0x1F00], .mk 0x1F18 0x1F1D [0x1F10], .mk 0x1F28 0x1F2F [0x1F20],
  .mk 0x1F38 0x1F3F [0x1F30], .mk 0x1F48 0x1F4D [0x1F40], .mk 0x1F50 0x1F50 [0x3C5, 0x313],
  .mk 0x1F52 0x1F52 [0x3C5, 0x313, 0x300], .mk 0x1F54 0x1F54 [0x3C5, 0x313, 0x301],
  .mk 0x1F56 0x1F56 [0x3C5, 0x313, 0x342], .mk 0x1F59 0x1F59 [0x1F51], .mk 0x1F5B 0x1F5B [0x1F53],
  .mk 0x1F5D 0x1F5D [0x1F55], .mk 0x1F5F 0x1F5F [0x1F57], .mk 0x1F68 0x1F6F [0x1F60],
  .mk 0x1F80 0x1F80 [0x1F00, 0x3B9], .mk 0x1F81 0x1F81 [0x1F01, 0x3B9],
  .mk 0x1F82 0x1F82 [0x1F02, 0x3B9], .mk 0x1F83 0x1F83 [0x1F03, 0x3B9],
  .mk 0x1F84 0x1F84 [0x1F04, 0x3B9], .mk 0x1F85 0x1F85 [0x1F05, 0x3B9],
  .mk 0x1F86 0x1F86 [0x1F06, 0x3B9], .mk 0x1F87 0x1F87 [0x1F07, 0x3B9],
  .mk 0x1F88 0x1F88 [0x1F00, 0x3B9], .mk 0x1F89 0x1F89 [0x1F01, 0x3B9],
  .mk 0x1F8A 0x1F8A [0x1F02, 0x3B9], .mk 0x1F8B 0x1F8B [0x1F03, 0x3B9],
  .mk 0x1F8C 0x1F8C [0x1F04, 0x3B9], .mk 0x1F8D 0x1F8D [0x1F05, 0x3B9],
  .mk 0x1F8E 0x1F8E [0x1F06, 0x3B9], .mk 0x1F8F 0x1F8F [0x1F07, 0x3B9],
  .mk 0x1F90 0x1F90 [0x1F20, 0x3B9], .mk 0x1F91 0x1F91 [0x1F21, 0x3B9],
  .mk 0x1F92 0x1F92 [0x1F22, 0x3B9], .mk 0x1F93 0x1F93 [0x1F23, 0x3B9],
  .mk 0x1F94 0x1F94 [0x1F24, 0x3B9], .mk 0x1F95 0x1F95 [0x1F25, 0x3B9],
  .mk 0x1F96 0x1F96 [0x1F26, 0x3B9], .mk 0x1F97 0x1F97 [0x1F27, 0x3B9],
  .mk 0x1F98 0x1F98 [0x1F20, 0x3B9], .mk 0x1F99 0x1F99 [0x1F21, 0x3B9],
  .mk 0x1F9A 0x1F9A [0x1F22, 0x3B9], .mk 0x1F9B 0x1F9B [0x1F23, 0x3B9],
  .mk 0x1F9C 0x1F9C [0x1F24, 0x3B9], .mk 0x1F9D 0x1F9D [0x1F25, 0x3B9],
  .mk 0x1F9E 0x1F9E [0x1F26, 0x3B9], .mk 0x1F9F 0x1F9F [0x1F27, 0x3B9],
  .mk 0x1FA0 0x1FA0 [0x1F60, 0x3B9], .mk 0x1FA1 0x1FA1 [0x1F61, 0x3B9],
  .mk 0x1FA2 0x1FA2 [0x1F62, 0x3B9], .mk 0x1FA3 0x1FA3 [0x1F63, 0x3B9],
  .mk 0x1FA4 0x1FA4 [0x1F64, 0x3B9], .mk 0x1FA5 0x1FA5 [0x1F65, 0x3B9],
  .mk 0x1FA6 0x1FA6 [0x1F66, 0x3B9], .mk 0x1FA7 0x1FA7 [0x1F67, 0x3B9],
  .mk 0x1FA8 0x1FA8 [0x1F60, 0x3B9], .mk 0x1FA9 0x1FA9 [0x1F61, 0x3B9],
  .mk 0x1FAA 0x1FAA [0x1F62, 0x3B9], .mk 0x1FAB 0x1FAB [0x1F63, 0x3B9],
  .mk 0x1FAC 0x1FAC [0x1F64, 0x3B9], .mk 0x1FAD 0x1FAD [0x1F65, 0x3B9],
  .mk 0x1FAE 0x1FAE [0x1F66, 0x3B9], .mk 0x1FAF 0x1FAF [0x1F67, 0x3B9],
  .mk 0x1FB2 0x1FB2 [0x1F70, 0x3B9], .mk 0x1FB3 0x1FB3 [0x3B1, 0x3B9],
  .mk 0x1FB4 0x1FB4 [0x3AC, 0x3B9], .mk 0x1FB6 0x1FB6 [0x3B1, 0x342],
  .mk 0x1FB7 0x1FB7 [0x3B1, 0x342, 0x3B9], .mk 0x1FB8 0x1FB9 [0x1FB0], .mk 0x1FBA 0x1FBB [0x1F70],
  .mk 0x1FBC 0x1FBC [0x3B1, 0x3B9], .mk 0x1FBE 0x1FBE [0x3B9], .mk 0x1FC2 0x1FC2 [0x1F74, 0x3B9],
  .mk 0x1FC3 0x1FC3 [0x3B7, 0x3B9], .mk 0x1FC4 0x1FC4 [0x3AE, 0x3B9],
  .mk 0x1FC6 0x1FC6 [0x3B7, 0x342], .mk 0x1FC7 0x1FC7 [0x3B7, 0x342, 0x3B9],
  .mk 0x1FC8 0x1FCB [0x1F72], .mk 0x1FCC 0x1FCC [0x3B7, 0x3B9],
  .mk 0x1FD2 0x1FD3 [0x3B9, 0x308, 0x300], .mk 0x1FD6 0x1FD6 [0x3B9, 0x342],
  .mk 0x1FD7 0x1FD7 [0x3B9, 0x308, 0x342], .mk 0x1FD8 0x1FD9 [0x1FD0], .mk 0x1FDA 0x1FDB [0x1F76],
  .mk 0x1FE2 0x1FE3 [0x3C5, 0x308, 0x300], .mk 0x1FE4 0x1FE4 [0x3C1, 0x313],
  .mk 0x1FE6 0x1FE6 [0x3C5, 0x342], .mk 0x1FE7 0x1FE7 [0x3C5, 0x308, 0x342],
  .mk 0x1FE8 0x1FE9 [0x1FE0], .mk 0x1FEA 0x1FEB [0x1F7A], .mk 0x1FEC 0x1FEC [0x1FE5],
  .mk 0x1FF2 0x1FF2 [0x1F7C, 0x3B9], .mk 0x1FF3 0x1FF3 [0x3C9, 0x3B9],
  .mk 0x1FF4 0x1FF4 [0x3CE, 0x3B9], .mk 0x1FF6 0x1FF6 [0x3C9, 0x342],
  .mk 0x1FF7 0x1FF7 [0x3C9, 0x342, 0x3B9], .mk 0x1FF8 0x1FF9 [0x1F78], .mk 0x1FFA 0x1FFB [0x1F7C],
  .mk 0x1FFC 0x1FFC [0x3C9, 0x3B9]]

def symbols : List Mapping := [
  .mk 0x2126 0x2126 [0x3C9], .mk 0x212A 0x212A [0x6B], .mk 0x212B 0x212B [0xE5],
  .mk 0x2132 0x2132 [0x214E], .mk 0x2160 0x216F [0x2170], .mk 0x2183 0x2183 [0x2184],
  .mk 0x24B6 0x24CF [0x24D0]]

def supplements : List Mapping := [
  .mk 0x2C00 0x2C2F [0x2C30], .mk 0x2C60 0x2C60 [0x2C61], .mk 0x2C62 0x2C62 [0x26B],
  .mk 0x2C63 0x2C63 [0x1D7D], .mk 0x2C64 0x2C64 [0x27D], .mk 0x2C67 0x2C67 [0x2C68],
  .mk 0x2C69 0x2C69 [0x2C6A], .mk 0x2C6B 0x2C6B [0x2C6C], .mk 0x2C6D 0x2C6D [0x251],
  .mk 0x2C6E 0x2C6E [0x271], .mk 0x2C6F 0x2C6F [0x250], .mk 0x2C70 0x2C70 [0x252],
  .mk 0x2C72 0x2C72 [0x2C73], .mk 0x2C75 0x2C75 [0x2C76], .mk 0x2C7E 0x2C7F [0x23F],
  .mk 0x2C80 0x2C80 [0x2C81], .mk 0x2C82 0x2C82 [0x2C83], .mk 0x2C84 0x2C84 [0x2C85],
  .mk 0x2C86 0x2C86 [0x2C87], .mk 0x2C88 0x2C88 [0x2C89], .mk 0x2C8A 0x2C8A [0x2C8B],
  .mk 0x2C8C 0x2C8C [0x2C8D], .mk 0x2C8E 0x2C8E [0x2C8F], .mk 0x2C90 0x2C90 [0x2C91],
  .mk 0x2C92 0x2C92 [0x2C93], .mk 0x2C94 0x2C94 [0x2C95], .mk 0x2C96 0x2C96 [0x2C97],
  .mk 0x2C98 0x2C98 [0x2C99], .mk 0x2C9A 0x2C9A [0x2C9B], .mk 0x2C9C 0x2C9C [0x2C9D],
  .mk 0x2C9E 0x2C9E [0x2C9F], .mk 0x2CA0 0x2CA0 [0x2CA1], .mk 0x2CA2 0x2CA2 [0x2CA3],
  .mk 0x2CA4 0x2CA4 [0x2CA5], .mk 0x2CA6 0x2CA6 [0x2CA7], .mk 0x2CA8 0x2CA8 [0x2CA9],
  .mk 0x2CAA 0x2CAA [0x2CAB], .mk 0x2CAC 0x2CAC [0x2CAD], .mk 0x2CAE 0x2CAE [0x2CAF],
  .mk 0x2CB0 0x2CB0 [0x2CB1], .mk 0x2CB2 0x2CB2 [0x2CB3], .mk 0x2CB4 0x2CB4 [0x2CB5],
  .mk 0x2CB6 0x2CB6 [0x2CB7], .mk 0x2CB8 0x2CB8 [0x2CB9], .mk 0x2CBA 0x2CBA [0x2CBB],
  .mk 0x2CBC 0x2CBC [0x2CBD], .mk 0x2CBE 0x2CBE [0x2CBF], .mk 0x2CC0 0x2CC0 [0x2CC1],
  .mk 0x2CC2 0x2CC2 [0x2CC3], .mk 0x2CC4 0x2CC4 [0x2CC5], .mk 0x2CC6 0x2CC6 [0x2CC7],
  .mk 0x2CC8 0x2CC8 [0x2CC9], .mk 0x2CCA 0x2CCA [0x2CCB], .mk 0x2CCC 0x2CCC [0x2CCD],
  .mk 0x2CCE 0x2CCE [0x2CCF], .mk 0x2CD0 0x2CD0 [0x2CD1], .mk 0x2CD2 0x2CD2 [0x2CD3],
  .mk 0x2CD4 0x2CD4 [0x2CD5], .mk 0x2CD6 0x2CD6 [0x2CD7], .mk 0x2CD8 0x2CD8 [0x2CD9],
  .mk 0x2CDA 0x2CDA [0x2CDB], .mk 0x2CDC 0x2CDC [0x2CDD], .mk 0x2CDE 0x2CDE [0x2CDF],
  .mk 0x2CE0 0x2CE0 [0x2CE1], .mk 0x2CE2 0x2CE2 [0x2CE3], .mk 0x2CEB 0x2CEB [0x2CEC],
  .mk 0x2CED 0x2CED [0x2CEE], .mk 0x2CF2 0x2CF2 [0x2CF3]]

def modernScripts : List Mapping := [
  .mk 0xA640 0xA640 [0xA641], .mk 0xA642 0xA642 [0xA643], .mk 0xA644 0xA644 [0xA645],
  .mk 0xA646 0xA646 [0xA647], .mk 0xA648 0xA648 [0xA649], .mk 0xA64A 0xA64A [0xA64B],
  .mk 0xA64C 0xA64C [0xA64D], .mk 0xA64E 0xA64E [0xA64F], .mk 0xA650 0xA650 [0xA651],
  .mk 0xA652 0xA652 [0xA653], .mk 0xA654 0xA654 [0xA655], .mk 0xA656 0xA656 [0xA657],
  .mk 0xA658 0xA658 [0xA659], .mk 0xA65A 0xA65A [0xA65B], .mk 0xA65C 0xA65C [0xA65D],
  .mk 0xA65E 0xA65E [0xA65F], .mk 0xA660 0xA660 [0xA661], .mk 0xA662 0xA662 [0xA663],
  .mk 0xA664 0xA664 [0xA665], .mk 0xA666 0xA666 [0xA667], .mk 0xA668 0xA668 [0xA669],
  .mk 0xA66A 0xA66A [0xA66B], .mk 0xA66C 0xA66C [0xA66D], .mk 0xA680 0xA680 [0xA681],
  .mk 0xA682 0xA682 [0xA683], .mk 0xA684 0xA684 [0xA685], .mk 0xA686 0xA686 [0xA687],
  .mk 0xA688 0xA688 [0xA689], .mk 0xA68A 0xA68A [0xA68B], .mk 0xA68C 0xA68C [0xA68D],
  .mk 0xA68E 0xA68E [0xA68F], .mk 0xA690 0xA690 [0xA691], .mk 0xA692 0xA692 [0xA693],
  .mk 0xA694 0xA694 [0xA695], .mk 0xA696 0xA696 [0xA697], .mk 0xA698 0xA698 [0xA699],
  .mk 0xA69A 0xA69A [0xA69B], .mk 0xA722 0xA722 [0xA723], .mk 0xA724 0xA724 [0xA725],
  .mk 0xA726 0xA726 [0xA727], .mk 0xA728 0xA728 [0xA729], .mk 0xA72A 0xA72A [0xA72B],
  .mk 0xA72C 0xA72C [0xA72D], .mk 0xA72E 0xA72E [0xA72F], .mk 0xA732 0xA732 [0xA733],
  .mk 0xA734 0xA734 [0xA735], .mk 0xA736 0xA736 [0xA737], .mk 0xA738 0xA738 [0xA739],
  .mk 0xA73A 0xA73A [0xA73B], .mk 0xA73C 0xA73C [0xA73D], .mk 0xA73E 0xA73E [0xA73F],
  .mk 0xA740 0xA740 [0xA741], .mk 0xA742 0xA742 [0xA743], .mk 0xA744 0xA744 [0xA745],
  .mk 0xA746 0xA746 [0xA747], .mk 0xA748 0xA748 [0xA749], .mk 0xA74A 0xA74A [0xA74B],
  .mk 0xA74C 0xA74C [0xA74D], .mk 0xA74E 0xA74E [0xA74F], .mk 0xA750 0xA750 [0xA751],
  .mk 0xA752 0xA752 [0xA753], .mk 0xA754 0xA754 [0xA755], .mk 0xA756 0xA756 [0xA757],
  .mk 0xA758 0xA758 [0xA759], .mk 0xA75A 0xA75A [0xA75B], .mk 0xA75C 0xA75C [0xA75D],
  .mk 0xA75E 0xA75E [0xA75F], .mk 0xA760 0xA760 [0xA761], .mk 0xA762 0xA762 [0xA763],
  .mk 0xA764 0xA764 [0xA765], .mk 0xA766 0xA766 [0xA767], .mk 0xA768 0xA768 [0xA769],
  .mk 0xA76A 0xA76A [0xA76B], .mk 0xA76C 0xA76C [0xA76D], .mk 0xA76E 0xA76E [0xA76F],
  .mk 0xA779 0xA779 [0xA77A], .mk 0xA77B 0xA77B [0xA77C], .mk 0xA77D 0xA77D [0x1D79],
  .mk 0xA77E 0xA77E [0xA77F], .mk 0xA780 0xA780 [0xA781], .mk 0xA782 0xA782 [0xA783],
  .mk 0xA784 0xA784 [0xA785], .mk 0xA786 0xA786 [0xA787], .mk 0xA78B 0xA78B [0xA78C],
  .mk 0xA78D 0xA78D [0x265], .mk 0xA790 0xA790 [0xA791], .mk 0xA792 0xA792 [0xA793],
  .mk 0xA796 0xA796 [0xA797], .mk 0xA798 0xA798 [0xA799], .mk 0xA79A 0xA79A [0xA79B],
  .mk 0xA79C 0xA79C [0xA79D], .mk 0xA79E 0xA79E [0xA79F], .mk 0xA7A0 0xA7A0 [0xA7A1],
  .mk 0xA7A2 0xA7A2 [0xA7A3], .mk 0xA7A4 0xA7A4 [0xA7A5], .mk 0xA7A6 0xA7A6 [0xA7A7],
  .mk 0xA7A8 0xA7A8 [0xA7A9], .mk 0xA7AA 0xA7AA [0x266], .mk 0xA7AB 0xA7AB [0x25C],
  .mk 0xA7AC 0xA7AC [0x261], .mk 0xA7AD 0xA7AD [0x26C], .mk 0xA7AE 0xA7AE [0x26A],
  .mk 0xA7B0 0xA7B0 [0x29E], .mk 0xA7B1 0xA7B1 [0x287], .mk 0xA7B2 0xA7B2 [0x29D],
  .mk 0xA7B3 0xA7B3 [0xAB53], .mk 0xA7B4 0xA7B4 [0xA7B5], .mk 0xA7B6 0xA7B6 [0xA7B7],
  .mk 0xA7B8 0xA7B8 [0xA7B9], .mk 0xA7BA 0xA7BA [0xA7BB], .mk 0xA7BC 0xA7BC [0xA7BD],
  .mk 0xA7BE 0xA7BE [0xA7BF], .mk 0xA7C0 0xA7C0 [0xA7C1], .mk 0xA7C2 0xA7C2 [0xA7C3],
  .mk 0xA7C4 0xA7C4 [0xA794], .mk 0xA7C5 0xA7C5 [0x282], .mk 0xA7C6 0xA7C6 [0x1D8E],
  .mk 0xA7C7 0xA7C7 [0xA7C8], .mk 0xA7C9 0xA7C9 [0xA7CA], .mk 0xA7D0 0xA7D0 [0xA7D1],
  .mk 0xA7D6 0xA7D6 [0xA7D7], .mk 0xA7D8 0xA7D8 [0xA7D9], .mk 0xA7F5 0xA7F5 [0xA7F6],
  .mk 0xAB70 0xABBF [0x13A0]]

def presentationForms : List Mapping := [
  .mk 0xFB00 0xFB00 [0x66, 0x66], .mk 0xFB01 0xFB01 [0x66, 0x69], .mk 0xFB02 0xFB02 [0x66, 0x6C],
  .mk 0xFB03 0xFB03 [0x66, 0x66, 0x69], .mk 0xFB04 0xFB04 [0x66, 0x66, 0x6C],
  .mk 0xFB05 0xFB05 [0x73, 0x74], .mk 0xFB06 0xFB06 [0x73, 0x74], .mk 0xFB13 0xFB13 [0x574, 0x576],
  .mk 0xFB14 0xFB14 [0x574, 0x565], .mk 0xFB15 0xFB15 [0x574, 0x56B],
  .mk 0xFB16 0xFB16 [0x57E, 0x576], .mk 0xFB17 0xFB17 [0x574, 0x56D]]

def halfAndFullWidth : List Mapping := [
  .mk 0xFF21 0xFF3A [0xFF41]]

def historicScripts : List Mapping := [
  .mk 0x10400 0x10427 [0x10428], .mk 0x104B0 0x104D3 [0x104D8], .mk 0x10570 0x1057A [0x10597],
  .mk 0x1057C 0x1058A [0x105A3], .mk 0x1058C 0x10592 [0x105B3], .mk 0x10594 0x10595 [0x105BB],
  .mk 0x10C80 0x10CB2 [0x10CC0], .mk 0x118A0 0x118BF [0x118C0], .mk 0x16E40 0x16E5F [0x16E60]]

def lateScripts : List Mapping := [
  .mk 0x1E900 0x1E921 [0x1E922]]

/-- The characters that folding changes. -/
def rows : List Mapping :=
  latin ++ phonetic ++ greek ++ cyrillic ++ southeastAsian ++ minorScripts ++ latinAdditional ++
  greekExtended ++ symbols ++ supplements ++ modernScripts ++ presentationForms ++
  halfAndFullWidth ++ historicScripts ++ lateScripts

def tree : RangeTree (List Nat) := .ofList rows

end CaseFolding

/-- The full case folding of a character. -/
def caseFold (c : Char) : List Char :=
  match CaseFolding.tree.find? c.toNat with
  | some r => r.image c.toNat
  | none => [c]

end TextScan.Unicode
