import ChatTriage.Unicode.CodePointSet

/-!
# Numbers that are not decimal digits

General categories Nl and No, as in version 16 of the standard: numerals, fractions, circled digits.
-/

namespace ChatTriage.Unicode

/-- Code points of general category `Nl` or `No`. -/
def otherNumber : CodePointSet where
  boundaries := #[
    0xB2, 0xB4, 0xB9, 0xBA, 0xBC, 0xBF, 0x9F4, 0x9FA, 0xB72, 0xB78, 0xBF0, 0xBF3, 0xC78, 0xC7F,
    0xD58, 0xD5F, 0xD70, 0xD79, 0xF2A, 0xF34, 0x1369, 0x137D, 0x16EE, 0x16F1, 0x17F0, 0x17FA,
    0x19DA, 0x19DB, 0x2070, 0x2071, 0x2074, 0x207A, 0x2080, 0x208A, 0x2150, 0x2183, 0x2185,
    0x218A, 0x2460, 0x249C, 0x24EA, 0x2500, 0x2776, 0x2794, 0x2CFD, 0x2CFE, 0x3007, 0x3008,
    0x3021, 0x302A, 0x3038, 0x303B, 0x3192, 0x3196, 0x3220, 0x322A, 0x3248, 0x3250, 0x3251,
    0x3260, 0x3280, 0x328A, 0x32B1, 0x32C0, 0xA6E6, 0xA6F0, 0xA830, 0xA836, 0x10107, 0x10134,
    0x10140, 0x10179, 0x1018A, 0x1018C, 0x102E1, 0x102FC, 0x10320, 0x10324, 0x10341, 0x10342,
    0x1034A, 0x1034B, 0x103D1, 0x103D6, 0x10858, 0x10860, 0x10879, 0x10880, 0x108A7, 0x108B0,
    0x108FB, 0x10900, 0x10916, 0x1091C, 0x109BC, 0x109BE, 0x109C0, 0x109D0, 0x109D2, 0x10A00,
    0x10A40, 0x10A49, 0x10A7D, 0x10A7F, 0x10A9D, 0x10AA0, 0x10AEB, 0x10AF0, 0x10B58, 0x10B60,
    0x10B78, 0x10B80, 0x10BA9, 0x10BB0, 0x10CFA, 0x10D00, 0x10E60, 0x10E7F, 0x10F1D, 0x10F27,
    0x10F51, 0x10F55, 0x10FC5, 0x10FCC, 0x11052, 0x11066, 0x111E1, 0x111F5, 0x1173A, 0x1173C,
    0x118EA, 0x118F3, 0x11C5A, 0x11C6D, 0x11FC0, 0x11FD5, 0x12400, 0x1246F, 0x16B5B, 0x16B62,
    0x16E80, 0x16E97, 0x1D2C0, 0x1D2D4, 0x1D2E0, 0x1D2F4, 0x1D360, 0x1D379, 0x1E8C7, 0x1E8D0,
    0x1EC71, 0x1ECAC, 0x1ECAD, 0x1ECB0, 0x1ECB1, 0x1ECB5, 0x1ED01, 0x1ED2E, 0x1ED2F, 0x1ED3E,
    0x1F100, 0x1F10D]

end ChatTriage.Unicode
