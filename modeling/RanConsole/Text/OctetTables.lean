/-!
# Character sets of one octet

In these character sets the octets below 128 are the ASCII characters, and a table says which characters the others are. A table is made
of runs of octets that stand for characters which follow one another.
-/

namespace RanConsole.Text

/-- A character set of one octet for each character. -/
structure OctetTable where
  /-- The name, in lower case with `_` for everything that is no letter, no digit and no dot. -/
  name : String
  /-- What else it is called. -/
  others : List String
  /-- The first octet of a run, the length of the run and the first character. -/
  runs : List (Nat × Nat × Nat)
  deriving DecidableEq, Repr

/-- The character of an octet, if it stands for one. -/
def OctetTable.character? (t : OctetTable) (octet : Nat) : Option Char :=
  if octet < 0x80 then some (Char.ofNat octet)
  else (t.runs.find? fun (first, count, _) => first ≤ octet && octet < first + count).map fun (first, _, code) =>
    Char.ofNat (code + (octet - first))

/-- The character sets that are known by a table. -/
def octetTables : List OctetTable := [
  { name := "iso8859_2"
    others := ["csisolatin2", "iso_8859_2", "iso_8859_2_1987", "iso_ir_101", "l2", "latin2"]
    runs := [(0x80, 33, 0x80), (0xA1, 1, 0x104), (0xA2, 1, 0x2D8), (0xA3, 1, 0x141), (0xA4, 1, 0xA4), (0xA5, 1, 0x13D),
       (0xA6, 1, 0x15A), (0xA7, 2, 0xA7), (0xA9, 1, 0x160), (0xAA, 1, 0x15E), (0xAB, 1, 0x164), (0xAC, 1, 0x179),
       (0xAD, 1, 0xAD), (0xAE, 1, 0x17D), (0xAF, 1, 0x17B), (0xB0, 1, 0xB0), (0xB1, 1, 0x105), (0xB2, 1, 0x2DB),
       (0xB3, 1, 0x142), (0xB4, 1, 0xB4), (0xB5, 1, 0x13E), (0xB6, 1, 0x15B), (0xB7, 1, 0x2C7), (0xB8, 1, 0xB8),
       (0xB9, 1, 0x161), (0xBA, 1, 0x15F), (0xBB, 1, 0x165), (0xBC, 1, 0x17A), (0xBD, 1, 0x2DD), (0xBE, 1, 0x17E),
       (0xBF, 1, 0x17C), (0xC0, 1, 0x154), (0xC1, 2, 0xC1), (0xC3, 1, 0x102), (0xC4, 1, 0xC4), (0xC5, 1, 0x139),
       (0xC6, 1, 0x106), (0xC7, 1, 0xC7), (0xC8, 1, 0x10C), (0xC9, 1, 0xC9), (0xCA, 1, 0x118), (0xCB, 1, 0xCB),
       (0xCC, 1, 0x11A), (0xCD, 2, 0xCD), (0xCF, 1, 0x10E), (0xD0, 1, 0x110), (0xD1, 1, 0x143), (0xD2, 1, 0x147),
       (0xD3, 2, 0xD3), (0xD5, 1, 0x150), (0xD6, 2, 0xD6), (0xD8, 1, 0x158), (0xD9, 1, 0x16E), (0xDA, 1, 0xDA),
       (0xDB, 1, 0x170), (0xDC, 2, 0xDC), (0xDE, 1, 0x162), (0xDF, 1, 0xDF), (0xE0, 1, 0x155), (0xE1, 2, 0xE1),
       (0xE3, 1, 0x103), (0xE4, 1, 0xE4), (0xE5, 1, 0x13A), (0xE6, 1, 0x107), (0xE7, 1, 0xE7), (0xE8, 1, 0x10D),
       (0xE9, 1, 0xE9), (0xEA, 1, 0x119), (0xEB, 1, 0xEB), (0xEC, 1, 0x11B), (0xED, 2, 0xED), (0xEF, 1, 0x10F),
       (0xF0, 1, 0x111), (0xF1, 1, 0x144), (0xF2, 1, 0x148), (0xF3, 2, 0xF3), (0xF5, 1, 0x151), (0xF6, 2, 0xF6),
       (0xF8, 1, 0x159), (0xF9, 1, 0x16F), (0xFA, 1, 0xFA), (0xFB, 1, 0x171), (0xFC, 2, 0xFC), (0xFE, 1, 0x163),
       (0xFF, 1, 0x2D9)] },
  { name := "iso8859_3"
    others := ["csisolatin3", "iso_8859_3", "iso_8859_3_1988", "iso_ir_109", "l3", "latin3"]
    runs := [(0x80, 33, 0x80), (0xA1, 1, 0x126), (0xA2, 1, 0x2D8), (0xA3, 2, 0xA3), (0xA6, 1, 0x124), (0xA7, 2, 0xA7),
       (0xA9, 1, 0x130), (0xAA, 1, 0x15E), (0xAB, 1, 0x11E), (0xAC, 1, 0x134), (0xAD, 1, 0xAD), (0xAF, 1, 0x17B),
       (0xB0, 1, 0xB0), (0xB1, 1, 0x127), (0xB2, 4, 0xB2), (0xB6, 1, 0x125), (0xB7, 2, 0xB7), (0xB9, 1, 0x131),
       (0xBA, 1, 0x15F), (0xBB, 1, 0x11F), (0xBC, 1, 0x135), (0xBD, 1, 0xBD), (0xBF, 1, 0x17C), (0xC0, 3, 0xC0),
       (0xC4, 1, 0xC4), (0xC5, 1, 0x10A), (0xC6, 1, 0x108), (0xC7, 9, 0xC7), (0xD1, 4, 0xD1), (0xD5, 1, 0x120),
       (0xD6, 2, 0xD6), (0xD8, 1, 0x11C), (0xD9, 4, 0xD9), (0xDD, 1, 0x16C), (0xDE, 1, 0x15C), (0xDF, 4, 0xDF),
       (0xE4, 1, 0xE4), (0xE5, 1, 0x10B), (0xE6, 1, 0x109), (0xE7, 9, 0xE7), (0xF1, 4, 0xF1), (0xF5, 1, 0x121),
       (0xF6, 2, 0xF6), (0xF8, 1, 0x11D), (0xF9, 4, 0xF9), (0xFD, 1, 0x16D), (0xFE, 1, 0x15D), (0xFF, 1, 0x2D9)] },
  { name := "iso8859_4"
    others := ["csisolatin4", "iso_8859_4", "iso_8859_4_1988", "iso_ir_110", "l4", "latin4"]
    runs := [(0x80, 33, 0x80), (0xA1, 1, 0x104), (0xA2, 1, 0x138), (0xA3, 1, 0x156), (0xA4, 1, 0xA4), (0xA5, 1, 0x128),
       (0xA6, 1, 0x13B), (0xA7, 2, 0xA7), (0xA9, 1, 0x160), (0xAA, 1, 0x112), (0xAB, 1, 0x122), (0xAC, 1, 0x166),
       (0xAD, 1, 0xAD), (0xAE, 1, 0x17D), (0xAF, 2, 0xAF), (0xB1, 1, 0x105), (0xB2, 1, 0x2DB), (0xB3, 1, 0x157),
       (0xB4, 1, 0xB4), (0xB5, 1, 0x129), (0xB6, 1, 0x13C), (0xB7, 1, 0x2C7), (0xB8, 1, 0xB8), (0xB9, 1, 0x161),
       (0xBA, 1, 0x113), (0xBB, 1, 0x123), (0xBC, 1, 0x167), (0xBD, 1, 0x14A), (0xBE, 1, 0x17E), (0xBF, 1, 0x14B),
       (0xC0, 1, 0x100), (0xC1, 6, 0xC1), (0xC7, 1, 0x12E), (0xC8, 1, 0x10C), (0xC9, 1, 0xC9), (0xCA, 1, 0x118),
       (0xCB, 1, 0xCB), (0xCC, 1, 0x116), (0xCD, 2, 0xCD), (0xCF, 1, 0x12A), (0xD0, 1, 0x110), (0xD1, 1, 0x145),
       (0xD2, 1, 0x14C), (0xD3, 1, 0x136), (0xD4, 5, 0xD4), (0xD9, 1, 0x172), (0xDA, 3, 0xDA), (0xDD, 1, 0x168),
       (0xDE, 1, 0x16A), (0xDF, 1, 0xDF), (0xE0, 1, 0x101), (0xE1, 6, 0xE1), (0xE7, 1, 0x12F), (0xE8, 1, 0x10D),
       (0xE9, 1, 0xE9), (0xEA, 1, 0x119), (0xEB, 1, 0xEB), (0xEC, 1, 0x117), (0xED, 2, 0xED), (0xEF, 1, 0x12B),
       (0xF0, 1, 0x111), (0xF1, 1, 0x146), (0xF2, 1, 0x14D), (0xF3, 1, 0x137), (0xF4, 5, 0xF4), (0xF9, 1, 0x173),
       (0xFA, 3, 0xFA), (0xFD, 1, 0x169), (0xFE, 1, 0x16B), (0xFF, 1, 0x2D9)] },
  { name := "iso8859_5"
    others := ["csisolatincyrillic", "cyrillic", "iso_8859_5", "iso_8859_5_1988", "iso_ir_144"]
    runs := [(0x80, 33, 0x80), (0xA1, 12, 0x401), (0xAD, 1, 0xAD), (0xAE, 66, 0x40E), (0xF0, 1, 0x2116), (0xF1, 12, 0x451),
       (0xFD, 1, 0xA7), (0xFE, 2, 0x45E)] },
  { name := "iso8859_6"
    others := ["arabic", "asmo_708", "csisolatinarabic", "ecma_114", "iso_8859_6", "iso_8859_6_1987", "iso_ir_127"]
    runs := [(0x80, 33, 0x80), (0xA4, 1, 0xA4), (0xAC, 1, 0x60C), (0xAD, 1, 0xAD), (0xBB, 1, 0x61B), (0xBF, 1, 0x61F),
       (0xC1, 26, 0x621), (0xE0, 19, 0x640)] },
  { name := "iso8859_7"
    others := ["csisolatingreek", "ecma_118", "elot_928", "greek", "greek8", "iso_8859_7", "iso_8859_7_1987", "iso_ir_126"]
    runs := [(0x80, 33, 0x80), (0xA1, 2, 0x2018), (0xA3, 1, 0xA3), (0xA4, 1, 0x20AC), (0xA5, 1, 0x20AF), (0xA6, 4, 0xA6),
       (0xAA, 1, 0x37A), (0xAB, 3, 0xAB), (0xAF, 1, 0x2015), (0xB0, 4, 0xB0), (0xB4, 3, 0x384), (0xB7, 1, 0xB7),
       (0xB8, 3, 0x388), (0xBB, 1, 0xBB), (0xBC, 1, 0x38C), (0xBD, 1, 0xBD), (0xBE, 20, 0x38E), (0xD3, 44, 0x3A3)] },
  { name := "iso8859_8"
    others := ["csisolatinhebrew", "hebrew", "iso_8859_8", "iso_8859_8_1988", "iso_ir_138"]
    runs := [(0x80, 33, 0x80), (0xA2, 8, 0xA2), (0xAA, 1, 0xD7), (0xAB, 15, 0xAB), (0xBA, 1, 0xF7), (0xBB, 4, 0xBB),
       (0xDF, 1, 0x2017), (0xE0, 27, 0x5D0), (0xFD, 2, 0x200E)] },
  { name := "iso8859_9"
    others := ["csisolatin5", "iso_8859_9", "iso_8859_9_1989", "iso_ir_148", "l5", "latin5"]
    runs := [(0x80, 80, 0x80), (0xD0, 1, 0x11E), (0xD1, 12, 0xD1), (0xDD, 1, 0x130), (0xDE, 1, 0x15E), (0xDF, 17, 0xDF),
       (0xF0, 1, 0x11F), (0xF1, 12, 0xF1), (0xFD, 1, 0x131), (0xFE, 1, 0x15F), (0xFF, 1, 0xFF)] },
  { name := "iso8859_10"
    others := ["csisolatin6", "iso_8859_10", "iso_8859_10_1992", "iso_ir_157", "l6", "latin6"]
    runs := [(0x80, 33, 0x80), (0xA1, 1, 0x104), (0xA2, 1, 0x112), (0xA3, 1, 0x122), (0xA4, 1, 0x12A), (0xA5, 1, 0x128),
       (0xA6, 1, 0x136), (0xA7, 1, 0xA7), (0xA8, 1, 0x13B), (0xA9, 1, 0x110), (0xAA, 1, 0x160), (0xAB, 1, 0x166),
       (0xAC, 1, 0x17D), (0xAD, 1, 0xAD), (0xAE, 1, 0x16A), (0xAF, 1, 0x14A), (0xB0, 1, 0xB0), (0xB1, 1, 0x105),
       (0xB2, 1, 0x113), (0xB3, 1, 0x123), (0xB4, 1, 0x12B), (0xB5, 1, 0x129), (0xB6, 1, 0x137), (0xB7, 1, 0xB7),
       (0xB8, 1, 0x13C), (0xB9, 1, 0x111), (0xBA, 1, 0x161), (0xBB, 1, 0x167), (0xBC, 1, 0x17E), (0xBD, 1, 0x2015),
       (0xBE, 1, 0x16B), (0xBF, 1, 0x14B), (0xC0, 1, 0x100), (0xC1, 6, 0xC1), (0xC7, 1, 0x12E), (0xC8, 1, 0x10C),
       (0xC9, 1, 0xC9), (0xCA, 1, 0x118), (0xCB, 1, 0xCB), (0xCC, 1, 0x116), (0xCD, 4, 0xCD), (0xD1, 1, 0x145),
       (0xD2, 1, 0x14C), (0xD3, 4, 0xD3), (0xD7, 1, 0x168), (0xD8, 1, 0xD8), (0xD9, 1, 0x172), (0xDA, 6, 0xDA),
       (0xE0, 1, 0x101), (0xE1, 6, 0xE1), (0xE7, 1, 0x12F), (0xE8, 1, 0x10D), (0xE9, 1, 0xE9), (0xEA, 1, 0x119),
       (0xEB, 1, 0xEB), (0xEC, 1, 0x117), (0xED, 4, 0xED), (0xF1, 1, 0x146), (0xF2, 1, 0x14D), (0xF3, 4, 0xF3),
       (0xF7, 1, 0x169), (0xF8, 1, 0xF8), (0xF9, 1, 0x173), (0xFA, 5, 0xFA), (0xFF, 1, 0x138)] },
  { name := "iso8859_11"
    others := ["iso_8859_11", "iso_8859_11_2001", "thai"]
    runs := [(0x80, 33, 0x80), (0xA1, 58, 0xE01), (0xDF, 29, 0xE3F)] },
  { name := "iso8859_13"
    others := ["iso_8859_13", "l7", "latin7"]
    runs := [(0x80, 33, 0x80), (0xA1, 1, 0x201D), (0xA2, 3, 0xA2), (0xA5, 1, 0x201E), (0xA6, 2, 0xA6), (0xA8, 1, 0xD8),
       (0xA9, 1, 0xA9), (0xAA, 1, 0x156), (0xAB, 4, 0xAB), (0xAF, 1, 0xC6), (0xB0, 4, 0xB0), (0xB4, 1, 0x201C),
       (0xB5, 3, 0xB5), (0xB8, 1, 0xF8), (0xB9, 1, 0xB9), (0xBA, 1, 0x157), (0xBB, 4, 0xBB), (0xBF, 1, 0xE6),
       (0xC0, 1, 0x104), (0xC1, 1, 0x12E), (0xC2, 1, 0x100), (0xC3, 1, 0x106), (0xC4, 2, 0xC4), (0xC6, 1, 0x118),
       (0xC7, 1, 0x112), (0xC8, 1, 0x10C), (0xC9, 1, 0xC9), (0xCA, 1, 0x179), (0xCB, 1, 0x116), (0xCC, 1, 0x122),
       (0xCD, 1, 0x136), (0xCE, 1, 0x12A), (0xCF, 1, 0x13B), (0xD0, 1, 0x160), (0xD1, 1, 0x143), (0xD2, 1, 0x145),
       (0xD3, 1, 0xD3), (0xD4, 1, 0x14C), (0xD5, 3, 0xD5), (0xD8, 1, 0x172), (0xD9, 1, 0x141), (0xDA, 1, 0x15A),
       (0xDB, 1, 0x16A), (0xDC, 1, 0xDC), (0xDD, 1, 0x17B), (0xDE, 1, 0x17D), (0xDF, 1, 0xDF), (0xE0, 1, 0x105),
       (0xE1, 1, 0x12F), (0xE2, 1, 0x101), (0xE3, 1, 0x107), (0xE4, 2, 0xE4), (0xE6, 1, 0x119), (0xE7, 1, 0x113),
       (0xE8, 1, 0x10D), (0xE9, 1, 0xE9), (0xEA, 1, 0x17A), (0xEB, 1, 0x117), (0xEC, 1, 0x123), (0xED, 1, 0x137),
       (0xEE, 1, 0x12B), (0xEF, 1, 0x13C), (0xF0, 1, 0x161), (0xF1, 1, 0x144), (0xF2, 1, 0x146), (0xF3, 1, 0xF3),
       (0xF4, 1, 0x14D), (0xF5, 3, 0xF5), (0xF8, 1, 0x173), (0xF9, 1, 0x142), (0xFA, 1, 0x15B), (0xFB, 1, 0x16B),
       (0xFC, 1, 0xFC), (0xFD, 1, 0x17C), (0xFE, 1, 0x17E), (0xFF, 1, 0x2019)] },
  { name := "iso8859_14"
    others := ["iso_8859_14", "iso_8859_14_1998", "iso_celtic", "iso_ir_199", "l8", "latin8"]
    runs := [(0x80, 33, 0x80), (0xA1, 2, 0x1E02), (0xA3, 1, 0xA3), (0xA4, 2, 0x10A), (0xA6, 1, 0x1E0A), (0xA7, 1, 0xA7),
       (0xA8, 1, 0x1E80), (0xA9, 1, 0xA9), (0xAA, 1, 0x1E82), (0xAB, 1, 0x1E0B), (0xAC, 1, 0x1EF2), (0xAD, 2, 0xAD),
       (0xAF, 1, 0x178), (0xB0, 2, 0x1E1E), (0xB2, 2, 0x120), (0xB4, 2, 0x1E40), (0xB6, 1, 0xB6), (0xB7, 1, 0x1E56),
       (0xB8, 1, 0x1E81), (0xB9, 1, 0x1E57), (0xBA, 1, 0x1E83), (0xBB, 1, 0x1E60), (0xBC, 1, 0x1EF3), (0xBD, 2, 0x1E84),
       (0xBF, 1, 0x1E61), (0xC0, 16, 0xC0), (0xD0, 1, 0x174), (0xD1, 6, 0xD1), (0xD7, 1, 0x1E6A), (0xD8, 6, 0xD8),
       (0xDE, 1, 0x176), (0xDF, 17, 0xDF), (0xF0, 1, 0x175), (0xF1, 6, 0xF1), (0xF7, 1, 0x1E6B), (0xF8, 6, 0xF8),
       (0xFE, 1, 0x177), (0xFF, 1, 0xFF)] },
  { name := "iso8859_15"
    others := ["iso_8859_15", "l9", "latin9"]
    runs := [(0x80, 36, 0x80), (0xA4, 1, 0x20AC), (0xA5, 1, 0xA5), (0xA6, 1, 0x160), (0xA7, 1, 0xA7), (0xA8, 1, 0x161),
       (0xA9, 11, 0xA9), (0xB4, 1, 0x17D), (0xB5, 3, 0xB5), (0xB8, 1, 0x17E), (0xB9, 3, 0xB9), (0xBC, 2, 0x152),
       (0xBE, 1, 0x178), (0xBF, 65, 0xBF)] },
  { name := "iso8859_16"
    others := ["iso_8859_16", "iso_8859_16_2001", "iso_ir_226", "l10", "latin10"]
    runs := [(0x80, 33, 0x80), (0xA1, 2, 0x104), (0xA3, 1, 0x141), (0xA4, 1, 0x20AC), (0xA5, 1, 0x201E), (0xA6, 1, 0x160),
       (0xA7, 1, 0xA7), (0xA8, 1, 0x161), (0xA9, 1, 0xA9), (0xAA, 1, 0x218), (0xAB, 1, 0xAB), (0xAC, 1, 0x179),
       (0xAD, 1, 0xAD), (0xAE, 2, 0x17A), (0xB0, 2, 0xB0), (0xB2, 1, 0x10C), (0xB3, 1, 0x142), (0xB4, 1, 0x17D),
       (0xB5, 1, 0x201D), (0xB6, 2, 0xB6), (0xB8, 1, 0x17E), (0xB9, 1, 0x10D), (0xBA, 1, 0x219), (0xBB, 1, 0xBB),
       (0xBC, 2, 0x152), (0xBE, 1, 0x178), (0xBF, 1, 0x17C), (0xC0, 3, 0xC0), (0xC3, 1, 0x102), (0xC4, 1, 0xC4),
       (0xC5, 1, 0x106), (0xC6, 10, 0xC6), (0xD0, 1, 0x110), (0xD1, 1, 0x143), (0xD2, 3, 0xD2), (0xD5, 1, 0x150),
       (0xD6, 1, 0xD6), (0xD7, 1, 0x15A), (0xD8, 1, 0x170), (0xD9, 4, 0xD9), (0xDD, 1, 0x118), (0xDE, 1, 0x21A),
       (0xDF, 4, 0xDF), (0xE3, 1, 0x103), (0xE4, 1, 0xE4), (0xE5, 1, 0x107), (0xE6, 10, 0xE6), (0xF0, 1, 0x111),
       (0xF1, 1, 0x144), (0xF2, 3, 0xF2), (0xF5, 1, 0x151), (0xF6, 1, 0xF6), (0xF7, 1, 0x15B), (0xF8, 1, 0x171),
       (0xF9, 4, 0xF9), (0xFD, 1, 0x119), (0xFE, 1, 0x21B), (0xFF, 1, 0xFF)] },
  { name := "cp1250"
    others := ["1250", "windows_1250"]
    runs := [(0x80, 1, 0x20AC), (0x82, 1, 0x201A), (0x84, 1, 0x201E), (0x85, 1, 0x2026), (0x86, 2, 0x2020),
       (0x89, 1, 0x2030), (0x8A, 1, 0x160), (0x8B, 1, 0x2039), (0x8C, 1, 0x15A), (0x8D, 1, 0x164), (0x8E, 1, 0x17D),
       (0x8F, 1, 0x179), (0x91, 2, 0x2018), (0x93, 2, 0x201C), (0x95, 1, 0x2022), (0x96, 2, 0x2013), (0x99, 1, 0x2122),
       (0x9A, 1, 0x161), (0x9B, 1, 0x203A), (0x9C, 1, 0x15B), (0x9D, 1, 0x165), (0x9E, 1, 0x17E), (0x9F, 1, 0x17A),
       (0xA0, 1, 0xA0), (0xA1, 1, 0x2C7), (0xA2, 1, 0x2D8), (0xA3, 1, 0x141), (0xA4, 1, 0xA4), (0xA5, 1, 0x104),
       (0xA6, 4, 0xA6), (0xAA, 1, 0x15E), (0xAB, 4, 0xAB), (0xAF, 1, 0x17B), (0xB0, 2, 0xB0), (0xB2, 1, 0x2DB),
       (0xB3, 1, 0x142), (0xB4, 5, 0xB4), (0xB9, 1, 0x105), (0xBA, 1, 0x15F), (0xBB, 1, 0xBB), (0xBC, 1, 0x13D),
       (0xBD, 1, 0x2DD), (0xBE, 1, 0x13E), (0xBF, 1, 0x17C), (0xC0, 1, 0x154), (0xC1, 2, 0xC1), (0xC3, 1, 0x102),
       (0xC4, 1, 0xC4), (0xC5, 1, 0x139), (0xC6, 1, 0x106), (0xC7, 1, 0xC7), (0xC8, 1, 0x10C), (0xC9, 1, 0xC9),
       (0xCA, 1, 0x118), (0xCB, 1, 0xCB), (0xCC, 1, 0x11A), (0xCD, 2, 0xCD), (0xCF, 1, 0x10E), (0xD0, 1, 0x110),
       (0xD1, 1, 0x143), (0xD2, 1, 0x147), (0xD3, 2, 0xD3), (0xD5, 1, 0x150), (0xD6, 2, 0xD6), (0xD8, 1, 0x158),
       (0xD9, 1, 0x16E), (0xDA, 1, 0xDA), (0xDB, 1, 0x170), (0xDC, 2, 0xDC), (0xDE, 1, 0x162), (0xDF, 1, 0xDF),
       (0xE0, 1, 0x155), (0xE1, 2, 0xE1), (0xE3, 1, 0x103), (0xE4, 1, 0xE4), (0xE5, 1, 0x13A), (0xE6, 1, 0x107),
       (0xE7, 1, 0xE7), (0xE8, 1, 0x10D), (0xE9, 1, 0xE9), (0xEA, 1, 0x119), (0xEB, 1, 0xEB), (0xEC, 1, 0x11B),
       (0xED, 2, 0xED), (0xEF, 1, 0x10F), (0xF0, 1, 0x111), (0xF1, 1, 0x144), (0xF2, 1, 0x148), (0xF3, 2, 0xF3),
       (0xF5, 1, 0x151), (0xF6, 2, 0xF6), (0xF8, 1, 0x159), (0xF9, 1, 0x16F), (0xFA, 1, 0xFA), (0xFB, 1, 0x171),
       (0xFC, 2, 0xFC), (0xFE, 1, 0x163), (0xFF, 1, 0x2D9)] },
  { name := "cp1251"
    others := ["1251", "windows_1251"]
    runs := [(0x80, 2, 0x402), (0x82, 1, 0x201A), (0x83, 1, 0x453), (0x84, 1, 0x201E), (0x85, 1, 0x2026),
       (0x86, 2, 0x2020), (0x88, 1, 0x20AC), (0x89, 1, 0x2030), (0x8A, 1, 0x409), (0x8B, 1, 0x2039), (0x8C, 1, 0x40A),
       (0x8D, 1, 0x40C), (0x8E, 1, 0x40B), (0x8F, 1, 0x40F), (0x90, 1, 0x452), (0x91, 2, 0x2018), (0x93, 2, 0x201C),
       (0x95, 1, 0x2022), (0x96, 2, 0x2013), (0x99, 1, 0x2122), (0x9A, 1, 0x459), (0x9B, 1, 0x203A), (0x9C, 1, 0x45A),
       (0x9D, 1, 0x45C), (0x9E, 1, 0x45B), (0x9F, 1, 0x45F), (0xA0, 1, 0xA0), (0xA1, 1, 0x40E), (0xA2, 1, 0x45E),
       (0xA3, 1, 0x408), (0xA4, 1, 0xA4), (0xA5, 1, 0x490), (0xA6, 2, 0xA6), (0xA8, 1, 0x401), (0xA9, 1, 0xA9),
       (0xAA, 1, 0x404), (0xAB, 4, 0xAB), (0xAF, 1, 0x407), (0xB0, 2, 0xB0), (0xB2, 1, 0x406), (0xB3, 1, 0x456),
       (0xB4, 1, 0x491), (0xB5, 3, 0xB5), (0xB8, 1, 0x451), (0xB9, 1, 0x2116), (0xBA, 1, 0x454), (0xBB, 1, 0xBB),
       (0xBC, 1, 0x458), (0xBD, 1, 0x405), (0xBE, 1, 0x455), (0xBF, 1, 0x457), (0xC0, 64, 0x410)] },
  { name := "cp1252"
    others := ["1252", "windows_1252"]
    runs := [(0x80, 1, 0x20AC), (0x82, 1, 0x201A), (0x83, 1, 0x192), (0x84, 1, 0x201E), (0x85, 1, 0x2026),
       (0x86, 2, 0x2020), (0x88, 1, 0x2C6), (0x89, 1, 0x2030), (0x8A, 1, 0x160), (0x8B, 1, 0x2039), (0x8C, 1, 0x152),
       (0x8E, 1, 0x17D), (0x91, 2, 0x2018), (0x93, 2, 0x201C), (0x95, 1, 0x2022), (0x96, 2, 0x2013), (0x98, 1, 0x2DC),
       (0x99, 1, 0x2122), (0x9A, 1, 0x161), (0x9B, 1, 0x203A), (0x9C, 1, 0x153), (0x9E, 1, 0x17E), (0x9F, 1, 0x178),
       (0xA0, 96, 0xA0)] },
  { name := "cp1253"
    others := ["1253", "windows_1253"]
    runs := [(0x80, 1, 0x20AC), (0x82, 1, 0x201A), (0x83, 1, 0x192), (0x84, 1, 0x201E), (0x85, 1, 0x2026),
       (0x86, 2, 0x2020), (0x89, 1, 0x2030), (0x8B, 1, 0x2039), (0x91, 2, 0x2018), (0x93, 2, 0x201C), (0x95, 1, 0x2022),
       (0x96, 2, 0x2013), (0x99, 1, 0x2122), (0x9B, 1, 0x203A), (0xA0, 1, 0xA0), (0xA1, 2, 0x385), (0xA3, 7, 0xA3),
       (0xAB, 4, 0xAB), (0xAF, 1, 0x2015), (0xB0, 4, 0xB0), (0xB4, 1, 0x384), (0xB5, 3, 0xB5), (0xB8, 3, 0x388),
       (0xBB, 1, 0xBB), (0xBC, 1, 0x38C), (0xBD, 1, 0xBD), (0xBE, 20, 0x38E), (0xD3, 44, 0x3A3)] },
  { name := "cp1254"
    others := ["1254", "windows_1254"]
    runs := [(0x80, 1, 0x20AC), (0x82, 1, 0x201A), (0x83, 1, 0x192), (0x84, 1, 0x201E), (0x85, 1, 0x2026),
       (0x86, 2, 0x2020), (0x88, 1, 0x2C6), (0x89, 1, 0x2030), (0x8A, 1, 0x160), (0x8B, 1, 0x2039), (0x8C, 1, 0x152),
       (0x91, 2, 0x2018), (0x93, 2, 0x201C), (0x95, 1, 0x2022), (0x96, 2, 0x2013), (0x98, 1, 0x2DC), (0x99, 1, 0x2122),
       (0x9A, 1, 0x161), (0x9B, 1, 0x203A), (0x9C, 1, 0x153), (0x9F, 1, 0x178), (0xA0, 48, 0xA0), (0xD0, 1, 0x11E),
       (0xD1, 12, 0xD1), (0xDD, 1, 0x130), (0xDE, 1, 0x15E), (0xDF, 17, 0xDF), (0xF0, 1, 0x11F), (0xF1, 12, 0xF1),
       (0xFD, 1, 0x131), (0xFE, 1, 0x15F), (0xFF, 1, 0xFF)] },
  { name := "cp1255"
    others := ["1255", "windows_1255"]
    runs := [(0x80, 1, 0x20AC), (0x82, 1, 0x201A), (0x83, 1, 0x192), (0x84, 1, 0x201E), (0x85, 1, 0x2026),
       (0x86, 2, 0x2020), (0x88, 1, 0x2C6), (0x89, 1, 0x2030), (0x8B, 1, 0x2039), (0x91, 2, 0x2018), (0x93, 2, 0x201C),
       (0x95, 1, 0x2022), (0x96, 2, 0x2013), (0x98, 1, 0x2DC), (0x99, 1, 0x2122), (0x9B, 1, 0x203A), (0xA0, 4, 0xA0),
       (0xA4, 1, 0x20AA), (0xA5, 5, 0xA5), (0xAA, 1, 0xD7), (0xAB, 15, 0xAB), (0xBA, 1, 0xF7), (0xBB, 5, 0xBB),
       (0xC0, 10, 0x5B0), (0xCB, 9, 0x5BB), (0xD4, 5, 0x5F0), (0xE0, 27, 0x5D0), (0xFD, 2, 0x200E)] },
  { name := "cp1256"
    others := ["1256", "windows_1256"]
    runs := [(0x80, 1, 0x20AC), (0x81, 1, 0x67E), (0x82, 1, 0x201A), (0x83, 1, 0x192), (0x84, 1, 0x201E),
       (0x85, 1, 0x2026), (0x86, 2, 0x2020), (0x88, 1, 0x2C6), (0x89, 1, 0x2030), (0x8A, 1, 0x679), (0x8B, 1, 0x2039),
       (0x8C, 1, 0x152), (0x8D, 1, 0x686), (0x8E, 1, 0x698), (0x8F, 1, 0x688), (0x90, 1, 0x6AF), (0x91, 2, 0x2018),
       (0x93, 2, 0x201C), (0x95, 1, 0x2022), (0x96, 2, 0x2013), (0x98, 1, 0x6A9), (0x99, 1, 0x2122), (0x9A, 1, 0x691),
       (0x9B, 1, 0x203A), (0x9C, 1, 0x153), (0x9D, 2, 0x200C), (0x9F, 1, 0x6BA), (0xA0, 1, 0xA0), (0xA1, 1, 0x60C),
       (0xA2, 8, 0xA2), (0xAA, 1, 0x6BE), (0xAB, 15, 0xAB), (0xBA, 1, 0x61B), (0xBB, 4, 0xBB), (0xBF, 1, 0x61F),
       (0xC0, 1, 0x6C1), (0xC1, 22, 0x621), (0xD7, 1, 0xD7), (0xD8, 4, 0x637), (0xDC, 4, 0x640), (0xE0, 1, 0xE0),
       (0xE1, 1, 0x644), (0xE2, 1, 0xE2), (0xE3, 4, 0x645), (0xE7, 5, 0xE7), (0xEC, 2, 0x649), (0xEE, 2, 0xEE),
       (0xF0, 4, 0x64B), (0xF4, 1, 0xF4), (0xF5, 2, 0x64F), (0xF7, 1, 0xF7), (0xF8, 1, 0x651), (0xF9, 1, 0xF9),
       (0xFA, 1, 0x652), (0xFB, 2, 0xFB), (0xFD, 2, 0x200E), (0xFF, 1, 0x6D2)] },
  { name := "cp1257"
    others := ["1257", "windows_1257"]
    runs := [(0x80, 1, 0x20AC), (0x82, 1, 0x201A), (0x84, 1, 0x201E), (0x85, 1, 0x2026), (0x86, 2, 0x2020),
       (0x89, 1, 0x2030), (0x8B, 1, 0x2039), (0x8D, 1, 0xA8), (0x8E, 1, 0x2C7), (0x8F, 1, 0xB8), (0x91, 2, 0x2018),
       (0x93, 2, 0x201C), (0x95, 1, 0x2022), (0x96, 2, 0x2013), (0x99, 1, 0x2122), (0x9B, 1, 0x203A), (0x9D, 1, 0xAF),
       (0x9E, 1, 0x2DB), (0xA0, 1, 0xA0), (0xA2, 3, 0xA2), (0xA6, 2, 0xA6), (0xA8, 1, 0xD8), (0xA9, 1, 0xA9),
       (0xAA, 1, 0x156), (0xAB, 4, 0xAB), (0xAF, 1, 0xC6), (0xB0, 8, 0xB0), (0xB8, 1, 0xF8), (0xB9, 1, 0xB9),
       (0xBA, 1, 0x157), (0xBB, 4, 0xBB), (0xBF, 1, 0xE6), (0xC0, 1, 0x104), (0xC1, 1, 0x12E), (0xC2, 1, 0x100),
       (0xC3, 1, 0x106), (0xC4, 2, 0xC4), (0xC6, 1, 0x118), (0xC7, 1, 0x112), (0xC8, 1, 0x10C), (0xC9, 1, 0xC9),
       (0xCA, 1, 0x179), (0xCB, 1, 0x116), (0xCC, 1, 0x122), (0xCD, 1, 0x136), (0xCE, 1, 0x12A), (0xCF, 1, 0x13B),
       (0xD0, 1, 0x160), (0xD1, 1, 0x143), (0xD2, 1, 0x145), (0xD3, 1, 0xD3), (0xD4, 1, 0x14C), (0xD5, 3, 0xD5),
       (0xD8, 1, 0x172), (0xD9, 1, 0x141), (0xDA, 1, 0x15A), (0xDB, 1, 0x16A), (0xDC, 1, 0xDC), (0xDD, 1, 0x17B),
       (0xDE, 1, 0x17D), (0xDF, 1, 0xDF), (0xE0, 1, 0x105), (0xE1, 1, 0x12F), (0xE2, 1, 0x101), (0xE3, 1, 0x107),
       (0xE4, 2, 0xE4), (0xE6, 1, 0x119), (0xE7, 1, 0x113), (0xE8, 1, 0x10D), (0xE9, 1, 0xE9), (0xEA, 1, 0x17A),
       (0xEB, 1, 0x117), (0xEC, 1, 0x123), (0xED, 1, 0x137), (0xEE, 1, 0x12B), (0xEF, 1, 0x13C), (0xF0, 1, 0x161),
       (0xF1, 1, 0x144), (0xF2, 1, 0x146), (0xF3, 1, 0xF3), (0xF4, 1, 0x14D), (0xF5, 3, 0xF5), (0xF8, 1, 0x173),
       (0xF9, 1, 0x142), (0xFA, 1, 0x15B), (0xFB, 1, 0x16B), (0xFC, 1, 0xFC), (0xFD, 1, 0x17C), (0xFE, 1, 0x17E),
       (0xFF, 1, 0x2D9)] },
  { name := "cp1258"
    others := ["1258", "windows_1258"]
    runs := [(0x80, 1, 0x20AC), (0x82, 1, 0x201A), (0x83, 1, 0x192), (0x84, 1, 0x201E), (0x85, 1, 0x2026),
       (0x86, 2, 0x2020), (0x88, 1, 0x2C6), (0x89, 1, 0x2030), (0x8B, 1, 0x2039), (0x8C, 1, 0x152), (0x91, 2, 0x2018),
       (0x93, 2, 0x201C), (0x95, 1, 0x2022), (0x96, 2, 0x2013), (0x98, 1, 0x2DC), (0x99, 1, 0x2122), (0x9B, 1, 0x203A),
       (0x9C, 1, 0x153), (0x9F, 1, 0x178), (0xA0, 35, 0xA0), (0xC3, 1, 0x102), (0xC4, 8, 0xC4), (0xCC, 1, 0x300),
       (0xCD, 3, 0xCD), (0xD0, 1, 0x110), (0xD1, 1, 0xD1), (0xD2, 1, 0x309), (0xD3, 2, 0xD3), (0xD5, 1, 0x1A0),
       (0xD6, 7, 0xD6), (0xDD, 1, 0x1AF), (0xDE, 1, 0x303), (0xDF, 4, 0xDF), (0xE3, 1, 0x103), (0xE4, 8, 0xE4),
       (0xEC, 1, 0x301), (0xED, 3, 0xED), (0xF0, 1, 0x111), (0xF1, 1, 0xF1), (0xF2, 1, 0x323), (0xF3, 2, 0xF3),
       (0xF5, 1, 0x1A1), (0xF6, 7, 0xF6), (0xFD, 1, 0x1B0), (0xFE, 1, 0x20AB), (0xFF, 1, 0xFF)] },
  { name := "cp874"
    others := []
    runs := [(0x80, 1, 0x20AC), (0x85, 1, 0x2026), (0x91, 2, 0x2018), (0x93, 2, 0x201C), (0x95, 1, 0x2022),
       (0x96, 2, 0x2013), (0xA0, 1, 0xA0), (0xA1, 58, 0xE01), (0xDF, 29, 0xE3F)] },
  { name := "tis_620"
    others := ["iso_ir_166", "tis620", "tis_620_0", "tis_620_2529_0", "tis_620_2529_1"]
    runs := [(0x80, 32, 0x80), (0xA1, 58, 0xE01), (0xDF, 29, 0xE3F)] },
  { name := "koi8_r"
    others := ["cskoi8r"]
    runs := [(0x80, 1, 0x2500), (0x81, 1, 0x2502), (0x82, 1, 0x250C), (0x83, 1, 0x2510), (0x84, 1, 0x2514),
       (0x85, 1, 0x2518), (0x86, 1, 0x251C), (0x87, 1, 0x2524), (0x88, 1, 0x252C), (0x89, 1, 0x2534), (0x8A, 1, 0x253C),
       (0x8B, 1, 0x2580), (0x8C, 1, 0x2584), (0x8D, 1, 0x2588), (0x8E, 1, 0x258C), (0x8F, 4, 0x2590), (0x93, 1, 0x2320),
       (0x94, 1, 0x25A0), (0x95, 2, 0x2219), (0x97, 1, 0x2248), (0x98, 2, 0x2264), (0x9A, 1, 0xA0), (0x9B, 1, 0x2321),
       (0x9C, 1, 0xB0), (0x9D, 1, 0xB2), (0x9E, 1, 0xB7), (0x9F, 1, 0xF7), (0xA0, 3, 0x2550), (0xA3, 1, 0x451),
       (0xA4, 15, 0x2553), (0xB3, 1, 0x401), (0xB4, 11, 0x2562), (0xBF, 1, 0xA9), (0xC0, 1, 0x44E), (0xC1, 2, 0x430),
       (0xC3, 1, 0x446), (0xC4, 2, 0x434), (0xC6, 1, 0x444), (0xC7, 1, 0x433), (0xC8, 1, 0x445), (0xC9, 8, 0x438),
       (0xD1, 1, 0x44F), (0xD2, 4, 0x440), (0xD6, 1, 0x436), (0xD7, 1, 0x432), (0xD8, 1, 0x44C), (0xD9, 1, 0x44B),
       (0xDA, 1, 0x437), (0xDB, 1, 0x448), (0xDC, 1, 0x44D), (0xDD, 1, 0x449), (0xDE, 1, 0x447), (0xDF, 1, 0x44A),
       (0xE0, 1, 0x42E), (0xE1, 2, 0x410), (0xE3, 1, 0x426), (0xE4, 2, 0x414), (0xE6, 1, 0x424), (0xE7, 1, 0x413),
       (0xE8, 1, 0x425), (0xE9, 8, 0x418), (0xF1, 1, 0x42F), (0xF2, 4, 0x420), (0xF6, 1, 0x416), (0xF7, 1, 0x412),
       (0xF8, 1, 0x42C), (0xF9, 1, 0x42B), (0xFA, 1, 0x417), (0xFB, 1, 0x428), (0xFC, 1, 0x42D), (0xFD, 1, 0x429),
       (0xFE, 1, 0x427), (0xFF, 1, 0x42A)] },
  { name := "koi8_u"
    others := []
    runs := [(0x80, 1, 0x2500), (0x81, 1, 0x2502), (0x82, 1, 0x250C), (0x83, 1, 0x2510), (0x84, 1, 0x2514),
       (0x85, 1, 0x2518), (0x86, 1, 0x251C), (0x87, 1, 0x2524), (0x88, 1, 0x252C), (0x89, 1, 0x2534), (0x8A, 1, 0x253C),
       (0x8B, 1, 0x2580), (0x8C, 1, 0x2584), (0x8D, 1, 0x2588), (0x8E, 1, 0x258C), (0x8F, 4, 0x2590), (0x93, 1, 0x2320),
       (0x94, 1, 0x25A0), (0x95, 2, 0x2219), (0x97, 1, 0x2248), (0x98, 2, 0x2264), (0x9A, 1, 0xA0), (0x9B, 1, 0x2321),
       (0x9C, 1, 0xB0), (0x9D, 1, 0xB2), (0x9E, 1, 0xB7), (0x9F, 1, 0xF7), (0xA0, 3, 0x2550), (0xA3, 1, 0x451),
       (0xA4, 1, 0x454), (0xA5, 1, 0x2554), (0xA6, 2, 0x456), (0xA8, 5, 0x2557), (0xAD, 1, 0x491), (0xAE, 5, 0x255D),
       (0xB3, 1, 0x401), (0xB4, 1, 0x404), (0xB5, 1, 0x2563), (0xB6, 2, 0x406), (0xB8, 5, 0x2566), (0xBD, 1, 0x490),
       (0xBE, 1, 0x256C), (0xBF, 1, 0xA9), (0xC0, 1, 0x44E), (0xC1, 2, 0x430), (0xC3, 1, 0x446), (0xC4, 2, 0x434),
       (0xC6, 1, 0x444), (0xC7, 1, 0x433), (0xC8, 1, 0x445), (0xC9, 8, 0x438), (0xD1, 1, 0x44F), (0xD2, 4, 0x440),
       (0xD6, 1, 0x436), (0xD7, 1, 0x432), (0xD8, 1, 0x44C), (0xD9, 1, 0x44B), (0xDA, 1, 0x437), (0xDB, 1, 0x448),
       (0xDC, 1, 0x44D), (0xDD, 1, 0x449), (0xDE, 1, 0x447), (0xDF, 1, 0x44A), (0xE0, 1, 0x42E), (0xE1, 2, 0x410),
       (0xE3, 1, 0x426), (0xE4, 2, 0x414), (0xE6, 1, 0x424), (0xE7, 1, 0x413), (0xE8, 1, 0x425), (0xE9, 8, 0x418),
       (0xF1, 1, 0x42F), (0xF2, 4, 0x420), (0xF6, 1, 0x416), (0xF7, 1, 0x412), (0xF8, 1, 0x42C), (0xF9, 1, 0x42B),
       (0xFA, 1, 0x417), (0xFB, 1, 0x428), (0xFC, 1, 0x42D), (0xFD, 1, 0x429), (0xFE, 1, 0x427), (0xFF, 1, 0x42A)] },
  { name := "mac_roman"
    others := ["macintosh", "macroman"]
    runs := [(0x80, 2, 0xC4), (0x82, 1, 0xC7), (0x83, 1, 0xC9), (0x84, 1, 0xD1), (0x85, 1, 0xD6), (0x86, 1, 0xDC),
       (0x87, 1, 0xE1), (0x88, 1, 0xE0), (0x89, 1, 0xE2), (0x8A, 1, 0xE4), (0x8B, 1, 0xE3), (0x8C, 1, 0xE5),
       (0x8D, 1, 0xE7), (0x8E, 1, 0xE9), (0x8F, 1, 0xE8), (0x90, 2, 0xEA), (0x92, 1, 0xED), (0x93, 1, 0xEC),
       (0x94, 2, 0xEE), (0x96, 1, 0xF1), (0x97, 1, 0xF3), (0x98, 1, 0xF2), (0x99, 1, 0xF4), (0x9A, 1, 0xF6),
       (0x9B, 1, 0xF5), (0x9C, 1, 0xFA), (0x9D, 1, 0xF9), (0x9E, 2, 0xFB), (0xA0, 1, 0x2020), (0xA1, 1, 0xB0),
       (0xA2, 2, 0xA2), (0xA4, 1, 0xA7), (0xA5, 1, 0x2022), (0xA6, 1, 0xB6), (0xA7, 1, 0xDF), (0xA8, 1, 0xAE),
       (0xA9, 1, 0xA9), (0xAA, 1, 0x2122), (0xAB, 1, 0xB4), (0xAC, 1, 0xA8), (0xAD, 1, 0x2260), (0xAE, 1, 0xC6),
       (0xAF, 1, 0xD8), (0xB0, 1, 0x221E), (0xB1, 1, 0xB1), (0xB2, 2, 0x2264), (0xB4, 1, 0xA5), (0xB5, 1, 0xB5),
       (0xB6, 1, 0x2202), (0xB7, 1, 0x2211), (0xB8, 1, 0x220F), (0xB9, 1, 0x3C0), (0xBA, 1, 0x222B), (0xBB, 1, 0xAA),
       (0xBC, 1, 0xBA), (0xBD, 1, 0x3A9), (0xBE, 1, 0xE6), (0xBF, 1, 0xF8), (0xC0, 1, 0xBF), (0xC1, 1, 0xA1),
       (0xC2, 1, 0xAC), (0xC3, 1, 0x221A), (0xC4, 1, 0x192), (0xC5, 1, 0x2248), (0xC6, 1, 0x2206), (0xC7, 1, 0xAB),
       (0xC8, 1, 0xBB), (0xC9, 1, 0x2026), (0xCA, 1, 0xA0), (0xCB, 1, 0xC0), (0xCC, 1, 0xC3), (0xCD, 1, 0xD5),
       (0xCE, 2, 0x152), (0xD0, 2, 0x2013), (0xD2, 2, 0x201C), (0xD4, 2, 0x2018), (0xD6, 1, 0xF7), (0xD7, 1, 0x25CA),
       (0xD8, 1, 0xFF), (0xD9, 1, 0x178), (0xDA, 1, 0x2044), (0xDB, 1, 0x20AC), (0xDC, 2, 0x2039), (0xDE, 2, 0xFB01),
       (0xE0, 1, 0x2021), (0xE1, 1, 0xB7), (0xE2, 1, 0x201A), (0xE3, 1, 0x201E), (0xE4, 1, 0x2030), (0xE5, 1, 0xC2),
       (0xE6, 1, 0xCA), (0xE7, 1, 0xC1), (0xE8, 1, 0xCB), (0xE9, 1, 0xC8), (0xEA, 3, 0xCD), (0xED, 1, 0xCC),
       (0xEE, 2, 0xD3), (0xF0, 1, 0xF8FF), (0xF1, 1, 0xD2), (0xF2, 2, 0xDA), (0xF4, 1, 0xD9), (0xF5, 1, 0x131),
       (0xF6, 1, 0x2C6), (0xF7, 1, 0x2DC), (0xF8, 1, 0xAF), (0xF9, 3, 0x2D8), (0xFC, 1, 0xB8), (0xFD, 1, 0x2DD),
       (0xFE, 1, 0x2DB), (0xFF, 1, 0x2C7)] },
  { name := "cp437"
    others := ["437", "cspc8codepage437", "ibm437"]
    runs := [(0x80, 1, 0xC7), (0x81, 1, 0xFC), (0x82, 1, 0xE9), (0x83, 1, 0xE2), (0x84, 1, 0xE4), (0x85, 1, 0xE0),
       (0x86, 1, 0xE5), (0x87, 1, 0xE7), (0x88, 2, 0xEA), (0x8A, 1, 0xE8), (0x8B, 1, 0xEF), (0x8C, 1, 0xEE),
       (0x8D, 1, 0xEC), (0x8E, 2, 0xC4), (0x90, 1, 0xC9), (0x91, 1, 0xE6), (0x92, 1, 0xC6), (0x93, 1, 0xF4),
       (0x94, 1, 0xF6), (0x95, 1, 0xF2), (0x96, 1, 0xFB), (0x97, 1, 0xF9), (0x98, 1, 0xFF), (0x99, 1, 0xD6),
       (0x9A, 1, 0xDC), (0x9B, 2, 0xA2), (0x9D, 1, 0xA5), (0x9E, 1, 0x20A7), (0x9F, 1, 0x192), (0xA0, 1, 0xE1),
       (0xA1, 1, 0xED), (0xA2, 1, 0xF3), (0xA3, 1, 0xFA), (0xA4, 1, 0xF1), (0xA5, 1, 0xD1), (0xA6, 1, 0xAA),
       (0xA7, 1, 0xBA), (0xA8, 1, 0xBF), (0xA9, 1, 0x2310), (0xAA, 1, 0xAC), (0xAB, 1, 0xBD), (0xAC, 1, 0xBC),
       (0xAD, 1, 0xA1), (0xAE, 1, 0xAB), (0xAF, 1, 0xBB), (0xB0, 3, 0x2591), (0xB3, 1, 0x2502), (0xB4, 1, 0x2524),
       (0xB5, 2, 0x2561), (0xB7, 1, 0x2556), (0xB8, 1, 0x2555), (0xB9, 1, 0x2563), (0xBA, 1, 0x2551), (0xBB, 1, 0x2557),
       (0xBC, 1, 0x255D), (0xBD, 1, 0x255C), (0xBE, 1, 0x255B), (0xBF, 1, 0x2510), (0xC0, 1, 0x2514), (0xC1, 1, 0x2534),
       (0xC2, 1, 0x252C), (0xC3, 1, 0x251C), (0xC4, 1, 0x2500), (0xC5, 1, 0x253C), (0xC6, 2, 0x255E), (0xC8, 1, 0x255A),
       (0xC9, 1, 0x2554), (0xCA, 1, 0x2569), (0xCB, 1, 0x2566), (0xCC, 1, 0x2560), (0xCD, 1, 0x2550), (0xCE, 1, 0x256C),
       (0xCF, 2, 0x2567), (0xD1, 2, 0x2564), (0xD3, 1, 0x2559), (0xD4, 1, 0x2558), (0xD5, 2, 0x2552), (0xD7, 1, 0x256B),
       (0xD8, 1, 0x256A), (0xD9, 1, 0x2518), (0xDA, 1, 0x250C), (0xDB, 1, 0x2588), (0xDC, 1, 0x2584), (0xDD, 1, 0x258C),
       (0xDE, 1, 0x2590), (0xDF, 1, 0x2580), (0xE0, 1, 0x3B1), (0xE1, 1, 0xDF), (0xE2, 1, 0x393), (0xE3, 1, 0x3C0),
       (0xE4, 1, 0x3A3), (0xE5, 1, 0x3C3), (0xE6, 1, 0xB5), (0xE7, 1, 0x3C4), (0xE8, 1, 0x3A6), (0xE9, 1, 0x398),
       (0xEA, 1, 0x3A9), (0xEB, 1, 0x3B4), (0xEC, 1, 0x221E), (0xED, 1, 0x3C6), (0xEE, 1, 0x3B5), (0xEF, 1, 0x2229),
       (0xF0, 1, 0x2261), (0xF1, 1, 0xB1), (0xF2, 1, 0x2265), (0xF3, 1, 0x2264), (0xF4, 2, 0x2320), (0xF6, 1, 0xF7),
       (0xF7, 1, 0x2248), (0xF8, 1, 0xB0), (0xF9, 1, 0x2219), (0xFA, 1, 0xB7), (0xFB, 1, 0x221A), (0xFC, 1, 0x207F),
       (0xFD, 1, 0xB2), (0xFE, 1, 0x25A0), (0xFF, 1, 0xA0)] },
  { name := "cp850"
    others := ["850", "cspc850multilingual", "ibm850"]
    runs := [(0x80, 1, 0xC7), (0x81, 1, 0xFC), (0x82, 1, 0xE9), (0x83, 1, 0xE2), (0x84, 1, 0xE4), (0x85, 1, 0xE0),
       (0x86, 1, 0xE5), (0x87, 1, 0xE7), (0x88, 2, 0xEA), (0x8A, 1, 0xE8), (0x8B, 1, 0xEF), (0x8C, 1, 0xEE),
       (0x8D, 1, 0xEC), (0x8E, 2, 0xC4), (0x90, 1, 0xC9), (0x91, 1, 0xE6), (0x92, 1, 0xC6), (0x93, 1, 0xF4),
       (0x94, 1, 0xF6), (0x95, 1, 0xF2), (0x96, 1, 0xFB), (0x97, 1, 0xF9), (0x98, 1, 0xFF), (0x99, 1, 0xD6),
       (0x9A, 1, 0xDC), (0x9B, 1, 0xF8), (0x9C, 1, 0xA3), (0x9D, 1, 0xD8), (0x9E, 1, 0xD7), (0x9F, 1, 0x192),
       (0xA0, 1, 0xE1), (0xA1, 1, 0xED), (0xA2, 1, 0xF3), (0xA3, 1, 0xFA), (0xA4, 1, 0xF1), (0xA5, 1, 0xD1),
       (0xA6, 1, 0xAA), (0xA7, 1, 0xBA), (0xA8, 1, 0xBF), (0xA9, 1, 0xAE), (0xAA, 1, 0xAC), (0xAB, 1, 0xBD),
       (0xAC, 1, 0xBC), (0xAD, 1, 0xA1), (0xAE, 1, 0xAB), (0xAF, 1, 0xBB), (0xB0, 3, 0x2591), (0xB3, 1, 0x2502),
       (0xB4, 1, 0x2524), (0xB5, 2, 0xC1), (0xB7, 1, 0xC0), (0xB8, 1, 0xA9), (0xB9, 1, 0x2563), (0xBA, 1, 0x2551),
       (0xBB, 1, 0x2557), (0xBC, 1, 0x255D), (0xBD, 1, 0xA2), (0xBE, 1, 0xA5), (0xBF, 1, 0x2510), (0xC0, 1, 0x2514),
       (0xC1, 1, 0x2534), (0xC2, 1, 0x252C), (0xC3, 1, 0x251C), (0xC4, 1, 0x2500), (0xC5, 1, 0x253C), (0xC6, 1, 0xE3),
       (0xC7, 1, 0xC3), (0xC8, 1, 0x255A), (0xC9, 1, 0x2554), (0xCA, 1, 0x2569), (0xCB, 1, 0x2566), (0xCC, 1, 0x2560),
       (0xCD, 1, 0x2550), (0xCE, 1, 0x256C), (0xCF, 1, 0xA4), (0xD0, 1, 0xF0), (0xD1, 1, 0xD0), (0xD2, 2, 0xCA),
       (0xD4, 1, 0xC8), (0xD5, 1, 0x131), (0xD6, 3, 0xCD), (0xD9, 1, 0x2518), (0xDA, 1, 0x250C), (0xDB, 1, 0x2588),
       (0xDC, 1, 0x2584), (0xDD, 1, 0xA6), (0xDE, 1, 0xCC), (0xDF, 1, 0x2580), (0xE0, 1, 0xD3), (0xE1, 1, 0xDF),
       (0xE2, 1, 0xD4), (0xE3, 1, 0xD2), (0xE4, 1, 0xF5), (0xE5, 1, 0xD5), (0xE6, 1, 0xB5), (0xE7, 1, 0xFE),
       (0xE8, 1, 0xDE), (0xE9, 2, 0xDA), (0xEB, 1, 0xD9), (0xEC, 1, 0xFD), (0xED, 1, 0xDD), (0xEE, 1, 0xAF),
       (0xEF, 1, 0xB4), (0xF0, 1, 0xAD), (0xF1, 1, 0xB1), (0xF2, 1, 0x2017), (0xF3, 1, 0xBE), (0xF4, 1, 0xB6),
       (0xF5, 1, 0xA7), (0xF6, 1, 0xF7), (0xF7, 1, 0xB8), (0xF8, 1, 0xB0), (0xF9, 1, 0xA8), (0xFA, 1, 0xB7),
       (0xFB, 1, 0xB9), (0xFC, 1, 0xB3), (0xFD, 1, 0xB2), (0xFE, 1, 0x25A0), (0xFF, 1, 0xA0)] },
  { name := "cp866"
    others := ["866", "csibm866", "ibm866"]
    runs := [(0x80, 48, 0x410), (0xB0, 3, 0x2591), (0xB3, 1, 0x2502), (0xB4, 1, 0x2524), (0xB5, 2, 0x2561),
       (0xB7, 1, 0x2556), (0xB8, 1, 0x2555), (0xB9, 1, 0x2563), (0xBA, 1, 0x2551), (0xBB, 1, 0x2557), (0xBC, 1, 0x255D),
       (0xBD, 1, 0x255C), (0xBE, 1, 0x255B), (0xBF, 1, 0x2510), (0xC0, 1, 0x2514), (0xC1, 1, 0x2534), (0xC2, 1, 0x252C),
       (0xC3, 1, 0x251C), (0xC4, 1, 0x2500), (0xC5, 1, 0x253C), (0xC6, 2, 0x255E), (0xC8, 1, 0x255A), (0xC9, 1, 0x2554),
       (0xCA, 1, 0x2569), (0xCB, 1, 0x2566), (0xCC, 1, 0x2560), (0xCD, 1, 0x2550), (0xCE, 1, 0x256C), (0xCF, 2, 0x2567),
       (0xD1, 2, 0x2564), (0xD3, 1, 0x2559), (0xD4, 1, 0x2558), (0xD5, 2, 0x2552), (0xD7, 1, 0x256B), (0xD8, 1, 0x256A),
       (0xD9, 1, 0x2518), (0xDA, 1, 0x250C), (0xDB, 1, 0x2588), (0xDC, 1, 0x2584), (0xDD, 1, 0x258C), (0xDE, 1, 0x2590),
       (0xDF, 1, 0x2580), (0xE0, 16, 0x440), (0xF0, 1, 0x401), (0xF1, 1, 0x451), (0xF2, 1, 0x404), (0xF3, 1, 0x454),
       (0xF4, 1, 0x407), (0xF5, 1, 0x457), (0xF6, 1, 0x40E), (0xF7, 1, 0x45E), (0xF8, 1, 0xB0), (0xF9, 1, 0x2219),
       (0xFA, 1, 0xB7), (0xFB, 1, 0x221A), (0xFC, 1, 0x2116), (0xFD, 1, 0xA4), (0xFE, 1, 0x25A0), (0xFF, 1, 0xA0)] }]

end RanConsole.Text
