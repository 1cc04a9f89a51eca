import TextGauge.Unicode.Ranges

/-!
# Blanks of all scripts

The property White_Space: the ASCII blanks and line ends, and the spaces and separators of other
scripts.
-/

namespace TextGauge.Unicode

/-- The code points with the property White_Space. -/
def whiteRanges : Ranges :=
  [(0x9, 0xD), (0x20, 0x20), (0x85, 0x85), (0xA0, 0xA0), (0x1680, 0x1680), (0x2000, 0x200A),
   (0x2028, 0x2029), (0x202F, 0x202F), (0x205F, 0x205F), (0x3000, 0x3000)]

/-- Whether a character is a blank of some script. -/
def isWhite (c : Char) : Bool :=
  whiteRanges.contains c.toNat

end TextGauge.Unicode
