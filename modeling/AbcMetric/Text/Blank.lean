import AbcMetric.Text.Ranges

/-!
# Blank characters

The Unicode property `White_Space`.
-/

namespace AbcMetric

/-- The code points of `White_Space`. -/
def whiteSpace : CharRanges :=
  [(0x9, 0xd), (0x20, 0x20), (0x85, 0x85), (0xa0, 0xa0), (0x1680, 0x1680), (0x2000, 0x200a),
   (0x2028, 0x2029), (0x202f, 0x202f), (0x205f, 0x205f), (0x3000, 0x3000)]

/-- Whether `c` is blank. -/
def isBlank (c : Char) : Bool := whiteSpace.has c

end AbcMetric
