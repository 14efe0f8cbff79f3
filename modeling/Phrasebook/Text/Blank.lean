/-! # White space

The characters with Unicode's `White_Space` property, and trimming them from both ends.
-/

namespace Phrasebook.Text

/-- Whether a character is white space. -/
def isWhite (c : Char) : Bool :=
  let n := c.toNat
  (9 ≤ n && n ≤ 13) || n = 32 || n = 0x85 || n = 0xA0 || n = 0x1680 ||
  (0x2000 ≤ n && n ≤ 0x200A) || n = 0x2028 || n = 0x2029 || n = 0x202F || n = 0x205F ||
  n = 0x3000

/-- Whether a text is empty once white space is trimmed from both ends. -/
def isBlankText (s : String) : Bool :=
  s.toList.all isWhite

end Phrasebook.Text
