import Homeplan.Text.CodePoints

namespace Homeplan.Text

/-! White space and texts that hold nothing else. -/

/-- The code points of the Unicode property `White_Space`. -/
def whiteSpaceRanges : CodePoints :=
  [(0x9, 0xD), (0x20, 0x20), (0x85, 0x85), (0xA0, 0xA0), (0x1680, 0x1680), (0x2000, 0x200A),
   (0x2028, 0x2029), (0x202F, 0x202F), (0x205F, 0x205F), (0x3000, 0x3000)]

def isWhiteSpace (character : Char) : Bool :=
  whiteSpaceRanges.contains character.toNat

/-- Whether nothing is left of a text once white space is trimmed from its ends. -/
def isBlank (text : String) : Bool :=
  text.toList.all isWhiteSpace

end Homeplan.Text
