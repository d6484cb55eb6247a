import Reckon.Text.Range

/-! Blank characters: the separators, tabs and line ends that carry no text. The class is wider
than the six ASCII blanks and leaves out the zero-width space. -/
namespace Reckon.Text

def blanks : Ranges := [
  (0x9, 0xd), (0x1c, 0x20), (0x85, 0x85), (0xa0, 0xa0), (0x1680, 0x1680), (0x2000, 0x200a),
  (0x2028, 0x2029), (0x202f, 0x202f), (0x205f, 0x205f), (0x3000, 0x3000)]

def isBlank (c : Char) : Bool := blanks.has c

end Reckon.Text
