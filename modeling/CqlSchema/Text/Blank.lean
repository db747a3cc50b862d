import CqlSchema.Text.Ranges

/-! The characters that may stand between the words of a type. -/
namespace CqlSchema.Text

def blankRanges : CodeRanges :=
  [(0x0009, 0x000d), (0x0020, 0x0020), (0x0085, 0x0085), (0x00a0, 0x00a0), (0x1680, 0x1680),
   (0x2000, 0x200a), (0x2028, 0x2029), (0x202f, 0x202f), (0x205f, 0x205f), (0x3000, 0x3000)]

def isBlank (c : Char) : Bool := blankRanges.holds c

def skipBlanks (text : Text) : Text := text.dropWhile isBlank

end CqlSchema.Text
