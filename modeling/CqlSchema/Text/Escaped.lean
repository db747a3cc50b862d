import CqlSchema.Text.Unprintable

/-! Text shown inside a message: between double quotes, with every character that would not show
given by an escape. -/
namespace CqlSchema.Text

def shownChar (c : Char) : Text :=
  if c = '\x00' then "\\0".toList
  else if c = '\t' then "\\t".toList
  else if c = '\r' then "\\r".toList
  else if c = '\n' then "\\n".toList
  else if c = '\\' || c = '"' then ['\\', c]
  else if unprintableRanges.holds c then
    "\\u\x7b".toList ++ Nat.toDigits 16 c.toNat ++ "\x7d".toList
  else [c]

def shown (text : Text) : Text := '"' :: (text.flatMap shownChar ++ ['"'])

end CqlSchema.Text
