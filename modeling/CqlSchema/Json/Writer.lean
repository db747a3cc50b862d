import CqlSchema.Decimal.Layout
import CqlSchema.Json.Basic

/-! JSON text without white space. -/
namespace CqlSchema.Json

def hexPair (n : Nat) : Text := [Nat.digitChar (n / 16), Nat.digitChar (n % 16)]

/-- A quote, a backslash and a control character are escaped, every other character stands as it
is. -/
def writtenChar (c : Char) : Text :=
  if c = '"' then ['\\', '"']
  else if c = '\\' then ['\\', '\\']
  else if c = '\x08' then ['\\', 'b']
  else if c = '\t' then ['\\', 't']
  else if c = '\n' then ['\\', 'n']
  else if c = '\x0c' then ['\\', 'f']
  else if c = '\x0d' then ['\\', 'r']
  else if c.toNat < 0x20 then ['\\', 'u', '0', '0'] ++ hexPair c.toNat
  else [c]

def writeString (value : String) : Text := '"' :: (value.toList.flatMap writtenChar ++ ['"'])

def writeBoolean (value : Bool) : Text := if value then "true".toList else "false".toList

/-- A float that is no number has no JSON text but `null`. -/
def writeFloat (value : Float) : Text := (Decimal.json? value).getD "null".toList

def writeArray (items : List Text) : Text := '[' :: (Text.joined [','] items ++ [']'])

def writeMember (name : String) (value : Text) : Text := writeString name ++ ':' :: value

def writeObject (members : List (String × Text)) : Text :=
  '\x7b' :: (Text.joined [','] (members.map fun entry => writeMember entry.1 entry.2) ++ ['\x7d'])

/-- A value to be written. A whole number fits 64 bits with its sign, and every string spells
something. -/
inductive Output
  | null
  | boolean (value : Bool)
  | integer (value : Int64)
  | float (value : Float)
  | string (value : String)
  | array (items : List Output)
  | object (members : List (String × Output))

namespace Output

mutual

def text : Output → Text
  | .null => "null".toList
  | .boolean value => writeBoolean value
  | .integer value => Decimal.integer value.toInt
  | .float value => writeFloat value
  | .string value => writeString value
  | .array items => writeArray (itemTexts items)
  | .object members => writeObject (memberTexts members)

def itemTexts : List Output → List Text
  | [] => []
  | item :: rest => text item :: itemTexts rest

def memberTexts : List (String × Output) → List (String × Text)
  | [] => []
  | (name, value) :: rest => (name, text value) :: memberTexts rest

end

end Output
end CqlSchema.Json
