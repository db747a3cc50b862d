/-! JSON values as read. Members of an object stay in order with repeats. -/
namespace CqlSchema

inductive SurrogateFault
  | alone
  | unfollowed
  deriving DecidableEq, Repr

def SurrogateFault.message : SurrogateFault → String
  | alone => "lone leading surrogate in hex escape"
  | unfollowed => "unexpected end of hex escape"

/-- What a string spells. One with half a surrogate pair is well-formed but spells nothing. -/
abbrev JsonString := Except SurrogateFault String

/-- A value. A number is whole if it is written so and fits 64 bits with or without a sign, else a
float; one beyond the range of floats has no value. -/
inductive Json
  | null
  | boolean (value : Bool)
  | integer (value : Int)
  | float (value : Float)
  | hugeNumber
  | string (value : JsonString)
  | array (items : List Json)
  | object (members : List (JsonString × Json))

end CqlSchema
