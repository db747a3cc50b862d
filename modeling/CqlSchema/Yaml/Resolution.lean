import CqlSchema.Decimal.Layout
import CqlSchema.Decimal.Read
import CqlSchema.Yaml.Node

/-! What a scalar is read as where a value of any kind may stand: a plain one by its text or by its
tag, every other one as text unless it has a tag. -/
namespace CqlSchema.Yaml

/-- What a scalar is read as. A wide integer does not fit 64 bits, but 128. -/
inductive Resolved
  | null
  | boolean (value : Bool)
  | integer (value : Int)
  | wideInteger (value : Int)
  | float (value : Float)
  | text (value : String)

inductive TagKind
  | null
  | boolean
  | integer
  | float
  deriving DecidableEq, Repr

def TagKind.tag : TagKind → String
  | null => "tag:yaml.org,2002:null"
  | boolean => "tag:yaml.org,2002:bool"
  | integer => "tag:yaml.org,2002:int"
  | float => "tag:yaml.org,2002:float"

def TagKind.ofTag? (tag : String) : Option TagKind :=
  [null, boolean, integer, float].find? (·.tag == tag)

def TagKind.wanted : TagKind → String
  | null => "null"
  | boolean => "a boolean"
  | integer => "an integer"
  | float => "a float"

/-- A tag of the document's own: an exclamation mark, and the name behind it. -/
def localTag? (tag : Option String) : Option String := do
  match (← tag).toList with
  | '!' :: name => some (String.ofList name)
  | _ => none

def isNullWord (text : String) : Bool := ["~", "null", "Null", "NULL"].contains text

def boolean? (text : String) : Option Bool :=
  if ["true", "True", "TRUE"].contains text then some true
  else if ["false", "False", "FALSE"].contains text then some false
  else none

/-! ## Integers -/

def hasLeadingZero (text : Text) : Bool :=
  let digits := (Decimal.sign text).2
  1 < digits.length && digits.head? == some '0' && digits.all Char.isDigit

/-- The base of a number that starts with `0x`, `0o` or `0b`, and its digits. -/
def based? : Text → Option (Nat × Text)
  | '0' :: 'x' :: rest => some (16, rest)
  | '0' :: 'o' :: rest => some (8, rest)
  | '0' :: 'b' :: rest => some (2, rest)
  | _ => none

def basedNatural? (limit : Nat) (text : Text) : Option Nat := do
  let (base, digits) ← based? text
  (Decimal.natural? base digits).filter (· < limit)

def natural? (limit : Nat) (text : Text) : Option Nat :=
  let body := if text.head? == some '+' then text.drop 1 else text
  (basedNatural? limit body).or <|
    if hasLeadingZero text then none else (Decimal.natural? 10 body).filter (· < limit)

def negative? (limit : Nat) : Text → Option Int
  | '-' :: body =>
    ((basedNatural? (limit + 1) body).or <|
      if hasLeadingZero body then none
      else (Decimal.natural? 10 body).filter (· < limit + 1)).map fun n => -(n : Int)
  | _ => none

def integer? (text : Text) : Option Resolved :=
  (((natural? UInt64.size text).map fun n => .integer n).or
    ((negative? (UInt64.size / 2) text).map .integer)).or
  (((natural? (UInt64.size * UInt64.size) text).map fun n => .wideInteger n).or
    ((negative? (UInt64.size * UInt64.size / 2) text).map .wideInteger))

/-! ## Floats -/

def infinity : Float := Float.ofBits 0x7ff0000000000000

def notANumber : Float := Float.ofBits 0x7ff8000000000000

def float? (text : Text) : Option Float :=
  let body := if text.head? == some '+' then text.drop 1 else text
  let signed := body.length < text.length && body.head?.any fun c => c == '+' || c == '-'
  if signed then none
  else if [".inf", ".Inf", ".INF"].contains (String.ofList body) then some infinity
  else if ["-.inf", "-.Inf", "-.INF"].contains (String.ofList text) then some (-infinity)
  else if [".nan", ".NaN", ".NAN"].contains (String.ofList text) then some notANumber
  else (Decimal.read? body).filter Decimal.isFinite

/-! ## Scalars -/

def resolvePlain (text : String) : Resolved :=
  if text.isEmpty || isNullWord text then .null
  else match boolean? text with
    | some value => .boolean value
    | none =>
      match integer? text.toList with
      | some value => value
      | none =>
        match if hasLeadingZero text.toList then none else float? text.toList with
        | some value => .float value
        | none => .text text

def resolveAs (kind : TagKind) (text : String) : Option Resolved :=
  match kind with
  | .null => if isNullWord text then some .null else none
  | .boolean => (boolean? text).map .boolean
  | .integer => integer? text.toList
  | .float => (float? text.toList).map .float

namespace Scalar

/-- What the scalar is read as, or the kind that its tag demands and that it is not. -/
def resolve (scalar : Scalar) : Except TagKind Resolved :=
  match scalar.tag with
  | none =>
    .ok (if scalar.style = .plain then resolvePlain scalar.text else .text scalar.text)
  | some tag =>
    match TagKind.ofTag? tag with
    | some kind =>
      match resolveAs kind scalar.text with
      | some value => .ok value
      | none => .error kind
    | none =>
      .ok (if scalar.style = .plain && (localTag? tag).isSome then resolvePlain scalar.text
        else .text scalar.text)

/-- Whether the scalar may be read as of that kind: it is plain, or a literal block tagged so. -/
def mayBe (scalar : Scalar) (kind : TagKind) : Bool :=
  scalar.style = .plain || (scalar.style = .literal && scalar.tag == some kind.tag)

/-- Whether nothing at all is written in place of the scalar, its tag apart. -/
def isMissing (scalar : Scalar) : Bool := scalar.style = .plain && scalar.text.isEmpty

end Scalar
end CqlSchema.Yaml
