import CqlSchema.Decimal.Read
import CqlSchema.Decimal.Shortest
import CqlSchema.Json.Basic

/-! JSON text read as a value. Each reader gives what it has read and the text behind it, or nothing
if the text is not well-formed. -/
namespace CqlSchema.Json

def isSpace (c : Char) : Bool := c == ' ' || c == '\t' || c == '\n' || c == '\x0d'

def skipSpace (text : Text) : Text := text.dropWhile isSpace

inductive StringUnit
  | char (c : Char)
  | code (n : Nat)
  deriving DecidableEq, Repr

def escaped? : Char → Option Char
  | '"' => some '"'
  | '\\' => some '\\'
  | '/' => some '/'
  | 'b' => some '\x08'
  | 'f' => some '\x0c'
  | 'n' => some '\n'
  | 'r' => some '\x0d'
  | 't' => some '\t'
  | _ => none

def readUnits : Text → Option (List StringUnit × Text)
  | [] => none
  | '"' :: rest => some ([], rest)
  | '\\' :: 'u' :: a :: b :: c :: d :: rest => do
    let n ← Decimal.natural? 16 [a, b, c, d]
    let (units, behind) ← readUnits rest
    some (.code n :: units, behind)
  | '\\' :: c :: rest => do
    let c ← escaped? c
    let (units, behind) ← readUnits rest
    some (.char c :: units, behind)
  | c :: rest =>
    if c == '\\' || c.toNat < 0x20 then none
    else do
      let (units, behind) ← readUnits rest
      some (.char c :: units, behind)

def isLeading (n : Nat) : Bool := 0xd800 ≤ n && n ≤ 0xdbff

def isTrailing (n : Nat) : Bool := 0xdc00 ≤ n && n ≤ 0xdfff

/-- The characters that the units spell. Two halves of a surrogate pair spell one. -/
def spelled : List StringUnit → Except SurrogateFault Text
  | [] => .ok []
  | .char c :: rest => (spelled rest).map (c :: ·)
  | .code n :: rest =>
    if isTrailing n then .error .alone
    else if isLeading n then
      match rest with
      | .code m :: rest =>
        if isTrailing m then
          (spelled rest).map (Char.ofNat (0x10000 + (n - 0xd800) * 0x400 + (m - 0xdc00)) :: ·)
        else .error .alone
      | _ => .error .unfollowed
    else (spelled rest).map (Char.ofNat n :: ·)

def readString (text : Text) : Option (JsonString × Text) :=
  (readUnits text).map fun (units, behind) => ((spelled units).map String.ofList, behind)

/-- The value of a number by its parts. Minus zero is a float. -/
def numberOfParts (negative : Bool) (whole fraction : Text) (power : Option Int) : Option Json := do
  let digits ← Decimal.natural? 10 (whole ++ fraction)
  let value := if negative then -(digits : Int) else digits
  if fraction.isEmpty && power.isNone && -0x8000000000000000 ≤ value &&
      value < 0x10000000000000000 && !(negative && digits == 0) then
    some (.integer value)
  else
    let nearest := Decimal.nearest negative digits (power.getD 0 - fraction.length)
    some (if Decimal.isFinite nearest then .float nearest else .hugeNumber)

def readFraction : Text → Option (Text × Text)
  | '.' :: rest =>
    let digits := rest.takeWhile Char.isDigit
    if digits.isEmpty then none else some (digits, rest.dropWhile Char.isDigit)
  | text => some ([], text)

def readPower : Text → Option (Option Int × Text)
  | [] => some (none, [])
  | c :: rest =>
    if c = 'e' || c = 'E' then
      let (negative, body) := Decimal.sign rest
      (Decimal.natural? 10 (body.takeWhile Char.isDigit)).map fun n =>
        (some (if negative then -n else n), body.dropWhile Char.isDigit)
    else some (none, c :: rest)

def readNumber (text : Text) : Option (Json × Text) := do
  let negative := text.head? == some '-'
  let body := if negative then text.drop 1 else text
  let whole := body.takeWhile Char.isDigit
  if whole.isEmpty || (whole.head? == some '0' && 1 < whole.length) then none
  let (fraction, behind) ← readFraction (body.dropWhile Char.isDigit)
  let (power, behind) ← readPower behind
  let number ← numberOfParts negative whole fraction power
  some (number, behind)

/-- At most so many items behind the first one up to the closing bracket, each read by `item`. -/
def readItems (item : Text → Option (Json × Text)) : Nat → Text → Option (List Json × Text)
  | 0, _ => none
  | count + 1, text =>
    match skipSpace text with
    | ']' :: rest => some ([], rest)
    | ',' :: rest => do
      let (value, behind) ← item rest
      let (values, behind) ← readItems item count behind
      some (value :: values, behind)
    | _ => none

def readMember (item : Text → Option (Json × Text)) (text : Text) :
    Option ((JsonString × Json) × Text) :=
  match skipSpace text with
  | '"' :: rest =>
    match readString rest with
    | none => none
    | some (name, behind) =>
      match skipSpace behind with
      | ':' :: rest => (item rest).map fun (value, behind) => ((name, value), behind)
      | _ => none
  | _ => none

/-- At most so many members behind the first one up to the closing brace. -/
def readMembers (item : Text → Option (Json × Text)) :
    Nat → Text → Option (List (JsonString × Json) × Text)
  | 0, _ => none
  | count + 1, text =>
    match skipSpace text with
    | '\x7d' :: rest => some ([], rest)
    | ',' :: rest => do
      let (first, behind) ← readMember item rest
      let (others, behind) ← readMembers item count behind
      some (first :: others, behind)
    | _ => none

def behindWord? (word : String) (text : Text) : Option Text :=
  if word.toList.isPrefixOf text then some (text.drop word.length) else none

/-- A value with fewer than `bound` values around one another and in any one list or object. -/
def readValue : Nat → Text → Option (Json × Text)
  | 0, _ => none
  | bound + 1, text =>
    match skipSpace text with
    | [] => none
    | '"' :: rest => (readString rest).map fun (value, behind) => (.string value, behind)
    | '[' :: rest =>
      match skipSpace rest with
      | ']' :: rest => some (.array [], rest)
      | rest => do
        let (first, behind) ← readValue bound rest
        let (others, behind) ← readItems (readValue bound) bound behind
        some (.array (first :: others), behind)
    | '\x7b' :: rest =>
      match skipSpace rest with
      | '\x7d' :: rest => some (.object [], rest)
      | rest => do
        let (first, behind) ← readMember (readValue bound) rest
        let (others, behind) ← readMembers (readValue bound) bound behind
        some (.object (first :: others), behind)
    | 'n' :: rest => (behindWord? "ull" rest).map (.null, ·)
    | 't' :: rest => (behindWord? "rue" rest).map (.boolean true, ·)
    | 'f' :: rest => (behindWord? "alse" rest).map (.boolean false, ·)
    | text => readNumber text

def read? (text : Text) : Option Json := do
  let (value, behind) ← readValue (text.length + 1) text
  if (skipSpace behind).isEmpty then some value else none

end CqlSchema.Json
