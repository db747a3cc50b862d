import CqlSchema.Decimal.Nearest
import CqlSchema.Text.Basic

/-! Decimal text read as a number. -/
namespace CqlSchema.Decimal

def digit? (base : Nat) (c : Char) : Option Nat :=
  let value? :=
    if '0' ≤ c && c ≤ '9' then some (c.toNat - '0'.toNat)
    else if 'a' ≤ c && c ≤ 'f' then some (c.toNat - 'a'.toNat + 10)
    else if 'A' ≤ c && c ≤ 'F' then some (c.toNat - 'A'.toNat + 10)
    else none
  value?.filter (· < base)

/-- Digits of `base`, the most significant first, after the digits that make up `value`. -/
def digitsAfter? (base value : Nat) : Text → Option Nat
  | [] => some value
  | c :: rest => (digit? base c).bind fun digit => digitsAfter? base (value * base + digit) rest

def natural? (base : Nat) (text : Text) : Option Nat :=
  if text.isEmpty then none else digitsAfter? base 0 text

def sign : Text → Bool × Text
  | '-' :: rest => (true, rest)
  | '+' :: rest => (false, rest)
  | text => (false, text)

/-- The power of ten behind a number: nothing, or `e`, a sign that may be missing, and digits. -/
def exponent? : Text → Option Int
  | [] => some 0
  | c :: rest =>
    if c = 'e' || c = 'E' then
      let (negative, digits) := sign rest
      (natural? 10 digits).map fun n => if negative then -n else n
    else none

/-- A finite or infinite number from decimal text: a sign that may be missing, digits with a point
before, among or behind them, and a power of ten that may be missing. -/
def read? (text : Text) : Option Float :=
  let (negative, body) := sign text
  let whole := body.takeWhile Char.isDigit
  let behind := body.dropWhile Char.isDigit
  let fraction := match behind with
    | '.' :: rest => rest.takeWhile Char.isDigit
    | _ => []
  let tail := match behind with
    | '.' :: rest => rest.dropWhile Char.isDigit
    | _ => behind
  do
    let digits ← natural? 10 (whole ++ fraction)
    let power ← exponent? tail
    some (nearest negative digits (power - fraction.length))

end CqlSchema.Decimal
