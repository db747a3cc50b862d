import CqlSchema.Decimal.Shortest
import CqlSchema.Text.Basic

/-! How numbers are written: whole numbers by their digits, and floats in the two notations of this
library, the plain one of statements and messages and the one of JSON documents. -/
namespace CqlSchema.Decimal

def natural (n : Nat) : Text := Nat.toDigits 10 n

def integer (n : Int) : Text :=
  match n with
  | .ofNat n => natural n
  | .negSucc n => '-' :: natural (n + 1)

/-- `digits · 10 ^ exponent` without an exponent. -/
def positional (number : Digits) : Text :=
  let digits := natural number.digits
  if 0 ≤ number.exponent then digits ++ List.replicate number.exponent.toNat '0'
  else
    let places := (-number.exponent).toNat
    if places < digits.length then
      digits.take (digits.length - places) ++ '.' :: digits.drop (digits.length - places)
    else '0' :: '.' :: (List.replicate (places - digits.length) '0' ++ digits)

/-- One digit, the point and the other digits if there are any, and a signed exponent. -/
def scientific (number : Digits) : Text :=
  let digits := natural number.digits
  let order := number.exponent + (digits.length - 1 : Nat)
  let fraction := digits.drop 1
  digits.take 1 ++ (if fraction.isEmpty then [] else '.' :: fraction) ++
    'e' :: (if order < 0 then '-' else '+') :: natural order.natAbs

def signed (negative : Bool) (text : Text) : Text := if negative then '-' :: text else text

def plain (x : Float) : Text :=
  match Binary64.ofFloat x with
  | .nan => "NaN".toList
  | .infinite negative => signed negative "inf".toList
  | .finite negative significand exponent =>
    signed negative (positional (shortest .up significand exponent))

def pointed (x : Float) : Text :=
  let text := plain x
  if isFinite x && !text.contains '.' then text ++ ".0".toList else text

/-- The notation of JSON: positional with a point from `10 ^ -5` up to `10 ^ 16`, else with an
exponent. -/
def pointedOrScientific (number : Digits) : Text :=
  let order := number.exponent + ((natural number.digits).length - 1 : Nat)
  if -5 ≤ order && order < 16 then
    let text := positional number
    if text.contains '.' then text else text ++ ".0".toList
  else scientific number

/-- A float that is infinite or no number has no notation in JSON. -/
def json? (x : Float) : Option Text :=
  match Binary64.ofFloat x with
  | .finite negative significand exponent =>
    some (signed negative (pointedOrScientific (shortest .even significand exponent)))
  | _ => none

end CqlSchema.Decimal
