/-! The shortest decimal that reads back as a given 64-bit float: the coarsest decimal grid with a
point among the reals that round to the float. -/
namespace CqlSchema.Decimal

/-- What the 64 bits of a float denote. A finite one is `significand · 2 ^ exponent`. -/
inductive Binary64
  | nan
  | infinite (negative : Bool)
  | finite (negative : Bool) (significand : Nat) (exponent : Int)
  deriving DecidableEq, Repr

def Binary64.ofBits (bits : UInt64) : Binary64 :=
  let negative := bits >>> 63 == 1
  let biased := (bits >>> 52 &&& 0x7ff).toNat
  let fraction := (bits &&& 0xfffffffffffff).toNat
  if biased = 0x7ff then
    if fraction = 0 then .infinite negative else .nan
  else if biased = 0 then .finite negative fraction (-1074)
  else .finite negative (0x10000000000000 + fraction) (biased - 1075)

def Binary64.ofFloat (x : Float) : Binary64 := .ofBits x.toBits

def isFinite (x : Float) : Bool :=
  match Binary64.ofFloat x with
  | .finite .. => true
  | _ => false

inductive Tie
  | even
  | up
  deriving DecidableEq, Repr

/-- How far down the reals that round to a float reach, in quarters of its unit: half a unit, but a
quarter right above a power of two, where the next float is closer. -/
def quartersBelow (significand : Nat) (exponent : Int) : Nat :=
  if significand = 0x10000000000000 ∧ -1074 < exponent then 1 else 2

/-- The step of the grid `10 ^ grid` beside a quarter of `2 ^ exponent`, both scaled to whole
numbers. -/
def gridStep (exponent grid : Int) : Nat := Nat.pow 10 grid.toNat * Nat.pow 2 (2 - exponent).toNat

def gridQuarter (exponent grid : Int) : Nat :=
  Nat.pow 10 (-grid).toNat * Nat.pow 2 (exponent - 2).toNat

/-- Whether a point of that scale is among the reals that round to `significand · 2 ^ exponent`. They
reach half a unit up. The ends belong to them if the significand is even. -/
def isInside (significand : Nat) (exponent grid : Int) (point : Nat) : Bool :=
  let lowest := (4 * significand - quartersBelow significand exponent) * gridQuarter exponent grid
  let highest := (4 * significand + 2) * gridQuarter exponent grid
  if significand % 2 = 0 then lowest ≤ point && point ≤ highest
  else lowest < point && point < highest

/-- The point of the grid `10 ^ grid` nearest to `significand · 2 ^ exponent` among those that
round to it, as a multiple of `10 ^ grid`. -/
def onGrid? (tie : Tie) (significand : Nat) (exponent grid : Int) : Option Nat :=
  let step := gridStep exponent grid
  let value := 4 * significand * gridQuarter exponent grid
  let below := value / step
  let above := below + 1
  match isInside significand exponent grid (below * step),
      isInside significand exponent grid (above * step) with
  | false, false => none
  | true, false => some below
  | false, true => some above
  | true, true =>
    let middle := below * step + above * step
    if 2 * value < middle then some below
    else if middle < 2 * value then some above
    else match tie with
      | .even => some (if below % 2 = 0 then below else above)
      | .up => some above

structure Digits where
  digits : Nat
  exponent : Int
  deriving DecidableEq, Repr

/-- The first hit on the grids `10 ^ grid`, `10 ^ (grid - 1)`, … -/
def coarsest (tie : Tie) (significand : Nat) (exponent grid : Int) : Nat → Digits
  | 0 => ⟨0, 0⟩
  | steps + 1 =>
    match onGrid? tie significand exponent grid with
    | some digits => ⟨digits, grid⟩
    | none => coarsest tie significand exponent (grid - 1) steps

/-- The fewest digits that read back as `significand · 2 ^ exponent`. Every float is below
`10 ^ 309`, and each has a point of the grid `10 ^ -324` among the reals that round to it. -/
def shortest (tie : Tie) (significand : Nat) (exponent : Int) : Digits :=
  if significand = 0 then ⟨0, 0⟩ else coarsest tie significand exponent 309 634

end CqlSchema.Decimal
