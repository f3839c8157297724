import SqlTree.Decimal.Binary64

/-!
# Shortest decimal text

The decimal text of a binary number is the shortest one that reads back as the same number.  The
reals that round to the number form an interval; among the decimal grids, whose points are the
multiples of a power of ten, the coarsest one with a point in the interval is taken, and on it the
point nearest to the number, a tie going up.  The text is always positional: it has no exponent,
and no decimal point where the number is an integer.
-/

namespace SqlTree.Decimal

/-- A number, the interval of reals that round to it and the spacing of a decimal grid, all in one
common unit.  The ends of the interval belong to it when `closed` is set. -/
structure Neighbourhood where
  low : Nat
  value : Nat
  high : Nat
  spacing : Nat
  closed : Bool

namespace Neighbourhood

/-- The neighbourhood of `mantissa * 2 ^ exponent` on the grid of multiples of `10 ^ grid`.  The
interval ends half way to the next number on either side; at the start of a binade the number
below is half as far away. -/
def ofBinary (mantissa : Nat) (exponent : Int) (binadeStart : Bool) (grid : Int) :
    Neighbourhood :=
  let factor := Nat.pow 2 (exponent - 2).toNat * Nat.pow 10 (-grid).toNat
  { low := (4 * mantissa - if binadeStart then 1 else 2) * factor
    value := 4 * mantissa * factor
    high := (4 * mantissa + 2) * factor
    spacing := Nat.pow 10 grid.toNat * Nat.pow 2 (2 - exponent).toNat
    closed := mantissa % 2 == 0 }

def holds (around : Neighbourhood) (index : Nat) : Bool :=
  let point := index * around.spacing
  if around.closed then around.low ≤ point && point ≤ around.high
  else around.low < point && point < around.high

/-- The index of the grid point in the interval that is nearest to the number. -/
def nearest? (around : Neighbourhood) : Option Nat :=
  let below := around.value / around.spacing
  let nearerBelow := 2 * (around.value % around.spacing) < around.spacing
  match around.holds below, around.holds (below + 1) with
  | true, true => some (if nearerBelow then below else below + 1)
  | true, false => some below
  | false, true => some (below + 1)
  | false, false => none

end Neighbourhood

/-- A power of ten whose grid has no positive point as small as `mantissa * 2 ^ exponent`. -/
def coarsestGrid (mantissa : Nat) (exponent : Int) : Int :=
  ((mantissa.log2 : Int) + 1 + exponent) * 30103 / 100000 + 2

/-- The digits and the power of ten of the shortest decimal that reads back as
`mantissa * 2 ^ exponent`.  Seventeen digits always suffice, so that the search ends well within the
listed grids. -/
def shortest (mantissa : Nat) (exponent : Int) (binadeStart : Bool) : Nat × Int :=
  let grids := (List.range 24).map fun (step : Nat) =>
    coarsestGrid mantissa exponent - (step : Int)
  let found := grids.findSome? fun grid =>
    (Neighbourhood.ofBinary mantissa exponent binadeStart grid).nearest?.map fun digits =>
      (digits, grid)
  found.getD (0, 0)

def digitsOf (number : Nat) : List Char :=
  Nat.toDigits 10 number

def padded (width : Nat) (digits : List Char) : List Char :=
  List.replicate (width - digits.length) '0' ++ digits

def positional (digits : Nat) (exponent : Int) : List Char :=
  if 0 ≤ exponent then digitsOf digits ++ List.replicate exponent.toNat '0'
  else
    let places := (-exponent).toNat
    let shown := padded (places + 1) (digitsOf digits)
    shown.take (shown.length - places) ++ '.' :: shown.drop (shown.length - places)

def textOf (number : Binary64) : String :=
  let sign := if number.isNegative then "-" else ""
  if number.isNaN then "NaN"
  else if number.isInfinite then sign ++ "inf"
  else if number.isZero then sign ++ "0"
  else
    let (digits, exponent) := shortest number.mantissa number.exponent number.isBinadeStart
    sign ++ String.ofList (positional digits exponent)

end SqlTree.Decimal
