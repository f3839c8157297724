/-!
# Binary floating-point numbers

A number in the IEEE 754 binary64 format is kept as its 64 bits.  Its sign, exponent and fraction
are read from the bits as natural numbers, so everything said about it is integer arithmetic.
Numbers in the binary32 format enter by widening, which is exact.
-/

namespace SqlTree

/-- A binary64 number: one sign bit, eleven exponent bits, fifty-two fraction bits. -/
structure Binary64 where
  bits : UInt64
  deriving DecidableEq, Repr

namespace Binary64

/-- The number with the given fields. -/
def ofFields (negative : Bool) (biasedExponent fraction : Nat) : Binary64 :=
  ⟨UInt64.ofNat
    ((if negative then Nat.pow 2 63 else 0) + biasedExponent * Nat.pow 2 52 + fraction)⟩

def isNegative (number : Binary64) : Bool :=
  Nat.pow 2 63 ≤ number.bits.toNat

def biasedExponent (number : Binary64) : Nat :=
  number.bits.toNat / Nat.pow 2 52 % Nat.pow 2 11

def fraction (number : Binary64) : Nat :=
  number.bits.toNat % Nat.pow 2 52

def isNaN (number : Binary64) : Bool :=
  number.biasedExponent == 2047 && number.fraction != 0

def isInfinite (number : Binary64) : Bool :=
  number.biasedExponent == 2047 && number.fraction == 0

def isZero (number : Binary64) : Bool :=
  number.biasedExponent == 0 && number.fraction == 0

/-- A finite number's magnitude is `mantissa * 2 ^ exponent`. -/
def mantissa (number : Binary64) : Nat :=
  if number.biasedExponent = 0 then number.fraction else number.fraction + Nat.pow 2 52

/-- A finite number's magnitude is `mantissa * 2 ^ exponent`. -/
def exponent (number : Binary64) : Int :=
  if number.biasedExponent = 0 then -1074 else (number.biasedExponent : Int) - 1075

/-- The number below is half as far away as the number above: the number is a power of two at the
lower end of its binade. -/
def isBinadeStart (number : Binary64) : Bool :=
  number.fraction == 0 && 1 < number.biasedExponent

/-- Equality of numbers: NaN equals nothing, and the two zeros are equal. -/
def equals (first second : Binary64) : Bool :=
  !first.isNaN && !second.isNaN && (first == second || (first.isZero && second.isZero))

end Binary64

/-- A binary32 number: one sign bit, eight exponent bits, twenty-three fraction bits. -/
structure Binary32 where
  bits : UInt32
  deriving DecidableEq, Repr

namespace Binary32

def isNegative (number : Binary32) : Bool :=
  Nat.pow 2 31 ≤ number.bits.toNat

def biasedExponent (number : Binary32) : Nat :=
  number.bits.toNat / Nat.pow 2 23 % Nat.pow 2 8

def fraction (number : Binary32) : Nat :=
  number.bits.toNat % Nat.pow 2 23

/-- The same number in the wider format.  A subnormal number becomes a normal one. -/
def widen (number : Binary32) : Binary64 :=
  if number.biasedExponent = 255 then
    Binary64.ofFields number.isNegative 2047 (number.fraction * Nat.pow 2 29)
  else if number.biasedExponent ≠ 0 then
    Binary64.ofFields number.isNegative (number.biasedExponent + 896)
      (number.fraction * Nat.pow 2 29)
  else if number.fraction = 0 then
    Binary64.ofFields number.isNegative 0 0
  else
    let leading := number.fraction.log2
    Binary64.ofFields number.isNegative (leading + 874)
      ((number.fraction - Nat.pow 2 leading) * Nat.pow 2 (52 - leading))

end Binary32

end SqlTree
