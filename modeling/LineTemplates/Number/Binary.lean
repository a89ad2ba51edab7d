import LineTemplates.Number.Decimal

/-! Binary floating-point numbers as multiples of one unit, the least positive number of binary64. A rational
number is rounded to the nearest multiple of the scale that its size allows, and a half goes to the even one. -/

namespace LineTemplates

/-- A binary format: its width in bits, the digits of its significand, the power of two that its least number is
in units, and the power of two in units from which on a number counts as infinite. -/
structure BinaryFormat where
  width : Nat
  precision : Nat
  grain : Nat
  limit : Nat
deriving DecidableEq, Repr

def binary64 : BinaryFormat := ⟨64, 53, 0, 2098⟩

def binary32 : BinaryFormat := ⟨32, 24, 925, 1202⟩

structure Binary where
  negative : Bool
  units : Nat
deriving DecidableEq, Repr

def twoTo (exponent : Nat) : Nat := Nat.pow 2 exponent

def unitsInOne : Nat := twoTo 1074

def roundHalfEven (numerator denominator : Nat) : Nat :=
  let quotient := numerator / denominator
  let twice := 2 * (numerator % denominator)
  if twice < denominator ∨ (twice = denominator ∧ quotient % 2 = 0) then quotient else quotient + 1

namespace BinaryFormat

def scale (format : BinaryFormat) (units : Nat) : Nat :=
  max format.grain (Nat.log2 units + 1 - format.precision)

def nearest (format : BinaryFormat) (numerator denominator : Nat) : Nat :=
  let step := twoTo (format.scale (numerator / denominator))
  min (roundHalfEven numerator (denominator * step) * step) (twoTo format.limit)

def round (format : BinaryFormat) (value : Binary) : Binary :=
  ⟨value.negative, format.nearest value.units 1⟩

def isInfinite (format : BinaryFormat) (value : Binary) : Bool := twoTo format.limit ≤ value.units

/-- The bits of a number of the format: sign, exponent and significand. Infinity is coded like the first number
past the greatest one. -/
def bits (format : BinaryFormat) (value : Binary) : Nat :=
  let sign := if value.negative then twoTo (format.width - 1) else 0
  let exponent := format.scale value.units - format.grain
  sign + exponent * twoTo (format.precision - 1) + value.units / twoTo (format.scale value.units)

end BinaryFormat

namespace Binary

def ofDecimal (decimal : Decimal) : Binary :=
  ⟨decimal.negative, binary64.nearest (decimal.digits * unitsInOne) (Nat.pow 10 decimal.places)⟩

def ofInt (value : Int) : Binary := ⟨value < 0, binary64.nearest (value.natAbs * unitsInOne) 1⟩

def signedUnits (value : Binary) : Int := if value.negative then -value.units else value.units

def truncate (value : Binary) : Int :=
  let whole : Nat := value.units / unitsInOne
  if value.negative then -whole else whole

def succ (value : Binary) : Binary := ⟨value.negative, binary64.nearest (value.units + unitsInOne) 1⟩

end Binary

end LineTemplates
