import Reflection.Integer
import Reflection.Number.Basic

/-!
# Rounding to a binary format

Every operation here computes exactly on integers and rounds once, to the nearest number of the
format and to the even mantissa on a tie. A magnitude too large for the format becomes infinite.
-/
namespace Reflection

/-- The quotient of two natural numbers rounded to the nearest integer, ties to even. -/
def nearestQuotient (numerator denominator : Nat) : Nat :=
  let quotient := numerator / denominator
  let twice := 2 * (numerator % denominator)
  if twice > denominator ∨ (twice = denominator ∧ quotient % 2 = 1) then quotient + 1
  else quotient

/-- The quotient of two natural numbers and a power of two, as one quotient. -/
def scaled (numerator denominator : Nat) (exponent : Int) : Nat × Nat :=
  if exponent < 0 then (numerator * Nat.pow 2 (-exponent).toNat, denominator)
  else (numerator, denominator * Nat.pow 2 exponent.toNat)

namespace Number

/-- The number nearest to a signed quotient of natural numbers; a zero divisor gives an
infinity. -/
def ofQuotient (format : Format) (negative : Bool) (numerator denominator : Nat) : Number :=
  if numerator = 0 then zero format negative
  else if denominator = 0 then .infinite negative
  else
    let guess : Int := (numerator.log2 : Int) - denominator.log2
    let (left, right) := scaled numerator denominator guess
    let leading := if left < right then guess - 1 else guess
    let exponent := max format.least (leading - (format.precision - 1 : Nat))
    let (left, right) := scaled numerator denominator exponent
    let mantissa := nearestQuotient left right
    let (mantissa, exponent) :=
      if mantissa = Nat.pow 2 format.precision then
        (Nat.pow 2 (format.precision - 1), exponent + 1)
      else (mantissa, exponent)
    if exponent > format.greatest then .infinite negative
    else if mantissa = 0 then zero format negative
    else .finite negative mantissa exponent

/-- The number nearest to an integer. -/
def ofInt (format : Format) (value : Int) : Number :=
  ofQuotient format (value < 0) value.natAbs 1

/-- The number nearest to an integer times a power of two; a zero takes the sign given. -/
def ofScaled (format : Format) (zeroSign : Bool) (value : Int) (exponent : Int) : Number :=
  if value = 0 then zero format zeroSign
  else
    let (numerator, denominator) := scaled value.natAbs 1 (-exponent)
    ofQuotient format (value < 0) numerator denominator

/-- The nearest number of another format. -/
def convert (format : Format) : Number → Number
  | .nan => .nan
  | .infinite negative => .infinite negative
  | .finite negative mantissa exponent =>
    let (numerator, denominator) := scaled mantissa 1 (-exponent)
    ofQuotient format negative numerator denominator

/-- The sum, rounded. -/
def add (format : Format) : Number → Number → Number
  | .nan, _ | _, .nan => .nan
  | .infinite left, .infinite right => if left = right then .infinite left else .nan
  | .infinite left, .finite .. => .infinite left
  | .finite .., .infinite right => .infinite right
  | .finite leftSign leftMantissa leftExponent, .finite rightSign rightMantissa rightExponent =>
    let (left, right, unit) := align leftMantissa leftExponent rightMantissa rightExponent
    ofScaled format (leftSign && rightSign) (signed leftSign left + signed rightSign right) unit

/-- The difference, rounded. -/
def sub (format : Format) (left right : Number) : Number := add format left right.negate

/-- The product, rounded. -/
def mul (format : Format) : Number → Number → Number
  | .nan, _ | _, .nan => .nan
  | .infinite left, .infinite right => .infinite (left != right)
  | .infinite left, .finite right mantissa _ =>
    if mantissa = 0 then .nan else .infinite (left != right)
  | .finite left mantissa _, .infinite right =>
    if mantissa = 0 then .nan else .infinite (left != right)
  | .finite left leftMantissa leftExponent, .finite right rightMantissa rightExponent =>
    let (numerator, denominator) :=
      scaled (leftMantissa * rightMantissa) 1 (-(leftExponent + rightExponent))
    ofQuotient format (left != right) numerator denominator

/-- The quotient, rounded. -/
def div (format : Format) : Number → Number → Number
  | .nan, _ | _, .nan => .nan
  | .infinite _, .infinite _ => .nan
  | .infinite left, .finite right _ _ => .infinite (left != right)
  | .finite left _ _, .infinite right => zero format (left != right)
  | .finite left leftMantissa leftExponent, .finite right rightMantissa rightExponent =>
    if leftMantissa = 0 ∧ rightMantissa = 0 then .nan
    else
      let (numerator, denominator) :=
        scaled leftMantissa rightMantissa (rightExponent - leftExponent)
      ofQuotient format (left != right) numerator denominator

/-- The integer part, nearest to zero; none where the number is not finite. -/
def truncate? : Number → Option Int
  | .finite negative mantissa exponent =>
    let (numerator, denominator) := scaled mantissa 1 (-exponent)
    some (signed negative (numerator / denominator))
  | _ => none

/-- The integer of a kind nearest to the integer part; undefined gives zero. -/
def toInteger (kind : IntegerKind) : Number → Int
  | .nan => 0
  | .infinite negative => if negative then kind.least else kind.greatest
  | number => kind.saturate (number.truncate?.getD 0)

end Number

end Reflection
