/-!
# Binary numbers

A number of a binary format is a signed integer times a power of two, an infinity, or not a
number. Numbers are kept in the canonical form of their format: the mantissa has full precision
unless the exponent is the least one. Signs of zero are kept, and there is one "not a number".
-/
namespace Reflection

/-- A binary floating point format: a finite number is `mantissa * 2 ^ exponent`. -/
structure Format where
  /-- Mantissas are below two to this power. -/
  precision : Nat
  /-- The least exponent, that of zero and of the smallest numbers. -/
  least : Int
  /-- The greatest exponent of a finite number. -/
  greatest : Int
  deriving DecidableEq, Repr

/-- Numbers of 32 bits. -/
def Format.single : Format := ⟨24, -149, 104⟩

/-- Numbers of 64 bits. -/
def Format.double : Format := ⟨53, -1074, 971⟩

/-- A number of a binary format. -/
inductive Number where
  | nan
  | infinite (negative : Bool)
  | finite (negative : Bool) (mantissa : Nat) (exponent : Int)
  deriving DecidableEq, Repr, Inhabited

namespace Number

/-- Zero with a sign. -/
def zero (format : Format) (negative : Bool) : Number := .finite negative 0 format.least

/-- Whether the number is neither infinite nor undefined. -/
def isFinite : Number → Bool
  | .finite .. => true
  | _ => false

/-- The same number with the other sign. -/
def negate : Number → Number
  | .nan => .nan
  | .infinite negative => .infinite !negative
  | .finite negative mantissa exponent => .finite (!negative) mantissa exponent

/-- A signed magnitude as an integer. -/
def signed (negative : Bool) (magnitude : Nat) : Int :=
  if negative then -(magnitude : Int) else magnitude

/-- The two finite numbers in units of the smaller of their two powers of two. -/
def align (leftMantissa : Nat) (leftExponent : Int) (rightMantissa : Nat)
    (rightExponent : Int) : Nat × Nat × Int :=
  let unit := min leftExponent rightExponent
  (leftMantissa * Nat.pow 2 (leftExponent - unit).toNat,
    rightMantissa * Nat.pow 2 (rightExponent - unit).toNat, unit)

/-- Compare two numbers by value. Zeros of both signs are equal; a number that is undefined
compares with nothing. -/
def compare : Number → Number → Option Ordering
  | .nan, _ | _, .nan => none
  | .infinite left, .infinite right =>
    some (if left = right then .eq else if left then .lt else .gt)
  | .infinite left, .finite .. => some (if left then .lt else .gt)
  | .finite .., .infinite right => some (if right then .gt else .lt)
  | .finite leftSign leftMantissa leftExponent, .finite rightSign rightMantissa rightExponent =>
    let (left, right, _) := align leftMantissa leftExponent rightMantissa rightExponent
    some (Ord.compare (signed leftSign left) (signed rightSign right))

/-- Whether a number is one of a format: a finite one has a mantissa and an exponent within the
bounds. -/
def Fits (format : Format) : Number → Prop
  | .finite _ mantissa exponent =>
    mantissa < Nat.pow 2 format.precision ∧ format.least ≤ exponent ∧ exponent ≤ format.greatest
  | .nan | .infinite _ => True

/-- Whether two numbers have the same value. -/
def same (left right : Number) : Bool := left.compare right == some .eq

end Number

end Reflection
