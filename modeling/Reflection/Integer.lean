/-!
# Integer kinds

The twelve built-in integer types differ in width and in whether they hold negative numbers.
A conversion between them keeps the number modulo two to the width of the target
(`IntegerKind.wrap`): the result always lies in the target's range, is congruent to the number
converted, and is the number itself where that fits.
-/
namespace Reflection

/-- The built-in integer types. The two address-sized kinds are 64 bits wide. -/
inductive IntegerKind where
  | i8
  | i16
  | i32
  | i64
  | i128
  | isize
  | u8
  | u16
  | u32
  | u64
  | u128
  | usize
  deriving DecidableEq, Repr

namespace IntegerKind

/-- All kinds, signed ones first, narrow ones first. -/
def all : List IntegerKind :=
  [.i8, .i16, .i32, .i64, .i128, .isize, .u8, .u16, .u32, .u64, .u128, .usize]

/-- The width in bits. -/
def bits : IntegerKind → Nat
  | .i8 | .u8 => 8
  | .i16 | .u16 => 16
  | .i32 | .u32 => 32
  | .i64 | .u64 | .isize | .usize => 64
  | .i128 | .u128 => 128

/-- Whether negative numbers are held. -/
def signed : IntegerKind → Bool
  | .i8 | .i16 | .i32 | .i64 | .i128 | .isize => true
  | _ => false

/-- The name of the type. -/
def name : IntegerKind → String
  | .i8 => "i8"
  | .i16 => "i16"
  | .i32 => "i32"
  | .i64 => "i64"
  | .i128 => "i128"
  | .isize => "isize"
  | .u8 => "u8"
  | .u16 => "u16"
  | .u32 => "u32"
  | .u64 => "u64"
  | .u128 => "u128"
  | .usize => "usize"

/-- The number of values of the kind. -/
def modulus (kind : IntegerKind) : Nat := Nat.pow 2 kind.bits

/-- The least number held. -/
def least (kind : IntegerKind) : Int :=
  if kind.signed then -(Nat.pow 2 (kind.bits - 1) : Int) else 0

/-- The greatest number held. -/
def greatest (kind : IntegerKind) : Int :=
  if kind.signed then (Nat.pow 2 (kind.bits - 1) : Int) - 1 else (Nat.pow 2 kind.bits : Int) - 1

/-- Whether a number lies in the range of the kind. -/
def holds (kind : IntegerKind) (number : Int) : Bool :=
  decide (kind.least ≤ number) && decide (number ≤ kind.greatest)

/-- The number of the kind that is congruent to a given one modulo two to the width. -/
def wrap (kind : IntegerKind) (number : Int) : Int :=
  if kind.signed then number.bmod kind.modulus else number % kind.modulus

/-- The number of the kind nearest to a given one. -/
def saturate (kind : IntegerKind) (number : Int) : Int :=
  max kind.least (min kind.greatest number)

/-- A number is held exactly when it lies between the bounds. -/
theorem holds_iff {kind : IntegerKind} {number : Int} :
    kind.holds number = true ↔ kind.least ≤ number ∧ number ≤ kind.greatest := by
  simp [holds]

/-- A wrapped number lies in the range. -/
theorem holds_wrap (kind : IntegerKind) (number : Int) : kind.holds (kind.wrap number) = true := by
  rw [holds_iff]
  cases kind <;> simp [least, greatest, wrap, signed, modulus, bits, Int.bmod_def] <;> omega

/-- Wrapping keeps the residue. -/
theorem wrap_emod (kind : IntegerKind) (number : Int) :
    kind.wrap number % kind.modulus = number % kind.modulus := by
  unfold wrap
  split
  · simp [Int.bmod_emod]
  · simp

/-- A number that fits is not changed. -/
theorem wrap_of_holds {kind : IntegerKind} {number : Int} (fits : kind.holds number = true) :
    kind.wrap number = number := by
  rw [holds_iff] at fits
  cases kind <;>
    simp [least, greatest, wrap, signed, modulus, bits, Int.bmod_def] at fits ⊢ <;> omega

end IntegerKind

end Reflection
