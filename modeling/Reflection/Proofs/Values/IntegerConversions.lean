import Mathlib.Data.Int.ModEq
import Reflection.Proofs.Values.Enumerations
import Reflection.Proofs.Values.Operations

/-!
# Conversions between integers

An integer type holds exactly one number of each residue modulo two to its width
(`IntegerKind.eq_wrap_iff`). A conversion gives the number of the target that is congruent to the
one converted, so what a chain of conversions gives depends only on the residues that survive it:
where no type on the way is narrower than the last, that one finds the residue it asks for unchanged
(`IntegerKind.wrap_wrap`).
-/
namespace Reflection

namespace IntegerKind

variable {kind via target : IntegerKind} {number other : Int}

/-- A wrapped number is congruent to the number modulo two to the width. -/
theorem wrap_modEq (kind : IntegerKind) (number : Int) :
    kind.wrap number ≡ number [ZMOD 2 ^ kind.bits] := by
  have residue := kind.wrap_emod number
  rwa [modulus, Nat.pow_eq, Nat.cast_pow] at residue

/-- Numbers that are congruent and lie in the range are the same. -/
theorem eq_of_modEq (congruent : number ≡ other [ZMOD 2 ^ kind.bits])
    (held : kind.holds number = true) (otherHeld : kind.holds other = true) : number = other := by
  rw [holds_iff] at held otherHeld
  rw [Int.ModEq] at congruent
  cases kind <;>
    simp only [least, greatest, signed, bits, if_true, Bool.false_eq_true, if_false, Nat.pow_eq,
      Nat.reducePow, Nat.reduceSub, Int.reducePow] at held otherHeld congruent <;> omega

/-- A wrapped number is the number in the range that is congruent to the one wrapped. -/
theorem eq_wrap_iff :
    other = kind.wrap number ↔
      kind.holds other = true ∧ other ≡ number [ZMOD 2 ^ kind.bits] := by
  constructor
  · rintro rfl
    exact ⟨kind.holds_wrap number, kind.wrap_modEq number⟩
  · rintro ⟨held, congruent⟩
    exact eq_of_modEq (congruent.trans (kind.wrap_modEq number).symm) held (kind.holds_wrap number)

/-- Wrapping in a type that is not narrower first makes no difference. -/
theorem wrap_wrap (wide : target.bits ≤ via.bits) (number : Int) :
    target.wrap (via.wrap number) = target.wrap number :=
  eq_wrap_iff.2 ⟨target.holds_wrap _,
    (target.wrap_modEq _).trans ((via.wrap_modEq number).of_dvd (pow_dvd_pow 2 wide))⟩

end IntegerKind

open Standard (Description universeOf)

/-- Integer types are described with a conversion to every integer type. -/
theorem Standard.conversion?_integer (describe : String → Description)
    (source target : IntegerKind) :
    (members describe (.integer source)).conversion? (.integer target) =
      some ⟨.integer target, convertNumber (.integer target)⟩ := by
  cases target <;> rfl

namespace Any

variable {describe : String → Description} {types : Types} {source target : IntegerKind}
  {number : Int} {access : Access} {chain : List IntegerKind}

/-- What an any is converted to by integer types one after another. -/
def convThrough (types : Types) (kinds : List IntegerKind) (any : Any) : Any :=
  kinds.foldl (fun any kind => (any.conv types (some (.integer kind))).value) any

section Described

variable (builtIn : types.fixed = universeOf describe)
  (plain : ∀ kind, types.members (.integer kind) = Standard.members describe (.integer kind))

include builtIn plain

/-- An integer is converted to the integer of the target it wraps to. -/
theorem value_conv_integer (held : source.holds number = true) :
    ((Any.held access ⟨.integer source, .integer number⟩).conv types
        (some (.integer target))).value = new ⟨.integer target, .integer (target.wrap number)⟩ := by
  rw [value_conv_held]
  by_cases same : source = target
  · -- The type is that of the value, which is copied.
    subst same
    rw [if_pos rfl, IntegerKind.wrap_of_holds held]
    simp [cloneOrEmpty, tryClone, Types.capabilities_integer builtIn, Standard.scalar]
  · have different : Ty.integer source ≠ .integer target := fun equal => same (Ty.integer.inj equal)
    rw [if_neg different, plain, Standard.conversion?_integer]
    rfl

/-- A chain of conversions over types that are not narrower than the last gives what the last gives
alone. -/
theorem convThrough_integer (held : source.holds number = true)
    (wide : ∀ via ∈ chain, target.bits ≤ via.bits) :
    (Any.held access ⟨.integer source, .integer number⟩).convThrough types (chain ++ [target]) =
      new ⟨.integer target, .integer (target.wrap number)⟩ := by
  induction chain generalizing source number access with
  | nil => exact value_conv_integer builtIn plain held
  | cons via rest ih =>
    obtain ⟨first, others⟩ := List.forall_mem_cons.1 wide
    have step : ((Any.held access ⟨.integer source, .integer number⟩).conv types
        (some (.integer via))).value = .held .owned ⟨.integer via, .integer (via.wrap number)⟩ :=
      value_conv_integer builtIn plain held
    rw [List.cons_append, convThrough, List.foldl_cons, step, ← convThrough,
      ih (via.holds_wrap number) others, IntegerKind.wrap_wrap first]

/-- Conversions between integers are exact modular arithmetic. For every two built-in integer types
as they are described, whatever is registered on other types, and every number of the first: it is
converted to the one number in the range of the second that is congruent to it modulo two to the
second's width, which is the number itself where that lies in the range. A chain of conversions over
integer types that are not narrower than the second gives the same. Where the second is not narrower
than the first, the way back leads to the number again. -/
theorem integer_conversions_exact (source target : IntegerKind) {number : Int}
    (held : source.holds number = true) (access : Access) :
    let start := Any.held access ⟨.integer source, .integer number⟩
    ∃ result : Int,
      (start.conv types (some (.integer target))).value =
        new ⟨.integer target, .integer result⟩ ∧
      (∀ other, target.holds other = true ∧ other ≡ number [ZMOD 2 ^ target.bits] ↔
        other = result) ∧
      (target.holds number = true → result = number) ∧
      (∀ chain : List IntegerKind, (∀ via ∈ chain, target.bits ≤ via.bits) →
        start.convThrough types (chain ++ [target]) =
          new ⟨.integer target, .integer result⟩) ∧
      (source.bits ≤ target.bits →
        ((new ⟨.integer target, .integer result⟩).conv types (some (.integer source))).value =
          new ⟨.integer source, .integer number⟩) := by
  intro start
  refine ⟨target.wrap number, value_conv_integer builtIn plain held,
    fun other => IntegerKind.eq_wrap_iff.symm, IntegerKind.wrap_of_holds,
    fun chain wide => convThrough_integer builtIn plain held wide, fun wide => ?_⟩
  have back : ((new ⟨.integer target, .integer (target.wrap number)⟩).conv types
      (some (.integer source))).value =
        new ⟨.integer source, .integer (source.wrap (target.wrap number))⟩ :=
    value_conv_integer builtIn plain (target.holds_wrap number)
  rwa [IntegerKind.wrap_wrap wide, IntegerKind.wrap_of_holds held] at back

end Described

/-- A negative byte becomes the greatest unsigned number of 128 bits, over a chain as at once, and
comes back as itself. -/
theorem negative_byte_converted :
    let types : Types := .described (universeOf fun key =>
      { record := { name := key, layout := ⟨0, 1⟩ }, content := .token })
    let byte : Any := .held .shared ⟨.i8, .integer (-1)⟩
    let greatest : Any := .new ⟨.integer .u128, .integer (2 ^ 128 - 1)⟩
    IntegerKind.i8.holds (-1) = true ∧
      (byte.conv types (some (.integer .u128))).value = greatest ∧
      byte.convThrough types [.i128, .u128, .i128, .u128] = greatest ∧
      (greatest.conv types (some .i8)).value = .new ⟨.i8, .integer (-1)⟩ := by
  intro types byte greatest
  have held : IntegerKind.i8.holds (-1) = true := by decide
  have builtIn : types.fixed = universeOf fun key =>
      { record := { name := key, layout := ⟨0, 1⟩ }, content := .token } := rfl
  obtain ⟨result, made, unique, _, chained, back⟩ :=
    integer_conversions_exact builtIn (fun _ => rfl) .i8 .u128 held .shared
  obtain rfl : 2 ^ 128 - 1 = result := (unique _).1 ⟨by decide, by decide⟩
  exact ⟨held, made, chained [.i128, .u128, .i128] (by decide), back (by decide)⟩

end Any

end Reflection
