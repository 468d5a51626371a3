import Mathlib.Algebra.Order.Field.Power
import Mathlib.Order.WithBot
import Mathlib.Order.Compare
import Mathlib.Tactic.Positivity
import Mathlib.Tactic.Ring
import Reflection.Proofs.Values.Orders

/-!
# How scalars compare

Numbers compare by their values: every number but one that is undefined has a rank among the
rationals with two infinities (`Number.rank`), zeros of both signs the same, and comparing numbers
is comparing ranks (`Number.compare_eq`). Scalars of every form compare in a linear order, numbers
as far as they are defined, so the comparison of scalars is an order on all values; where no numbers
are involved every value is equal to itself.
-/
namespace Reflection

namespace Number

/-- The value of a finite number. -/
def rational (negative : Bool) (mantissa : Nat) (exponent : Int) : ℚ :=
  (signed negative mantissa : ℚ) * 2 ^ exponent

/-- The value of a number among the rationals with two infinities; none if it is undefined. -/
def rank : Number → Option (WithBot (WithTop ℚ))
  | .nan => none
  | .infinite true => some ⊥
  | .infinite false => some ⊤
  | .finite negative mantissa exponent => some ((rational negative mantissa exponent : WithTop ℚ))

/-- A number in units of a smaller power of two has the same value. -/
theorem signed_mul_pow (negative : Bool) (mantissa : Nat) {exponent unit : Int}
    (smaller : unit ≤ exponent) :
    (signed negative (mantissa * Nat.pow 2 (exponent - unit).toNat) : ℚ) * 2 ^ unit =
      rational negative mantissa exponent := by
  obtain ⟨steps, rfl⟩ := Int.le.dest smaller
  have power : ((2 : ℚ) ^ steps) * 2 ^ unit = 2 ^ (unit + steps) := by
    rw [← zpow_natCast, ← zpow_add₀ (by norm_num), add_comm]
  cases negative with
  | true =>
    simp only [signed, rational, if_true, add_sub_cancel_left, Int.toNat_natCast, ← power]
    push_cast [Nat.pow_eq]
    ring
  | false =>
    simp only [signed, rational, Bool.false_eq_true, if_false, add_sub_cancel_left,
      Int.toNat_natCast, ← power]
    push_cast [Nat.pow_eq]
    ring

/-- A map that keeps a strict order keeps comparisons. -/
theorem compare_of_strictMono {α β : Type} [LinearOrder α] [LinearOrder β] {change : α → β}
    (strict : StrictMono change) (left right : α) :
    Ord.compare (change left) (change right) = Ord.compare left right := by
  rw [← cmp_eq_compare, ← cmp_eq_compare, strict.cmp_map_eq]

/-- Finite numbers compare by their values. -/
theorem compare_finite (leftSign rightSign : Bool) (leftMantissa rightMantissa : Nat)
    (leftExponent rightExponent : Int) :
    (Number.finite leftSign leftMantissa leftExponent).compare
        (.finite rightSign rightMantissa rightExponent) =
      some (Ord.compare (rational leftSign leftMantissa leftExponent)
        (rational rightSign rightMantissa rightExponent)) := by
  have positive : (0 : ℚ) < 2 ^ min leftExponent rightExponent := by positivity
  have left := signed_mul_pow leftSign leftMantissa (min_le_left leftExponent rightExponent)
  have right := signed_mul_pow rightSign rightMantissa (min_le_right leftExponent rightExponent)
  simp only [Number.compare, align]
  rw [← left, ← right]
  have scaling : StrictMono fun units : ℤ => (units : ℚ) * 2 ^ min leftExponent rightExponent := by
    intro first second less
    have cast : (first : ℚ) < second := by exact_mod_cast less
    exact mul_lt_mul_of_pos_right cast positive
  exact congrArg some (compare_of_strictMono scaling _ _).symm

/-- Numbers compare by their ranks. -/
theorem compare_eq (left right : Number) :
    left.compare right =
      left.rank.bind fun first => right.rank.map fun second => Ord.compare first second := by
  have ranks : StrictMono fun value : ℚ => ((value : WithTop ℚ) : WithBot (WithTop ℚ)) :=
    WithBot.coe_strictMono.comp WithTop.coe_strictMono
  have above : ∀ value : ℚ, ((value : WithTop ℚ) : WithBot (WithTop ℚ)) < ⊤ := fun value =>
    WithBot.coe_lt_coe.2 (WithTop.coe_lt_top value)
  have below : ∀ value : ℚ, ⊥ < ((value : WithTop ℚ) : WithBot (WithTop ℚ)) := fun value =>
    WithBot.bot_lt_coe _
  cases left with
  | nan => rfl
  | infinite leftSign =>
    cases right with
    | nan => cases leftSign <;> rfl
    | infinite rightSign =>
      cases leftSign <;> cases rightSign
      · exact congrArg some (compare_eq_iff_eq.2 rfl).symm
      · exact congrArg some (compare_gt_iff_gt.2 bot_lt_top).symm
      · exact congrArg some (compare_lt_iff_lt.2 bot_lt_top).symm
      · exact congrArg some (compare_eq_iff_eq.2 rfl).symm
    | finite rightSign mantissa exponent =>
      cases leftSign
      · exact congrArg some (compare_gt_iff_gt.2 (above _)).symm
      · exact congrArg some (compare_lt_iff_lt.2 (below _)).symm
  | finite leftSign leftMantissa leftExponent =>
    cases right with
    | nan => rfl
    | infinite rightSign =>
      cases rightSign
      · exact congrArg some (compare_lt_iff_lt.2 (above _)).symm
      · exact congrArg some (compare_gt_iff_gt.2 (below _)).symm
    | finite rightSign rightMantissa rightExponent =>
      rw [compare_finite]
      exact congrArg some (compare_of_strictMono ranks _ _).symm

/-- Comparing numbers the other way round gives the opposite. -/
theorem dual_compare (left right : Number) :
    right.compare left = (left.compare right).map Ordering.swap := by
  rw [compare_eq, compare_eq]
  cases left.rank with
  | none => cases right.rank <;> rfl
  | some first =>
    cases right.rank with
    | none => rfl
    | some second => exact congrArg some Std.OrientedCmp.eq_swap

/-- A number is at most another if both are defined and ordered by rank. -/
theorem atMost_compare_iff {left right : Number} :
    Standard.AtMost (left.compare right) ↔
      ∃ first second, left.rank = some first ∧ right.rank = some second ∧ first ≤ second := by
  rw [compare_eq, Standard.AtMost]
  cases left.rank with
  | none => simp
  | some first =>
    cases right.rank with
    | none => simp
    | some second => simp [compare_lt_iff_lt, le_iff_lt_or_eq]

end Number

namespace Standard

/-- A decided comparison finds a value at most another unless it is greater. -/
theorem atMost_some_iff {order : Ordering} : AtMost (some order) ↔ order.isLE = true := by
  cases order <;> simp [AtMost]

/-- How scalars compare: those of one form by what they are, and no others. -/
inductive Compares : Value → Value → Option Ordering → Prop where
  | bool (left right : Bool) : Compares (.bool left) (.bool right) (some (compare left right))
  | char (left right : Char) : Compares (.char left) (.char right) (some (compare left right))
  | integer (left right : Int) :
    Compares (.integer left) (.integer right) (some (compare left right))
  | number (left right : Number) : Compares (.number left) (.number right) (left.compare right)
  | text (left right : String) : Compares (.text left) (.text right) (some (compare left right))
  | unit : Compares (.compound []) (.compound []) (some .eq)
  | apart (left right : Value) : Compares left right none

/-- What the comparison of scalars answers. -/
theorem compares_scalarCmp (left right : Value) : Compares left right (scalarCmp left right) := by
  cases left with
  | bool left =>
    cases right with
    | bool right => exact .bool left right
    | _ => exact .apart _ _
  | char left =>
    cases right with
    | char right => exact .char left right
    | _ => exact .apart _ _
  | integer left =>
    cases right with
    | integer right => exact .integer left right
    | _ => exact .apart _ _
  | number left =>
    cases right with
    | number right => exact .number left right
    | _ => exact .apart _ _
  | text left =>
    cases right with
    | text right => exact .text left right
    | _ => exact .apart _ _
  | compound left =>
    cases right with
    | compound right =>
      cases left with
      | nil =>
        cases right with
        | nil => exact .unit
        | cons => exact .apart _ _
      | cons => exact .apart _ _
    | _ => cases left <;> exact .apart _ _
  | token => exact .apart _ _

/-- Scalars of one form of which one is at most the other. -/
inductive ScalarsAtMost : Value → Value → Prop where
  | bool {left right : Bool} (ordered : (compare left right).isLE = true) :
    ScalarsAtMost (.bool left) (.bool right)
  | char {left right : Char} (ordered : (compare left right).isLE = true) :
    ScalarsAtMost (.char left) (.char right)
  | integer {left right : Int} (ordered : (compare left right).isLE = true) :
    ScalarsAtMost (.integer left) (.integer right)
  | number {left right : Number} (ordered : AtMost (left.compare right)) :
    ScalarsAtMost (.number left) (.number right)
  | text {left right : String} (ordered : (compare left right).isLE = true) :
    ScalarsAtMost (.text left) (.text right)
  | unit : ScalarsAtMost (.compound []) (.compound [])

/-- Only scalars of one form compare. -/
theorem scalarsAtMost_of_atMost {left right : Value} (atMost : AtMost (scalarCmp left right)) :
    ScalarsAtMost left right := by
  have compares := compares_scalarCmp left right
  generalize scalarCmp left right = order at compares atMost
  cases compares with
  | bool => exact .bool (atMost_some_iff.1 atMost)
  | char => exact .char (atMost_some_iff.1 atMost)
  | integer => exact .integer (atMost_some_iff.1 atMost)
  | number => exact .number atMost
  | text => exact .text (atMost_some_iff.1 atMost)
  | unit => exact .unit
  | apart => rcases atMost with wrong | wrong <;> contradiction

/-- Scalars that compare one way compare the opposite way when they are exchanged. -/
theorem scalarCmp_swap {left right : Value} {order : Ordering}
    (decided : scalarCmp left right = some order) : scalarCmp right left = some order.swap := by
  have compares := compares_scalarCmp left right
  generalize scalarCmp left right = found at compares decided
  cases compares with
  | bool | char | integer | text =>
    cases decided
    exact congrArg some Std.OrientedCmp.eq_swap
  | number left right =>
    change right.compare left = some order.swap
    rw [Number.dual_compare, decided]
    rfl
  | unit =>
    cases decided
    rfl
  | apart => contradiction

/-- Scalars are in an order, numbers as far as they are defined. -/
theorem lawfulOrder_scalarCmp (isValue : Value → Prop) : LawfulOrder isValue scalarCmp where
  dual {left right} _ _ := by
    cases decided : scalarCmp left right with
    | some order => rw [scalarCmp_swap decided, Option.map_some]
    | none =>
      cases reversed : scalarCmp right left with
      | none => rfl
      | some order =>
        rw [scalarCmp_swap reversed] at decided
        contradiction
  trans _ _ _ left right := by
    cases scalarsAtMost_of_atMost left with
    | bool ordered =>
      cases scalarsAtMost_of_atMost right with
      | bool next => exact atMost_some_iff.2 (Std.TransCmp.isLE_trans ordered next)
    | char ordered =>
      cases scalarsAtMost_of_atMost right with
      | char next => exact atMost_some_iff.2 (Std.TransCmp.isLE_trans ordered next)
    | integer ordered =>
      cases scalarsAtMost_of_atMost right with
      | integer next => exact atMost_some_iff.2 (Std.TransCmp.isLE_trans ordered next)
    | number ordered =>
      cases scalarsAtMost_of_atMost right with
      | number next =>
        obtain ⟨first, second, ofFirst, ofSecond, below⟩ := Number.atMost_compare_iff.1 ordered
        obtain ⟨same, third, again, ofThird, above⟩ := Number.atMost_compare_iff.1 next
        obtain rfl : second = same := Option.some.inj (ofSecond.symm.trans again)
        exact Number.atMost_compare_iff.2 ⟨first, third, ofFirst, ofThird, below.trans above⟩
    | text ordered =>
      cases scalarsAtMost_of_atMost right with
      | text next => exact atMost_some_iff.2 (Std.TransCmp.isLE_trans ordered next)
    | unit => exact right

/-- Scalars are equal if they compare as equal. -/
theorem agree_scalar (isValue : Value → Prop) : Agree isValue scalarEq scalarCmp := by
  intro left right _ _
  rw [scalarEq, beq_iff_eq]

/-- What every scalar can do is lawful. -/
theorem lawfulEquality_scalarEq (isValue : Value → Prop) : LawfulEquality isValue scalarEq :=
  Agree.lawfulEquality (agree_scalar isValue) (lawfulOrder_scalarCmp isValue).comparison

/-- Scalars that are no numbers of a binary format. -/
inductive PlainScalar : Value → Prop where
  | bool (truth : Bool) : PlainScalar (.bool truth)
  | char (sign : Char) : PlainScalar (.char sign)
  | integer (number : Int) : PlainScalar (.integer number)
  | text (text : String) : PlainScalar (.text text)
  | unit : PlainScalar (.compound [])

/-- Plain scalars are equal to themselves, so equality is an identity for them. -/
theorem lawfulIdentity_scalarEq {isValue : Value → Prop}
    (plain : ∀ value, isValue value → PlainScalar value) : LawfulIdentity isValue scalarEq where
  toLawfulEquality := lawfulEquality_scalarEq isValue
  refl {value} holds := by
    rw [scalarEq, beq_iff_eq]
    cases plain value holds with
    | unit => rfl
    | bool | char | integer | text => exact congrArg some Std.ReflCmp.compare_self

end Standard

end Reflection
