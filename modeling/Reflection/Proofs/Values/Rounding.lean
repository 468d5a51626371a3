import Mathlib.Algebra.Order.Field.Power
import Mathlib.Tactic.Positivity
import Reflection.Number.Rounding

/-!
# Rounded numbers are of their format

Rounding a quotient guesses its exponent from the lengths of the two numbers and corrects the guess
by one. The mantissa that is left is below two to the precision, or just that power, which is then
halved; so every result is a number of the format. Integers that are cut and clamped lie in their
kind's range.
-/
namespace Reflection

/-- A clamped number lies in the range. -/
theorem IntegerKind.holds_saturate (kind : IntegerKind) (number : Int) :
    kind.holds (kind.saturate number) = true := by
  rw [holds_iff]
  have ordered : kind.least ≤ kind.greatest := by cases kind <;> decide
  unfold saturate
  omega

/-- A number cut to an integer of a kind lies in its range. -/
theorem Number.holds_toInteger (kind : IntegerKind) (number : Number) :
    kind.holds (number.toInteger kind) = true := by
  cases number with
  | nan => cases kind <;> decide
  | infinite negative => cases negative <;> cases kind <;> decide
  | finite negative mantissa exponent => exact kind.holds_saturate _

/-- A quotient below a bound is rounded to at most the bound. -/
theorem nearestQuotient_le {numerator denominator bound : Nat}
    (below : numerator < bound * denominator) : nearestQuotient numerator denominator ≤ bound := by
  have cut : numerator / denominator < bound := Nat.div_lt_of_lt_mul (by rwa [Nat.mul_comm])
  unfold nearestQuotient
  dsimp only
  split
  · omega
  · omega

/-- A scaled quotient is below a bound exactly if the quotient is below the scaled bound. -/
theorem scaled_lt_iff (numerator denominator bound : Nat) (exponent : Int) :
    (scaled numerator denominator exponent).1 < bound * (scaled numerator denominator exponent).2 ↔
      (numerator : ℚ) < bound * denominator * 2 ^ exponent := by
  unfold scaled
  split
  · rename_i negative
    obtain ⟨size, rfl⟩ : ∃ size : Nat, exponent = -size := ⟨exponent.natAbs, by omega⟩
    have positive : (0 : ℚ) < 2 ^ size := by positivity
    simp only [Int.neg_neg, Int.toNat_natCast, zpow_neg, zpow_natCast, Nat.pow_eq]
    rw [← div_eq_mul_inv, lt_div_iff₀ positive]
    exact_mod_cast Iff.rfl
  · rename_i natural
    obtain ⟨size, rfl⟩ : ∃ size : Nat, exponent = size := ⟨exponent.toNat, by omega⟩
    simp only [Int.toNat_natCast, zpow_natCast, Nat.pow_eq]
    rw [← Nat.mul_assoc]
    exact_mod_cast Iff.rfl

/-- Whether a format has numbers: there is room for a mantissa, and for an exponent. -/
structure Format.Proper (format : Format) : Prop where
  precise : 0 < format.precision
  range : format.least ≤ format.greatest

namespace Number

/-- The exponent guessed for a quotient is at most one too low. -/
theorem lt_of_guess {numerator denominator : Nat} (positive : denominator ≠ 0) :
    (numerator : ℚ) <
      denominator * 2 ^ ((numerator.log2 : Int) - denominator.log2 + 1) := by
  have upper : (numerator : ℚ) < 2 ^ ((numerator.log2 : Int) + 1) := by
    have bound := Nat.lt_log2_self (n := numerator)
    exact_mod_cast bound
  have lower : (2 : ℚ) ^ (denominator.log2 : Int) ≤ denominator := by
    have bound := Nat.log2_self_le positive
    exact_mod_cast bound
  calc (numerator : ℚ) < 2 ^ ((numerator.log2 : Int) + 1) := upper
    _ = 2 ^ (denominator.log2 : Int) *
        2 ^ ((numerator.log2 : Int) - denominator.log2 + 1) := by
      rw [← zpow_add₀ (by norm_num)]
      congr 1
      omega
    _ ≤ denominator * 2 ^ ((numerator.log2 : Int) - denominator.log2 + 1) := by gcongr

/-- The exponent a rounded quotient starts from, before it is brought into the format's range. -/
def leading (numerator denominator : Nat) : Int :=
  let guess : Int := (numerator.log2 : Int) - denominator.log2
  if (scaled numerator denominator guess).1 < (scaled numerator denominator guess).2 then guess - 1
  else guess

/-- A quotient is below the power of two behind its leading one. -/
theorem lt_of_leading {numerator denominator : Nat} (positive : denominator ≠ 0) :
    (numerator : ℚ) < denominator * 2 ^ (leading numerator denominator + 1) := by
  unfold leading
  dsimp only
  split
  · rename_i low
    have bound := (scaled_lt_iff numerator denominator 1 _).1 (by rwa [Nat.one_mul])
    rw [Int.sub_add_cancel]
    simpa using bound
  · exact lt_of_guess positive

/-- With an exponent that leaves the leading power within the precision, the rounded mantissa is
at most two to the precision. -/
theorem mantissa_le {format : Format} {numerator denominator : Nat} {exponent : Int}
    (precise : 0 < format.precision) (positive : denominator ≠ 0)
    (enough : leading numerator denominator - (format.precision - 1 : Nat) ≤ exponent) :
    nearestQuotient (scaled numerator denominator exponent).1
      (scaled numerator denominator exponent).2 ≤ 2 ^ format.precision := by
  apply nearestQuotient_le
  rw [scaled_lt_iff]
  have room : leading numerator denominator + 1 ≤ format.precision + exponent := by omega
  calc (numerator : ℚ) < denominator * 2 ^ (leading numerator denominator + 1) :=
        lt_of_leading positive
    _ ≤ denominator * 2 ^ (format.precision + exponent) := by
      gcongr
      norm_num
    _ = (2 ^ format.precision : Nat) * denominator * 2 ^ exponent := by
      rw [zpow_add₀ (by norm_num), zpow_natCast]
      rw [← mul_assoc, mul_comm (denominator : ℚ), Nat.cast_pow, Nat.cast_ofNat]

/-- The number with a rounded mantissa and an exponent: a mantissa of just two to the precision is
halved, and an exponent beyond the greatest gives an infinity. -/
def settle (format : Format) (negative : Bool) (mantissa : Nat) (exponent : Int) : Number :=
  let (mantissa, exponent) :=
    if mantissa = Nat.pow 2 format.precision then
      (Nat.pow 2 (format.precision - 1), exponent + 1)
    else (mantissa, exponent)
  if exponent > format.greatest then .infinite negative
  else if mantissa = 0 then zero format negative
  else .finite negative mantissa exponent

/-- A quotient is rounded with the exponent its leading power calls for, or the least one. -/
theorem ofQuotient_eq_settle (format : Format) (negative : Bool) {numerator denominator : Nat}
    (nonzero : numerator ≠ 0) (positive : denominator ≠ 0) :
    ofQuotient format negative numerator denominator =
      let exponent :=
        max format.least (leading numerator denominator - (format.precision - 1 : Nat))
      settle format negative (nearestQuotient (scaled numerator denominator exponent).1
        (scaled numerator denominator exponent).2) exponent := by
  unfold ofQuotient
  rw [if_neg nonzero, if_neg positive]
  rfl

/-- A mantissa of at most two to the precision and an exponent that is not too low settle to a
number of the format. -/
theorem fits_settle {format : Format} (proper : format.Proper) (negative : Bool)
    {mantissa : Nat} {exponent : Int}
    (bound : mantissa ≤ 2 ^ format.precision) (low : format.least ≤ exponent) :
    (settle format negative mantissa exponent).Fits format := by
  obtain ⟨precise, range⟩ := proper
  have half : 2 ^ (format.precision - 1) < 2 ^ format.precision :=
    Nat.pow_lt_pow_right (by decide) (by omega)
  have zeroFits : (zero format negative).Fits format :=
    ⟨Nat.two_pow_pos _, Int.le_refl _, range⟩
  unfold settle
  simp only [Nat.pow_eq]
  by_cases full : mantissa = 2 ^ format.precision
  · rw [if_pos full]
    dsimp only
    split
    · trivial
    · split
      · exact zeroFits
      · exact ⟨half, by omega, by omega⟩
  · have below : mantissa < 2 ^ format.precision := Nat.lt_of_le_of_ne bound full
    rw [if_neg full]
    dsimp only
    split
    · trivial
    · split
      · exact zeroFits
      · exact ⟨below, low, by omega⟩

/-- A rounded quotient is a number of the format. -/
theorem fits_ofQuotient {format : Format} (proper : format.Proper) (negative : Bool)
    (numerator denominator : Nat) :
    (ofQuotient format negative numerator denominator).Fits format := by
  by_cases nonzero : numerator = 0
  · unfold ofQuotient
    rw [if_pos nonzero]
    exact ⟨Nat.two_pow_pos _, Int.le_refl _, proper.range⟩
  · by_cases positive : denominator = 0
    · unfold ofQuotient
      rw [if_neg nonzero, if_pos positive]
      trivial
    · rw [ofQuotient_eq_settle format negative nonzero positive]
      exact fits_settle proper negative
        (mantissa_le proper.precise positive (Int.le_max_right _ _)) (Int.le_max_left _ _)

/-- A number converted to a format is one of it. -/
theorem fits_convert {format : Format} (proper : format.Proper) (number : Number) :
    (number.convert format).Fits format := by
  cases number with
  | nan => trivial
  | infinite negative => trivial
  | finite negative mantissa exponent => exact fits_ofQuotient proper negative _ _

end Number

end Reflection
