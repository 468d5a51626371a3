import Mathlib.Algebra.Group.Nat.Defs
import Mathlib.Order.Compare
import Reflection.Proofs.Module.Steps

/-!
# Which versions can stand in for which

The packed form of a version keeps its components apart, so versions are ordered by their major,
then their minor, then their patch components. The rule for versions before 1.0 and the rule for
those after are one: a version can stand in for another if both belong to one line of releases
(`line`) and it is not older (`isCompatibleWith_iff`). The versions of a line stand together in the
order (`line_between`), and all else that is said of compatibility follows from these two.
-/
namespace Reflection

namespace Version

variable {first second third version required : Version}

/-! ### The packed form -/

/-- The components do not overlap in the packed form. -/
theorem toNat_toUInt64 (version : Version) :
    version.toUInt64.toNat =
      2 ^ 16 * (2 ^ 16 * version.major.toNat + version.minor.toNat) + version.patch.toNat := by
  have majorBound := version.major.toNat_lt
  have minorBound := version.minor.toNat_lt
  have patchBound := version.patch.toNat_lt
  have major : (version.major.toUInt64 <<< 32).toNat = 2 ^ 32 * version.major.toNat := by
    simp only [UInt64.toNat_shiftLeft, UInt16.toNat_toUInt64, UInt64.reduceToNat,
      Nat.shiftLeft_eq, Nat.reduceMod, Nat.reducePow]
    omega
  have minor : (version.minor.toUInt64 <<< 16).toNat = 2 ^ 16 * version.minor.toNat := by
    simp only [UInt64.toNat_shiftLeft, UInt16.toNat_toUInt64, UInt64.reduceToNat,
      Nat.shiftLeft_eq, Nat.reduceMod, Nat.reducePow]
    omega
  have upper : 2 ^ 32 * version.major.toNat + 2 ^ 16 * version.minor.toNat =
      2 ^ 16 * (2 ^ 16 * version.major.toNat + version.minor.toNat) := by omega
  rw [toUInt64, UInt64.toNat_or, UInt64.toNat_or, major, minor, UInt16.toNat_toUInt64,
    ← Nat.two_pow_add_eq_or_of_lt (by omega), upper, ← Nat.two_pow_add_eq_or_of_lt (by omega)]

/-- No two versions are packed into one number. -/
theorem toUInt64_injective : Function.Injective toUInt64 := by
  rintro ⟨major, minor, patch⟩ ⟨otherMajor, otherMinor, otherPatch⟩ same
  have numbers := congrArg UInt64.toNat same
  simp only [toNat_toUInt64] at numbers
  have minorBound := minor.toNat_lt
  have patchBound := patch.toNat_lt
  have otherMinorBound := otherMinor.toNat_lt
  have otherPatchBound := otherPatch.toNat_lt
  simp only [mk.injEq, ← UInt16.toNat_inj]
  omega

/-- Numbers in two digits are compared by the upper digit first. -/
theorem compare_digits {base lower otherLower : Nat} (upper otherUpper : Nat)
    (fits : lower < base) (otherFits : otherLower < base) :
    Ord.compare (base * upper + lower) (base * otherUpper + otherLower) =
      (Ord.compare upper otherUpper).then (Ord.compare lower otherLower) := by
  rcases Nat.lt_trichotomy upper otherUpper with less | rfl | greater
  · have step : base * (upper + 1) ≤ base * otherUpper := Nat.mul_le_mul_left base less
    rw [Nat.compare_eq_lt.2 less, Nat.compare_eq_lt.2 (by rw [Nat.mul_succ] at step; omega)]
    rfl
  · rw [Nat.compare_eq_eq.2 rfl, Ordering.eq_then]
    rcases Nat.lt_trichotomy lower otherLower with less | rfl | greater
    · rw [Nat.compare_eq_lt.2 less, Nat.compare_eq_lt.2 (by omega)]
    · rw [Nat.compare_eq_eq.2 rfl, Nat.compare_eq_eq.2 rfl]
    · rw [Nat.compare_eq_gt.2 greater, Nat.compare_eq_gt.2 (by omega)]
  · have step : base * (otherUpper + 1) ≤ base * upper := Nat.mul_le_mul_left base greater
    rw [Nat.compare_eq_gt.2 greater, Nat.compare_eq_gt.2 (by rw [Nat.mul_succ] at step; omega)]
    rfl

/-- Versions are compared by their major, then their minor, then their patch components. -/
theorem compare_eq_then (left right : Version) :
    left.compare right =
      (Ord.compare left.major right.major).then
        ((Ord.compare left.minor right.minor).then (Ord.compare left.patch right.patch)) := by
  have component : ∀ left right : UInt16,
      Ord.compare left right = Ord.compare left.toNat right.toNat := fun left right => by
    simp only [Ord.compare, compareOfLessAndEq, UInt16.lt_iff_toNat_lt, UInt16.toNat_inj]
  calc left.compare right
      = Ord.compare left.toUInt64.toNat right.toUInt64.toNat := by
        simp only [compare, Ord.compare, compareOfLessAndEq, UInt64.lt_iff_toNat_lt,
          UInt64.toNat_inj]
    _ = _ := by
        rw [toNat_toUInt64, toNat_toUInt64,
          compare_digits _ _ left.patch.toNat_lt right.patch.toNat_lt,
          compare_digits _ _ left.minor.toNat_lt right.minor.toNat_lt, Ordering.then_assoc,
          component, component, component]

/-- A version is not newer than another if its packed form is not greater. -/
theorem isLE_compare_iff : (first.compare second).isLE = true ↔ first.toUInt64 ≤ second.toUInt64 :=
  Std.isLE_compare

/-- A version is not older than another if its packed form is not less. -/
theorem isGE_compare_iff : (first.compare second).isGE = true ↔ second.toUInt64 ≤ first.toUInt64 :=
  Std.isGE_compare

/-! ### Lines of releases -/

/-- The line of releases that a version belongs to: before 1.0 every minor component has a line of
its own, from then on every major component. -/
def line (version : Version) : UInt16 × UInt16 :=
  (version.major, if version.major = 0 then version.minor else 0)

/-- A version can stand in for another if they are of one line and it is not older. -/
theorem isCompatibleWith_iff :
    version.isCompatibleWith required = true ↔
      version.line = required.line ∧ (version.compare required).isGE = true := by
  rw [isGE_compare_iff, UInt64.le_iff_toNat_le, toNat_toUInt64, toNat_toUInt64]
  unfold isCompatibleWith line
  by_cases early : version.major = 0 ∧ required.major = 0
  · rw [if_pos early]
    simp only [early.1, early.2, if_true, Prod.mk.injEq, true_and, Bool.and_eq_true,
      decide_eq_true_eq, UInt16.le_iff_toNat_le]
    refine and_congr_right fun same => ?_
    rw [same]
    omega
  · rw [if_neg early, Bool.and_eq_true, decide_eq_true_eq, isGE_compare_iff,
      UInt64.le_iff_toNat_le, toNat_toUInt64, toNat_toUInt64]
    refine and_congr_left fun _ => ?_
    constructor
    · intro same
      have later : required.major ≠ 0 := fun zero => early ⟨same.trans zero, zero⟩
      simp [same, later]
    · exact fun same => (Prod.mk.inj same).1

/-- The versions between two of one line belong to it. -/
theorem line_between (lower : first.toUInt64 ≤ second.toUInt64)
    (upper : second.toUInt64 ≤ third.toUInt64) (same : third.line = first.line) :
    second.line = first.line := by
  rw [UInt64.le_iff_toNat_le, toNat_toUInt64, toNat_toUInt64] at lower upper
  obtain ⟨majors, minors⟩ := Prod.mk.inj same
  have firstMinor := first.minor.toNat_lt
  have firstPatch := first.patch.toNat_lt
  have secondMinor := second.minor.toNat_lt
  have secondPatch := second.patch.toNat_lt
  have thirdMinor := third.minor.toNat_lt
  have thirdPatch := third.patch.toNat_lt
  have major : second.major = first.major := by
    rw [← UInt16.toNat_inj] at majors ⊢
    omega
  have minor : first.major = 0 → second.minor = first.minor := by
    intro early
    rw [majors, if_pos early, if_pos early] at minors
    rw [← UInt16.toNat_inj] at majors major minors ⊢
    omega
  unfold line
  rw [major]
  by_cases early : first.major = 0
  · rw [if_pos early, if_pos early, minor early]
  · rw [if_neg early, if_neg early]

/-! ### Laws of compatibility -/

/-- A version can stand in for itself. -/
theorem isCompatibleWith_refl (version : Version) : version.isCompatibleWith version = true :=
  isCompatibleWith_iff.2 ⟨rfl, isGE_compare_iff.2 (UInt64.le_refl _)⟩

/-- What can stand in for a stand-in can stand in for the first. -/
theorem isCompatibleWith_trans (upper : third.isCompatibleWith second = true)
    (lower : second.isCompatibleWith first = true) : third.isCompatibleWith first = true := by
  rw [isCompatibleWith_iff, isGE_compare_iff] at *
  exact ⟨upper.1.trans lower.1, UInt64.le_trans lower.2 upper.2⟩

/-- Versions that can stand in for each other are the same. -/
theorem isCompatibleWith_antisymm (upper : second.isCompatibleWith first = true)
    (lower : first.isCompatibleWith second = true) : first = second := by
  rw [isCompatibleWith_iff, isGE_compare_iff] at *
  exact toUInt64_injective (UInt64.le_antisymm upper.2 lower.2)

/-- A version between another and one that can stand in for it can stand in for the other, and be
stood in for. -/
theorem isCompatibleWith_between (lower : (first.compare second).isLE = true)
    (upper : (second.compare third).isLE = true) (whole : third.isCompatibleWith first = true) :
    second.isCompatibleWith first = true ∧ third.isCompatibleWith second = true := by
  rw [isLE_compare_iff] at lower upper
  rw [isCompatibleWith_iff] at whole
  have between := line_between lower upper whole.1
  exact ⟨isCompatibleWith_iff.2 ⟨between, isGE_compare_iff.2 lower⟩,
    isCompatibleWith_iff.2 ⟨whole.1.trans between.symm, isGE_compare_iff.2 upper⟩⟩

end Version

/-! ### Replacing dependencies -/

namespace ModuleRegistry

variable {before after : ModuleRegistry}

/-- Whatever is active stays so, at its own version or at one that can stand in for it. -/
def Upgrades (before after : ModuleRegistry) : Prop :=
  ∀ id installed, before.info.find? id = some installed → installed.status = .active →
    ∃ replacement, after.info.find? id = some replacement ∧ replacement.status = .active ∧
      replacement.version.isCompatibleWith installed.version = true

/-- A dependency that was met is met by what can stand in for it. -/
theorem Upgrades.meets (upgrades : before.Upgrades after) {dependency : Dependency}
    (met : before.Meets dependency) : after.Meets dependency := by
  obtain ⟨installed, found, active, fits⟩ := met
  obtain ⟨replacement, replaced, running, standsIn⟩ := upgrades _ installed found active
  exact ⟨replacement, replaced, running, Version.isCompatibleWith_trans standsIn fits⟩

end ModuleRegistry

/-- The order of versions and their compatibility fit together. No two versions are packed into one
number, and the comparison of these numbers is that of the major, then the minor, then the patch
components. That a version can stand in for another is a partial order; it never holds for an older
version, for one of another major component or, before 1.0, for one of another minor component; and
it holds for all that lies between two versions for which it holds. Where active modules are
replaced by versions that can stand in for them, no dependent loses what it depends on. -/
theorem Version.compatibility_fits_order :
    Function.Injective Version.toUInt64 ∧
    (∀ left right : Version, left.compare right =
      (Ord.compare left.major right.major).then
        ((Ord.compare left.minor right.minor).then (Ord.compare left.patch right.patch))) ∧
    (∀ version : Version, version.isCompatibleWith version = true) ∧
    (∀ first second third : Version, third.isCompatibleWith second = true →
      second.isCompatibleWith first = true → third.isCompatibleWith first = true) ∧
    (∀ first second : Version, second.isCompatibleWith first = true →
      first.isCompatibleWith second = true → first = second) ∧
    (∀ version required : Version, version.isCompatibleWith required = true →
      (version.compare required).isGE = true ∧ version.major = required.major ∧
        (version.major = 0 → version.minor = required.minor)) ∧
    (∀ first second third : Version, (first.compare second).isLE = true →
      (second.compare third).isLE = true → third.isCompatibleWith first = true →
        second.isCompatibleWith first = true ∧ third.isCompatibleWith second = true) ∧
    (∀ before after : ModuleRegistry, before.Upgrades after → ∀ dependent dependencies,
      before.unmetDependency dependent dependencies = none →
        after.unmetDependency dependent dependencies = none) := by
  refine ⟨toUInt64_injective, compare_eq_then, isCompatibleWith_refl,
    fun _ _ _ => isCompatibleWith_trans, fun _ _ => isCompatibleWith_antisymm, ?contained,
    fun _ _ _ => isCompatibleWith_between, ?replaced⟩
  case contained =>
    intro version required compatible
    obtain ⟨lines, newer⟩ := isCompatibleWith_iff.1 compatible
    obtain ⟨majors, minors⟩ := Prod.mk.inj lines
    refine ⟨newer, majors, fun early => ?_⟩
    rwa [if_pos early, if_pos (majors ▸ early)] at minors
  case replaced =>
    intro before after upgrades dependent dependencies satisfied
    rw [ModuleRegistry.unmetDependency_eq_none_iff] at satisfied ⊢
    exact fun dependency mem => upgrades.meets (satisfied dependency mem)

/-- A registry with one active module at some version. -/
def ModuleRegistry.single (version : Version) : ModuleRegistry :=
  { ModuleRegistry.ofDatabase "main" with
    info := Dictionary.ofList [("base", ⟨"base", version, [], .active, []⟩)]
    loadOrder := ["base"] }

/-- Releases on both sides of 1.0: a patch before it and a minor release after it can stand in for
what they replace, what lies between can, too, and a dependent that asked for less stays
satisfied. -/
theorem Version.releases_stand_in :
    let early : Version := ⟨0, 65535, 1⟩
    let patched : Version := ⟨0, 65535, 65535⟩
    let stable : Version := ⟨1, 0, 65535⟩
    let extended : Version := ⟨1, 4, 0⟩
    patched.isCompatibleWith early = true ∧
      Version.isCompatibleWith ⟨0, 65535, 7⟩ early = true ∧
      extended.isCompatibleWith stable = true ∧
      Version.isCompatibleWith ⟨1, 1, 0⟩ stable = true ∧
      stable.isCompatibleWith patched = false ∧
      (ModuleRegistry.single extended).unmetDependency "user" [⟨"base", ⟨1, 0, 3⟩⟩] = none := by
  intro early patched stable extended
  obtain ⟨_, _, _, _, _, _, between, replaced⟩ := Version.compatibility_fits_order
  have upgrades : (ModuleRegistry.single stable).Upgrades (ModuleRegistry.single extended) := by
    intro id installed found active
    have here : id = "base" ∧ installed = ⟨"base", stable, [], .active, []⟩ := by
      have mem := Dictionary.find?_eq_some_iff.1 found
      simpa using List.mem_singleton.1 mem
    obtain ⟨rfl, rfl⟩ := here
    exact ⟨⟨"base", extended, [], .active, []⟩, rfl, rfl, by decide⟩
  exact ⟨by decide, (between early ⟨0, 65535, 7⟩ patched (by decide) (by decide) (by decide)).1,
    by decide, (between stable ⟨1, 1, 0⟩ extended (by decide) (by decide) (by decide)).1, by decide,
    replaced _ _ upgrades "user" _ (by decide)⟩

end Reflection
