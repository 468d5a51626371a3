import Reflection.Catalogue.Members
import Reflection.Catalogue.Types
import Reflection.Proofs.Access.Entries
import Reflection.Proofs.Calls.Atomic
import Reflection.Proofs.Values.Converting

/-!
# Where values are converted without being asked to

A value of one type may stand where one of another type is wanted: in a write, in the setting of a
property, and as the key of a lookup. Each of the three makes something of it that is of the wanted
type. A write stores the conversion of the value. A setter gets, and a lookup looks for, the only
sub-object of the wanted type if the value has one, and else the conversion; so the three differ
only where a registered conversion is overridden by a parent (`Types.Overridden`).
-/
namespace Reflection

namespace Types

/-- A copy of a value of a type is the value, for the values that count. -/
def Faithful (types : Types) (type : Ty) (isValue : Value → Prop) : Prop :=
  ∀ value, isValue value → ∀ copy,
    ((Any.held .shared ⟨type, value⟩).tryClone types).outcome = .ok copy → copy = .new ⟨type, value⟩

/-- A conversion from a type to another is registered although its values have one sub-object of the
other. -/
structure Overridden (types : Types) (type target : Ty) : Prop where
  different : type ≠ target
  registered : ((types.members type).conversion? target).isSome = true
  one : ∃ place, types.ancestors type target = {place}

end Types

namespace Any

variable {types : Types} {access : Access} {content : Typed} {target : Ty} {source : Any}
  {place : Path} {value part : Value} {isValue : Value → Prop}

/-! ### The three places -/

/-- What a write of a source stores in any value of a type that is not const. -/
def Stored (types : Types) (source : Any) (target : Ty) (value : Value) : Prop :=
  ∀ access old, access ≠ .shared →
    ((held access ⟨target, old⟩).write types source).outcome =
      .ok ((), held access ⟨target, value⟩)

/-- What the setter of any property of a type gets for a source, when the instance has one
sub-object that the property belongs to and is not const. -/
def Passed (types : Types) (source : Any) (target : Ty) (value : Value) : Prop :=
  ∀ (property : Property) (name : String) (set : Value → Value → Value) (access : Access)
    (subject : Typed) (place : Path), property.type = target → property.set = some set →
      access ≠ .shared → types.ancestors subject.type property.owner = {place} →
        (property.write types name source (held access subject)).outcome =
          .ok ((), (held access subject).put place (set ((held access subject).read place) value))

/-- What a lookup of a source looks for in any table with keys of a type. -/
def LookedUp (types : Types) (source : Any) (target : Ty) (value : Value) : Prop :=
  ∀ view : TableView, view.shape.key = target →
    (view.bindKey types source).value = some value ∧
      (view.find types source).value = (view.position? value).map (view.valuePart false)

/-! ### Copies and conversions -/

/-- Nothing is cast to a type of which there is no only sub-object. -/
theorem value_asType_of_none (none : ¬∃ place, types.ancestors content.type target = {place}) :
    ((held access content).asType types target).value = .none := by
  rw [value_asType]
  cases found : ancestor types content target with
  | ok place => exact absurd ⟨place, ancestor_eq_ok_iff.1 found⟩ none
  | error error => rfl

/-- A copy does not depend on how the value is held. -/
theorem tryClone_held (access : Access) (content : Typed) :
    (held access content).tryClone types = (held .shared content).tryClone types := rfl

/-- A copy that may be missing and is there is one that was made. -/
theorem outcome_tryClone_of_cloneOrEmpty
    (copied : ((held access content).cloneOrEmpty types).value = new ⟨target, value⟩) :
    ((held access content).tryClone types).outcome = .ok (new ⟨target, value⟩) := by
  simp only [cloneOrEmpty, Logged.value_bind, Fallible.value_run] at copied
  cases made : ((held access content).tryClone types).outcome with
  | ok copy =>
    rw [made] at copied
    rw [show copy = _ from copied]
  | error error =>
    rw [made] at copied
    contradiction

/-- A faithful copy that may be missing and is there is the value itself. -/
theorem value_cloneOrEmpty_of_faithful (faithful : types.Faithful content.type isValue)
    (isOne : isValue content.value)
    (filled : ((held access content).cloneOrEmpty types).value ≠ .empty) :
    ((held access content).cloneOrEmpty types).value = new content := by
  simp only [cloneOrEmpty, Logged.value_bind, Fallible.value_run] at filled ⊢
  cases made : ((held access content).tryClone types).outcome with
  | ok copy =>
    rw [tryClone_held] at made
    exact faithful content.value isOne copy made
  | error error =>
    rw [made] at filled
    exact absurd rfl filled

/-- A value is converted to its only sub-object of the target, unless a conversion is registered. -/
theorem value_conv_of_one (faithful : types.Faithful target isValue)
    (one : types.ancestors content.type target = {place})
    (inside : content.value.part? place = some part) (isOne : isValue part)
    (unregistered : content.type = target ∨ (types.members content.type).conversion? target = none)
    (filled : ((held access content).conv types (some target)).value ≠ .empty) :
    ((held access content).conv types (some target)).value = new ⟨target, part⟩ := by
  rw [value_conv_held] at filled ⊢
  by_cases same : content.type = target
  · -- The only sub-object of its own type is the value itself.
    subst same
    obtain rfl : [] = place := Set.singleton_injective (Types.ancestors_self.symm.trans one)
    obtain rfl : content.value = part := Option.some.inj inside
    rw [if_pos rfl] at filled ⊢
    exact value_cloneOrEmpty_of_faithful faithful isOne filled
  · have none := unregistered.resolve_left same
    have cast : ((held access content).asType types target).value = some ⟨place, target, false⟩ := by
      rw [value_asType, ancestor_eq_ok_iff.2 one]
      rfl
    have borrowed : (held access content).borrow ⟨place, target, false⟩ =
        held .shared ⟨target, part⟩ := borrow_eq inside
    simp only [if_neg same, none, cast, borrowed] at filled ⊢
    exact @value_cloneOrEmpty_of_faithful types .shared ⟨target, part⟩ isValue faithful isOne filled

/-- The conversion of a value that has one is of the target, if copies are faithful. -/
theorem exists_conv_of_faithful (faithful : types.Faithful target isValue)
    (reaches : ∀ place ∈ types.ancestors content.type target,
      ∃ part, content.value.part? place = some part ∧ isValue part)
    (filled : ((held access content).conv types (some target)).value ≠ .empty) :
    ∃ value, ((held access content).conv types (some target)).value = new ⟨target, value⟩ := by
  by_cases unregistered : content.type = target ∨
      (types.members content.type).conversion? target = none
  · by_cases one : ∃ place, types.ancestors content.type target = {place}
    · obtain ⟨place, one⟩ := one
      obtain ⟨part, inside, isOne⟩ := reaches place (one ▸ Set.mem_singleton place)
      exact ⟨part, value_conv_of_one faithful one inside isOne unregistered filled⟩
    · have different : content.type ≠ target := by
        intro same
        exact one ⟨[], same ▸ Types.ancestors_self⟩
      have nothing : ((held access content).asType types target).value = none :=
        value_asType_of_none one
      rw [value_conv_held, if_neg different, unregistered.resolve_left different, nothing] at filled
      exact absurd rfl filled
  · obtain ⟨different, registered⟩ := not_or.1 unregistered
    obtain ⟨conversion, known⟩ := Option.ne_none_iff_exists'.1 registered
    rw [value_conv_held, if_neg different, known]
    exact ⟨_, rfl⟩

/-! ### What each place makes of a value -/

/-- A write stores the conversion. -/
theorem stored_of_conv
    (made : ((held access content).conv types (some target)).value = new ⟨target, value⟩) :
    (held access content).Stored types target value := by
  have brought : (writeSource types target (held access content)).outcome =
      .ok (new ⟨target, value⟩) := by
    unfold writeSource
    by_cases same : content.type = target
    · -- What is of the type already is copied, as its conversion is.
      have itself : (held access content).type? = some target := by
        rw [← same]
        rfl
      rw [value_conv_held, if_pos same] at made
      rw [if_pos itself]
      exact outcome_tryClone_of_cloneOrEmpty made
    · have other : (held access content).type? ≠ some target := fun itself =>
        same (Option.some.inj itself)
      rw [if_neg other, Fallible.outcome_bind, Fallible.outcome_ofLogged, made]
      rfl
  intro access old mutable
  rw [write_of_ne_shared mutable, Acting.outcome_on_attempt_bind, brought]
  rfl

/-- A lookup looks for the key that is bound. -/
theorem lookedUp_of_bindKey
    (bound : ∀ view : TableView, view.shape.key = target →
      (view.bindKey types source).value = some value) : source.LookedUp types target value := by
  intro view keys
  refine ⟨bound view keys, ?_⟩
  simp only [TableView.find, Logged.value_bind, bound view keys]
  rfl

/-- A lookup looks for the only sub-object of the key type. -/
theorem lookedUp_of_one (one : types.ancestors content.type target = {place})
    (inside : content.value.part? place = some part) :
    (held access content).LookedUp types target part := by
  refine lookedUp_of_bindKey fun view keys => ?_
  rw [TableView.value_bindKey, keys, value_asType, ancestor_eq_ok_iff.2 one]
  simp [Except.map, Except.toOption, read, inside]

/-- A lookup looks for the conversion where there is no only sub-object of the key type. -/
theorem lookedUp_of_conv (none : ¬∃ place, types.ancestors content.type target = {place})
    (made : ((held access content).conv types (some target)).value = new ⟨target, value⟩) :
    (held access content).LookedUp types target value := by
  refine lookedUp_of_bindKey fun view keys => ?_
  rw [TableView.value_bindKey, keys, value_asType_of_none none, made]
  rfl

/-- A setter gets what the value is brought to. -/
theorem passed_of_adapt
    (adapted : (Property.adapt types target source).outcome = .ok value) :
    source.Passed types target value := by
  rintro property name set access subject place rfl writable mutable one
  have itself : property = property.withSetter set := by
    rw [Property.withSetter, ← writable]
  have writes : (held access subject).isConst = false := by
    cases access with
    | shared => exact absurd rfl mutable
    | owned | exclusive => rfl
  have cast := (castsTo_of_ancestor (ancestor_eq_ok_iff.2 one)).castMut writes
  rw [itself, Acted.outcome_eq_ok_iff, Property.value_write, adapted, cast]

/-- A setter gets the only sub-object of the type of the property. -/
theorem passed_of_one (one : types.ancestors content.type target = {place})
    (inside : content.value.part? place = some part) :
    (held access content).Passed types target part := by
  refine passed_of_adapt ?_
  obtain ⟨related, _⟩ := Types.exists_ancestor_iff.1 ⟨place, one⟩
  have inherited : (decide (content.type = target) || types.inherits content.type target) = true := by
    simpa using related
  have cast : ((held access content).cast types target).outcome = .ok ⟨place, target, false⟩ :=
    (castsTo_of_ancestor (ancestor_eq_ok_iff.2 one)).cast
  unfold Property.adapt
  simp only [type?, content?, Option.map_some, inherited, if_true, Fallible.outcome_bind, cast]
  simp [Except.bind, read, inside]

/-- A setter gets the conversion of what is not of the type of the property and does not inherit
from it. -/
theorem passed_of_conv
    (unrelated : ¬(content.type = target ∨ types.inherits content.type target = true))
    (made : ((held access content).conv types (some target)).value = new ⟨target, value⟩) :
    (held access content).Passed types target value := by
  refine passed_of_adapt ?_
  have inherited :
      (decide (content.type = target) || types.inherits content.type target) = false := by
    rw [← Bool.not_eq_true]
    simpa using unrelated
  have converted : ((held access content).tryConv types (some target)).outcome =
      .ok (new ⟨target, value⟩) := by
    have filled : ((held access content).conv types (some target)).value ≠ .empty := by
      rw [made]
      exact Any.noConfusion
    obtain ⟨answer, answered⟩ := exists_tryConv_iff.2 filled
    rw [answered, (eq_conv_of_tryConv answered).1, made]
  have cast : ((new ⟨target, value⟩).cast types target).outcome = .ok ⟨[], target, false⟩ :=
    (castsTo_of_ancestor (ancestor_eq_ok_iff.2 Types.ancestors_self)).cast
  unfold Property.adapt
  simp only [type?, content?, Option.map_some, inherited, Bool.false_eq_true, if_false,
    Fallible.outcome_bind, converted, Except.bind, cast]
  rfl

/-! ### All three places -/

/-- What values are converted to without being asked for it. Whatever parents, conversions,
constructors and capabilities types have: for every value, and every type whose copies are faithful
and to which the value can be converted, the conversion is an owned value of that type, and a write
stores it. A lookup looks for the conversion as well, unless it is overridden, and a setter gets the
conversion unless it is overridden or the type is elusive. Where there is one sub-object of the
type, a lookup looks for it and a setter gets it; it is the conversion again unless that is
overridden. -/
theorem conversion_sites (types : Types) (access : Access) (content : Typed) (target : Ty)
    (faithful : types.Faithful target isValue)
    (reaches : ∀ place ∈ types.ancestors content.type target,
      ∃ part, content.value.part? place = some part ∧ isValue part)
    (filled : ((held access content).conv types (some target)).value ≠ .empty) :
    let source := held access content
    ∃ converted, (source.conv types (some target)).value = new ⟨target, converted⟩ ∧
      source.Stored types target converted ∧
      (¬types.Overridden content.type target →
        source.LookedUp types target converted ∧
          (¬types.Elusive content.type target → source.Passed types target converted)) ∧
      ∀ place, types.ancestors content.type target = {place} →
        ∃ part, content.value.part? place = some part ∧ source.LookedUp types target part ∧
          source.Passed types target part := by
  intro source
  obtain ⟨converted, made⟩ := exists_conv_of_faithful faithful reaches filled
  have alone : ∀ place, types.ancestors content.type target = {place} →
      ∃ part, content.value.part? place = some part ∧ isValue part :=
    fun place one => reaches place (one ▸ Set.mem_singleton place)
  refine ⟨converted, made, stored_of_conv made, fun agreed => ?_, fun place one => ?_⟩
  · by_cases one : ∃ place, types.ancestors content.type target = {place}
    · obtain ⟨place, one⟩ := one
      obtain ⟨part, inside, isOne⟩ := alone place one
      have unregistered : content.type = target ∨
          (types.members content.type).conversion? target = none := by
        by_contra both
        obtain ⟨different, registered⟩ := not_or.1 both
        exact agreed ⟨different, Option.isSome_iff_ne_none.2 registered, place, one⟩
      -- The conversion is the copy of the sub-object.
      have copied := value_conv_of_one faithful one inside isOne unregistered filled
      obtain rfl : converted = part := by simpa [new] using made.symm.trans copied
      exact ⟨lookedUp_of_one one inside, fun _ => passed_of_one one inside⟩
    · refine ⟨lookedUp_of_conv one made, fun settled => passed_of_conv (fun related => ?_) made⟩
      exact one (Types.exists_ancestor_iff.2 ⟨related, settled⟩)
  · obtain ⟨part, inside, _⟩ := alone place one
    exact ⟨part, inside, lookedUp_of_one one inside, passed_of_one one inside⟩

/-- The types of the catalogue, where points have some parents and are converted to the product of
their coordinates. -/
def productTypes (parents : List Parent) : Types :=
  (Types.described Catalogue.allTypes).changeMembers Catalogue.point fun members =>
    { members with parents, conversions := (Catalogue.conversion? "i32").toList }

/-- Points that have their first coordinate as a parent. -/
def slopeTypes : Types := productTypes (Catalogue.parent? Catalogue.point "x").toList

/-- A point. -/
def slope : Typed := ⟨Catalogue.point, .compound [.integer 3, .integer (-4)]⟩

/-- Copies of integers are faithful. -/
theorem faithful_slopeTypes : slopeTypes.Faithful .i32 fun _ => True := by
  intro value _ copy copied
  have made : ((held .shared ⟨.i32, value⟩).tryClone slopeTypes).outcome = .ok (new ⟨.i32, value⟩) :=
    rfl
  exact Except.ok.inj (copied.symm.trans made)

/-- The only parent of a point is its first coordinate. -/
theorem ancestors_slope : slopeTypes.ancestors slope.type .i32 = {[0]} :=
  Types.cast_eq_iff.1 (rfl : (slopeTypes.cast slope.type .i32).value = _)

/-- That coordinate is part of the point. -/
theorem slope_reaches :
    ∀ place ∈ slopeTypes.ancestors slope.type .i32,
      ∃ part, slope.value.part? place = some part ∧ True := by
  rw [ancestors_slope]
  rintro place rfl
  exact ⟨.integer 3, rfl, trivial⟩

/-- A point is converted to the product. -/
theorem value_conv_slope :
    ((held .shared slope).conv slopeTypes (some .i32)).value = new ⟨.i32, .integer (-12)⟩ := rfl

/-- A point has a conversion. -/
theorem slope_converts :
    ((held .shared slope).conv slopeTypes (some .i32)).value ≠ .empty := by
  rw [value_conv_slope]
  exact Any.noConfusion

/-- The product is stored where a point is written, and the coordinate is passed to a setter and
looked up. -/
theorem slope_conversion_sites :
    let source := held .shared slope
    source.Stored slopeTypes .i32 (.integer (-12)) ∧
      source.LookedUp slopeTypes .i32 (.integer 3) ∧ source.Passed slopeTypes .i32 (.integer 3) := by
  intro source
  have inside : slope.value.part? [0] = some (.integer 3) := rfl
  obtain ⟨converted, same, stored, _, sites⟩ :=
    conversion_sites slopeTypes .shared slope .i32 faithful_slopeTypes slope_reaches slope_converts
  obtain rfl : converted = .integer (-12) := by
    simpa [new] using same.symm.trans value_conv_slope
  obtain ⟨part, found, lookedUp, passed⟩ := sites [0] ancestors_slope
  obtain rfl : part = .integer 3 := Option.some.inj (found.symm.trans inside)
  exact ⟨stored, lookedUp, passed⟩

/-- A table with the product of the point first and its first coordinate second. -/
def slopeTable : TableView :=
  .ofEntries (.hashMap .i32 .string) .i32 .string .owned
    [(.integer (-12), .text "product"), (.integer 3, .text "coordinate")]

/-- Points that have both coordinates as parents. -/
def forkTypes : Types :=
  productTypes
    ((Catalogue.parent? Catalogue.point "x").toList ++
      (Catalogue.parent? Catalogue.point "y").toList)

/-- The three places do not always agree. A point that is converted to the product of its
coordinates is looked up by one of them, and with both of them as parents no setter gets it at all.
-/
theorem slope_sites_disagree :
    ¬(∀ (types : Types) (access : Access) (content : Typed) (target : Ty) (isValue : Value → Prop),
        types.Faithful target isValue →
          (∀ place ∈ types.ancestors content.type target,
            ∃ part, content.value.part? place = some part ∧ isValue part) →
          ((held access content).conv types (some target)).value ≠ .empty →
            ∃ converted,
              ((held access content).conv types (some target)).value = new ⟨target, converted⟩ ∧
              (held access content).Stored types target converted ∧
              (held access content).Passed types target converted ∧
              (held access content).LookedUp types target converted) ∧
      ((held .shared slope).conv forkTypes (some .i32)).value = new ⟨.i32, .integer (-12)⟩ ∧
      ∃ error, (Property.adapt forkTypes .i32 (held .shared slope)).outcome = .error error ∧
        error.kind = .ambiguousCast := by
  refine ⟨fun always => ?_, rfl, _, rfl, rfl⟩
  obtain ⟨converted, same, _, _, lookedUp⟩ :=
    always slopeTypes .shared slope .i32 (fun _ => True) faithful_slopeTypes slope_reaches
      slope_converts
  obtain rfl : converted = .integer (-12) := by
    simpa [new] using same.symm.trans value_conv_slope
  have product := (lookedUp slopeTable rfl).2
  have coordinate : (slopeTable.find slopeTypes (held .shared slope)).value =
      some (slopeTable.valuePart false 1) := rfl
  rw [coordinate] at product
  exact absurd product (by decide)

end Any

end Reflection
