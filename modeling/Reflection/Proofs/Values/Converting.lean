import Reflection.Proofs.Calls.Binding
import Reflection.Proofs.Values.Operations

/-!
# Expected and actual conversions

Whether a type is convertible to another is answered from the two types alone; a conversion works on
a value. Each is first described on its own (`Types.isConvertible_eq_true_iff`, `Any.conv_cases`).
They agree but for two kinds of types: a copy that only a constructor makes is not expected, and a
copy of the type itself or of a parent may be expected where there is none. These are the only ones
(`Any.isConvertible_predicts_iff`).
-/
namespace Reflection

variable {types : Types} {type target : Ty}

/-! ### Copies -/

/-- A constructor that takes a const reference to a type makes a value of one. -/
theorem Overload.exists_invoke_of_copies {overload : Overload} {content : Typed}
    (copies : overload.copies content.type = true) :
    ∃ value after, (overload.invoke types [.held .shared content]).outcome =
      .ok (.new ⟨overload.returns, value⟩, after) := by
  have single : ∃ parameter : Parameter, overload.parameters = [parameter] ∧
      parameter.exclusive = false ∧ parameter.type = content.type := by
    unfold Overload.copies at copies
    split at copies
    · rename_i parameter listed
      exact ⟨parameter, listed, by simpa using copies⟩
    · contradiction
  obtain ⟨parameter, listed, const, taken⟩ := single
  have accepted : parameter.accepts types (.held .shared content) = true := by
    simp [Parameter.accepts, const, taken]
  have settled : ¬parameter.Eludes types (.held .shared content) := by
    rintro ⟨other, held, elusive⟩
    cases held
    rw [taken] at elusive
    exact Types.not_elusive_of_ancestor Types.ancestors_self elusive
  obtain ⟨part, bound⟩ := Parameter.exists_bind_iff.2 ⟨accepted, settled⟩
  have all : BindsAll types overload.parameters [.held .shared content] [part] := by
    rw [listed]
    exact .cons bound .nil
  obtain ⟨parts, _, answered⟩ := all.invoke
  obtain ⟨value, made⟩ := overload.fst_answer [.held .shared content] parts
  refine ⟨value, (overload.answer [.held .shared content] parts).2, ?_⟩
  rw [answered, ← made]

namespace Types

/-- Whether some constructor of a type takes a const reference to it. -/
def CopiesByConstructor (types : Types) (type : Ty) : Prop :=
  ∃ constructor ∈ (types.members type).constructors, constructor.copies type = true

/-- Whether values of a type can be copied: by the type's own capability or by a constructor. -/
def Copyable (types : Types) (type : Ty) : Prop :=
  (types.capabilities type).clone.isSome = true ∨ types.CopiesByConstructor type

end Types

namespace Any

variable {access : Access} {content : Typed}

/-- A copy is made exactly of values that can be copied, and it is owned and of the type copied. -/
theorem tryClone_cases
    (constructs : ∀ constructor ∈ (types.members content.type).constructors,
      constructor.returns = content.type) :
    (types.Copyable content.type ∧
        ∃ value, ((held access content).tryClone types).outcome = .ok (new ⟨content.type, value⟩)) ∨
      ¬types.Copyable content.type ∧
        ((held access content).tryClone types).outcome =
          .error (.of (.notCopyable (types.name content.type))) := by
  simp only [tryClone]
  cases installed : (types.capabilities content.type).clone with
  | some clone =>
    have able : types.Copyable content.type := .inl (by rw [installed]; rfl)
    exact .inl ⟨able, clone content.value, rfl⟩
  | none =>
    have byConstructor : types.Copyable content.type ↔ types.CopiesByConstructor content.type := by
      simp [Types.Copyable, installed]
    rw [byConstructor]
    cases found : (types.members content.type).constructors.find? (·.copies content.type) with
    | some constructor =>
      have listed := List.mem_of_find?_eq_some found
      have copies : constructor.copies content.type = true := List.find?_some found
      obtain ⟨value, after, answered⟩ := @Overload.exists_invoke_of_copies types _ _ copies
      rw [constructs constructor listed] at answered
      exact .inl ⟨⟨constructor, listed, copies⟩, value,
        Fallible.outcome_bind_eq_ok_iff.2 ⟨_, answered, rfl⟩⟩
    | none =>
      refine .inr ⟨?_, rfl⟩
      rintro ⟨constructor, listed, copies⟩
      exact absurd copies (List.find?_eq_none.1 found constructor listed)

/-- A copy that may be missing is there exactly of values that can be copied. -/
theorem cloneOrEmpty_cases
    (constructs : ∀ constructor ∈ (types.members content.type).constructors,
      constructor.returns = content.type) :
    (types.Copyable content.type ∧
        ∃ value, ((held access content).cloneOrEmpty types).value = new ⟨content.type, value⟩) ∨
      ¬types.Copyable content.type ∧ ((held access content).cloneOrEmpty types).value = .empty := by
  simp only [cloneOrEmpty, Logged.value_bind, Fallible.value_run]
  rcases @tryClone_cases types access content constructs with
    ⟨able, value, copied⟩ | ⟨unable, failed⟩
  · rw [copied]
    exact .inl ⟨able, value, rfl⟩
  · rw [failed]
    exact .inr ⟨unable, rfl⟩

end Any

/-! ### Conversions -/

namespace Types

/-- Whether values of a type are converted to another: by a registered conversion to another type,
or by a copy of the only sub-object of the target, which may be the value itself. -/
def Converts (types : Types) (type target : Ty) : Prop :=
  (type ≠ target ∧ ((types.members type).conversion? target).isSome = true) ∨
    ((type = target ∨ (types.members type).conversion? target = none) ∧
      types.Copyable target ∧ ∃ place, types.ancestors type target = {place})

end Types

namespace Any

variable {access : Access} {content : Typed}

/-- The only sub-object of a type is reached if it is part of the value. -/
theorem reaches_of_ancestor {place : Path} (one : types.ancestors content.type target = {place})
    (inside : (content.value.part? place).isSome = true) :
    ∀ other ∈ types.ancestors content.type target,
      (content.value.part? other).isSome = true := by
  intro other reached
  rw [one] at reached
  rw [Set.mem_singleton_iff.1 reached]
  exact inside

/-- A conversion makes an owned value of the target, or nothing. -/
theorem conv_cases
    (constructs : ∀ constructor ∈ (types.members target).constructors, constructor.returns = target)
    (reaches : ∀ place ∈ types.ancestors content.type target,
      (content.value.part? place).isSome = true) :
    let converted := ((held access content).conv types (some target)).value
    (types.Converts content.type target ∧ ∃ value, converted = new ⟨target, value⟩) ∨
      ¬types.Converts content.type target ∧ converted = .empty := by
  intro converted
  have made : converted = _ := value_conv_held
  rw [made]
  unfold Types.Converts
  by_cases same : content.type = target
  · subst same
    have one : ∃ place, types.ancestors content.type content.type = {place} :=
      ⟨[], Types.ancestors_self⟩
    have copies := @cloneOrEmpty_cases types access content constructs
    rw [if_pos rfl]
    simpa [one] using copies
  rw [if_neg same]
  cases known : (types.members content.type).conversion? target with
  | some conversion => exact .inl ⟨.inl ⟨same, rfl⟩, conversion.convert content.value, rfl⟩
  | none =>
    rw [value_asType]
    cases found : ancestor types content target with
    | ok place =>
      have one : types.ancestors content.type target = {place} := ancestor_eq_ok_iff.1 found
      have inside : (content.value.part? place).isSome = true := by
        apply reaches
        rw [one]
        exact Set.mem_singleton place
      obtain ⟨value, reads⟩ := Option.isSome_iff_exists.1 inside
      have borrowed : (held access content).borrow ⟨place, target, false⟩ =
          held .shared ⟨target, value⟩ := borrow_eq reads
      have copies := @cloneOrEmpty_cases types .shared ⟨target, value⟩ constructs
      simpa [Except.map, Except.toOption, borrowed, same, one] using copies
    | error error =>
      have none : ¬∃ place, types.ancestors content.type target = {place} := by
        rintro ⟨place, one⟩
        rw [ancestor_eq_ok_iff.2 one] at found
        contradiction
      exact .inr ⟨by simp [same, none], rfl⟩

/-- A conversion that says why it fails answers exactly if there is a conversion. -/
theorem exists_tryConv_iff {any : Any} {wanted : Option Ty} :
    (∃ answer, (any.tryConv types wanted).outcome = .ok answer) ↔
      (any.conv types wanted).value ≠ .empty := by
  constructor
  · rintro ⟨answer, answered⟩
    obtain ⟨rfl, filled⟩ := eq_conv_of_tryConv answered
    exact filled
  · intro filled
    cases any with
    | empty => exact absurd rfl filled
    | held access content =>
      refine ⟨((held access content).conv types wanted).value, ?_⟩
      have there : ((held access content).conv types wanted).value.isEmpty = false := by
        cases made : ((held access content).conv types wanted).value with
        | empty => exact absurd made filled
        | held _ _ => rfl
      unfold tryConv
      rw [if_neg (by simp [isEmpty])]
      refine Fallible.outcome_bind_eq_ok_iff.2 ⟨_, rfl, ?_⟩
      rw [if_neg (by simp [there])]
      rfl

end Any

/-! ### Expectations -/

namespace Types

/-- A conversion is expected if one is registered, or if the target can copy itself and the type is
the target or inherits from it. -/
theorem isConvertible_eq_true_iff :
    types.isConvertible type target = true ↔
      ((types.members type).conversion? target).isSome = true ∨
        (types.capabilities target).clone.isSome = true ∧
          (type = target ∨ types.inherits type target = true) := by
  unfold isConvertible
  simp only [Bool.or_eq_true, Bool.and_eq_true, decide_eq_true_eq]
  by_cases same : type = target
  · subst same
    tauto
  · tauto

/-- Whether a conversion is made although none is expected: one that copies the only sub-object of
the target, or the value itself, by a constructor alone. -/
structure Overlooks (types : Types) (type target : Ty) : Prop where
  /-- No conversion is registered. -/
  unregistered : (types.members type).conversion? target = none
  /-- The target has no capability to copy itself. -/
  unable : (types.capabilities target).clone = none
  /-- It has a constructor that copies. -/
  constructed : types.CopiesByConstructor target
  /-- Parents lead to one sub-object of the target. -/
  one : ∃ place, types.ancestors type target = {place}

/-- Whether a conversion is expected although none is made. -/
inductive Overrates (types : Types) (type : Ty) : Ty → Prop where
  /-- A conversion of a type to itself is registered, but values of it are copied instead, which
  they cannot be. -/
  | itself (registered : ((types.members type).conversion? type).isSome = true)
      (uncopied : ¬types.Copyable type) : types.Overrates type type
  /-- The target can copy itself, but it is elusive, and no conversion is registered. -/
  | elusive {target : Ty} (unregistered : (types.members type).conversion? target = none)
      (able : (types.capabilities target).clone.isSome = true)
      (eludes : types.Elusive type target) : types.Overrates type target

/-- A conversion is overlooked exactly if it is made and not expected. -/
theorem overlooks_iff :
    types.Overlooks type target ↔
      types.isConvertible type target = false ∧ types.Converts type target := by
  rw [← Bool.not_eq_true, isConvertible_eq_true_iff]
  constructor
  · rintro ⟨unregistered, unable, constructed, one⟩
    exact ⟨by simp [unregistered, unable], .inr ⟨.inr unregistered, .inr constructed, one⟩⟩
  · rintro ⟨unexpected, converts⟩
    obtain ⟨unregistered, unable⟩ := not_or.1 unexpected
    rcases converts with ⟨_, registered⟩ | ⟨_, copyable, one⟩
    · exact absurd registered unregistered
    · have related := (exists_ancestor_iff.1 one).1
      have lacking : ¬(types.capabilities target).clone.isSome = true :=
        fun able => unable ⟨able, related⟩
      have constructed := copyable.resolve_left lacking
      exact ⟨by simpa using unregistered, by simpa using lacking, constructed, one⟩

/-- A conversion is overrated exactly if it is expected and not made. -/
theorem overrates_iff :
    types.Overrates type target ↔
      types.isConvertible type target = true ∧ ¬types.Converts type target := by
  rw [isConvertible_eq_true_iff]
  constructor
  · rintro (⟨registered, uncopied⟩ | ⟨unregistered, able, eludes⟩)
    · refine ⟨.inl registered, ?_⟩
      rintro (⟨different, _⟩ | ⟨_, copyable, _⟩)
      · exact different rfl
      · exact uncopied copyable
    · refine ⟨.inr ⟨able, .inr eludes.inherits⟩, ?_⟩
      rintro (⟨_, registered⟩ | ⟨_, _, one⟩)
      · simp [unregistered] at registered
      · exact (exists_ancestor_iff.1 one).2 eludes
  · rintro ⟨expected, fails⟩
    by_cases same : type = target
    · subst same
      have uncopied : ¬types.Copyable type :=
        fun copyable => fails (.inr ⟨.inl rfl, copyable, [], ancestors_self⟩)
      have registered := expected.resolve_right fun others => uncopied (.inl others.1)
      exact .itself registered uncopied
    · have missing : ¬((types.members type).conversion? target).isSome = true :=
        fun registered => fails (.inl ⟨same, registered⟩)
      have unregistered : (types.members type).conversion? target = none := by simpa using missing
      obtain ⟨able, related⟩ := expected.resolve_left missing
      refine .elusive unregistered able ?_
      by_contra graspable
      have one := exists_ancestor_iff.2 ⟨related, graspable⟩
      exact fails (.inr ⟨.inr unregistered, .inl able, one⟩)

end Types

namespace Any

/-- When the expectation of a conversion is right. For all capabilities, constructors, parents and
conversions of types, and every value: a conversion makes an owned value of exactly the target or
nothing, and fails exactly if it makes nothing; one is expected exactly if it is made, unless it is
overlooked or overrated, and then it is the other way round. As constructors are registered they
make values of their type, and parents are parts of every value. -/
theorem isConvertible_predicts_iff (types : Types) (access : Access) (content : Typed) (target : Ty)
    (constructs : ∀ constructor ∈ (types.members target).constructors, constructor.returns = target)
    (reaches : ∀ place ∈ types.ancestors content.type target,
      (content.value.part? place).isSome = true) :
    let converted := ((held access content).conv types (some target)).value
    (converted ≠ .empty → ∃ value, converted = new ⟨target, value⟩) ∧
      ((∃ answer, ((held access content).tryConv types (some target)).outcome = .ok answer) ↔
        converted ≠ .empty) ∧
      ((types.isConvertible content.type target = true ↔ converted ≠ .empty) ↔
        ¬types.Overlooks content.type target ∧ ¬types.Overrates content.type target) ∧
      (types.Overlooks content.type target →
        types.isConvertible content.type target = false ∧ converted ≠ .empty) ∧
      (types.Overrates content.type target →
        types.isConvertible content.type target = true ∧ converted = .empty) := by
  intro converted
  have ways := @conv_cases types target access content constructs reaches
  have makes : converted ≠ .empty ↔ types.Converts content.type target := by
    rcases ways with ⟨converts, value, made⟩ | ⟨fails, nothing⟩
    · refine iff_of_true ?_ converts
      rw [show converted = _ from made]
      exact Any.noConfusion
    · exact iff_of_false (not_not.2 nothing) fails
  refine ⟨fun filled => ?_, exists_tryConv_iff, ?_, fun overlooks => ?_, fun overrates => ?_⟩
  · rcases ways with ⟨_, value, made⟩ | ⟨_, nothing⟩
    · exact ⟨value, made⟩
    · exact absurd nothing filled
  · rw [makes, Types.overlooks_iff, Types.overrates_iff, ← Bool.not_eq_true]
    by_cases converts : types.Converts content.type target
    · simp [converts]
    · simp [converts]
  · obtain ⟨unexpected, converts⟩ := Types.overlooks_iff.1 overlooks
    exact ⟨unexpected, makes.2 converts⟩
  · obtain ⟨expected, fails⟩ := Types.overrates_iff.1 overrates
    exact ⟨expected, not_not.1 (mt makes.1 fails)⟩

/-- Types of gauges, which have a number as a parent, and of handles, which a constructor copies. -/
def gaugeTypes : Types where
  fixed :=
    { record
        | .named key => { name := key, layout := ⟨4, 4⟩ }
        | _ => { name := "i32", layout := ⟨4, 4⟩, capabilities := { clone := some id } }
      described _ := {} }
  members
    | .named "Gauge" => { parents := [⟨.i32, [0]⟩] }
    | .named "Handle" => { constructors := [.copyConstructor (.named "Handle")] }
    | .integer .i32 => { constructors := [.copyConstructor .i32] }
    | _ => {}

/-- A gauge. -/
def gauge : Typed := ⟨.named "Gauge", .compound [.integer 7]⟩

/-- A handle. -/
def handle : Typed := ⟨.named "Handle", .integer 7⟩

/-- A conversion of a gauge to a number is expected, and copies the number. -/
theorem gauge_converts_as_expected :
    gaugeTypes.isConvertible gauge.type .i32 = true ∧
      ((held .shared gauge).conv gaugeTypes (some .i32)).value = new ⟨.i32, .integer 7⟩ ∧
      ¬gaugeTypes.Overlooks gauge.type .i32 ∧ ¬gaugeTypes.Overrates gauge.type .i32 := by
  have constructs : ∀ constructor ∈ (gaugeTypes.members .i32).constructors,
      constructor.returns = .i32 := by
    intro constructor listed
    cases List.mem_singleton.1 listed
    rfl
  have one : gaugeTypes.ancestors gauge.type .i32 = {[0]} :=
    Types.cast_eq_iff.1 (rfl : (gaugeTypes.cast gauge.type .i32).value = _)
  have reaches := reaches_of_ancestor one rfl
  have expected : gaugeTypes.isConvertible gauge.type .i32 = true := rfl
  have made : ((held .shared gauge).conv gaugeTypes (some .i32)).value =
      new ⟨.i32, .integer 7⟩ := rfl
  obtain ⟨_, _, agrees, _⟩ :=
    isConvertible_predicts_iff gaugeTypes .shared gauge .i32 constructs reaches
  have filled : ((held .shared gauge).conv gaugeTypes (some .i32)).value ≠ .empty := by
    rw [made]
    exact Any.noConfusion
  exact ⟨expected, made, agrees.1 (iff_of_true expected filled)⟩

/-- Not every conversion that is made is expected: a handle is copied by its constructor, although
it is not convertible to its own type. -/
theorem handle_converts_unexpectedly :
    ¬(∀ (types : Types) (access : Access) (content : Typed) (target : Ty),
        (∀ constructor ∈ (types.members target).constructors, constructor.returns = target) →
          (∀ place ∈ types.ancestors content.type target,
            (content.value.part? place).isSome = true) →
          (types.isConvertible content.type target = true ↔
            ((held access content).conv types (some target)).value ≠ .empty)) ∧
      gaugeTypes.isConvertible handle.type (.named "Handle") = false ∧
      ((held .owned handle).conv gaugeTypes (some (.named "Handle"))).value = new handle := by
  have unexpected : gaugeTypes.isConvertible handle.type (.named "Handle") = false := rfl
  have made : ((held .owned handle).conv gaugeTypes (some (.named "Handle"))).value =
      new handle := rfl
  refine ⟨fun always => ?_, unexpected, made⟩
  have constructs : ∀ constructor ∈ (gaugeTypes.members (.named "Handle")).constructors,
      constructor.returns = .named "Handle" := by
    intro constructor listed
    cases List.mem_singleton.1 listed
    rfl
  have itself : gaugeTypes.ancestors handle.type (.named "Handle") = {[]} := Types.ancestors_self
  have reaches := reaches_of_ancestor itself rfl
  have agrees := always gaugeTypes .owned handle (.named "Handle") constructs reaches
  rw [made] at agrees
  have expected := agrees.2 Any.noConfusion
  rw [unexpected] at expected
  contradiction

end Any

end Reflection
