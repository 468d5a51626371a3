import Reflection.Database.Run
import Reflection.Proofs.Registration
import Reflection.Proofs.Values.Sound

/-!
# Registration keeps types sound

What is registered about a type is written for that type: constructors make values of it, parents
and properties are typed parts, conversions and functions give what they promise. Each registration
then leaves the members of the type sound and touches no others, attributes are no part of this, and
a reset brings back described members, which are sound; so every chain of registrations and every
run through a database keeps types sound.
-/
namespace Reflection

variable {meaning : Meaning} {type : Ty}

/-- Whether what is registered about a type is written for that type. -/
def Link.Sound (meaning : Meaning) (type : Ty) : Link → Prop
  | .constant _ value => meaning.Holds value.type value.value
  | .property _ computed => computed.Sound meaning
  | .function _ overload => overload.Sound meaning
  | .constructor overload => overload.Sound meaning ∧ overload.returns = type
  | .parent declared => meaning.Projects type declared.place declared.type
  | .conversion given => ∀ value, meaning.Holds type value →
    meaning.Holds given.target (given.convert value)
  | .attach _ => True

/-- Whether what a step of a chain registers about a type is written for that type. -/
def ChainStep.Sound (meaning : Meaning) (type : Ty) : ChainStep → Prop
  | .register link => link.Sound meaning type
  | .info | .resetIn _ _ => True

/-- Whether what an operation registers is written for the type it is registered about. -/
def DatabaseOperation.Sound (meaning : Meaning) : DatabaseOperation → Prop
  | .reflect type chain => ∀ step ∈ chain, step.Sound meaning type
  | .reset _ => True

/-! ### Members -/

namespace Members.Sound

variable {members : Members}

/-- Attributes are no part of what members promise. -/
theorem setAttributes (sound : members.Sound meaning type) (attributes : Attributes)
    (target : AttributeTarget) : (members.setAttributes attributes target).Sound meaning type := by
  cases target with
  | type => exact ⟨sound.constructors, sound.parents, sound.conversions, sound.constants,
      sound.properties, sound.functions⟩
  | constant name =>
    refine { sound with constants := fun other constant found => ?_ }
    rw [Members.setAttributes, Dictionary.find?_modify] at found
    split at found
    · obtain ⟨before, listed, rfl⟩ := Option.map_eq_some_iff.1 found
      exact sound.constants other before listed
    · exact sound.constants other constant found
  | property name =>
    refine { sound with properties := fun other property found => ?_ }
    rw [Members.setAttributes, Dictionary.find?_modify] at found
    split at found
    · obtain ⟨before, listed, rfl⟩ := Option.map_eq_some_iff.1 found
      have fits := sound.properties other before listed
      exact ⟨fits.get, fits.set⟩
    · exact sound.properties other property found
  | function name index =>
    refine { sound with functions := fun other overloads found overload mem => ?_ }
    rw [Members.setAttributes, Dictionary.find?_modify] at found
    split at found
    · obtain ⟨before, listed, rfl⟩ := Option.map_eq_some_iff.1 found
      obtain ⟨position, stands⟩ := List.mem_iff_getElem?.1 mem
      rw [List.getElem?_modify] at stands
      obtain ⟨earlier, stood, same⟩ := Option.map_eq_some_iff.1 stands
      have works := sound.functions other before listed earlier (List.mem_of_getElem? stood)
      split at same
      · rw [← same]
        exact works
      · rw [← same]
        exact works
    · exact sound.functions other overloads found overload mem

/-- Members stay sound when another overload of a function is registered. -/
theorem addOverload (sound : members.Sound meaning type) {overload : Overload}
    (works : overload.Sound meaning) (name : String) :
    (members.addOverload name overload).Sound meaning type := by
  refine { sound with functions := fun other overloads found listed mem => ?_ }
  rw [Members.addOverload, Dictionary.find?_insert] at found
  split at found
  · cases found
    rcases List.mem_append.1 mem with earlier | last
    · cases known : members.functions.find? name with
      | none =>
        rw [overloads, known] at earlier
        contradiction
      | some before =>
        rw [overloads, known] at earlier
        exact sound.functions name before known listed earlier
    · rw [List.mem_singleton.1 last]
      exact works
  · exact sound.functions other overloads found listed mem

end Members.Sound

/-! ### Types -/

namespace Types.Sound

variable {types : Types}

/-- Types stay sound when one is given sound members. -/
theorem setMembers (sound : types.Sound meaning) {members : Members}
    (fits : members.Sound meaning type) : (types.setMembers type members).Sound meaning := by
  refine ⟨sound.fixed, fun other => ?_⟩
  by_cases same : other = type
  · rw [same, Types.members_setMembers_self]
    exact fits
  · rw [Types.members_setMembers_of_ne types members same]
    exact sound.members other

/-- Types stay sound when one is brought back to its described members. -/
theorem reset (sound : types.Sound meaning) (type : Ty) : (types.reset type).Sound meaning :=
  sound.setMembers (sound.fixed.described type)

end Types.Sound

namespace Scope

variable {scope : Scope} {factory : Factory} {link : Link}

/-- Attaching an attribute keeps types sound. -/
theorem sound_attach (sound : scope.types.Sound meaning) (factory : Factory) (value : Typed) :
    (scope.attach factory value).value.types.Sound meaning := by
  simp only [attach]
  cases (scope.types.members factory.type).attributesOf factory.target with
  | none => exact sound
  | some attributes =>
    have kept := fun attributes =>
      sound.setMembers ((sound.members factory.type).setAttributes attributes factory.target)
    by_cases whole : factory.target = .type
    · simp only [if_pos whole]
      exact kept _
    · simp only [if_neg whole]
      exact kept _

/-- A registration that is written for the factory's type keeps types sound. -/
theorem sound_apply (sound : scope.types.Sound meaning) (fits : link.Sound meaning factory.type) :
    (scope.apply factory link).value.2.types.Sound meaning := by
  have members := sound.members factory.type
  cases link with
  | constant name value =>
    refine sound.setMembers { members with constants := fun other constant found => ?_ }
    rw [Dictionary.find?_insert] at found
    split at found
    · cases found
      exact fits
    · exact members.constants other constant found
  | property name computed =>
    refine sound.setMembers { members with properties := fun other property found => ?_ }
    rw [Dictionary.find?_insert] at found
    split at found
    · cases found
      exact fits
    · exact members.properties other property found
  | function name overload => exact sound.setMembers (members.addOverload fits name)
  | constructor overload =>
    refine sound.setMembers { members with constructors := ?_ }
    exact List.forall_mem_append.2 ⟨members.constructors, List.forall_mem_singleton.2 fits⟩
  | parent declared =>
    refine sound.setMembers { members with parents := ?_ }
    exact List.forall_mem_append.2 ⟨members.parents, List.forall_mem_singleton.2 fits⟩
  | conversion given =>
    refine sound.setMembers { members with conversions := ?_ }
    exact List.forall_mem_append.2 ⟨members.conversions, List.forall_mem_singleton.2 fits⟩
  | attach value => exact sound_attach sound factory value

end Scope

/-! ### Stores -/

namespace Store

variable {store : Store} {database : String}

/-- A reset keeps types sound. -/
theorem sound_reset (sound : store.types.Sound meaning) (database name : String) :
    (store.reset database name).value.2.types.Sound meaning := by
  rw [types_reset]
  split
  · exact sound.reset _
  · exact sound

/-- The steps of a chain that is written for the factory's type keep types sound. -/
theorem sound_runSteps (sound : store.types.Sound meaning) (factory : Factory)
    {chain : List ChainStep} (fits : ∀ step ∈ chain, step.Sound meaning factory.type) :
    (store.runSteps database factory chain).value.2.types.Sound meaning := by
  induction chain generalizing store factory with
  | nil => exact sound
  | cons step rest ih =>
    obtain ⟨first, later⟩ := List.forall_mem_cons.1 fits
    cases step with
    | register link =>
      have same := (Scope.apply_frame (store.scope database) factory link).1
      have applied : ((store.scope database).apply factory link).value.2.types.Sound meaning :=
        Scope.sound_apply sound first
      refine ih applied _ ?_
      rw [same]
      exact later
    | info => exact ih sound factory later
    | resetIn other name => exact ih (sound_reset sound other name) factory later

/-- No operation touches what is fixed about types. -/
theorem fixed_perform (store : Store) (database : String) (operation : DatabaseOperation) :
    (store.perform database operation).value.types.fixed = store.types.fixed := by
  cases operation with
  | reflect type chain => exact (keeps_fixed store.types.fixed database).reflect type chain rfl
  | reset name => exact fixed_reset store database name

/-- An operation through a database that is written for the types it registers keeps types
sound. -/
theorem sound_perform (sound : store.types.Sound meaning) {operation : DatabaseOperation}
    (fits : operation.Sound meaning) :
    (store.perform database operation).value.types.Sound meaning := by
  cases operation with
  | reflect type chain =>
    have registered : ((store.scope database).register type).value.types = store.types :=
      Scope.types_register
    have opened : (store.setScope database ((store.scope database).register type).value).types.Sound
        meaning := by
      show ((store.scope database).register type).value.types.Sound meaning
      rw [registered]
      exact sound
    exact sound_runSteps opened ⟨type, .type⟩ fits
  | reset name => exact sound_reset sound database name

end Store

end Reflection
