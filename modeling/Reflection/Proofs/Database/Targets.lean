import Reflection.Proofs.Database.Undoing

/-!
# Where attributes go

A factory remembers where the next attribute goes as a name, for an overload with its position, and
looks it up again for every attribute. Between two attributes a registration may replace the member
of that name or add overloads to it. The lookup nevertheless finds what was registered last: along
every chain a factory's target and the registrations it carried out stay in step (`Tracks`), which
one registration keeps (`tracks_apply`) and so a whole chain (`tracks_runSteps`). Attributes are
then known by how the tables of all targets differ before and after one more registration.
-/
namespace Reflection

/-- An overload without its attributes. -/
def Overload.bare (overload : Overload) : Overload := { overload with attributes := .empty }

/-- Overloads that were there before stand first and are as they were; registered ones follow in
order, and nothing about them but their attributes has changed. -/
structure Overload.Grown (before registered after : List Overload) : Prop where
  kept : before <+: after
  listed : after.map bare = (before ++ registered).map bare

namespace Link

/-- Whether a registration decides anew where attributes go. -/
def decides : Link → Bool
  | .attach _ => false
  | .constant _ _ | .property _ _ | .function _ _ | .constructor _ | .parent _
  | .conversion _ => true

/-- The registration that decided last where attributes go. -/
def latest? (links : List Link) : Option Link := (links.filter decides).getLast?

/-- The overload that a registration adds to the function of a name. -/
def overload? (name : String) : Link → Option Overload
  | .function other overload => if other = name then some overload else none
  | _ => none

/-- The overloads that registrations add to the function of a name, in order. -/
def overloads (links : List Link) (name : String) : List Overload :=
  links.filterMap (overload? name)

/-- One more registration that decides where attributes go is the latest. -/
theorem latest?_append_of_decides (links : List Link) {link : Link} (decides : link.decides) :
    latest? (links ++ [link]) = some link := by
  simp [latest?, List.filter_append, decides]

/-- An attribute does not decide where attributes go. -/
@[simp] theorem latest?_append_attach (links : List Link) (value : Typed) :
    latest? (links ++ [.attach value]) = latest? links := by
  simp [latest?, List.filter_append, Link.decides]

/-- What one more registration adds to a function stands last. -/
theorem overloads_append (links : List Link) (link : Link) (name : String) :
    overloads (links ++ [link]) name = overloads links name ++ (link.overload? name).toList := by
  cases found : link.overload? name <;> simp [overloads, List.filterMap_append, found]

end Link

/-- The registration of a step, if it is one. -/
def ChainStep.link? : ChainStep → Option Link
  | .register link => some link
  | .info | .resetIn _ _ => none

namespace Overload

variable {before registered after : List Overload}

/-- Without registrations nothing changes. -/
theorem Grown.refl (overloads : List Overload) : Grown overloads [] overloads :=
  ⟨List.prefix_rfl, by rw [List.append_nil]⟩

/-- One more registered overload stands last. -/
theorem Grown.push (grown : Grown before registered after) (overload : Overload) :
    Grown before (registered ++ [overload]) (after ++ [overload]) where
  kept := grown.kept.trans (List.prefix_append _ _)
  listed := by
    rw [← List.append_assoc, List.map_append, List.map_append, grown.listed]

/-- Other attributes on a registered overload leave those from before as they were. -/
theorem Grown.modify (grown : Grown before registered after) {index : Nat}
    (later : before.length ≤ index) (attributes : Attributes) :
    Grown before registered (after.modify index ({ · with attributes })) where
  kept := by
    rw [List.prefix_iff_getElem?]
    intro position early
    have different : index ≠ position := by omega
    rw [List.getElem?_modify, List.prefix_iff_getElem?.1 grown.kept position early]
    simp [different]
  listed := by
    rw [← grown.listed]
    refine List.ext_getElem? fun position => ?_
    rw [List.getElem?_map, List.getElem?_map, List.getElem?_modify]
    cases after[position]? with
    | none => rfl
    | some overload =>
      simp only [Option.map_eq_map, Option.map_some]
      split <;> rfl

end Overload

/-! ### Targets and tables -/

namespace Members

variable {members before after : Members} {target : AttributeTarget}

/-- A target is what a registration created, with whatever attributes it was given since: the
constant or the property of the name, or the last overload of the function. A registration that
creates none of these leaves attributes to the type, as none at all does. -/
def Created (members : Members) (target : AttributeTarget) : Option Link → Prop
  | some (.constant name value) =>
    target = .constant name ∧ ∃ table, members.constants.find? name = some ⟨value, table⟩
  | some (.property name property) =>
    target = .property name ∧
      ∃ table, members.properties.find? name = some { property with attributes := table }
  | some (.function name overload) =>
    ∃ earlier table, target = .function name earlier.length ∧
      members.functions.find? name = some (earlier ++ [{ overload with attributes := table }])
  | some (.constructor _) | some (.parent _) | some (.conversion _) | none => target = .type
  | some (.attach _) => False

/-- A change of members gives one target a table of attributes and leaves the tables of all other
targets, and of constructors, alone. -/
structure Gives (before after : Members) (target : AttributeTarget) (table : Attributes) :
    Prop where
  given : after.attributesOf target = some table
  others : ∀ other, other ≠ target → after.attributesOf other = before.attributesOf other
  constructors : after.constructors = before.constructors

/-- A change of members leaves the tables of all targets, and of the constructors that were there,
alone. -/
structure Spares (before after : Members) : Prop where
  tables : ∀ target, after.attributesOf target = before.attributesOf target
  constructors : before.constructors <+: after.constructors

/-- What was created has attributes. -/
theorem Created.exists_attributesOf {latest : Option Link}
    (created : members.Created target latest) :
    ∃ table, members.attributesOf target = some table := by
  rcases latest with _ | link
  · subst created
    exact ⟨_, rfl⟩
  cases link with
  | constant name value =>
    obtain ⟨rfl, table, found⟩ := created
    exact ⟨table, by simp [attributesOf, found]⟩
  | property name property =>
    obtain ⟨rfl, table, found⟩ := created
    exact ⟨table, by simp [attributesOf, found]⟩
  | function name overload =>
    obtain ⟨earlier, table, rfl, found⟩ := created
    exact ⟨table, by simp [attributesOf, found]⟩
  | constructor overload => subst created; exact ⟨_, rfl⟩
  | parent parent => subst created; exact ⟨_, rfl⟩
  | conversion conversion => subst created; exact ⟨_, rfl⟩
  | attach value => exact created.elim

/-- Attributes that are set are found on their target, and every other target has those it had. -/
theorem attributesOf_setAttributes (members : Members) (attributes : Attributes)
    (target other : AttributeTarget) :
    (members.setAttributes attributes target).attributesOf other =
      if target = other then (members.attributesOf other).map fun _ => attributes
      else members.attributesOf other := by
  cases target with
  | type => cases other <;> simp [setAttributes, attributesOf]
  | constant name =>
    cases other with
    | constant elsewhere =>
      simp only [setAttributes, attributesOf, Dictionary.find?_modify,
        AttributeTarget.constant.injEq]
      split
      · rw [Option.map_map, Option.map_map]; rfl
      · rfl
    | _ => simp [setAttributes, attributesOf]
  | property name =>
    cases other with
    | property elsewhere =>
      simp only [setAttributes, attributesOf, Dictionary.find?_modify,
        AttributeTarget.property.injEq]
      split
      · rw [Option.map_map, Option.map_map]; rfl
      · rfl
    | _ => simp [setAttributes, attributesOf]
  | function name index =>
    cases other with
    | function elsewhere position =>
      simp only [setAttributes, attributesOf, Dictionary.find?_modify,
        AttributeTarget.function.injEq]
      by_cases same : name = elsewhere
      · subst same
        cases members.functions.find? name with
        | none => simp
        | some overloads =>
          by_cases here : index = position <;> simp [here, Function.comp_def]
      · simp [same]
    | _ => simp [setAttributes, attributesOf]

/-- Other attributes on a target leave it what it was created as. -/
theorem Created.setAttributes {latest : Option Link} (created : members.Created target latest)
    (attributes : Attributes) :
    (members.setAttributes attributes target).Created target latest := by
  rcases latest with _ | link
  · exact created
  cases link with
  | constant name value =>
    obtain ⟨rfl, table, found⟩ := created
    exact ⟨rfl, attributes, by simp [Members.setAttributes, Dictionary.find?_modify, found]⟩
  | property name property =>
    obtain ⟨rfl, table, found⟩ := created
    exact ⟨rfl, attributes, by simp [Members.setAttributes, Dictionary.find?_modify, found]⟩
  | function name overload =>
    obtain ⟨earlier, table, rfl, found⟩ := created
    refine ⟨earlier, attributes, rfl, ?_⟩
    simp [Members.setAttributes, Dictionary.find?_modify, found, List.modify_eq_take_cons_drop]
  | constructor overload => exact created
  | parent parent => exact created
  | conversion conversion => exact created
  | attach value => exact created

/-- Attributes of an overload change no other overload. -/
theorem overloads_setAttributes_function (members : Members) (attributes : Attributes)
    (name other : String) (index : Nat) :
    (members.setAttributes attributes (.function other index)).overloads name =
      if other = name then (members.overloads name).modify index ({ · with attributes })
      else members.overloads name := by
  simp only [setAttributes, overloads, Dictionary.find?_modify]
  split
  · cases members.functions.find? name <;> simp
  · rfl

/-- Other attributes on a target that came after some overloads keep these. -/
theorem grown_setAttributes {initial registered : List Overload} {name : String}
    (grown : Overload.Grown initial registered (members.overloads name))
    (later : ∀ index, target = .function name index → initial.length ≤ index)
    (attributes : Attributes) :
    Overload.Grown initial registered
      ((members.setAttributes attributes target).overloads name) := by
  cases target with
  | type => exact grown
  | constant other => exact grown
  | property other => exact grown
  | function other index =>
    rw [overloads_setAttributes_function]
    split
    · rename_i same
      subst same
      exact grown.modify (later index rfl) attributes
    · exact grown

/-- Members that agree on everything that carries attributes have the same tables. -/
theorem attributesOf_congr (constants : after.constants = before.constants)
    (properties : after.properties = before.properties)
    (functions : after.functions = before.functions)
    (attributes : after.attributes = before.attributes) (target : AttributeTarget) :
    after.attributesOf target = before.attributesOf target := by
  cases target <;> simp only [attributesOf, constants, properties, functions, attributes]

/-- Attributes that are set on a target change the attributes of no other. -/
theorem gives_setAttributes {table : Attributes} (found : members.attributesOf target = some table)
    (attributes : Attributes) :
    members.Gives (members.setAttributes attributes target) target attributes where
  given := by simp [attributesOf_setAttributes, found]
  others other different := by
    rw [attributesOf_setAttributes, if_neg different.symm]
  constructors := by cases target <;> rfl

/-- A constant starts without attributes, also if it replaces one. -/
theorem gives_constant (members : Members) (name : String) (value : Typed) :
    members.Gives { members with constants := members.constants.insert name ⟨value, .empty⟩ }
      (.constant name) .empty where
  given := by simp [attributesOf]
  others other different := by
    cases other with
    | constant elsewhere =>
      have apart : name ≠ elsewhere := fun same => different (by rw [same])
      simp [attributesOf, Dictionary.find?_insert_of_ne _ _ apart]
    | type => rfl
    | property elsewhere => rfl
    | function elsewhere index => rfl
  constructors := rfl

/-- A property starts with the attributes it comes with, also if it replaces one. -/
theorem gives_property (members : Members) (name : String) (property : Property) :
    members.Gives { members with properties := members.properties.insert name property }
      (.property name) property.attributes where
  given := by simp [attributesOf]
  others other different := by
    cases other with
    | property elsewhere =>
      have apart : name ≠ elsewhere := fun same => different (by rw [same])
      simp [attributesOf, Dictionary.find?_insert_of_ne _ _ apart]
    | type => rfl
    | constant elsewhere => rfl
    | function elsewhere index => rfl
  constructors := rfl

/-- The attributes of an overload are those that the list of overloads has at its position. -/
theorem attributesOf_function (members : Members) (name : String) (index : Nat) :
    members.attributesOf (.function name index) =
      (members.overloads name)[index]?.map (·.attributes) := by
  simp only [attributesOf, overloads]
  cases members.functions.find? name <;> simp

/-- An overload is added to the function of its name. -/
theorem overloads_addOverload (members : Members) (name other : String) (overload : Overload) :
    (members.addOverload name overload).overloads other =
      members.overloads other ++ if name = other then [overload] else [] := by
  by_cases same : name = other
  · subst same
    simp [addOverload, overloads]
  · simp [addOverload, overloads, Dictionary.find?_insert_of_ne _ _ same, same]

/-- An overload starts with the attributes it comes with, and those before it keep theirs. -/
theorem gives_addOverload (members : Members) (name : String) (overload : Overload) :
    members.Gives (members.addOverload name overload)
      (.function name (members.overloads name).length) overload.attributes where
  given := by simp [attributesOf_function, overloads_addOverload]
  others other different := by
    cases other with
    | function elsewhere index =>
      rw [attributesOf_function, attributesOf_function, overloads_addOverload]
      by_cases same : name = elsewhere
      · subst same
        have apart : index ≠ (members.overloads name).length := fun same =>
          different (by rw [same])
        rw [if_pos rfl]
        rcases Nat.lt_or_gt_of_ne apart with early | late
        · rw [List.getElem?_append_left early]
        · have beyond : (members.overloads name).length < index := late
          rw [List.getElem?_eq_none (by rw [List.length_append]; exact beyond),
            List.getElem?_eq_none (by omega)]
      · rw [if_neg same, List.append_nil]
    | type => rfl
    | constant elsewhere => rfl
    | property elsewhere => rfl
  constructors := rfl

end Members

/-! ### One registration -/

/-- The target of a factory and the members of its type are in step with the registrations the
factory carried out: the target is what the last of them created, and every function has the
overloads it started with and then those they added. The target is never an overload from before. -/
structure Tracks (initial : Members) (links : List Link) (target : AttributeTarget)
    (members : Members) : Prop where
  created : members.Created target (Link.latest? links)
  grown : ∀ name, Overload.Grown (initial.overloads name) (Link.overloads links name)
    (members.overloads name)
  later : ∀ name index, target = .function name index → (initial.overloads name).length ≤ index

namespace Tracks

variable {initial members after : Members} {links : List Link} {target moved : AttributeTarget}

/-- A factory starts at the type. -/
theorem start (members : Members) : Tracks members [] .type members where
  created := rfl
  grown name := .refl (members.overloads name)
  later _ _ wrong := nomatch wrong

/-- A registration that decides where attributes go and adds no overload keeps a factory in step if
the target becomes what it created. -/
theorem decide {link : Link} (tracks : Tracks initial links target members)
    (decides : link.decides) (adds : ∀ name, link.overload? name = none)
    (created : after.Created moved (some link)) (unchanged : after.functions = members.functions)
    (elsewhere : ∀ name index, moved ≠ .function name index) :
    Tracks initial (links ++ [link]) moved after where
  created := by rwa [Link.latest?_append_of_decides links decides]
  grown name := by
    have same : after.overloads name = members.overloads name := by
      simp only [Members.overloads, unchanged]
    rw [Link.overloads_append, adds, Option.toList_none, List.append_nil, same]
    exact tracks.grown name
  later name index same := absurd same (elsewhere name index)

/-- An overload that is added keeps a factory in step if it becomes the target. -/
theorem push (tracks : Tracks initial links target members) (name : String)
    (overload : Overload) :
    Tracks initial (links ++ [.function name overload])
      (.function name (members.overloads name).length) (members.addOverload name overload) where
  created := by
    rw [Link.latest?_append_of_decides links rfl]
    exact ⟨members.overloads name, overload.attributes, rfl, Dictionary.find?_insert_self _ _ _⟩
  grown other := by
    rw [Members.overloads_addOverload, Link.overloads_append]
    by_cases here : name = other
    · simpa [Link.overload?, here] using (tracks.grown other).push overload
    · simpa [Link.overload?, here] using tracks.grown other
  later other index same := by
    obtain ⟨rfl, rfl⟩ := AttributeTarget.function.inj same
    exact (tracks.grown name).kept.length_le

/-- Attributes on the target keep a factory in step. -/
theorem attach (tracks : Tracks initial links target members) (value : Typed)
    (attributes : Attributes) :
    Tracks initial (links ++ [.attach value]) target
      (members.setAttributes attributes target) where
  created := by
    rw [Link.latest?_append_attach]
    exact tracks.created.setAttributes attributes
  grown name := by
    rw [Link.overloads_append]
    simpa [Link.overload?] using
      Members.grown_setAttributes (tracks.grown name) (tracks.later name) attributes
  later := tracks.later

end Tracks

namespace Scope

variable {scope : Scope} {factory : Factory}

/-- A changed type has the members the change makes. -/
@[simp] theorem members_changeMembers (scope : Scope) (type : Ty) (change : Members → Members) :
    (scope.changeMembers type change).types.members type = change (scope.types.members type) :=
  Types.members_setMembers_self _ _ _

/-- An attribute whose target is there goes into the table of the target, and nothing is noted. -/
theorem attach_of_found (scope : Scope) (factory : Factory) {table : Attributes} (value : Typed)
    (found : (scope.types.members factory.type).attributesOf factory.target = some table) :
    (scope.attach factory value).value.types.members factory.type =
        (scope.types.members factory.type).setAttributes
          (table.insert (scope.types.name value.type) value) factory.target ∧
      (scope.attach factory value).notes = [] := by
  simp only [Scope.attach, found]
  split
  · exact ⟨Types.members_setMembers_self _ _ _, rfl⟩
  · exact ⟨Types.members_setMembers_self _ _ _, rfl⟩

/-- A registration keeps a factory in step. -/
theorem tracks_apply (scope : Scope) {initial : Members} {links : List Link}
    (tracks : Tracks initial links factory.target (scope.types.members factory.type))
    (link : Link) :
    Tracks initial (links ++ [link]) (scope.apply factory link).value.1.target
      ((scope.apply factory link).value.2.types.members factory.type) := by
  cases link with
  | constant name value =>
    simp only [apply, Logged.value_bind, Logged.value_pure, members_changeMembers]
    exact tracks.decide rfl (fun _ => rfl) ⟨rfl, .empty, Dictionary.find?_insert_self _ _ _⟩ rfl
      fun _ _ => AttributeTarget.noConfusion
  | property name property =>
    simp only [apply, Logged.value_bind, Logged.value_pure, members_changeMembers]
    exact tracks.decide rfl (fun _ => rfl)
      ⟨rfl, property.attributes, Dictionary.find?_insert_self _ _ _⟩ rfl
      fun _ _ => AttributeTarget.noConfusion
  | function name overload =>
    simp only [apply, Logged.value_pure, members_changeMembers]
    exact tracks.push name overload
  | constructor overload =>
    simp only [apply, Logged.value_pure, members_changeMembers]
    exact tracks.decide rfl (fun _ => rfl) rfl rfl fun _ _ => AttributeTarget.noConfusion
  | parent parent =>
    simp only [apply, Logged.value_pure, members_changeMembers]
    exact tracks.decide rfl (fun _ => rfl) rfl rfl fun _ _ => AttributeTarget.noConfusion
  | conversion conversion =>
    simp only [apply, Logged.value_pure, members_changeMembers]
    exact tracks.decide rfl (fun _ => rfl) rfl rfl fun _ _ => AttributeTarget.noConfusion
  | attach value =>
    obtain ⟨table, found⟩ := tracks.created.exists_attributesOf
    simp only [apply, Logged.value_bind, Logged.value_pure]
    rw [(attach_of_found scope factory value found).1]
    exact tracks.attach value _

end Scope

/-! ### Chains -/

namespace Store

variable {store : Store} {database : String} {type : Ty} {factory : Factory}

/-- Steps that follow others are carried out on what these lead to, and their notes come after. -/
theorem runSteps_append (store : Store) (database : String) (factory : Factory)
    (front back : List ChainStep) :
    let reached := (store.runSteps database factory front).value
    (store.runSteps database factory (front ++ back)).value.2 =
        (reached.2.runSteps database reached.1.2 back).value.2 ∧
      (store.runSteps database factory (front ++ back)).notes =
        (store.runSteps database factory front).notes ++
          (reached.2.runSteps database reached.1.2 back).notes := by
  induction front generalizing store factory with
  | nil => exact ⟨rfl, rfl⟩
  | cons step rest ih =>
    cases step with
    | register link =>
      obtain ⟨left, noted⟩ := ih
        (store.setScope database ((store.scope database).apply factory link).value.2)
        ((store.scope database).apply factory link).value.1
      simp only [List.cons_append, runSteps, Logged.value_bind, Logged.notes_bind]
      exact ⟨left, by rw [noted, List.append_assoc]⟩
    | info =>
      obtain ⟨left, noted⟩ := ih store factory
      simp only [List.cons_append, runSteps, Logged.value_bind, Logged.notes_bind,
        Logged.value_pure, Logged.notes_pure, List.append_nil]
      exact ⟨left, noted⟩
    | resetIn other name =>
      obtain ⟨left, noted⟩ := ih (store.reset other name).value.2 factory
      simp only [List.cons_append, runSteps, Logged.value_bind, Logged.notes_bind,
        Logged.value_pure, Logged.notes_pure, List.append_nil]
      exact ⟨left, by rw [noted, List.append_assoc]⟩

/-- A reset of a name that stands for another type, or for none, leaves the members of a type
alone. -/
theorem members_reset_of_apart {other name : String}
    (apart : (store.database other).get name ≠ some type) :
    (store.reset other name).value.2.types.members type = store.types.members type := by
  rw [types_reset]
  split
  · rename_i gone held
    have different : type ≠ gone := fun same => apart (by rw [held, same])
    rw [Types.members_reset, if_neg different]
  · rfl

/-- A change through one database that adds no names to it adds none to any. -/
theorem names_setScope {scope : Scope}
    (names : scope.database.types = (store.database database).types) (other name : String)
    (held : ((store.setScope database scope).database other).get name = some type) :
    (store.database other).get name = some type := by
  by_cases here : database = other
  · subst here
    rwa [database_setScope_self, Database.get, names] at held
  · rwa [database_setScope_of_ne here] at held

/-- What a name stands for after a reset it stood for before. -/
theorem get_of_get_reset {other name elsewhere later : String}
    (held : ((store.reset other name).value.2.database elsewhere).get later = some type) :
    (store.database elsewhere).get later = some type := by
  by_cases here : other = elsewhere
  · subst here
    rw [get_reset] at held
    split at held
    · contradiction
    · exact held
  · rwa [database_reset_of_ne here] at held

/-- Whether no reset among the steps of a chain brings a type back to its described members. Names
are never added while a factory is open, so what they stand for at first decides. -/
def Spared (store : Store) (type : Ty) (steps : List ChainStep) : Prop :=
  ∀ other name, .resetIn other name ∈ steps → (store.database other).get name ≠ some type

/-- A type that is spared at first is spared by what is left of the chain in every store that has no
other names. -/
theorem Spared.rest {step : ChainStep} {rest : List ChainStep} {after : Store}
    (spared : store.Spared type (step :: rest))
    (names : ∀ other name, (after.database other).get name = some type →
      (store.database other).get name = some type) : after.Spared type rest :=
  fun other name mem held =>
    spared other name (List.mem_cons_of_mem _ mem) (names other name held)

/-- The steps of a chain keep a factory in step with the registrations among them. -/
theorem tracks_runSteps (database : String) (factory : Factory) {initial : Members}
    {links : List Link} {steps : List ChainStep}
    (spared : store.Spared factory.type steps)
    (tracks : Tracks initial links factory.target (store.types.members factory.type)) :
    let reached := (store.runSteps database factory steps).value
    reached.1.2.type = factory.type ∧
      Tracks initial (links ++ steps.filterMap ChainStep.link?) reached.1.2.target
        (reached.2.types.members factory.type) := by
  induction steps generalizing store factory links with
  | nil => simpa using ⟨rfl, tracks⟩
  | cons step rest ih =>
    cases step with
    | register link =>
      obtain ⟨kind, names, _, _⟩ := Scope.apply_frame (store.scope database) factory link
      have stepped := Scope.tracks_apply (store.scope database) tracks link
      have spares := spared.rest (names_setScope names)
      simp only [runSteps, Logged.value_bind, List.filterMap_cons, ChainStep.link?]
      rw [List.append_cons]
      generalize (store.scope database).apply factory link = applied at *
      obtain ⟨⟨moved, scope⟩, notes⟩ := applied
      simp only at kind stepped spares ⊢
      rw [← kind] at stepped spares ⊢
      exact ih _ spares stepped
    | info => exact ih _ (spared.rest fun _ _ held => held) tracks
    | resetIn other name =>
      have kept := members_reset_of_apart (spared other name List.mem_cons_self)
      rw [← kept] at tracks
      exact ih _ (spared.rest fun elsewhere later held => get_of_get_reset held) tracks

/-- One more registration carries out what the factory that was reached makes of it. -/
theorem runSteps_concat (store : Store) (database : String) (factory : Factory)
    (steps : List ChainStep) (link : Link) :
    let reached := (store.runSteps database factory steps).value
    let applied := (reached.2.scope database).apply reached.1.2 link
    (store.runSteps database factory (steps ++ [.register link])).value.2.types =
        applied.value.2.types ∧
      (store.runSteps database factory (steps ++ [.register link])).notes =
        (store.runSteps database factory steps).notes ++ applied.notes := by
  intro reached applied
  obtain ⟨value, notes⟩ := runSteps_append store database factory steps [.register link]
  rw [value, notes]
  refine ⟨rfl, ?_⟩
  simp only [runSteps, Logged.notes_bind, Logged.notes_pure, List.append_nil]
  rfl

/-- The steps of a chain keep what is fixed about types. -/
theorem fixed_runSteps (store : Store) (database : String) (factory : Factory)
    (steps : List ChainStep) :
    (store.runSteps database factory steps).value.2.types.fixed = store.types.fixed :=
  (keeps_fixed store.types.fixed database).runSteps factory steps rfl

/-- The steps of a chain on a type that is spared leave a factory in step with the registrations
among them, and one more registration is carried out by that factory. -/
theorem exists_reached {steps : List ChainStep} (database : String)
    (spared : store.Spared type steps) :
    let run := store.runSteps database ⟨type, .type⟩ steps
    let next := fun link => store.runSteps database ⟨type, .type⟩ (steps ++ [.register link])
    ∃ target,
      Tracks (store.types.members type) (steps.filterMap ChainStep.link?) target
        (run.value.2.types.members type) ∧
      ∀ link,
        let applied := (run.value.2.scope database).apply ⟨type, target⟩ link
        (next link).value.2.types = applied.value.2.types ∧
          (next link).notes = run.notes ++ applied.notes := by
  intro run next
  obtain ⟨own, tracks⟩ := tracks_runSteps database ⟨type, .type⟩ spared
    (.start (store.types.members type))
  have factory : run.value.1.2 = ⟨type, run.value.1.2.target⟩ := congrArg (Factory.mk · _) own
  refine ⟨run.value.1.2.target, tracks, fun link => ?_⟩
  have concat := runSteps_concat store database ⟨type, .type⟩ steps link
  simp only at concat
  rw [factory] at concat
  exact concat

/-- Attributes follow registrations. Whatever a type's members are when a factory is opened on it,
and whatever the steps of a chain, if no reset among them brings the type back: every function has
the overloads it had, with their attributes, and then those registered, in order; and what was
registered last is there with a table of attributes. One more attribute goes into that table, under
the name of its type, without a note and without a change to any other table. One more constant or
property starts without attributes, one more overload with those it comes with, and neither these
nor constructors, parents and conversions change any other table. No registration changes another
type. -/
theorem attributes_follow_registrations (store : Store) (database : String) (type : Ty)
    (steps : List ChainStep) (spared : store.Spared type steps) :
    let initial := store.types.members type
    let links := steps.filterMap ChainStep.link?
    let run := store.runSteps database ⟨type, .type⟩ steps
    let next := fun link => store.runSteps database ⟨type, .type⟩ (steps ++ [.register link])
    let before := run.value.2.types.members type
    let after := fun link => (next link).value.2.types.members type
    (∀ name, Overload.Grown (initial.overloads name) (Link.overloads links name)
      (before.overloads name)) ∧
    (∃ target table, before.Created target (Link.latest? links) ∧
      before.attributesOf target = some table ∧
      ∀ value, before.Gives (after (.attach value)) target
          (table.insert (store.types.name value.type) value) ∧
        (next (.attach value)).notes = run.notes) ∧
    (∀ name value, before.Gives (after (.constant name value)) (.constant name) .empty) ∧
    (∀ name owner part get set, before.Gives
      (after (.property name ⟨owner, part, get, set, .empty⟩)) (.property name) .empty) ∧
    (∀ name overload, before.Gives (after (.function name overload))
      (.function name (before.overloads name).length) overload.attributes) ∧
    (∀ overload, before.Spares (after (.constructor overload))) ∧
    (∀ parent, before.Spares (after (.parent parent))) ∧
    (∀ conversion, before.Spares (after (.conversion conversion))) ∧
    ∀ link other, other ≠ type →
      (next link).value.2.types.members other = run.value.2.types.members other := by
  intro initial links run next before after
  obtain ⟨target, tracks, reached⟩ := exists_reached database spared
  have fixed : run.value.2.types.fixed = store.types.fixed := fixed_runSteps store _ _ steps
  have applied : ∀ link, after link = ((run.value.2.scope database).apply ⟨type, target⟩
      link).value.2.types.members type :=
    fun link => congrArg (fun types : Types => types.members type) (reached link).1
  obtain ⟨table, found⟩ := tracks.created.exists_attributesOf
  refine ⟨tracks.grown, ⟨target, table, tracks.created, found, fun value => ?attach⟩,
    ?constant, ?property, ?function, ?constructor, ?parent, ?conversion, ?others⟩
  case attach =>
    have name : run.value.2.types.name value.type = store.types.name value.type := by
      simp only [Types.name, Types.record, fixed]
    obtain ⟨attached, noted⟩ :=
      Scope.attach_of_found (run.value.2.scope database) ⟨type, target⟩ value found
    constructor
    · rw [applied]
      simp only [Scope.apply, Logged.value_bind, Logged.value_pure]
      rw [attached, ← name]
      exact Members.gives_setAttributes found _
    · have silent : ((run.value.2.scope database).apply ⟨type, target⟩ (.attach value)).notes =
          [] := by
        simp only [Scope.apply, Logged.notes_bind, Logged.notes_pure, List.append_nil]
        exact noted
      calc (next (.attach value)).notes = run.notes ++ _ := (reached (.attach value)).2
        _ = run.notes := by rw [silent, List.append_nil]
  case constant =>
    intro name value
    rw [applied]
    simp only [Scope.apply, Logged.value_bind, Logged.value_pure, Scope.members_changeMembers]
    exact Members.gives_constant before name value
  case property =>
    intro name owner part get set
    rw [applied]
    simp only [Scope.apply, Logged.value_bind, Logged.value_pure, Scope.members_changeMembers]
    exact Members.gives_property before name _
  case function =>
    intro name overload
    rw [applied]
    simp only [Scope.apply, Logged.value_pure, Scope.members_changeMembers]
    exact Members.gives_addOverload before name overload
  case constructor =>
    intro overload
    rw [applied]
    simp only [Scope.apply, Logged.value_pure, Scope.members_changeMembers]
    exact ⟨Members.attributesOf_congr rfl rfl rfl rfl, List.prefix_append _ _⟩
  case parent =>
    intro parent
    rw [applied]
    simp only [Scope.apply, Logged.value_pure, Scope.members_changeMembers]
    exact ⟨Members.attributesOf_congr rfl rfl rfl rfl, List.prefix_rfl⟩
  case conversion =>
    intro conversion
    rw [applied]
    simp only [Scope.apply, Logged.value_pure, Scope.members_changeMembers]
    exact ⟨Members.attributesOf_congr rfl rfl rfl rfl, List.prefix_rfl⟩
  case others =>
    intro link other different
    obtain ⟨_, _, _, kept⟩ := Scope.apply_frame (run.value.2.scope database) ⟨type, target⟩ link
    rw [(reached link).1]
    exact kept other different

/-- What earlier factories left behind: a function of one overload and a constant, each with an
attribute, and a second type that another database holds, too. -/
def doorStore : Store :=
  ((guardedStore.reflect "other" (.named "Gate") []).value.2.reflect "main" (.named "Door")
    [.register (.function "open" (.function [] .i32 fun _ => .integer 0)),
      .register (.attach ⟨.named "Mark", .unit⟩),
      .register (.constant "LIMIT" ⟨.i32, .integer 7⟩),
      .register (.attach ⟨.named "Mark", .unit⟩)]).value.2

/-- A constant and a property that share their name with the function, a constant that is replaced,
a reset of the second type, and two more overloads. -/
def doorSteps : List ChainStep :=
  [.register (.constant "open" ⟨.i32, .integer 1⟩), .register (.attach ⟨.named "Note", .unit⟩),
    .register (.property "open" ⟨.named "Door", .i32, fun _ => .integer 5, none, .empty⟩),
    .register (.attach ⟨.named "Note", .unit⟩),
    .register (.constant "LIMIT" ⟨.i32, .integer 8⟩), .info, .resetIn "other" "Gate",
    .register (.function "open" (.function [] .i32 fun _ => .integer 2)),
    .register (.function "open" (.function [] .i32 fun _ => .integer 3)),
    .register (.attach ⟨.named "Note", .unit⟩)]

/-- The reset spares the type, the overloads stand in order, the attributes went to the constant,
the property and the last overload of one name, the replaced constant has none, and the overload
from before has kept its own. -/
theorem doorStore_follows :
    let before := (doorStore.runSteps "main" ⟨.named "Door", .type⟩ doorSteps).value.2.types.members
      (.named "Door")
    let note : Attributes := .ofList [("Note", ⟨.named "Note", .unit⟩)]
    doorStore.Spared (.named "Door") doorSteps ∧
      Overload.Grown ((doorStore.types.members (.named "Door")).overloads "open")
        (Link.overloads (doorSteps.filterMap ChainStep.link?) "open") (before.overloads "open") ∧
      (∃ target table, before.Created target (Link.latest? (doorSteps.filterMap ChainStep.link?)) ∧
        before.attributesOf target = some table) ∧
      before.attributesOf (.constant "open") = some note ∧
      before.attributesOf (.property "open") = some note ∧
      before.attributesOf (.function "open" 2) = some note ∧
      before.attributesOf (.function "open" 1) = some .empty ∧
      before.attributesOf (.function "open" 0) =
        some (.ofList [("Mark", ⟨.named "Mark", .unit⟩)]) ∧
      before.attributesOf (.constant "LIMIT") = some .empty := by
  have spared : doorStore.Spared (.named "Door") doorSteps := by
    intro other name mem
    simp only [doorSteps, List.mem_cons, List.not_mem_nil, reduceCtorEq, ChainStep.resetIn.injEq,
      false_or, or_false] at mem
    obtain ⟨rfl, rfl⟩ := mem
    have held : (doorStore.database "other").get "Gate" = some (.named "Gate") := rfl
    rw [held]
    simp
  obtain ⟨grown, ⟨target, table, created, found, _⟩, _⟩ :=
    attributes_follow_registrations doorStore "main" (.named "Door") doorSteps spared
  exact ⟨spared, grown "open", ⟨target, table, created, found⟩, rfl, rfl, rfl, rfl, rfl, rfl⟩

end Store

end Reflection
