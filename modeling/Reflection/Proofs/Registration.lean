import Reflection.Chain

/-!
# What registration changes

A chain through a database registers one type there and changes the members of that type; what it
resets on its way, through other databases, only goes back to its described members. These are the
facts about registration and resets that arguments about whole runs need: which names a database
has afterwards, which members a type has, and that every name keeps standing for a type that has it.
-/
namespace Reflection

variable {scope : Scope} {store : Store} {type other : Ty} {name : String}

namespace Database

/-- Indexing an attribute registers nothing. -/
@[simp] theorem types_index (types : Types) (database : Database) (type : Ty) (key : String) :
    (database.index types type key).types = database.types := by
  unfold index
  split <;> rfl

/-- Indexing several attributes registers nothing. -/
theorem types_foldl_index (types : Types) (database : Database) (type : Ty)
    (keys : List String) :
    (keys.foldl (fun database key => database.index types type key) database).types =
      database.types := by
  induction keys generalizing database with
  | nil => rfl
  | cons key rest ih => rw [List.foldl_cons, ih, types_index]

/-- Registered names and registered types answer together. -/
theorem contains_eq_isSome (database : Database) (name : String) :
    database.contains name = (database.get name).isSome := rfl

end Database

namespace Scope

/-- Registering a type whose name is taken changes nothing. -/
theorem register_of_taken {existing : Ty}
    (taken : scope.database.get (scope.types.name type) = some existing) :
    (scope.register type).value = scope := by
  simp only [register, taken]
  split <;> rfl

/-- Registering a type whose name is free puts it under that name and indexes it. -/
theorem register_of_free (free : scope.database.get (scope.types.name type) = none) :
    (scope.register type).value =
      { scope with
        database := (scope.types.members type).attributes.names.foldl
          (fun database key => database.index scope.types type key)
          { scope.database with
            types := scope.database.types.insert (scope.types.name type) type } } := by
  simp only [register, free]
  rfl

/-- Registering a type changes no members. -/
@[simp] theorem types_register : (scope.register type).value.types = scope.types := by
  cases taken : scope.database.get (scope.types.name type) with
  | some existing => rw [register_of_taken taken]
  | none => rw [register_of_free taken]

/-- Registering a type makes it reachable by its name, unless the name is taken. -/
theorem get_register :
    (scope.register type).value.database.get name =
      if scope.types.name type = name then some ((scope.database.get name).getD type)
      else scope.database.get name := by
  cases taken : scope.database.get (scope.types.name type) with
  | some existing =>
    rw [register_of_taken taken]
    by_cases same : scope.types.name type = name
    · subst same
      simp [taken]
    · simp [same]
  | none =>
    rw [register_of_free taken]
    simp only [Database.get, Database.types_foldl_index, Dictionary.find?_insert]
    by_cases same : scope.types.name type = name
    · subst same
      have free : scope.database.types.find? (scope.types.name type) = none := taken
      simp [free]
    · simp [same]

/-- What stands under a name after a type was registered stood there before, or it is the type under
its own name, which was free. -/
theorem get_register_cases {found : Ty}
    (looked : (scope.register type).value.database.get name = some found) :
    scope.database.get name = some found ∨
      (scope.types.name type = name ∧ found = type ∧ scope.database.get name = none) := by
  rw [get_register] at looked
  split at looked
  · rename_i same
    cases taken : scope.database.get name with
    | none =>
      rw [taken] at looked
      exact .inr ⟨same, (Option.some.inj looked).symm, rfl⟩
    | some existing =>
      rw [taken] at looked
      exact .inl looked
  · exact .inl looked

/-- Attaching an attribute changes the members of the factory's type alone and registers
nothing. -/
theorem attach_frame (scope : Scope) (factory : Factory) (value : Typed) :
    (scope.attach factory value).value.database.types = scope.database.types ∧
      (scope.attach factory value).value.types.fixed = scope.types.fixed ∧
      ∀ other, other ≠ factory.type →
        (scope.attach factory value).value.types.members other = scope.types.members other := by
  simp only [attach]
  cases (scope.types.members factory.type).attributesOf factory.target with
  | none => exact ⟨rfl, rfl, fun _ _ => rfl⟩
  | some attributes =>
    have kept : ∀ members other, other ≠ factory.type →
        (scope.types.setMembers factory.type members).members other =
          scope.types.members other :=
      fun members other different => Types.members_setMembers_of_ne _ members different
    by_cases whole : factory.target = .type
    · simp only [if_pos whole]
      exact ⟨Database.types_index _ _ _ _, rfl, kept _⟩
    · simp only [if_neg whole]
      exact ⟨rfl, rfl, kept _⟩

/-- One registration changes the members of the factory's type alone, registers nothing, and leaves
the factory on its type. -/
theorem apply_frame (scope : Scope) (factory : Factory) (link : Link) :
    (scope.apply factory link).value.1.type = factory.type ∧
      (scope.apply factory link).value.2.database.types = scope.database.types ∧
      (scope.apply factory link).value.2.types.fixed = scope.types.fixed ∧
      ∀ other, other ≠ factory.type →
        (scope.apply factory link).value.2.types.members other = scope.types.members other := by
  have kept : ∀ change other, other ≠ factory.type →
      (scope.changeMembers factory.type change).types.members other =
        scope.types.members other :=
    fun change other different => Types.members_setMembers_of_ne _ _ different
  cases link with
  | constant name value => exact ⟨rfl, rfl, rfl, kept _⟩
  | property name property => exact ⟨rfl, rfl, rfl, kept _⟩
  | function name overload => exact ⟨rfl, rfl, rfl, kept _⟩
  | constructor overload => exact ⟨rfl, rfl, rfl, kept _⟩
  | parent parent => exact ⟨rfl, rfl, rfl, kept _⟩
  | conversion conversion => exact ⟨rfl, rfl, rfl, kept _⟩
  | attach value => exact ⟨rfl, attach_frame scope factory value⟩

/-- Resetting a name leaves it without a type. -/
theorem get_reset (other : String) :
    (scope.reset name).value.2.database.get other =
      if name = other then none else scope.database.get other := by
  unfold reset Database.remove
  cases found : scope.database.get name with
  | none =>
    by_cases same : name = other
    · subst same
      simp [found]
    · simp [same]
  | some type =>
    simp only [Option.map_some, Logged.value_bind, Logged.value_pure]
    exact Dictionary.find?_erase scope.database.types name other

/-- Whether a reset finds its name registered. -/
theorem fst_reset : (scope.reset name).value.1 = scope.database.contains name := by
  rw [Database.contains_eq_isSome]
  unfold reset Database.remove
  cases scope.database.get name with
  | none => rfl
  | some type => rfl

/-- A reset gives its type the described members and touches no other. -/
theorem types_reset :
    (scope.reset name).value.2.types =
      match scope.database.get name with
      | some type => scope.types.reset type
      | none => scope.types := by
  unfold reset Database.remove
  cases scope.database.get name with
  | none => rfl
  | some type => rfl

end Scope

namespace Types

/-- A reset gives a type its described members and changes no other. -/
theorem members_reset (types : Types) (type other : Ty) :
    (types.reset type).members other =
      if other = type then types.fixed.described type else types.members other := rfl

/-- A reset leaves every type with the members it had or with those described. -/
theorem members_reset_or (types : Types) (type other : Ty) :
    (types.reset type).members other = types.members other ∨
      (types.reset type).members other = types.fixed.described other := by
  rw [members_reset]
  split
  · rename_i same
    subst same
    exact .inr rfl
  · exact .inl rfl

end Types

namespace Store

variable {database : String}

/-- A database that was set is found. -/
@[simp] theorem database_setScope_self :
    (store.setScope database scope).database database = scope.database := by
  simp [setScope, Store.database]

/-- Setting one database leaves every other alone. -/
theorem database_setScope_of_ne {elsewhere : String} (different : database ≠ elsewhere) :
    (store.setScope database scope).database elsewhere = store.database elsewhere := by
  simp [setScope, Store.database, Dictionary.find?_insert_of_ne _ _ different]

/-- Whether a reset finds its name registered. -/
theorem fst_reset : (store.reset database name).value.1 = (store.database database).contains name :=
  Scope.fst_reset

/-- Resetting a name leaves it without a type in that database. -/
theorem get_reset (other : String) :
    ((store.reset database name).value.2.database database).get other =
      if name = other then none else (store.database database).get other := by
  simp only [reset, Logged.value_bind, Logged.value_pure, database_setScope_self]
  exact Scope.get_reset other

/-- Resetting a name in one database leaves every other database alone. -/
theorem database_reset_of_ne {elsewhere : String} (different : database ≠ elsewhere) :
    (store.reset database name).value.2.database elsewhere = store.database elsewhere := by
  simp only [reset, Logged.value_bind, Logged.value_pure]
  exact database_setScope_of_ne different

/-- A reset gives the type of its name the described members and touches no other. -/
theorem types_reset :
    (store.reset database name).value.2.types =
      match (store.database database).get name with
      | some type => store.types.reset type
      | none => store.types :=
  Scope.types_reset

/-- A reset keeps what is fixed about types. -/
@[simp] theorem fixed_reset (store : Store) (database name : String) :
    (store.reset database name).value.2.types.fixed = store.types.fixed := by
  rw [types_reset]
  split <;> rfl

/-- A reset leaves every type with the members it had or with those described. -/
theorem members_reset_or (type : Ty) :
    (store.reset database name).value.2.types.members type = store.types.members type ∨
      (store.reset database name).value.2.types.members type =
        store.types.fixed.described type := by
  rw [types_reset]
  split
  · exact Types.members_reset_or store.types _ type
  · exact .inl rfl

end Store

/-! ### Chains -/

/-- Whether a step of a chain leaves the registrations of a database alone. While a factory is open
its database cannot be reset, so no step that is ever carried out fails this. -/
def ChainStep.Spares (database : String) : ChainStep → Prop
  | .resetIn other _ => other ≠ database
  | .register _ | .info => True

namespace Store

variable {database : String}

/-- What steps on the factory of a type keep: the names of the database, what is fixed, and the
members of every other type, unless these go back to the described ones. -/
structure Extended (before after : Store) (database : String) (type : Ty) : Prop where
  fixed : after.types.fixed = before.types.fixed
  names : ∀ name, (after.database database).get name = (before.database database).get name
  others : ∀ other, other ≠ type →
    after.types.members other = before.types.members other ∨
      after.types.members other = before.types.fixed.described other

/-- Doing nothing keeps everything. -/
theorem Extended.refl (store : Store) (database : String) (type : Ty) :
    store.Extended store database type :=
  ⟨rfl, fun _ => rfl, fun _ _ => .inl rfl⟩

/-- What two sequences of steps keep is kept by both in turn. -/
theorem Extended.trans {first second third : Store} (front : first.Extended second database type)
    (back : second.Extended third database type) : first.Extended third database type where
  fixed := back.fixed.trans front.fixed
  names name := (back.names name).trans (front.names name)
  others other different := by
    rcases back.others other different with same | described
    · rw [same]
      exact front.others other different
    · rw [described, front.fixed]
      exact .inr rfl

/-- The steps of a chain that spares a database extend the type of the factory. -/
theorem extended_runSteps (store : Store) (factory : Factory) {chain : List ChainStep}
    (spares : ∀ step ∈ chain, step.Spares database) :
    store.Extended (store.runSteps database factory chain).value.2 database factory.type := by
  induction chain generalizing store factory with
  | nil => exact .refl store database factory.type
  | cons step rest ih =>
    obtain ⟨first, later⟩ := List.forall_mem_cons.1 spares
    cases step with
    | register link =>
      simp only [runSteps, Logged.value_bind]
      obtain ⟨kind, names, fixed, others⟩ :=
        Scope.apply_frame (store.scope database) factory link
      generalize (store.scope database).apply factory link = applied at *
      obtain ⟨⟨next, scope⟩, notes⟩ := applied
      simp only at kind names fixed others ⊢
      rw [← kind] at others ⊢
      have front : store.Extended (store.setScope database scope) database next.type := by
        refine ⟨fixed, fun name => ?_, fun other different => .inl (others other different)⟩
        rw [database_setScope_self, Database.get, names]
        rfl
      exact front.trans (ih _ next later)
    | info => exact ih store factory later
    | resetIn elsewhere name =>
      simp only [runSteps, Logged.value_bind, Logged.value_pure]
      have front : store.Extended (store.reset elsewhere name).value.2 database factory.type := by
        refine ⟨fixed_reset store elsewhere name, fun other => ?_, fun other _ => ?_⟩
        · rw [database_reset_of_ne first]
        · exact members_reset_or other
      exact front.trans (ih _ factory later)

/-- A chain that spares its database registers its type there, unless the name is taken. -/
theorem get_reflect {chain : List ChainStep} (spares : ∀ step ∈ chain, step.Spares database) :
    ((store.reflect database type chain).value.2.database database).get name =
      if store.types.name type = name then some (((store.database database).get name).getD type)
      else (store.database database).get name := by
  simp only [reflect, Scope.reflect, Logged.value_bind, Logged.value_pure]
  rw [(extended_runSteps _ _ spares).names, database_setScope_self]
  exact Scope.get_register

/-- A chain keeps what is fixed about types. -/
theorem fixed_reflect (store : Store) (type : Ty) {chain : List ChainStep}
    (spares : ∀ step ∈ chain, step.Spares database) :
    (store.reflect database type chain).value.2.types.fixed = store.types.fixed := by
  simp only [reflect, Scope.reflect, Logged.value_bind, Logged.value_pure]
  rw [(extended_runSteps _ _ spares).fixed]
  exact congrArg Types.fixed Scope.types_register

/-- A chain leaves every type but its own with the members it had or with those described. -/
theorem members_reflect_or (store : Store) {chain : List ChainStep}
    (spares : ∀ step ∈ chain, step.Spares database) (different : other ≠ type) :
    (store.reflect database type chain).value.2.types.members other =
        store.types.members other ∨
      (store.reflect database type chain).value.2.types.members other =
        store.types.fixed.described other := by
  have kept : (store.setScope database ((store.scope database).register type).value).types =
      store.types := Scope.types_register
  have extended := extended_runSteps
    (store.setScope database ((store.scope database).register type).value) ⟨type, .type⟩ spares
  have others := extended.others other different
  rw [kept] at others
  exact others

/-! ### What every change keeps -/

/-- A property of stores that every change through a database keeps: a type is registered there, a
factory on it carries out one registration, or a name is reset, there or in another database. -/
structure Keeps (kept : Store → Prop) (database : String) : Prop where
  register : ∀ store type, kept store →
    kept (store.setScope database ((store.scope database).register type).value)
  apply : ∀ store factory link, kept store →
    kept (store.setScope database ((store.scope database).apply factory link).value.2)
  reset : ∀ store other name, kept store → kept (store.reset other name).value.2

namespace Keeps

variable {kept : Store → Prop}

/-- What single steps keep, the steps of a chain keep. -/
theorem runSteps (keeps : Keeps kept database) (factory : Factory) (chain : List ChainStep)
    (start : kept store) : kept (store.runSteps database factory chain).value.2 := by
  induction chain generalizing store factory with
  | nil => exact start
  | cons step rest ih =>
    cases step with
    | register link => exact ih _ (keeps.apply store factory link start)
    | info => exact ih factory start
    | resetIn other name => exact ih factory (keeps.reset store other name start)

/-- What registration and single steps keep, a factory keeps. -/
theorem reflect (keeps : Keeps kept database) (type : Ty) (chain : List ChainStep)
    (start : kept store) : kept (store.reflect database type chain).value.2 :=
  keeps.runSteps _ chain (keeps.register store type start)

end Keeps

/-- The stores that registrations and resets lead to from the one in which nothing is registered. -/
inductive Reachable (fixed : Universe) : Store → Prop where
  | fresh : Reachable fixed (.fresh fixed)
  | reflect {store : Store} (reached : Reachable fixed store) (database : String) (type : Ty)
      (chain : List ChainStep) : Reachable fixed (store.reflect database type chain).value.2
  | reset {store : Store} (reached : Reachable fixed store) (database name : String) :
      Reachable fixed (store.reset database name).value.2

/-- What changes through every database keep holds in every store that can be reached, if it holds
at first. -/
theorem Reachable.keeps {fixed : Universe} {kept : Store → Prop} (reached : Reachable fixed store)
    (keeps : ∀ database, Keeps kept database) (start : kept (Store.fresh fixed)) :
    kept store := by
  induction reached with
  | fresh => exact start
  | reflect _ database type chain ih => exact (keeps database).reflect type chain ih
  | reset _ database name ih => exact (keeps database).reset _ database name ih

/-- No change touches what is fixed about types. -/
theorem keeps_fixed (fixed : Universe) (database : String) :
    Keeps (·.types.fixed = fixed) database where
  register store type same := (congrArg Types.fixed Scope.types_register).trans same
  apply store factory link same := by
    obtain ⟨_, _, kept, _⟩ := Scope.apply_frame (store.scope database) factory link
    exact kept.trans same
  reset store other name same := (fixed_reset store other name).trans same

/-- What is fixed about types stays fixed. -/
theorem Reachable.fixed {fixed : Universe} (reached : Reachable fixed store) :
    store.types.fixed = fixed :=
  reached.keeps (keeps_fixed fixed) rfl

/-! ### Names and their types -/

/-- Every registered name stands for a type that has it. -/
def Named (store : Store) : Prop :=
  ∀ database name type, (store.database database).get name = some type →
    store.types.name type = name

/-- The name of a type is fixed. -/
theorem name_eq_of_fixed {before after : Store} (fixed : after.types.fixed = before.types.fixed)
    (type : Ty) : after.types.name type = before.types.name type := by
  simp only [Types.name, Types.record, fixed]

/-- Nothing is registered at first. -/
theorem named_fresh (fixed : Universe) : (fresh fixed).Named := by
  intro database name type found
  have missing : ((fresh fixed).database database).get name = none := rfl
  rw [missing] at found
  contradiction

/-- A store stays named if one of its databases is replaced by one with names of its types. -/
theorem Named.setScope (named : store.Named) (fixed : scope.types.fixed = store.types.fixed)
    (own : ∀ name type, scope.database.get name = some type → store.types.name type = name) :
    (store.setScope database scope).Named := by
  intro elsewhere name type found
  have kept : (store.setScope database scope).types.fixed = store.types.fixed := fixed
  have same := name_eq_of_fixed kept type
  rw [same]
  by_cases here : database = elsewhere
  · subst here
    rw [database_setScope_self] at found
    exact own name type found
  · rw [database_setScope_of_ne here] at found
    exact named elsewhere name type found

/-- No change gives a name to a type that does not have it. -/
theorem keeps_named (database : String) : Keeps Named database where
  register store type named := by
    refine named.setScope (congrArg Types.fixed Scope.types_register) fun name found looked => ?_
    rcases Scope.get_register_cases looked with before | ⟨same, rfl, _⟩
    · exact named database name found before
    · exact same
  apply store factory link named := by
    obtain ⟨_, names, fixed, _⟩ := Scope.apply_frame (store.scope database) factory link
    refine named.setScope fixed fun name type found => ?_
    rw [Database.get, names] at found
    exact named database name type found
  reset store elsewhere name named := by
    have fixed : ((store.scope elsewhere).reset name).value.2.types.fixed = store.types.fixed :=
      fixed_reset store elsewhere name
    refine named.setScope fixed fun other type found => ?_
    rw [Scope.get_reset] at found
    split at found
    · contradiction
    · exact named elsewhere other type found

/-- Every name in a store that registrations lead to stands for a type that has it. -/
theorem Reachable.named {fixed : Universe} (reached : Reachable fixed store) : store.Named :=
  reached.keeps keeps_named (named_fresh fixed)

/-! ### Unregistered types -/

/-- Every type that a database does not hold has the members described for it. -/
def Pristine (store : Store) (database : String) : Prop :=
  ∀ type, (store.database database).get (store.types.name type) ≠ some type →
    store.types.members type = store.types.fixed.described type

/-- A database holds known types only, under their names, and types it does not hold have their
described members. -/
structure Tidy (store : Store) (database : String) (fixed : Universe) (known : Ty → Prop) :
    Prop where
  fixed : store.types.fixed = fixed
  known : ∀ name type, (store.database database).get name = some type → known type
  named : ∀ name type, (store.database database).get name = some type →
    store.types.name type = name
  pristine : store.Pristine database

/-- Resetting a name leaves a store tidy. -/
theorem Tidy.reset {fixed : Universe} {known : Ty → Prop} (tidy : store.Tidy database fixed known)
    (name : String) : (store.reset database name).value.2.Tidy database fixed known := by
  have names := name_eq_of_fixed (fixed_reset store database name)
  have earlier : ∀ other type,
      ((store.reset database name).value.2.database database).get other = some type →
        (store.database database).get other = some type := by
    intro other type found
    rw [get_reset] at found
    split at found
    · contradiction
    · exact found
  constructor
  case fixed => exact (fixed_reset store database name).trans tidy.fixed
  case known => exact fun other type found => tidy.known other type (earlier other type found)
  case named =>
    intro other type found
    rw [names]
    exact tidy.named other type (earlier other type found)
  case pristine =>
    intro type missing
    rw [names, get_reset] at missing
    rw [types_reset]
    by_cases held : (store.database database).get (store.types.name type) = some type
    · -- The type was held, so its name is the one that was reset.
      have same : name = store.types.name type := by
        refine Decidable.byContradiction fun different => ?_
        rw [if_neg different] at missing
        exact missing held
      rw [same, held]
      simp [Types.reset]
    · have described := tidy.pristine type held
      cases (store.database database).get name with
      | none => exact described
      | some gone =>
        rcases Types.members_reset_or store.types gone type with unchanged | back
        · exact unchanged.trans described
        · exact back

/-- Registering a known type leaves a store tidy, if no two known types share a name. -/
theorem Tidy.reflect {fixed : Universe} {known : Ty → Prop}
    (tidy : store.Tidy database fixed known)
    (distinct : ∀ left right, known left → known right →
      (fixed.record left).name = (fixed.record right).name → left = right)
    (familiar : known type) {chain : List ChainStep}
    (spares : ∀ step ∈ chain, step.Spares database) :
    (store.reflect database type chain).value.2.Tidy database fixed known := by
  have names := name_eq_of_fixed (fixed_reflect store type spares)
  -- Whatever is held afterwards was held before or is the type itself.
  have held : ∀ name found,
      ((store.reflect database type chain).value.2.database database).get name = some found →
        (store.database database).get name = some found ∨
          (store.types.name type = name ∧ found = type ∧
            (store.database database).get name = none) := by
    intro name found looked
    rw [get_reflect spares] at looked
    have registered : ((store.scope database).register type).value.database.get name =
        some found := Scope.get_register.trans looked
    exact Scope.get_register_cases registered
  constructor
  case fixed => exact (fixed_reflect store type spares).trans tidy.fixed
  case known =>
    intro name found looked
    rcases held name found looked with earlier | ⟨_, rfl, _⟩
    · exact tidy.known name found earlier
    · exact familiar
  case named =>
    intro name found looked
    rw [names]
    rcases held name found looked with earlier | ⟨same, rfl, _⟩
    · exact tidy.named name found earlier
    · exact same
  case pristine =>
    intro other missing
    rw [names, get_reflect spares] at missing
    rw [fixed_reflect store type spares]
    have free : (store.database database).get (store.types.name other) ≠ some other := by
      intro earlier
      rw [earlier] at missing
      simp at missing
    have different : other ≠ type := by
      rintro rfl
      rw [if_pos rfl] at missing
      cases taken : (store.database database).get (store.types.name other) with
      | none => simp [taken] at missing
      | some existing =>
        -- The name can only be taken by the type itself.
        have shared := tidy.named _ _ taken
        simp only [Types.name, Types.record, tidy.fixed] at shared
        have same := distinct existing other (tidy.known _ _ taken) familiar shared
        exact free (same ▸ taken)
    have described := tidy.pristine other free
    rcases members_reflect_or store spares different with unchanged | back
    · exact unchanged.trans described
    · exact back

end Store

end Reflection
