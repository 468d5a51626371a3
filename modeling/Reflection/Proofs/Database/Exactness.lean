import Reflection.Database.Run
import Reflection.Proofs.Database.Index

/-!
# Exact indexes

Type records are shared by all databases, so a reset through one database changes attributes that
another has indexed. While types change through one database alone this cannot happen, and its
index is exact: it lists a registered type under exactly the attributes its record has. Each kind
of change keeps this, since attributes and index change together; a type whose name is taken by
another gains attributes, but is not registered and never listed.
-/
namespace Reflection

namespace Scope

variable {scope : Scope} {name : String} {type : Ty}

/-- While a type is registered, it is listed under the attributes it has and under no others. -/
def ListsExactly (scope : Scope) (type : Ty) : Prop :=
  ∀ name, scope.database.get name = some type → ∀ key,
    type ∈ scope.database.bucket key ↔ (scope.types.members type).attributes.contains key = true

namespace ListsExactly

/-- A type that is registered brings the attributes it already has. -/
theorem register (exactly : scope.ListsExactly type) (indexed : scope.database.Indexed scope.types)
    (other : Ty) : (scope.register other).value.ListsExactly type := by
  intro name looked key
  rw [mem_bucket_register, types_register]
  rcases get_register_cases looked with before | ⟨same, rfl, free⟩
  · rw [exactly name before]
    constructor
    · rintro (listed | ⟨rfl, carries, _⟩)
      · exact listed
      · exact carries
    · exact .inl
  · rw [same]
    have unlisted : type ∉ scope.database.bucket key := by
      intro listed
      have held := indexed.registered key type listed
      rw [same, free] at held
      contradiction
    simp [unlisted, free]

/-- A registration that attaches an attribute to a type indexes it, if the type is registered; every
other leaves attributes and index alone. -/
theorem apply (exactly : scope.ListsExactly type)
    (named : ∀ name type, scope.database.get name = some type → scope.types.name type = name)
    (factory : Factory) (link : Link) :
    (scope.apply factory link).value.2.ListsExactly type := by
  intro name found key
  obtain ⟨_, registered, _⟩ := apply_frame scope factory link
  rw [Database.get, registered, ← Database.get] at found
  have listed := exactly name found key
  rcases apply_attributes scope factory link with ⟨_, same, kept⟩ | ⟨value, _, index, gained⟩
  · rw [same, kept]
    exact listed
  · rw [index, gained, Database.mem_bucket_index, listed]
    by_cases own : type = factory.type
    · subst own
      have held := found
      rw [← named name _ found] at held
      simp only [if_true, Dictionary.contains, Dictionary.find?_insert]
      by_cases same : scope.types.name value.type = key
      · simp [same, held]
      · simp [same]
    · simp [own]

/-- A reset takes the attributes of its type and its places in the index together. -/
theorem reset (exactly : scope.ListsExactly type)
    (named : ∀ name type, scope.database.get name = some type → scope.types.name type = name)
    (name : String) : (scope.reset name).value.2.ListsExactly type := by
  rcases reset_cases scope name with ⟨_, same⟩ | ⟨gone, rest, removed, changed⟩
  · rwa [same]
  rw [changed]
  intro other found key
  rw [Database.get_remove removed] at found
  split at found
  · contradiction
  rename_i different
  -- A type is registered under its own name alone, so what stays is not what went.
  have remains : type ≠ gone := by
    rintro rfl
    have own := named name type (Database.get_of_remove removed)
    exact different (own.symm.trans (named other type found))
  rw [Database.bucket_remove removed, List.mem_filter, exactly other found, Types.members_reset,
    if_neg remains]
  simp [remains]

end ListsExactly

/-- The index of a database says exactly which registered types have which attributes. -/
structure ExactIndex (scope : Scope) : Prop where
  /-- Every registered name stands for a type that has it. -/
  named : ∀ name type, scope.database.get name = some type → scope.types.name type = name
  /-- A registered type is listed under the attributes it has and under no others. -/
  exact : ∀ name type, scope.database.get name = some type → ∀ key,
    type ∈ scope.database.bucket key ↔ (scope.types.members type).attributes.contains key = true
  /-- Only registered types are listed, each once, and no bucket is empty. -/
  indexed : scope.database.Indexed scope.types

namespace ExactIndex

/-- Nothing is registered and nothing listed at first. -/
theorem described (fixed : Universe) : ExactIndex ⟨.described fixed, .empty⟩ where
  named _ _ found := by contradiction
  exact _ _ found := by contradiction
  indexed := .empty _

/-- Every type is listed exactly. -/
theorem listsExactly (exactly : scope.ExactIndex) (type : Ty) : scope.ListsExactly type :=
  fun name => exactly.exact name type

/-- A type that is registered brings the attributes it already has. -/
theorem register (exactly : scope.ExactIndex) (type : Ty) :
    (scope.register type).value.ExactIndex := by
  constructor
  case named =>
    intro name found looked
    rw [types_register]
    rcases get_register_cases looked with before | ⟨same, rfl, _⟩
    · exact exactly.named name found before
    · exact same
  case exact =>
    exact fun name found => (exactly.listsExactly found).register exactly.indexed type name
  case indexed =>
    rw [types_register]
    exact indexed_register scope exactly.indexed type

/-- A registration changes attributes and index together. -/
theorem apply (exactly : scope.ExactIndex) (factory : Factory) (link : Link) :
    (scope.apply factory link).value.2.ExactIndex := by
  obtain ⟨_, registered, fixed, _⟩ := apply_frame scope factory link
  constructor
  case named =>
    intro name type found
    rw [Database.get, registered] at found
    simp only [Types.name, Types.record, fixed]
    exact exactly.named name type found
  case exact =>
    exact fun name type => (exactly.listsExactly type).apply exactly.named factory link name
  case indexed =>
    exact (indexed_apply scope exactly.indexed factory link).of_fixed fixed

/-- A reset changes attributes and index together. -/
theorem reset (exactly : scope.ExactIndex) (name : String) :
    (scope.reset name).value.2.ExactIndex := by
  have fixed : (scope.reset name).value.2.types.fixed = scope.types.fixed := by
    rw [types_reset]
    split <;> rfl
  constructor
  case named =>
    intro other type found
    rw [get_reset] at found
    split at found
    · contradiction
    · simp only [Types.name, Types.record, fixed]
      exact exactly.named other type found
  case exact =>
    exact fun other type => (exactly.listsExactly type).reset exactly.named name other
  case indexed => exact (indexed_reset scope exactly.indexed name).of_fixed fixed

end ExactIndex

end Scope

namespace Store

variable {store : Store} {database : String}

/-- What every change through a database keeps, every run over it keeps. -/
theorem Keeps.after {kept : Store → Prop} (keeps : Keeps kept database) (start : kept store)
    (operations : List DatabaseOperation) : kept (store.after database operations) := by
  induction operations generalizing store with
  | nil => exact start
  | cons operation rest ih =>
    cases operation with
    | reflect type chain => exact ih (keeps.reflect type chain start)
    | reset name => exact ih (keeps.reset store database name start)

/-- Types change through one database alone: no other database has any, and the index of this one
is exact. -/
structure Sole (store : Store) (database : String) : Prop where
  exactly : (store.scope database).ExactIndex
  apart : ∀ other, database ≠ other → ∀ name, (store.database other).get name = none

namespace Sole

/-- Nothing is registered at first. -/
theorem fresh (fixed : Universe) (database : String) : (Store.fresh fixed).Sole database where
  exactly := .described fixed
  apart _ _ _ := rfl

/-- A change through the one database leaves the others without types. -/
theorem setScope (sole : store.Sole database) {scope : Scope} (exactly : scope.ExactIndex) :
    (store.setScope database scope).Sole database := by
  have back : (store.setScope database scope).scope database = scope := by
    rw [Store.scope, database_setScope_self]
    rfl
  constructor
  case exactly => rwa [back]
  case apart =>
    intro other different name
    rw [database_setScope_of_ne different]
    exact sole.apart other different name

/-- A reset through any database keeps the index exact: through another it finds nothing. -/
theorem reset (sole : store.Sole database) (other name : String) :
    (store.reset other name).value.2.Sole database := by
  by_cases here : database = other
  · subst here
    exact sole.setScope (sole.exactly.reset name)
  · have nothing : ((store.scope other).reset name).value.2 = store.scope other := by
      rcases Scope.reset_cases (store.scope other) name with
        ⟨_, same⟩ | ⟨type, rest, removed, _⟩
      · exact same
      · have found : (store.database other).get name = some type :=
          Database.get_of_remove removed
        rw [sole.apart other here] at found
        contradiction
    have kept : ∀ elsewhere, ((store.reset other name).value.2).database elsewhere =
        store.database elsewhere := by
      intro elsewhere
      simp only [Store.reset, Logged.value_bind, Logged.value_pure, nothing]
      by_cases there : other = elsewhere
      · subst there
        exact database_setScope_self
      · exact database_setScope_of_ne there
    have types : ((store.reset other name).value.2).types = store.types :=
      congrArg Scope.types nothing
    constructor
    case exactly =>
      rw [Store.scope, kept, types]
      exact sole.exactly
    case apart =>
      intro elsewhere different
      rw [kept]
      exact sole.apart elsewhere different

/-- Every change through the one database keeps its index exact. -/
theorem keeps (database : String) : Keeps (·.Sole database) database where
  register _ type sole := sole.setScope (sole.exactly.register type)
  apply _ factory link sole := sole.setScope (sole.exactly.apply factory link)
  reset _ other name sole := sole.reset other name

/-- Every run over one database keeps its index exact. -/
theorem after (sole : store.Sole database) (operations : List DatabaseOperation) :
    (store.after database operations).Sole database :=
  (keeps database).after sole operations

end Sole

/-- A factory attaches attributes to the record of its type, whether the type is registered or
not. -/
theorem attributes_reflect_attach (store : Store) (database : String) (type : Ty)
    (value : Typed) :
    ((store.reflect database type [.register (.attach value)]).value.2.types.members
        type).attributes =
      (store.types.members type).attributes.insert (store.types.name value.type) value := by
  simp only [reflect, Scope.reflect, runSteps, Scope.apply, Scope.attach, Members.attributesOf,
    Logged.value_bind, Logged.value_pure, scope, setScope, if_true, Members.setAttributes,
    Types.members_setMembers_self, Scope.types_register]

/-- The index of a database is exact. Whatever is done through one database, starting from
described types: factories on any types with any chains, among them types that share a name, and
resets. Every registered name stands for a type of that name, a registered type is listed under
exactly the attributes its record has, and no bucket is empty or lists a type that is not
registered. A type whose name another type has taken is listed nowhere, and a factory on it still
attaches attributes to its record without listing it. -/
theorem after_index_exact (fixed : Universe) (database : String)
    (operations : List DatabaseOperation) :
    let store := (fresh fixed).after database operations
    (store.scope database).ExactIndex ∧
      ∀ type first, (store.database database).get (store.types.name type) = some first →
        first ≠ type → (∀ key, type ∉ (store.database database).bucket key) ∧
          ∀ value, let next := (store.reflect database type [.register (.attach value)]).value.2
            (next.types.members type).attributes.find? (next.types.name value.type) = some value ∧
              ∀ key, type ∉ (next.database database).bucket key := by
  intro store
  have sole : store.Sole database := (Sole.fresh fixed database).after operations
  have unlisted : ∀ {store : Store} {type first : Ty}, store.Sole database →
      (store.database database).get (store.types.name type) = some first → first ≠ type →
        ∀ key, type ∉ (store.database database).bucket key := by
    intro store type first sole taken different key listed
    have held := sole.exactly.indexed.registered key type listed
    exact different (Option.some.inj (taken.symm.trans held))
  refine ⟨sole.exactly, fun type first taken different => ?_⟩
  refine ⟨unlisted sole taken different, fun value => ?_⟩
  intro next
  have spares : ∀ step ∈ [ChainStep.register (.attach value)], step.Spares database := by
    simp [ChainStep.Spares]
  have names : ∀ other, next.types.name other = store.types.name other :=
    name_eq_of_fixed (fixed_reflect store type spares)
  constructor
  · rw [attributes_reflect_attach, names]
    exact Dictionary.find?_insert_self _ _ _
  · refine unlisted ((Sole.keeps database).reflect type _ sole) ?_ different
    rw [names, get_reflect spares, if_pos rfl, taken]
    rfl

end Store

end Reflection
