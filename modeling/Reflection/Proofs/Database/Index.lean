import Reflection.Proofs.Registration

/-!
# The attribute index

A database keeps its index beside the types: a bucket for an attribute name with the registered
types that carry it. Three operations touch it, and each has one law here that says what the
buckets hold afterwards: a type that is registered brings all attributes it has, an attribute that
is attached to a type brings one more, and a reset takes its type out of every bucket.
`Database.Indexed` is what these keep of the index alone, in every store. While types change
through one database alone, the index is exact as well (`Scope.ExactIndex`).
-/
namespace Reflection

variable {types other : Types} {database rest : Database} {scope : Scope} {store : Store}
  {type : Ty} {key name : String}

namespace Database

/-! ### Buckets -/

/-- A bucket holds a type that was added and what it held before. -/
theorem mem_addToBucket {another : Ty} {bucket : List Ty} :
    another ∈ addToBucket type bucket ↔ another ∈ bucket ∨ another = type := by
  unfold addToBucket
  split
  · rename_i present
    constructor
    · exact .inl
    · rintro (before | rfl)
      · exact before
      · exact present
  · simp

/-- Adding to a bucket lists no type twice. -/
theorem nodup_addToBucket {bucket : List Ty} (once : bucket.Nodup) :
    (addToBucket type bucket).Nodup := by
  unfold addToBucket
  split
  · exact once
  · rename_i absent
    refine List.nodup_append.2 ⟨once, by simp, ?_⟩
    rintro another present _ last rfl
    rw [List.mem_singleton.1 last] at present
    exact absent present

/-- The buckets after one attribute of a type was indexed. -/
theorem find?_buckets_index (added : String) :
    (database.index types type added).buckets.find? key =
      if database.get (types.name type) = some type ∧ added = key then
        some (addToBucket type (database.bucket key))
      else database.buckets.find? key := by
  unfold index
  by_cases held : database.get (types.name type) = some type
  · rw [if_pos held, Dictionary.find?_insert]
    by_cases same : added = key
    · subst same
      simp [held]
    · simp [same]
  · simp [held]

/-- What a bucket lists after one attribute of a type was indexed. -/
theorem mem_bucket_index {another : Ty} (added : String) :
    another ∈ (database.index types type added).bucket key ↔
      another ∈ database.bucket key ∨
        (another = type ∧ added = key ∧ database.get (types.name type) = some type) := by
  rw [Database.bucket, find?_buckets_index]
  split
  · rename_i reached
    simp [mem_addToBucket, reached]
  · rename_i missed
    constructor
    · exact .inl
    · rintro (before | ⟨_, same, held⟩)
      · exact before
      · exact absurd ⟨held, same⟩ missed

/-- What a bucket lists after several attributes of a type were indexed. -/
theorem mem_bucket_foldl_index {another : Ty} (attributes : List String) :
    another ∈ (attributes.foldl (fun database key => database.index types type key)
        database).bucket key ↔
      another ∈ database.bucket key ∨
        (another = type ∧ key ∈ attributes ∧ database.get (types.name type) = some type) := by
  induction attributes generalizing database with
  | nil => simp
  | cons first others ih =>
    have kept : (database.index types type first).get = database.get := by
      funext name
      rw [Database.get, types_index, Database.get]
    rw [List.foldl_cons, ih, mem_bucket_index, kept, List.mem_cons, or_assoc, ← and_or_left,
      ← or_and_right]
    simp only [eq_comm]

/-- The buckets after a name was removed: its type is gone from each, and those it leaves empty are
gone. -/
theorem find?_buckets_remove (removed : database.remove name = some (type, rest)) :
    rest.buckets.find? key =
      ((database.buckets.find? key).map (·.filter (· ≠ type))).filter (!·.isEmpty) := by
  obtain ⟨_, _, same⟩ := Option.map_eq_some_iff.1 removed
  obtain ⟨rfl, rfl⟩ := Prod.mk.inj same
  rw [Dictionary.find?_filter, Dictionary.find?_mapValues]

/-- What a bucket lists after a name was removed. -/
theorem bucket_remove (removed : database.remove name = some (type, rest)) :
    rest.bucket key = (database.bucket key).filter (· ≠ type) := by
  rw [Database.bucket, find?_buckets_remove removed, Database.bucket]
  cases database.buckets.find? key with
  | none => rfl
  | some bucket =>
    simp only [Option.map_some, Option.getD_some]
    cases bucket.filter (· ≠ type) with
    | nil => rfl
    | cons first others => rfl

/-- Removing a name takes away that name alone. -/
theorem get_remove (removed : database.remove name = some (type, rest)) (other : String) :
    rest.get other = if name = other then none else database.get other := by
  obtain ⟨_, _, same⟩ := Option.map_eq_some_iff.1 removed
  obtain ⟨rfl, rfl⟩ := Prod.mk.inj same
  exact Dictionary.find?_erase database.types name other

/-- The type that goes with a name is the one registered under it. -/
theorem get_of_remove (removed : database.remove name = some (type, rest)) :
    database.get name = some type := by
  obtain ⟨held, found, same⟩ := Option.map_eq_some_iff.1 removed
  rw [found, (Prod.mk.inj same).1]

/-! ### What every database keeps of its index -/

/-- Every bucket lists registered types, each of them once, and none is empty. -/
structure Indexed (types : Types) (database : Database) : Prop where
  /-- Only registered types are listed. -/
  registered : ∀ key, ∀ type ∈ database.bucket key, database.get (types.name type) = some type
  /-- No type is listed twice. -/
  once : ∀ key, (database.bucket key).Nodup
  /-- There is no bucket without types. -/
  inhabited : ∀ key bucket, database.buckets.find? key = some bucket → bucket ≠ []

namespace Indexed

/-- The database without types has no buckets. -/
theorem empty (types : Types) : Database.empty.Indexed types where
  registered _ _ listed := absurd listed List.not_mem_nil
  once _ := List.nodup_nil
  inhabited _ _ found := by contradiction

/-- Types that are named alike are indexed alike. -/
theorem of_fixed (indexed : database.Indexed types) (same : other.fixed = types.fixed) :
    database.Indexed other := by
  refine { indexed with registered := fun key type listed => ?_ }
  simp only [Types.name, Types.record, same]
  exact indexed.registered key type listed

/-- Indexing an attribute of a type lists it where it is registered. -/
theorem index (indexed : database.Indexed types) (type : Ty) (added : String) :
    (database.index types type added).Indexed types := by
  constructor
  case registered =>
    intro key another listed
    rw [Database.get, types_index, ← Database.get]
    rcases (mem_bucket_index added).1 listed with before | ⟨rfl, _, held⟩
    · exact indexed.registered key another before
    · exact held
  case once =>
    intro key
    rw [Database.bucket, find?_buckets_index]
    split
    · exact nodup_addToBucket (indexed.once key)
    · exact indexed.once key
  case inhabited =>
    intro key bucket found
    rw [find?_buckets_index] at found
    split at found
    · obtain rfl := Option.some.inj found
      exact List.ne_nil_of_mem (mem_addToBucket.2 (.inr rfl))
    · exact indexed.inhabited key bucket found

/-- Indexing attributes of a type one after another keeps the index in order. -/
theorem foldl_index (indexed : database.Indexed types) (type : Ty) (attributes : List String) :
    (attributes.foldl (fun database key => database.index types type key) database).Indexed
      types := by
  induction attributes generalizing database with
  | nil => exact indexed
  | cons first others ih => exact ih (indexed.index type first)

/-- Putting a type under a free name keeps all that is listed registered. -/
theorem insert (indexed : database.Indexed types) (free : database.get name = none) (type : Ty) :
    ({ database with types := database.types.insert name type } : Database).Indexed types := by
  refine { indexed with registered := fun key another listed => ?_ }
  have held := indexed.registered key another listed
  have different : name ≠ types.name another := by
    rintro rfl
    rw [free] at held
    contradiction
  rw [Database.get, Dictionary.find?_insert_of_ne _ _ different]
  exact held

/-- Removing a name takes its type out of every bucket. -/
theorem remove (indexed : database.Indexed types)
    (removed : database.remove name = some (type, rest)) : rest.Indexed types := by
  constructor
  case registered =>
    intro key another listed
    rw [bucket_remove removed, List.mem_filter, decide_eq_true_eq] at listed
    have held := indexed.registered key another listed.1
    rw [get_remove removed, if_neg ?_]
    · exact held
    · -- The name cannot be that of a type which is still listed.
      rintro rfl
      rw [get_of_remove removed] at held
      exact listed.2 (Option.some.inj held).symm
  case once =>
    intro key
    rw [bucket_remove removed]
    exact (indexed.once key).filter _
  case inhabited =>
    intro key bucket found
    rw [find?_buckets_remove removed, Option.filter_eq_some_iff] at found
    rintro rfl
    simp at found

end Indexed

end Database

namespace Factory

/-- The attribute that a registration attaches to the type itself, if it does. -/
def typeAttribute (factory : Factory) : Link → Option Typed
  | .attach value => if factory.target = .type then some value else none
  | _ => none

end Factory

namespace Scope

/-! ### What registration does to the index -/

/-- What a bucket lists after a type was registered: a type whose name was free brings all its
attributes. -/
theorem mem_bucket_register {another : Ty} :
    another ∈ (scope.register type).value.database.bucket key ↔
      another ∈ scope.database.bucket key ∨
        (another = type ∧ (scope.types.members type).attributes.contains key = true ∧
          scope.database.get (scope.types.name type) = none) := by
  cases taken : scope.database.get (scope.types.name type) with
  | some existing => simp [register_of_taken taken]
  | none =>
    rw [register_of_free taken, Database.mem_bucket_foldl_index, Dictionary.mem_names_iff]
    simp [Database.bucket, Database.get]

/-- Registering a type keeps the index in order. -/
theorem indexed_register (scope : Scope) (indexed : scope.database.Indexed scope.types)
    (type : Ty) :
    (scope.register type).value.database.Indexed scope.types := by
  cases taken : scope.database.get (scope.types.name type) with
  | some existing => rwa [register_of_taken taken]
  | none =>
    rw [register_of_free taken]
    exact (indexed.insert taken type).foldl_index type _

/-- What one registration does to the index and to the attributes of types: nothing, or it attaches
an attribute to the type of the factory and indexes it there. -/
theorem apply_attributes (scope : Scope) (factory : Factory) (link : Link) :
    (factory.typeAttribute link = none ∧
        (scope.apply factory link).value.2.database = scope.database ∧
        ∀ type, ((scope.apply factory link).value.2.types.members type).attributes =
          (scope.types.members type).attributes) ∨
      ∃ value, factory.typeAttribute link = some value ∧
        (scope.apply factory link).value.2.database =
            scope.database.index scope.types factory.type (scope.types.name value.type) ∧
          ∀ type, ((scope.apply factory link).value.2.types.members type).attributes =
            if type = factory.type then
              (scope.types.members type).attributes.insert (scope.types.name value.type) value
            else (scope.types.members type).attributes := by
  have kept : ∀ members : Members,
      members.attributes = (scope.types.members factory.type).attributes → ∀ type,
        ((scope.types.setMembers factory.type members).members type).attributes =
          (scope.types.members type).attributes := by
    intro members same type
    simp only [Types.setMembers]
    split
    · rename_i own
      rw [same, own]
    · rfl
  cases link with
  | constant name value => exact .inl ⟨rfl, rfl, kept _ rfl⟩
  | property name property => exact .inl ⟨rfl, rfl, kept _ rfl⟩
  | function name overload => exact .inl ⟨rfl, rfl, kept _ rfl⟩
  | constructor overload => exact .inl ⟨rfl, rfl, kept _ rfl⟩
  | parent parent => exact .inl ⟨rfl, rfl, kept _ rfl⟩
  | conversion conversion => exact .inl ⟨rfl, rfl, kept _ rfl⟩
  | attach value =>
    obtain ⟨own, target⟩ := factory
    simp only [apply, Logged.value_bind, Logged.value_pure, attach]
    cases target with
    | type =>
      refine .inr ⟨value, rfl, rfl, fun type => ?_⟩
      simp only [Members.attributesOf, if_true, Types.setMembers, Members.setAttributes,
        Logged.value_pure]
      split
      · rename_i same
        rw [same]
      · rfl
    | constant name =>
      refine .inl ⟨rfl, ?_⟩
      split
      · exact ⟨rfl, fun _ => rfl⟩
      · exact ⟨rfl, kept _ rfl⟩
    | property name =>
      refine .inl ⟨rfl, ?_⟩
      split
      · exact ⟨rfl, fun _ => rfl⟩
      · exact ⟨rfl, kept _ rfl⟩
    | function name index =>
      refine .inl ⟨rfl, ?_⟩
      split
      · exact ⟨rfl, fun _ => rfl⟩
      · exact ⟨rfl, kept _ rfl⟩

/-- One registration keeps the index in order. -/
theorem indexed_apply (scope : Scope) (indexed : scope.database.Indexed scope.types)
    (factory : Factory) (link : Link) :
    (scope.apply factory link).value.2.database.Indexed scope.types := by
  rcases apply_attributes scope factory link with ⟨_, same, _⟩ | ⟨value, _, changed, _⟩
  · rwa [same]
  · rw [changed]
    exact indexed.index factory.type _

/-- A reset finds nothing under its name, or it removes the name and brings its type back. -/
theorem reset_cases (scope : Scope) (name : String) :
    (scope.database.get name = none ∧ (scope.reset name).value.2 = scope) ∨
      ∃ type rest, scope.database.remove name = some (type, rest) ∧
        (scope.reset name).value.2 = ⟨scope.types.reset type, rest⟩ := by
  unfold reset
  cases removed : scope.database.remove name with
  | none => exact .inl ⟨Option.map_eq_none_iff.1 removed, rfl⟩
  | some gone => exact .inr ⟨gone.1, gone.2, rfl, rfl⟩

/-- A reset keeps the index in order. -/
theorem indexed_reset (scope : Scope) (indexed : scope.database.Indexed scope.types)
    (name : String) :
    (scope.reset name).value.2.database.Indexed scope.types := by
  rcases reset_cases scope name with ⟨_, same⟩ | ⟨type, rest, removed, changed⟩
  · rwa [same]
  · rw [changed]
    exact indexed.remove removed

end Scope

/-! ### All databases of a store -/

namespace Store

/-- The index of every database is in order. -/
def Indexed (store : Store) : Prop :=
  ∀ database, (store.database database).Indexed store.types

/-- At first no database has an index. -/
theorem indexed_fresh (fixed : Universe) : (fresh fixed).Indexed :=
  fun _ => .empty _

/-- A store stays indexed if one of its databases is replaced by one that is. -/
theorem Indexed.setScope (indexed : store.Indexed) (database : String)
    (fixed : scope.types.fixed = store.types.fixed)
    (own : scope.database.Indexed store.types) : (store.setScope database scope).Indexed := by
  intro elsewhere
  have kept : (store.setScope database scope).types.fixed = store.types.fixed := fixed
  refine .of_fixed ?_ kept
  by_cases here : database = elsewhere
  · subst here
    rw [database_setScope_self]
    exact own
  · rw [database_setScope_of_ne here]
    exact indexed elsewhere

/-- Every change keeps all indexes in order. -/
theorem keeps_indexed (database : String) : Keeps Indexed database where
  register store type indexed :=
    indexed.setScope database (congrArg Types.fixed Scope.types_register)
      (Scope.indexed_register (store.scope database) (indexed database) type)
  apply store factory link indexed := by
    obtain ⟨_, _, fixed, _⟩ := Scope.apply_frame (store.scope database) factory link
    exact indexed.setScope database fixed
      (Scope.indexed_apply (store.scope database) (indexed database) factory link)
  reset store elsewhere name indexed :=
    indexed.setScope elsewhere (fixed_reset store elsewhere name)
      (Scope.indexed_reset (store.scope elsewhere) (indexed elsewhere) name)

/-- In every store that registrations and resets lead to, the index of every database is in
order. -/
theorem Reachable.indexed {fixed : Universe} (reached : Reachable fixed store) :
    store.Indexed :=
  reached.keeps keeps_indexed (indexed_fresh fixed)

end Store

end Reflection
