import Reflection.Proofs.Database.Index

/-!
# A reset undoes a registration

A factory on a type whose name is free puts the type under that name, changes the members of the
type, and lists it in buckets of the index, of which some may be new. `Store.Gains` says that this
is all that was added. It holds from the moment the factory is opened and after every registration,
so nothing else is touched meanwhile, and a reset of the name takes all of it back: the type leaves
every bucket, the buckets it had to itself go with it, and its members are those described.

What makes the undoing exact is that a type which is not registered is listed nowhere and that no
bucket is empty beforehand, as the index of every database promises.
-/
namespace Reflection

variable {types : Types} {database before after : Database} {type : Ty}

namespace Database

/-- A database lists what another does and one type more: taken out of every bucket, the type
leaves the buckets of the other, and those it had to itself vanish. -/
def Sheds (type : Ty) (after before : Database) : Prop :=
  ∀ key, ((after.buckets.find? key).map (·.filter (· ≠ type))).filter (!·.isEmpty) =
    before.buckets.find? key

/-- A database that lists a type nowhere loses nothing with it. -/
theorem Indexed.sheds_self (indexed : database.Indexed types)
    (free : database.get (types.name type) = none) : Sheds type database database := by
  intro key
  cases found : database.buckets.find? key with
  | none => rfl
  | some bucket =>
    have listed : database.bucket key = bucket := by rw [Database.bucket, found]; rfl
    have kept : bucket.filter (· ≠ type) = bucket := by
      refine List.filter_eq_self.2 fun other member => decide_eq_true ?_
      rintro rfl
      have held := indexed.registered key other (listed ▸ member)
      rw [free] at held
      contradiction
    have filled : bucket.isEmpty = false :=
      List.isEmpty_eq_false_iff.2 (indexed.inhabited key bucket found)
    simp only [Option.map_some, kept, Option.filter, filled]
    rfl

/-- Adding a type to a bucket shows in that type alone. -/
theorem filter_addToBucket (type : Ty) (bucket : List Ty) :
    (addToBucket type bucket).filter (· ≠ type) = bucket.filter (· ≠ type) := by
  unfold addToBucket
  split
  · rfl
  · simp

/-- Indexing one attribute more of the type changes nothing else. -/
theorem Sheds.index (sheds : Sheds type after before) (types : Types) (added : String) :
    Sheds type (after.index types type added) before := by
  intro key
  rw [find?_buckets_index]
  split
  · rename_i reached
    obtain ⟨_, rfl⟩ := reached
    rw [← sheds added, Database.bucket, Option.map_some, filter_addToBucket]
    -- A bucket that was not there holds the type alone, so it vanishes with it.
    cases after.buckets.find? added with
    | none => rfl
    | some bucket => rfl
  · exact sheds key

/-- Indexing several attributes of the type changes nothing else. -/
theorem Sheds.foldl_index (sheds : Sheds type after before) (types : Types)
    (attributes : List String) :
    Sheds type (attributes.foldl (fun database key => database.index types type key) after)
      before := by
  induction attributes generalizing after with
  | nil => exact sheds
  | cons first rest ih => exact ih (sheds.index types first)

/-- The buckets list every other type as before. -/
theorem Sheds.bucket (sheds : Sheds type after before) (key : String) :
    (after.bucket key).filter (· ≠ type) = before.bucket key := by
  rw [Database.bucket, Database.bucket, ← sheds key]
  cases after.buckets.find? key with
  | none => rfl
  | some bucket =>
    simp only [Option.map_some, Option.getD_some]
    cases bucket.filter (· ≠ type) with
    | nil => rfl
    | cons first rest => rfl

end Database

namespace Scope

variable {scope before after : Scope}

/-- What a factory on a type adds to a scope: the type under its name, members of the type, and the
type in buckets of the index. -/
structure Gains (before after : Scope) (type : Ty) : Prop where
  /-- Records never change. -/
  fixed : after.types.fixed = before.types.fixed
  /-- Every other type keeps its members. -/
  others : ∀ other, other ≠ type → after.types.members other = before.types.members other
  /-- The type stands under its name, and every other name as before. -/
  names : after.database.types = before.database.types.insert (before.types.name type) type
  /-- The index lists every other type as before. -/
  listed : Database.Sheds type after.database before.database

namespace Gains

/-- Registering a type whose name is free adds the type. -/
theorem register (indexed : scope.database.Indexed scope.types)
    (free : scope.database.get (scope.types.name type) = none) :
    scope.Gains (scope.register type).value type := by
  rw [register_of_free free]
  have unlisted : Database.Sheds type
      { scope.database with types := scope.database.types.insert (scope.types.name type) type }
      scope.database := indexed.sheds_self free
  exact ⟨rfl, fun _ _ => rfl, Database.types_foldl_index _ _ _ _,
    unlisted.foldl_index scope.types _⟩

/-- A registration on the type adds no more than that. -/
theorem apply (gains : before.Gains after type) (factory : Factory) (own : factory.type = type)
    (link : Link) : before.Gains (after.apply factory link).value.2 type := by
  obtain ⟨_, names, fixed, others⟩ := apply_frame after factory link
  rw [own] at others
  refine ⟨fixed.trans gains.fixed, fun other different => ?_, names.trans gains.names, ?_⟩
  · exact (others other different).trans (gains.others other different)
  · rcases apply_attributes after factory link with ⟨_, same, _⟩ | ⟨value, _, indexed, _⟩
    · rw [same]
      exact gains.listed
    · rw [indexed, own]
      exact gains.listed.index after.types _

/-- The type is registered under its name, and every other name answers as before. -/
theorem get (gains : before.Gains after type) (name : String) :
    after.database.get name =
      if before.types.name type = name then some type else before.database.get name := by
  rw [Database.get, gains.names, Dictionary.find?_insert, Database.get]

/-- Removing the name of the type leaves the database from before. -/
theorem remove (gains : before.Gains after type)
    (free : before.database.get (before.types.name type) = none) :
    after.database.remove (before.types.name type) = some (type, before.database) := by
  have held : after.database.get (before.types.name type) = some type := by
    rw [gains.get, if_pos rfl]
  obtain ⟨rest, removed⟩ : ∃ rest,
      after.database.remove (before.types.name type) = some (type, rest) := by
    simp only [Database.remove, held, Option.map_some]
    exact ⟨_, rfl⟩
  have types : rest.types = before.database.types := by
    refine Dictionary.ext_find? fun name => ?_
    have looked : rest.get name = before.database.get name := by
      rw [Database.get_remove removed, gains.get]
      split
      · rename_i same
        rw [← same, free]
      · rfl
    exact looked
  have buckets : rest.buckets = before.database.buckets := by
    refine Dictionary.ext_find? fun key => ?_
    rw [Database.find?_buckets_remove removed]
    exact gains.listed key
  have same : rest = before.database := by
    calc rest = ⟨rest.types, rest.buckets⟩ := rfl
      _ = before.database := by rw [types, buckets]
  rw [removed, same]

/-- A reset of the name takes back all that was added to a type in its described state. -/
theorem reset (gains : before.Gains after type)
    (free : before.database.get (before.types.name type) = none)
    (described : before.types.members type = before.types.fixed.described type) :
    (after.reset (before.types.name type)).value = (true, before) := by
  have types : after.types.reset type = before.types := by
    have members : (after.types.reset type).members = before.types.members := by
      funext other
      rw [Types.members_reset]
      split
      · rename_i same
        rw [same, gains.fixed, described]
      · rename_i different
        exact gains.others other different
    have fixed : (after.types.reset type).fixed = before.types.fixed := gains.fixed
    calc after.types.reset type =
          ⟨(after.types.reset type).fixed, (after.types.reset type).members⟩ := rfl
      _ = before.types := by rw [members, fixed]
  simp only [Scope.reset, gains.remove free, Logged.value_bind, Logged.value_pure, types]

end Gains

end Scope

namespace Store

variable {store before after : Store} {database : String}

/-- Two stores hold the same: every type has the same members, and every database the same names and
buckets. -/
structure Same (left right : Store) : Prop where
  types : left.types = right.types
  databases : ∀ database, left.database database = right.database database

/-- What a factory on a type adds to a store: it adds to one database and to the type, and touches
no other database and no other type. -/
structure Gains (before after : Store) (database : String) (type : Ty) : Prop where
  scope : (before.scope database).Gains (after.scope database) type
  elsewhere : ∀ other, database ≠ other → after.database other = before.database other

/-- A change to the one database of a store leaves the others alone. -/
theorem gains_setScope {scope : Scope} (gained : (before.scope database).Gains scope type)
    (elsewhere : ∀ other, database ≠ other → after.database other = before.database other) :
    before.Gains (after.setScope database scope) database type where
  scope := by
    have here : (after.setScope database scope).scope database = scope := by
      rw [Store.scope, database_setScope_self]
      rfl
    rw [here]
    exact gained
  elsewhere other different := by
    rw [database_setScope_of_ne different]
    exact elsewhere other different

/-- Registrations one after another add no more than that. -/
theorem Gains.runSteps (gains : before.Gains after database type) (factory : Factory)
    (own : factory.type = type) (links : List Link) :
    before.Gains (after.runSteps database factory (links.map .register)).value.2 database type := by
  induction links generalizing after factory with
  | nil => exact gains
  | cons link rest ih =>
    have step := gains_setScope (gains.scope.apply factory own link) gains.elsewhere
    have kept : ((after.scope database).apply factory link).value.1.type = type :=
      (Scope.apply_frame _ factory link).1.trans own
    exact ih step _ kept

/-- A factory on a type whose name is free adds the type and no more. -/
theorem gains_reflect (indexed : store.Indexed)
    (free : (store.database database).get (store.types.name type) = none) (links : List Link) :
    store.Gains (store.reflect database type (links.map .register)).value.2 database type := by
  have opened : (store.scope database).Gains ((store.scope database).register type).value type :=
    .register (indexed database) free
  exact (gains_setScope opened fun _ _ => rfl).runSteps _ rfl links

/-- A store whose one database and types are as before holds the same. -/
theorem same_setScope (elsewhere : ∀ other, database ≠ other →
      after.database other = before.database other) :
    (after.setScope database (before.scope database)).Same before where
  types := rfl
  databases other := by
    by_cases here : database = other
    · subst here
      exact database_setScope_self
    · rw [database_setScope_of_ne here]
      exact elsewhere other here

/-- A reset of its name undoes what a factory added to a type in its described state. -/
theorem Gains.reset (gains : before.Gains after database type)
    (free : (before.database database).get (before.types.name type) = none)
    (described : before.types.members type = before.types.fixed.described type) :
    (after.reset database (before.types.name type)).value.1 = true ∧
      (after.reset database (before.types.name type)).value.2.Same before := by
  have undone : ((after.scope database).reset (before.types.name type)).value =
      (true, before.scope database) := gains.scope.reset free described
  simp only [Store.reset, Logged.value_bind, Logged.value_pure, undone]
  exact ⟨trivial, same_setScope gains.elsewhere⟩

/-- A reset undoes a registration exactly. In every store that registrations and resets lead to, and
for a type in its described state whose name is free in a database: a factory on the type, any chain
of registrations in any order and number, and a reset of the name answer that the name was
registered and leave the members of every type and the names and buckets of every database as they
were; and while the factory is open, after any number of its registrations, nothing but the type was
added. A reset of a name that is not registered answers so and changes nothing. -/
theorem reset_undoes_registration {fixed : Universe} (reached : Reachable fixed store)
    (database : String) :
    (∀ (type : Ty) (links : List Link),
      (store.database database).get (store.types.name type) = none →
      store.types.members type = store.types.fixed.described type →
        let registered := (store.reflect database type (links.map .register)).value.2
        let undone := (registered.reset database (store.types.name type)).value
        (undone.1 = true ∧ undone.2.Same store) ∧
          ∀ front, front <+: links →
            store.Gains (store.reflect database type (front.map .register)).value.2 database type) ∧
      ∀ name, (store.database database).get name = none →
        (store.reset database name).value.1 = false ∧
          (store.reset database name).value.2.Same store := by
  have indexed : store.Indexed := reached.indexed
  constructor
  · intro type links free described registered undone
    refine ⟨(gains_reflect indexed free links).reset free described, fun front _ => ?_⟩
    exact gains_reflect indexed free front
  · intro name free
    have absent : (store.scope database).database.remove name = none :=
      Option.map_eq_none_iff.2 free
    simp only [Store.reset, Scope.reset, absent, Logged.value_bind, Logged.value_pure]
    exact ⟨trivial, same_setScope fun _ _ => rfl⟩

/-- Types known by their names, described without members. -/
def bareUniverse : Universe where
  record
    | .named key => { name := key, layout := ⟨0, 1⟩ }
    | _ => { name := "", layout := ⟨0, 1⟩ }
  described _ := {}

/-- A database in which one type carries a mark. -/
def guardedStore : Store :=
  ((fresh bareUniverse).reflect "main" (.named "Gate")
    [.register (.attach ⟨.named "Mark", .unit⟩)]).value.2

/-- Registrations of every kind: a constant that is replaced, a property and an overload with an
attribute each, a constructor, a parent and a conversion, and attributes on the type, of which one
is known to the index and one is new to it. -/
def busyLinks : List Link :=
  [.constant "LIMIT" ⟨.i32, .integer 7⟩, .constant "LIMIT" ⟨.i32, .integer 8⟩,
    .attach ⟨.named "Mark", .unit⟩, .property "five" ⟨.named "Door", .i32, fun _ => .integer 5,
      none, .empty⟩, .attach ⟨.named "Note", .unit⟩,
    .function "zero" (.function [] .i32 fun _ => .integer 0), .attach ⟨.named "Mark", .unit⟩,
    .constructor (.function [] (.named "Door") fun _ => .unit), .parent ⟨.named "Gate", []⟩,
    .conversion ⟨.i32, fun _ => .integer 1⟩, .attach ⟨.named "Mark", .unit⟩,
    .attach ⟨.named "Note", .unit⟩]

/-- The database with a second type, which joins the bucket of the mark and has one to itself. -/
def crowdedStore : Store :=
  (guardedStore.reflect "main" (.named "Door") (busyLinks.map .register)).value.2

/-- A reset of the second type leaves the bucket of the mark to the first and takes the other away,
and a second reset finds nothing. -/
theorem crowdedStore_undone :
    Reachable bareUniverse guardedStore ∧
      (guardedStore.database "main").get "Door" = none ∧
      guardedStore.types.members (.named "Door") = bareUniverse.described (.named "Door") ∧
      (crowdedStore.database "main").bucket "Mark" = [.named "Gate", .named "Door"] ∧
      (crowdedStore.database "main").bucket "Note" = [.named "Door"] ∧
      (crowdedStore.reset "main" "Door").value.1 = true ∧
      (crowdedStore.reset "main" "Door").value.2.Same guardedStore ∧
      (guardedStore.reset "main" "Door").value.1 = false := by
  have reached : Reachable bareUniverse guardedStore := .reflect .fresh _ _ _
  have free : (guardedStore.database "main").get "Door" = none := rfl
  obtain ⟨undoes, refuses⟩ := reset_undoes_registration reached "main"
  obtain ⟨existed, same⟩ := (undoes (.named "Door") busyLinks free rfl).1
  exact ⟨reached, free, rfl, rfl, rfl, existed, same, (refuses "Door" free).1⟩

end Store

end Reflection
