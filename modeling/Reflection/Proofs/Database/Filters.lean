import Mathlib.Data.List.Nodup
import Reflection.Proofs.Database.Index
import Reflection.Query

/-!
# Filters intersect

The first filter of a query copies a bucket of the index or scans the registered types; every later
one only removes. Both select the registered types that satisfy the filter, the first because a
bucket lists registered types only, so a query selects the registered types that satisfy all its
filters, whatever their order and however often each is given.
-/
namespace Reflection

namespace Scope

variable {scope : Scope} {type : Ty} {filter : Filter}

/-- A type is registered in a database. -/
def Holds (scope : Scope) (type : Ty) : Prop :=
  ∃ name, scope.database.get name = some type

/-- What queries need of a database: names stand for types that have them, and its index is in
order. -/
structure Searchable (scope : Scope) : Prop where
  named : ∀ name type, scope.database.get name = some type → scope.types.name type = name
  indexed : scope.database.Indexed scope.types

/-- The registered types are those that are listed. -/
theorem mem_values : type ∈ scope.database.types.values ↔ scope.Holds type :=
  Dictionary.mem_values_iff

namespace Searchable

/-- No type is registered under two names. -/
theorem nodup_values (searchable : scope.Searchable) : scope.database.types.values.Nodup := by
  have names : scope.database.types.values.map scope.types.name = scope.database.types.names := by
    rw [Dictionary.values, Dictionary.names, List.map_map]
    refine List.map_congr_left fun entry mem => ?_
    exact searchable.named entry.1 entry.2 (Dictionary.find?_eq_some_iff.2 mem)
  exact List.Nodup.of_map scope.types.name (names ▸ scope.database.types.names_nodup)

/-- The first filter selects the registered types that satisfy it. -/
theorem mem_seed (searchable : scope.Searchable) :
    type ∈ Query.seed scope filter ↔ scope.Holds type ∧ filter.holds scope type = true := by
  cases filter with
  | carries name =>
    -- A bucket is copied as it is, so what it lists has to be registered.
    have registered : type ∈ scope.database.bucket name → scope.Holds type :=
      fun listed => ⟨_, searchable.indexed.registered name type listed⟩
    simpa [Query.seed, Filter.holds] using registered
  | constant name => simp [Query.seed, mem_values]
  | constantTyped name expected => simp [Query.seed, mem_values]
  | inherits base => simp [Query.seed, mem_values]
  | convertible target => simp [Query.seed, mem_values]

/-- The first filter selects no type twice. -/
theorem nodup_seed (searchable : scope.Searchable) : (Query.seed scope filter).Nodup := by
  cases filter with
  | carries name => exact searchable.indexed.once name
  | constant name => exact searchable.nodup_values.filter _
  | constantTyped name expected => exact searchable.nodup_values.filter _
  | inherits base => exact searchable.nodup_values.filter _
  | convertible target => exact searchable.nodup_values.filter _

variable {query : Query}

/-- One more filter keeps the types that satisfy it. -/
theorem mem_filter (searchable : scope.Searchable) :
    type ∈ (query.filter scope filter).types scope ↔
      type ∈ query.types scope ∧ filter.holds scope type = true := by
  obtain ⟨selected⟩ := query
  cases selected with
  | none => exact searchable.mem_seed.trans (by rw [Query.types, mem_values])
  | some types => exact List.mem_filter

/-- A query that selects no type twice does not with one more filter. -/
theorem nodup_filter (searchable : scope.Searchable) (once : (query.types scope).Nodup) :
    ((query.filter scope filter).types scope).Nodup := by
  obtain ⟨selected⟩ := query
  cases selected with
  | none => exact searchable.nodup_seed
  | some types => exact List.Nodup.filter _ once

/-- Filters one after another keep the types that satisfy all of them. -/
theorem mem_foldl_filter (searchable : scope.Searchable) (filters : List Filter) :
    type ∈ (filters.foldl (fun query filter => query.filter scope filter) query).types scope ↔
      type ∈ query.types scope ∧ ∀ filter ∈ filters, filter.holds scope type = true := by
  induction filters generalizing query with
  | nil => simp
  | cons filter rest ih =>
    rw [List.foldl_cons, ih, searchable.mem_filter, List.forall_mem_cons, and_assoc]

/-- Filters one after another select no type twice. -/
theorem nodup_foldl_filter (searchable : scope.Searchable) (filters : List Filter)
    (once : (query.types scope).Nodup) :
    ((filters.foldl (fun query filter => query.filter scope filter) query).types scope).Nodup := by
  induction filters generalizing query with
  | nil => exact once
  | cons filter rest ih => exact ih (searchable.nodup_filter once)

/-- A query selects the registered types that satisfy all its filters. -/
theorem mem_ofFilters (searchable : scope.Searchable) (filters : List Filter) :
    type ∈ (Query.ofFilters scope filters).types scope ↔
      scope.Holds type ∧ ∀ filter ∈ filters, filter.holds scope type = true := by
  rw [Query.ofFilters, searchable.mem_foldl_filter, Query.types, mem_values]

/-- A query selects no type twice. -/
theorem nodup_ofFilters (searchable : scope.Searchable) (filters : List Filter) :
    ((Query.ofFilters scope filters).types scope).Nodup :=
  searchable.nodup_foldl_filter filters searchable.nodup_values

end Searchable

end Scope

namespace Store

variable {store : Store}

/-- Every database of a store that registrations and resets lead to can be searched. -/
theorem Reachable.searchable {fixed : Universe} (reached : Reachable fixed store)
    (database : String) : (store.scope database).Searchable where
  named := reached.named database
  indexed := reached.indexed database

/-- A query is the intersection of its filters. In every store that registrations and resets lead
to, through any number of databases over the same types: the filters of a query on one of them,
applied in turn, select exactly the types registered there that satisfy every filter, each once, and
all registered types if there is no filter; so filters in another order, or given more often, select
the same types. -/
theorem query_intersects {fixed : Universe} (reached : Reachable fixed store) (database : String)
    (filters : List Filter) :
    let scope := store.scope database
    let selected := (Query.ofFilters scope filters).types scope
    selected.Nodup ∧
      (∀ type, type ∈ selected ↔
        scope.Holds type ∧ ∀ filter ∈ filters, filter.holds scope type = true) ∧
      ∀ others : List Filter, (∀ filter, filter ∈ others ↔ filter ∈ filters) →
        ((Query.ofFilters scope others).types scope).Perm selected := by
  intro scope selected
  have searchable : scope.Searchable := reached.searchable database
  refine ⟨searchable.nodup_ofFilters filters, fun type => searchable.mem_ofFilters filters, ?_⟩
  intro others same
  have listed : ∀ type, type ∈ (Query.ofFilters scope others).types scope ↔ type ∈ selected := by
    intro type
    rw [searchable.mem_ofFilters others, searchable.mem_ofFilters filters]
    simp only [same]
  exact (List.perm_ext_iff_of_nodup (searchable.nodup_ofFilters others)
    (searchable.nodup_ofFilters filters)).2 listed

/-- Types known by their names, of which two share one. -/
def twinUniverse : Universe where
  record
    | .named key => { name := if key = "Twin" then "Plain" else key, layout := ⟨0, 1⟩ }
    | _ => { name := "", layout := ⟨0, 1⟩ }
  described _ := {}

/-- A type that carries a mark, one that carries it and has a constant, and a twin of the first
whose name is taken; the second type is registered in another database too, and reset there. -/
def markedStore : Store :=
  let mark : Typed := ⟨.named "Mark", .unit⟩
  let plain := ((fresh twinUniverse).reflect "main" (.named "Plain")
    [.register (.attach mark)]).value.2
  let rich := (plain.reflect "main" (.named "Rich")
    [.register (.attach mark), .register (.constant "LIMIT" ⟨.i32, .integer 7⟩)]).value.2
  let twin := (rich.reflect "main" (.named "Twin")
    [.register (.attach mark), .register (.constant "LIMIT" ⟨.i32, .integer 8⟩)]).value.2
  let other := (twin.reflect "side" (.named "Plain") []).value.2
  (other.reset "side" "Plain").value.2

/-- Of the types in the marked store only one carries the mark and has the constant, in whatever
order this is asked. -/
theorem markedStore_query :
    Reachable twinUniverse markedStore ∧
      ((Query.ofFilters (markedStore.scope "main")
        [.constant "LIMIT", .carries "Mark", .constant "LIMIT"]).types
          (markedStore.scope "main")).Perm [.named "Rich"] := by
  have reached : Reachable twinUniverse markedStore :=
    .reset (.reflect (.reflect (.reflect (.reflect .fresh _ _ _) _ _ _) _ _ _) _ _ _) _ _
  have bucketFirst : (Query.ofFilters (markedStore.scope "main")
      [.carries "Mark", .constant "LIMIT"]).types (markedStore.scope "main") =
        [.named "Rich"] := rfl
  obtain ⟨_, _, reordered⟩ :=
    query_intersects reached "main" [.carries "Mark", .constant "LIMIT"]
  rw [bucketFirst] at reordered
  refine ⟨reached, reordered _ fun filter => ?_⟩
  simp only [List.mem_cons, List.not_mem_nil, or_false]
  tauto

end Store

end Reflection
