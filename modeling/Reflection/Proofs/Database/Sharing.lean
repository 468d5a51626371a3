import Reflection.Proofs.Database.Exactness
import Reflection.Proofs.Database.Filters

/-!
# Types shared by databases

Type records are shared by all databases, while each database has an index of its own, which only
changes made through it keep up. So what another database does to the attributes of a type is not
seen by the index of a database that has the type registered too. Registering a type never does
anything to attributes; a registration may attach one to the type of its factory; a reset takes a
type back to the attributes it is described with. `truthful_after_change_iff` says of every change
whether the index of another database still tells the truth: exactly if each type registered there
has attributes of the same names as before.
-/
namespace Reflection

variable {scope : Scope} {store : Store} {database elsewhere : String}

namespace Scope

/-- Which attributes types have after a registration: those they had, and the type of the factory
the one that was attached to it. -/
theorem contains_apply (scope : Scope) (factory : Factory) (link : Link) (type : Ty)
    (key : String) :
    ((scope.apply factory link).value.2.types.members type).attributes.contains key = true ↔
      (scope.types.members type).attributes.contains key = true ∨
        ∃ value, factory.typeAttribute link = some value ∧ type = factory.type ∧
          scope.types.name value.type = key := by
  rcases apply_attributes scope factory link with
    ⟨nothing, _, kept⟩ | ⟨value, attached, _, gained⟩
  · rw [kept, nothing]
    simp
  · rw [gained, attached]
    by_cases own : type = factory.type
    · simp only [own, if_true, Dictionary.contains, Dictionary.find?_insert, Option.some.injEq]
      by_cases same : scope.types.name value.type = key
      · simp [same]
      · simp [same]
    · simp [own]

end Scope

namespace Store

/-- One change through a database: a type is registered, a factory carries out a registration, or a
name is reset. -/
inductive Change where
  | register (type : Ty)
  | apply (factory : Factory) (link : Link)
  | reset (name : String)

/-- The store after a change through a database. -/
def change (store : Store) (database : String) : Change → Store
  | .register type => store.setScope database ((store.scope database).register type).value
  | .apply factory link =>
    store.setScope database ((store.scope database).apply factory link).value.2
  | .reset name => (store.reset database name).value.2

/-- What every change keeps, each kind of change keeps. -/
theorem Keeps.change {kept : Store → Prop} (keeps : Keeps kept database) (start : kept store)
    (change : Change) : kept (store.change database change) := by
  cases change with
  | register type => exact keeps.register store type start
  | apply factory link => exact keeps.apply store factory link start
  | reset name => exact keeps.reset store database name start

/-- A change through one database leaves the names and buckets of every other alone. -/
theorem database_change_of_ne (apart : database ≠ elsewhere) (change : Change) :
    (store.change database change).database elsewhere = store.database elsewhere := by
  cases change with
  | register type => exact database_setScope_of_ne apart
  | apply factory link => exact database_setScope_of_ne apart
  | reset name => exact database_reset_of_ne apart

/-- Whether a type has an attribute of a name. -/
def Marked (store : Store) (type : Ty) (key : String) : Prop :=
  (store.types.members type).attributes.contains key = true

/-- The index of a database tells the truth: of the types registered there, it lists under an
attribute those whose record has it. -/
def Truthful (store : Store) (database : String) : Prop :=
  ∀ type, (store.scope database).Holds type → ∀ key,
    type ∈ (store.database database).bucket key ↔ store.Marked type key

/-- Whether a change through a database leaves the types registered in another with attributes of
the same names. -/
def SparesMarks (store : Store) (database elsewhere : String) : Change → Prop
  | .register _ => True
  | .apply factory link => ∀ value, factory.typeAttribute link = some value →
    (store.scope elsewhere).Holds factory.type →
      store.Marked factory.type (store.types.name value.type)
  | .reset name => ∀ type, (store.database database).get name = some type →
    (store.scope elsewhere).Holds type → ∀ key,
      store.Marked type key ↔ (store.types.fixed.described type).attributes.contains key = true

/-- A change spares the marks of another database exactly if the types registered there have
attributes of the same names afterwards. -/
theorem marked_change_iff (change : Change) :
    (∀ type, (store.scope elsewhere).Holds type → ∀ key,
        (store.change database change).Marked type key ↔ store.Marked type key) ↔
      store.SparesMarks database elsewhere change := by
  cases change with
  | register type =>
    refine iff_of_true (fun other _ key => ?_) trivial
    simp only [Store.change, Marked, setScope, Scope.types_register]
    rfl
  | apply factory link =>
    have marked : ∀ type key, (store.change database (.apply factory link)).Marked type key ↔
        store.Marked type key ∨ ∃ value, factory.typeAttribute link = some value ∧
          type = factory.type ∧ store.types.name value.type = key :=
      Scope.contains_apply (store.scope database) factory link
    constructor
    · intro same value attached held
      refine (same factory.type held _).1 ((marked _ _).2 (.inr ?_))
      exact ⟨value, attached, rfl, rfl⟩
    · intro spared type held key
      rw [marked]
      constructor
      · rintro (before | ⟨value, attached, rfl, rfl⟩)
        · exact before
        · exact spared value attached held
      · exact .inl
  | reset name =>
    simp only [Store.change, Marked, types_reset, SparesMarks]
    cases found : (store.database database).get name with
    | none => simp
    | some gone =>
      simp only [Option.some.injEq, forall_eq', Types.members_reset]
      constructor
      · intro same held key
        have now := same gone held key
        rw [if_pos rfl] at now
        exact now.symm
      · intro described type held key
        split
        · rename_i own
          subst own
          exact (described held key).symm
        · exact Iff.rfl

/-- Asking for the types that carry an attribute selects a type that is listed exactly if it is
registered and has the attribute. -/
theorem mem_query_of_listsExactly {type : Ty}
    (exactly : (store.scope database).ListsExactly type)
    (searchable : (store.scope database).Searchable) (key : String) :
    type ∈ (Query.ofFilters (store.scope database) [.carries key]).types (store.scope database) ↔
      (store.scope database).Holds type ∧ store.Marked type key := by
  rw [searchable.mem_ofFilters]
  simp only [List.forall_mem_singleton, Filter.holds, decide_eq_true_eq]
  refine and_congr_right fun held => ?_
  obtain ⟨name, found⟩ := held
  exact exactly name found key

/-- In a database whose index tells the truth, asking for the types that carry an attribute gives
the registered types whose record has it. -/
theorem Truthful.mem_query (truthful : store.Truthful database)
    (searchable : (store.scope database).Searchable) (key : String) (type : Ty) :
    type ∈ (Query.ofFilters (store.scope database) [.carries key]).types (store.scope database) ↔
      (store.scope database).Holds type ∧ store.Marked type key :=
  mem_query_of_listsExactly (fun name found => truthful type ⟨name, found⟩) searchable key

/-- Whether a change through one database leaves the index of another truthful. In every store that
registrations and resets lead to, and for an index that tells the truth before a change through
another database: it does so afterwards exactly if the change leaves every type registered there
with attributes of the same names. A type that is registered through the other database always
does; an attribute attached to a type does if the type is not registered here or had one of the name
already; a reset does if its type is not registered here or had attributes of the names it is
described with. Where the index is truthful, asking for an attribute gives exactly the registered
types that carry it. -/
theorem truthful_after_change_iff {fixed : Universe} (reached : Reachable fixed store)
    (apart : database ≠ elsewhere) (truthful : store.Truthful elsewhere) (change : Change) :
    let after := store.change database change
    (after.Truthful elsewhere ↔ store.SparesMarks database elsewhere change) ∧
      (after.Truthful elsewhere → ∀ key type,
        type ∈ (Query.ofFilters (after.scope elsewhere) [.carries key]).types
            (after.scope elsewhere) ↔
          (after.scope elsewhere).Holds type ∧ after.Marked type key) := by
  intro after
  have index : after.database elsewhere = store.database elsewhere :=
    database_change_of_ne apart change
  have holds : ∀ type, (after.scope elsewhere).Holds type ↔ (store.scope elsewhere).Holds type := by
    intro type
    simp only [Scope.Holds, scope, index]
  constructor
  · rw [← marked_change_iff]
    constructor
    · intro told type held key
      have now := told type ((holds type).2 held) key
      rw [index] at now
      exact now.symm.trans (truthful type held key)
    · intro same type held key
      have before := (holds type).1 held
      rw [index]
      exact (truthful type before key).trans (same type before key).symm
  · intro told key type
    refine told.mem_query ⟨?_, ?_⟩ key type
    · exact (keeps_named database).change reached.named change elsewhere
    · exact (keeps_indexed database).change reached.indexed change elsewhere

/-- An index that was built when nothing was registered in its database tells the truth. -/
theorem truthful_of_first {type : Ty} (unused : store.database database = .empty) :
    (store.reflect database type []).value.2.Truthful database := by
  have start : (store.scope database).ExactIndex := by
    rw [Store.scope, unused]
    exact ⟨fun _ _ found => (by contradiction), fun _ _ found => (by contradiction), .empty _⟩
  have exactly := start.register type
  intro other held key
  obtain ⟨name, found⟩ := held
  have back : (store.reflect database type []).value.2.scope database =
      ((store.scope database).register type).value := by
    simp only [reflect, Scope.reflect, runSteps, Logged.value_bind, Logged.value_pure]
    rw [Store.scope, database_setScope_self]
    rfl
  rw [back] at found
  have listed := exactly.exact name other found key
  rw [← back] at listed
  exact listed

/-- A type with a mark that is registered in two databases. -/
def sharedStore : Store :=
  let main := ((fresh twinUniverse).reflect "main" (.named "Plain")
    [.register (.attach ⟨.named "Mark", .unit⟩)]).value.2
  (main.reflect "side" (.named "Plain") []).value.2

/-- The index of the second database tells the truth about the type with the mark. -/
theorem sharedStore_truthful : sharedStore.Truthful "side" :=
  truthful_of_first rfl

/-- The mark attached once more through the first database replaces the old one, and the index of
the second is as truthful as before. -/
theorem sharedStore_marked_again :
    Reachable twinUniverse sharedStore ∧ sharedStore.Truthful "side" ∧
      (sharedStore.change "main"
        (.apply ⟨.named "Plain", .type⟩ (.attach ⟨.named "Mark", .unit⟩))).Truthful "side" := by
  have reached : Reachable twinUniverse sharedStore := .reflect (.reflect .fresh _ _ _) _ _ _
  have apart : "main" ≠ "side" := by decide
  have again := truthful_after_change_iff reached apart sharedStore_truthful
    (.apply ⟨.named "Plain", .type⟩ (.attach ⟨.named "Mark", .unit⟩))
  refine ⟨reached, sharedStore_truthful, again.1.2 ?_⟩
  intro value attached _
  obtain rfl : (⟨.named "Mark", .unit⟩ : Typed) = value := Option.some.inj attached
  rfl

/-- Changes through one database can make the index of another lie. The type with the mark is reset
through the first database: it has no mark any more, and the second still lists it. Attached through
the first, a note is on its record, and the second does not list it. -/
theorem sharedStore_misled :
    ¬ (∀ (fixed : Universe) (store : Store) (database elsewhere : String) (change : Change),
        Reachable fixed store → database ≠ elsewhere → store.Truthful elsewhere →
          (store.change database change).Truthful elsewhere) ∧
      (let reset := sharedStore.change "main" (.reset "Plain")
      ((Query.ofFilters (reset.scope "side") [.carries "Mark"]).types (reset.scope "side") =
          [.named "Plain"] ∧ ¬ reset.Marked (.named "Plain") "Mark")) ∧
      (let noted := sharedStore.change "main"
        (.apply ⟨.named "Plain", .type⟩ (.attach ⟨.named "Note", .unit⟩))
      ((Query.ofFilters (noted.scope "side") [.carries "Note"]).types (noted.scope "side") = [] ∧
        noted.Marked (.named "Plain") "Note")) := by
  have reached : Reachable twinUniverse sharedStore := .reflect (.reflect .fresh _ _ _) _ _ _
  have unmarked : ¬ (sharedStore.change "main" (.reset "Plain")).Marked (.named "Plain") "Mark" :=
    nofun
  refine ⟨fun always => ?_, ⟨rfl, unmarked⟩, rfl, rfl⟩
  have told := always twinUniverse sharedStore "main" "side" (.reset "Plain") reached (by decide)
    sharedStore_truthful (.named "Plain") ⟨"Plain", rfl⟩ "Mark"
  exact unmarked (told.1 (List.mem_singleton.2 rfl))

end Store

end Reflection
