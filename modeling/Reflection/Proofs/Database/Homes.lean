import Reflection.Proofs.Database.Sharing

/-!
# Types registered through one database

Several databases may be in use side by side while a type is registered through one of them alone,
its home. Only its home changes what the type has attached and where it is listed: a factory of
another database is on another type, and a reset there finds another type under its name. So the
home lists the type exactly, whatever is done elsewhere.
-/
namespace Reflection

/-- An operation opens a factory on a type. -/
def DatabaseOperation.Opens (type : Ty) : DatabaseOperation → Prop
  | .reflect own _ => own = type
  | .reset _ => False

namespace Store

variable {store : Store} {database home : String} {type : Ty}

/-- A change registers a type or carries out a registration on it. -/
def Change.On (type : Ty) : Change → Prop
  | .register own => own = type
  | .apply factory _ => factory.type = type
  | .reset _ => False

/-- What stands under a name after a change through its database stood there before, or it is the
type that was registered. -/
theorem get_change_cases {name : String} {found : Ty} (change : Change)
    (looked : ((store.change database change).database database).get name = some found) :
    (store.database database).get name = some found ∨ change.On found := by
  cases change with
  | register own =>
    simp only [Store.change, database_setScope_self] at looked
    rcases Scope.get_register_cases looked with before | ⟨_, same, _⟩
    · exact .inl before
    · exact .inr same.symm
  | apply factory link =>
    obtain ⟨_, names, _⟩ := Scope.apply_frame (store.scope database) factory link
    simp only [Store.change, database_setScope_self, Database.get, names] at looked
    exact .inl looked
  | reset other =>
    simp only [Store.change, get_reset] at looked
    split at looked
    · contradiction
    · exact .inl looked

/-- A change that is not on a type leaves its members alone, if the type is not registered in the
database. -/
theorem members_change_of_absent (change : Change) (other : ¬change.On type)
    (absent : ∀ name, (store.database database).get name ≠ some type) :
    (store.change database change).types.members type = store.types.members type := by
  cases change with
  | register own =>
    simp only [Store.change, setScope, Scope.types_register]
    rfl
  | apply factory link =>
    obtain ⟨_, _, _, others⟩ := Scope.apply_frame (store.scope database) factory link
    exact others type fun same => other same.symm
  | reset name =>
    simp only [Store.change, types_reset]
    cases found : (store.database database).get name with
    | none => rfl
    | some gone =>
      have different : type ≠ gone := by
        rintro rfl
        exact absent name found
      rw [Types.members_reset, if_neg different]

/-- A type is registered in its home only, and listed there exactly. -/
structure Homed (store : Store) (home : String) (type : Ty) : Prop where
  named : store.Named
  indexed : store.Indexed
  /-- No other database has the type. -/
  apart : ∀ other, home ≠ other → ∀ name, (store.database other).get name ≠ some type
  listed : (store.scope home).ListsExactly type

namespace Homed

/-- Nothing is registered at first. -/
theorem fresh (fixed : Universe) (home : String) (type : Ty) :
    (Store.fresh fixed).Homed home type where
  named := named_fresh fixed
  indexed := indexed_fresh fixed
  apart _ _ _ := nofun
  listed _ found := by contradiction

/-- A change through any database, which is on the type only at its home, leaves the type at
home. -/
theorem change (homed : store.Homed home type) (database : String) (change : Change)
    (own : change.On type → database = home) : (store.change database change).Homed home type := by
  constructor
  case named => exact (keeps_named database).change homed.named change
  case indexed => exact (keeps_indexed database).change homed.indexed change
  case apart =>
    intro other away name found
    by_cases here : database = other
    · subst here
      rcases get_change_cases change found with before | opened
      · exact homed.apart database away name before
      · exact away (own opened).symm
    · rw [database_change_of_ne here] at found
      exact homed.apart other away name found
  case listed =>
    by_cases here : database = home
    · subst here
      have named : ∀ name type, (store.scope database).database.get name = some type →
          (store.scope database).types.name type = name := homed.named database
      cases change with
      | register other =>
        have next := homed.listed.register (homed.indexed database) other
        rw [Store.change, scope, database_setScope_self]
        exact next
      | apply factory link =>
        have next := homed.listed.apply named factory link
        rw [Store.change, scope, database_setScope_self]
        exact next
      | reset name =>
        have next := homed.listed.reset named name
        simp only [Store.change, Store.reset, Logged.value_bind, Logged.value_pure]
        rw [scope, database_setScope_self]
        exact next
    · intro name found key
      rw [scope, database_change_of_ne here] at found ⊢
      have away : ∀ name, (store.database database).get name ≠ some type :=
        homed.apart database fun same => here same.symm
      rw [members_change_of_absent change (fun opened => here (own opened)) away]
      exact homed.listed name found key

/-- A chain on a factory, which is on the type only at its home, leaves the type at home. -/
theorem runSteps (homed : store.Homed home type) (factory : Factory)
    (own : factory.type = type → database = home) (chain : List ChainStep) :
    (store.runSteps database factory chain).value.2.Homed home type := by
  induction chain generalizing store factory with
  | nil => exact homed
  | cons step rest ih =>
    cases step with
    | register link =>
      have next := homed.change database (.apply factory link) own
      obtain ⟨same, _⟩ := Scope.apply_frame (store.scope database) factory link
      exact ih next _ (same ▸ own)
    | info => exact ih homed factory own
    | resetIn other name => exact ih (homed.change other (.reset name) nofun) factory own

/-- An operation through any database, which opens a factory on the type only at its home, leaves
the type at home. -/
theorem perform (homed : store.Homed home type) (database : String)
    (operation : DatabaseOperation) (own : operation.Opens type → database = home) :
    (store.perform database operation).value.Homed home type := by
  cases operation with
  | reflect other chain =>
    exact (homed.change database (.register other) own).runSteps ⟨other, .type⟩ own chain
  | reset name => exact homed.change database (.reset name) nofun

end Homed

/-- What operations through several databases, one after another, leave behind. -/
def afterAll (store : Store) : List (String × DatabaseOperation) → Store
  | [] => store
  | (database, operation) :: rest => (store.perform database operation).value.afterAll rest

/-- Operations lead to stores that can be reached. -/
theorem Reachable.afterAll {fixed : Universe} (reached : Reachable fixed store)
    (history : List (String × DatabaseOperation)) : Reachable fixed (store.afterAll history) := by
  induction history generalizing store with
  | nil => exact reached
  | cons step rest ih =>
    obtain ⟨database, operation⟩ := step
    cases operation with
    | reflect type chain => exact ih (.reflect reached database type chain)
    | reset name => exact ih (.reset reached database name)

/-- Operations of which only those through its home open factories on a type leave it at home. -/
theorem Homed.afterAll (homed : store.Homed home type)
    (history : List (String × DatabaseOperation))
    (own : ∀ step ∈ history, step.2.Opens type → step.1 = home) :
    (store.afterAll history).Homed home type := by
  induction history generalizing store with
  | nil => exact homed
  | cons step rest ih =>
    obtain ⟨first, others⟩ := List.forall_mem_cons.1 own
    exact ih (homed.perform step.1 step.2 first) others

end Store

end Reflection
