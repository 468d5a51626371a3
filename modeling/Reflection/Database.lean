import Reflection.Types

/-!
# Databases

A database makes types reachable by name and indexes them by their attributes. Type records exist
apart from any database and are shared by all of them: a `Scope` is one database together with
the types. The index has a bucket per attribute name with the registered types that carry it.
Registering a type indexes the attributes it has; removing a name empties its type out of every
bucket, and a reset also brings the type back to its described members.
-/
namespace Reflection

/-- Registered types by name, and by attribute. -/
structure Database where
  types : Dictionary Ty
  /-- The registered types that carry an attribute, by the attribute's name. -/
  buckets : Dictionary (List Ty)
  deriving DecidableEq

namespace Database

/-- The database without types. -/
def empty : Database := ⟨.empty, .empty⟩

instance : Inhabited Database := ⟨empty⟩

/-- The type registered under a name. -/
def get (database : Database) (name : String) : Option Ty := database.types.find? name

/-- Whether a name is registered. -/
def contains (database : Database) (name : String) : Bool := database.types.contains name

/-- The registered names in order. -/
def names (database : Database) : List String := database.types.names

/-- The number of registered types. -/
def len (database : Database) : Nat := database.types.size

/-- Whether no type is registered. -/
def isEmpty (database : Database) : Bool := database.types.isEmpty

/-- The types in the bucket of an attribute. -/
def bucket (database : Database) (key : String) : List Ty :=
  (database.buckets.find? key).getD []

/-- Add a type to a bucket, once. -/
def addToBucket (type : Ty) (bucket : List Ty) : List Ty :=
  if type ∈ bucket then bucket else bucket ++ [type]

/-- Index an attribute of a type, if the type is the one registered under its name. -/
def index (types : Types) (database : Database) (type : Ty) (key : String) : Database :=
  if database.get (types.name type) = some type then
    { database with
      buckets := database.buckets.insert key (addToBucket type (database.bucket key)) }
  else database

/-- Remove a name: its type, and the database without it. -/
def remove (database : Database) (name : String) : Option (Ty × Database) :=
  (database.get name).map fun type =>
    (type,
      { types := database.types.erase name
        buckets := (database.buckets.mapValues (·.filter (· ≠ type))).filter
          fun _ bucket => !bucket.isEmpty })

end Database

/-- One database and the types it shares with all others. -/
structure Scope where
  types : Types
  database : Database

namespace Scope

/-- Register a type under its name, unless the name is taken. -/
def register (scope : Scope) (type : Ty) : Logged Scope := do
  let name := scope.types.name type
  match scope.database.get name with
  | some existing =>
    if existing ≠ type then
      Logged.note .warn
        s!"Type name '{name}' already registered by a different type, keeping the first"
    pure scope
  | none =>
    let named := { scope.database with types := scope.database.types.insert name type }
    let database := (scope.types.members type).attributes.names.foldl
      (fun database key => database.index scope.types type key) named
    Logged.note .debug s!"Registered type '{name}'"
    pure { scope with database }

/-- Remove a name and bring its type back to the described members; whether there was such a
name. -/
def reset (scope : Scope) (name : String) : Logged (Bool × Scope) := do
  match scope.database.remove name with
  | none => pure (false, scope)
  | some (type, database) =>
    Logged.note .debug s!"Reset type '{name}'"
    pure (true, { types := scope.types.reset type, database })

end Scope

/-- The types and all databases over them, by name. -/
structure Store where
  types : Types
  databases : Dictionary Database

namespace Store

/-- Types in their described state and no registration. -/
def fresh (fixed : Universe) : Store := ⟨.described fixed, .empty⟩

/-- The database of a name; one that was never used is empty. -/
def database (store : Store) (name : String) : Database :=
  (store.databases.find? name).getD .empty

/-- A database together with the types. -/
def scope (store : Store) (name : String) : Scope := ⟨store.types, store.database name⟩

/-- The store after a change through one database. -/
def setScope (store : Store) (name : String) (scope : Scope) : Store :=
  ⟨scope.types, store.databases.insert name scope.database⟩

/-- Reset a name in a database. -/
def reset (store : Store) (database name : String) : Logged (Bool × Store) := do
  let (existed, scope) ← (store.scope database).reset name
  pure (existed, store.setScope database scope)

end Store

end Reflection
