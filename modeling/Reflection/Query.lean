import Reflection.Any.Copy
import Reflection.Database

/-!
# Queries

A query narrows the registered types of a database down by filters. The first filter selects
from an index bucket or from all registered types; every later one only removes types, so the
result is the intersection of all filters in any order.
-/
namespace Reflection

/-- A condition on registered types. -/
inductive Filter where
  /-- The type is indexed under an attribute name. -/
  | carries (name : String)
  /-- The type has a constant of a name. -/
  | constant (name : String)
  /-- The type has a constant of a name whose value is of a type. -/
  | constantTyped (name : String) (type : Option Ty)
  /-- Parents lead from the type to a base. -/
  | inherits (base : Option Ty)
  /-- The type is expected to convert to a target. -/
  | convertible (target : Option Ty)
  deriving DecidableEq, Repr

/-- The types selected so far; none before the first filter. -/
structure Query where
  selected : Option (List Ty) := none
  deriving DecidableEq, Repr

namespace Filter

/-- Whether a type satisfies a filter in some database. -/
def holds (scope : Scope) (type : Ty) : Filter → Bool
  | .carries name => type ∈ scope.database.bucket name
  | .constant name => (scope.types.members type).constants.contains name
  | .constantTyped name expected =>
    match (scope.types.members type).constants.find? name with
    | some found => some found.value.type = expected
    | none => false
  | .inherits base =>
    match base with
    | some base => scope.types.inherits type base
    | none => false
  | .convertible target =>
    match target with
    | some target => scope.types.isConvertible type target
    | none => false

end Filter

namespace Query

/-- What a filter selects when it is the first: an attribute filter copies its bucket, any other
scans the registered types. -/
def seed (scope : Scope) : Filter → List Ty
  | .carries name => scope.database.bucket name
  | filter => scope.database.types.values.filter fun type => filter.holds scope type

/-- The query with one more filter. -/
def filter (scope : Scope) (query : Query) (filter : Filter) : Query :=
  match query.selected with
  | none => ⟨some (seed scope filter)⟩
  | some types => ⟨some (types.filter fun type => filter.holds scope type)⟩

/-- The types a query selects. -/
def types (scope : Scope) (query : Query) : List Ty :=
  match query.selected with
  | none => scope.database.types.values
  | some types => types

/-- The query of some filters in turn. -/
def ofFilters (scope : Scope) (filters : List Filter) : Query :=
  filters.foldl (fun query filter => query.filter scope filter) {}

end Query

end Reflection
