import Reflection.Any.Basic

/-!
# Tuple views

A value whose type has fields can be viewed as a tuple of them. A mutable view gives mutable
fields, a const view const ones.
-/
namespace Reflection

/-- A value viewed as a tuple. -/
structure TupleView where
  fields : List Field
  target : Any

namespace TupleView

/-- View a value as a tuple. -/
def of (types : Types) : Any → Attempt TupleView
  | .empty => fail (.emptyAny "view as tuple")
  | target@(.held _ content) =>
    let record := types.record content.type
    if record.hasTuple then pure ⟨record.fields, target⟩
    else fail (.noShape record.name .tuple)

/-- The number of fields. -/
def len (view : TupleView) : Nat := view.fields.length

/-- Whether there is no field. -/
def isEmpty (view : TupleView) : Bool := view.fields.isEmpty

/-- The type of a field. -/
def elementType (view : TupleView) (index : Nat) : Option Ty :=
  view.fields[index]?.map (·.type)

/-- A field. -/
def get (view : TupleView) (index : Nat) : Attempt Part :=
  match view.fields[index]? with
  | some field => pure ⟨field.place, field.type, false⟩
  | none => fail (.fieldOutOfRange index)

/-- A field, mutably. -/
def getMut (types : Types) (view : TupleView) (index : Nat) : Attempt Part :=
  match view.fields[index]? with
  | some field =>
    if view.target.isConst then fail (.constView .tuple (view.target.typeName types))
    else pure ⟨field.place, field.type, true⟩
  | none => fail (.fieldOutOfRange index)

/-- All fields in order. -/
def iter (view : TupleView) : List Part :=
  view.fields.map fun field => ⟨field.place, field.type, false⟩

/-- The debug form: the tuple of the fields. -/
def debug (types : Types) (view : TupleView) : Document :=
  .tuple "" (view.iter.map fun part => (view.target.borrow part).debug types)

end TupleView

namespace Any

/-- A const view of a value as a tuple. -/
def tuple (types : Types) (any : Any) : Attempt TupleView := TupleView.of types any.asRef

/-- A mutable view of a value as a tuple. -/
def tupleMut (types : Types) (any : Any) : Attempt TupleView := do
  TupleView.of types (← any.asMut types)

end Any

end Reflection
