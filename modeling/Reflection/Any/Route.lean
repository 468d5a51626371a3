import Reflection.Any.Cast
import Reflection.View.Range
import Reflection.View.Table
import Reflection.View.Tuple

/-!
# Routes of accessors

An accessor borrows a part of an any; a route is a chain of accessors, each applied to what the
one before it borrowed. A route ends in a place: the any borrowed last and the path at which it
lies in the value the route started from. Accessors that look for something end in an empty any
where there is nothing.
-/
namespace Reflection

/-- One way to borrow from an any. What a view gives, it gives through a const or a mutable view;
its mutable accessors may be tried on a const view as well. -/
inductive Accessor where
  /-- A const reference to the whole. -/
  | shared
  /-- A mutable reference to the whole. -/
  | exclusive
  | asType (target : Ty)
  | asTypeMut (target : Ty)
  | field (index : Nat) (constView : Bool := true)
  | fieldMut (index : Nat) (constView : Bool)
  | item (index : Nat) (constView : Bool := true)
  | itemMut (index : Nat) (constView : Bool)
  | front (constView : Bool := true)
  | back (constView : Bool := true)
  /-- An item counted from the front of a walk. -/
  | walk (steps : Nat) (constView : Bool := true)
  /-- An item counted from the front of a walk over mutable items. -/
  | walkMut (steps : Nat) (constView : Bool)
  /-- The item that a walk gives last when it is continued from some ends in turn. -/
  | visit (ends : List End) (constView : Bool := true)
  /-- The item that a walk over mutable items gives last. -/
  | visitMut (ends : List End) (constView : Bool)
  | value (key : Any) (constView : Bool := true)
  | valueMut (key : Any) (constView : Bool)
  | find (key : Any) (constView : Bool := true)
  | findMut (key : Any) (constView : Bool)
  /-- The key of an entry, counted along a walk over entries. -/
  | entryKey (index : Nat) (constView : Bool := true)
  | entryValue (index : Nat) (constView : Bool := true)
  /-- The key of an entry, counted along a walk over entries with mutable values. -/
  | entryKeyMut (index : Nat) (constView : Bool)
  | entryValueMut (index : Nat) (constView : Bool)
  deriving DecidableEq, Repr

/-- An any and the path at which its value lies in the value it was borrowed from. -/
structure Place where
  any : Any
  path : Path
  deriving DecidableEq, Repr, Inhabited

namespace Any

/-- The part that is the whole value. -/
def whole (any : Any) (exclusive : Bool) : Option Part :=
  any.type?.map fun type => ⟨[], type, exclusive⟩

/-- A range view, const on request and mutable otherwise. -/
def rangeView (types : Types) (any : Any) (const : Bool) : Attempt RangeView :=
  if const then any.range types else any.rangeMut types

/-- A table view, const on request and mutable otherwise. -/
def tableView (types : Types) (any : Any) (const : Bool) : Attempt TableView :=
  if const then any.table types else any.tableMut types

/-- A tuple view, const on request and mutable otherwise. -/
def tupleView (types : Types) (any : Any) (const : Bool) : Attempt TupleView :=
  if const then any.tuple types else any.tupleMut types

/-- The part of an any that an accessor borrows, if there is one. -/
def access (types : Types) (any : Any) : Accessor → Attempt (Option Part)
  | .shared => pure (any.whole false)
  | .exclusive => do
    let _ ← any.asMut types
    pure (any.whole true)
  | .asType target => Fallible.ofLogged (any.asType types target)
  | .asTypeMut target => Fallible.ofLogged (any.asTypeMut types target)
  | .field index const => do (← any.tupleView types const).get index
  | .fieldMut index const => do (← any.tupleView types const).getMut types index
  | .item index const => do (← any.rangeView types const).get types index
  | .itemMut index const => do (← any.rangeView types const).getMut types index
  | .front const => do pure (← any.rangeView types const).front
  | .back const => do pure (← any.rangeView types const).back
  | .walk steps const => do pure (← any.rangeView types const).iter.remaining[steps]?
  | .walkMut steps const => do
    let cursor ← (← any.rangeView types const).iterMut types
    pure cursor.remaining[steps]?
  | .visit ends const => do pure ((← any.rangeView types const).iter.visit ends)
  | .visitMut ends const => do
    let cursor ← (← any.rangeView types const).iterMut types
    pure (cursor.visit ends)
  | .value key const => do (← any.tableView types const).get types key
  | .valueMut key const => do (← any.tableView types const).getMut types key
  | .find key const => do
    let view ← any.tableView types const
    Fallible.ofLogged (view.find types key)
  | .findMut key const => do
    let view ← any.tableView types const
    Fallible.ofLogged (view.findMut types key)
  | .entryKey index const => do
    pure ((← any.tableView types const).iter[index]?.map (·.1))
  | .entryValue index const => do
    pure ((← any.tableView types const).iter[index]?.map (·.2))
  | .entryKeyMut index const => do
    let entries ← (← any.tableView types const).iterMut types
    pure (entries[index]?.map (·.1))
  | .entryValueMut index const => do
    let entries ← (← any.tableView types const).iterMut types
    pure (entries[index]?.map (·.2))

end Any

namespace Place

/-- The place of a whole value. -/
def root (any : Any) : Place := ⟨any, []⟩

/-- The place of nothing. -/
def nowhere : Place := ⟨.empty, []⟩

/-- The place of a part of the any at a place. -/
def enter (place : Place) : Option Part → Place
  | some part => ⟨place.any.borrow part, place.path ++ part.path⟩
  | none => nowhere

/-- The place that a route leads to from another. -/
def follow (types : Types) (place : Place) : List Accessor → Attempt Place
  | [] => pure place
  | accessor :: route => do
    let part ← place.any.access types accessor
    (place.enter part).follow types route

end Place

end Reflection
