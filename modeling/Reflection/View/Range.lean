import Reflection.Any.Basic

/-!
# Range views

A value whose type has a range shape can be viewed as the sequence of its items. Each item is a
part of the value; walking gives these parts one by one from either end (`Cursor`), and indexing
gives them by position. A const view gives const parts only.
-/
namespace Reflection

/-- A walk over the parts of a value that have not been visited. -/
structure Cursor where
  remaining : List Part
  /-- Whether the walk can go on from the end. -/
  doubleEnded : Bool
  deriving DecidableEq, Repr

/-- An end from which a walk is continued. -/
inductive End where
  | front
  | back
  deriving DecidableEq, Repr

namespace Cursor

/-- The next part from the front, and the rest of the walk. -/
def next (cursor : Cursor) : Option Part × Cursor :=
  match cursor.remaining with
  | [] => (none, cursor)
  | part :: rest => (some part, { cursor with remaining := rest })

/-- The next part from the end, and the rest of the walk. A walk that goes forward only gives
nothing and stays where it is. -/
def nextBack (cursor : Cursor) : Option Part × Cursor :=
  if cursor.doubleEnded then
    (cursor.remaining.getLast?, { cursor with remaining := cursor.remaining.dropLast })
  else (none, cursor)

/-- What a walk gives when it is continued from one end or the other, in turn. -/
def walk (cursor : Cursor) : List End → List (Option Part)
  | [] => []
  | .front :: ends => cursor.next.1 :: cursor.next.2.walk ends
  | .back :: ends => cursor.nextBack.1 :: cursor.nextBack.2.walk ends

/-- What a walk gives last when it is continued from some ends in turn. -/
def visit (cursor : Cursor) (ends : List End) : Option Part := (cursor.walk ends).getLast?.join

end Cursor

/-- A value viewed as a range. -/
structure RangeView where
  shape : RangeShape
  target : Any

namespace RangeView

/-- View a value as a range. -/
def of (types : Types) : Any → Attempt RangeView
  | .empty => fail (.emptyAny "view as range")
  | target@(.held _ content) =>
    match (types.record content.type).range with
    | some shape => pure ⟨shape, target⟩
    | none => fail (.noShape (types.name content.type) .range)

/-- The number of items. -/
def count (view : RangeView) : Nat := (view.target.read view.shape.place).parts.length

/-- The part that holds the item at a position. -/
def item (view : RangeView) (exclusive : Bool) (index : Nat) : Part :=
  ⟨view.shape.place ++ [index], view.shape.item, exclusive⟩

/-- The parts that hold the items, in order. -/
def items (view : RangeView) (exclusive : Bool) : List Part :=
  (List.range view.count).map (view.item exclusive)

/-- The number of items, where it is known without walking. -/
def len (view : RangeView) : Option Nat := if view.shape.sized then some view.count else none

/-- A walk over const items. -/
def iter (view : RangeView) : Cursor := ⟨view.items false, view.shape.isBidirectional⟩

/-- Whether there is no item. -/
def isEmpty (view : RangeView) : Bool :=
  match view.len with
  | some length => length == 0
  | none => view.iter.next.1.isNone

/-- Fail for a view of a const value. -/
def requireMutable (types : Types) (view : RangeView) : Attempt Unit :=
  if view.target.isConst then fail (.constView .range (view.target.typeName types))
  else pure ()

/-- A walk over mutable items. -/
def iterMut (types : Types) (view : RangeView) : Attempt Cursor := do
  view.requireMutable types
  if view.shape.writable then pure ⟨view.items true, view.shape.isBidirectional⟩
  else fail (.frozen (view.target.typeName types))

/-- The first item. -/
def front (view : RangeView) : Option Part := view.iter.next.1

/-- The last item; none where the range is walked forward only. -/
def back (view : RangeView) : Option Part := view.iter.nextBack.1

/-- Fail for a range that cannot be indexed. -/
def requireRandomAccess (types : Types) (view : RangeView) : Attempt Unit :=
  if view.shape.isRandomAccess then pure ()
  else fail (.notRandomAccess (view.target.typeName types))

/-- The item at a position. -/
def get (types : Types) (view : RangeView) (index : Nat) : Attempt Part := do
  view.requireRandomAccess types
  if index < view.count then pure (view.item false index) else fail (.indexOutOfRange index)

/-- The item at a position, mutably. -/
def getMut (types : Types) (view : RangeView) (index : Nat) : Attempt Part := do
  view.requireRandomAccess types
  view.requireMutable types
  if view.shape.writable && index < view.count then pure (view.item true index)
  else fail (.indexOutOfRange index)

/-- The debug form: the list of the items. -/
def debug (types : Types) (view : RangeView) : Document :=
  .list ((view.items false).map fun part => (view.target.borrow part).debug types)

end RangeView

namespace Any

/-- A const view of a value as a range. -/
def range (types : Types) (any : Any) : Attempt RangeView := RangeView.of types any.asRef

/-- A mutable view of a value as a range. -/
def rangeMut (types : Types) (any : Any) : Attempt RangeView := do
  RangeView.of types (← any.asMut types)

end Any

end Reflection
