import Reflection.Any.Copy

/-!
# Table views

A value whose type has a table shape can be viewed as entries of a key and a value. A key to look
up may have any type: it is bound to the key type along parents, or else converted. Keys of a
table are always const; values are mutable in a mutable view.
-/
namespace Reflection

/-- A value viewed as a table. -/
structure TableView where
  shape : TableShape
  target : Any

namespace TableView

/-- View a value as a table. -/
def of (types : Types) : Any → Attempt TableView
  | .empty => fail (.emptyAny "view as table")
  | target@(.held _ content) =>
    match (types.record content.type).table with
    | some shape => pure ⟨shape, target⟩
    | none => fail (.noShape (types.name content.type) .table)

/-- The entries as they are stored. -/
def stored (view : TableView) : List Value := (view.target.read view.shape.place).parts

/-- The number of entries. -/
def len (view : TableView) : Nat := view.stored.length

/-- Whether there is no entry. -/
def isEmpty (view : TableView) : Bool := view.len == 0

/-- The key of the entry at a position. -/
def keyPart (view : TableView) (index : Nat) : Part :=
  ⟨view.shape.place ++ [index, 0], view.shape.key, false⟩

/-- The value of the entry at a position. -/
def valuePart (view : TableView) (exclusive : Bool) (index : Nat) : Part :=
  ⟨view.shape.place ++ [index, 1], view.shape.value, exclusive⟩

/-- The keys and values of the entries, in order. -/
def entries (view : TableView) (exclusive : Bool) : List (Part × Part) :=
  (List.range view.len).map fun index => (view.keyPart index, view.valuePart exclusive index)

/-- The const entries. -/
def iter (view : TableView) : List (Part × Part) := view.entries false

/-- Fail for a view of a const value. -/
def requireMutable (types : Types) (view : TableView) : Attempt Unit :=
  if view.target.isConst then fail (.constView .table (view.target.typeName types))
  else pure ()

/-- The entries with mutable values. -/
def iterMut (types : Types) (view : TableView) : Attempt (List (Part × Part)) := do
  view.requireMutable types
  if view.shape.writable then pure (view.entries true)
  else fail (.frozen (view.target.typeName types))

/-- A key to look up as a value of the key type. -/
def bindKey (types : Types) (view : TableView) (key : Any) : Logged (Option Value) := do
  match ← key.asType types view.shape.key with
  | some part => pure (some (key.read part.path))
  | none =>
    let converted ← key.conv types (some view.shape.key)
    pure (converted.content?.map (·.value))

/-- The position of the entry with a key. Keys are compared by what they are made of: the types of
keys that are looked up have no other equality. -/
def position? (view : TableView) (key : Value) : Option Nat :=
  view.stored.findIdx? (fun entry => entry.part? [0] = some key)

/-- The value of the entry with a key. -/
def find (types : Types) (view : TableView) (key : Any) : Logged (Option Part) := do
  let bound ← view.bindKey types key
  pure (bound.bind view.position? |>.map (view.valuePart false))

/-- The value of the entry with a key, mutably; none in a view of a const value. -/
def findMut (types : Types) (view : TableView) (key : Any) : Logged (Option Part) := do
  let bound ← view.bindKey types key
  if view.target.isConst || !view.shape.writable then pure none
  else pure (bound.bind view.position? |>.map (view.valuePart true))

/-- Whether there is an entry with a key. -/
def contains (types : Types) (view : TableView) (key : Any) : Logged Bool := do
  pure (← view.find types key).isSome

/-- Why a key has no value. -/
def missingKey (types : Types) (view : TableView) (key : Any) : Cause :=
  .keyNotFound (key.debug types).compact (view.target.typeName types)

/-- The value of the entry with a key. -/
def get (types : Types) (view : TableView) (key : Any) : Attempt Part := do
  match ← Fallible.ofLogged (view.find types key) with
  | some part => pure part
  | none => fail (view.missingKey types key)

/-- The value of the entry with a key, mutably. -/
def getMut (types : Types) (view : TableView) (key : Any) : Attempt Part := do
  match ← Fallible.ofLogged (view.findMut types key) with
  | some part => pure part
  | none => fail (view.missingKey types key)

/-- The debug form: the map of the entries. -/
def debug (types : Types) (view : TableView) : Document :=
  .map (view.iter.map fun entry =>
    ((view.target.borrow entry.1).debug types, (view.target.borrow entry.2).debug types))

end TableView

namespace Any

/-- A const view of a value as a table. -/
def table (types : Types) (any : Any) : Attempt TableView := TableView.of types any.asRef

/-- A mutable view of a value as a table. -/
def tableMut (types : Types) (any : Any) : Attempt TableView := do
  TableView.of types (← any.asMut types)

end Any

end Reflection
