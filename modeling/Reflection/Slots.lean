import Reflection.Any.Property
import Reflection.Any.Route

/-!
# Slots

Slots are named variables that hold anys. An operation acts on the place a route leads to from a
slot, and what it changes there is changed in the value the slot holds, whether or not it fails
afterwards. Operations that consume a slot empty it either way.
-/
namespace Reflection

/-- Anys by the names of the slots that hold them. -/
abbrev Slots := Dictionary Any

/-- A slot and a route from it. -/
structure Location where
  slot : String
  route : List Accessor := []
  deriving DecidableEq, Repr

/-- A value an operation only reads: one of its own, or one in a slot. -/
inductive Operand where
  | value (any : Any)
  | held (location : Location)
  deriving DecidableEq, Repr

/-- How an argument of a call is taken from a slot. -/
inductive Passing where
  /-- By const reference. -/
  | shared
  /-- By mutable reference. -/
  | exclusive
  /-- Moved out, which empties the slot. -/
  | moved
  deriving DecidableEq, Repr

/-- An argument of a call. -/
inductive Argument where
  | value (any : Any)
  | slot (name : String) (passing : Passing)
  deriving DecidableEq, Repr

/-- How a value can be viewed, with the length of the view where it is known. -/
def Any.viewLength (types : Types) (any : Any) : ShapeKind → Attempt (Option Nat)
  | .range => do pure (← RangeView.of types any).len
  | .table => do pure (some (← TableView.of types any).len)
  | .tuple => do pure (some (← TupleView.of types any).len)

namespace Slots

/-- What a slot holds; one that was never filled is empty. -/
def holding (slots : Slots) (name : String) : Any := (slots.find? name).getD .empty

/-- Put an any into a slot. -/
def keep (slots : Slots) (name : String) (any : Any) : Slots := slots.insert name any

/-- Leave a slot empty. -/
def vacate (slots : Slots) (name : String) : Slots := slots.keep name .empty

/-- The place of a location. -/
def locate (types : Types) (slots : Slots) (location : Location) : Attempt Place :=
  (Place.root (slots.holding location.slot)).follow types location.route

/-- The slots after the value at a place has become that of an any. -/
def update (slots : Slots) (slot : String) (place : Place) (any : Any) : Slots :=
  match any.content? with
  | some content => slots.keep slot ((slots.holding slot).put place.path content.value)
  | none => slots

/-- The any an operand stands for. -/
def operand (types : Types) (slots : Slots) : Operand → Attempt Any
  | .value any => pure any
  | .held location => do pure (← slots.locate types location).any

/-- Write an operand at a location: what is there afterwards. -/
def write (types : Types) (slots : Slots) (location : Location) (source : Operand) :
    Acted Slots Error Any :=
  Acting.on slots do
    let place ← .attempt (slots.locate types location)
    let source ← .attempt (slots.operand types source)
    let (_, written) ← .within (slots.update location.slot place) (place.any.write types source)
    pure written

/-- Assign a text at a location: what is there afterwards. -/
def setText (types : Types) (slots : Slots) (location : Location) (text : String) :
    Acted Slots Error Any :=
  Acting.on slots do
    let place ← .attempt (slots.locate types location)
    let (_, changed) ← .within (slots.update location.slot place) (place.any.setText types text)
    pure changed

/-- Replace the value at a location if it is exactly of a type; whether it was. -/
def replace (types : Types) (slots : Slots) (location : Location) (new : Typed) :
    Acted Slots Error Bool :=
  Acting.on slots do
    let place ← .attempt (slots.locate types location)
    match place.any.set? new.type new.value with
    | some changed =>
      set (slots.update location.slot place changed)
      pure true
    | none => pure false

/-- Replace the part of a type that a mutable cast leads to: what it was. -/
def replaceCast (types : Types) (slots : Slots) (location : Location) (new : Typed) :
    Acted Slots Error Any :=
  Acting.on slots do
    let place ← .attempt (slots.locate types location)
    let part ← .attempt (place.any.castMut types new.type)
    set (slots.update location.slot place (place.any.put part.path new.value))
    pure (place.any.borrow part)

/-- Make a slot hold a copy of an any. -/
def assign (types : Types) (slots : Slots) (name : String) (source : Operand) :
    Acted Slots Error Unit :=
  Acting.on slots do
    let source ← .attempt (slots.operand types source)
    let _ ← .within (slots.keep name) ((slots.holding name).assign types source)
    pure ()

/-- Make a mutable reference to a location hold a copy instead; the location is not written. -/
def assignReference (types : Types) (slots : Slots) (location : Location) (source : Operand) :
    Attempt Any := do
  let place ← slots.locate types location
  let source ← slots.operand types source
  let (_, reference) ← ((← place.any.asMut types).assign types source).forget
  pure reference

/-- Take what a slot holds. -/
def take (slots : Slots) (name : String) : Any × Slots :=
  let (taken, left) := (slots.holding name).take
  (taken, slots.keep name left)

/-- Turn the reference in a slot into what it refers to. -/
def intoRef (types : Types) (slots : Slots) (name : String) (type : Ty) :
    Attempt Value × Slots :=
  ((slots.holding name).intoRef types type, slots.vacate name)

/-- Turn the mutable reference in a slot into what it refers to. -/
def intoMut (types : Types) (slots : Slots) (name : String) (type : Ty) :
    Attempt Value × Slots :=
  ((slots.holding name).intoMut types type, slots.vacate name)

/-- Move a value of exactly a type out of a slot and back as an owned value; whether it was one. -/
def downcast (slots : Slots) (name : String) (type : Ty) : Bool × Slots :=
  match (slots.holding name).downcast type with
  | .ok value => (true, slots.keep name (.new ⟨type, value⟩))
  | .error any => (false, slots.keep name any)

/-- The slots after what a slot held was consumed, giving another any or an error. -/
def settle (slots : Slots) (name : String) (attempt : Attempt Any) :
    Logged (Except Error Any × Slots) := do
  match ← attempt.run with
  | .ok any => pure (.ok any, slots.keep name any)
  | .error error => pure (.error error, slots.vacate name)

/-- Turn what a slot holds into an owned value. -/
def intoOwned (types : Types) (slots : Slots) (name : String) :
    Logged (Except Error Any × Slots) :=
  slots.settle name ((slots.holding name).intoOwned types)

/-- View what a slot holds and take it back out of the view. -/
def throughView (types : Types) (slots : Slots) (name : String) (shape : ShapeKind) :
    Logged (Except Error Any × Slots) :=
  slots.settle name do
    let _ ← (slots.holding name).viewLength types shape
    pure (slots.holding name)

/-- What became of one write among several: whether its target was const, and the error. -/
structure WriteReport where
  const : Bool
  result : Except Error Unit

/-- Write an any to a part of the value at a place. -/
def writePart (types : Types) (slots : Slots) (slot : String) (place : Place) (part : Part)
    (source : Any) : Logged (WriteReport × Slots) := do
  let target := (place.enter (some part))
  let current := (Place.mk ((slots.holding slot).borrow ⟨target.path, part.type, part.exclusive⟩)
    target.path)
  let (result, written) ← current.any.write types source
  pure (⟨!part.exclusive, result⟩, slots.update slot current written)

/-- Write anys to parts in turn, as far as there are parts. -/
def writeParts (types : Types) (slots : Slots) (slot : String) (place : Place) :
    List (Option Part × Any) → Logged (List (Option WriteReport) × Slots)
  | [] => pure ([], slots)
  | (none, _) :: rest => do
    let (reports, slots) ← slots.writeParts types slot place rest
    pure (none :: reports, slots)
  | (some part, source) :: rest => do
    let (report, slots) ← slots.writePart types slot place part source
    let (reports, slots) ← slots.writeParts types slot place rest
    pure (some report :: reports, slots)

/-- Walk over the mutable items of a range from one end and write one any to each. -/
def writeRange (types : Types) (slots : Slots) (location : Location) (const : Bool) (side : End)
    (sources : List Any) : Acted Slots Error (List (Option WriteReport)) :=
  Acting.on slots do
    let place ← .attempt (slots.locate types location)
    let view ← .attempt (place.any.rangeView types const)
    let cursor ← .attempt (view.iterMut types)
    let parts := cursor.walk (sources.map fun _ => side)
    let (reports, written) ← .attempt
      (.ofLogged (slots.writeParts types location.slot place (parts.zip sources)))
    set written
    pure reports

/-- Write an any to every value of a table: whether each key is const, and what became of the
write. -/
def writeTable (types : Types) (slots : Slots) (location : Location) (const : Bool)
    (source : Any) : Acted Slots Error (List (Bool × WriteReport)) :=
  Acting.on slots do
    let place ← .attempt (slots.locate types location)
    let view ← .attempt (place.any.tableView types const)
    let entries ← .attempt (view.iterMut types)
    let (reports, written) ← .attempt (.ofLogged (slots.writeParts types location.slot place
      (entries.map fun entry => (some entry.2, source))))
    set written
    pure ((entries.zip reports).filterMap fun (entry, report) =>
      report.map fun report => (!entry.1.exclusive, report))

/-- Write an operand to a property of the value at a location: the value afterwards. -/
def writeProperty (types : Types) (slots : Slots) (location : Location) (name : String)
    (property : Property) (source : Operand) : Acted Slots Error Any :=
  Acting.on slots do
    let place ← .attempt (slots.locate types location)
    let source ← .attempt (slots.operand types source)
    let (_, changed) ← .within (slots.update location.slot place)
      (property.write types name source place.any)
    pure changed

/-- Take one argument out of its slot. -/
def pass (types : Types) (slots : Slots) (name : String) : Passing → Attempt (Any × Slots)
  | .shared => pure ((slots.holding name).asRef, slots)
  | .exclusive => do pure (← (slots.holding name).asMut types, slots)
  | .moved => pure (slots.take name)

/-- Take arguments out of their slots one after another, each under its position. -/
def passAll (types : Types) (slots : Slots) :
    List (Nat × String × Passing) → Logged (Except Error (List (Nat × Any)) × Slots)
  | [] => pure (.ok [], slots)
  | (position, name, passing) :: rest => do
    match ← (slots.pass types name passing).run with
    | .error error => pure (.error error, slots)
    | .ok (any, slots) =>
      let (others, slots) ← slots.passAll types rest
      pure (others.map ((position, any) :: ·), slots)

/-- The arguments that come from slots, with their positions, in the order of the slots' names. -/
def borrowed (arguments : List Argument) : List (Nat × String × Passing) :=
  ((arguments.zipIdx).filterMap fun (argument, position) =>
    match argument with
    | .slot name passing => some (position, name, passing)
    | .value _ => none).mergeSort fun left right => left.2.1 ≤ right.2.1

/-- The arguments of a call, taken from the slots in the order of the slots' names. A slot that was
moved out stays empty even if a later one cannot be borrowed. -/
def prepare (types : Types) (slots : Slots) (arguments : List Argument) :
    Logged (Except Error (List Any) × Slots) := do
  let (passed, slots) ← slots.passAll types (borrowed arguments)
  let anys := passed.map fun passed => arguments.mapIdx fun position argument =>
    match argument with
    | .value any => any
    | .slot .. => (passed.lookup position).getD .empty
  pure (anys, slots)

/-- The slots after a call changed what was borrowed mutably. -/
def giveBack (slots : Slots) : List (Argument × Any) → Slots
  | [] => slots
  | (.slot name .exclusive, any) :: rest =>
    (slots.update name (.root (slots.holding name)) any).giveBack rest
  | _ :: rest => slots.giveBack rest

/-- Call something with arguments from the slots, which are given back whether or not it fails. -/
def call (types : Types) (slots : Slots) (arguments : List Argument)
    (callee : List Any → Acted (List Any) Error Any) :
    Logged (Except Error Any × Slots) := do
  match ← slots.prepare types arguments with
  | (.error error, slots) => pure (.error error, slots)
  | (.ok anys, slots) =>
    let (answer, after) ← callee anys
    pure (answer, slots.giveBack (arguments.zip after))

end Slots

end Reflection
