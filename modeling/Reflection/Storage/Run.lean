import Reflection.Slots
import Reflection.Storage.Basic

/-!
# Runs over containers

A program keeps anys and views of anys under names, beside the variables that it lends to anys: what
a reference refers to is always one of these. Its steps make and change containers one part at a
time; what they store is computed on the anys that the containers make up. A value that a step makes
on its way lies in a temporary. An any that a step consumes is left empty, and one that was held
under a name is dropped when another is put there.
-/
namespace Reflection

/-- What holds a container. -/
inductive Holder where
  | any (name : String)
  /-- A view, which holds the any it was made of. -/
  | view (name : String)
  /-- The temporary of the step that is carried out. -/
  | temporary
  deriving DecidableEq, Repr

/-- A step of a program. -/
inductive Step where
  /-- Start a variable. -/
  | declare (content : Typed)
  /-- Set a variable to another value of its type. -/
  | store (address : Nat) (value : Value)
  | new (target : String) (content : Typed)
  | fromRef (target : String) (address : Nat)
  | fromMut (target : String) (address : Nat)
  | take (source target : String)
  | reset (target : String)
  | assign (target source : String)
  | write (target source : String)
  | setText (target : String) (text : String)
  | tryClone (source target : String)
  | intoOwned (source target : String)
  | intoRef (source : String) (type : Ty)
  | intoMut (source : String) (type : Ty)
  | downcast (source : String) (type : Ty)
  | view (source : String) (shape : ShapeKind) (target : String)
  | intoTarget (source target : String)
  deriving DecidableEq, Repr

/-- What a step answers. -/
inductive Reply where
  | done
  | failed (error : Error)
  /-- The address of a variable. -/
  | address (address : Nat)
  /-- A value that was moved out. -/
  | moved (value : Value)
  /-- The any that was passed is handed back. -/
  | handedBack
  /-- The step names no variable; no program contains it. -/
  | unknown
  deriving DecidableEq, Repr

/-- Memory and the containers of a program. -/
structure Machine where
  memory : Memory
  contents : Holder → Container

namespace Machine

/-- A program that has not done anything. -/
def fresh : Machine := ⟨.unused, fun _ => .vacant⟩

/-- The any that a holder holds. -/
def held (machine : Machine) (holder : Holder) : Any :=
  (machine.contents holder).held machine.memory

/-- Give a holder another container. -/
def set (machine : Machine) (holder : Holder) (container : Container) : Machine :=
  { machine with
    contents := fun other => if other = holder then container else machine.contents other }

/-- Drop what a holder holds, which leaves it empty. -/
def drop (machine : Machine) (holder : Holder) : Machine :=
  { machine.set holder .vacant with
    memory := (machine.contents holder).release machine.memory }

/-- Move what a holder holds to another, which drops what it held before. -/
def move (machine : Machine) (source target : Holder) : Machine :=
  let moved := machine.contents source
  ((machine.set source .vacant).drop target).set target moved

/-- Let a holder own the value of an any. -/
def place (types : Types) (machine : Machine) (holder : Holder) (any : Any) : Machine :=
  let machine := machine.drop holder
  match any with
  | .empty => machine
  | .held _ content =>
    let (container, memory) := Container.own types machine.memory content
    { machine.set holder container with memory }

/-- Let a holder refer to a variable. -/
def refer (machine : Machine) (holder : Holder) (address : Nat) (storage : Storage) :
    Reply × Machine :=
  match machine.memory.variableType address with
  | none => (.unknown, machine)
  | some type => (.done, (machine.drop holder).set holder ⟨some type, storage⟩)

/-- Replace what a pointer of a holder points to. -/
def overwrite (machine : Machine) (holder : Holder) (pointer : Pointer) (value : Value) :
    Machine :=
  let (container, memory) := (machine.contents holder).overwrite machine.memory value pointer
  { machine.set holder container with memory }

/-- Move the value of a temporary to where a pointer of a holder points. The value is not dropped
where it was; only its memory is freed. -/
def moveInto (machine : Machine) (target : Holder) (pointer : Pointer) : Machine :=
  match (machine.contents .temporary).value machine.memory with
  | none => machine
  | some value => (machine.overwrite target pointer value).drop .temporary

/-- Put an owned copy of an any under a name. -/
def copy (types : Types) (machine : Machine) (source target : String) : Reply × Machine :=
  match ((machine.held (.any source)).tryClone types).outcome with
  | .error error => (.failed error, machine)
  | .ok copy =>
    (.done, (machine.place types .temporary copy).move .temporary (.any target))

/-- Overwrite the value of an any with a copy or conversion of another. -/
def write (types : Types) (machine : Machine) (target source : String) : Reply × Machine :=
  let container := machine.contents (.any target)
  match container.record with
  | none => (.failed (.of (.emptyAny "write to")), machine)
  | some type =>
    match container.dataMut with
    | none => (.failed (.of (.constWrite (types.name type))), machine)
    | some pointer =>
      match ((machine.held (.any source)).writeSource types type).outcome with
      | .error error => (.failed error, machine)
      | .ok stored =>
        (.done, (machine.place types .temporary stored).moveInto (.any target) pointer)

/-- Replace the text of an any. -/
def setText (types : Types) (machine : Machine) (target text : String) : Reply × Machine :=
  let container := machine.contents (.any target)
  match container.record with
  | none => (.failed (.of (.emptyAny "assign a string to")), machine)
  | some type =>
    match (types.record type).string with
    | none => (.failed (.of (.notString (types.name type))), machine)
    | some shape =>
      match container.dataMut with
      | none => (.failed (.of (.readOnly (types.name type))), machine)
      | some pointer =>
        match container.read machine.memory pointer with
        | none => (.unknown, machine)
        | some value =>
          if shape.takes text then
            (.done, machine.overwrite (.any target) pointer
              (value.replace shape.place (.text text)))
          else (.failed (.of (.readOnly (types.name type))), machine)

/-- Put what an any holds under a name as an owned value: a copy if it is a reference. -/
def intoOwned (types : Types) (machine : Machine) (source target : String) : Reply × Machine :=
  if (machine.contents (.any source)).isRef then
    match ((machine.held (.any source)).tryClone types).outcome with
    | .error error => (.failed error, machine.drop (.any source))
    | .ok copy =>
      (.done,
        ((machine.place types .temporary copy).drop (.any source)).move .temporary (.any target))
  else (.done, machine.move (.any source) (.any target))

/-- Recover the variable that a reference was made of. -/
def intoBorrow (types : Types) (machine : Machine) (source : String) (type : Ty)
    (mutable : Bool) : Reply × Machine :=
  let reply :=
    match (machine.contents (.any source)).borrowed types type mutable with
    | .ok address => .address address
    | .error error => .failed error
  (reply, machine.drop (.any source))

/-- Move an owned value of exactly a type out; anything else is handed back. -/
def downcast (machine : Machine) (source : String) (type : Ty) : Reply × Machine :=
  let container := machine.contents (.any source)
  if container.isRef || !container.isExactly type then (.handedBack, machine)
  else match container.value machine.memory with
    | none => (.handedBack, machine)
    | some value => (.moved value, machine.drop (.any source))

/-- Turn an any into a view. -/
def view (types : Types) (machine : Machine) (source : String) (shape : ShapeKind)
    (target : String) : Reply × Machine :=
  match ((machine.held (.any source)).viewLength types shape).outcome with
  | .error error => (.failed error, machine.drop (.any source))
  | .ok _ => (.done, machine.move (.any source) (.view target))

/-- Carry out a step. -/
def perform (types : Types) (machine : Machine) : Step → Reply × Machine
  | .declare content =>
    (.address machine.memory.next,
      { machine with memory := machine.memory.allocate .program content })
  | .store address value =>
    match machine.memory.variableType address with
    | none => (.unknown, machine)
    | some _ => (.done, { machine with memory := machine.memory.store address value })
  | .new target content =>
    (.done, (machine.place types .temporary (.new content)).move .temporary (.any target))
  | .fromRef target address => machine.refer (.any target) address (.ref address)
  | .fromMut target address => machine.refer (.any target) address (.refMut address)
  | .take source target => (.done, machine.move (.any source) (.any target))
  | .reset target => (.done, machine.drop (.any target))
  | .assign target source => machine.copy types source target
  | .write target source => machine.write types target source
  | .setText target text => machine.setText types target text
  | .tryClone source target => machine.copy types source target
  | .intoOwned source target => machine.intoOwned types source target
  | .intoRef source type => machine.intoBorrow types source type false
  | .intoMut source type => machine.intoBorrow types source type true
  | .downcast source type => machine.downcast source type
  | .view source shape target => machine.view types source shape target
  | .intoTarget source target => (.done, machine.move (.view source) (.any target))

/-- What a run of steps leaves behind. Registrations may change the members of types between any
two steps, so every step comes with the members it finds. -/
def after (fixed : Universe) (machine : Machine) : List ((Ty → Members) × Step) → Machine
  | [] => machine
  | (members, step) :: rest => (machine.perform ⟨fixed, members⟩ step).2.after fixed rest

end Machine

end Reflection
