import Reflection.Any.Copy

/-!
# How an any keeps its value

An any has two parts, which its operations set one after the other: the record of a type, and a
storage. A value that the any owns lies in the any itself if it fits, and in memory that was
allocated for it otherwise; a value that it refers to lies in a variable of the program. `Container`
keeps the two parts apart, `Memory` is what lies outside of all anys, and `Container.held` is the
any that they make up, on which the operations on values work.

Values need nothing done when they go, so all that dropping one does is to free its memory. A value
without size gets an address like every other.
-/
namespace Reflection

/-- Whom a cell of memory belongs to. -/
inductive Owner where
  /-- The program, as one of its variables. -/
  | program
  /-- The any whose value it holds. -/
  | any
  deriving DecidableEq, Repr

/-- A cell of memory and the value in it. -/
structure Cell where
  owner : Owner
  content : Typed
  deriving DecidableEq, Repr

/-- Cells by their addresses. No address at or above the next one is in use. -/
structure Memory where
  cells : Nat → Option Cell
  next : Nat

namespace Memory

/-- Memory of which nothing is in use. -/
def unused : Memory := ⟨fun _ => none, 0⟩

/-- Memory with another cell at an address, or without one. -/
def put (memory : Memory) (address : Nat) (cell : Option Cell) : Memory :=
  { memory with cells := fun other => if other = address then cell else memory.cells other }

/-- Put a value into a cell of its own, at the next address. -/
def allocate (memory : Memory) (owner : Owner) (content : Typed) : Memory :=
  { memory.put memory.next (some ⟨owner, content⟩) with next := memory.next + 1 }

/-- Take a cell out of use. -/
def free (memory : Memory) (address : Nat) : Memory := memory.put address none

/-- Replace the value in a cell by another of its type. -/
def store (memory : Memory) (address : Nat) (value : Value) : Memory :=
  memory.put address ((memory.cells address).map fun cell =>
    { cell with content := ⟨cell.content.type, value⟩ })

/-- The value in a cell. -/
def load (memory : Memory) (address : Nat) : Option Value :=
  (memory.cells address).map (·.content.value)

/-- What stays the same about a cell in use: whom it belongs to and the type of its value. -/
def tag (memory : Memory) (address : Nat) : Option (Owner × Ty) :=
  (memory.cells address).map fun cell => (cell.owner, cell.content.type)

/-- The type of the variable at an address, if there is one. -/
def variableType (memory : Memory) (address : Nat) : Option Ty :=
  match memory.tag address with
  | some (.program, type) => some type
  | _ => none

end Memory

/-- Where an any keeps its value. -/
inductive Storage where
  | empty
  /-- In the any itself. -/
  | inline (value : Value)
  /-- In memory allocated for it. -/
  | heap (address : Nat)
  /-- In a variable, behind a const reference. -/
  | ref (address : Nat)
  /-- In a variable, behind a mutable reference. -/
  | refMut (address : Nat)
  deriving DecidableEq, Repr

/-- What points to the value of an any. -/
inductive Pointer where
  /-- Into the any itself. -/
  | inside
  | cell (address : Nat)
  deriving DecidableEq, Repr

namespace Storage

/-- How a storage holds its value. -/
def access : Storage → Access
  | .ref _ => .shared
  | .refMut _ => .exclusive
  | _ => .owned

/-- The pointer to the value. -/
def pointer : Storage → Option Pointer
  | .empty => none
  | .inline _ => some .inside
  | .heap address | .ref address | .refMut address => some (.cell address)

/-- The pointer to the value where it may be written. -/
def pointerMut : Storage → Option Pointer
  | .ref _ => none
  | storage => storage.pointer

end Storage

/-- The two parts of an any: the record of the type of its value, and where the value lies. -/
structure Container where
  record : Option Ty := none
  storage : Storage := .empty
  deriving DecidableEq, Repr

namespace Container

/-- The container of nothing. -/
def vacant : Container := {}

/-- Whether nothing is held. -/
def isEmpty (container : Container) : Bool := container.record.isNone

/-- Whether the container refers to a value it does not own. -/
def isRef (container : Container) : Bool :=
  match container.storage with
  | .ref _ | .refMut _ => true
  | _ => false

/-- Whether the container is a const reference. -/
def isConst (container : Container) : Bool :=
  match container.storage with
  | .ref _ => true
  | _ => false

/-- Whether an owned value lies in the container itself. -/
def isLocal (container : Container) : Bool :=
  match container.storage with
  | .inline _ => true
  | _ => false

/-- The pointer to the value. -/
def data (container : Container) : Option Pointer := container.storage.pointer

/-- The pointer to the value, none for a const reference. -/
def dataMut (container : Container) : Option Pointer := container.storage.pointerMut

/-- What a pointer points to. -/
def read (memory : Memory) (container : Container) : Pointer → Option Value
  | .inside =>
    match container.storage with
    | .inline value => some value
    | _ => none
  | .cell address => memory.load address

/-- The value held. -/
def value (memory : Memory) (container : Container) : Option Value :=
  container.data.bind (container.read memory)

/-- The any that the two parts make up. -/
def held (memory : Memory) (container : Container) : Any :=
  match container.record, container.value memory with
  | some type, some value => .held container.storage.access ⟨type, value⟩
  | _, _ => .empty

/-- Replace what a pointer points to. -/
def overwrite (memory : Memory) (container : Container) (value : Value) :
    Pointer → Container × Memory
  | .inside => ({ container with storage := .inline value }, memory)
  | .cell address => (container, memory.store address value)

/-- Take ownership of a value: it is put into its place first, and the record is set last. -/
def own (types : Types) (memory : Memory) (content : Typed) : Container × Memory :=
  let (placed, memory) :=
    if (types.record content.type).layout.fitsInline then
      ({ vacant with storage := .inline content.value }, memory)
    else ({ vacant with storage := .heap memory.next }, memory.allocate .any content)
  ({ placed with record := some content.type }, memory)

/-- Memory once the value is dropped, if it is owned. -/
def release (memory : Memory) (container : Container) : Memory :=
  match container.record, container.storage with
  | some _, .heap address => memory.free address
  | _, _ => memory

/-- The variable that a reference refers to, if it is exactly of a type and, where it is to be
borrowed mutably, the reference is not const. -/
def borrowed (types : Types) (container : Container) (type : Ty) (mutable : Bool) :
    Except Error Nat :=
  match container.record with
  | none => .error (.of (.emptyAny "borrow from"))
  | some own =>
    if own ≠ type then .error (.of (.typeMismatch (types.name type) (types.name own)))
    else match container.storage with
      | .refMut address => .ok address
      | .ref address =>
        if mutable then .error (.of (.constBorrow (types.name own))) else .ok address
      | _ => .error (.of (.owned (types.name own)))

/-- Whether there is a value of exactly a type. -/
def isExactly (type : Ty) (container : Container) : Bool :=
  container.record = some type && container.data.isSome

end Container

end Reflection
