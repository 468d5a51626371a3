import Reflection.Acting
import Reflection.Types

/-!
# Any

An any is empty, or holds a value of some type: as its owner, or through a const or a mutable
reference. A reference has its value to itself for as long as it lives, so the value is kept with
the any; what sets the three apart is what each lets a caller do.

A `Part` names a sub-object of a held value by its path. Borrowing it (`Any.borrow`) gives an any
that refers to the sub-object, and writing it (`Any.put`) changes the value held at that path
alone.
-/
namespace Reflection

/-- How a value is held. -/
inductive Access where
  /-- The value belongs to the any. -/
  | owned
  /-- A const reference. -/
  | shared
  /-- A mutable reference. -/
  | exclusive
  deriving DecidableEq, Repr

/-- A value whose type is known only when the program runs, or nothing. -/
inductive Any where
  | empty
  | held (access : Access) (content : Typed)
  deriving DecidableEq, Repr, Inhabited

/-- A sub-object of a value: where it lies, its type, and whether it is reached mutably. -/
structure Part where
  path : Path
  type : Ty
  exclusive : Bool
  deriving DecidableEq, Repr

/-- How a reference to a part holds it. -/
def Part.access (part : Part) : Access := if part.exclusive then .exclusive else .shared

namespace Any

/-- An any that owns a value. -/
def new (content : Typed) : Any := .held .owned content

/-- The value held, with its type. -/
def content? : Any → Option Typed
  | .empty => none
  | .held _ content => some content

/-- The type of the value held. -/
def type? (any : Any) : Option Ty := any.content?.map (·.type)

/-- The name of the type of the value held, empty where there is none. -/
def typeName (types : Types) (any : Any) : String :=
  match any.type? with
  | some type => types.name type
  | none => ""

/-- Whether no value is held. -/
def isEmpty : Any → Bool
  | .empty => true
  | .held .. => false

/-- Whether the any refers to a value it does not own. -/
def isRef : Any → Bool
  | .held .shared _ | .held .exclusive _ => true
  | _ => false

/-- Whether the any is a const reference. -/
def isConst : Any → Bool
  | .held .shared _ => true
  | _ => false

/-- Whether the any owns a value stored inline. -/
def isLocal (types : Types) : Any → Bool
  | .held .owned content => (types.record content.type).layout.fitsInline
  | _ => false

/-- Whether the value can be read. -/
def hasData (any : Any) : Bool := !any.isEmpty

/-- Whether the value can be written. -/
def hasDataMut (any : Any) : Bool := !any.isEmpty && !any.isConst

/-- A const reference to the value held. -/
def asRef : Any → Any
  | .empty => .empty
  | .held _ content => .held .shared content

/-- A mutable reference to the value held. -/
def asMut (types : Types) : Any → Attempt Any
  | .empty => pure .empty
  | .held .shared content => fail (.constBorrow (types.name content.type))
  | .held _ content => pure (.held .exclusive content)

/-- The value held, if it is exactly of a type. -/
def get? (type : Ty) : Any → Option Value
  | .empty => none
  | .held _ content => if content.type = type then some content.value else none

/-- The any with another value of the same type, if it holds one of exactly that type and may be
written. -/
def set? (type : Ty) (value : Value) : Any → Option Any
  | .empty | .held .shared _ => none
  | .held access content => if content.type = type then some (.held access ⟨type, value⟩) else none

/-- A reference to a part of the value held; empty where there is no such part. -/
def borrow (any : Any) (part : Part) : Any :=
  match any with
  | .empty => .empty
  | .held _ content =>
    match content.value.part? part.path with
    | some value => .held part.access ⟨part.type, value⟩
    | none => .empty

/-- The value at a path, the unit value where there is none. -/
def read (any : Any) (path : Path) : Value :=
  match any with
  | .empty => .unit
  | .held _ content => (content.value.part? path).getD .unit

/-- The any with another value at a path. -/
def put (any : Any) (path : Path) (value : Value) : Any :=
  match any with
  | .empty => .empty
  | .held access content => .held access ⟨content.type, content.value.replace path value⟩

/-- The debug form of an any. -/
def debug (types : Types) : Any → Document
  | .empty => .text "Any(empty)"
  | .held _ content =>
    match (types.capabilities content.type).debug with
    | some debug => debug content.value
    | none => .text s!"Any<{types.name content.type}>"

/-- Whether two anys hold equal values of one type that can be compared. -/
def eq (types : Types) : Any → Any → Bool
  | .held _ left, .held _ right =>
    left.type = right.type &&
      match (types.capabilities left.type).eq with
      | some eq => eq left.value right.value
      | none => false
  | _, _ => false

/-- How two anys compare, if they hold values of one type that is ordered. -/
def cmp (types : Types) : Any → Any → Option Ordering
  | .held _ left, .held _ right =>
    if left.type = right.type then
      match (types.capabilities left.type).cmp with
      | some cmp => cmp left.value right.value
      | none => none
    else none
  | _, _ => none

/-- Whether an any compares as less than another. -/
def lt (types : Types) (left right : Any) : Bool := left.cmp types right == some .lt

/-- Whether an any compares as not less than another. -/
def ge (types : Types) (left right : Any) : Bool :=
  match left.cmp types right with
  | some order => order.isGE
  | none => false

/-- The text held, if the type has text. -/
def text? (types : Types) : Any → Option String
  | .empty => none
  | .held _ content =>
    match (types.record content.type).string with
    | some shape =>
      match content.value.part? shape.place with
      | some (.text text) => some text
      | _ => none
    | none => none

/-- Assign a text to the value held. -/
def setText (types : Types) (text : String) (any : Any) : Acted Any Error Unit :=
  Acting.on any <|
    match any with
    | .empty => throw (.of (.emptyAny "assign a string to"))
    | .held access content =>
      match (types.record content.type).string with
      | none => throw (.of (.notString (types.name content.type)))
      | some shape =>
        if access = .shared || !shape.takes text then
          throw (.of (.readOnly (types.name content.type)))
        else set (any.put shape.place (.text text))

/-- What was held, and the empty any left behind. -/
def take (any : Any) : Any × Any := (any, .empty)

/-- The value a reference refers to, for as long as the value lives. -/
def intoRef (types : Types) (type : Ty) : Any → Attempt Value
  | .empty => fail (.emptyAny "borrow from")
  | .held access content =>
    if content.type ≠ type then
      fail (.typeMismatch (types.name type) (types.name content.type))
    else if access = .owned then fail (.owned (types.name content.type))
    else pure content.value

/-- The value a mutable reference refers to, for as long as the value lives. -/
def intoMut (types : Types) (type : Ty) : Any → Attempt Value
  | .empty => fail (.emptyAny "borrow from")
  | .held access content =>
    if content.type ≠ type then
      fail (.typeMismatch (types.name type) (types.name content.type))
    else match access with
      | .owned => fail (.owned (types.name content.type))
      | .shared => fail (.constBorrow (types.name content.type))
      | .exclusive => pure content.value

/-- Move the value out if it is owned and exactly of a type; anything else is handed back. -/
def downcast (type : Ty) : Any → Except Any Value
  | any@(.held .owned content) => if content.type = type then .ok content.value else .error any
  | any => .error any

/-- Borrowing a part and reading it back gives the part. -/
theorem borrow_eq {access : Access} {content : Typed} {part : Part} {value : Value}
    (found : content.value.part? part.path = some value) :
    (held access content).borrow part = .held part.access ⟨part.type, value⟩ := by
  simp [borrow, found]

end Any

end Reflection
