import Reflection.Dictionary
import Reflection.Record

/-!
# Members

What registration adds to a type: constructors, parents, conversions, constants, properties,
functions, and attributes on the type and on its members. Lists keep registration order,
dictionaries the order of names. Functions keep one list of overloads per name, so an overload is
known by its name and its position.
-/
namespace Reflection

/-- Attributes by the name of their type. -/
abbrev Attributes := Dictionary Typed

/-- What a function expects of one argument. -/
structure Parameter where
  type : Ty
  /-- Whether the argument is borrowed mutably. -/
  exclusive : Bool := false
  deriving DecidableEq, Repr

/-- A function over reflected values. The first argument may be a receiver that is borrowed; all
others are copied out of the arguments of a call. -/
structure Overload where
  receiver : Option Parameter := none
  copied : List Ty
  returns : Ty
  /-- The result and the receiver afterwards, from the receiver and the copied arguments. A
  function without receiver gets and returns the unit value in its place. -/
  body : Value → List Value → Value × Value
  attributes : Attributes := .empty

namespace Overload

/-- The parameters in order, the receiver first. -/
def parameters (overload : Overload) : List Parameter :=
  overload.receiver.toList ++ overload.copied.map (⟨·, false⟩)

/-- The number of arguments. -/
def arity (overload : Overload) : Nat := overload.parameters.length

/-- A function of copied arguments. -/
def function (copied : List Ty) (returns : Ty) (result : List Value → Value) : Overload where
  copied
  returns
  body receiver arguments := (result arguments, receiver)

/-- A function of a borrowed receiver and copied arguments. -/
def shared (receiver : Ty) (copied : List Ty) (returns : Ty)
    (result : Value → List Value → Value) : Overload where
  receiver := some { type := receiver }
  copied
  returns
  body receiver arguments := (result receiver arguments, receiver)

/-- A function of a mutably borrowed receiver and copied arguments. -/
def exclusive (receiver : Ty) (copied : List Ty) (returns : Ty)
    (body : Value → List Value → Value × Value) : Overload where
  receiver := some { type := receiver, exclusive := true }
  copied
  returns
  body

/-- The copy constructor of a type. -/
def copyConstructor (type : Ty) (clone : Value → Value := id) : Overload :=
  shared type [] type fun receiver _ => clone receiver

end Overload

/-- A named value of a type. -/
structure Constant where
  value : Typed
  attributes : Attributes := .empty

/-- A named, computed part of a type's values. -/
structure Property where
  /-- The type whose values have the property. -/
  owner : Ty
  type : Ty
  get : Value → Value
  /-- The owner with another value of the property, unless the property is read-only. -/
  set : Option (Value → Value → Value) := none
  attributes : Attributes := .empty

/-- A part of every value of a type that stands for the whole where a value of the part's type
is wanted. -/
structure Parent where
  type : Ty
  place : Path
  deriving DecidableEq, Repr

/-- A way to make a value of another type. -/
structure Conversion where
  target : Ty
  convert : Value → Value

/-- Everything registered about a type. -/
structure Members where
  constructors : List Overload := []
  parents : List Parent := []
  conversions : List Conversion := []
  constants : Dictionary Constant := .empty
  properties : Dictionary Property := .empty
  functions : Dictionary (List Overload) := .empty
  attributes : Attributes := .empty

namespace Members

/-- The overloads of a function, none where there is no such function. -/
def overloads (members : Members) (name : String) : List Overload :=
  (members.functions.find? name).getD []

/-- The members with one more overload of a function. -/
def addOverload (members : Members) (name : String) (overload : Overload) : Members :=
  { members with
    functions := members.functions.insert name (members.overloads name ++ [overload]) }

/-- The conversion to a type that was registered last. -/
def conversion? (members : Members) (target : Ty) : Option Conversion :=
  members.conversions.reverse.find? (·.target = target)

end Members

end Reflection
