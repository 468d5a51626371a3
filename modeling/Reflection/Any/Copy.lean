import Reflection.Any.Call

/-!
# Copying and converting

A copy is made by the type's own capability or, lacking that, by a registered constructor that
takes a const reference to the type. A conversion to another type prefers the conversion
registered last and falls back on copying the parent of that type. Writing into a value stores a
copy of a source of the same type and the conversion of any other.
-/
namespace Reflection

namespace Overload

/-- Whether an overload makes a value from a const reference to a value of a type. -/
def copies (type : Ty) (overload : Overload) : Bool :=
  match overload.parameters with
  | [parameter] => !parameter.exclusive && parameter.type = type
  | _ => false

end Overload

namespace Any

/-- An owned copy of the value held. -/
def tryClone (types : Types) : Any → Attempt Any
  | .empty => pure .empty
  | any@(.held _ content) =>
    match (types.capabilities content.type).clone with
    | some clone => pure (.new ⟨content.type, clone content.value⟩)
    | none =>
      match (types.members content.type).constructors.find? (·.copies content.type) with
      | some constructor => do
        let (copy, _) ← (constructor.invoke types [any.asRef]).forget
        pure copy
      | none => fail (.notCopyable (types.name content.type))

/-- An owned copy of the value held, empty where it cannot be copied. -/
def cloneOrEmpty (types : Types) (any : Any) : Logged Any := do
  match ← (any.tryClone types).run with
  | .ok copy => pure copy
  | .error _ => pure .empty

/-- The value held as an owned value of another type, empty where there is no conversion. -/
def conv (types : Types) (target : Option Ty) : Any → Logged Any
  | .empty => pure .empty
  | any@(.held _ content) =>
    match target with
    | none => pure .empty
    | some target =>
      if content.type = target then any.cloneOrEmpty types
      else match (types.members content.type).conversion? target with
        | some conversion => pure (.new ⟨target, conversion.convert content.value⟩)
        | none => do
          match ← any.asType types target with
          | some part => (any.borrow part).cloneOrEmpty types
          | none => pure .empty

/-- The value held as an owned value of another type. -/
def tryConv (types : Types) (target : Option Ty) (any : Any) : Attempt Any := do
  if any.isEmpty then fail (.emptyAny "convert")
  else
    let converted ← Fallible.ofLogged (any.conv types target)
    if converted.isEmpty then
      fail (.noConversion (any.typeName types) ((target.map types.name).getD ""))
    else pure converted

/-- Make an any hold a copy of another. -/
def assign (types : Types) (destination source : Any) : Acted Any Error Unit :=
  Acting.on destination do
    let copy ← .attempt (source.tryClone types)
    set copy

/-- The value a write stores into a value of some type. -/
def writeSource (types : Types) (type : Ty) (source : Any) : Attempt Any := do
  if source.type? = some type then source.tryClone types
  else
    let converted ← Fallible.ofLogged (source.conv types (some type))
    if converted.isEmpty then
      fail (.typeMismatch (types.name type) (source.typeName types))
    else pure converted

/-- Write a source into the value held, which keeps its type. -/
def write (types : Types) (destination source : Any) : Acted Any Error Unit :=
  Acting.on destination <|
    match destination with
    | .empty => throw (.of (.emptyAny "write to"))
    | .held .shared content => throw (.of (.constWrite (types.name content.type)))
    | .held _ content => do
      let stored ← .attempt (writeSource types content.type source)
      set (destination.put [] (stored.read []))

/-- The value held as an owned value: moved if it was owned, copied otherwise. -/
def intoOwned (types : Types) (any : Any) : Attempt Any :=
  if any.isRef then any.tryClone types else pure any

end Any

namespace Types

/-- Whether a conversion from a type to another is expected to succeed. -/
def isConvertible (types : Types) (type target : Ty) : Bool :=
  (type = target && (types.capabilities type).clone.isSome) ||
    ((types.members type).conversion? target).isSome ||
    (types.inherits type target && (types.capabilities target).clone.isSome)

end Types

end Reflection
