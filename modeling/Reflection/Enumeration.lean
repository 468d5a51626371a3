import Reflection.Any.Copy
import Reflection.Text.Integer

/-!
# Enumerations as text

A value of an enumeration is written as the name of the first constant of its type with an equal
underlying integer, or as that integer where no constant matches. Reading accepts either form: a
name stands for its constant only if that is of the type read, and an integer must be the
underlying integer of some value.
-/
namespace Reflection

namespace Types

/-- The enumeration of a type, or the error that it is none. -/
def enumeration (types : Types) (type : Option Ty) : Attempt (Ty × Enumeration) :=
  match type with
  | none => fail (.notEnum "")
  | some type =>
    match (types.record type).enumeration with
    | some enumeration => pure (type, enumeration)
    | none => fail (.notEnum (types.name type))

/-- The underlying integer of a value, as an any. -/
def underlying (enumeration : Enumeration) (value : Value) : Any :=
  .new ⟨enumeration.underlying, enumeration.toUnderlying value⟩

/-- The text of a value of an enumeration. -/
def enumToString (types : Types) : Any → Attempt String
  | .empty => fail (.emptyAny "enum_to_string")
  | .held _ content => do
    let (type, enumeration) ← types.enumeration (some content.type)
    let raw := underlying enumeration content.value
    let named := (types.members type).constants.entries.find? fun entry =>
      entry.2.value.type = type && (underlying enumeration entry.2.value.value).eq types raw
    pure (match named with
      | some (name, _) => name
      | none => (raw.debug types).compact)

/-- The value of an enumeration that a text names. -/
def enumFromString (types : Types) (type : Option Ty) (text : String) : Attempt Any := do
  let (type, enumeration) ← types.enumeration type
  let constant := ((types.members type).constants.find? text).filter (·.value.type = type)
  match constant with
  | some constant => (Any.held .shared constant.value).tryClone types
  | none =>
    let kind := IntegerKind.i128
    match Text.readSigned? kind.least kind.greatest (Text.trim text.toList) with
    | none => fail (.unknownEnumText text (types.name type))
    | some number =>
      match enumeration.fromInteger number with
      | some value => pure (.new ⟨type, value⟩)
      | none => fail (.noEnumValue number (types.name type))

end Types

end Reflection
