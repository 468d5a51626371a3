import Reflection.Any.Cast
import Reflection.Json.Basic

/-!
# Configurable types

A type takes part in configuration by carrying an attribute that says how its values are written
to and read from JSON. `ConfigFormat` fixes the type of that attribute and what each value of it
means.
-/
namespace Reflection

/-- Why an operation on configuration failed. -/
inductive ConfigError where
  | unknownType (type : String)
  | notConfigurable (type : String)
  | invalidDocument (reason : String)
  | missingKey (key : String)
  /-- A text or document does not have the form expected. -/
  | json
  /-- A file could not be reached. -/
  | missingFile (path : String)
  | reflection (error : Error)
  deriving DecidableEq, Repr

/-- The wording of an error; the wording of a JSON error is not fixed. -/
def ConfigError.message : ConfigError → Option String
  | .unknownType type => some s!"Unknown config type '{type}'"
  | .notConfigurable type => some s!"Type '{type}' is not config-serializable"
  | .invalidDocument reason => some s!"Invalid config document: {reason}"
  | .missingKey key => some s!"Config key not found: {key}"
  | .json => none
  | .missingFile path =>
    some s!"Failed to access '{path}': No such file or directory (os error 2)"
  | .reflection error => some s!"Reflection error: {error.display}"

/-- How values of a type are written to and read from JSON. -/
structure ConfigCodec where
  serialize : Types → Any → Fallible ConfigError Json
  deserialize : Json → Except ConfigError Any

/-- What makes a type configurable. -/
structure ConfigFormat where
  /-- The type of the attribute. -/
  carrier : Ty
  /-- What a value of the attribute means. -/
  codec : Value → ConfigCodec

namespace ConfigFormat

/-- The codec a type carries. -/
def codecOf (format : ConfigFormat) (types : Types) (type : Option Ty) :
    Except ConfigError ConfigCodec :=
  match type with
  | none => .error (.notConfigurable "")
  | some type =>
    match types.typedAttribute (types.members type).attributes format.carrier with
    | some value => .ok (format.codec value)
    | none => .error (.notConfigurable (types.name type))

end ConfigFormat

end Reflection
