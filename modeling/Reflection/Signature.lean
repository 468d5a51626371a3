import Reflection.Any.Basic

/-!
# How types and members show

The debug forms of types, handles of types, parameters, functions, constants, properties and
attributes.
-/
namespace Reflection

namespace Types

/-- The debug form of a type, or of none. -/
def infoDebug (types : Types) : Option Ty → String
  | some type => s!"TypeInfo({types.name type})"
  | none => "TypeInfo(invalid)"

/-- The debug form of a handle of a type. -/
def handleDebug (types : Types) (type : Ty) : String := s!"TypeHandle({types.name type})"

end Types

/-- The debug form of a parameter. -/
def Parameter.debug (types : Types) (parameter : Parameter) : String :=
  (if parameter.exclusive then "&mut " else "&") ++ types.name parameter.type

/-- The debug form of an overload. -/
def Overload.debug (types : Types) (overload : Overload) : String :=
  let parameters := String.intercalate ", " (overload.parameters.map (·.debug types))
  s!"fn({parameters}) -> {types.name overload.returns}"

/-- The debug form of the overloads of a function. -/
def functionDebug (types : Types) (name : String) (overloads : List Overload) : Document :=
  .record "FunctionInfo"
    [("name", .quoted name),
      ("overloads", .list (overloads.map fun overload => .text (overload.debug types)))]

/-- The value of a constant or an attribute, borrowed const. -/
def Typed.borrowed (content : Typed) : Any := .held .shared content

/-- The debug form of a constant. -/
def Constant.debug (types : Types) (name : String) (constant : Constant) : Document :=
  .record "ConstantInfo"
    [("name", .quoted name), ("value", constant.value.borrowed.debug types)]

/-- Whether a property cannot be written. -/
def Property.isReadOnly (property : Property) : Bool := property.set.isNone

/-- The debug form of a property. -/
def Property.debug (types : Types) (name : String) (property : Property) : Document :=
  .record "PropertyInfo"
    [("name", .quoted name), ("type", .text (types.handleDebug property.type)),
      ("readonly", .text (if property.isReadOnly then "true" else "false"))]

/-- The debug form of an attribute. -/
def attributeDebug (types : Types) (value : Typed) : Document :=
  .tuple "AttributeValue" [value.borrowed.debug types]

/-- The debug form of a table of attributes: the set of their names. -/
def attributesDebug (attributes : Attributes) : Document :=
  .set (attributes.names.map .quoted)

end Reflection
