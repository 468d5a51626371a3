import Reflection.Report.Any
import Reflection.Signature

/-!
# Reports of types

What is known of a type, its members and its attributes as JSON documents.
-/
namespace Reflection

open Report

/-- The name of a type, empty where there is none. -/
def Types.nameOf (types : Types) (type : Option Ty) : String := (type.map types.name).getD ""

/-- The report of an overload. -/
def Overload.report (types : Types) (overload : Overload) : Json :=
  Json.ofMembers
    [("debug", .string (overload.debug types)), ("arity", count overload.arity),
      ("args", .array (overload.parameters.map fun parameter =>
        .array [.string (types.name parameter.type), .bool (!parameter.exclusive),
          .string (parameter.debug types)])),
      ("returns", .string (types.name overload.returns)),
      ("attributes", texts overload.attributes.names)]

/-- The report of a table of attributes. -/
def attributesReport (types : Types) (attributes : Attributes) : Json :=
  Json.ofMembers
    [("names", texts attributes.names), ("len", count attributes.size),
      ("empty", .bool attributes.isEmpty),
      ("debug", .string (attributesDebug attributes).compact),
      ("entries", .array (attributes.entries.map fun (key, value) =>
        .array [.string key, .string (types.name value.type),
          .string (attributeDebug types value).compact, value.borrowed.report types]))]

/-- The report of a constant. -/
def Constant.report (types : Types) (name : String) (constant : Constant) : Json :=
  Json.ofMembers
    [("name", .string name), ("type", .string (types.name constant.value.type)),
      ("const", .bool constant.value.borrowed.isConst),
      ("value", constant.value.borrowed.report types),
      ("debug", .string (constant.debug types name).compact),
      ("attributes", texts constant.attributes.names)]

/-- The report of a property. -/
def Property.report (types : Types) (name : String) (property : Property) : Json :=
  Json.ofMembers
    [("name", .string name), ("type", .string (types.name property.type)),
      ("readonly", .bool property.isReadOnly),
      ("debug", .string (property.debug types name).compact),
      ("attributes", texts property.attributes.names)]

/-- The report of a function. -/
def functionReport (types : Types) (name : String) (overloads : List Overload) : Json :=
  Json.ofMembers
    [("name", .string name), ("debug", .string (functionDebug types name overloads).compact),
      ("overloads", .array (overloads.map (·.report types)))]

/-- The report of the members of a type. -/
def Members.report (types : Types) (members : Members) : Json :=
  Json.ofMembers
    [("parents", texts (members.parents.map fun parent => types.name parent.type)),
      ("conversions", texts (members.conversions.map fun found => types.name found.target)),
      ("constructors", .array (members.constructors.map (·.report types))),
      ("constants", .array (members.constants.entries.map fun (name, constant) =>
        constant.report types name)),
      ("properties", .array (members.properties.entries.map fun (name, property) =>
        property.report types name)),
      ("functions", .array (members.functions.entries.map fun (name, overloads) =>
        functionReport types name overloads)),
      ("attributes", attributesReport types members.attributes)]

namespace Types

/-- The members of a type, none where there is no type. -/
def membersOf (types : Types) (type : Option Ty) : Members := (type.map types.members).getD {}

/-- What a type is and can do, each under its word; nothing for no type. -/
def abilities (record : Option Record) : List (String × Json) :=
  let test (word : String) (holds : Record → Bool) : String × Json :=
    (word, .bool ((record.map holds).getD false))
  [test "void" (·.flags.void), test "empty" (·.flags.empty), test "enum" (·.flags.enum),
    test "signed" (·.flags.signed), test "unsigned" (·.flags.unsigned),
    test "floating" (·.flags.floating), test "arithmetic" (·.flags.arithmetic),
    test "copyable" (·.capabilities.clone.isSome), test "comparable" (·.capabilities.eq.isSome),
    test "ordered" (·.capabilities.cmp.isSome), test "range" (·.range.isSome),
    test "table" (·.table.isSome), test "tuple" (·.hasTuple), test "string" (·.string.isSome)]

/-- The report of a type, or of no type. -/
def report (types : Types) (type : Option Ty) : Json :=
  let record := type.map types.record
  Json.ofMembers
    [("valid", .bool type.isSome), ("name", .string (types.nameOf type)),
      ("debug", .string (types.infoDebug type)), ("display", .string (types.nameOf type)),
      ("has_id", .bool type.isSome),
      ("size", count ((record.map (·.layout.size)).getD 0)),
      ("align", count ((record.map (·.layout.align)).getD 0)),
      ("flags", count ((record.map (·.flags.bits)).getD 0)),
      ("is", Json.ofMembers (abilities record)),
      ("underlying",
        .string (types.nameOf ((record.bind (·.enumeration)).map (·.underlying)))),
      ("item", .string (types.nameOf ((record.bind (·.range)).map (·.item))))]

end Types

end Reflection
