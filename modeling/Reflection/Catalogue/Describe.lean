import Reflection.Standard.Structural
import Reflection.Standard.Universe

/-!
# Describing named types

How a description of a named type is put together: a structure over the types of its fields, with
some capabilities, to which constructors, parents, conversions and functions are added in order.
A structure that can be copied has its copy constructor first.
-/
namespace Reflection.Catalogue

open Standard

/-- How values show. -/
abbrev Show := Value → Document

/-- How a value shows that is text, an integer or a number of 64 bits. -/
def plain : Show := scalarDebug .double

/-- How a number of 32 bits shows. -/
def single : Show := scalarDebug .single

/-- How the items of a sequence show. -/
def items (item : Show) : Show := fun value => .list (value.parts.map item)

/-- How a structure with named fields shows. -/
def record (name : String) (fields : List (String × Show)) : Show := fun value =>
  .record name ((fields.zip value.parts).map fun (field, part) => (field.1, field.2 part))

/-- How a structure with unnamed fields shows. -/
def positional (name : String) (fields : List Show) : Show := fun value =>
  .tuple name ((fields.zip value.parts).map fun (field, part) => field part)

/-- Values that can be copied. -/
def copyable : Capabilities where
  clone := some id

/-- Values that can also be compared. -/
def comparable : Capabilities := { copyable with eq := some structuralEq }

/-- Values that are also ordered. -/
def ordered : Capabilities :=
  { comparable with cmp := some structuralCmp, keyCmp := structuralCmp }

/-- Values of some capabilities that also show. -/
def showing (capabilities : Capabilities) (debug : Show) : Capabilities :=
  { capabilities with debug := some debug }

/-- A structure over some types, each reached as a field at its position. -/
def ofFields (key : String) (layout : Layout) (types : List Ty)
    (capabilities : Capabilities := {}) : Description where
  record :=
    { name := key
      layout
      flags := { empty := layout.size == 0 }
      capabilities
      fields := types.mapIdx fun position type => ⟨type, [position]⟩ }
  content := .fields types
  members :=
    { constructors :=
        if capabilities.clone.isSome then [.copyConstructor (.named key)] else [] }

end Reflection.Catalogue

namespace Reflection.Standard.Description

/-- The structure without the fields in its record. -/
def hidden (description : Description) : Description :=
  { description with record := { description.record with fields := [] } }

/-- The description with one more constructor. -/
def constructor (description : Description) (overload : Overload) : Description :=
  { description with
    members :=
      { description.members with
        constructors := description.members.constructors ++ [overload] } }

/-- The description with a constructor without arguments. -/
def default (description : Description) (type : Ty) (value : Value) : Description :=
  description.constructor (.function [] type fun _ => value)

/-- The description with one more parent. -/
def parent (description : Description) (type : Ty) (place : Path) : Description :=
  { description with
    members :=
      { description.members with parents := description.members.parents ++ [⟨type, place⟩] } }

/-- The description with one more conversion. -/
def conversion (description : Description) (target : Ty) (convert : Value → Value) :
    Description :=
  { description with
    members :=
      { description.members with
        conversions := description.members.conversions ++ [⟨target, convert⟩] } }

/-- The description with one more function. -/
def function (description : Description) (name : String) (overload : Overload) : Description :=
  { description with members := description.members.addOverload name overload }

end Reflection.Standard.Description
