import Reflection.Catalogue.Collections
import Reflection.Catalogue.Enumerations
import Reflection.Catalogue.Kinship
import Reflection.Catalogue.Plain
import Reflection.Catalogue.Settings

/-!
# The catalogue of types

A fixed choice of types: built-in ones, containers over many of them, and all described structures
and enumerations. A type of the catalogue is known by its key, which is its name with the keys of
named types in place of their names.
-/
namespace Reflection.Catalogue

open Standard

/-- The descriptions of all named types by their keys. -/
def descriptions : List (String × Description) :=
  plainStructures ++ relatives ++ enumerations ++ collections ++ settings

/-- The description of a named type; nothing is known of any other. -/
def describe (key : String) : Description :=
  (descriptions.lookup key).getD (ofFields key ⟨0, 1⟩ [])

/-- All types over the descriptions. -/
def allTypes : Universe := universeOf describe

/-- The scalars of the catalogue. -/
def scalars : List Ty :=
  [.unit, .bool, .char, .string, .str] ++ numericTypes

/-- The sequences and options of the catalogue. -/
def sequences : List Ty :=
  [.vector .i32, .vector .u8, .vector .float64, .vector .string, .vector sealed, .vector unique,
    .vector body, .vector point, .vector handle, .vector (.vector .i32), .vector (.option .i32),
    .vector (.tupleOf [.u8, .string]), .vector .unit, .deque .i32, .deque .string, .deque sealed,
    .array .i32 0, .array .i32 3, .array .u64 4, .array .u64 8, .array .float32 2,
    .array .string 2, .array sealed 2, .option .i32, .option .string, .option .float64,
    .option sealed, .option body, .option (.vector .i32)]

/-- The sets and tables of the catalogue. -/
def associations : List Ty :=
  [.hashSet .u8, .hashSet .string, .orderedSet .i32, .orderedSet .string, .hashMap .string .u32,
    .hashMap .i32 .string, .hashMap .u8 sealed, .hashMap .string .float64,
    .orderedMap .i64 .string, .orderedMap .string .i32, .orderedMap .u8 .i32,
    .orderedMap .u8 .float64, .orderedMap .u8 (.vector .float32), .orderedMap .u8 sealed,
    .orderedMap .string body]

/-- The tuples of the catalogue. -/
def tuples : List Ty :=
  [.tupleOf [.i32], .tupleOf [.u8, .bool], .tupleOf [.float64, .float64], .tupleOf [.i32, sealed],
    .tupleOf [.i32, .string, .float64], .tupleOf [.u8, .integer .i16, .char, .string],
    .tupleOf [.u8, .tupleOf [.u8, .bool]], .tupleOf [.i32, body]]

/-- The links of the chain that are in the catalogue. -/
def links : List Ty := [0, 1, 2, 63, 64, 65, 66, 67].map link

/-- The named types of the catalogue. -/
def named : List Ty :=
  ((descriptions.filter fun entry => !entry.1.startsWith "Link").map fun entry =>
    .named entry.1) ++ links

/-- The key of a type. -/
def key (type : Ty) : String := typeName id type

/-- The types of the catalogue by their keys. -/
def types : Dictionary Ty :=
  .ofList ((scalars ++ sequences ++ associations ++ tuples ++ named).map fun type =>
    (key type, type))

/-- The type of the catalogue with a key. -/
def type? (key : String) : Option Ty := types.find? key

end Reflection.Catalogue
