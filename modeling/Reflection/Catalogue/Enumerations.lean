import Reflection.Catalogue.Describe

/-!
# Enumerations

Enumerations over integers of several kinds. Some have a value for a few integers only, each with
a name; others have one for every integer of their kind.
-/
namespace Reflection.Catalogue

open Standard

/-- An enumeration of the integers of a kind that satisfy a condition. -/
def enumerationOf (key : String) (layout : Layout) (kind : IntegerKind) (valid : Int → Bool)
    (debug : Show) : Description where
  record :=
    { name := key
      layout
      flags := { enum := true }
      capabilities := showing comparable debug
      enumeration := some
        { underlying := .integer kind
          toUnderlying := id
          fromInteger := fun number =>
            if kind.holds number && valid number then some (.integer number) else none } }
  content := .integer kind valid
  members :=
    { constructors := [.copyConstructor (.named key)]
      conversions := [⟨.integer kind, id⟩] }

/-- An enumeration of some integers with names. -/
def ofVariants (key : String) (layout : Layout) (kind : IntegerKind)
    (variants : List (String × Int)) : Description :=
  enumerationOf key layout kind (fun number => variants.any (·.2 == number)) fun value =>
    match variants.find? (·.2 == value.toInt) with
    | some (name, _) => .text name
    | none => plain value

/-- An enumeration of all integers of a kind. -/
def ofAll (key : String) (layout : Layout) (kind : IntegerKind) : Description :=
  enumerationOf key layout kind (fun _ => true) fun value => .tuple key [plain value]

/-- Three channels, each a bit of its own. -/
def describeChannel : Description :=
  ofVariants "Channel" ⟨1, 1⟩ .u8 [("Red", 1), ("Green", 2), ("Blue", 4)]

/-- Directions up to both ends of their kind. -/
def describeDir : Description :=
  ofVariants "Dir" ⟨1, 1⟩ .i8 [("Down", -128), ("West", -1), ("Here", 0), ("East", 1), ("Up", 127)]

/-- Three values spread over 64 bits. -/
def describeWide : Description :=
  ofVariants "Wide" ⟨8, 8⟩ .u64 [("Low", 0), ("Mid", IntegerKind.i64.greatest + 1),
    ("High", IntegerKind.u64.greatest)]

/-- Sets of bits. -/
def describeMask : Description := ofAll "Mask" ⟨1, 1⟩ .u8

/-- Integers of 128 bits as an enumeration. -/
def describeHuge : Description := ofAll "Huge" ⟨16, 16⟩ .i128

/-- The enumerations by their keys. -/
def enumerations : List (String × Description) :=
  [("Channel", describeChannel), ("Dir", describeDir), ("Wide", describeWide),
    ("Mask", describeMask), ("Huge", describeHuge)]

end Reflection.Catalogue
