import Reflection.Catalogue.Describe

/-!
# Structures with parents

Structures whose parents meet in every way: one below the other, twice the same through two ways,
a type that is its own parent, two parents in one place, and a chain of one more link than parents
are followed.
-/
namespace Reflection.Catalogue

open Standard

/-- Something with a mass. -/
def body : Ty := .named "Body"

/-- A body with a number. -/
def vehicle : Ty := .named "Vehicle"

/-- A vehicle with a load. -/
def truck : Ty := .named "Truck"

/-- Something with a weight. -/
def node : Ty := .named "Node"

/-- A node on the left. -/
def left : Ty := .named "Left"

/-- A node on the right. -/
def right : Ty := .named "Right"

/-- Two sides, each with a node of its own. -/
def diamond : Ty := .named "Diamond"

/-- A left side whose node is a parent too. -/
def joined : Ty := .named "Joined"

/-- A type that is its own parent. -/
def loop : Ty := .named "Loop"

/-- Two marks in one place. -/
def twins : Ty := .named "Twins"

/-- A link of a chain of types, each the parent of the next. -/
def link (index : Nat) : Ty := .named s!"Link{index}"

/-- The last link of the chain. -/
def lastLink : Nat := 67

/-- How bodies show. -/
def showBody : Show := record "Body" [("mass", single)]

/-- How vehicles show. -/
def showVehicle : Show := record "Vehicle" [("id", plain), ("body", showBody)]

/-- The bodies, described. -/
def describeBody : Description := ofFields "Body" ⟨4, 4⟩ [.float32] comparable

/-- The vehicles, described. -/
def describeVehicle : Description :=
  (ofFields "Vehicle" ⟨16, 8⟩ [.u64, body] comparable
    |>.constructor (.function [.u64, body] vehicle .compound)
    |>.parent body [1])

/-- The trucks, described; what they are made of shows in full. -/
def describeTruck : Description :=
  (ofFields "Truck" ⟨24, 8⟩ [.i32, vehicle]
      (showing comparable (record "Truck" [("load", plain), ("vehicle", showVehicle)]))
    |>.parent vehicle [1])

/-- The nodes, described. -/
def describeNode : Description := ofFields "Node" ⟨4, 4⟩ [.u32] copyable

/-- One of the two sides, described. -/
def describeSide (key : String) : Description :=
  (ofFields key ⟨4, 4⟩ [node] copyable |>.parent node [0])

/-- The diamonds, described: two ways lead to two nodes. -/
def describeDiamond : Description :=
  (ofFields "Diamond" ⟨8, 4⟩ [left, right] copyable
    |>.parent left [0]
    |>.parent right [1])

/-- The joined sides, described: two ways lead to one node. -/
def describeJoined : Description :=
  (ofFields "Joined" ⟨4, 4⟩ [left] copyable
    |>.parent left [0]
    |>.parent node [0, 0])

/-- The type that is its own parent, described. -/
def describeLoop : Description :=
  (ofFields "Loop" ⟨4, 4⟩ [body] copyable
    |>.parent loop []
    |>.parent body [0])

/-- The twins, described: their marks take no room, so both parents are one part. -/
def describeTwins : Description :=
  (ofFields "Twins" ⟨4, 4⟩ [.named "Tag", .named "Tag", .i32] copyable
    |>.parent (.named "Tag") [0]
    |>.parent (.named "Tag") [0])

/-- A link of the chain, described. -/
def describeLink : Nat → Description
  | 0 => ofFields "Link0" ⟨4, 4⟩ [.i32] copyable
  | index + 1 =>
    ((ofFields s!"Link{index + 1}" ⟨4, 4⟩ [link index] copyable).hidden
      |>.parent (link index) [0])

/-- The structures with parents by their keys. -/
def relatives : List (String × Description) :=
  [("Body", describeBody), ("Vehicle", describeVehicle), ("Truck", describeTruck),
    ("Node", describeNode), ("Left", describeSide "Left"), ("Right", describeSide "Right"),
    ("Diamond", describeDiamond), ("Joined", describeJoined), ("Loop", describeLoop),
    ("Twins", describeTwins)] ++
  (List.range (lastLink + 1)).map fun index => (s!"Link{index}", describeLink index)

end Reflection.Catalogue
