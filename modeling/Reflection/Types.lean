import Reflection.Members

/-!
# Types and their parents

`Types` is what is known of every type at some moment: the record, which never changes, and the
members, which registration changes and a reset brings back to those described.

A value stands for its parents, the parents of its parents, and so on. `Types.walk` follows them
from a part of a value to the parts of a target type, stopping at the first on each way, and gives
up on ways longer than `parentLimit`. `Types.inherits` asks the same of types alone.
-/
namespace Reflection

/-- What is fixed about every type. -/
structure Universe where
  record : Ty → Record
  /-- The members a type has when nothing was registered. -/
  described : Ty → Members

/-- What is known of every type. -/
structure Types where
  fixed : Universe
  members : Ty → Members

/-- How many parents are followed one after another. -/
def parentLimit : Nat := 64

namespace Types

/-- Every type in its described state. -/
def described (fixed : Universe) : Types := ⟨fixed, fixed.described⟩

/-- The record of a type. -/
def record (types : Types) (type : Ty) : Record := types.fixed.record type

/-- The name of a type. -/
def name (types : Types) (type : Ty) : String := (types.record type).name

/-- The capabilities of a type. -/
def capabilities (types : Types) (type : Ty) : Capabilities := (types.record type).capabilities

/-- Give a type other members. -/
def setMembers (types : Types) (type : Ty) (members : Members) : Types :=
  { types with members := fun other => if other = type then members else types.members other }

/-- Change the members of a type. -/
def changeMembers (types : Types) (type : Ty) (change : Members → Members) : Types :=
  types.setMembers type (change (types.members type))

/-- Bring a type back to its described members. -/
def reset (types : Types) (type : Ty) : Types :=
  types.setMembers type (types.fixed.described type)

/-- A type has the members it was given. -/
@[simp] theorem members_setMembers_self (types : Types) (type : Ty) (members : Members) :
    (types.setMembers type members).members type = members := by
  simp [setMembers]

/-- Every other type keeps its members. -/
theorem members_setMembers_of_ne (types : Types) {type other : Ty} (members : Members)
    (different : other ≠ type) :
    (types.setMembers type members).members other = types.members other := by
  simp [setMembers, different]

/-- Records never change. -/
@[simp] theorem fixed_setMembers (types : Types) (type : Ty) (members : Members) :
    (types.setMembers type members).fixed = types.fixed := rfl

/-- Giving a type the members it has changes nothing. -/
@[simp] theorem setMembers_members (types : Types) (type : Ty) :
    types.setMembers type (types.members type) = types := by
  cases types
  simp only [setMembers]
  congr 1
  funext other
  split
  · rename_i same
    rw [same]
  · rfl

/-- The last members a type is given count. -/
@[simp] theorem setMembers_setMembers (types : Types) (type : Ty) (first second : Members) :
    (types.setMembers type first).setMembers type second = types.setMembers type second := by
  cases types
  simp only [setMembers]
  congr 1
  funext other
  split <;> rfl

/-- The attribute of exactly a type among some attributes. Attributes are found by the name of
their type, so a type of the same name hides it. -/
def typedAttribute (types : Types) (attributes : Attributes) (type : Ty) : Option Value :=
  ((attributes.find? (types.name type)).filter (·.type = type)).map (·.value)

/-- An attribute is found for a type exactly if it stands under the name of that type and is of
it. -/
theorem typedAttribute_eq_some_iff {types : Types} {attributes : Attributes} {type : Ty}
    {value : Value} :
    types.typedAttribute attributes type = some value ↔
      attributes.find? (types.name type) = some ⟨type, value⟩ := by
  unfold typedAttribute
  cases attributes.find? (types.name type) with
  | none => simp
  | some found =>
    obtain ⟨carrier, content⟩ := found
    by_cases same : carrier = type
    · simp [same, Option.filter]
    · simp [same, Option.filter]

/-- Whether there is an attribute under the name of a type. -/
def hasAttribute (types : Types) (attributes : Attributes) (type : Ty) : Bool :=
  attributes.contains (types.name type)

/-- Whether parents lead from a type to another, within a number of steps. -/
def inheritsWithin (types : Types) (base : Ty) : Nat → Ty → Bool
  | 0, _ => false
  | steps + 1, type =>
    (types.members type).parents.any fun parent =>
      parent.type = base || types.inheritsWithin base steps parent.type

/-- Whether parents lead from a type to another. -/
def inherits (types : Types) (type base : Ty) : Bool :=
  types.inheritsWithin base (parentLimit + 1) type

/-- The places of the target type that parents lead to from a place of some type, in the order in
which they are met, with a note for every way that is given up. -/
def walk (types : Types) (target : Ty) : Nat → Ty → Path → Logged (List Path)
  | 0, type, place =>
    if type = target then pure [place]
    else do
      Logged.note .warn s!"Parent chain of '{types.name type}' exceeds {parentLimit} levels"
      pure []
  | steps + 1, type, place =>
    if type = target then pure [place]
    else do
      let found ← (types.members type).parents.mapM fun parent =>
        types.walk target steps parent.type (place ++ parent.place)
      pure found.flatten

/-- How a cast ends. -/
inductive CastResult where
  | found (place : Path)
  | missing
  | ambiguous (count : Nat)
  deriving DecidableEq, Repr

/-- The result of a cast that met some places: it is clear only if they are all the same. -/
def CastResult.ofPlaces (places : List Path) : CastResult :=
  match places.eraseDups with
  | [] => .missing
  | [place] => .found place
  | several => .ambiguous several.length

/-- Cast from a type to another along parents. -/
def cast (types : Types) (type target : Ty) : Logged CastResult := do
  let places ← types.walk target parentLimit type []
  pure (CastResult.ofPlaces places)

end Types

end Reflection
