import Reflection.Number.Decimal
import Reflection.Record
import Reflection.Standard.Comparison

/-!
# Capabilities of built-in types

Scalars can be copied, compared, ordered and shown. A container derives what it can do from what
it contains: a sequence, an option and a tuple can do what all of their parts can, a table can be
copied, compared and ordered as its values can, and shown if keys and values can. Sets bring
their own copying and comparison: they compare their items, as tables compare their keys, by what
these are as keys and not by what they offer.
-/
namespace Reflection.Standard

/-- How numbers show: positionally from `1e-4` to below `1e16`, ties to the greater digit. -/
def numberStyle : Number.Style := ⟨-3, 16, true, false, "NaN", "inf"⟩

/-- The comparison of two scalars; values of different forms do not compare. -/
def scalarCmp : Value → Value → Option Ordering
  | .bool left, .bool right => some (compare left right)
  | .char left, .char right => some (compare left right)
  | .integer left, .integer right => some (compare left right)
  | .number left, .number right => left.compare right
  | .text left, .text right => some (compare left right)
  | .compound [], .compound [] => some .eq
  | _, _ => none

/-- Whether two scalars are equal. A number that is undefined equals nothing. -/
def scalarEq (left right : Value) : Bool := scalarCmp left right == some .eq

/-- The debug form of a scalar, numbers being of some format. -/
def scalarDebug (format : Format) : Value → Document
  | .bool truth => .text (if truth then "true" else "false")
  | .char sign => .text (Text.quotedChar sign)
  | .integer number => .text (toString number)
  | .number number => .text (number.text numberStyle format)
  | .text text => .quoted text
  | .compound _ => .text "()"
  | .token name _ => .text name

/-- What every scalar can do. -/
def scalar (format : Format := .double) : Capabilities where
  clone := some id
  eq := some scalarEq
  cmp := some scalarCmp
  debug := some (scalarDebug format)
  sameKey := scalarEq
  keyCmp := scalarCmp

/-- A copy of every part of a structured value. -/
def mapParts (change : Value → Value) (value : Value) : Value :=
  .compound (value.parts.map change)

/-- What a sequence of items can do. -/
def sequence (item : Capabilities) : Capabilities where
  clone := item.clone.map mapParts
  eq := item.eq.map fun eq left right => listEq eq left.parts right.parts
  cmp := item.cmp.map fun cmp left right => listCmp cmp left.parts right.parts
  debug := item.debug.map fun debug value => .list (value.parts.map debug)
  sameKey left right := listEq item.sameKey left.parts right.parts
  keyCmp left right := listCmp item.keyCmp left.parts right.parts

/-- What an option can do. -/
def option (item : Capabilities) : Capabilities :=
  { sequence item with
    debug := item.debug.map fun debug value =>
      match value.parts with
      | [] => .text "None"
      | inner :: _ => .tuple "Some" [debug inner] }

/-- The debug form of a set. -/
def setDebug (item : Capabilities) : Option (Value → Document) :=
  item.debug.map fun debug value => .set (value.parts.map debug)

/-- What a set without order can do. -/
def hashSet (item : Capabilities) : Capabilities where
  clone := some id
  eq := some (setEq item.sameKey)
  debug := setDebug item

/-- What an ordered set can do. -/
def orderedSet (item : Capabilities) : Capabilities where
  clone := some id
  eq := some fun left right => listEq item.sameKey left.parts right.parts
  cmp := some fun left right => listCmp item.keyCmp left.parts right.parts
  debug := setDebug item
  sameKey left right := listEq item.sameKey left.parts right.parts
  keyCmp left right := listCmp item.keyCmp left.parts right.parts

/-- A copy of an entry of a table. -/
def mapEntry (change : Value → Value) (entry : Value) : Value :=
  .compound [key entry, change (entryValue entry)]

/-- The debug form of a table. -/
def mapDebug (keys values : Capabilities) : Option (Value → Document) := do
  let keyDebug ← keys.debug
  let valueDebug ← values.debug
  some fun value => .map (value.parts.map fun entry =>
    (keyDebug (key entry), valueDebug (entryValue entry)))

/-- What a table without order can do. -/
def hashMap (keys values : Capabilities) : Capabilities where
  clone := values.clone.map fun clone => mapParts (mapEntry clone)
  eq := values.eq.map (mapEq keys.sameKey)
  debug := mapDebug keys values

/-- What an ordered table can do. -/
def orderedMap (keys values : Capabilities) : Capabilities where
  clone := values.clone.map fun clone => mapParts (mapEntry clone)
  eq := values.eq.map fun eq left right => listEq (entryEq keys.sameKey eq) left.parts right.parts
  cmp := values.cmp.map fun cmp left right =>
    listCmp (entryCmp keys.keyCmp cmp) left.parts right.parts
  debug := mapDebug keys values
  sameKey left right := listEq (entryEq keys.sameKey values.sameKey) left.parts right.parts
  keyCmp left right := listCmp (entryCmp keys.keyCmp values.keyCmp) left.parts right.parts

/-- What a tuple can do, from what its first field and the tuple of the others can. -/
def tuple (first rest : Capabilities) : Capabilities where
  clone := do
    let firstClone ← first.clone
    let restClone ← rest.clone
    some fun value =>
      .compound (firstClone (head value) :: (restClone (tail value)).parts)
  eq := do
    let firstEq ← first.eq
    let restEq ← rest.eq
    some fun left right => firstEq (head left) (head right) && restEq (tail left) (tail right)
  cmp := do
    let firstCmp ← first.cmp
    let restCmp ← rest.cmp
    some (pairCmp firstCmp restCmp)
  debug := do
    let firstDebug ← first.debug
    let restDebug ← rest.debug
    some fun value => .tuple "" (firstDebug (head value) :: (restDebug (tail value)).elements)
  sameKey left right :=
    first.sameKey (head left) (head right) && rest.sameKey (tail left) (tail right)
  keyCmp := pairCmp first.keyCmp rest.keyCmp

/-- What values of a type can do, given what those of named types can. -/
def capabilities (named : String → Capabilities) : Ty → Capabilities
  | .unit | .bool | .char | .integer _ | .string | .str | .float64 => scalar
  | .float32 => scalar .single
  | .named key => named key
  | .vector item | .deque item | .array item _ => sequence (capabilities named item)
  | .option item => option (capabilities named item)
  | .hashSet item => hashSet (capabilities named item)
  | .orderedSet item => orderedSet (capabilities named item)
  | .hashMap keys values => hashMap (capabilities named keys) (capabilities named values)
  | .orderedMap keys values => orderedMap (capabilities named keys) (capabilities named values)
  | .tuple first rest => tuple (capabilities named first) (capabilities named rest)

end Reflection.Standard
