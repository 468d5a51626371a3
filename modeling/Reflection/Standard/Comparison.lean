import Reflection.Value

/-!
# Comparing structured values

Sequences compare item by item, the first difference deciding and a proper front part being
smaller; an item that does not compare leaves the whole undecided. Hashed sets and tables are
equal when they hold the same, in whatever order it is listed. Which items of sets and which keys of
tables are the same is for their type to say, by an equality of its own.
-/
namespace Reflection.Standard

/-- An equality of values. -/
abbrev Equality := Value → Value → Bool

/-- A comparison of values, which may leave them undecided. -/
abbrev Comparison := Value → Value → Option Ordering

/-- Whether two lists have equal items throughout. -/
def listEq (itemEq : Equality) : List Value → List Value → Bool
  | [], [] => true
  | left :: leftRest, right :: rightRest => itemEq left right && listEq itemEq leftRest rightRest
  | _, _ => false

/-- The lexicographic comparison of two lists. -/
def listCmp (itemCmp : Comparison) : List Value → List Value → Option Ordering
  | [], [] => some .eq
  | [], _ :: _ => some .lt
  | _ :: _, [] => some .gt
  | left :: leftRest, right :: rightRest =>
    match itemCmp left right with
    | some .eq => listCmp itemCmp leftRest rightRest
    | decided => decided

/-- The first part of a structured value, the unit value where there is none. -/
def head (value : Value) : Value := value.parts.headD .unit

/-- A structured value without its first part. -/
def tail (value : Value) : Value := .compound value.parts.tail

/-- The key of an entry of a table. -/
def key (entry : Value) : Value := head entry

/-- The value of an entry of a table. -/
def entryValue (entry : Value) : Value := head (tail entry)

/-- The comparison of two values by their first parts and then by the others. -/
def pairCmp (firstCmp restCmp : Comparison) : Comparison := fun left right =>
  match firstCmp (head left) (head right) with
  | some .eq => restCmp (tail left) (tail right)
  | decided => decided

/-- Whether two sets without order hold the same items. -/
def setEq (same : Equality) (left right : Value) : Bool :=
  left.parts.length == right.parts.length &&
    left.parts.all fun item => right.parts.any (same item)

/-- Whether two tables without order hold equal values under the same keys. -/
def mapEq (sameKey valueEq : Equality) (left right : Value) : Bool :=
  left.parts.length == right.parts.length &&
    left.parts.all fun entry =>
      match right.parts.find? fun other => sameKey (key entry) (key other) with
      | some other => valueEq (entryValue entry) (entryValue other)
      | none => false

/-- Whether two entries have one key and equal values. -/
def entryEq (sameKey valueEq : Equality) : Equality := fun left right =>
  sameKey (key left) (key right) && valueEq (entryValue left) (entryValue right)

/-- The comparison of two entries by their keys and then by their values. -/
def entryCmp (keyCmp valueCmp : Comparison) : Comparison := fun left right =>
  match keyCmp (key left) (key right) with
  | some .eq => valueCmp (entryValue left) (entryValue right)
  | decided => decided

/-- Put an item into an ordered list, in place of an equal one. -/
def insertOrdered (cmp : Comparison) (item : Value) : List Value → List Value
  | [] => [item]
  | first :: rest =>
    match cmp item first with
    | some .lt => item :: first :: rest
    | some .eq => item :: rest
    | _ => first :: insertOrdered cmp item rest

/-- The ordered list of some items; of equal ones the later stays. -/
def ordered (cmp : Comparison) (items : List Value) : List Value :=
  items.foldl (fun list item => insertOrdered cmp item list) []

/-- The items of a list, each once. -/
def distinct (items : List Value) : List Value := items.eraseDups

/-- The entries of a list, one per key; of two under one key the later stays. -/
def distinctKeys (entries : List Value) : List Value :=
  entries.foldl (fun list entry => list.filter (fun other => key other ≠ key entry) ++ [entry]) []

end Reflection.Standard
