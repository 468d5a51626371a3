import Reflection.Json.Basic
import Reflection.Standard.Containers
import Reflection.View.Range
import Reflection.View.Table
import Reflection.View.Tuple

/-!
# Reports of anys

A report describes an any as a JSON document: the name of its type, its debug form, and what can
be seen through each of its shapes. Containers without order are reported in the order of the
debug forms of their items, and without a debug form of their own if they hold more than one.
-/
namespace Reflection

namespace Report

/-- A document, or null for nothing. -/
def orNull {α : Type} (write : α → Json) : Option α → Json
  | some found => write found
  | none => .null

/-- The array of some texts. -/
def texts (list : List String) : Json := .array (list.map .string)

/-- A count. -/
def count (number : Nat) : Json := .integer number

/-- An object that has only those of some members that are there. -/
def members (list : List (String × Option Json)) : Json :=
  Json.ofMembers (list.filterMap fun (key, json) => json.map fun json => (key, json))

/-- Entries in order, or in the order of the texts they go by. -/
def arranged {α : Type} (unordered : Bool) (entries : List (String × α)) : List α :=
  let entries :=
    if unordered then entries.mergeSort fun left right => left.1 ≤ right.1 else entries
  entries.map (·.2)

/-- Whether the items of a container have no order. -/
def isUnordered : Option Ty → Bool
  | some (.hashSet _) | some (.hashMap _ _) => true
  | _ => false

end Report

namespace Any

open Report

/-- The debug form on one line. -/
def debugText (types : Types) (any : Any) : String := (any.debug types).compact

/-- The report of an any, down to some depth. -/
def reportWithin (types : Types) : Nat → Any → Json
  | 0, _ => .null
  | _ + 1, .empty => .null
  | depth + 1, any@(.held _ content) =>
    let unordered := isUnordered (some content.type)
    let inner (part : Part) : Json := reportWithin types depth (any.borrow part)
    let shown (part : Part) : String := (any.borrow part).debugText types
    let fields := (any.tuple types).outcome.toOption.map fun view => view.iter.map inner
    let items := (any.range types).outcome.toOption.map fun view =>
      (view.items false).map fun part => (shown part, inner part)
    let entries := (any.table types).outcome.toOption.map fun view =>
      view.iter.map fun (key, value) => (shown key, Json.array [inner key, inner value])
    let size := (items.getD []).length + (entries.getD []).length
    members
      [("t", some (.string (types.name content.type))),
        ("d", if unordered && size ≥ 2 then none else some (.string (any.debugText types))),
        ("s", (any.text? types).map .string),
        ("f", fields.map .array),
        ("i", items.map fun items => .array (arranged unordered items)),
        ("e", entries.map fun entries => .array (arranged unordered entries))]

/-- The report of an any. -/
def report (types : Types) (any : Any) : Json :=
  any.reportWithin types ((any.content?.map (·.value.depth)).getD 1)

/-- How an any holds its value. -/
def stateMembers (types : Types) (any : Any) : List (String × Json) :=
  [("type", .string (any.typeName types)), ("empty", .bool any.isEmpty), ("ref", .bool any.isRef),
    ("const", .bool any.isConst), ("local", .bool (any.isLocal types)),
    ("data", .bool any.hasData), ("data_mut", .bool any.hasDataMut)]

/-- The report of how an any holds its value. -/
def state (types : Types) (any : Any) : Json := Json.ofMembers (any.stateMembers types)

end Any

/-- The report of a value with its type. -/
def Typed.report (types : Types) (content : Typed) : Json := (Any.new content).report types

end Reflection
