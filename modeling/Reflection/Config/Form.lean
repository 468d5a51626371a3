import Reflection.Integer
import Reflection.Json.Basic
import Reflection.Number.Rounding
import Reflection.Value

/-!
# Forms of values in JSON

A form says how the values of a type are laid out in JSON, for writing and reading. A structure is
written as an object; it is read from an object that has all of its fields and perhaps more, or
from an array of exactly its fields. An optional field may be missing.
-/
namespace Reflection

/-- How values are laid out in JSON. -/
inductive Form where
  | bool
  | text
  | integer (kind : IntegerKind)
  | number (format : Format)
  /-- Values that have a text of their own. -/
  | spelled (spell : Value → String) (parse : String → Option Value)
  | optional (inner : Form)
  | list (item : Form)
  | record (fields : List (String × Form))

namespace Form

/-- Whether an integer has a JSON form. -/
def fitsJson (number : Int) : Bool :=
  IntegerKind.i64.holds number || IntegerKind.u64.holds number

/-- Whether a value of a form may be left out. -/
def mayMiss : Form → Bool
  | .optional _ => true
  | _ => false

mutual

/-- The JSON of a value, where it has any. -/
def write : Form → Value → Option Json
  | .bool, .bool truth => some (.bool truth)
  | .text, .text words => some (.string words)
  | .integer _, .integer whole => if fitsJson whole then some (.integer whole) else none
  | .number _, .number real => some (Json.ofNumber (real.convert .double))
  | .spelled spell _, value => some (.string (spell value))
  | .optional inner, value =>
    match value.parts with
    | [] => some .null
    | part :: _ => inner.write part
  | .list item, value => (value.parts.mapM fun part => item.write part).map .array
  | .record fields, value => (writeFields fields value.parts).map Json.ofMembers
  | _, _ => none

/-- The members of a structure. -/
def writeFields : List (String × Form) → List Value → Option (List (String × Json))
  | (name, form) :: fields, part :: parts => do
    let json ← form.write part
    let rest ← writeFields fields parts
    some ((name, json) :: rest)
  | _, _ => some []

end

mutual

/-- The value a JSON document stands for. -/
def read : Form → Json → Option Value
  | .bool, .bool truth => some (.bool truth)
  | .text, .string words => some (.text words)
  | .integer kind, .integer whole => if kind.holds whole then some (.integer whole) else none
  | .number format, .integer whole => some (.number (.ofInt format whole))
  | .number format, .real real => some (.number (real.convert format))
  | .spelled _ parse, .string words => parse words
  | .optional inner, json =>
    match json with
    | .null => some (.compound [])
    | json => (inner.read json).map fun value => .compound [value]
  | .list item, .array elements => (elements.mapM fun json => item.read json).map .compound
  | .record fields, .object members => (readMembers fields members).map .compound
  | .record fields, .array elements => (readElements fields elements).map .compound
  | _, _ => none

/-- The parts of a structure from the members of an object. -/
def readMembers : List (String × Form) → List (String × Json) → Option (List Value)
  | [], _ => some []
  | (name, form) :: fields, members => do
    let part ← match Dictionary.lookup name members with
      | some json => form.read json
      | none => if form.mayMiss then some (.compound []) else none
    let parts ← readMembers fields members
    some (part :: parts)

/-- The parts of a structure from the elements of an array. -/
def readElements : List (String × Form) → List Json → Option (List Value)
  | [], [] => some []
  | (_, form) :: fields, json :: elements => do
    let part ← form.read json
    let parts ← readElements fields elements
    some (part :: parts)
  | _, _ => none

end

end Form

end Reflection
