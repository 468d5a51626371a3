import Reflection.Number.Basic
import Reflection.Ty

/-!
# Values

A value is a scalar or a compound of parts: the fields of a tuple or structure, the items of a
sequence, or the entries of a table. A path names a part of a value by the position to follow at
each level. Reading a part and replacing it obey the laws of an update: what was put is read
back (`part?_replace_self`), parts on other branches are untouched (`part?_replace_apart`), and
putting back what is there changes nothing (`replace_part?`).
-/
namespace Reflection

/-- A value, apart from its type. -/
inductive Value where
  | bool (truth : Bool)
  | char (sign : Char)
  | integer (number : Int)
  | number (number : Number)
  | text (text : String)
  /-- The parts of a structured value in order. -/
  | compound (parts : List Value)
  /-- A value without content of its own, such as a pair of functions about a type, known by a
  name. -/
  | token (name : String) (about : Ty)
  deriving Repr, Inhabited

/-- A position to follow at each level of a value. -/
abbrev Path := List Nat

namespace Value

/-- The value without parts. -/
def unit : Value := .compound []

mutual

/-- Whether two values are equal. -/
def alike : Value → Value → Bool
  | .bool left, .bool right => left == right
  | .char left, .char right => left == right
  | .integer left, .integer right => left == right
  | .number left, .number right => left == right
  | .text left, .text right => left == right
  | .compound left, .compound right => alikeAll left right
  | .token left leftAbout, .token right rightAbout => left == right && leftAbout == rightAbout
  | _, _ => false

/-- Whether two lists of values are equal. -/
def alikeAll : List Value → List Value → Bool
  | [], [] => true
  | left :: leftRest, right :: rightRest => alike left right && alikeAll leftRest rightRest
  | _, _ => false

end

mutual

theorem alike_iff : (left right : Value) → (alike left right = true ↔ left = right)
  | .compound left, right => by
    cases right <;> simp [alike, alikeAll_iff left]
  | .bool _, right => by cases right <;> simp [alike]
  | .char _, right => by cases right <;> simp [alike]
  | .integer _, right => by cases right <;> simp [alike]
  | .number _, right => by cases right <;> simp [alike]
  | .text _, right => by cases right <;> simp [alike]
  | .token _ _, right => by cases right <;> simp [alike]

theorem alikeAll_iff : (left right : List Value) → (alikeAll left right = true ↔ left = right)
  | [], right => by cases right <;> simp [alikeAll]
  | left :: leftRest, right => by
    cases right with
    | nil => simp [alikeAll]
    | cons right rightRest =>
      simp [alikeAll, alike_iff left, alikeAll_iff leftRest]

end

instance : DecidableEq Value := fun left right =>
  decidable_of_iff (alike left right = true) (alike_iff left right)

/-- The parts of a structured value; a scalar has none. -/
def parts : Value → List Value
  | .compound parts => parts
  | _ => []

@[simp] theorem parts_compound (list : List Value) : (compound list).parts = list := rfl

/-- The part at a position, the unit value where there is none. -/
def field (value : Value) (position : Nat) : Value := value.parts.getD position .unit

/-- The integer a value is, zero for any other value. -/
def toInt : Value → Int
  | .integer whole => whole
  | _ => 0

/-- The number a value is, undefined for any other value. -/
def toNumber : Value → Number
  | .number real => real
  | _ => .nan

/-- The text a value is, empty for any other value. -/
def toText : Value → String
  | .text words => words
  | _ => ""

mutual

/-- How many levels a value has, at least one. -/
def depth : Value → Nat
  | .compound parts => depthAll parts + 1
  | _ => 1

/-- How many levels the deepest of some values has. -/
def depthAll : List Value → Nat
  | [] => 0
  | value :: rest => max value.depth (depthAll rest)

end

/-- The part of a value at the end of a path. -/
def part? : Value → Path → Option Value
  | value, [] => some value
  | value, position :: rest =>
    match value.parts[position]? with
    | some part => part.part? rest
    | none => none

/-- The value with another part at the end of a path; a path that leaves the value changes
nothing. -/
def replace : Value → Path → Value → Value
  | _, [], new => new
  | .compound parts, position :: rest, new =>
    match parts[position]? with
    | some part => .compound (parts.set position (part.replace rest new))
    | none => .compound parts
  | value, _ :: _, _ => value

/-- A value is its own part at the empty path. -/
@[simp] theorem part?_nil (value : Value) : value.part? [] = some value := by
  cases value <;> rfl

/-- Replacing a value as a whole. -/
@[simp] theorem replace_nil (value new : Value) : value.replace [] new = new := by
  cases value <;> rfl

/-- The first step of a path leads to one of the parts. -/
theorem part?_cons (value : Value) (position : Nat) (rest : Path) :
    value.part? (position :: rest) = (value.parts[position]?).bind (·.part? rest) := by
  rw [part?]
  cases value.parts[position]? <;> rfl

/-- A path in two pieces is followed one piece after the other. -/
theorem part?_append (value : Value) (front back : Path) :
    value.part? (front ++ back) = (value.part? front).bind (·.part? back) := by
  induction front generalizing value with
  | nil => simp
  | cons position rest ih =>
    simp only [List.cons_append, part?_cons]
    cases value.parts[position]? with
    | none => rfl
    | some part => simp [ih]

/-- Replacing below the first step of a path replaces one of the parts. -/
theorem replace_cons {value part : Value} {position : Nat}
    (found : value.parts[position]? = some part) (rest : Path) (new : Value) :
    value.replace (position :: rest) new =
      .compound (value.parts.set position (part.replace rest new)) := by
  cases value with
  | compound list =>
    simp only [parts] at found ⊢
    simp [replace, found]
  | _ => simp [parts] at found

/-- A path that leaves the value at its first step replaces nothing. -/
theorem replace_cons_of_none {value : Value} {position : Nat}
    (missing : value.parts[position]? = none) (rest : Path) (new : Value) :
    value.replace (position :: rest) new = value := by
  cases value with
  | compound list =>
    simp only [parts] at missing
    simp [replace, missing]
  | _ => rfl

/-- A part that was put is read back. -/
theorem part?_replace_self {value : Value} {path : Path} (reached : (value.part? path).isSome)
    (new : Value) : (value.replace path new).part? path = some new := by
  induction path generalizing value with
  | nil => simp
  | cons position rest ih =>
    rw [part?_cons] at reached
    cases found : value.parts[position]? with
    | none => simp [found] at reached
    | some part =>
      rw [found] at reached
      have inner : (part.replace rest new).part? rest = some new :=
        ih (by simpa using reached)
      have bound : position < value.parts.length := (List.getElem?_eq_some_iff.1 found).1
      rw [replace_cons found, part?_cons]
      simp [bound, inner]

/-- Putting back the part that is there changes nothing. -/
theorem replace_part? {value part : Value} {path : Path} (found : value.part? path = some part) :
    value.replace path part = value := by
  induction path generalizing value with
  | nil =>
    simp at found
    simp [found]
  | cons position rest ih =>
    rw [part?_cons] at found
    cases step : value.parts[position]? with
    | none => simp [step] at found
    | some inner =>
      rw [step] at found
      have same : inner.replace rest part = inner := ih (by simpa using found)
      rw [replace_cons step, same]
      cases value with
      | compound list =>
        simp only [parts] at step ⊢
        congr 1
        obtain ⟨bound, rfl⟩ := List.getElem?_eq_some_iff.1 step
        exact List.set_getElem_self bound
      | _ => simp [parts] at step

/-- A path that leaves the value replaces nothing. -/
theorem replace_of_none {value : Value} {path : Path} (missing : value.part? path = none)
    (new : Value) : value.replace path new = value := by
  induction path generalizing value with
  | nil => simp at missing
  | cons position rest ih =>
    rw [part?_cons] at missing
    cases step : value.parts[position]? with
    | none => exact replace_cons_of_none step rest new
    | some inner =>
      rw [step] at missing
      have same : inner.replace rest new = inner := ih (by simpa using missing)
      have whole : value.part? [position] = some inner := by
        rw [part?_cons, step]
        exact part?_nil inner
      have put := replace_part? whole
      rw [replace_cons step, replace_nil] at put
      rw [replace_cons step, same, put]

/-- Replacing at a path in two pieces replaces the part at the first by itself with the second
replaced. -/
theorem replace_append {value part : Value} {front : Path} (found : value.part? front = some part)
    (back : Path) (new : Value) :
    value.replace (front ++ back) new = value.replace front (part.replace back new) := by
  induction front generalizing value with
  | nil =>
    obtain rfl : value = part := by simpa using found
    simp
  | cons position rest ih =>
    rw [part?_cons] at found
    cases step : value.parts[position]? with
    | none => simp [step] at found
    | some inner =>
      rw [step] at found
      have inside : inner.part? rest = some part := by simpa using found
      rw [List.cons_append, replace_cons step, replace_cons step, ih inside]

/-- A part on another branch is untouched by a replacement. -/
theorem part?_replace_apart {value : Value} {path other : Path} (new : Value)
    (apart : ¬path <+: other ∧ ¬other <+: path) :
    (value.replace path new).part? other = value.part? other := by
  induction path generalizing value other with
  | nil => exact absurd List.nil_prefix apart.1
  | cons position rest ih =>
    cases other with
    | nil => exact absurd List.nil_prefix apart.2
    | cons second others =>
      cases found : value.parts[position]? with
      | none => rw [replace_cons_of_none found]
      | some part =>
        rw [replace_cons found, part?_cons, part?_cons]
        by_cases same : position = second
        · subst same
          have bound : position < value.parts.length := (List.getElem?_eq_some_iff.1 found).1
          have inner : (part.replace rest new).part? others = part.part? others :=
            ih (by simpa using apart)
          rw [found]
          simp [bound, inner]
        · simp [same]

/-- A replacement below a part replaces inside that part. -/
theorem part?_replace_below {value part : Value} {front : Path}
    (found : value.part? front = some part) (back : Path) (new : Value) :
    (value.replace (front ++ back) new).part? front = some (part.replace back new) := by
  induction front generalizing value with
  | nil =>
    obtain rfl : value = part := by simpa using found
    simp
  | cons position rest ih =>
    rw [part?_cons] at found
    cases step : value.parts[position]? with
    | none => simp [step] at found
    | some inner =>
      rw [step] at found
      have bound : position < value.parts.length := (List.getElem?_eq_some_iff.1 step).1
      rw [List.cons_append, replace_cons step, part?_cons]
      simp [bound, ih found]

end Value

/-- A value with its type. -/
structure Typed where
  type : Ty
  value : Value
  deriving DecidableEq, Repr, Inhabited

end Reflection
