import Reflection.Standard.Comparison
import Reflection.Types

/-!
# The values of types

Which values a type has: `Meaning.Holds`, by recursion over the type. Integers lie in the range of
their kind and numbers are of their format; arrays have their length, options at most one item,
tuples a part for every field; items of sets are apart from each other, so in particular different,
and ascend where the set is ordered; and so do keys of tables. What the values of a named type are,
and which keys are apart and how they are ordered, is given by a `Meaning`.
-/
namespace Reflection

/-- What is left open by types alone: the values of named types, and for each type that can be a key
which of its different values are not the same key, all of them unless said otherwise, and a strict
order of them. -/
structure Meaning where
  inhabits : String → Value → Prop
  apart : Ty → Value → Value → Prop := fun _ _ _ => True
  before : Ty → Value → Value → Prop
  irreflexive : ∀ type value, ¬ before type value value
  transitive : ∀ type first second third,
    before type first second → before type second third → before type first third

namespace Meaning

open Standard (key)

/-- Whether a value is made of parts of one kind that satisfy a condition together. -/
def Collection (isPart : Value → Prop) (condition : List Value → Prop) (value : Value) : Prop :=
  ∃ parts, value = .compound parts ∧ (∀ part ∈ parts, isPart part) ∧ condition parts

/-- Whether a value is an entry of a table, given what keys and values are. -/
def Entry (isKey isValue : Value → Prop) (entry : Value) : Prop :=
  ∃ first second, entry = .compound [first, second] ∧ isKey first ∧ isValue second

/-- Whether two keys of a type are different, and not the same key. -/
def Apart (meaning : Meaning) (type : Ty) (left right : Value) : Prop :=
  left ≠ right ∧ meaning.apart type left right

/-- Whether a type can stand behind the first field of a tuple: another tuple, or its end. -/
def EndsTuple : Ty → Prop
  | .unit | .tuple _ _ => True
  | _ => False

/-- Whether a value is one of a type. -/
def Holds (meaning : Meaning) : Ty → Value → Prop
  | .unit, value => value = .unit
  | .bool, value => ∃ truth, value = .bool truth
  | .char, value => ∃ sign, value = .char sign
  | .integer kind, value => ∃ number, value = .integer number ∧ kind.holds number
  | .float32, value => ∃ number, value = .number number ∧ number.Fits .single
  | .float64, value => ∃ number, value = .number number ∧ number.Fits .double
  | .string, value | .str, value => ∃ text, value = .text text
  | .named name, value => meaning.inhabits name value
  | .vector item, value | .deque item, value =>
    Collection (Holds meaning item) (fun _ => True) value
  | .array item length, value =>
    Collection (Holds meaning item) (fun items => items.length = length) value
  | .option item, value => Collection (Holds meaning item) (fun items => items.length ≤ 1) value
  | .hashSet item, value =>
    Collection (Holds meaning item) (List.Pairwise (meaning.Apart item)) value
  | .orderedSet item, value =>
    Collection (Holds meaning item) (List.Pairwise (meaning.before item)) value
  | .hashMap keys values, value =>
    Collection (Entry (Holds meaning keys) (Holds meaning values))
      (fun entries => (entries.map key).Pairwise (meaning.Apart keys)) value
  | .orderedMap keys values, value =>
    Collection (Entry (Holds meaning keys) (Holds meaning values))
      (fun entries => (entries.map key).Pairwise (meaning.before keys)) value
  | .tuple first rest, value =>
    ∃ part others, value = .compound (part :: others) ∧ Holds meaning first part ∧
      Holds meaning rest (.compound others) ∧ EndsTuple rest

variable {meaning : Meaning}

/-- What stands behind the first field of a tuple is a compound. -/
theorem exists_compound_of_endsTuple {type : Ty} {value : Value} (ends : EndsTuple type)
    (holds : meaning.Holds type value) : ∃ parts, value = .compound parts := by
  cases type with
  | unit => exact ⟨[], holds⟩
  | tuple first rest =>
    obtain ⟨part, others, same, _⟩ := holds
    exact ⟨part :: others, same⟩
  | _ => contradiction

/-- Values that are different are apart, where this is all there is to it. -/
theorem apart_of_nodup {type : Ty} {values : List Value}
    (trivially : ∀ left right, meaning.apart type left right) (distinct : values.Nodup) :
    values.Pairwise (meaning.Apart type) :=
  distinct.imp fun {left right} different => ⟨different, trivially left right⟩

end Meaning

end Reflection
