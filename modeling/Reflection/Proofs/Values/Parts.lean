import Reflection.Proofs.Values.Meaning
import Reflection.Standard.Universe

/-!
# Typed parts of typed values

A type contains another at a path if every value of it has there, where it has anything, a value of
the other; the part is writable if a value of the type stays one when any value of the part's type
is put there. Containment composes along paths. Items of sequences are writable parts and so are
values of tables and fields of tuples; items of sets and keys of tables are parts that can only be
read.
-/
namespace Reflection

namespace Meaning

variable {meaning : Meaning} {type part inner : Ty} {path rest : Path} {writable later : Prop}

/-- Whether a type contains another at a path, writable under some condition. -/
structure Contains (meaning : Meaning) (type : Ty) (path : Path) (part : Ty) (writable : Prop) :
    Prop where
  /-- What values of the type have there is of the part's type. -/
  reads : ∀ value found, meaning.Holds type value → value.part? path = some found →
    meaning.Holds part found
  /-- Values of the type stay such when values of the part's type are put there. -/
  writes : writable → ∀ value new, meaning.Holds type value → meaning.Holds part new →
    meaning.Holds type (value.replace path new)

namespace Contains

/-- A type contains itself. -/
theorem self (meaning : Meaning) (type : Ty) (writable : Prop) :
    meaning.Contains type [] type writable := by
  constructor
  case reads =>
    intro value found holds same
    rw [Value.part?_nil] at same
    cases same
    exact holds
  case writes =>
    intro _ value new _ holds
    rw [Value.replace_nil]
    exact holds

/-- What is writable under a condition is so under a stronger one. -/
theorem mono (contains : meaning.Contains type path part writable) (implied : later → writable) :
    meaning.Contains type path part later :=
  ⟨contains.reads, fun allowed => contains.writes (implied allowed)⟩

/-- A part of a part is a part. -/
theorem trans (first : meaning.Contains type path part writable)
    (second : meaning.Contains part rest inner later) :
    meaning.Contains type (path ++ rest) inner (writable ∧ later) := by
  constructor
  case reads =>
    intro value found holds reached
    rw [Value.part?_append] at reached
    obtain ⟨middle, outer, within⟩ := Option.bind_eq_some_iff.1 reached
    exact second.reads middle found (first.reads value middle holds outer) within
  case writes =>
    rintro ⟨outerWritable, innerWritable⟩ value new holds newHolds
    cases outer : value.part? path with
    | none =>
      have missing : value.part? (path ++ rest) = none := by
        rw [Value.part?_append, outer]
        rfl
      rw [Value.replace_of_none missing]
      exact holds
    | some middle =>
      have middleHolds : meaning.Holds part middle := first.reads value middle holds outer
      have changed := second.writes innerWritable middle new middleHolds newHolds
      rw [Value.replace_append outer]
      exact first.writes outerWritable value _ holds changed

end Contains

/-- Whether every value of a type has a value of another at a path, where any other such value may
be put. -/
structure Projects (meaning : Meaning) (type : Ty) (path : Path) (part : Ty) : Prop where
  contains : meaning.Contains type path part True
  reaches : ∀ value, meaning.Holds type value → (value.part? path).isSome = true

namespace Projects

/-- Every value is a part of itself. -/
theorem self (meaning : Meaning) (type : Ty) : meaning.Projects type [] type :=
  ⟨.self meaning type True, fun value _ => by rw [Value.part?_nil]; rfl⟩

/-- A part that every part has is one that every value has. -/
theorem trans (first : meaning.Projects type path part)
    (second : meaning.Projects part rest inner) : meaning.Projects type (path ++ rest) inner := by
  constructor
  case contains => exact (first.contains.trans second.contains).mono fun _ => ⟨trivial, trivial⟩
  case reaches =>
    intro value holds
    obtain ⟨middle, outer⟩ := Option.isSome_iff_exists.1 (first.reaches value holds)
    rw [Value.part?_append, outer]
    exact second.reaches middle (first.contains.reads value middle holds outer)

end Projects

/-! ### Parts of collections -/

section Collections

variable {isPart isKey isValue : Value → Prop} {condition : List Value → Prop}
  {value entry found new : Value} {index : Nat}

/-- What stands in a collection is what its parts are. -/
theorem Collection.reads (collection : Collection isPart condition value)
    (reached : value.part? [index] = some found) : isPart found := by
  obtain ⟨parts, rfl, each, _⟩ := collection
  rw [Value.part?_cons] at reached
  obtain ⟨item, listed, same⟩ := Option.bind_eq_some_iff.1 reached
  rw [Value.part?_nil] at same
  cases same
  exact each _ (List.mem_of_getElem? listed)

/-- A collection stays one when a part is replaced, if its condition allows that. -/
theorem Collection.writes (collection : Collection isPart condition value) (fits : isPart new)
    (allowed : ∀ parts old, value.part? [index] = some old → parts[index]? = some old →
      condition parts → condition (parts.set index new)) :
    Collection isPart condition (value.replace [index] new) := by
  obtain ⟨parts, rfl, each, satisfied⟩ := collection
  cases listed : parts[index]? with
  | none =>
    rw [Value.replace_cons_of_none listed]
    exact ⟨parts, rfl, each, satisfied⟩
  | some old =>
    have reached : (Value.compound parts).part? [index] = some old := by
      rw [Value.part?_cons, Value.parts_compound, listed]
      exact Value.part?_nil old
    rw [Value.replace_cons listed, Value.replace_nil]
    refine ⟨parts.set index new, rfl, ?_, allowed parts old reached listed satisfied⟩
    intro item mem
    rcases List.mem_or_eq_of_mem_set mem with earlier | same
    · exact each item earlier
    · exact same ▸ fits

/-- The first part of an entry is its key. -/
theorem Entry.reads_key (typed : Entry isKey isValue entry)
    (reached : entry.part? [0] = some found) : isKey found := by
  obtain ⟨first, second, rfl, keyed, _⟩ := typed
  cases reached
  exact keyed

/-- The second part of an entry is its value. -/
theorem Entry.reads_value (typed : Entry isKey isValue entry)
    (reached : entry.part? [1] = some found) : isValue found := by
  obtain ⟨first, second, rfl, _, valued⟩ := typed
  cases reached
  exact valued

/-- An entry stays one under its key when its value is replaced. -/
theorem Entry.writes_value (typed : Entry isKey isValue entry) (fits : isValue new) :
    Entry isKey isValue (entry.replace [1] new) ∧
      Standard.key (entry.replace [1] new) = Standard.key entry := by
  obtain ⟨first, second, rfl, keyed, _⟩ := typed
  exact ⟨⟨first, new, rfl, keyed, fits⟩, rfl⟩

/-- A collection of entries stays one when a value is replaced, if its condition is about keys. -/
theorem Collection.writes_value {ofKeys : List Value → Prop}
    (collection : Collection (Entry isKey isValue)
      (fun entries => ofKeys (entries.map Standard.key)) value) (fits : isValue new) :
    Collection (Entry isKey isValue) (fun entries => ofKeys (entries.map Standard.key))
      (value.replace [index, 1] new) := by
  cases reached : value.part? [index] with
  | none =>
    have missing : value.part? [index, 1] = none := by
      rw [← List.singleton_append, Value.part?_append, reached]
      rfl
    rw [Value.replace_of_none missing]
    exact collection
  | some old =>
    have typed : Entry isKey isValue old := collection.reads reached
    obtain ⟨changed, sameKey⟩ := typed.writes_value fits
    rw [← List.singleton_append, Value.replace_append reached]
    refine collection.writes changed ?_
    intro entries other again listed satisfied
    obtain rfl : old = other := Option.some.inj (reached.symm.trans again)
    have keys : (entries.set index (old.replace [1] new)).map Standard.key =
        entries.map Standard.key := by
      obtain ⟨bound, rfl⟩ := List.getElem?_eq_some_iff.1 listed
      rw [List.map_set, sameKey, ← List.map_set, List.set_getElem_self]
    rw [keys]
    exact satisfied

end Collections

/-! ### Parts of built-in types -/

/-- A sequence contains its items, writable if replacing one keeps its condition. -/
theorem contains_of_collection {item : Ty} {condition : List Value → Prop}
    (collects : ∀ value, meaning.Holds type value ↔
      Collection (meaning.Holds item) condition value)
    (allowed : writable → ∀ parts index new, condition parts → condition (parts.set index new))
    (index : Nat) : meaning.Contains type [index] item writable := by
  constructor
  case reads =>
    intro value found holds reached
    exact ((collects value).1 holds).reads reached
  case writes =>
    intro may value new holds fits
    refine (collects _).2 (((collects value).1 holds).writes fits ?_)
    intro parts _ _ _ satisfied
    exact allowed may parts index new satisfied

/-- A built-in range contains its items, writable if its shape is. -/
theorem contains_item {shape : RangeShape} (shaped : Standard.rangeShape type = some shape)
    (index : Nat) :
    meaning.Contains type (shape.place ++ [index]) shape.item (shape.writable = true) := by
  have lengths : ∀ (parts : List Value) index new, (parts.set index new).length = parts.length :=
    fun parts index new => List.length_set
  cases type with
  | vector item | deque item =>
    cases shaped
    exact contains_of_collection (fun _ => Iff.rfl) (fun _ _ _ _ _ => trivial) index
  | array item length =>
    cases shaped
    exact contains_of_collection (fun _ => Iff.rfl)
      (fun _ parts _ _ satisfied => (lengths parts _ _).trans satisfied) index
  | option item =>
    cases shaped
    exact contains_of_collection (fun _ => Iff.rfl)
      (fun _ parts _ _ satisfied => Nat.le_trans (Nat.le_of_eq (lengths parts _ _)) satisfied) index
  | hashSet item | orderedSet item =>
    cases shaped
    exact contains_of_collection (fun _ => Iff.rfl) (fun may => Bool.noConfusion may) index
  | _ => contradiction

/-- A built-in table contains its keys, which can only be read. -/
theorem contains_key {shape : TableShape} (shaped : Standard.tableShape type = some shape)
    (index : Nat) :
    meaning.Contains type (shape.place ++ [index, 0]) shape.key False := by
  refine ⟨?_, False.elim⟩
  intro value found holds reached
  cases type with
  | hashMap keys values | orderedMap keys values =>
    cases shaped
    have split : value.part? ([index] ++ [0]) = some found := reached
    rw [Value.part?_append] at split
    obtain ⟨entry, outer, within⟩ := Option.bind_eq_some_iff.1 split
    exact (holds.reads outer).reads_key within
  | _ => contradiction

/-- A built-in table contains its values. -/
theorem contains_value {shape : TableShape} (shaped : Standard.tableShape type = some shape)
    (index : Nat) :
    meaning.Contains type (shape.place ++ [index, 1]) shape.value (shape.writable = true) := by
  cases type with
  | hashMap keys values | orderedMap keys values =>
    cases shaped
    constructor
    case reads =>
      intro value found holds reached
      have split : value.part? ([index] ++ [1]) = some found := reached
      rw [Value.part?_append] at split
      obtain ⟨entry, outer, within⟩ := Option.bind_eq_some_iff.1 split
      exact (holds.reads outer).reads_value within
    case writes =>
      intro _ value new holds fits
      exact Collection.writes_value holds fits
  | _ => contradiction

/-- A tuple contains its fields. -/
theorem contains_field {index : Nat} {field : Ty} (listed : type.fields[index]? = some field) :
    meaning.Contains type [index] field True := by
  induction type generalizing index with
  | tuple first rest _ ih =>
    cases index with
    | zero =>
      cases listed
      constructor
      case reads =>
        rintro _ found ⟨part, others, rfl, isFirst, _⟩ reached
        cases reached
        exact isFirst
      case writes =>
        rintro - _ new ⟨part, others, rfl, _, areRest⟩ fits
        exact ⟨new, others, rfl, fits, areRest⟩
    | succ index =>
      have inner := ih listed
      constructor
      case reads =>
        rintro _ found ⟨part, others, rfl, _, areRest, _⟩ reached
        exact inner.reads (.compound others) found areRest reached
      case writes =>
        rintro - _ new ⟨part, others, rfl, isFirst, areRest, ends⟩ fits
        have changed := inner.writes trivial (.compound others) new areRest fits
        cases stands : others[index]? with
        | none =>
          have beyond : (Value.compound (part :: others)).parts[index + 1]? = none := stands
          rw [Value.replace_cons_of_none beyond]
          exact ⟨part, others, rfl, isFirst, areRest, ends⟩
        | some old =>
          have here : (Value.compound (part :: others)).parts[index + 1]? = some old := stands
          have inside : (Value.compound others).parts[index]? = some old := stands
          rw [Value.replace_cons inside, Value.replace_nil] at changed
          rw [Value.replace_cons here, Value.replace_nil]
          exact ⟨part, others.set index new, rfl, isFirst, changed, ends⟩
  | _ => simp [Ty.fields] at listed

end Meaning

end Reflection
