import Mathlib.Data.List.Forall2
import Reflection.Any.Basic
import Reflection.Proofs.Values.Parts
import Reflection.Proofs.Values.Rounding
import Reflection.Standard.Universe

/-!
# What is known of types is typed

A record is sound for its type if its copies are values of the type and its shapes lead to parts of
the types they say; members are sound if constructors make values of their type, parents and
properties are typed parts, and conversions and functions give what they promise. Everything a type
is registered with is written for that type, so this is what registration guarantees. Built-in types
are sound by what they are described with.
-/
namespace Reflection

variable {meaning : Meaning} {type : Ty}

/-- Whether an any is empty or holds a value of the type its record names. -/
def Any.Sound (meaning : Meaning) : Any → Prop
  | .empty => True
  | .held _ content => meaning.Holds content.type content.value

/-- Whether a record leads from values of its type to values of the types it says. -/
structure Record.Sound (meaning : Meaning) (type : Ty) (record : Record) : Prop where
  /-- A copy of a value is a value of the type. -/
  clone : ∀ clone, record.capabilities.clone = some clone →
    ∀ value, meaning.Holds type value → meaning.Holds type (clone value)
  /-- Items are parts of the item type, which can be replaced if the range is writable. -/
  items : ∀ shape, record.range = some shape →
    ∀ index, meaning.Contains type (shape.place ++ [index]) shape.item (shape.writable = true)
  /-- Keys are parts of the key type. -/
  keys : ∀ shape, record.table = some shape →
    ∀ index, meaning.Contains type (shape.place ++ [index, 0]) shape.key False
  /-- Values are parts of the value type, which can be replaced if the table is writable. -/
  values : ∀ shape, record.table = some shape →
    ∀ index, meaning.Contains type (shape.place ++ [index, 1]) shape.value (shape.writable = true)
  /-- Fields are parts of their types, which can be replaced. -/
  fields : ∀ field ∈ record.fields, meaning.Contains type field.place field.type True
  /-- A value stays one of the type when a text that the shape takes is put into it. -/
  text : ∀ shape, record.string = some shape → ∀ value text, shape.takes text = true →
    meaning.Holds type value → meaning.Holds type (value.replace shape.place (.text text))
  /-- An integer stands for a value of the type. -/
  fromInteger : ∀ enumeration, record.enumeration = some enumeration →
    ∀ number value, enumeration.fromInteger number = some value → meaning.Holds type value

/-- Whether a function gives what it promises when it gets what it expects, and leaves a receiver
that it borrows mutably with a value of its type. -/
def Overload.Sound (meaning : Meaning) (overload : Overload) : Prop :=
  ∀ receiver arguments,
    (∀ parameter ∈ overload.receiver, meaning.Holds parameter.type receiver) →
    List.Forall₂ meaning.Holds overload.copied arguments →
    meaning.Holds overload.returns (overload.body receiver arguments).1 ∧
      ∀ parameter ∈ overload.receiver, parameter.exclusive = true →
        meaning.Holds parameter.type (overload.body receiver arguments).2

/-- Whether a property is a typed part of the values of its owner. -/
structure Property.Sound (meaning : Meaning) (property : Property) : Prop where
  get : ∀ value, meaning.Holds property.owner value →
    meaning.Holds property.type (property.get value)
  set : ∀ set, property.set = some set → ∀ value new, meaning.Holds property.owner value →
    meaning.Holds property.type new → meaning.Holds property.owner (set value new)

/-- Whether everything registered about a type is written for that type. -/
structure Members.Sound (meaning : Meaning) (type : Ty) (members : Members) : Prop where
  constructors : ∀ overload ∈ members.constructors,
    overload.Sound meaning ∧ overload.returns = type
  parents : ∀ parent ∈ members.parents, meaning.Projects type parent.place parent.type
  conversions : ∀ conversion ∈ members.conversions,
    ∀ value, meaning.Holds type value → meaning.Holds conversion.target (conversion.convert value)
  constants : ∀ name constant, members.constants.find? name = some constant →
    meaning.Holds constant.value.type constant.value.value
  properties : ∀ name property, members.properties.find? name = some property →
    property.Sound meaning
  functions : ∀ name overloads, members.functions.find? name = some overloads →
    ∀ overload ∈ overloads, overload.Sound meaning

/-- Whether what is fixed about every type is sound: its record, and the members it is described
with. -/
structure Universe.Sound (meaning : Meaning) (fixed : Universe) : Prop where
  record : ∀ type, (fixed.record type).Sound meaning type
  described : ∀ type, (fixed.described type).Sound meaning type

/-- Whether everything that is known of types is sound. -/
structure Types.Sound (meaning : Meaning) (types : Types) : Prop where
  fixed : types.fixed.Sound meaning
  members : ∀ type, (types.members type).Sound meaning type

/-- Types in their described state are sound if what is fixed about them is. -/
theorem Types.sound_described {fixed : Universe} (sound : fixed.Sound meaning) :
    (Types.described fixed).Sound meaning :=
  ⟨sound, sound.described⟩

namespace Standard

open Meaning

/-! ### Copies -/

/-- A copy of every part of a collection is one. -/
theorem collection_mapParts {isPart : Value → Prop} {condition : List Value → Prop}
    {change : Value → Value} {value : Value} (collection : Collection isPart condition value)
    (each : ∀ part, isPart part → isPart (change part))
    (allowed : ∀ parts, (∀ part ∈ parts, isPart part) → condition parts →
      condition (parts.map change)) :
    Collection isPart condition (mapParts change value) := by
  obtain ⟨parts, rfl, typed, satisfied⟩ := collection
  refine ⟨parts.map change, rfl, ?_, allowed parts typed satisfied⟩
  intro part mem
  obtain ⟨old, listed, rfl⟩ := List.mem_map.1 mem
  exact each old (typed old listed)

/-- A copy of an entry is an entry under its key. -/
theorem entry_mapEntry {isKey isValue : Value → Prop} {change : Value → Value} {entry : Value}
    (typed : Entry isKey isValue entry) (each : ∀ part, isValue part → isValue (change part)) :
    Entry isKey isValue (mapEntry change entry) ∧ key (mapEntry change entry) = key entry := by
  obtain ⟨first, second, rfl, keyed, valued⟩ := typed
  exact ⟨⟨first, change second, rfl, keyed, each second valued⟩, rfl⟩

/-- A copy of every value of a table is a table with the same keys. -/
theorem collection_mapEntries {isKey isValue : Value → Prop} {ofKeys : List Value → Prop}
    {change : Value → Value} {value : Value}
    (collection : Collection (Entry isKey isValue) (fun entries => ofKeys (entries.map key)) value)
    (each : ∀ part, isValue part → isValue (change part)) :
    Collection (Entry isKey isValue) (fun entries => ofKeys (entries.map key))
      (mapParts (mapEntry change) value) := by
  refine collection_mapParts collection (fun entry typed => (entry_mapEntry typed each).1) ?_
  intro entries typed satisfied
  have keys : (entries.map (mapEntry change)).map key = entries.map key := by
    rw [List.map_map]
    exact List.map_congr_left fun entry mem => (entry_mapEntry (typed entry mem) each).2
  rw [keys]
  exact satisfied

/-- Copies are values of their type if those of named types are. -/
theorem holds_clone {named : String → Capabilities}
    (copies : ∀ name clone, (named name).clone = some clone →
      ∀ value, meaning.inhabits name value → meaning.inhabits name (clone value))
    {clone : Value → Value} (installed : (capabilities named type).clone = some clone)
    {value : Value} (holds : meaning.Holds type value) : meaning.Holds type (clone value) := by
  induction type generalizing clone value with
  | unit | bool | char | integer | float32 | float64 | string | str | hashSet | orderedSet =>
    cases installed
    exact holds
  | named name => exact copies name clone installed value holds
  | vector item ih | deque item ih =>
    obtain ⟨itemClone, found, rfl⟩ := Option.map_eq_some_iff.1 installed
    exact collection_mapParts holds (fun part => ih found) fun _ _ _ => trivial
  | array item length ih =>
    obtain ⟨itemClone, found, rfl⟩ := Option.map_eq_some_iff.1 installed
    exact collection_mapParts holds (fun part => ih found)
      fun _ _ satisfied => (List.length_map _).trans satisfied
  | option item ih =>
    obtain ⟨itemClone, found, rfl⟩ := Option.map_eq_some_iff.1 installed
    exact collection_mapParts holds (fun part => ih found)
      fun _ _ satisfied => Nat.le_trans (Nat.le_of_eq (List.length_map _)) satisfied
  | hashMap keys item _ ih =>
    obtain ⟨itemClone, found, rfl⟩ := Option.map_eq_some_iff.1 installed
    exact collection_mapEntries holds fun part => ih found
  | orderedMap keys item _ ih =>
    obtain ⟨itemClone, found, rfl⟩ := Option.map_eq_some_iff.1 installed
    exact collection_mapEntries holds fun part => ih found
  | tuple first rest firstIh restIh =>
    obtain ⟨firstClone, found, others⟩ := Option.bind_eq_some_iff.1 installed
    obtain ⟨restClone, foundRest, same⟩ := Option.bind_eq_some_iff.1 others
    cases same
    obtain ⟨part, others, rfl, isFirst, areRest, ends⟩ := holds
    -- The copy of the other fields is put together from its parts, so it has to be a compound.
    have copied : meaning.Holds rest (restClone (.compound others)) := restIh foundRest areRest
    obtain ⟨copies, compound⟩ := exists_compound_of_endsTuple ends copied
    rw [compound] at copied
    refine ⟨firstClone part, copies, ?_, firstIh found isFirst, copied, ends⟩
    show Value.compound (firstClone part :: (restClone (.compound others)).parts) = _
    rw [compound]
    rfl

/-! ### Records -/

/-- The record of a built-in type is sound if copies of named types are. -/
theorem sound_record {describe : String → Description}
    (named : ∀ name, (describe name).record.Sound meaning (.named name)) (type : Ty) :
    (record describe type).Sound meaning type := by
  have copies : ∀ name clone, (describe name).record.capabilities.clone = some clone →
      ∀ value, meaning.inhabits name value → meaning.inhabits name (clone value) :=
    fun name => (named name).clone
  by_cases isNamed : ∃ name, type = .named name
  case pos =>
    obtain ⟨name, rfl⟩ := isNamed
    exact named name
  -- All other types share one shape of record, whose fields are sound by functions of the type.
  have built : record describe type =
      { name := typeName (fun key => (describe key).record.name) type
        layout := layout (fun key => (describe key).record.layout) type
        flags := { kindFlags type with
          empty := (layout (fun key => (describe key).record.layout) type).size == 0 }
        capabilities := capabilities (fun key => (describe key).record.capabilities) type
        range := rangeShape type
        table := tableShape type
        fields := tupleFields type
        string := stringShape type } := by
    cases type <;> first | rfl | exact absurd ⟨_, rfl⟩ isNamed
  rw [built]
  constructor
  case clone => exact fun clone installed value holds => holds_clone copies installed holds
  case items => exact fun shape shaped index => contains_item shaped index
  case keys => exact fun shape shaped index => contains_key shaped index
  case values => exact fun shape shaped index => contains_value shaped index
  case fields =>
    intro field listed
    obtain ⟨index, bound, rfl⟩ := List.mem_mapIdx.1 listed
    exact contains_field (List.getElem?_eq_getElem bound)
  case text =>
    intro shape shaped value text takes holds
    cases type with
    | string =>
      cases shaped
      exact ⟨text, Value.replace_nil _ _⟩
    | str =>
      cases shaped
      contradiction
    | _ => contradiction
  case fromInteger =>
    intro enumeration absent
    cases absent

/-! ### Described members -/

/-- A copy constructor makes values of its type if its copies are. -/
theorem sound_copyConstructor (meaning : Meaning) (type : Ty) :
    (Overload.copyConstructor type).Sound meaning := by
  intro receiver arguments received _
  refine ⟨received { type } rfl, ?_⟩
  intro parameter taken exclusive
  cases taken
  contradiction

/-- A constructor without arguments makes the default value. -/
theorem sound_defaultConstructor {value : Value} (holds : meaning.Holds type value) :
    (defaultConstructor type value).Sound meaning := by
  intro _ _ _ _
  refine ⟨holds, ?_⟩
  intro parameter absent
  cases absent

/-- A default value is one of its type. -/
theorem holds_defaultValue {value : Value} (given : defaultValue type = some value) :
    meaning.Holds type value := by
  cases type with
  | unit =>
    cases given
    rfl
  | bool | char | string | str =>
    cases given
    exact ⟨_, rfl⟩
  | integer kind =>
    cases given
    exact ⟨0, rfl, by cases kind <;> decide⟩
  | float32 | float64 =>
    cases given
    exact ⟨_, rfl, Nat.two_pow_pos _, by decide, by decide⟩
  | vector item | deque item =>
    cases given
    exact ⟨[], rfl, fun _ mem => absurd mem List.not_mem_nil, trivial⟩
  | option item =>
    cases given
    exact ⟨[], rfl, fun _ mem => absurd mem List.not_mem_nil, Nat.zero_le 1⟩
  | hashSet item =>
    cases given
    exact ⟨[], rfl, fun _ mem => absurd mem List.not_mem_nil, .nil⟩
  | orderedSet item =>
    cases given
    exact ⟨[], rfl, fun _ mem => absurd mem List.not_mem_nil, .nil⟩
  | hashMap keys item =>
    cases given
    exact ⟨[], rfl, fun _ mem => absurd mem List.not_mem_nil, .nil⟩
  | orderedMap keys item =>
    cases given
    exact ⟨[], rfl, fun _ mem => absurd mem List.not_mem_nil, .nil⟩
  | named name | array item length | tuple first rest => contradiction

/-- The numeric types are the integer types and the two formats of numbers. -/
theorem mem_numericTypes_iff :
    type ∈ numericTypes ↔ (∃ kind, type = .integer kind) ∨ type = .float32 ∨ type = .float64 := by
  have every : ∀ kind, kind ∈ IntegerKind.all := by
    intro kind
    cases kind <;> decide
  simp [numericTypes, every, eq_comm]

/-- Numbers convert to numbers of the target type: integers wrap or are clamped into its range, and
others are rounded to its format. -/
theorem holds_convertNumber {target : Ty} (source : type ∈ numericTypes)
    (numeric : target ∈ numericTypes) {value : Value} (holds : meaning.Holds type value) :
    meaning.Holds target (convertNumber target value) := by
  have single : Format.single.Proper := ⟨by decide, by decide⟩
  have double : Format.double.Proper := ⟨by decide, by decide⟩
  have number : (∃ whole, value = .integer whole) ∨ ∃ real, value = .number real := by
    rcases mem_numericTypes_iff.1 source with ⟨kind, rfl⟩ | rfl | rfl
    · obtain ⟨whole, same, _⟩ := holds
      exact .inl ⟨whole, same⟩
    · obtain ⟨real, same, _⟩ := holds
      exact .inr ⟨real, same⟩
    · obtain ⟨real, same, _⟩ := holds
      exact .inr ⟨real, same⟩
  rcases number with ⟨whole, rfl⟩ | ⟨real, rfl⟩
  · rcases mem_numericTypes_iff.1 numeric with ⟨kind, rfl⟩ | rfl | rfl
    · exact ⟨_, rfl, kind.holds_wrap whole⟩
    · exact ⟨_, rfl, Number.fits_ofQuotient single _ _ _⟩
    · exact ⟨_, rfl, Number.fits_ofQuotient double _ _ _⟩
  · rcases mem_numericTypes_iff.1 numeric with ⟨kind, rfl⟩ | rfl | rfl
    · exact ⟨_, rfl, Number.holds_toInteger kind real⟩
    · exact ⟨_, rfl, Number.fits_convert single real⟩
    · exact ⟨_, rfl, Number.fits_convert double real⟩

/-- A code point is an unsigned integer of 32 bits. -/
theorem holds_codePoint (sign : Char) : IntegerKind.u32.holds (sign.toNat : Int) = true := by
  have bound : sign.toNat < 2 ^ 32 := sign.val.toNat_lt
  rw [IntegerKind.holds_iff]
  simp [IntegerKind.least, IntegerKind.greatest, IntegerKind.signed, IntegerKind.bits]
  omega

/-- The conversions of a built-in type give values of their targets. -/
theorem holds_conversions {conversion : Conversion} (listed : conversion ∈ conversions type)
    {value : Value} (holds : meaning.Holds type value) :
    meaning.Holds conversion.target (conversion.convert value) := by
  cases type with
  | integer kind =>
    obtain ⟨target, numeric, rfl⟩ := List.mem_map.1 listed
    exact holds_convertNumber (mem_numericTypes_iff.2 (.inl ⟨kind, rfl⟩)) numeric holds
  | float32 =>
    obtain ⟨target, numeric, rfl⟩ := List.mem_map.1 listed
    exact holds_convertNumber (mem_numericTypes_iff.2 (.inr (.inl rfl))) numeric holds
  | float64 =>
    obtain ⟨target, numeric, rfl⟩ := List.mem_map.1 listed
    exact holds_convertNumber (mem_numericTypes_iff.2 (.inr (.inr rfl))) numeric holds
  | char =>
    obtain rfl := List.mem_singleton.1 listed
    obtain ⟨sign, rfl⟩ := holds
    exact ⟨_, rfl, holds_codePoint sign⟩
  | str =>
    obtain rfl := List.mem_singleton.1 listed
    exact holds
  | _ => exact absurd listed List.not_mem_nil

/-- The members of a built-in type are sound if those of named types are. -/
theorem sound_members {describe : String → Description}
    (named : ∀ name, (describe name).members.Sound meaning (.named name)) (type : Ty) :
    (members describe type).Sound meaning type := by
  by_cases isNamed : ∃ name, type = .named name
  case pos =>
    obtain ⟨name, rfl⟩ := isNamed
    exact named name
  have built : members describe type =
      { constructors :=
          (if hasCopyConstructor type then [.copyConstructor type] else []) ++
            (defaultValue type).toList.map (defaultConstructor type)
        conversions := conversions type } := by
    cases type <;> first | rfl | exact absurd ⟨_, rfl⟩ isNamed
  rw [built]
  constructor
  case constructors =>
    intro overload listed
    rcases List.mem_append.1 listed with copying | plain
    · split at copying
      · obtain rfl := List.mem_singleton.1 copying
        exact ⟨sound_copyConstructor meaning type, rfl⟩
      · exact absurd copying List.not_mem_nil
    · obtain ⟨value, given, rfl⟩ := List.mem_map.1 plain
      have default : defaultValue type = some value := Option.mem_toList.1 given
      exact ⟨sound_defaultConstructor (holds_defaultValue default), rfl⟩
  case parents => exact fun parent absent => absurd absent List.not_mem_nil
  case conversions => exact fun conversion listed value holds => holds_conversions listed holds
  case constants =>
    intro name constant absent
    cases absent
  case properties =>
    intro name property absent
    cases absent
  case functions =>
    intro name overloads absent
    cases absent

/-- All types over a sound description of the named ones are sound. -/
theorem sound_universeOf {describe : String → Description}
    (records : ∀ name, (describe name).record.Sound meaning (.named name))
    (described : ∀ name, (describe name).members.Sound meaning (.named name)) :
    (universeOf describe).Sound meaning :=
  ⟨sound_record records, sound_members described⟩

end Standard

end Reflection
