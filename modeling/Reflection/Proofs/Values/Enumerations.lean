import Mathlib.Algebra.Group.Int.Defs
import Reflection.Catalogue.Enumerations
import Reflection.Enumeration
import Reflection.Proofs.Text.Decimal
import Reflection.Proofs.Values.Capabilities

/-!
# Enumerations read back

A value of an enumeration is written as the name of a constant that equals it, or as its underlying
integer, and a text is read as a name before it is read as an integer. What is written therefore
reads back as the value, unless no constant equals the value and its integer is taken for something
else: for the name of another constant of the type, or for no integer at all since it lies beyond
the widest signed kind. `enumeration_reads_back_iff` says that nothing else goes wrong.
-/
namespace Reflection

open Standard (Description universeOf)

/-- The comparison of two integers. -/
theorem Standard.scalarEq_integer (left right : Int) :
    Standard.scalarEq (.integer left) (.integer right) = decide (left = right) := by
  change (some (compare left right) == some .eq) = decide (left = right)
  by_cases same : left = right
  · simp [same]
  · simp [same]

/-- Whatever integers a kind holds are not below the widest signed kind. -/
theorem IntegerKind.least_i128_le {kind : IntegerKind} {number : Int}
    (holds : kind.holds number = true) : IntegerKind.i128.least ≤ number := by
  have bound : IntegerKind.i128.least ≤ kind.least := by
    cases kind <;> simp [least, signed, bits]
  exact Int.le_trans bound (IntegerKind.holds_iff.1 holds).1

namespace Types

variable {describe : String → Description} {types : Types} {type : Ty} {kind : IntegerKind}
  {isValue : Value → Prop} {enumeration : Enumeration} {value : Value} {number : Int}

/-- A type is described as an enumeration over a built-in integer kind that can be copied, and its
own conversions to the kind and back are inverse. -/
structure Enumerates (types : Types) (type : Ty) (kind : IntegerKind) (isValue : Value → Prop)
    (enumeration : Enumeration) : Prop where
  described : (types.record type).enumeration = some enumeration
  integral : enumeration.underlying = .integer kind
  /-- Every value converts to an integer of the kind. -/
  integers : ∀ value, isValue value →
    ∃ number, enumeration.toUnderlying value = .integer number ∧ kind.holds number = true
  /-- The integer of a value converts back to it. -/
  inverse : ∀ value number, isValue value →
    enumeration.toUnderlying value = .integer number → enumeration.fromInteger number = some value
  /-- A copy of a value is the value. -/
  copies : ∃ clone, (types.capabilities type).clone = some clone ∧
    ∀ value, isValue value → clone value = value
  /-- Constants of the type are values of it; there may be constants of other types. -/
  constants : ∀ name constant, (types.members type).constants.find? name = some constant →
    constant.value.type = type → isValue constant.value.value

/-- A constant of the type equals a value: it has the same underlying integer. -/
def Equals (enumeration : Enumeration) (type : Ty) (value : Value) (constant : Constant) : Prop :=
  constant.value.type = type ∧
    enumeration.toUnderlying constant.value.value = enumeration.toUnderlying value

/-- Integers of built-in kinds can be compared and shown. -/
theorem capabilities_integer (builtIn : types.fixed = universeOf describe) (kind : IntegerKind) :
    types.capabilities (.integer kind) = Standard.scalar := by
  rw [capabilities, record, builtIn]
  exact Standard.capabilities_record describe (.integer kind)

/-- A name that no constant of a type has stands for none of them. -/
theorem filter_constant_of_free {name : String}
    (free : ∀ constant, (types.members type).constants.find? name = some constant →
      constant.value.type ≠ type) :
    ((types.members type).constants.find? name).filter (·.value.type = type) = none := by
  rw [Option.filter_eq_none_iff]
  intro constant known own
  exact free constant known (of_decide_eq_true own)

namespace Enumerates

variable (enumerates : types.Enumerates type kind isValue enumeration)
  (builtIn : types.fixed = universeOf describe)

include enumerates

/-- The test by which a constant is chosen for a value is passed by the constants that equal it. -/
theorem passes_iff (builtIn : types.fixed = universeOf describe) (isOne : isValue value)
    {name : String} {constant : Constant}
    (known : (types.members type).constants.find? name = some constant) :
    (constant.value.type = type &&
        (underlying enumeration constant.value.value).eq types (underlying enumeration value)) =
          true ↔ Equals enumeration type value constant := by
  rw [Bool.and_eq_true, decide_eq_true_eq, Equals]
  refine and_congr_right fun own => ?_
  obtain ⟨mine, written, _⟩ := enumerates.integers value isOne
  obtain ⟨other, read, _⟩ := enumerates.integers _ (enumerates.constants name constant known own)
  simp only [underlying, Any.new, Any.eq, enumerates.integral, decide_true, Bool.true_and,
    capabilities_integer builtIn, Standard.scalar, written, read, Standard.scalarEq_integer,
    decide_eq_true_eq, Value.integer.injEq]

/-- A value that a constant equals is written as the name of such a constant. -/
theorem written_of_named (builtIn : types.fixed = universeOf describe) (isOne : isValue value)
    (access : Access)
    (named : ∃ name constant, (types.members type).constants.find? name = some constant ∧
      Equals enumeration type value constant) :
    ∃ name constant, (types.members type).constants.find? name = some constant ∧
      Equals enumeration type value constant ∧
      (types.enumToString (.held access ⟨type, value⟩)).outcome = .ok name := by
  obtain ⟨name, constant, known, equal⟩ := named
  simp only [enumToString, Types.enumeration, enumerates.described, pure_bind,
    Fallible.outcome_pure]
  generalize search : (types.members type).constants.entries.find? _ = found
  cases found with
  | none =>
    have failed := List.find?_eq_none.1 search (name, constant)
      (Dictionary.find?_eq_some_iff.1 known)
    exact absurd ((enumerates.passes_iff builtIn isOne known).2 equal) failed
  | some entry =>
    obtain ⟨first, chosen⟩ := entry
    have listed : (types.members type).constants.find? first = some chosen :=
      Dictionary.find?_eq_some_iff.2 (List.mem_of_find?_eq_some search)
    have passed := List.find?_some search
    exact ⟨first, chosen, listed, (enumerates.passes_iff builtIn isOne listed).1 passed, rfl⟩

/-- A value that no constant equals is written as its underlying integer. -/
theorem written_of_unnamed (builtIn : types.fixed = universeOf describe) (isOne : isValue value)
    (access : Access) (integer : enumeration.toUnderlying value = .integer number)
    (unnamed : ∀ name constant, (types.members type).constants.find? name = some constant →
      ¬ Equals enumeration type value constant) :
    (types.enumToString (.held access ⟨type, value⟩)).outcome = .ok (toString number) := by
  have shown : (underlying enumeration value).debug types = .text (toString number) := by
    simp only [underlying, Any.new, Any.debug, enumerates.integral,
      capabilities_integer builtIn, Standard.scalar, integer, Standard.scalarDebug]
  simp only [enumToString, Types.enumeration, enumerates.described, pure_bind,
    Fallible.outcome_pure]
  generalize search : (types.members type).constants.entries.find? _ = found
  cases found with
  | none =>
    rw [shown]
    rfl
  | some entry =>
    obtain ⟨first, chosen⟩ := entry
    have listed : (types.members type).constants.find? first = some chosen :=
      Dictionary.find?_eq_some_iff.2 (List.mem_of_find?_eq_some search)
    have passed := List.find?_some search
    exact absurd ((enumerates.passes_iff builtIn isOne listed).1 passed)
      (unnamed first chosen listed)

/-- The name of a constant of the type reads as the value of the constant. -/
theorem read_name {name : String} {constant : Constant}
    (known : (types.members type).constants.find? name = some constant)
    (own : constant.value.type = type) :
    (types.enumFromString (some type) name).outcome =
      .ok (.new ⟨type, constant.value.value⟩) := by
  obtain ⟨clone, copying, faithful⟩ := enumerates.copies
  have chosen : (some constant).filter (·.value.type = type) = some constant := by
    simp [own]
  have copied := faithful _ (enumerates.constants name constant known own)
  simp only [enumFromString, Types.enumeration, enumerates.described, pure_bind, known, chosen,
    Any.tryClone, own, copying, copied, Fallible.outcome_pure]

/-- The integer of a value reads as the value, if it is within the bounds of the widest signed kind
and not the name of a constant of the type. -/
theorem read_integer (isOne : isValue value)
    (integer : enumeration.toUnderlying value = .integer number)
    (free : ∀ constant, (types.members type).constants.find? (toString number) = some constant →
      constant.value.type ≠ type)
    (fits : number ≤ IntegerKind.i128.greatest) :
    (types.enumFromString (some type) (toString number)).outcome = .ok (.new ⟨type, value⟩) := by
  obtain ⟨mine, written, holds⟩ := enumerates.integers value isOne
  obtain rfl : number = mine := by simpa using integer.symm.trans written
  have bounds : IntegerKind.i128.least ≤ number ∧ number ≤ IntegerKind.i128.greatest :=
    ⟨IntegerKind.least_i128_le holds, fits⟩
  simp only [enumFromString, Types.enumeration, enumerates.described, pure_bind,
    filter_constant_of_free free,
    Text.readSigned?_trim_toString, if_pos bounds, enumerates.inverse value number isOne integer,
    Fallible.outcome_pure]

/-- An integer beyond the widest signed kind is not read, unless it is the name of a constant of the
type. -/
theorem fails_beyond
    (free : ∀ constant, (types.members type).constants.find? (toString number) = some constant →
      constant.value.type ≠ type)
    (beyond : ¬ number ≤ IntegerKind.i128.greatest) :
    (types.enumFromString (some type) (toString number)).outcome =
      .error (.of (.unknownEnumText (toString number) (types.name type))) := by
  have outside : ¬(IntegerKind.i128.least ≤ number ∧ number ≤ IntegerKind.i128.greatest) :=
    fun bounds => beyond bounds.2
  simp only [enumFromString, Types.enumeration, enumerates.described, pure_bind,
    filter_constant_of_free free,
    Text.readSigned?_trim_toString, if_neg outside, outcome_fail]

end Enumerates

/-- A text is read as a value of an enumeration with the underlying integer of another. -/
def ReadsAs (types : Types) (type : Ty) (enumeration : Enumeration) (value : Value)
    (text : String) : Prop :=
  ∃ read, (types.enumFromString (some type) text).outcome = .ok (.new ⟨type, read⟩) ∧
    enumeration.toUnderlying read = enumeration.toUnderlying value

/-- Whether the text of an enumeration value reads back. For every enumeration over a built-in
integer kind that can be copied and whose conversions are inverse, with any constants of its own
type and of others: every value is written, and what is written reads back as a value with the same
underlying integer exactly if a constant of the type equals the value, or the integer is within the
bounds of the widest signed kind and not the name of a constant of the type. -/
theorem enumeration_reads_back_iff (builtIn : types.fixed = universeOf describe)
    (enumerates : types.Enumerates type kind isValue enumeration) (isOne : isValue value)
    (access : Access) :
    ∃ text, (types.enumToString (.held access ⟨type, value⟩)).outcome = .ok text ∧
      (types.ReadsAs type enumeration value text ↔
        (∃ name constant, (types.members type).constants.find? name = some constant ∧
          Equals enumeration type value constant) ∨
        ∃ number, enumeration.toUnderlying value = .integer number ∧
          number ≤ IntegerKind.i128.greatest ∧
          ∀ constant, (types.members type).constants.find? (toString number) = some constant →
            constant.value.type ≠ type) := by
  by_cases named : ∃ name constant,
      (types.members type).constants.find? name = some constant ∧
        Equals enumeration type value constant
  · obtain ⟨name, constant, known, equal, written⟩ :=
      enumerates.written_of_named builtIn isOne access named
    refine ⟨name, written, iff_of_true ?_ (.inl named)⟩
    exact ⟨_, enumerates.read_name known equal.1, equal.2⟩
  · obtain ⟨number, integer, _⟩ := enumerates.integers value isOne
    have unnamed : ∀ name constant,
        (types.members type).constants.find? name = some constant →
          ¬ Equals enumeration type value constant :=
      fun name constant known equal => named ⟨name, constant, known, equal⟩
    refine ⟨toString number, enumerates.written_of_unnamed builtIn isOne access integer unnamed, ?_⟩
    constructor
    · rintro ⟨read, reading, same⟩
      refine .inr ⟨number, integer, ?_⟩
      -- A constant with the integer as its name is read instead, and it does not equal the value.
      have free : ∀ constant,
          (types.members type).constants.find? (toString number) = some constant →
            constant.value.type ≠ type := by
        intro constant known own
        have other := enumerates.read_name known own
        rw [reading] at other
        obtain rfl : read = constant.value.value := by simpa [Any.new] using other
        exact unnamed _ constant known ⟨own, same⟩
      refine ⟨Decidable.byContradiction fun beyond => ?_, free⟩
      rw [enumerates.fails_beyond free beyond] at reading
      contradiction
    · rintro (equal | ⟨another, integral, fits, free⟩)
      · exact absurd equal named
      · obtain rfl : number = another := by simpa using integer.symm.trans integral
        exact ⟨value, enumerates.read_integer isOne integer free fits, rfl⟩

/-- The values of a catalogued enumeration: the integers of the kind that satisfy the condition. -/
def IsMember (kind : IntegerKind) (valid : Int → Bool) (value : Value) : Prop :=
  ∃ number, value = .integer number ∧ kind.holds number = true ∧ valid number = true

/-- The enumeration of the integers of a kind that satisfy a condition. -/
def integersOf (kind : IntegerKind) (valid : Int → Bool) : Enumeration where
  underlying := .integer kind
  toUnderlying := id
  fromInteger number := if kind.holds number && valid number then some (.integer number) else none

/-- Every catalogued enumeration is one in the sense of `Enumerates`, whatever constants are
registered on it. -/
theorem enumerates_enumerationOf {key label : String} {layout : Layout} {valid : Int → Bool}
    {debug : Catalogue.Show} (builtIn : types.fixed = universeOf describe)
    (catalogued : describe key = Catalogue.enumerationOf label layout kind valid debug)
    (constants : ∀ entry ∈ (types.members (.named key)).constants.entries,
      entry.2.value.type = .named key → IsMember kind valid entry.2.value.value) :
    types.Enumerates (.named key) kind (IsMember kind valid) (integersOf kind valid) where
  described := by
    rw [record, builtIn]
    simp only [universeOf, Standard.record, catalogued, Catalogue.enumerationOf, integersOf]
  integral := rfl
  integers := fun _ ⟨number, integer, holds, _⟩ => ⟨number, integer, holds⟩
  inverse := by
    rintro _ number ⟨own, rfl, holds, passes⟩ integer
    obtain rfl : own = number := by simpa [integersOf] using integer
    simp [integersOf, holds, passes]
  copies := by
    refine ⟨id, ?_, fun _ _ => rfl⟩
    rw [capabilities, record, builtIn]
    simp only [universeOf, Standard.record, catalogued, Catalogue.enumerationOf,
      Catalogue.showing, Catalogue.comparable, Catalogue.copyable]
  constants := fun name constant known =>
    constants (name, constant) (Dictionary.find?_eq_some_iff.1 known)

/-- The channels with some constants. -/
def channelsWith (constants : List (String × Typed)) : Types :=
  (described (universeOf fun _ => Catalogue.describeChannel)).changeMembers (.named "Channel")
    fun members =>
      { members with
        constants := .ofList (constants.map fun (name, value) => (name, ⟨value, .empty⟩)) }

/-- The integers of the channels. -/
def channelIntegers : Int → Bool := fun number => [1, 2, 4].any (· == number)

/-- The channels are an enumeration, whatever constants they have. -/
theorem enumerates_channelsWith {constants : List (String × Typed)}
    (members : ∀ entry ∈ ((channelsWith constants).members (.named "Channel")).constants.entries,
      entry.2.value.type = .named "Channel" →
        IsMember .u8 channelIntegers entry.2.value.value) :
    (channelsWith constants).Enumerates (.named "Channel") .u8 (IsMember .u8 channelIntegers)
      (integersOf .u8 channelIntegers) :=
  have builtIn : (channelsWith constants).fixed = universeOf fun _ => Catalogue.describeChannel := rfl
  enumerates_enumerationOf builtIn rfl members

/-- One channel has the text of another integer as its name, one a name of its own, and the integer
of the third is the name of a constant of another type. -/
def wiredChannels : Types :=
  channelsWith [("2", ⟨.named "Channel", .integer 1⟩), ("4", ⟨.integer .i32, .integer 7⟩),
    ("Leaf", ⟨.named "Channel", .integer 2⟩)]

/-- A channel with a name and the one without both read back. -/
theorem wiredChannels_read_back :
    wiredChannels.Enumerates (.named "Channel") .u8 (IsMember .u8 channelIntegers)
        (integersOf .u8 channelIntegers) ∧
    (∃ text, (wiredChannels.enumToString (.new ⟨.named "Channel", .integer 2⟩)).outcome = .ok text ∧
      wiredChannels.ReadsAs (.named "Channel") (integersOf .u8 channelIntegers) (.integer 2) text) ∧
    ∃ text, (wiredChannels.enumToString (.new ⟨.named "Channel", .integer 4⟩)).outcome = .ok text ∧
      wiredChannels.ReadsAs (.named "Channel") (integersOf .u8 channelIntegers) (.integer 4)
        text := by
  have entries : (wiredChannels.members (.named "Channel")).constants.entries =
      [("2", ⟨⟨.named "Channel", .integer 1⟩, .empty⟩), ("4", ⟨⟨.integer .i32, .integer 7⟩, .empty⟩),
        ("Leaf", ⟨⟨.named "Channel", .integer 2⟩, .empty⟩)] := rfl
  have enumerates : wiredChannels.Enumerates (.named "Channel") .u8 (IsMember .u8 channelIntegers)
      (integersOf .u8 channelIntegers) := by
    refine enumerates_channelsWith ?_
    change ∀ entry ∈ (wiredChannels.members (.named "Channel")).constants.entries, _
    rw [entries]
    rintro _ (_ | ⟨_, _ | ⟨_, _ | ⟨_, ⟨⟩⟩⟩⟩) own
    · exact ⟨1, rfl, rfl, rfl⟩
    · cases own
    · exact ⟨2, rfl, rfl, rfl⟩
  have builtIn : wiredChannels.fixed = universeOf fun _ => Catalogue.describeChannel := rfl
  have named := enumeration_reads_back_iff builtIn enumerates ⟨2, rfl, rfl, rfl⟩ .owned
  have unnamed := enumeration_reads_back_iff builtIn enumerates ⟨4, rfl, rfl, rfl⟩ .owned
  refine ⟨enumerates, named.imp fun _ ⟨written, reads⟩ => ⟨written, reads.2 (.inl ?_)⟩,
    unnamed.imp fun _ ⟨written, reads⟩ => ⟨written, reads.2 (.inr ⟨4, rfl, by decide, ?_⟩)⟩⟩
  · exact ⟨"Leaf", ⟨⟨.named "Channel", .integer 2⟩, .empty⟩, rfl, rfl, rfl⟩
  · intro constant known own
    have seven : (wiredChannels.members (.named "Channel")).constants.find? (toString (4 : Int)) =
        some ⟨⟨.integer .i32, .integer 7⟩, .empty⟩ := rfl
    obtain rfl := Option.some.inj (seven.symm.trans known)
    cases own

/-- The channel without a name has the integer that is the name of another. -/
def crossedChannels : Types := channelsWith [("4", ⟨.named "Channel", .integer 1⟩)]

/-- The integers of 128 bits without a sign as an enumeration without constants. -/
def broadTypes : Types := described (universeOf fun _ => Catalogue.ofAll "Broad" ⟨16, 16⟩ .u128)

/-- Not every value reads back. The channel without a name is written as the name of another and
read as that one, and an integer beyond the widest signed kind is written and not read at all. -/
theorem crossedChannels_misread :
    ¬ (∀ (describe : String → Description) (types : Types) (type : Ty) (kind : IntegerKind)
        (isValue : Value → Prop) (enumeration : Enumeration) (value : Value) (access : Access),
        types.fixed = universeOf describe → types.Enumerates type kind isValue enumeration →
          isValue value →
            ∃ text, (types.enumToString (.held access ⟨type, value⟩)).outcome = .ok text ∧
              types.ReadsAs type enumeration value text) ∧
      ((crossedChannels.enumToString (.new ⟨.named "Channel", .integer 4⟩)).outcome = .ok "4" ∧
        (crossedChannels.enumFromString (some (.named "Channel")) "4").outcome =
          .ok (.new ⟨.named "Channel", .integer 1⟩)) ∧
      ∃ text, (broadTypes.enumToString (.new ⟨.named "Broad", .integer (2 ^ 127)⟩)).outcome =
          .ok text ∧
        (broadTypes.enumFromString (some (.named "Broad")) text).outcome =
          .error (.of (.unknownEnumText text "Broad")) := by
  have written : (crossedChannels.enumToString (.new ⟨.named "Channel", .integer 4⟩)).outcome =
      .ok "4" := rfl
  have read : (crossedChannels.enumFromString (some (.named "Channel")) "4").outcome =
      .ok (.new ⟨.named "Channel", .integer 1⟩) := rfl
  refine ⟨fun always => ?_, ⟨written, read⟩, _, rfl, rfl⟩
  have enumerates : crossedChannels.Enumerates (.named "Channel") .u8
      (IsMember .u8 channelIntegers) (integersOf .u8 channelIntegers) := by
    refine enumerates_channelsWith ?_
    change ∀ entry ∈ [("4", (⟨⟨.named "Channel", .integer 1⟩, .empty⟩ : Constant))], _
    rintro _ (_ | ⟨_, ⟨⟩⟩) _
    exact ⟨1, rfl, rfl, rfl⟩
  obtain ⟨text, same, value, back, equal⟩ := always (fun _ => Catalogue.describeChannel)
    crossedChannels (.named "Channel") .u8 _ _ (.integer 4) .owned rfl enumerates
    ⟨4, rfl, rfl, rfl⟩
  obtain rfl : "4" = text := Except.ok.inj (written.symm.trans same)
  rw [read] at back
  obtain rfl : Value.integer 1 = value := by simpa [Any.new] using back
  exact absurd equal (by decide)

end Types

end Reflection
