import Reflection.Proofs.Text.Numerals
import Reflection.Proofs.Values.Enumerations

/-!
# Which texts are values of an enumeration

A text that is the name of a constant of the enumeration stands for a copy of it. Any other text is
a value exactly if it is an integer, with nothing but blank space around it, that the widest signed
kind and the kind of the enumeration both hold and that the enumeration accepts (`Accepted`);
constants of other types do not matter. Integers are never wrapped around: what is read is the value
accepted for the very integer in the text.
-/
namespace Reflection

open Text (Padded Signed)

namespace Types

/-- A text is an integer of the widest signed kind, with nothing but blank space around it. -/
def Literal (text : String) (number : Int) : Prop :=
  ∃ core, Padded core text.toList ∧ Signed core number ∧ IntegerKind.i128.holds number = true

variable {types : Types} {type : Ty} {kind : IntegerKind} {accept : Int → Option Value}
  {clone : Value → Value} {enumeration : Enumeration} {text : String} {number : Int}
  {value : Value}

/-- A type is described as an enumeration over a built-in integer kind that can be copied. An
integer is converted to the kind first, which succeeds exactly if the kind holds it, and `accept`
gives the value of such an integer if there is one. -/
structure Admits (types : Types) (type : Ty) (kind : IntegerKind) (accept : Int → Option Value)
    (clone : Value → Value) (enumeration : Enumeration) : Prop where
  described : (types.record type).enumeration = some enumeration
  integral : enumeration.underlying = .integer kind
  narrows : ∀ number, enumeration.fromInteger number =
    if kind.holds number then accept number else none
  copying : (types.capabilities type).clone = some clone

/-- What is read from a text without the blank space around it is the integer the text is. -/
theorem literal_iff :
    Literal text number ↔ Text.readSigned? IntegerKind.i128.least IntegerKind.i128.greatest
      (Text.trim text.toList) = some number := by
  rw [Text.readSigned?_trim_eq_some_iff, Literal, ← IntegerKind.holds_iff]
  constructor
  · rintro ⟨core, padded, signed, holds⟩
    exact ⟨⟨core, padded, signed⟩, holds⟩
  · rintro ⟨⟨core, padded, signed⟩, holds⟩
    exact ⟨core, padded, signed, holds⟩

/-- A text is one integer at most. -/
theorem literal_unique {other : Int} (first : Literal text number) (second : Literal text other) :
    number = other :=
  Option.some.inj ((literal_iff.1 first).symm.trans (literal_iff.1 second))

/-- The text is an integer of the kind for which the enumeration accepts a value. -/
def Accepted (kind : IntegerKind) (accept : Int → Option Value) (text : String) (number : Int)
    (value : Value) : Prop :=
  Literal text number ∧ kind.holds number = true ∧ accept number = some value

namespace Admits

variable (admits : types.Admits type kind accept clone enumeration)

include admits

/-- A name of a constant of the type is read as a copy of the constant. -/
theorem read_name {constant : Constant}
    (known : (types.members type).constants.find? text = some constant)
    (own : constant.value.type = type) :
    (types.enumFromString (some type) text).outcome =
      .ok (.new ⟨type, clone constant.value.value⟩) := by
  have chosen : (some constant).filter (·.value.type = type) = some constant := by
    simp [own]
  simp only [enumFromString, Types.enumeration, admits.described, pure_bind, known, chosen,
    Any.tryClone, own, admits.copying, Fallible.outcome_pure]

variable
  (free : ∀ constant, (types.members type).constants.find? text = some constant →
    constant.value.type ≠ type)

include free

/-- An integer of the kind that is no name of a constant of the type is read as the value accepted
for it. -/
theorem read_accepted
    (accepted : Accepted kind accept text number value) :
    (types.enumFromString (some type) text).outcome = .ok (.new ⟨type, value⟩) := by
  obtain ⟨literal, holds, accepts⟩ := accepted
  have converted : enumeration.fromInteger number = some value := by
    rw [admits.narrows, if_pos holds, accepts]
  simp only [enumFromString, Types.enumeration, admits.described, pure_bind,
    filter_constant_of_free free, literal_iff.1 literal, converted, Fallible.outcome_pure]

/-- An integer for which no value is accepted is refused as such. -/
theorem fails_of_literal
    (literal : Literal text number) (unaccepted : ∀ value, ¬ Accepted kind accept text number value) :
    (types.enumFromString (some type) text).outcome =
      .error (.of (.noEnumValue number (types.name type))) := by
  have converted : enumeration.fromInteger number = none := by
    rw [admits.narrows, Option.eq_none_iff_forall_ne_some]
    intro value accepts
    obtain ⟨holds, accepts⟩ := Option.ite_none_right_eq_some.1 accepts
    exact unaccepted value ⟨literal, holds, accepts⟩
  simp only [enumFromString, Types.enumeration, admits.described, pure_bind,
    filter_constant_of_free free, literal_iff.1 literal, converted, outcome_fail]

/-- A text that is no integer and no name of a constant of the type is refused as such. -/
theorem fails_of_no_literal
    (wordy : ∀ number, ¬ Literal text number) :
    (types.enumFromString (some type) text).outcome =
      .error (.of (.unknownEnumText text (types.name type))) := by
  have unread : Text.readSigned? IntegerKind.i128.least IntegerKind.i128.greatest
      (Text.trim text.toList) = none := by
    rw [Option.eq_none_iff_forall_ne_some]
    exact fun number read => wordy number (literal_iff.2 read)
  simp only [enumFromString, Types.enumeration, admits.described, pure_bind,
    filter_constant_of_free free, unread, outcome_fail]

/-- A text for which no value is accepted is an invalid argument. -/
theorem fails_of_unaccepted
    (unaccepted : ¬ ∃ number value, Accepted kind accept text number value) :
    ∃ error, (types.enumFromString (some type) text).outcome = .error error ∧
      error.kind = .invalidParam 1 := by
  by_cases literal : ∃ number, Literal text number
  · obtain ⟨number, literal⟩ := literal
    exact ⟨_, admits.fails_of_literal free literal
      fun value accepted => unaccepted ⟨number, value, accepted⟩, rfl⟩
  · exact ⟨_, admits.fails_of_no_literal free fun number read => literal ⟨number, read⟩, rfl⟩

/-- What is read from a text that is no name of a constant of the type is a value accepted for an
integer. -/
theorem read_eq_ok_iff
    (result : Any) :
    (types.enumFromString (some type) text).outcome = .ok result ↔
      ∃ number value, Accepted kind accept text number value ∧ result = .new ⟨type, value⟩ := by
  constructor
  · intro read
    by_cases accepted : ∃ number value, Accepted kind accept text number value
    · obtain ⟨number, value, accepted⟩ := accepted
      have expected := admits.read_accepted free accepted
      exact ⟨number, value, accepted, Except.ok.inj (read.symm.trans expected)⟩
    · obtain ⟨error, refused, _⟩ := admits.fails_of_unaccepted free accepted
      rw [refused] at read
      contradiction
  · rintro ⟨number, value, accepted, rfl⟩
    exact admits.read_accepted free accepted

end Admits

/-- Reading a value of an enumeration from a text. For every enumeration over a built-in integer
kind that can be copied, with any constants of its own type and of others: the name of a constant of
the type is read as a copy of it. Every other text is read exactly if it is an integer, with nothing
but blank space around it, that the widest signed kind and the enumeration's kind hold and for which
the enumeration accepts a value, and then as that value; its underlying integer is the one in the
text if the enumeration converts the values it accepts back to the integers it accepts them for.
Whatever is not read is an invalid argument. -/
theorem enumFromString_exact (admits : types.Admits type kind accept clone enumeration)
    (text : String) :
    (∀ constant, (types.members type).constants.find? text = some constant →
      constant.value.type = type →
        (types.enumFromString (some type) text).outcome =
          .ok (.new ⟨type, clone constant.value.value⟩)) ∧
    ((∀ constant, (types.members type).constants.find? text = some constant →
        constant.value.type ≠ type) →
      (∀ result, (types.enumFromString (some type) text).outcome = .ok result ↔
        ∃ number value, Accepted kind accept text number value ∧ result = .new ⟨type, value⟩) ∧
      ((∀ number value, accept number = some value →
          enumeration.toUnderlying value = .integer number) →
        ∀ result, (types.enumFromString (some type) text).outcome = .ok result →
          ∃ number value, Literal text number ∧ result = .new ⟨type, value⟩ ∧
            underlying enumeration value = .new ⟨.integer kind, .integer number⟩) ∧
      ((¬ ∃ number value, Accepted kind accept text number value) →
        ∃ error, (types.enumFromString (some type) text).outcome = .error error ∧
          error.kind = .invalidParam 1)) := by
  refine ⟨fun constant known own => admits.read_name known own, fun free =>
    ⟨admits.read_eq_ok_iff free, fun agree result read => ?_, admits.fails_of_unaccepted free⟩⟩
  obtain ⟨number, value, ⟨literal, _, accepts⟩, rfl⟩ := (admits.read_eq_ok_iff free result).1 read
  refine ⟨number, value, literal, rfl, ?_⟩
  rw [underlying, admits.integral, agree number value accepts]

/-- The channel of an integer. -/
def channel? (number : Int) : Option Value :=
  if channelIntegers number then some (.integer number) else none

/-- The channels admit texts, whatever constants they have. -/
theorem admits_channelsWith (constants : List (String × Typed)) :
    (channelsWith constants).Admits (.named "Channel") .u8 channel? id
      (integersOf .u8 channelIntegers) where
  described := rfl
  integral := rfl
  narrows number := by
    by_cases holds : IntegerKind.u8.holds number = true
    · simp [integersOf, channel?, holds]
    · simp [integersOf, holds]
  copying := rfl

/-- A name is read before it is read as an integer, but not with blank space around it. The name of
a constant of another type is read as an integer all the same, and an integer that only wraps around
to a channel is not read at all. -/
theorem wiredChannels_texts :
    wiredChannels.Admits (.named "Channel") .u8 channel? id (integersOf .u8 channelIntegers) ∧
    (wiredChannels.enumFromString (some (.named "Channel")) "2").outcome =
      .ok (.new ⟨.named "Channel", .integer 1⟩) ∧
    (wiredChannels.enumFromString (some (.named "Channel")) " +2").outcome =
      .ok (.new ⟨.named "Channel", .integer 2⟩) ∧
    (wiredChannels.enumFromString (some (.named "Channel")) "4").outcome =
      .ok (.new ⟨.named "Channel", .integer 4⟩) ∧
    ∃ error, (wiredChannels.enumFromString (some (.named "Channel")) "257").outcome =
      .error error ∧ error.kind = .invalidParam 1 := by
  have admits : wiredChannels.Admits (.named "Channel") .u8 channel? id
      (integersOf .u8 channelIntegers) := admits_channelsWith _
  have named := (enumFromString_exact admits "2").1
  have spaced := (enumFromString_exact admits " +2").2
  have crossed := (enumFromString_exact admits "4").2
  have wrapped := (enumFromString_exact admits "257").2
  have unknown : ∀ text,
      (wiredChannels.members (.named "Channel")).constants.find? text = none →
        ∀ constant, (wiredChannels.members (.named "Channel")).constants.find? text =
          some constant → constant.value.type ≠ .named "Channel" := by
    intro text absent constant known
    rw [absent] at known
    contradiction
  have foreign : ∀ constant,
      (wiredChannels.members (.named "Channel")).constants.find? "4" = some constant →
        constant.value.type ≠ .named "Channel" := by
    intro constant known own
    have seven : (wiredChannels.members (.named "Channel")).constants.find? "4" =
        some ⟨⟨.integer .i32, .integer 7⟩, .empty⟩ := rfl
    obtain rfl := Option.some.inj (seven.symm.trans known)
    cases own
  refine ⟨admits, named _ rfl rfl, ?_, ?_, ?_⟩
  · exact ((spaced (unknown _ rfl)).1 _).2 ⟨2, _, ⟨literal_iff.2 rfl, rfl, rfl⟩, rfl⟩
  · exact ((crossed foreign).1 _).2 ⟨4, _, ⟨literal_iff.2 rfl, rfl, rfl⟩, rfl⟩
  · refine (wrapped (unknown _ rfl)).2.2 ?_
    rintro ⟨number, value, literal, holds, _⟩
    obtain rfl : 257 = number := literal_unique (literal_iff.2 rfl) literal
    contradiction

end Types

end Reflection
