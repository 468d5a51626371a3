import Reflection.Any.Copy
import Reflection.Proofs.Values.Meaning
import Reflection.Standard.Universe

/-!
# Containers can do what their elements can

The functions installed for a container call those of its elements, which they look up again for
every element that they come to; an element without one would end a copy in a failure and a
comparison in a default answer. `copyThunk`, `eqThunk` and `cmpThunk` evaluate containers in this
way and answer nothing where a look-up fails. It never does: the capabilities that are looked up
are those by which the function was installed.
-/
namespace Reflection

/-- A thing that can be done with the values of a type, if the type supports it. -/
inductive Capability where
  | clone
  | eq
  | cmp
  | debug
  deriving DecidableEq, Repr

/-- Whether a capability is among some. -/
def Capabilities.has (capabilities : Capabilities) : Capability → Bool
  | .clone => capabilities.clone.isSome
  | .eq => capabilities.eq.isSome
  | .cmp => capabilities.cmp.isSome
  | .debug => capabilities.debug.isSome

/-- Whether the values of a type have a capability. -/
def Types.Offers (types : Types) (type : Ty) (capability : Capability) : Prop :=
  (types.capabilities type).has capability = true

instance (types : Types) (type : Ty) (capability : Capability) :
    Decidable (types.Offers type capability) :=
  inferInstanceAs (Decidable ((types.capabilities type).has capability = true))

namespace Standard

/-! ### Which capabilities are installed -/

/-- What is made of two things is there if both are. -/
theorem isSome_both {α β γ : Type} (first : Option α) (second : Option β) (make : α → β → γ) :
    (first.bind fun left => second.bind fun right => some (make left right)).isSome =
      (first.isSome && second.isSome) := by
  cases first <;> cases second <;> rfl

/-- A sequence has what its items have. -/
theorem has_sequence (item : Capabilities) (capability : Capability) :
    (sequence item).has capability = item.has capability := by
  cases capability <;> simp [sequence, Capabilities.has]

/-- An option has what its item has. -/
theorem has_option (item : Capabilities) (capability : Capability) :
    (option item).has capability = item.has capability := by
  cases capability <;> simp [option, sequence, Capabilities.has]

/-- A tuple has what its first field and the tuple of the others have. -/
theorem has_tuple (first rest : Capabilities) (capability : Capability) :
    (tuple first rest).has capability = (first.has capability && rest.has capability) := by
  cases capability <;> exact isSome_both _ _ _

/-- A table shows its keys and values if both show. -/
theorem isSome_mapDebug (keys values : Capabilities) :
    (mapDebug keys values).isSome = (keys.debug.isSome && values.debug.isSome) :=
  isSome_both _ _ _

/-- A tuple of fields has what all fields have. -/
theorem has_tupleOf (named : String → Capabilities) (fields : List Ty) (capability : Capability) :
    (capabilities named (.tupleOf fields)).has capability =
      fields.all fun field => (capabilities named field).has capability := by
  induction fields with
  | nil => cases capability <;> rfl
  | cons first rest ih =>
    have step : capabilities named (.tupleOf (first :: rest)) =
        tuple (capabilities named first) (capabilities named (.tupleOf rest)) := rfl
    rw [step, has_tuple, ih, List.all_cons]

/-- The capabilities of a type that is not named are those of its kind. -/
theorem capabilities_record (describe : String → Description) (type : Ty) :
    (record describe type).capabilities =
      capabilities (fun key => (describe key).record.capabilities) type := by
  cases type <;> rfl

/-! ### Thunks that look their elements up -/

/-- A copy of a value, made by looking up the copies of its elements. -/
def copyThunk (known : Ty → Capabilities) : Ty → Value → Option Value
  | .vector item, value | .deque item, value | .array item _, value | .option item, value => do
    let copies ← value.parts.mapM fun part => do
      let _ ← (known item).clone
      copyThunk known item part
    some (.compound copies)
  | .hashMap _ item, value | .orderedMap _ item, value => do
    let copies ← value.parts.mapM fun entry => do
      let _ ← (known item).clone
      let copy ← copyThunk known item (entryValue entry)
      some (.compound [key entry, copy])
    some (.compound copies)
  | .tuple first rest, value => do
    let _ ← (known first).clone
    let copy ← copyThunk known first (head value)
    let others ← copyThunk known rest (tail value)
    some (.compound (copy :: others.parts))
  | type, value => (known type).clone.map (· value)

/-- Whether two lists have equal items throughout, as far as items have an equality. -/
def listEqThunk (itemEq : Value → Value → Option Bool) : List Value → List Value → Option Bool
  | [], [] => some true
  | left :: leftRest, right :: rightRest => do
    if ← itemEq left right then listEqThunk itemEq leftRest rightRest else some false
  | _, _ => some false

/-- Whether two tables without order hold equal values under the same keys, as far as values have an
equality. -/
def mapEqThunk (sameKey : Equality) (valueEq : Value → Value → Option Bool) (left right : Value) :
    Option Bool :=
  if left.parts.length = right.parts.length then
    left.parts.allM fun entry =>
      match right.parts.find? fun other => sameKey (key entry) (key other) with
      | some other => valueEq (entryValue entry) (entryValue other)
      | none => some false
  else some false

/-- Whether two entries have one key and equal values, as far as values have an equality. -/
def entryEqThunk (sameKey : Equality) (valueEq : Value → Value → Option Bool)
    (left right : Value) : Option Bool :=
  if sameKey (key left) (key right) then valueEq (entryValue left) (entryValue right) else some false

/-- Whether two values are equal, found by looking up the equalities of their elements. -/
def eqThunk (known : Ty → Capabilities) : Ty → Value → Value → Option Bool
  | .vector item, left, right | .deque item, left, right | .array item _, left, right
  | .option item, left, right =>
    listEqThunk (fun left right => do
      let _ ← (known item).eq
      eqThunk known item left right) left.parts right.parts
  | .hashMap keys item, left, right =>
    mapEqThunk (known keys).sameKey (fun left right => do
      let _ ← (known item).eq
      eqThunk known item left right) left right
  | .orderedMap keys item, left, right =>
    if left.parts.length = right.parts.length then
      listEqThunk (entryEqThunk (known keys).sameKey fun left right => do
        let _ ← (known item).eq
        eqThunk known item left right) left.parts right.parts
    else some false
  | .tuple first rest, left, right => do
    let _ ← (known first).eq
    if ← eqThunk known first (head left) (head right) then
      eqThunk known rest (tail left) (tail right)
    else some false
  | type, left, right => (known type).eq.map fun eq => eq left right

/-- The lexicographic comparison of two lists, as far as items have a comparison. -/
def listCmpThunk (itemCmp : Value → Value → Option (Option Ordering)) :
    List Value → List Value → Option (Option Ordering)
  | [], [] => some (some .eq)
  | [], _ :: _ => some (some .lt)
  | _ :: _, [] => some (some .gt)
  | left :: leftRest, right :: rightRest => do
    match ← itemCmp left right with
    | some .eq => listCmpThunk itemCmp leftRest rightRest
    | decided => some decided

/-- The comparison of two entries by their keys and then by their values, as far as values have a
comparison. -/
def entryCmpThunk (keyCmp : Comparison) (valueCmp : Value → Value → Option (Option Ordering))
    (left right : Value) : Option (Option Ordering) :=
  match keyCmp (key left) (key right) with
  | some .eq => valueCmp (entryValue left) (entryValue right)
  | decided => some decided

/-- How two values compare, found by looking up the comparisons of their elements. -/
def cmpThunk (known : Ty → Capabilities) : Ty → Value → Value → Option (Option Ordering)
  | .vector item, left, right | .deque item, left, right | .array item _, left, right
  | .option item, left, right =>
    listCmpThunk (fun left right => do
      let _ ← (known item).cmp
      cmpThunk known item left right) left.parts right.parts
  | .orderedMap keys item, left, right =>
    listCmpThunk (entryCmpThunk (known keys).keyCmp fun left right => do
      let _ ← (known item).cmp
      cmpThunk known item left right) left.parts right.parts
  | .tuple first rest, left, right => do
    let _ ← (known first).cmp
    match ← cmpThunk known first (head left) (head right) with
    | some .eq => cmpThunk known rest (tail left) (tail right)
    | decided => some decided
  | type, left, right => (known type).cmp.map fun cmp => cmp left right

/-! ### No look-up fails -/

/-- Doing to every item what always answers gives the answers. -/
theorem mapM_of_some {α β : Type} {items : List α} {attempt : α → Option β} {change : α → β}
    (each : ∀ item, attempt item = some (change item)) :
    items.mapM attempt = some (items.map change) := by
  have same : attempt = fun item => some (change item) := funext each
  rw [same]
  exact List.mapM_pure

/-- A copy that is installed looks nothing up in vain. -/
theorem copyThunk_eq_some {named : String → Capabilities} {type : Ty} {clone : Value → Value}
    (installed : (capabilities named type).clone = some clone) (value : Value) :
    copyThunk (capabilities named) type value = some (clone value) := by
  induction type generalizing clone value with
  | unit | bool | char | integer | float32 | float64 | string | str | named | hashSet | orderedSet =>
    simp only [copyThunk, installed, Option.map_some]
  -- What is installed for a container was made of what its elements have, so they have it.
  | vector item ih | deque item ih | array item _ ih | option item ih =>
    obtain ⟨itemClone, found, rfl⟩ := Option.map_eq_some_iff.1 installed
    have each : ∀ part, (do
        let _ ← (capabilities named item).clone
        copyThunk (capabilities named) item part) = some (itemClone part) := by
      intro part
      rw [found]
      exact ih found part
    simp only [copyThunk, mapM_of_some each]
    rfl
  | hashMap keys item _ ih | orderedMap keys item _ ih =>
    obtain ⟨itemClone, found, rfl⟩ := Option.map_eq_some_iff.1 installed
    have each : ∀ entry, (do
        let _ ← (capabilities named item).clone
        let copy ← copyThunk (capabilities named) item (entryValue entry)
        some (Value.compound [key entry, copy])) = some (mapEntry itemClone entry) := by
      intro entry
      rw [found, ih found]
      rfl
    simp only [copyThunk, mapM_of_some each]
    rfl
  | tuple first rest firstIh restIh =>
    obtain ⟨firstClone, found, others⟩ := Option.bind_eq_some_iff.1 installed
    obtain ⟨restClone, foundRest, same⟩ := Option.bind_eq_some_iff.1 others
    cases same
    simp only [copyThunk, found, firstIh found, restIh foundRest]
    rfl

section Lists

variable {itemEq sameKey : Equality} {itemCmp keyCmp : Comparison}
  {eqAttempt : Value → Value → Option Bool}
  {cmpAttempt : Value → Value → Option (Option Ordering)}

/-- Lists compare equal as their items do. -/
theorem listEqThunk_eq_some (each : ∀ left right, eqAttempt left right = some (itemEq left right))
    (left right : List Value) :
    listEqThunk eqAttempt left right = some (listEq itemEq left right) := by
  induction left generalizing right with
  | nil => cases right <;> rfl
  | cons first rest ih =>
    cases right with
    | nil => rfl
    | cons second others =>
      rw [listEqThunk, each]
      cases equal : itemEq first second with
      | false => simp [listEq, equal]
      | true => simp [listEq, equal, ih]

/-- Lists of different lengths are not equal. -/
theorem listEq_of_length_ne {left right : List Value} (lengths : left.length ≠ right.length) :
    listEq itemEq left right = false := by
  induction left generalizing right with
  | nil =>
    cases right with
    | nil => exact absurd rfl lengths
    | cons second others => rfl
  | cons first rest ih =>
    cases right with
    | nil => rfl
    | cons second others =>
      have shorter : rest.length ≠ others.length := by simpa using lengths
      simp [listEq, ih shorter]

/-- Asking of every item what always answers gives the answer for all. -/
theorem allM_of_some {items : List Value} {attempt : Value → Option Bool} {test : Value → Bool}
    (each : ∀ item, attempt item = some (test item)) :
    items.allM attempt = some (items.all test) := by
  induction items with
  | nil => rfl
  | cons first rest ih =>
    rw [List.allM, each]
    cases passed : test first with
    | false => simp [passed]
    | true => simp [passed, ih]

/-- Tables without order compare equal as their values do. -/
theorem mapEqThunk_eq_some (each : ∀ left right, eqAttempt left right = some (itemEq left right))
    (left right : Value) :
    mapEqThunk sameKey eqAttempt left right = some (mapEq sameKey itemEq left right) := by
  have found : ∀ entry,
      (match right.parts.find? fun other => sameKey (key entry) (key other) with
        | some other => eqAttempt (entryValue entry) (entryValue other)
        | none => some false) =
      some (match right.parts.find? fun other => sameKey (key entry) (key other) with
        | some other => itemEq (entryValue entry) (entryValue other)
        | none => false) := by
    intro entry
    cases right.parts.find? fun other => sameKey (key entry) (key other) with
    | none => rfl
    | some other => exact each _ _
  unfold mapEqThunk mapEq
  by_cases lengths : left.parts.length = right.parts.length
  · rw [if_pos lengths, lengths, beq_self_eq_true, Bool.true_and]
    exact allM_of_some found
  · rw [if_neg lengths, beq_false_of_ne lengths, Bool.false_and]

/-- Lists compare as their items do. -/
theorem listCmpThunk_eq_some
    (each : ∀ left right, cmpAttempt left right = some (itemCmp left right))
    (left right : List Value) :
    listCmpThunk cmpAttempt left right = some (listCmp itemCmp left right) := by
  induction left generalizing right with
  | nil => cases right <;> rfl
  | cons first rest ih =>
    cases right with
    | nil => rfl
    | cons second others =>
      rw [listCmpThunk, each, listCmp]
      cases itemCmp first second with
      | none => rfl
      | some order => cases order <;> simp [ih]

/-- Entries compare as their values do. -/
theorem entryCmpThunk_eq_some
    (each : ∀ left right, cmpAttempt left right = some (itemCmp left right)) (left right : Value) :
    entryCmpThunk keyCmp cmpAttempt left right = some (entryCmp keyCmp itemCmp left right) := by
  unfold entryCmpThunk entryCmp
  cases keyCmp (key left) (key right) with
  | none => rfl
  | some order => cases order <;> simp [each]

end Lists

/-- An equality that is installed looks nothing up in vain. -/
theorem eqThunk_eq_some {named : String → Capabilities} {type : Ty} {eq : Equality}
    (installed : (capabilities named type).eq = some eq) (left right : Value) :
    eqThunk (capabilities named) type left right = some (eq left right) := by
  induction type generalizing eq left right with
  | unit | bool | char | integer | float32 | float64 | string | str | named | hashSet | orderedSet =>
    simp only [eqThunk, installed, Option.map_some]
  | vector item ih | deque item ih | array item _ ih | option item ih =>
    obtain ⟨itemEq, found, rfl⟩ := Option.map_eq_some_iff.1 installed
    refine listEqThunk_eq_some (fun left right => ?_) left.parts right.parts
    rw [found]
    exact ih found left right
  | hashMap keys item _ ih =>
    obtain ⟨itemEq, found, rfl⟩ := Option.map_eq_some_iff.1 installed
    refine mapEqThunk_eq_some (fun left right => ?_) left right
    rw [found]
    exact ih found left right
  | orderedMap keys item _ ih =>
    obtain ⟨itemEq, found, rfl⟩ := Option.map_eq_some_iff.1 installed
    have each : ∀ left right, entryEqThunk (capabilities named keys).sameKey (fun left right => do
        let _ ← (capabilities named item).eq
        eqThunk (capabilities named) item left right) left right =
          some (entryEq (capabilities named keys).sameKey itemEq left right) := by
      intro left right
      rw [found]
      unfold entryEqThunk entryEq
      by_cases same : (capabilities named keys).sameKey (key left) (key right) = true
      · simp [same, ih found]
      · simp [same]
    rw [eqThunk]
    split
    · exact listEqThunk_eq_some each left.parts right.parts
    · rename_i lengths
      exact congrArg some (listEq_of_length_ne lengths).symm
  | tuple first rest firstIh restIh =>
    obtain ⟨firstEq, found, others⟩ := Option.bind_eq_some_iff.1 installed
    obtain ⟨restEq, foundRest, same⟩ := Option.bind_eq_some_iff.1 others
    cases same
    simp only [eqThunk, found, firstIh found, restIh foundRest]
    cases equal : firstEq (head left) (head right) with
    | false => rfl
    | true => rfl

/-- A comparison that is installed looks nothing up in vain. -/
theorem cmpThunk_eq_some {named : String → Capabilities} {type : Ty} {cmp : Comparison}
    (installed : (capabilities named type).cmp = some cmp) (left right : Value) :
    cmpThunk (capabilities named) type left right = some (cmp left right) := by
  induction type generalizing cmp left right with
  | unit | bool | char | integer | float32 | float64 | string | str | named | hashSet | orderedSet
  | hashMap =>
    simp only [cmpThunk, installed, Option.map_some]
  | vector item ih | deque item ih | array item _ ih | option item ih =>
    obtain ⟨itemCmp, found, rfl⟩ := Option.map_eq_some_iff.1 installed
    refine listCmpThunk_eq_some (fun left right => ?_) left.parts right.parts
    rw [found]
    exact ih found left right
  | orderedMap keys item _ ih =>
    obtain ⟨itemCmp, found, rfl⟩ := Option.map_eq_some_iff.1 installed
    refine listCmpThunk_eq_some (fun left right => ?_) left.parts right.parts
    refine entryCmpThunk_eq_some (fun left right => ?_) left right
    rw [found]
    exact ih found left right
  | tuple first rest firstIh restIh =>
    obtain ⟨firstCmp, found, others⟩ := Option.bind_eq_some_iff.1 installed
    obtain ⟨restCmp, foundRest, same⟩ := Option.bind_eq_some_iff.1 others
    cases same
    simp only [cmpThunk, found, firstIh found, restIh foundRest, pairCmp]
    cases firstCmp (head left) (head right) with
    | none => rfl
    | some order => cases order <;> rfl

/-! ### Copies are faithful -/

/-- Copying parts that are copied faithfully gives the same parts. -/
theorem mapParts_of_faithful {isPart : Value → Prop} {condition : List Value → Prop}
    {change : Value → Value} (faithful : ∀ part, isPart part → change part = part) {value : Value}
    (holds : Meaning.Collection isPart condition value) : mapParts change value = value := by
  obtain ⟨parts, rfl, each, _⟩ := holds
  have same : parts.map change = parts :=
    (List.map_congr_left fun part mem => faithful part (each part mem)).trans (List.map_id _)
  simp only [mapParts, Value.parts_compound, same]

/-- Copies are faithful at every depth if those of named types are. -/
theorem clone_of_holds {named : String → Capabilities} {meaning : Meaning}
    (faithful : ∀ name clone value, (named name).clone = some clone →
      meaning.inhabits name value → clone value = value)
    {type : Ty} {clone : Value → Value}
    (installed : (capabilities named type).clone = some clone) {value : Value}
    (holds : meaning.Holds type value) : clone value = value := by
  induction type generalizing clone value with
  | unit | bool | char | integer | float32 | float64 | string | str | hashSet | orderedSet =>
    cases installed
    rfl
  | named name => exact faithful name clone value installed holds
  | vector item ih | deque item ih | array item _ ih | option item ih =>
    obtain ⟨itemClone, found, rfl⟩ := Option.map_eq_some_iff.1 installed
    exact mapParts_of_faithful (fun part => ih found) holds
  | hashMap keys item _ ih | orderedMap keys item _ ih =>
    obtain ⟨itemClone, found, rfl⟩ := Option.map_eq_some_iff.1 installed
    refine mapParts_of_faithful ?_ holds
    rintro _ ⟨first, second, rfl, _, isValue⟩
    have same : itemClone second = second := ih found isValue
    simp [mapEntry, key, entryValue, head, tail, same]
  | tuple first rest firstIh restIh =>
    obtain ⟨firstClone, found, others⟩ := Option.bind_eq_some_iff.1 installed
    obtain ⟨restClone, foundRest, same⟩ := Option.bind_eq_some_iff.1 others
    cases same
    obtain ⟨part, others, rfl, isFirst, areRest, _⟩ := holds
    have sameFirst : firstClone part = part := firstIh found isFirst
    have sameRest : restClone (.compound others) = .compound others := restIh foundRest areRest
    simp [head, tail, sameFirst, sameRest]

end Standard

namespace Types

open Standard

/-- Containers have the capabilities of their elements, and their copies are faithful. Whatever
named types can do: vectors, queues, arrays and options have what their items have, and a tuple what
all its fields have; a table can be copied and compared for equality as its values can and shown if
its keys and values can, and only an ordered one is ordered, as its values are. Whatever a type
nests, the functions that are installed for it come to no element without the one they look up.
Where copies of the values of named types are faithful, every value of a type with a copy is copied
to an owned one of the same type with the same content. -/
theorem containers_follow_elements (describe : String → Description) (members : Ty → Members) :
    let types : Types := ⟨universeOf describe, members⟩
    (∀ item capability, (types.Offers (.vector item) capability ↔ types.Offers item capability) ∧
        (types.Offers (.deque item) capability ↔ types.Offers item capability) ∧
        (∀ length, types.Offers (.array item length) capability ↔ types.Offers item capability) ∧
        (types.Offers (.option item) capability ↔ types.Offers item capability)) ∧
      (∀ fields capability, types.Offers (.tupleOf fields) capability ↔
        ∀ field ∈ fields, types.Offers field capability) ∧
      (∀ keys values, ∀ table ∈ [Ty.hashMap keys values, Ty.orderedMap keys values],
        (types.Offers table .clone ↔ types.Offers values .clone) ∧
          (types.Offers table .eq ↔ types.Offers values .eq) ∧
          (types.Offers table .debug ↔ types.Offers keys .debug ∧ types.Offers values .debug)) ∧
      (∀ keys values, ¬ types.Offers (.hashMap keys values) .cmp ∧
        (types.Offers (.orderedMap keys values) .cmp ↔ types.Offers values .cmp)) ∧
      (∀ type, (∀ clone, (types.capabilities type).clone = some clone →
          ∀ value, copyThunk types.capabilities type value = some (clone value)) ∧
        (∀ eq, (types.capabilities type).eq = some eq →
          ∀ left right, eqThunk types.capabilities type left right = some (eq left right)) ∧
        ∀ cmp, (types.capabilities type).cmp = some cmp →
          ∀ left right, cmpThunk types.capabilities type left right = some (cmp left right)) ∧
      ∀ meaning : Meaning,
        (∀ name clone value, (types.capabilities (.named name)).clone = some clone →
          meaning.Holds (.named name) value → clone value = value) →
        ∀ type access value, types.Offers type .clone → meaning.Holds type value →
          ((Any.held access ⟨type, value⟩).tryClone types).outcome = .ok (.new ⟨type, value⟩) := by
  intro types
  have known : types.capabilities =
      Standard.capabilities fun key => (describe key).record.capabilities :=
    funext (capabilities_record describe)
  simp only [Offers, known]
  refine ⟨?_, ?_, ?_, ?_, ?_, ?_⟩
  · intro item capability
    refine ⟨?_, ?_, fun length => ?_, ?_⟩
    · rw [Standard.capabilities, has_sequence]
    · rw [Standard.capabilities, has_sequence]
    · rw [Standard.capabilities, has_sequence]
    · rw [Standard.capabilities, has_option]
  · intro fields capability
    rw [has_tupleOf, List.all_eq_true]
  · intro keys values table mem
    simp only [List.mem_cons, List.not_mem_nil, or_false] at mem
    rcases mem with rfl | rfl
    · simp [Standard.capabilities, hashMap, Capabilities.has, isSome_mapDebug]
    · simp [Standard.capabilities, orderedMap, Capabilities.has, isSome_mapDebug]
  · intro keys values
    simp [Standard.capabilities, hashMap, orderedMap, Capabilities.has]
  · intro type
    exact ⟨fun clone => copyThunk_eq_some, fun eq => eqThunk_eq_some, fun cmp => cmpThunk_eq_some⟩
  · intro meaning faithful type access value offered holds
    obtain ⟨clone, installed⟩ := Option.isSome_iff_exists.1 offered
    have same : clone value = value := clone_of_holds faithful installed holds
    simp [Any.tryClone, known, installed, same]

/-- A named type whose values can be copied and shown, but not compared. -/
def sealedDescription (name : String) : Description where
  record :=
    { name, layout := ⟨0, 1⟩
      capabilities := { clone := some id, debug := some fun _ => .text name } }
  content := .token

/-- The meaning of types whose named ones have a bare token as their value, and whose keys are in
the order of their numbers. -/
def tokenMeaning : Meaning where
  inhabits name value := ∃ about, value = .token name about
  before _ left right := left.toInt < right.toInt
  irreflexive _ value := Int.lt_irrefl value.toInt
  transitive _ _ _ _ := Int.lt_trans

/-- Lists of pairs with a value of a sealed type are copied faithfully, but not compared. -/
theorem sealed_list_copied :
    let types : Types := ⟨universeOf sealedDescription, fun _ => {}⟩
    let type : Ty := .vector (.tupleOf [.i32, .named "Sealed"])
    let value : Value := .compound [.compound [.integer 3, .token "Sealed" .unit]]
    types.Offers type .clone ∧ ¬ types.Offers type .eq ∧
      ((Any.held .shared ⟨type, value⟩).tryClone types).outcome = .ok (.new ⟨type, value⟩) := by
  intro types type value
  obtain ⟨sequences, tuples, _, _, _, copies⟩ :=
    containers_follow_elements sealedDescription fun _ => {}
  have offered : ∀ capability, types.Offers type capability ↔
      ∀ field ∈ [Ty.i32, .named "Sealed"], types.Offers field capability :=
    fun capability => ((sequences _ capability).1).trans (tuples _ capability)
  have copied : types.Offers type .clone := by
    rw [offered]
    decide
  refine ⟨copied, ?_, copies tokenMeaning ?_ type .shared value copied ?_⟩
  · rw [offered]
    decide
  · rintro name clone value installed -
    cases installed
    rfl
  · refine ⟨_, rfl, ?_, trivial⟩
    rintro _ (_ | ⟨_, ⟨⟩⟩)
    exact ⟨_, _, rfl, ⟨3, rfl, by decide⟩, ⟨_, _, rfl, ⟨_, rfl⟩, rfl, trivial⟩, trivial⟩

end Types

end Reflection
