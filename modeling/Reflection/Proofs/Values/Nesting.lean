import Reflection.Proofs.Values.Scalars
import Reflection.Proofs.Values.Unordered

/-!
# Comparison is lawful at every depth

What a type can do is put together from what its parts can do, and every way of putting equality and
comparison together keeps their laws. So they hold for every type that is built of lawful ones by
sequences, options, tuples, sets and tables, whatever it nests (`lawful_of_builtFrom`), and
comparison is an order if that of the leaves is (`ordered_of_builtFrom`). Items of sets and keys of
tables obey laws of their own: being the same is an identity for them, and where the set or table is
ordered, so are they. These laws are kept at every depth as well (`Nests`, `law_of_isKey`).
-/
namespace Reflection

namespace Standard

open Meaning (Collection Entry)

/-- A law about what can be done with some values. -/
abbrev Law := (Value → Prop) → Capabilities → Prop

/-- What can be done with some values is lawful: their equality and their comparison, as far as
there are any, and both agree. -/
structure Lawful (isValue : Value → Prop) (capabilities : Capabilities) : Prop where
  eq : ∀ eq, capabilities.eq = some eq → LawfulEquality isValue eq
  cmp : ∀ cmp, capabilities.cmp = some cmp → LawfulComparison isValue cmp
  agree : ∀ eq cmp, capabilities.eq = some eq → capabilities.cmp = some cmp →
    Agree isValue eq cmp

/-- Some values are in an order by their comparison, as far as there is any. -/
def Ordered (isValue : Value → Prop) (capabilities : Capabilities) : Prop :=
  ∀ cmp, capabilities.cmp = some cmp → LawfulOrder isValue cmp

/-- Being the same key is an identity for some values. -/
def KeyIdentity (isValue : Value → Prop) (capabilities : Capabilities) : Prop :=
  LawfulIdentity isValue capabilities.sameKey

/-- Some values are in an order as keys, which finds the same keys equal. -/
structure KeyOrder (isValue : Value → Prop) (capabilities : Capabilities) : Prop where
  identity : LawfulIdentity isValue capabilities.sameKey
  order : LawfulOrder isValue capabilities.keyCmp
  agree : Agree isValue capabilities.sameKey capabilities.keyCmp

/-- Values compare as they do as keys. -/
def OffersKeyOrder (_ : Value → Prop) (capabilities : Capabilities) : Prop :=
  capabilities.cmp = some capabilities.keyCmp

/-! ### Types that are built of others -/

section Built

variable (law : Law) (named : String → Capabilities) (meaning : Meaning)

/-- The types of keys whose leaves obey a law: scalars that are no binary numbers, named types that
obey the law, and what is built of them without hashing. -/
def IsKey : Ty → Prop
  | .unit | .bool | .char | .integer _ | .string | .str => True
  | .float32 | .float64 | .hashSet _ | .hashMap _ _ => False
  | .named name => law (meaning.inhabits name) (named name)
  | .vector item | .deque item | .array item _ | .option item | .orderedSet item => IsKey item
  | .orderedMap keys values => IsKey keys ∧ IsKey values
  | .tuple first rest => IsKey first ∧ IsKey rest

/-- Keys of a type can be hashed: being the same is an identity for the named types among its
leaves, and keys that are apart are not the same. -/
structure IsHashKey (type : Ty) : Prop where
  isKey : IsKey KeyIdentity named meaning type
  unlike : ∀ {left right}, meaning.Holds type left → meaning.Holds type right →
    meaning.Apart type left right → (capabilities named type).sameKey left right = false

/-- The types that are built of scalars and of named types that obey a law, by sequences, options,
tuples, sets and tables, the items of sets and the keys of tables being such that they can be. -/
def BuiltFrom : Ty → Prop
  | .unit | .bool | .char | .integer _ | .string | .str | .float32 | .float64 => True
  | .named name => law (meaning.inhabits name) (named name)
  | .vector item | .deque item | .array item _ | .option item => BuiltFrom item
  | .hashSet item => IsHashKey named meaning item
  | .orderedSet item => IsKey KeyOrder named meaning item
  | .hashMap keys values => IsHashKey named meaning keys ∧ BuiltFrom values
  | .orderedMap keys values => IsKey KeyOrder named meaning keys ∧ BuiltFrom values
  | .tuple first rest => BuiltFrom first ∧ BuiltFrom rest

end Built

variable {named : String → Capabilities} {meaning : Meaning} {type : Ty}

/-- The parts of a tuple are its first field and the tuple of the others. -/
theorem parts_of_tuple {first rest : Ty} (value : Value)
    (holds : meaning.Holds (.tuple first rest) value) :
    meaning.Holds first (head value) ∧ meaning.Holds rest (tail value) := by
  obtain ⟨part, others, rfl, isFirst, areRest, _⟩ := holds
  exact ⟨isFirst, areRest⟩

/-! ### Keys -/

/-- A law that plain scalars obey and that is kept by everything that keys are built by. -/
structure Nests (law : Law) : Prop where
  scalar : ∀ {isValue format}, (∀ value, isValue value → PlainScalar value) →
    law isValue (scalar format)
  sequence : ∀ {isItem condition item}, law isItem item →
    law (Collection isItem condition) (sequence item)
  option : ∀ {isItem condition item}, law isItem item →
    law (Collection isItem condition) (option item)
  orderedSet : ∀ {isItem condition item}, law isItem item →
    law (Collection isItem condition) (orderedSet item)
  orderedMap : ∀ {isKey isValue condition keys values}, law isKey keys → law isValue values →
    law (Collection (Entry isKey isValue) condition) (orderedMap keys values)
  tuple : ∀ {isValue isFirst isRest first rest}, law isFirst first → law isRest rest →
    (∀ value, isValue value → isFirst (head value) ∧ isRest (tail value)) →
    law isValue (tuple first rest)

/-- Keys of every depth obey a law that nests. -/
theorem law_of_isKey {law : Law} (nests : Nests law) (isKey : IsKey law named meaning type) :
    law (meaning.Holds type) (capabilities named type) := by
  induction type with
  | unit =>
    refine nests.scalar ?_
    rintro _ rfl
    exact .unit
  | bool =>
    refine nests.scalar ?_
    rintro _ ⟨truth, rfl⟩
    exact .bool truth
  | char =>
    refine nests.scalar ?_
    rintro _ ⟨sign, rfl⟩
    exact .char sign
  | integer =>
    refine nests.scalar ?_
    rintro _ ⟨number, rfl, _⟩
    exact .integer number
  | string | str =>
    refine nests.scalar ?_
    rintro _ ⟨text, rfl⟩
    exact .text text
  | float32 | float64 | hashSet | hashMap => exact isKey.elim
  | named name => exact isKey
  | vector item ih | deque item ih | array item _ ih => exact nests.sequence (ih isKey)
  | option item ih => exact nests.option (ih isKey)
  | orderedSet item ih => exact nests.orderedSet (ih isKey)
  | orderedMap keys values keysIh valuesIh =>
    exact nests.orderedMap (keysIh isKey.1) (valuesIh isKey.2)
  | tuple first rest firstIh restIh =>
    exact nests.tuple (firstIh isKey.1) (restIh isKey.2) parts_of_tuple

/-- Being the same key is an identity at every depth. -/
theorem nests_keyIdentity : Nests KeyIdentity where
  scalar plain := lawfulIdentity_scalarEq plain
  sequence identity := LawfulIdentity.collection identity
  option identity := LawfulIdentity.collection identity
  orderedSet identity := LawfulIdentity.collection identity
  orderedMap ofKeys ofValues :=
    LawfulIdentity.collection (LawfulIdentity.and ofKeys ofValues parts_of_entry)
  tuple ofFirst ofRest parts := LawfulIdentity.and ofFirst ofRest parts

/-- Keys are in an order at every depth. -/
theorem nests_keyOrder : Nests KeyOrder where
  scalar plain :=
    ⟨lawfulIdentity_scalarEq plain, lawfulOrder_scalarCmp _, agree_scalar _⟩
  sequence key := ⟨key.identity.collection, key.order.collection, Agree.collection key.agree⟩
  option key := ⟨key.identity.collection, key.order.collection, Agree.collection key.agree⟩
  orderedSet key := ⟨key.identity.collection, key.order.collection, Agree.collection key.agree⟩
  orderedMap ofKeys ofValues :=
    ⟨(ofKeys.identity.and ofValues.identity parts_of_entry).collection,
      (ofKeys.order.andThen ofValues.order parts_of_entry).collection,
      Agree.collection (Agree.andThen ofKeys.agree ofValues.agree parts_of_entry)⟩
  tuple ofFirst ofRest parts :=
    ⟨ofFirst.identity.and ofRest.identity parts, ofFirst.order.andThen ofRest.order parts,
      Agree.andThen ofFirst.agree ofRest.agree parts⟩

/-- Types whose leaves compare as they do as keys do so too. -/
theorem nests_offersKeyOrder : Nests OffersKeyOrder where
  scalar _ := rfl
  sequence offered := congrArg (Option.map _) offered
  option offered := congrArg (Option.map _) offered
  orderedSet _ := rfl
  orderedMap _ offered := congrArg (Option.map _) offered
  tuple ofFirst ofRest _ := by
    unfold OffersKeyOrder at ofFirst ofRest ⊢
    simp only [tuple, ofFirst, ofRest, Option.bind_eq_bind, Option.bind_some]

/-- Hashed keys that are apart are not the same. -/
theorem unlike_of_apart (hashed : IsHashKey named meaning type) {keys : List Value}
    (areKeys : ∀ key ∈ keys, meaning.Holds type key) (apart : keys.Pairwise (meaning.Apart type)) :
    keys.Pairwise (Unlike (capabilities named type).sameKey) := by
  have identity : LawfulIdentity _ _ := law_of_isKey nests_keyIdentity hashed.isKey
  refine apart.imp_of_mem fun {left right} ofLeft ofRight distinct => ?_
  have isLeft := areKeys left ofLeft
  have isRight := areKeys right ofRight
  have unlike := hashed.unlike isLeft isRight distinct
  refine ⟨unlike, ?_⟩
  rw [← Bool.not_eq_true]
  intro alike
  rw [identity.symm isRight isLeft alike] at unlike
  contradiction

/-- No two items of a set without order are the same. -/
theorem distinct_of_hashSet {item : Ty} (hashed : IsHashKey named meaning item) (value : Value)
    (holds : meaning.Holds (.hashSet item) value) :
    Distinct (capabilities named item).sameKey (meaning.Holds item) value := by
  obtain ⟨items, rfl, areItems, apart⟩ := holds
  exact ⟨items, rfl, areItems, unlike_of_apart hashed areItems apart⟩

/-- No two keys of a table without order are the same. -/
theorem table_of_hashMap {keys values : Ty} (hashed : IsHashKey named meaning keys) (value : Value)
    (holds : meaning.Holds (.hashMap keys values) value) :
    Table (capabilities named keys).sameKey (meaning.Holds keys) (meaning.Holds values) value := by
  obtain ⟨entries, rfl, each, apart⟩ := holds
  exact ⟨entries, rfl, each, unlike_of_apart hashed (isKey_of_mem each) apart⟩

/-! ### Equality and comparison -/

section Keeping

variable {isItem isKey isValue isFirst isRest : Value → Prop} {condition : List Value → Prop}
  {item keys values first rest : Capabilities}

/-- Sequences are lawful if their items are. -/
theorem lawful_sequence (lawful : Lawful isItem item) :
    Lawful (Collection isItem condition) (sequence item) where
  eq eq installed := by
    obtain ⟨itemEq, found, rfl⟩ := Option.map_eq_some_iff.1 installed
    exact (lawful.eq itemEq found).collection
  cmp cmp installed := by
    obtain ⟨itemCmp, found, rfl⟩ := Option.map_eq_some_iff.1 installed
    exact (lawful.cmp itemCmp found).collection
  agree eq cmp installed ordered := by
    obtain ⟨itemEq, found, rfl⟩ := Option.map_eq_some_iff.1 installed
    obtain ⟨itemCmp, foundCmp, rfl⟩ := Option.map_eq_some_iff.1 ordered
    exact Agree.collection (lawful.agree itemEq itemCmp found foundCmp)

/-- Options are lawful if their items are. -/
theorem lawful_option (lawful : Lawful isItem item) :
    Lawful (Collection isItem condition) (option item) :=
  ⟨(lawful_sequence lawful).eq, (lawful_sequence lawful).cmp, (lawful_sequence lawful).agree⟩

/-- Sets without order are lawful if being the same is an identity for their items. -/
theorem lawful_hashSet (identity : KeyIdentity isItem item)
    (distinct : ∀ value, isValue value → Distinct item.sameKey isItem value) :
    Lawful isValue (hashSet item) where
  eq eq installed := by
    cases installed
    exact (LawfulIdentity.set identity).mono distinct
  cmp cmp absent := by contradiction
  agree eq cmp _ absent := by contradiction

/-- Ordered sets are lawful if their items are in an order as keys. -/
theorem lawful_orderedSet (key : KeyOrder isItem item) :
    Lawful (Collection isItem condition) (orderedSet item) where
  eq eq installed := by
    cases installed
    exact key.identity.toLawfulEquality.collection
  cmp cmp installed := by
    cases installed
    exact key.order.comparison.collection
  agree eq cmp installed ordered := by
    cases installed
    cases ordered
    exact Agree.collection key.agree

/-- Tables without order are lawful if being the same is an identity for their keys and their values
are lawful. -/
theorem lawful_hashMap (identity : KeyIdentity isKey keys) (lawful : Lawful isItem values)
    (table : ∀ value, isValue value → Table keys.sameKey isKey isItem value) :
    Lawful isValue (hashMap keys values) where
  eq eq installed := by
    obtain ⟨valueEq, found, rfl⟩ := Option.map_eq_some_iff.1 installed
    exact (LawfulIdentity.table identity (lawful.eq valueEq found)).mono table
  cmp cmp absent := by contradiction
  agree eq cmp _ absent := by contradiction

/-- Ordered tables are lawful if their keys are in an order and their values are lawful. -/
theorem lawful_orderedMap (key : KeyOrder isKey keys) (lawful : Lawful isValue values) :
    Lawful (Collection (Entry isKey isValue) condition) (orderedMap keys values) where
  eq eq installed := by
    obtain ⟨valueEq, found, rfl⟩ := Option.map_eq_some_iff.1 installed
    exact LawfulEquality.collection
      (key.identity.toLawfulEquality.and (lawful.eq valueEq found) parts_of_entry)
  cmp cmp installed := by
    obtain ⟨valueCmp, found, rfl⟩ := Option.map_eq_some_iff.1 installed
    exact LawfulComparison.collection
      (key.order.comparison.andThen (lawful.cmp valueCmp found) parts_of_entry)
  agree eq cmp installed ordered := by
    obtain ⟨valueEq, found, rfl⟩ := Option.map_eq_some_iff.1 installed
    obtain ⟨valueCmp, foundCmp, rfl⟩ := Option.map_eq_some_iff.1 ordered
    exact Agree.collection (Agree.andThen key.agree
      (lawful.agree valueEq valueCmp found foundCmp) parts_of_entry)

/-- What is made of two things is there only if both are. -/
theorem exists_both {α β γ : Type} {left? : Option α} {right? : Option β} {make : α → β → γ}
    {made : γ}
    (both : (left?.bind fun left => right?.bind fun right => some (make left right)) = some made) :
    ∃ left right, left? = some left ∧ right? = some right ∧ make left right = made := by
  obtain ⟨left, found, rest⟩ := Option.bind_eq_some_iff.1 both
  obtain ⟨right, foundRight, same⟩ := Option.bind_eq_some_iff.1 rest
  exact ⟨left, right, found, foundRight, Option.some.inj same⟩

/-- Tuples are lawful if their fields are. -/
theorem lawful_tuple (ofFirst : Lawful isFirst first) (ofRest : Lawful isRest rest)
    (parts : ∀ value, isValue value → isFirst (head value) ∧ isRest (tail value)) :
    Lawful isValue (tuple first rest) where
  eq eq installed := by
    obtain ⟨firstEq, restEq, found, foundRest, rfl⟩ := exists_both installed
    exact (ofFirst.eq firstEq found).and (ofRest.eq restEq foundRest) parts
  cmp cmp installed := by
    obtain ⟨firstCmp, restCmp, found, foundRest, rfl⟩ := exists_both installed
    exact (ofFirst.cmp firstCmp found).andThen (ofRest.cmp restCmp foundRest) parts
  agree eq cmp installed ordered := by
    obtain ⟨firstEq, restEq, found, foundRest, rfl⟩ := exists_both installed
    obtain ⟨firstCmp, restCmp, foundCmp, foundRestCmp, rfl⟩ := exists_both ordered
    exact Agree.andThen (ofFirst.agree firstEq firstCmp found foundCmp)
      (ofRest.agree restEq restCmp foundRest foundRestCmp) parts

/-- Tuples are in an order if their fields are. -/
theorem ordered_tuple (ofFirst : Ordered isFirst first) (ofRest : Ordered isRest rest)
    (parts : ∀ value, isValue value → isFirst (head value) ∧ isRest (tail value)) :
    Ordered isValue (tuple first rest) := by
  intro cmp installed
  obtain ⟨firstCmp, restCmp, found, foundRest, rfl⟩ := exists_both installed
  exact (ofFirst firstCmp found).andThen (ofRest restCmp foundRest) parts

end Keeping

/-- Scalars are lawful. -/
theorem lawful_scalar (isValue : Value → Prop) (format : Format) :
    Lawful isValue (scalar format) where
  eq eq installed := by
    cases installed
    exact lawfulEquality_scalarEq isValue
  cmp cmp installed := by
    cases installed
    exact (lawfulOrder_scalarCmp isValue).comparison
  agree eq cmp installed ordered := by
    cases installed
    cases ordered
    exact agree_scalar isValue

/-- Scalars are in an order. -/
theorem ordered_scalar (isValue : Value → Prop) (format : Format) :
    Ordered isValue (scalar format) := by
  intro cmp installed
  cases installed
  exact lawfulOrder_scalarCmp isValue

/-- Types of every depth are lawful. -/
theorem lawful_of_builtFrom (built : BuiltFrom Lawful named meaning type) :
    Lawful (meaning.Holds type) (capabilities named type) := by
  induction type with
  | unit | bool | char | integer | float32 | float64 | string | str => exact lawful_scalar _ _
  | named name => exact built
  | vector item ih | deque item ih | array item _ ih => exact lawful_sequence (ih built)
  | option item ih => exact lawful_option (ih built)
  | hashSet =>
    exact lawful_hashSet (law_of_isKey nests_keyIdentity built.isKey) (distinct_of_hashSet built)
  | orderedSet => exact lawful_orderedSet (law_of_isKey nests_keyOrder built)
  | hashMap _ _ _ ih =>
    exact lawful_hashMap (law_of_isKey nests_keyIdentity built.1.isKey) (ih built.2)
      (table_of_hashMap built.1)
  | orderedMap _ _ _ ih =>
    exact lawful_orderedMap (law_of_isKey nests_keyOrder built.1) (ih built.2)
  | tuple _ _ firstIh restIh =>
    exact lawful_tuple (firstIh built.1) (restIh built.2) parts_of_tuple

/-- Types of every depth are in an order. -/
theorem ordered_of_builtFrom (built : BuiltFrom Ordered named meaning type) :
    Ordered (meaning.Holds type) (capabilities named type) := by
  induction type with
  | unit | bool | char | integer | float32 | float64 | string | str => exact ordered_scalar _ _
  | named name => exact built
  | vector item ih | deque item ih | array item _ ih | option item ih =>
    intro cmp installed
    obtain ⟨itemCmp, found, rfl⟩ := Option.map_eq_some_iff.1 installed
    exact (ih built itemCmp found).collection
  | hashSet | hashMap =>
    intro cmp absent
    contradiction
  | orderedSet =>
    intro cmp installed
    cases installed
    exact (law_of_isKey nests_keyOrder built).order.collection
  | orderedMap _ _ _ ih =>
    intro cmp installed
    obtain ⟨valueCmp, found, rfl⟩ := Option.map_eq_some_iff.1 installed
    have ofKeys : LawfulOrder _ _ := (law_of_isKey nests_keyOrder built.1).order
    exact LawfulOrder.collection (ofKeys.andThen (ih built.2 valueCmp found) parts_of_entry)
  | tuple _ _ firstIh restIh =>
    exact ordered_tuple (firstIh built.1) (restIh built.2) parts_of_tuple

end Standard

end Reflection
