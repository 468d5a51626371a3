import Reflection.Proofs.Values.Capabilities
import Reflection.Proofs.Values.Nesting
import Reflection.Proofs.Values.Operations

/-!
# Comparing anys

Anys compare as their values do, if these are of one type that can be compared, and neither are
equal nor ordered otherwise (`Types.equality`, `Types.comparison`). For types of every depth the
laws of their leaves hold (`ComparesLawfully`, `ComparesInOrder`), and what is compared can be said
without the loops that compare it: sequences and tuples are decided at the first place where they
differ (`Lexicographic`), ordered tables compare as the sorted lists of their entries, and tables
without order are equal if they hold equal values under the same keys, in whatever order they list
them.
-/
namespace Reflection

open Standard

/-! ### Equality and comparison of anys -/

namespace Types

variable {types : Types} {meaning : Meaning} {type : Ty}

/-- Whether two values of a type are equal when anys hold them. -/
def equality (types : Types) (type : Ty) : Equality := fun left right =>
  (Any.new ⟨type, left⟩).eq types (.new ⟨type, right⟩)

/-- How two values of a type compare when anys hold them. -/
def comparison (types : Types) (type : Ty) : Comparison := fun left right =>
  (Any.new ⟨type, left⟩).cmp types (.new ⟨type, right⟩)

/-- Anys that hold values of a type are compared lawfully: they are equal symmetrically and
transitively, and compare the opposite way when they are exchanged; where the type has both, they
compare as equal if they are equal. -/
structure ComparesLawfully (types : Types) (meaning : Meaning) (type : Ty) : Prop where
  eq_symm : ∀ {left right : Any}, left.Has meaning type → right.Has meaning type →
    left.eq types right = true → right.eq types left = true
  eq_trans : ∀ {first second third : Any}, first.Has meaning type → second.Has meaning type →
    third.Has meaning type → first.eq types second = true → second.eq types third = true →
    first.eq types third = true
  dual : ∀ {left right : Any}, left.Has meaning type → right.Has meaning type →
    right.cmp types left = (left.cmp types right).map Ordering.swap
  agree : ∀ {left right : Any}, left.Has meaning type → right.Has meaning type →
    types.Offers type .eq → types.Offers type .cmp →
    (left.cmp types right = some .eq ↔ left.eq types right = true)

/-- What is less than something that is less than a third is less than the third. -/
def LessTransitive (types : Types) (meaning : Meaning) (type : Ty) : Prop :=
  ∀ {first second third : Any}, first.Has meaning type → second.Has meaning type →
    third.Has meaning type → first.lt types second = true → second.lt types third = true →
    first.lt types third = true

/-- Anys that hold values of a type are in an order: being less, as well as being at most, is
transitive. -/
structure ComparesInOrder (types : Types) (meaning : Meaning) (type : Ty) : Prop where
  lt_trans : types.LessTransitive meaning type
  atMost_trans : ∀ {first second third : Any}, first.Has meaning type → second.Has meaning type →
    third.Has meaning type → AtMost (first.cmp types second) → AtMost (second.cmp types third) →
    AtMost (first.cmp types third)

/-- How values are held makes no difference to whether they are equal. -/
theorem eq_held (first second : Access) (left right : Value) :
    (Any.held first ⟨type, left⟩).eq types (.held second ⟨type, right⟩) =
      types.equality type left right := rfl

/-- How values are held makes no difference to how they compare. -/
theorem cmp_held (first second : Access) (left right : Value) :
    (Any.held first ⟨type, left⟩).cmp types (.held second ⟨type, right⟩) =
      types.comparison type left right := rfl

/-- Equality is that of the type where there is one. -/
theorem equality_eq {eq : Equality} (installed : (types.capabilities type).eq = some eq) :
    types.equality type = eq := by
  funext left right
  simp [equality, Any.new, Any.eq, installed]

/-- Nothing is equal where the type has no equality. -/
theorem equality_of_absent (absent : (types.capabilities type).eq = none) :
    types.equality type = fun _ _ => false := by
  funext left right
  simp [equality, Any.new, Any.eq, absent]

/-- Comparison is that of the type where there is one. -/
theorem comparison_eq {cmp : Comparison} (installed : (types.capabilities type).cmp = some cmp) :
    types.comparison type = cmp := by
  funext left right
  simp [comparison, Any.new, Any.cmp, installed]

/-- Nothing is ordered where the type has no comparison. -/
theorem comparison_of_absent (absent : (types.capabilities type).cmp = none) :
    types.comparison type = fun _ _ => none := by
  funext left right
  simp [comparison, Any.new, Any.cmp, absent]

/-- Equality that is lawful as far as there is any is lawful. -/
theorem lawfulEquality_equality (lawful : Lawful (meaning.Holds type) (types.capabilities type)) :
    LawfulEquality (meaning.Holds type) (types.equality type) := by
  cases found : (types.capabilities type).eq with
  | none =>
    rw [equality_of_absent found]
    constructor
    · intro left right _ _ equal
      contradiction
    · intro first second third _ _ _ equal
      contradiction
  | some eq =>
    rw [equality_eq found]
    exact lawful.eq eq found

/-- A comparison that is lawful as far as there is any is lawful. -/
theorem lawfulComparison_comparison
    (lawful : Lawful (meaning.Holds type) (types.capabilities type)) :
    LawfulComparison (meaning.Holds type) (types.comparison type) := by
  cases found : (types.capabilities type).cmp with
  | none =>
    rw [comparison_of_absent found]
    constructor
    · intro left right _ _
      rfl
    · intro first second third _ _ _ equal
      contradiction
  | some cmp =>
    rw [comparison_eq found]
    exact lawful.cmp cmp found

/-- A comparison that is an order as far as there is any is an order. -/
theorem lawfulOrder_comparison
    (ordered : Ordered (meaning.Holds type) (types.capabilities type)) :
    LawfulOrder (meaning.Holds type) (types.comparison type) := by
  cases found : (types.capabilities type).cmp with
  | none =>
    rw [comparison_of_absent found]
    constructor
    · intro left right _ _
      rfl
    · intro first second third _ _ _ atMost
      rcases atMost with less | equal
      · contradiction
      · contradiction
  | some cmp =>
    rw [comparison_eq found]
    exact ordered cmp found

/-- A type that can do what is lawful is compared lawfully. -/
theorem comparesLawfully (lawful : Lawful (meaning.Holds type) (types.capabilities type)) :
    types.ComparesLawfully meaning type := by
  have equality := lawfulEquality_equality lawful
  have comparison := lawfulComparison_comparison lawful
  constructor
  case eq_symm =>
    rintro _ _ ⟨_, left, rfl, isLeft⟩ ⟨_, right, rfl, isRight⟩
    exact equality.symm isLeft isRight
  case eq_trans =>
    rintro _ _ _ ⟨_, one, rfl, isOne⟩ ⟨_, two, rfl, isTwo⟩ ⟨_, three, rfl, isThree⟩
    exact equality.trans isOne isTwo isThree
  case dual =>
    rintro _ _ ⟨_, left, rfl, isLeft⟩ ⟨_, right, rfl, isRight⟩
    exact comparison.dual isLeft isRight
  case agree =>
    rintro _ _ ⟨_, left, rfl, isLeft⟩ ⟨_, right, rfl, isRight⟩ offersEq offersCmp
    obtain ⟨eq, found⟩ := Option.isSome_iff_exists.1 offersEq
    obtain ⟨cmp, ordered⟩ := Option.isSome_iff_exists.1 offersCmp
    rw [eq_held, cmp_held, equality_eq found, comparison_eq ordered]
    exact lawful.agree eq cmp found ordered isLeft isRight

/-- A type whose comparison is an order is compared in this order. -/
theorem comparesInOrder (ordered : Ordered (meaning.Holds type) (types.capabilities type)) :
    types.ComparesInOrder meaning type := by
  have order := lawfulOrder_comparison ordered
  constructor
  case lt_trans =>
    rintro _ _ _ ⟨_, one, rfl, isOne⟩ ⟨_, two, rfl, isTwo⟩ ⟨_, three, rfl, isThree⟩
    simp only [Any.lt, beq_iff_eq, cmp_held]
    intro less next
    exact (order.chains isOne isTwo isThree).lt_of_lt less (.inl next)
  case atMost_trans =>
    rintro _ _ _ ⟨_, one, rfl, isOne⟩ ⟨_, two, rfl, isTwo⟩ ⟨_, three, rfl, isThree⟩
    exact order.trans isOne isTwo isThree

/-- Anys of different types, or of which one is empty, are neither equal nor ordered. -/
theorem not_compared {left right : Any}
    (apart : left.type? ≠ right.type? ∨ left.isEmpty = true ∨ right.isEmpty = true) :
    left.eq types right = false ∧ left.cmp types right = none := by
  cases left with
  | empty => exact ⟨rfl, rfl⟩
  | held access content =>
    cases right with
    | empty => exact ⟨rfl, rfl⟩
    | held other next =>
      have different : content.type ≠ next.type := by
        simpa [Any.type?, Any.content?, Any.isEmpty] using apart
      simp [Any.eq, Any.cmp, different]

/-! ### What is compared -/

/-- How the fields of tuples compare at a place. -/
def fieldComparison (types : Types) (fields : List Ty) (place : Nat) : Comparison :=
  match fields[place]? with
  | some field => types.comparison field
  | none => fun _ _ => none

section Structured

variable {named : String → Capabilities} (known : types.capabilities = Standard.capabilities named)

include known

/-- Sequences compare item by item. -/
theorem comparison_sequence {item sequence : Ty} (length : Nat)
    (offered : types.Offers item .cmp)
    (mem : sequence ∈ [Ty.vector item, .deque item, .array item length, .option item])
    (left right : Value) :
    types.comparison sequence left right =
      listCmp (types.comparison item) left.parts right.parts := by
  obtain ⟨cmp, found⟩ := Option.isSome_iff_exists.1 offered
  have installed : (types.capabilities sequence).cmp =
      some fun left right => listCmp cmp left.parts right.parts := by
    rw [known] at found ⊢
    simp only [List.mem_cons, List.not_mem_nil, or_false] at mem
    rcases mem with rfl | rfl | rfl | rfl
    · exact congrArg (Option.map _) found
    · exact congrArg (Option.map _) found
    · exact congrArg (Option.map _) found
    · exact congrArg (Option.map _) found
  rw [comparison_eq installed, comparison_eq found]

/-- Ordered sets compare item by item, in the order of their items as keys. -/
theorem comparison_orderedSet (item : Ty) (left right : Value) :
    types.comparison (.orderedSet item) left right =
      listCmp (types.capabilities item).keyCmp left.parts right.parts := by
  have installed : (types.capabilities (.orderedSet item)).cmp =
      some fun left right => listCmp (types.capabilities item).keyCmp left.parts right.parts := by
    rw [known]
    rfl
  rw [comparison_eq installed]

/-- Tuples compare by their first field and then by the others. -/
theorem comparison_tuple {first rest : Ty} (ofFirst : types.Offers first .cmp)
    (ofRest : types.Offers rest .cmp) (left right : Value) :
    types.comparison (.tuple first rest) left right =
      andThen (types.comparison first (head left) (head right))
        (types.comparison rest (tail left) (tail right)) := by
  obtain ⟨firstCmp, found⟩ := Option.isSome_iff_exists.1 ofFirst
  obtain ⟨restCmp, foundRest⟩ := Option.isSome_iff_exists.1 ofRest
  have installed : (types.capabilities (.tuple first rest)).cmp =
      some (pairCmp firstCmp restCmp) := by
    rw [known] at found foundRest ⊢
    simp only [Standard.capabilities, tuple, found, foundRest, Option.bind_eq_bind,
      Option.bind_some]
  rw [comparison_eq installed, comparison_eq found, comparison_eq foundRest]
  rfl

/-- Units have a comparison. -/
theorem offers_unit : types.Offers .unit .cmp := by
  rw [Offers, known]
  rfl

/-- Units compare as equal. -/
theorem comparison_unit : types.comparison .unit .unit .unit = some .eq := by
  have installed : (types.capabilities .unit).cmp = some scalarCmp := by
    rw [known]
    rfl
  rw [comparison_eq installed]
  rfl

/-- A tuple of fields has a comparison if all fields have one. -/
theorem offers_tupleOf {fields : List Ty} (offered : ∀ field ∈ fields, types.Offers field .cmp) :
    types.Offers (.tupleOf fields) .cmp := by
  rw [Offers, known, has_tupleOf, List.all_eq_true]
  rwa [← known]

/-- Tuples compare lexicographically. -/
theorem lexicographic_tupleOf {fields : List Ty}
    (offered : ∀ field ∈ fields, types.Offers field .cmp) {left right : List Value}
    (isLeft : meaning.Holds (.tupleOf fields) (.compound left))
    (isRight : meaning.Holds (.tupleOf fields) (.compound right)) :
    Lexicographic (types.fieldComparison fields) left right
      (types.comparison (.tupleOf fields) (.compound left) (.compound right)) := by
  induction fields generalizing left right with
  | nil =>
    cases isLeft
    cases isRight
    exact DecidedAt.lexicographic (comparison_unit known)
  | cons first rest ih =>
    obtain ⟨part, others, same, _, areOthers, _⟩ := isLeft
    cases same
    obtain ⟨other, more, same, _, areMore, _⟩ := isRight
    cases same
    obtain ⟨ofFirst, ofRest⟩ := List.forall_mem_cons.1 offered
    have step := comparison_tuple known ofFirst (offers_tupleOf known ofRest)
      (.compound (part :: others)) (.compound (other :: more))
    rw [Ty.tupleOf, List.foldr_cons, ← Ty.tupleOf, step]
    exact Lexicographic.cons (ih ofRest areOthers areMore) part other

/-- Entries compare as pairs do. -/
theorem comparison_entry {keys values : Ty} (ofKeys : types.Offers keys .cmp)
    (ofValues : types.Offers values .cmp) {isKey isValue : Value → Prop} {left right : Value}
    (isLeft : Meaning.Entry isKey isValue left) (isRight : Meaning.Entry isKey isValue right) :
    types.comparison (.tupleOf [keys, values]) left right =
      andThen (types.comparison keys (key left) (key right))
        (types.comparison values (entryValue left) (entryValue right)) := by
  obtain ⟨first, second, rfl, _⟩ := isLeft
  obtain ⟨third, fourth, rfl, _⟩ := isRight
  have ofRest : types.Offers (.tupleOf [values]) .cmp := offers_tupleOf known (by simpa)
  have pairs := comparison_tuple known ofKeys ofRest (.compound [first, second])
    (.compound [third, fourth])
  have ends := comparison_tuple known ofValues (offers_unit known) (.compound [second])
    (.compound [fourth])
  have units : types.comparison .unit (tail (.compound [second])) (tail (.compound [fourth])) =
      some .eq := comparison_unit known
  rw [units, andThen_eq] at ends
  exact pairs.trans (congrArg (andThen _) ends)

/-- Ordered tables compare entry by entry, by keys in their order and then by values. -/
theorem comparison_orderedMap (keys : Ty) {values : Ty} (offered : types.Offers values .cmp)
    (left right : Value) :
    types.comparison (.orderedMap keys values) left right =
      listCmp (entryCmp (types.capabilities keys).keyCmp (types.comparison values))
        left.parts right.parts := by
  obtain ⟨valueCmp, found⟩ := Option.isSome_iff_exists.1 offered
  have installed : (types.capabilities (.orderedMap keys values)).cmp =
      some fun left right =>
        listCmp (entryCmp (types.capabilities keys).keyCmp valueCmp) left.parts right.parts := by
    rw [known] at found ⊢
    exact congrArg (Option.map _) found
  rw [comparison_eq installed, comparison_eq found]

/-- Ordered tables compare as the lists of their pairs of key and value do, where keys compare as
they do as keys. -/
theorem comparison_orderedMap_pairs {keys values : Ty}
    (ofKeys : OffersKeyOrder (meaning.Holds keys) (types.capabilities keys))
    (ofValues : types.Offers values .cmp) {left right : Value}
    (isLeft : meaning.Holds (.orderedMap keys values) left)
    (isRight : meaning.Holds (.orderedMap keys values) right) :
    types.comparison (.orderedMap keys values) left right =
      types.comparison (.vector (.tupleOf [keys, values])) left right := by
  have offered : types.Offers keys .cmp := Option.isSome_iff_exists.2 ⟨_, ofKeys⟩
  have ofEntries : types.Offers (.tupleOf [keys, values]) .cmp :=
    offers_tupleOf known (by simp [offered, ofValues])
  obtain ⟨entries, rfl, areEntries, _⟩ := isLeft
  obtain ⟨others, rfl, areOthers, _⟩ := isRight
  rw [comparison_orderedMap known keys ofValues,
    comparison_sequence known 0 ofEntries List.mem_cons_self]
  refine listCmp_congr fun entry mem other listed => ?_
  rw [comparison_entry known offered ofValues (areEntries entry mem) (areOthers other listed),
    comparison_eq ofKeys]
  rfl

/-- Tables without order are equal if they hold equal values under the same keys. -/
theorem equality_hashMap {keys values : Ty} (offered : types.Offers values .eq)
    (identity : KeyIdentity (meaning.Holds keys) (types.capabilities keys)) {left right : Value}
    (isLeft : Table (types.capabilities keys).sameKey (meaning.Holds keys) (meaning.Holds values)
      left)
    (isRight : Table (types.capabilities keys).sameKey (meaning.Holds keys) (meaning.Holds values)
      right) :
    types.equality (.hashMap keys values) left right = true ↔
      ∀ sought, meaning.Holds keys sought →
        Option.Rel (fun value other => types.equality values value other = true)
          (underKey (types.capabilities keys).sameKey left sought)
          (underKey (types.capabilities keys).sameKey right sought) := by
  obtain ⟨eq, found⟩ := Option.isSome_iff_exists.1 offered
  have installed : (types.capabilities (.hashMap keys values)).eq =
      some (mapEq (types.capabilities keys).sameKey eq) := by
    rw [known] at found ⊢
    exact congrArg (Option.map _) found
  rw [equality_eq installed, equality_eq found]
  exact mapEq_iff identity isLeft isRight

/-- In which order tables without order list their entries makes no difference to whether they are
equal. -/
theorem equality_hashMap_of_perm {keys values : Ty} (offered : types.Offers values .eq)
    (identity : KeyIdentity (meaning.Holds keys) (types.capabilities keys))
    {left right left' right' : List Value}
    (isLeft : Table (types.capabilities keys).sameKey (meaning.Holds keys) (meaning.Holds values)
      (.compound left))
    (isRight : Table (types.capabilities keys).sameKey (meaning.Holds keys) (meaning.Holds values)
      (.compound right))
    (ofLeft : left'.Perm left) (ofRight : right'.Perm right) :
    types.equality (.hashMap keys values) (.compound left') (.compound right') =
      types.equality (.hashMap keys values) (.compound left) (.compound right) := by
  have lawful := LawfulIdentity.toLawfulEquality identity
  rw [Bool.eq_iff_iff, equality_hashMap known offered identity (table_of_perm isLeft ofLeft)
    (table_of_perm isRight ofRight), equality_hashMap known offered identity isLeft isRight]
  refine forall₂_congr fun sought isSought => ?_
  rw [underKey_of_perm lawful isLeft ofLeft isSought,
    underKey_of_perm lawful isRight ofRight isSought]

/-- Being the same is an identity for keys that can be hashed. -/
theorem keyIdentity_of_isHashKey {keys : Ty} (hashed : IsHashKey named meaning keys) :
    KeyIdentity (meaning.Holds keys) (types.capabilities keys) := by
  rw [known]
  exact law_of_isKey nests_keyIdentity hashed.isKey

/-- No two keys of a table without order are the same, as far as the type of keys says. -/
theorem isTable_of_isHashKey {keys values : Ty} (hashed : IsHashKey named meaning keys)
    {value : Value} (holds : meaning.Holds (.hashMap keys values) value) :
    Table (types.capabilities keys).sameKey (meaning.Holds keys) (meaning.Holds values) value := by
  rw [known]
  exact table_of_hashMap hashed value holds

/-- Pairs with greater and greater integers ascend if their first fields are each at most the next,
and only then. -/
theorem lt_pair_iff {kind : IntegerKind} (offered : types.Offers type .cmp) (left right : Value)
    {less more : Int} (below : less < more) :
    (Any.new ⟨.tupleOf [type, .integer kind], .compound [left, .integer less]⟩).lt types
        (.new ⟨.tupleOf [type, .integer kind], .compound [right, .integer more]⟩) = true ↔
      AtMost (types.comparison type left right) := by
  have installed : (types.capabilities (.integer kind)).cmp = some scalarCmp := by
    rw [known]
    rfl
  have numbers : types.comparison (.integer kind) (.integer less) (.integer more) = some .lt := by
    rw [comparison_eq installed]
    exact congrArg some (compare_lt_iff_lt.2 below)
  have isEntry : ∀ first second, Meaning.Entry (fun _ => True) (fun _ => True)
      (.compound [first, second]) := fun first second => ⟨first, second, rfl, trivial, trivial⟩
  have pairs := comparison_entry known offered (Option.isSome_iff_exists.2 ⟨_, installed⟩)
    (isEntry left (.integer less)) (isEntry right (.integer more))
  rw [Any.lt, beq_iff_eq]
  refine Iff.trans (Eq.congr_left pairs) ?_
  rw [andThen_lt_iff]
  exact or_congr_right (and_iff_left numbers)

/-- Being less is transitive for pairs with an integer just if comparison of the first fields is an
order. -/
theorem lessTransitive_pair_iff {kind : IntegerKind} (offered : types.Offers type .cmp)
    (lawful : Lawful (meaning.Holds type) (types.capabilities type)) :
    types.LessTransitive meaning (.tupleOf [type, .integer kind]) ↔
      Ordered (meaning.Holds type) (types.capabilities type) := by
  constructor
  · intro transitive cmp installed
    have isPair : ∀ value number, meaning.Holds type value → kind.holds number →
        (Any.new ⟨.tupleOf [type, .integer kind], .compound [value, .integer number]⟩).Has meaning
          (.tupleOf [type, .integer kind]) := fun value number holds fits =>
      ⟨_, _, rfl, _, _, rfl, holds, ⟨_, _, rfl, ⟨number, rfl, fits⟩, rfl, trivial⟩, trivial⟩
    refine ⟨(lawful.cmp cmp installed).dual, fun {one two three} isOne isTwo isThree => ?_⟩
    -- Pairs with 0, 1 and 2 ascend where the values are each at most the next.
    have first := isPair one 0 isOne (by cases kind <;> decide)
    have second := isPair two 1 isTwo (by cases kind <;> decide)
    have third := isPair three 2 isThree (by cases kind <;> decide)
    have ascending := transitive first second third
    rwa [lt_pair_iff known offered one two (by decide),
      lt_pair_iff known offered two three (by decide),
      lt_pair_iff known offered one three (by decide), comparison_eq installed] at ascending
  · intro ordered
    refine (comparesInOrder ?_).lt_trans
    rw [known] at ordered ⊢
    exact ordered_tuple ordered
      (ordered_tuple (ordered_scalar _ _) (ordered_scalar _ _) parts_of_tuple) parts_of_tuple

end Structured

/-! ### The laws -/

/-- What comparing structured values amounts to, said without the loops that compare them. -/
structure ComparesParts (types : Types) (named : String → Capabilities) (meaning : Meaning) :
    Prop where
  /-- Sequences compare lexicographically by their items. -/
  sequences : ∀ item length, types.Offers item .cmp → ∀ sequence ∈
    [Ty.vector item, .deque item, .array item length, .option item], ∀ left right,
      Lexicographic (fun _ => types.comparison item) left right
        (types.comparison sequence (.compound left) (.compound right))
  /-- Tuples compare lexicographically by their fields. -/
  tuples : ∀ fields, (∀ field ∈ fields, types.Offers field .cmp) → ∀ left right,
    meaning.Holds (.tupleOf fields) (.compound left) →
      meaning.Holds (.tupleOf fields) (.compound right) →
      Lexicographic (types.fieldComparison fields) left right
        (types.comparison (.tupleOf fields) (.compound left) (.compound right))
  /-- Ordered sets compare lexicographically by the order of their items as keys. -/
  orderedSets : ∀ item left right,
    Lexicographic (fun _ => (types.capabilities item).keyCmp) left right
      (types.comparison (.orderedSet item) (.compound left) (.compound right))
  /-- Ordered tables compare lexicographically by their entries, by key and then by value. -/
  orderedMaps : ∀ keys values, types.Offers values .cmp → ∀ left right,
    Lexicographic
      (fun _ => entryCmp (types.capabilities keys).keyCmp (types.comparison values)) left right
      (types.comparison (.orderedMap keys values) (.compound left) (.compound right))
  /-- Ordered tables compare as the sorted lists of their pairs of key and value, where the leaves
  of keys compare as they do as keys. -/
  pairs : ∀ keys values, IsKey OffersKeyOrder named meaning keys → types.Offers values .cmp →
    ∀ left right, meaning.Holds (.orderedMap keys values) left →
      meaning.Holds (.orderedMap keys values) right →
      types.comparison (.orderedMap keys values) left right =
        types.comparison (.vector (.tupleOf [keys, values])) left right
  /-- Tables without order are equal if they hold equal values under the same keys. -/
  hashMaps : ∀ keys values, IsHashKey named meaning keys → types.Offers values .eq →
    ∀ left right, meaning.Holds (.hashMap keys values) left →
      meaning.Holds (.hashMap keys values) right →
      (types.equality (.hashMap keys values) left right = true ↔
        ∀ sought, meaning.Holds keys sought →
          Option.Rel (fun value other => types.equality values value other = true)
            (underKey (types.capabilities keys).sameKey left sought)
            (underKey (types.capabilities keys).sameKey right sought))
  /-- It makes no difference to this how they list their entries. -/
  reordered : ∀ keys values, IsHashKey named meaning keys → types.Offers values .eq →
    ∀ left right left' right', meaning.Holds (.hashMap keys values) (.compound left) →
      meaning.Holds (.hashMap keys values) (.compound right) → List.Perm left' left →
      List.Perm right' right →
      types.equality (.hashMap keys values) (.compound left') (.compound right') =
        types.equality (.hashMap keys values) (.compound left) (.compound right)

/-- Structured values are compared by their parts. -/
theorem comparesParts {named : String → Capabilities}
    (known : types.capabilities = Standard.capabilities named) :
    types.ComparesParts named meaning where
  sequences item length offered sequence mem left right := by
    rw [comparison_sequence known length offered mem]
    exact lexicographic_listCmp _ left right
  tuples fields offered left right := lexicographic_tupleOf known offered
  orderedSets item left right := by
    rw [comparison_orderedSet known]
    exact lexicographic_listCmp _ left right
  orderedMaps keys values offered left right := by
    rw [comparison_orderedMap known keys offered]
    exact lexicographic_listCmp _ left right
  pairs keys values isKey offered left right := by
    have ofKeys : OffersKeyOrder (meaning.Holds keys) (types.capabilities keys) := by
      rw [known]
      exact law_of_isKey nests_offersKeyOrder isKey
    exact comparison_orderedMap_pairs known ofKeys offered
  hashMaps keys values hashed offered left right isLeft isRight :=
    equality_hashMap known offered (keyIdentity_of_isHashKey known hashed)
      (isTable_of_isHashKey known hashed isLeft) (isTable_of_isHashKey known hashed isRight)
  reordered keys values hashed offered left right left' right' isLeft isRight :=
    equality_hashMap_of_perm known offered (keyIdentity_of_isHashKey known hashed)
      (isTable_of_isHashKey known hashed isLeft) (isTable_of_isHashKey known hashed isRight)

/-- Comparison of anys is lawful at every depth. Take any meaning of named types, and any type that
is built of scalars and of named types. If the equality of these is symmetric and transitive and
their comparison is dual, transitive as an equality, and finds equal what is equal, then equality
and comparison of anys that hold values of the type have these laws too. If the comparison of these
is an order, so that what is at most something that is at most a third is at most the third, then it
is one for the type, and being less is transitive. No less would do: being less is transitive for
pairs with an integer just where being at most is for their first fields. Items of sets and keys of
tables obey the laws of keys instead: being the same is an identity, and ordered ones are in an
order.

Where items have a comparison, sequences and tuples of them compare lexicographically: a proper
front part is less, and where the items at the first place that differs are undecided, so is the
whole. Ordered sets do so as well, and ordered tables as the sorted lists of their pairs of key and
value; tables without order are equal if they are as finite maps, however each lists its entries.
Anys of different types, or of which one is empty, are never equal nor ordered. -/
theorem comparison_lawful (describe : String → Description) (members : Ty → Members)
    (meaning : Meaning) :
    let types : Types := ⟨universeOf describe, members⟩
    let named := fun name => types.capabilities (.named name)
    (∀ type, BuiltFrom Lawful named meaning type → types.ComparesLawfully meaning type) ∧
      (∀ type, BuiltFrom Ordered named meaning type → types.ComparesInOrder meaning type) ∧
      (∀ type kind, BuiltFrom Lawful named meaning type → types.Offers type .cmp →
        (types.LessTransitive meaning (.tupleOf [type, .integer kind]) ↔
          Ordered (meaning.Holds type) (types.capabilities type))) ∧
      (∀ type first second left right,
        (Any.held first ⟨type, left⟩).eq types (.held second ⟨type, right⟩) =
            types.equality type left right ∧
          (Any.held first ⟨type, left⟩).cmp types (.held second ⟨type, right⟩) =
            types.comparison type left right) ∧
      types.ComparesParts named meaning ∧
      ∀ left right : Any,
        left.type? ≠ right.type? ∨ left.isEmpty = true ∨ right.isEmpty = true →
          left.eq types right = false ∧ left.cmp types right = none := by
  intro types named
  have known : types.capabilities = Standard.capabilities named :=
    funext (capabilities_record describe)
  have lawful : ∀ type, BuiltFrom Lawful named meaning type →
      Lawful (meaning.Holds type) (types.capabilities type) := by
    intro type built
    rw [known]
    exact lawful_of_builtFrom built
  refine ⟨fun type built => comparesLawfully (lawful type built), ?orders, ?pairs, ?held,
    comparesParts known, fun left right => not_compared⟩
  case orders =>
    intro type built
    refine comparesInOrder ?_
    rw [known]
    exact ordered_of_builtFrom built
  case pairs =>
    intro type kind built offered
    exact lessTransitive_pair_iff known offered (lawful type built)
  case held =>
    intro type first second left right
    exact ⟨eq_held first second left right, cmp_held first second left right⟩

/-- Named types whose values are integers and can do what integers can. -/
def rankDescription (name : String) : Description where
  record := { name, layout := ⟨4, 4⟩, capabilities := scalar }
  content := .integer .i32 fun _ => true

/-- The meaning of types whose named ones have integers as their values, and whose keys are in the
order of integers. -/
def rankMeaning : Meaning where
  inhabits _ value := ∃ number, value = .integer number
  before _ left right := ∃ less more, left = .integer less ∧ right = .integer more ∧ less < more
  irreflexive := by
    rintro _ _ ⟨less, more, rfl, same, below⟩
    cases same
    exact Int.lt_irrefl less below
  transitive := by
    rintro _ _ _ _ ⟨less, middle, rfl, rfl, below⟩ ⟨_, more, same, rfl, above⟩
    cases same
    exact ⟨less, more, rfl, rfl, below.trans above⟩

/-- A table of ranks and the limits they approach. -/
def ranking (entries : List (Int × Number)) : Value :=
  .compound (entries.map fun entry => .compound [.integer entry.1, .number entry.2])

/-- Rankings are ordered tables if their ranks ascend. -/
theorem holds_ranking (name : String) {entries : List (Int × Number)}
    (ascending : entries.Pairwise fun entry next => entry.1 < next.1)
    (fits : ∀ entry ∈ entries, entry.2.Fits .double) :
    rankMeaning.Holds (.orderedMap (.named name) .float64) (ranking entries) := by
  refine ⟨_, rfl, ?_, ?_⟩
  · rintro _ mem
    obtain ⟨entry, listed, rfl⟩ := List.mem_map.1 mem
    exact ⟨_, _, rfl, ⟨_, rfl⟩, _, rfl, fits entry listed⟩
  · change List.Pairwise _ (List.map _ (List.map _ entries))
    rw [List.map_map, List.pairwise_map]
    exact ascending.imp fun {entry next} below => ⟨entry.1, next.1, rfl, rfl, below⟩

/-- Ranks are plain scalars. -/
theorem plainScalar_of_rank (value : Value) (rank : ∃ number, value = .integer number) :
    PlainScalar value := by
  obtain ⟨number, rfl⟩ := rank
  exact .integer number

/-- Ranks that are different are not the same key. -/
theorem isHashKey_rank {named : String → Capabilities} (known : named "Rank" = scalar) :
    IsHashKey named rankMeaning (.named "Rank") where
  isKey := by
    change KeyIdentity _ (named "Rank")
    rw [known]
    exact nests_keyIdentity.scalar plainScalar_of_rank
  unlike := by
    rintro _ _ ⟨left, rfl⟩ ⟨right, rfl⟩ ⟨different, _⟩
    change (named "Rank").sameKey _ _ = false
    rw [known, ← Bool.not_eq_true]
    intro alike
    have equal : compare left right = .eq := Option.some.inj (beq_iff_eq.1 alike)
    exact different (congrArg Value.integer (compare_eq_iff_eq.1 equal))

/-- Optional lists of ordered tables of ranks and numbers compare as options, lists, tables and
numbers do together. -/
theorem rankings_compared :
    let types : Types := ⟨universeOf rankDescription, fun _ => {}⟩
    let rank : Ty := .named "Rank"
    let table : Ty := .orderedMap rank .float64
    let hashed : Ty := .hashMap rank .float64
    let pair : Ty := .tupleOf [rank, .float64]
    let type : Ty := .option (.vector table)
    let first : Value := ranking [(1, .infinite true)]
    let third : Value := ranking [(2, .nan)]
    let undecided : List Value := [.integer 2, .number .nan]
    let lower : Value := .compound [.integer 1, .number (.infinite true)]
    let upper : Value := .compound [.integer 2, .number (.infinite false)]
    (Any.held .shared ⟨type, .compound [.compound [first]]⟩).lt types
        (.new ⟨type, .compound [.compound [third]]⟩) = true ∧
      types.ComparesLawfully rankMeaning (.tuple hashed .unit) ∧
      types.LessTransitive rankMeaning (.tupleOf [rank, .i32]) ∧
      Lexicographic (fun _ => types.comparison table) [first, third] [first]
        (types.comparison (.vector table) (.compound [first, third]) (.compound [first])) ∧
      Lexicographic (types.fieldComparison [rank, .float64]) undecided undecided
        (types.comparison pair (.compound undecided) (.compound undecided)) ∧
      types.comparison table first third = types.comparison (.vector pair) first third ∧
      types.equality hashed (.compound [upper, lower]) (.compound [lower, upper]) = true ∧
      (Any.new ⟨table, first⟩).cmp types (.new ⟨.vector pair, first⟩) = none := by
  intro types rank table hashed pair type first third undecided lower upper
  obtain ⟨laws, orders, pairs, _, parts, apart⟩ :=
    comparison_lawful rankDescription (fun _ => {}) rankMeaning
  have isTable : ∀ place limit, Number.Fits .double limit →
      rankMeaning.Holds table (ranking [(place, limit)]) := fun place limit fits =>
    holds_ranking _ (List.pairwise_singleton _ _) (by simpa using fits)
  have wrapped : ∀ access place limit, Number.Fits .double limit →
      (Any.held access ⟨type, .compound [.compound [ranking [(place, limit)]]]⟩).Has rankMeaning
        type := by
    intro access place limit fits
    refine ⟨access, _, rfl, _, rfl, ?_, Nat.le_refl 1⟩
    rintro _ (_ | ⟨_, ⟨⟩⟩)
    refine ⟨_, rfl, ?_, trivial⟩
    rintro _ (_ | ⟨_, ⟨⟩⟩)
    exact isTable place limit fits
  have isHashed : rankMeaning.Holds hashed (.compound [lower, upper]) := by
    refine ⟨_, rfl, ?_, Meaning.apart_of_nodup (fun _ _ => trivial) (by decide)⟩
    rintro _ (_ | ⟨_, _ | ⟨_, ⟨⟩⟩⟩)
    · exact ⟨_, _, rfl, ⟨_, rfl⟩, _, rfl, trivial⟩
    · exact ⟨_, _, rfl, ⟨_, rfl⟩, _, rfl, trivial⟩
  have isPair : rankMeaning.Holds pair (.compound undecided) :=
    ⟨_, _, rfl, ⟨2, rfl⟩, ⟨_, _, rfl, ⟨_, rfl, trivial⟩, rfl, trivial⟩, trivial⟩
  have ofRanks : IsHashKey (fun name => types.capabilities (.named name)) rankMeaning rank :=
    isHashKey_rank rfl
  have ordered : Ordered _ _ := ordered_scalar (rankMeaning.Holds rank) .double
  refine ⟨?_, laws _ ⟨⟨ofRanks, trivial⟩, trivial⟩,
    (pairs rank .i32 (lawful_scalar _ _) (by decide)).2 ordered, ?_, ?_, ?_, ?_, ?_⟩
  · -- Between the two lies a table with the same rank and the other limit.
    exact (orders type ⟨nests_keyOrder.scalar plainScalar_of_rank, trivial⟩).lt_trans
      (wrapped .shared 1 (.infinite true) trivial)
      (wrapped .exclusive 1 (.infinite false) trivial) (wrapped .owned 2 .nan trivial)
      (by decide) (by decide)
  · exact parts.sequences table 0 (by decide) (.vector table) List.mem_cons_self _ _
  · exact parts.tuples [rank, .float64] (by decide) undecided undecided isPair isPair
  · exact parts.pairs rank .float64 rfl (by decide) first third (isTable 1 _ trivial)
      (isTable 2 _ trivial)
  · rw [parts.reordered rank .float64 ofRanks (by decide) [lower, upper] [lower, upper]
      [upper, lower] [lower, upper] isHashed isHashed (List.Perm.swap _ _ _) (List.Perm.refl _)]
    decide
  · exact (apart (.new ⟨table, first⟩) (.new ⟨.vector pair, first⟩) (.inl (by decide))).2

/-! ### Less is not transitive by itself -/

/-- What can be done with some values is lawful, and besides being less is transitive for them,
though being at most need not be. -/
structure StrictlyLawful (isValue : Value → Prop) (capabilities : Capabilities) : Prop
    extends Lawful isValue capabilities where
  lt_trans : ∀ cmp, capabilities.cmp = some cmp → ∀ {first second third}, isValue first →
    isValue second → isValue third → cmp first second = some .lt → cmp second third = some .lt →
    cmp first third = some .lt

/-- Three values. -/
def ties : List Value := [.integer 0, .integer 1, .integer 2]

/-- A comparison by which 0 and 1 are equal and 1 is less than 2, but 0 and 2 do not compare. -/
def tieCmp : Comparison
  | .integer 1, .integer 2 => some .lt
  | .integer 2, .integer 1 => some .gt
  | .integer left, .integer right => if left / 2 = right / 2 then some .eq else none
  | _, _ => none

/-- Named types whose values compare like that, and are equal if they compare as equal. -/
def tieDescription (name : String) : Description where
  record :=
    { name, layout := ⟨4, 4⟩
      capabilities := { eq := some fun left right => tieCmp left right == some .eq
                        cmp := some tieCmp } }
  content := .integer .i32 fun _ => true

/-- The meaning of types whose named ones have these three values. -/
def tieMeaning : Meaning :=
  { rankMeaning with inhabits := fun _ value => value ∈ ties }

/-- The three values are compared lawfully, and being less is transitive for them. -/
theorem strictlyLawful_tie (name : String) :
    StrictlyLawful (tieMeaning.inhabits name) (tieDescription name).record.capabilities := by
  have dual : ∀ left ∈ ties, ∀ right ∈ ties,
      tieCmp right left = (tieCmp left right).map Ordering.swap := by decide
  have eq_trans : ∀ first ∈ ties, ∀ second ∈ ties, ∀ third ∈ ties,
      tieCmp first second = some .eq → tieCmp second third = some .eq →
        tieCmp first third = some .eq := by decide
  have lt_trans : ∀ first ∈ ties, ∀ second ∈ ties, ∀ third ∈ ties,
      tieCmp first second = some .lt → tieCmp second third = some .lt →
        tieCmp first third = some .lt := by decide
  have lawful : LawfulComparison (tieMeaning.inhabits name) tieCmp :=
    ⟨fun isLeft isRight => dual _ isLeft _ isRight,
      fun one two three => eq_trans _ one _ two _ three⟩
  have agree : Agree (tieMeaning.inhabits name) (fun left right => tieCmp left right == some .eq)
      tieCmp := fun _ _ => beq_iff_eq.symm
  constructor
  case toLawful =>
    constructor
    · intro eq installed
      cases installed
      exact agree.lawfulEquality lawful
    · intro cmp installed
      cases installed
      exact lawful
    · intro eq cmp installed ordered
      cases installed
      cases ordered
      exact agree
  case lt_trans =>
    intro cmp installed first second third one two three
    cases installed
    exact lt_trans _ one _ two _ three

/-- Two things that might be expected of comparison do not hold. Pairs of a lawfully compared value
and an integer ascend twice, where the values are equal and then less, and yet the last is not above
the first. And an item that is undecided leaves a list undecided only if all items before it are
equal: lists with such an item in the end are decided by their first items. -/
theorem ties_not_transitive :
    let types : Types := ⟨universeOf tieDescription, fun _ => {}⟩
    let named := fun name => types.capabilities (.named name)
    let pair : Ty := .tupleOf [.named "Tie", .i32]
    let tied : Int → Int → Any := fun value number =>
      .new ⟨pair, .compound [.integer value, .integer number]⟩
    let numbers : Bool → Any := fun negative =>
      .new ⟨.vector .float64, .compound [.number (.infinite negative), .number .nan]⟩
    BuiltFrom StrictlyLawful named tieMeaning pair ∧
      ((tied 0 0).Has tieMeaning pair ∧ (tied 1 1).Has tieMeaning pair ∧
        (tied 2 0).Has tieMeaning pair) ∧
      ((tied 0 0).lt types (tied 1 1) = true ∧ (tied 1 1).lt types (tied 2 0) = true ∧
        (tied 0 0).cmp types (tied 2 0) = none) ∧
      types.comparison .float64 (.number .nan) (.number .nan) = none ∧
      (numbers true).cmp types (numbers false) = some .lt := by
  intro types named pair tied numbers
  have isPair : ∀ value number, .integer value ∈ ties → IntegerKind.i32.holds number →
      (tied value number).Has tieMeaning pair := fun value number tie fits =>
      ⟨_, _, rfl, _, _, rfl, tie, ⟨_, _, rfl, ⟨number, rfl, fits⟩, rfl, trivial⟩, trivial⟩
  refine ⟨⟨strictlyLawful_tie "Tie", trivial, trivial⟩, ⟨?_, ?_, ?_⟩, ⟨?_, ?_, ?_⟩, ?_, ?_⟩
  · exact isPair 0 0 (by decide) (by decide)
  · exact isPair 1 1 (by decide) (by decide)
  · exact isPair 2 0 (by decide) (by decide)
  · decide
  · decide
  · decide
  · decide
  · decide

end Types

end Reflection
