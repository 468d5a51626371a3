import Reflection.Proofs.Values.Meaning
import Reflection.Standard.Capabilities

/-!
# Laws of comparison

An equality is lawful on some values if it is symmetric and transitive there; it need not relate a
value to itself. A comparison is lawful if comparing the other way round gives the opposite and
finding equal is transitive; it need not decide. It is an order if being at most is transitive.
Every way of comparing structured values is built from two steps: one comparison and then another
(`andThen`), and a list item by item. Both keep each of these laws, so lists, tuples and entries
have them if their parts do. Being less is left out: that it is transitive is not kept by itself,
but as part of being at most. Which place decides how two lists compare is said without recursion:
the first that differs (`Lexicographic`).
-/
namespace Reflection.Standard

open Meaning (Collection Entry)

/-- Whether a comparison is decided and does not find the first value greater. -/
def AtMost (order : Option Ordering) : Prop := order = some .lt ∨ order = some .eq

/-- An equality that is symmetric and transitive on some values. -/
structure LawfulEquality (isValue : Value → Prop) (eq : Equality) : Prop where
  symm : ∀ {left right}, isValue left → isValue right → eq left right = true →
    eq right left = true
  trans : ∀ {first second third}, isValue first → isValue second → isValue third →
    eq first second = true → eq second third = true → eq first third = true

/-- An equality that also relates every one of some values to itself. -/
structure LawfulIdentity (isValue : Value → Prop) (same : Equality) : Prop
    extends LawfulEquality isValue same where
  refl : ∀ {value}, isValue value → same value value = true

/-- A comparison of some values that is reversed when they are exchanged, and by which finding them
equal is transitive. -/
structure LawfulComparison (isValue : Value → Prop) (cmp : Comparison) : Prop where
  dual : ∀ {left right}, isValue left → isValue right →
    cmp right left = (cmp left right).map Ordering.swap
  eq_trans : ∀ {first second third}, isValue first → isValue second → isValue third →
    cmp first second = some .eq → cmp second third = some .eq → cmp first third = some .eq

/-- A comparison that is reversed when its values are exchanged and transitive on some values. What
is transitive is being at most: pairs would not keep the transitivity of being less alone. -/
structure LawfulOrder (isValue : Value → Prop) (cmp : Comparison) : Prop where
  dual : ∀ {left right}, isValue left → isValue right →
    cmp right left = (cmp left right).map Ordering.swap
  trans : ∀ {first second third}, isValue first → isValue second → isValue third →
    AtMost (cmp first second) → AtMost (cmp second third) → AtMost (cmp first third)

/-- A comparison finds the values equal that an equality relates. -/
def Agree (isValue : Value → Prop) (eq : Equality) (cmp : Comparison) : Prop :=
  ∀ {left right}, isValue left → isValue right →
    (cmp left right = some .eq ↔ eq left right = true)

/-! ### Chains of two comparisons -/

/-- What follows for the outer two of three values from how each compares to the next. -/
structure Chains (first second outer : Option Ordering) : Prop where
  lt_of_lt : first = some .lt → AtMost second → outer = some .lt
  lt_of_eq : first = some .eq → second = some .lt → outer = some .lt
  eq : first = some .eq → second = some .eq → outer = some .eq

/-- What is at most something that is at most a third is at most the third. -/
theorem Chains.atMost {first second outer : Option Ordering} (chains : Chains first second outer)
    (left : AtMost first) (right : AtMost second) : AtMost outer := by
  rcases left with less | same
  · exact .inl (chains.lt_of_lt less right)
  · rcases right with less | equal
    · exact .inl (chains.lt_of_eq same less)
    · exact .inr (chains.eq same equal)

/-- An order is transitive strictly, and as an equality. -/
theorem LawfulOrder.chains {isValue : Value → Prop} {cmp : Comparison}
    (lawful : LawfulOrder isValue cmp) {first second third : Value}
    (one : isValue first) (two : isValue second) (three : isValue third) :
    Chains (cmp first second) (cmp second third) (cmp first third) := by
  -- What is at most is not greater the other way round.
  have notAbove : ∀ {left right}, isValue left → isValue right → cmp left right = some .lt →
      ¬AtMost (cmp right left) := by
    rintro left right isLeft isRight less (less' | same)
    · simp [lawful.dual isLeft isRight, less] at less'
    · simp [lawful.dual isLeft isRight, less] at same
  have back : ∀ {left right}, isValue left → isValue right → cmp left right = some .eq →
      cmp right left = some .eq := by
    intro left right isLeft isRight same
    rw [lawful.dual isLeft isRight, same]
    rfl
  constructor
  case lt_of_lt =>
    intro less atMost
    rcases lawful.trans one two three (.inl less) atMost with strict | same
    · exact strict
    · have return' := lawful.trans two three one atMost (.inr (back one three same))
      exact absurd return' (notAbove one two less)
  case lt_of_eq =>
    intro equal less
    rcases lawful.trans one two three (.inr equal) (.inl less) with strict | same
    · exact strict
    · have return' := lawful.trans three one two (.inr (back one three same)) (.inr equal)
      exact absurd return' (notAbove two three less)
  case eq =>
    intro left right
    rcases lawful.trans one two three (.inr left) (.inr right) with strict | same
    · have return' := lawful.trans three two one (.inr (back two three right))
        (.inr (back one two left))
      exact absurd return' (notAbove one three strict)
    · exact same

/-- An equality that is lawful on some values is lawful on fewer. -/
theorem LawfulEquality.mono {isValue isOther : Value → Prop} {eq : Equality}
    (lawful : LawfulEquality isValue eq) (fewer : ∀ value, isOther value → isValue value) :
    LawfulEquality isOther eq where
  symm isLeft isRight := lawful.symm (fewer _ isLeft) (fewer _ isRight)
  trans one two three := lawful.trans (fewer _ one) (fewer _ two) (fewer _ three)

/-- An order is a lawful comparison. -/
theorem LawfulOrder.comparison {isValue : Value → Prop} {cmp : Comparison}
    (lawful : LawfulOrder isValue cmp) : LawfulComparison isValue cmp where
  dual := lawful.dual
  eq_trans one two three := (lawful.chains one two three).eq

/-- An equality that agrees with a lawful comparison is lawful. -/
theorem Agree.lawfulEquality {isValue : Value → Prop} {eq : Equality} {cmp : Comparison}
    (agree : Agree isValue eq cmp) (lawful : LawfulComparison isValue cmp) :
    LawfulEquality isValue eq where
  symm {left right} isLeft isRight equal := by
    rw [← agree isRight isLeft, lawful.dual isLeft isRight, (agree isLeft isRight).2 equal]
    rfl
  trans one two three left right := by
    rw [← agree one three]
    exact lawful.eq_trans one two three ((agree one two).2 left) ((agree two three).2 right)

/-- What an equality relates is the same as what a comparison that agrees with it finds equal. -/
theorem agree_decide (isValue : Value → Prop) (cmp : Comparison) :
    Agree isValue (fun left right => decide (cmp left right = some .eq)) cmp :=
  fun _ _ => decide_eq_true_iff.symm

/-- One comparison, and where it finds no difference another. -/
def andThen (first second : Option Ordering) : Option Ordering :=
  match first with
  | some .eq => second
  | decided => decided

/-- A second comparison that finds no difference changes nothing. -/
theorem andThen_eq (order : Option Ordering) : andThen order (some .eq) = order := by
  rcases order with _ | (_ | _ | _) <;> rfl

/-- Where the first of two comparisons finds a difference, or is undecided, so are both. -/
theorem andThen_of_ne {first : Option Ordering} (differs : first ≠ some .eq)
    (second : Option Ordering) : andThen first second = first := by
  rcases first with _ | (_ | _ | _)
  · rfl
  · rfl
  · exact absurd rfl differs
  · rfl

/-- Two comparisons find no difference if neither does. -/
theorem andThen_eq_iff {first second : Option Ordering} :
    andThen first second = some .eq ↔ first = some .eq ∧ second = some .eq := by
  rcases first with _ | (_ | _ | _) <;> simp [andThen]

/-- Two comparisons are reversed if each is. -/
theorem map_swap_andThen (first second : Option Ordering) :
    (andThen first second).map Ordering.swap =
      andThen (first.map Ordering.swap) (second.map Ordering.swap) := by
  rcases first with _ | (_ | _ | _) <;> simp [andThen]

/-- The first of two comparisons decides, or else the second, that a value is less. -/
theorem andThen_lt_iff {first second : Option Ordering} :
    andThen first second = some .lt ↔
      first = some .lt ∨ (first = some .eq ∧ second = some .lt) := by
  rcases first with _ | (_ | _ | _) <;> simp [andThen]

/-- The first of two comparisons decides, or else the second, that a value is at most another. -/
theorem atMost_andThen_iff {first second : Option Ordering} :
    AtMost (andThen first second) ↔
      first = some .lt ∨ (first = some .eq ∧ AtMost second) := by
  rcases first with _ | (_ | _ | _) <;> simp [andThen, AtMost]

/-- Chains of one comparison and of another make chains of both. -/
theorem Chains.andThen {first second outer first' second' outer' : Option Ordering}
    (chains : Chains first second outer) (rest : Chains first' second' outer') :
    Chains (andThen first first') (andThen second second') (andThen outer outer') where
  lt_of_lt less atMost := by
    rw [andThen_lt_iff] at less ⊢
    rw [atMost_andThen_iff] at atMost
    rcases less with less | ⟨same, less⟩
    · refine .inl (chains.lt_of_lt less ?_)
      rcases atMost with below | ⟨equal, _⟩
      · exact .inl below
      · exact .inr equal
    · rcases atMost with below | ⟨equal, atMost⟩
      · exact .inl (chains.lt_of_eq same below)
      · exact .inr ⟨chains.eq same equal, rest.lt_of_lt less atMost⟩
  lt_of_eq same less := by
    rw [andThen_eq_iff] at same
    rw [andThen_lt_iff] at less ⊢
    rcases less with less | ⟨equal, less⟩
    · exact .inl (chains.lt_of_eq same.1 less)
    · exact .inr ⟨chains.eq same.1 equal, rest.lt_of_eq same.2 less⟩
  eq left right := by
    rw [andThen_eq_iff] at left right ⊢
    exact ⟨chains.eq left.1 right.1, rest.eq left.2 right.2⟩

section Two

variable {isValue isFirst isSecond : Value → Prop} {first second : Value → Value}
  {firstCmp secondCmp : Comparison} {firstEq secondEq : Equality}

/-- Comparing by one part and then by another is lawful if comparing the parts is. -/
theorem LawfulComparison.andThen (ofFirst : LawfulComparison isFirst firstCmp)
    (ofSecond : LawfulComparison isSecond secondCmp)
    (parts : ∀ value, isValue value → isFirst (first value) ∧ isSecond (second value)) :
    LawfulComparison isValue fun left right =>
      andThen (firstCmp (first left) (first right)) (secondCmp (second left) (second right)) where
  dual {left right} isLeft isRight := by
    obtain ⟨leftFirst, leftSecond⟩ := parts left isLeft
    obtain ⟨rightFirst, rightSecond⟩ := parts right isRight
    rw [map_swap_andThen, ← ofFirst.dual leftFirst rightFirst,
      ← ofSecond.dual leftSecond rightSecond]
  eq_trans {one two three} isOne isTwo isThree left right := by
    rw [andThen_eq_iff] at left right ⊢
    obtain ⟨oneFirst, oneSecond⟩ := parts one isOne
    obtain ⟨twoFirst, twoSecond⟩ := parts two isTwo
    obtain ⟨threeFirst, threeSecond⟩ := parts three isThree
    exact ⟨ofFirst.eq_trans oneFirst twoFirst threeFirst left.1 right.1,
      ofSecond.eq_trans oneSecond twoSecond threeSecond left.2 right.2⟩

/-- Comparing by one part and then by another is an order if comparing the parts is. -/
theorem LawfulOrder.andThen (ofFirst : LawfulOrder isFirst firstCmp)
    (ofSecond : LawfulOrder isSecond secondCmp)
    (parts : ∀ value, isValue value → isFirst (first value) ∧ isSecond (second value)) :
    LawfulOrder isValue fun left right =>
      Standard.andThen (firstCmp (first left) (first right))
        (secondCmp (second left) (second right)) where
  dual := (ofFirst.comparison.andThen ofSecond.comparison parts).dual
  trans {one two three} isOne isTwo isThree := by
    obtain ⟨oneFirst, oneSecond⟩ := parts one isOne
    obtain ⟨twoFirst, twoSecond⟩ := parts two isTwo
    obtain ⟨threeFirst, threeSecond⟩ := parts three isThree
    exact ((ofFirst.chains oneFirst twoFirst threeFirst).andThen
      (ofSecond.chains oneSecond twoSecond threeSecond)).atMost

/-- Being equal in one part and in another is lawful if it is in each. -/
theorem LawfulEquality.and (ofFirst : LawfulEquality isFirst firstEq)
    (ofSecond : LawfulEquality isSecond secondEq)
    (parts : ∀ value, isValue value → isFirst (first value) ∧ isSecond (second value)) :
    LawfulEquality isValue fun left right =>
      firstEq (first left) (first right) && secondEq (second left) (second right) where
  symm {left right} isLeft isRight equal := by
    rw [Bool.and_eq_true] at equal ⊢
    obtain ⟨leftFirst, leftSecond⟩ := parts left isLeft
    obtain ⟨rightFirst, rightSecond⟩ := parts right isRight
    exact ⟨ofFirst.symm leftFirst rightFirst equal.1,
      ofSecond.symm leftSecond rightSecond equal.2⟩
  trans {one two three} isOne isTwo isThree left right := by
    rw [Bool.and_eq_true] at left right ⊢
    obtain ⟨oneFirst, oneSecond⟩ := parts one isOne
    obtain ⟨twoFirst, twoSecond⟩ := parts two isTwo
    obtain ⟨threeFirst, threeSecond⟩ := parts three isThree
    exact ⟨ofFirst.trans oneFirst twoFirst threeFirst left.1 right.1,
      ofSecond.trans oneSecond twoSecond threeSecond left.2 right.2⟩

/-- Being the same in one part and in another is an identity if it is in each. -/
theorem LawfulIdentity.and (ofFirst : LawfulIdentity isFirst firstEq)
    (ofSecond : LawfulIdentity isSecond secondEq)
    (parts : ∀ value, isValue value → isFirst (first value) ∧ isSecond (second value)) :
    LawfulIdentity isValue fun left right =>
      firstEq (first left) (first right) && secondEq (second left) (second right) where
  toLawfulEquality := ofFirst.toLawfulEquality.and ofSecond.toLawfulEquality parts
  refl {value} holds := by
    obtain ⟨isFirst, isSecond⟩ := parts value holds
    rw [ofFirst.refl isFirst, ofSecond.refl isSecond, Bool.and_true]

/-- Comparisons by two parts find equal what is equal in both, if those of the parts do. -/
theorem Agree.andThen (ofFirst : Agree isFirst firstEq firstCmp)
    (ofSecond : Agree isSecond secondEq secondCmp)
    (parts : ∀ value, isValue value → isFirst (first value) ∧ isSecond (second value)) :
    Agree isValue
      (fun left right =>
        firstEq (first left) (first right) && secondEq (second left) (second right))
      fun left right => Standard.andThen (firstCmp (first left) (first right))
        (secondCmp (second left) (second right)) := by
  intro left right isLeft isRight
  obtain ⟨leftFirst, leftSecond⟩ := parts left isLeft
  obtain ⟨rightFirst, rightSecond⟩ := parts right isRight
  rw [andThen_eq_iff, Bool.and_eq_true, ofFirst leftFirst rightFirst,
    ofSecond leftSecond rightSecond]

end Two

/-! ### Lists -/

section Lists

variable {isItem : Value → Prop} {cmp : Comparison} {eq : Equality}

/-- Lists compare by their first items and then by the others. -/
theorem listCmp_cons (cmp : Comparison) (left right : Value) (leftRest rightRest : List Value) :
    listCmp cmp (left :: leftRest) (right :: rightRest) =
      andThen (cmp left right) (listCmp cmp leftRest rightRest) := rfl

/-- Comparing lists the other way round gives the opposite. -/
theorem dual_listCmp (lawful : LawfulComparison isItem cmp) {left right : List Value}
    (isLeft : ∀ item ∈ left, isItem item) (isRight : ∀ item ∈ right, isItem item) :
    listCmp cmp right left = (listCmp cmp left right).map Ordering.swap := by
  induction left generalizing right with
  | nil => cases right <;> rfl
  | cons first rest ih =>
    cases right with
    | nil => rfl
    | cons second others =>
      obtain ⟨ofFirst, ofRest⟩ := List.forall_mem_cons.1 isLeft
      obtain ⟨ofSecond, ofOthers⟩ := List.forall_mem_cons.1 isRight
      rw [listCmp_cons, listCmp_cons, map_swap_andThen, ← lawful.dual ofFirst ofSecond,
        ← ih ofRest ofOthers]

/-- How lists compare follows along chains. -/
theorem chains_listCmp (lawful : LawfulOrder isItem cmp) {one two three : List Value}
    (isOne : ∀ item ∈ one, isItem item) (isTwo : ∀ item ∈ two, isItem item)
    (isThree : ∀ item ∈ three, isItem item) :
    Chains (listCmp cmp one two) (listCmp cmp two three) (listCmp cmp one three) := by
  induction one generalizing two three with
  | nil =>
    cases two with
    | nil => cases three <;> constructor <;> simp [listCmp, AtMost]
    | cons => cases three <;> constructor <;> simp [listCmp, AtMost]
  | cons first rest ih =>
    cases two with
    | nil => constructor <;> simp [listCmp]
    | cons second others =>
      cases three with
      | nil => constructor <;> simp [listCmp, AtMost]
      | cons third more =>
        obtain ⟨ofFirst, ofRest⟩ := List.forall_mem_cons.1 isOne
        obtain ⟨ofSecond, ofOthers⟩ := List.forall_mem_cons.1 isTwo
        obtain ⟨ofThird, ofMore⟩ := List.forall_mem_cons.1 isThree
        exact (lawful.chains ofFirst ofSecond ofThird).andThen (ih ofRest ofOthers ofMore)

/-- Lists that are equal item by item are so the other way round. -/
theorem listEq_symm (lawful : LawfulEquality isItem eq) {left right : List Value}
    (isLeft : ∀ item ∈ left, isItem item) (isRight : ∀ item ∈ right, isItem item)
    (equal : listEq eq left right = true) : listEq eq right left = true := by
  induction left generalizing right with
  | nil =>
    cases right with
    | nil => rfl
    | cons => contradiction
  | cons first rest ih =>
    cases right with
    | nil => contradiction
    | cons second others =>
      obtain ⟨ofFirst, ofRest⟩ := List.forall_mem_cons.1 isLeft
      obtain ⟨ofSecond, ofOthers⟩ := List.forall_mem_cons.1 isRight
      rw [listEq, Bool.and_eq_true] at equal ⊢
      exact ⟨lawful.symm ofFirst ofSecond equal.1, ih ofRest ofOthers equal.2⟩

/-- Lists that are equal item by item to the same list are so to each other. -/
theorem listEq_trans (lawful : LawfulEquality isItem eq) {one two three : List Value}
    (isOne : ∀ item ∈ one, isItem item) (isTwo : ∀ item ∈ two, isItem item)
    (isThree : ∀ item ∈ three, isItem item) (left : listEq eq one two = true)
    (right : listEq eq two three = true) : listEq eq one three = true := by
  induction one generalizing two three with
  | nil =>
    cases two with
    | nil => exact right
    | cons => contradiction
  | cons first rest ih =>
    cases two with
    | nil => contradiction
    | cons second others =>
      cases three with
      | nil => contradiction
      | cons third more =>
        obtain ⟨ofFirst, ofRest⟩ := List.forall_mem_cons.1 isOne
        obtain ⟨ofSecond, ofOthers⟩ := List.forall_mem_cons.1 isTwo
        obtain ⟨ofThird, ofMore⟩ := List.forall_mem_cons.1 isThree
        rw [listEq, Bool.and_eq_true] at left right ⊢
        exact ⟨lawful.trans ofFirst ofSecond ofThird left.1 right.1,
          ih ofRest ofOthers ofMore left.2 right.2⟩

/-- Lists of what is the same as itself are so item by item. -/
theorem listEq_refl (lawful : LawfulIdentity isItem eq) {items : List Value}
    (areItems : ∀ item ∈ items, isItem item) : listEq eq items items = true := by
  induction items with
  | nil => rfl
  | cons first rest ih =>
    obtain ⟨ofFirst, ofRest⟩ := List.forall_mem_cons.1 areItems
    rw [listEq, lawful.refl ofFirst, ih ofRest, Bool.and_true]

/-- A comparison of lists finds equal what is equal item by item. -/
theorem listCmp_eq_iff (agree : Agree isItem eq cmp) {left right : List Value}
    (isLeft : ∀ item ∈ left, isItem item) (isRight : ∀ item ∈ right, isItem item) :
    listCmp cmp left right = some .eq ↔ listEq eq left right = true := by
  induction left generalizing right with
  | nil => cases right <;> simp [listCmp, listEq]
  | cons first rest ih =>
    cases right with
    | nil => simp [listCmp, listEq]
    | cons second others =>
      obtain ⟨ofFirst, ofRest⟩ := List.forall_mem_cons.1 isLeft
      obtain ⟨ofSecond, ofOthers⟩ := List.forall_mem_cons.1 isRight
      rw [listCmp_cons, andThen_eq_iff, listEq, Bool.and_eq_true, agree ofFirst ofSecond,
        ih ofRest ofOthers]

/-! ### Collections -/

variable {condition : List Value → Prop}

/-- Comparing collections item by item is lawful if comparing items is. -/
theorem LawfulComparison.collection (lawful : LawfulComparison isItem cmp) :
    LawfulComparison (Collection isItem condition)
      fun left right => listCmp cmp left.parts right.parts where
  dual := by
    rintro _ _ ⟨left, rfl, isLeft, _⟩ ⟨right, rfl, isRight, _⟩
    exact dual_listCmp lawful isLeft isRight
  eq_trans := by
    rintro _ _ _ ⟨one, rfl, isOne, _⟩ ⟨two, rfl, isTwo, _⟩ ⟨three, rfl, isThree, _⟩
    have agree : Agree isItem (fun left right => decide (cmp left right = some .eq)) cmp :=
      agree_decide isItem cmp
    simp only [Value.parts_compound]
    rw [listCmp_eq_iff agree isOne isTwo, listCmp_eq_iff agree isTwo isThree,
      listCmp_eq_iff agree isOne isThree]
    exact listEq_trans (agree.lawfulEquality lawful) isOne isTwo isThree

/-- Comparing collections item by item is an order if comparing items is. -/
theorem LawfulOrder.collection (lawful : LawfulOrder isItem cmp) :
    LawfulOrder (Collection isItem condition)
      fun left right => listCmp cmp left.parts right.parts where
  dual := lawful.comparison.collection.dual
  trans := by
    rintro _ _ _ ⟨one, rfl, isOne, _⟩ ⟨two, rfl, isTwo, _⟩ ⟨three, rfl, isThree, _⟩
    exact (chains_listCmp lawful isOne isTwo isThree).atMost

/-- Being equal item by item is lawful if being equal is for items. -/
theorem LawfulEquality.collection (lawful : LawfulEquality isItem eq) :
    LawfulEquality (Collection isItem condition)
      fun left right => listEq eq left.parts right.parts where
  symm := by
    rintro _ _ ⟨left, rfl, isLeft, _⟩ ⟨right, rfl, isRight, _⟩
    exact listEq_symm lawful isLeft isRight
  trans := by
    rintro _ _ _ ⟨one, rfl, isOne, _⟩ ⟨two, rfl, isTwo, _⟩ ⟨three, rfl, isThree, _⟩
    exact listEq_trans lawful isOne isTwo isThree

/-- Being the same item by item is an identity if being the same is for items. -/
theorem LawfulIdentity.collection (lawful : LawfulIdentity isItem eq) :
    LawfulIdentity (Collection isItem condition)
      fun left right => listEq eq left.parts right.parts where
  toLawfulEquality := lawful.toLawfulEquality.collection
  refl := by
    rintro _ ⟨items, rfl, areItems, _⟩
    exact listEq_refl lawful areItems

/-- A comparison of collections finds equal what is equal item by item. -/
theorem Agree.collection (agree : Agree isItem eq cmp) :
    Agree (Collection isItem condition) (fun left right => listEq eq left.parts right.parts)
      fun left right => listCmp cmp left.parts right.parts := by
  rintro _ _ ⟨left, rfl, isLeft, _⟩ ⟨right, rfl, isRight, _⟩
  exact listCmp_eq_iff agree isLeft isRight

end Lists

/-- The parts of an entry are a key and a value. -/
theorem parts_of_entry {isKey isValue : Value → Prop} (entry : Value)
    (typed : Entry isKey isValue entry) : isKey (key entry) ∧ isValue (entryValue entry) := by
  obtain ⟨first, second, rfl, keyed, valued⟩ := typed
  exact ⟨keyed, valued⟩

/-! ### The first place that differs -/

/-- What a comparison of two lists answers at a place where they differ: if both go on there, how
their items compare, which may be undecided, and otherwise that the one that has ended is less; at
the end of both, that they are equal. -/
def DecidedAt (cmpAt : Nat → Comparison) (left right : List Value) (order : Option Ordering)
    (place : Nat) : Prop :=
  match left[place]?, right[place]? with
  | none, none => order = some .eq
  | none, some _ => order = some .lt
  | some _, none => order = some .gt
  | some item, some other => order = cmpAt place item other ∧ order ≠ some .eq

/-- A comparison of two lists is decided at the first place where they differ. -/
def Lexicographic (cmpAt : Nat → Comparison) (left right : List Value) (order : Option Ordering) :
    Prop :=
  ∃ place, (∀ earlier < place, ∃ item other, left[earlier]? = some item ∧
      right[earlier]? = some other ∧ cmpAt earlier item other = some .eq) ∧
    DecidedAt cmpAt left right order place

/-- Lists that differ at the start are decided there. -/
theorem DecidedAt.lexicographic {cmpAt : Nat → Comparison} {left right : List Value}
    {order : Option Ordering} (decided : DecidedAt cmpAt left right order 0) :
    Lexicographic cmpAt left right order :=
  ⟨0, fun earlier below => absurd below (Nat.not_lt_zero earlier), decided⟩

/-- Lists that start with items are decided by these, or else as what follows is. -/
theorem Lexicographic.cons {cmpAt : Nat → Comparison} {rest others : List Value}
    {order : Option Ordering}
    (following : Lexicographic (fun place => cmpAt (place + 1)) rest others order)
    (first second : Value) :
    Lexicographic cmpAt (first :: rest) (second :: others)
      (andThen (cmpAt 0 first second) order) := by
  by_cases same : cmpAt 0 first second = some .eq
  · obtain ⟨place, before, decided⟩ := following
    rw [same]
    refine ⟨place + 1, ?_, decided⟩
    rintro (_ | earlier) below
    · exact ⟨first, second, rfl, rfl, same⟩
    · exact before earlier (Nat.lt_of_succ_lt_succ below)
  · rw [andThen_of_ne same]
    exact DecidedAt.lexicographic ⟨rfl, same⟩

/-- The comparison of lists item by item is lexicographic. -/
theorem lexicographic_listCmp (cmp : Comparison) (left right : List Value) :
    Lexicographic (fun _ => cmp) left right (listCmp cmp left right) := by
  induction left generalizing right with
  | nil =>
    cases right with
    | nil => exact DecidedAt.lexicographic rfl
    | cons => exact DecidedAt.lexicographic rfl
  | cons first rest ih =>
    cases right with
    | nil => exact DecidedAt.lexicographic rfl
    | cons second others => exact Lexicographic.cons (ih others) first second

/-- Lists compare in one way or another as their items do. -/
theorem listCmp_congr {cmp other : Comparison} {left right : List Value}
    (same : ∀ first ∈ left, ∀ second ∈ right, cmp first second = other first second) :
    listCmp cmp left right = listCmp other left right := by
  induction left generalizing right with
  | nil => cases right <;> rfl
  | cons first rest ih =>
    cases right with
    | nil => rfl
    | cons second others =>
      rw [listCmp_cons, listCmp_cons, same first List.mem_cons_self second List.mem_cons_self,
        ih fun item mem next listed =>
          same item (List.mem_cons_of_mem _ mem) next (List.mem_cons_of_mem _ listed)]

end Reflection.Standard
