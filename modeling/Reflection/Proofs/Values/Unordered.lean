import Reflection.Proofs.Values.Orders

/-!
# Equality of sets and tables without order

A set without order is compared by counting: both sets have as many items, and every item of one is
the same as some item of the other. Being the same is an identity that the type of the items brings,
and no two items of a set are the same, so this is symmetric after all (`matched_back`): the sets
are equal if they hold the same items (`setEq_iff`). Tables are compared like the sets of their
keys, and are equal if they hold equal values under the same keys (`mapEq_iff`). Neither depends on
how items and entries are listed.
-/
namespace Reflection.Standard

open Meaning (Collection Entry)

/-! ### Matching items -/

section Matching

variable {isItem : Value → Prop} {same : Equality}

/-- Two items are not the same, in whatever order they are taken. -/
def Unlike (same : Equality) (left right : Value) : Prop :=
  same left right = false ∧ same right left = false

/-- Every one of some items has one the same among others. -/
def Matched (same : Equality) (items others : List Value) : Prop :=
  ∀ item ∈ items, ∃ other ∈ others, same item other = true

/-- Items of which no two are the same, and which are all matched by others, are no more than these;
if they are no fewer either, the others are matched by them. -/
theorem matched_back (lawful : LawfulEquality isItem same) {items others : List Value}
    (areItems : ∀ item ∈ items, isItem item) (areOthers : ∀ other ∈ others, isItem other)
    (unlike : items.Pairwise (Unlike same)) (matched : Matched same items others) :
    items.length ≤ others.length ∧
      (others.length ≤ items.length → Matched same others items) := by
  induction items generalizing others with
  | nil =>
    refine ⟨Nat.zero_le _, fun short other mem => ?_⟩
    rw [List.eq_nil_of_length_eq_zero (Nat.le_zero.1 short)] at mem
    contradiction
  | cons first rest ih =>
    obtain ⟨isFirst, areRest⟩ := List.forall_mem_cons.1 areItems
    obtain ⟨unlikeFirst, unlikeRest⟩ := List.pairwise_cons.1 unlike
    obtain ⟨partner, listed, alike⟩ := matched first List.mem_cons_self
    have isPartner := areOthers partner listed
    -- No other item has the partner of the first, so the rest is matched without it.
    have kept : Matched same rest (others.erase partner) := by
      intro item mem
      obtain ⟨other, listedOther, alikeOther⟩ := matched item (List.mem_cons_of_mem _ mem)
      refine ⟨other, (List.mem_erase_of_ne ?_).2 listedOther, alikeOther⟩
      rintro rfl
      have back := lawful.symm (areRest item mem) isPartner alikeOther
      have both := lawful.trans isFirst isPartner (areRest item mem) alike back
      rw [(unlikeFirst item mem).1] at both
      contradiction
    obtain ⟨fewer, all⟩ := ih areRest
      (fun other mem => areOthers other (List.mem_of_mem_erase mem)) unlikeRest kept
    have present := List.length_pos_of_mem listed
    have erased := List.length_erase_of_mem listed
    rw [List.length_cons]
    refine ⟨by omega, fun short other mem => ?_⟩
    by_cases found : other = partner
    · exact ⟨first, List.mem_cons_self, found ▸ lawful.symm isFirst isPartner alike⟩
    · obtain ⟨item, itemListed, alikeItem⟩ :=
        all (by omega) other ((List.mem_erase_of_ne found).2 mem)
      exact ⟨item, List.mem_cons_of_mem _ itemListed, alikeItem⟩

/-- What is the same as an item is matched where the items are. -/
theorem any_of_matched (lawful : LawfulEquality isItem same) {items others : List Value}
    (areItems : ∀ item ∈ items, isItem item) (areOthers : ∀ other ∈ others, isItem other)
    (matched : Matched same items others) {sought : Value} (isSought : isItem sought)
    (found : items.any (same sought) = true) : others.any (same sought) = true := by
  obtain ⟨item, listed, alike⟩ := List.any_eq_true.1 found
  obtain ⟨other, listedOther, alikeOther⟩ := matched item listed
  exact List.any_eq_true.2 ⟨other, listedOther,
    lawful.trans isSought (areItems item listed) (areOthers other listedOther) alike alikeOther⟩

/-- As many items, of which no two are the same, all matched by others, have the same among them as
these. -/
theorem any_eq_of_matched (lawful : LawfulEquality isItem same) {items others : List Value}
    (areItems : ∀ item ∈ items, isItem item) (areOthers : ∀ other ∈ others, isItem other)
    (unlike : items.Pairwise (Unlike same)) (matched : Matched same items others)
    (lengths : items.length = others.length) {sought : Value} (isSought : isItem sought) :
    items.any (same sought) = others.any (same sought) := by
  have back := (matched_back lawful areItems areOthers unlike matched).2 (Nat.le_of_eq lengths.symm)
  rw [Bool.eq_iff_iff]
  exact ⟨any_of_matched lawful areItems areOthers matched isSought,
    any_of_matched lawful areOthers areItems back isSought⟩

/-- Items match others if what is the same as an item is among both or neither. -/
theorem matched_of_any (lawful : LawfulIdentity isItem same) {items others : List Value}
    (areItems : ∀ item ∈ items, isItem item)
    (alike : ∀ sought, isItem sought → items.any (same sought) = others.any (same sought)) :
    Matched same items others := by
  intro item mem
  have found : items.any (same item) = true :=
    List.any_eq_true.2 ⟨item, mem, lawful.refl (areItems item mem)⟩
  rw [alike item (areItems item mem)] at found
  exact List.any_eq_true.1 found

/-- There are as many items as others, no two of either the same, if each of both is matched. -/
theorem length_eq_of_any (lawful : LawfulIdentity isItem same) {items others : List Value}
    (areItems : ∀ item ∈ items, isItem item) (areOthers : ∀ other ∈ others, isItem other)
    (unlike : items.Pairwise (Unlike same)) (unlikeOthers : others.Pairwise (Unlike same))
    (alike : ∀ sought, isItem sought → items.any (same sought) = others.any (same sought)) :
    items.length = others.length := by
  have matched := matched_of_any lawful areItems alike
  have back := matched_of_any lawful areOthers fun sought isSought => (alike sought isSought).symm
  have fewer := (matched_back lawful.toLawfulEquality areItems areOthers unlike matched).1
  have more := (matched_back lawful.toLawfulEquality areOthers areItems unlikeOthers back).1
  exact Nat.le_antisymm fewer more

end Matching

/-! ### Sets and tables without order -/

section Unordered

variable {isItem isKey isValue : Value → Prop} {same : Equality} {left right : Value}
  {valueEq : Equality}

/-- The values of sets of which no two items are the same. -/
abbrev Distinct (same : Equality) (isItem : Value → Prop) : Value → Prop :=
  Collection isItem (List.Pairwise (Unlike same))

/-- Sets without order are equal if they hold the same items. -/
theorem setEq_iff (lawful : LawfulIdentity isItem same) (ofLeft : Distinct same isItem left)
    (ofRight : Distinct same isItem right) :
    setEq same left right = true ↔ ∀ sought, isItem sought →
      left.parts.any (same sought) = right.parts.any (same sought) := by
  obtain ⟨items, rfl, areItems, unlike⟩ := ofLeft
  obtain ⟨others, rfl, areOthers, unlikeOthers⟩ := ofRight
  rw [setEq, Bool.and_eq_true, beq_iff_eq, List.all_eq_true]
  constructor
  · rintro ⟨lengths, listed⟩ sought isSought
    exact any_eq_of_matched lawful.toLawfulEquality areItems areOthers unlike
      (fun item mem => List.any_eq_true.1 (listed item mem)) lengths isSought
  · intro alike
    have lengths := length_eq_of_any lawful areItems areOthers unlike unlikeOthers alike
    refine ⟨lengths, fun item mem => ?_⟩
    exact List.any_eq_true.2 (matched_of_any lawful areItems alike item mem)

/-- Equality of sets without order is lawful if being the same is an identity for items. -/
theorem LawfulIdentity.set (lawful : LawfulIdentity isItem same) :
    LawfulEquality (Distinct same isItem) (setEq same) where
  symm isLeft isRight equal := by
    rw [setEq_iff lawful isLeft isRight] at equal
    rw [setEq_iff lawful isRight isLeft]
    exact fun sought isSought => (equal sought isSought).symm
  trans one two three left right := by
    rw [setEq_iff lawful one two] at left
    rw [setEq_iff lawful two three] at right
    rw [setEq_iff lawful one three]
    exact fun sought isSought => (left sought isSought).trans (right sought isSought)

/-- What a table holds under a key. -/
def underKey (same : Equality) (table sought : Value) : Option Value :=
  (table.parts.find? fun entry => same sought (key entry)).map entryValue

/-- The values of tables of which no two keys are the same. -/
abbrev Table (same : Equality) (isKey isValue : Value → Prop) : Value → Prop :=
  Collection (Entry isKey isValue) fun entries => (entries.map key).Pairwise (Unlike same)

/-- What is listed as the key of an entry is a key. -/
theorem isKey_of_mem {entries : List Value} (each : ∀ entry ∈ entries, Entry isKey isValue entry) :
    ∀ listed ∈ entries.map key, isKey listed := by
  intro listed mem
  obtain ⟨entry, among, rfl⟩ := List.mem_map.1 mem
  exact (parts_of_entry entry (each entry among)).1

/-- An entry is found by what is the same as its key. -/
theorem find?_of_mem (lawful : LawfulEquality isKey same) {entries : List Value}
    (each : ∀ entry ∈ entries, Entry isKey isValue entry)
    (unlike : (entries.map key).Pairwise (Unlike same)) {sought entry : Value}
    (isSought : isKey sought) (mem : entry ∈ entries) (alike : same sought (key entry) = true) :
    entries.find? (fun other => same sought (key other)) = some entry := by
  induction entries with
  | nil => contradiction
  | cons first rest ih =>
    rw [List.map_cons, List.pairwise_cons] at unlike
    obtain ⟨ofFirst, ofRest⟩ := List.forall_mem_cons.1 each
    rcases List.mem_cons.1 mem with rfl | later
    · exact List.find?_cons_of_pos alike
    · have isFirst := (parts_of_entry first ofFirst).1
      have isEntry := (parts_of_entry entry (ofRest entry later)).1
      have other : ¬ same sought (key first) = true := by
        intro alikeFirst
        have back := lawful.symm isSought isFirst alikeFirst
        have both := lawful.trans isFirst isSought isEntry back alike
        rw [(unlike.1 _ (List.mem_map_of_mem later)).1] at both
        contradiction
      rw [List.find?_cons_of_neg (by simpa using other)]
      exact ih ofRest unlike.2 later

/-- A table holds a value under a key if one of its entries has it under the same key. -/
theorem underKey_eq_some_iff (lawful : LawfulEquality isKey same)
    (table : Table same isKey isValue left) {sought value : Value} (isSought : isKey sought) :
    underKey same left sought = some value ↔
      ∃ entry ∈ left.parts, same sought (key entry) = true ∧ entryValue entry = value := by
  obtain ⟨entries, rfl, each, unlike⟩ := table
  rw [underKey, Option.map_eq_some_iff, Value.parts_compound]
  constructor
  · rintro ⟨entry, found, holds⟩
    exact ⟨entry, List.mem_of_find?_eq_some found, by simpa using List.find?_some found, holds⟩
  · rintro ⟨entry, mem, alike, holds⟩
    exact ⟨entry, find?_of_mem lawful each unlike isSought mem alike, holds⟩

/-- A table holds something under a key if the key is the same as one of its own. -/
theorem isSome_underKey (table sought : Value) :
    (underKey same table sought).isSome = (table.parts.map key).any (same sought) := by
  rw [underKey, Option.isSome_map, List.isSome_find?, List.any_map]
  rfl

/-- What a table holds is one of its values. -/
theorem isValue_of_underKey (table : Table same isKey isValue left) {sought value : Value}
    (found : underKey same left sought = some value) : isValue value := by
  obtain ⟨entries, rfl, each, _⟩ := table
  obtain ⟨entry, looked, rfl⟩ := Option.map_eq_some_iff.1 found
  exact (parts_of_entry entry (each entry (List.mem_of_find?_eq_some looked))).2

section Related

variable {α : Type} {some? other? last? : Option α} {related next outer : α → α → Prop}

/-- Of two related answers neither or both are there. -/
theorem isSome_eq_of_rel (both : Option.Rel related some? other?) :
    some?.isSome = other?.isSome := by
  cases both with
  | some => rfl
  | none => rfl

/-- Related answers are related the other way round if their values are. -/
theorem rel_swap (both : Option.Rel related some? other?)
    (swap : ∀ {value other}, some? = some value → other? = some other → related value other →
      next other value) : Option.Rel next other? some? := by
  cases both with
  | some holds => exact .some (swap rfl rfl holds)
  | none => exact .none

/-- Answers are related through a third if their values are. -/
theorem rel_comp (left : Option.Rel related some? other?) (right : Option.Rel next other? last?)
    (compose : ∀ {value other last}, some? = some value → other? = some other →
      last? = some last → related value other → next other last → outer value last) :
    Option.Rel outer some? last? := by
  cases left with
  | some first =>
    cases right with
    | some second => exact .some (compose rfl rfl rfl first second)
  | none =>
    cases right with
    | none => exact .none

end Related

/-- An entry of one table has an equal value under its key in another. -/
def EntryIn (same valueEq : Equality) (table entry : Value) : Prop :=
  ∃ value, underKey same table (key entry) = some value ∧
    valueEq (entryValue entry) value = true

/-- Tables are equal if there are as many entries, all with equal values in the other. -/
theorem mapEq_eq_true_iff :
    mapEq same valueEq left right = true ↔
      left.parts.length = right.parts.length ∧
        ∀ entry ∈ left.parts, EntryIn same valueEq right entry := by
  rw [mapEq, Bool.and_eq_true, beq_iff_eq, List.all_eq_true]
  refine and_congr_right fun _ => forall₂_congr fun entry _ => ?_
  unfold EntryIn underKey
  cases right.parts.find? fun other => same (key entry) (key other) with
  | none => simp
  | some other => simp

/-- A table holds the same under keys that are the same. -/
theorem underKey_of_same (lawful : LawfulEquality isKey same)
    (table : Table same isKey isValue left) {sought other : Value} (isSought : isKey sought)
    (isOther : isKey other) (alike : same sought other = true) :
    underKey same left sought = underKey same left other := by
  ext value
  rw [underKey_eq_some_iff lawful table isSought, underKey_eq_some_iff lawful table isOther]
  obtain ⟨entries, rfl, each, _⟩ := table
  refine exists_congr fun entry => and_congr_right fun mem => and_congr_left fun _ => ?_
  have isEntry := (parts_of_entry entry (each entry mem)).1
  exact ⟨lawful.trans isOther isSought isEntry (lawful.symm isSought isOther alike),
    lawful.trans isSought isOther isEntry alike⟩

/-- The keys of entries that another table has too are matched by its keys. -/
theorem matched_of_entryIn {entries others : List Value}
    (listed : ∀ entry ∈ entries, EntryIn same valueEq (.compound others) entry) :
    Matched same (entries.map key) (others.map key) := by
  intro shared mem
  obtain ⟨entry, among, rfl⟩ := List.mem_map.1 mem
  obtain ⟨value, found, _⟩ := listed entry among
  have present : (underKey same (.compound others) (key entry)).isSome = true := by
    rw [found, Option.isSome_some]
  rw [isSome_underKey] at present
  exact List.any_eq_true.1 present

/-- Tables without order that have as many entries, all of one with equal values in the other, hold
equal values under the same keys. -/
theorem rel_of_entryIn (lawful : LawfulEquality isKey same) (ofLeft : Table same isKey isValue left)
    (ofRight : Table same isKey isValue right)
    (lengths : left.parts.length = right.parts.length)
    (listed : ∀ entry ∈ left.parts, EntryIn same valueEq right entry) {sought : Value}
    (isSought : isKey sought) :
    Option.Rel (fun value other => valueEq value other = true)
      (underKey same left sought) (underKey same right sought) := by
  cases looked : underKey same left sought with
  | none =>
    obtain ⟨entries, rfl, each, unlike⟩ := ofLeft
    obtain ⟨others, rfl, eachOther, _⟩ := ofRight
    have alike := any_eq_of_matched lawful (isKey_of_mem each) (isKey_of_mem eachOther) unlike
      (matched_of_entryIn listed) (by simpa using lengths) isSought
    have absent : underKey same (.compound others) sought = none := by
      rw [← Option.not_isSome_iff_eq_none, isSome_underKey, Value.parts_compound, ← alike,
        ← Value.parts_compound entries, ← isSome_underKey, looked]
      exact Bool.false_ne_true
    rw [absent]
    exact .none
  | some value =>
    obtain ⟨entry, mem, alike, rfl⟩ := (underKey_eq_some_iff lawful ofLeft isSought).1 looked
    obtain ⟨other, found, equal⟩ := listed entry mem
    obtain ⟨entries, rfl, each, _⟩ := ofLeft
    have isEntry := (parts_of_entry entry (each entry mem)).1
    rw [underKey_of_same lawful ofRight isSought isEntry alike, found]
    exact .some equal

/-- Tables without order are equal if they hold equal values under the same keys. -/
theorem mapEq_iff (lawful : LawfulIdentity isKey same) (ofLeft : Table same isKey isValue left)
    (ofRight : Table same isKey isValue right) :
    mapEq same valueEq left right = true ↔ ∀ sought, isKey sought →
      Option.Rel (fun value other => valueEq value other = true)
        (underKey same left sought) (underKey same right sought) := by
  rw [mapEq_eq_true_iff]
  constructor
  · rintro ⟨lengths, listed⟩ sought isSought
    exact rel_of_entryIn lawful.toLawfulEquality ofLeft ofRight lengths listed isSought
  · intro related
    obtain ⟨entries, rfl, each, unlike⟩ := id ofLeft
    obtain ⟨others, rfl, eachOther, unlikeOthers⟩ := id ofRight
    have alike : ∀ sought, isKey sought →
        (entries.map key).any (same sought) = (others.map key).any (same sought) := by
      intro sought isSought
      have both := isSome_eq_of_rel (related sought isSought)
      rwa [isSome_underKey, isSome_underKey] at both
    have lengths := length_eq_of_any lawful (isKey_of_mem each) (isKey_of_mem eachOther) unlike
      unlikeOthers alike
    refine ⟨by simpa using lengths, fun entry mem => ?_⟩
    have isEntry := (parts_of_entry entry (each entry mem)).1
    have here := (underKey_eq_some_iff lawful.toLawfulEquality ofLeft isEntry).2
      ⟨entry, mem, lawful.refl isEntry, rfl⟩
    have both := related (key entry) isEntry
    rw [here] at both
    cases found : underKey same (.compound others) (key entry) with
    | none =>
      rw [found] at both
      cases both
    | some value =>
      rw [found] at both
      cases both with
      | some equal => exact ⟨value, found, equal⟩

/-- Equality of tables without order is lawful if being the same is an identity for keys and
equality of values is lawful. -/
theorem LawfulIdentity.table (ofKeys : LawfulIdentity isKey same)
    (lawful : LawfulEquality isValue valueEq) :
    LawfulEquality (Table same isKey isValue) (mapEq same valueEq) where
  symm {left right} isLeft isRight equal := by
    rw [mapEq_iff ofKeys isLeft isRight] at equal
    rw [mapEq_iff ofKeys isRight isLeft]
    refine fun sought isSought => rel_swap (equal sought isSought) fun ofLeft ofRight same => ?_
    exact lawful.symm (isValue_of_underKey isLeft ofLeft) (isValue_of_underKey isRight ofRight) same
  trans {one two three} isOne isTwo isThree left right := by
    rw [mapEq_iff ofKeys isOne isTwo] at left
    rw [mapEq_iff ofKeys isTwo isThree] at right
    rw [mapEq_iff ofKeys isOne isThree]
    refine fun sought isSought => rel_comp (left sought isSought) (right sought isSought)
      fun ofOne ofTwo ofThree => ?_
    exact lawful.trans (isValue_of_underKey isOne ofOne) (isValue_of_underKey isTwo ofTwo)
      (isValue_of_underKey isThree ofThree)

end Unordered

/-! ### Tables in another order -/

section Reordered

variable {isKey isValue : Value → Prop} {same : Equality} {entries others : List Value}

/-- A table is one in whatever order its entries are listed. -/
theorem table_of_perm (table : Table same isKey isValue (.compound entries))
    (perm : others.Perm entries) : Table same isKey isValue (.compound others) := by
  obtain ⟨_, same, each, unlike⟩ := table
  cases same
  exact ⟨others, rfl, fun entry mem => each entry (perm.mem_iff.1 mem),
    ((perm.map key).pairwise_iff And.symm).2 unlike⟩

/-- A table holds the same in whatever order its entries are listed. -/
theorem underKey_of_perm (lawful : LawfulEquality isKey same)
    (table : Table same isKey isValue (.compound entries)) (perm : others.Perm entries)
    {sought : Value} (isSought : isKey sought) :
    underKey same (.compound others) sought = underKey same (.compound entries) sought := by
  ext value
  rw [underKey_eq_some_iff lawful (table_of_perm table perm) isSought,
    underKey_eq_some_iff lawful table isSought]
  simp only [Value.parts_compound, perm.mem_iff]

end Reordered

end Reflection.Standard
