/-!
# Dictionaries

A dictionary is a finite map from names whose entries stand in name order, so that listing it
is deterministic and two dictionaries that answer every lookup alike are equal
(`Dictionary.ext_find?`). Names compare by code point. Each update comes with the law that says
what every later lookup answers.
-/
namespace Reflection

/-- A finite map from names, listed in name order. -/
structure Dictionary (α : Type) where
  /-- The entries, each name at most once and in ascending order. -/
  entries : List (String × α)
  /-- Names ascend strictly. -/
  sorted : entries.Pairwise (fun left right => left.1 < right.1)

namespace Dictionary

variable {α β : Type}

/-- The dictionary without entries. -/
def empty : Dictionary α := ⟨[], .nil⟩

instance : Inhabited (Dictionary α) := ⟨empty⟩

instance : EmptyCollection (Dictionary α) := ⟨empty⟩

instance [DecidableEq α] : DecidableEq (Dictionary α) := fun left right =>
  decidable_of_iff (left.entries = right.entries) (by
    cases left; cases right; simp)

/-- What an entry list holds under a name. -/
def lookup (name : String) : List (String × α) → Option α
  | [] => none
  | (key, value) :: rest => if key = name then some value else lookup name rest

/-- Put a value under a name in an ordered entry list, replacing what was there. -/
def place (name : String) (value : α) : List (String × α) → List (String × α)
  | [] => [(name, value)]
  | (key, old) :: rest =>
    if name < key then (name, value) :: (key, old) :: rest
    else if name = key then (name, value) :: rest
    else (key, old) :: place name value rest

/-- An entry of a list with one more placed is the new one or was there before. -/
theorem mem_place {name : String} {value : α} {entries : List (String × α)}
    {entry : String × α} (mem : entry ∈ place name value entries) :
    entry = (name, value) ∨ entry ∈ entries := by
  induction entries with
  | nil => simpa [place] using mem
  | cons head rest ih =>
    obtain ⟨key, old⟩ := head
    simp only [place] at mem
    split at mem
    · simpa using mem
    · split at mem
      · simp only [List.mem_cons] at mem ⊢
        rcases mem with same | later
        · exact .inl same
        · exact .inr (.inr later)
      · simp only [List.mem_cons] at mem ⊢
        rcases mem with same | later
        · exact .inr (.inl same)
        · rcases ih later with found | found
          · exact .inl found
          · exact .inr (.inr found)

/-- Placing an entry keeps the order of names. -/
theorem place_sorted {name : String} {value : α} {entries : List (String × α)}
    (sorted : entries.Pairwise (fun left right => left.1 < right.1)) :
    (place name value entries).Pairwise (fun left right => left.1 < right.1) := by
  induction entries with
  | nil => simp [place]
  | cons head rest ih =>
    obtain ⟨key, old⟩ := head
    rw [List.pairwise_cons] at sorted
    simp only [place]
    split
    · rename_i before
      refine List.pairwise_cons.2 ⟨?_, List.pairwise_cons.2 sorted⟩
      intro entry mem
      rcases List.mem_cons.1 mem with rfl | later
      · exact before
      · exact String.lt_trans before (sorted.1 entry later)
    · split
      · rename_i same
        subst same
        exact List.pairwise_cons.2 ⟨sorted.1, sorted.2⟩
      · rename_i notBefore different
        refine List.pairwise_cons.2 ⟨?_, ih sorted.2⟩
        intro entry mem
        rcases mem_place mem with rfl | later
        · rcases Std.lt_trichotomy name key with lower | same | higher
          · exact absurd lower notBefore
          · exact absurd same different
          · exact higher
        · exact sorted.1 entry later

/-- The value under a name. -/
def find? (dictionary : Dictionary α) (name : String) : Option α :=
  lookup name dictionary.entries

/-- Whether a name has an entry. -/
def contains (dictionary : Dictionary α) (name : String) : Bool :=
  (dictionary.find? name).isSome

/-- Put a value under a name, replacing what was there. -/
def insert (dictionary : Dictionary α) (name : String) (value : α) : Dictionary α :=
  ⟨place name value dictionary.entries, place_sorted dictionary.sorted⟩

/-- Remove the entry of a name. -/
def erase (dictionary : Dictionary α) (name : String) : Dictionary α :=
  ⟨dictionary.entries.filter (fun entry => entry.1 ≠ name),
    dictionary.sorted.sublist List.filter_sublist⟩

/-- Keep the entries a test accepts. -/
def filter (dictionary : Dictionary α) (keep : String → α → Bool) : Dictionary α :=
  ⟨dictionary.entries.filter (fun entry => keep entry.1 entry.2),
    dictionary.sorted.sublist List.filter_sublist⟩

/-- Change every value, keeping the names. -/
def mapValues (dictionary : Dictionary α) (change : α → β) : Dictionary β :=
  ⟨dictionary.entries.map (fun entry => (entry.1, change entry.2)),
    List.pairwise_map.2 dictionary.sorted⟩

/-- Change the value under a name, if it has one. -/
def modify (dictionary : Dictionary α) (name : String) (change : α → α) : Dictionary α :=
  match dictionary.find? name with
  | some value => dictionary.insert name (change value)
  | none => dictionary

/-- The names in order. -/
def names (dictionary : Dictionary α) : List String := dictionary.entries.map (·.1)

/-- The values in the order of their names. -/
def values (dictionary : Dictionary α) : List α := dictionary.entries.map (·.2)

/-- The number of entries. -/
def size (dictionary : Dictionary α) : Nat := dictionary.entries.length

/-- Whether there is no entry. -/
def isEmpty (dictionary : Dictionary α) : Bool := dictionary.entries.isEmpty

/-- Put the entries of a list in turn; of two under one name the later stays. -/
def insertAll (dictionary : Dictionary α) (entries : List (String × α)) : Dictionary α :=
  entries.foldl (fun partialResult entry => partialResult.insert entry.1 entry.2) dictionary

/-- The dictionary of a list; of two entries under one name the later stays. -/
def ofList (entries : List (String × α)) : Dictionary α := empty.insertAll entries

/-- What an entry list answers once one more entry is placed. -/
theorem lookup_place (name other : String) (value : α) (entries : List (String × α)) :
    lookup other (place name value entries) =
      if name = other then some value else lookup other entries := by
  induction entries with
  | nil => simp [place, lookup]
  | cons head rest ih =>
    obtain ⟨key, old⟩ := head
    simp only [place]
    split
    · simp [lookup]
    · split
      · rename_i same
        subst same
        simp only [lookup]
        split <;> simp_all
      · rename_i different
        simp only [lookup, ih]
        by_cases first : key = other
        · subst first
          simp [different]
        · simp [first]

/-- The empty dictionary answers nothing. -/
@[simp] theorem find?_empty (name : String) : (empty : Dictionary α).find? name = none := rfl

/-- An inserted value is found under its name, and every other name answers as before. -/
theorem find?_insert (dictionary : Dictionary α) (name other : String) (value : α) :
    (dictionary.insert name value).find? other =
      if name = other then some value else dictionary.find? other :=
  lookup_place name other value dictionary.entries

/-- An inserted value is found under its name. -/
@[simp] theorem find?_insert_self (dictionary : Dictionary α) (name : String) (value : α) :
    (dictionary.insert name value).find? name = some value := by
  simp [find?_insert]

/-- Inserting leaves every other name alone. -/
theorem find?_insert_of_ne (dictionary : Dictionary α) {name other : String} (value : α)
    (different : name ≠ other) :
    (dictionary.insert name value).find? other = dictionary.find? other := by
  simp [find?_insert, different]

/-- What an entry list answers once the entries a test rejects by name are gone. -/
theorem lookup_filter_name (keep : String → Bool) (other : String)
    (entries : List (String × α)) :
    lookup other (entries.filter (fun entry => keep entry.1)) =
      if keep other then lookup other entries else none := by
  induction entries with
  | nil => simp [lookup]
  | cons head rest ih =>
    obtain ⟨key, value⟩ := head
    by_cases kept : keep key
    · simp only [List.filter_cons, kept, if_true, lookup, ih]
      by_cases first : key = other
      · subst first
        simp [kept]
      · simp [first]
    · have dropped : keep key = false := by simpa using kept
      simp only [List.filter_cons, dropped, lookup]
      by_cases first : key = other
      · subst first
        simp [ih, dropped]
      · simp [ih, first]

/-- A removed name answers nothing, and every other name answers as before. -/
theorem find?_erase (dictionary : Dictionary α) (name other : String) :
    (dictionary.erase name).find? other =
      if name = other then none else dictionary.find? other := by
  have law := lookup_filter_name (α := α) (fun key => decide (key ≠ name)) other
    dictionary.entries
  simp only [find?, erase]
  rw [law]
  by_cases same : name = other
  · subst same
    simp
  · simp [same, Ne.symm same]

/-- Mapping the values maps every answer. -/
@[simp] theorem find?_mapValues (dictionary : Dictionary α) (change : α → β) (name : String) :
    (dictionary.mapValues change).find? name = (dictionary.find? name).map change := by
  obtain ⟨entries, sorted⟩ := dictionary
  simp only [find?, mapValues]
  clear sorted
  induction entries with
  | nil => rfl
  | cons head rest ih =>
    obtain ⟨key, value⟩ := head
    simp only [List.map_cons, lookup, ih]
    split <;> rfl

/-- Changing the value under a name changes that answer alone. -/
theorem find?_modify (dictionary : Dictionary α) (name other : String) (change : α → α) :
    (dictionary.modify name change).find? other =
      if name = other then (dictionary.find? other).map change else dictionary.find? other := by
  unfold modify
  split
  · rename_i value found
    rw [find?_insert]
    split
    · rename_i same
      subst same
      simp [found]
    · rfl
  · rename_i missing
    split
    · rename_i same
      subst same
      simp [missing]
    · rfl

/-- An entry of an ordered list is what its name answers. -/
theorem lookup_eq_some_iff {name : String} {value : α} {entries : List (String × α)}
    (sorted : entries.Pairwise (fun left right => left.1 < right.1)) :
    lookup name entries = some value ↔ (name, value) ∈ entries := by
  induction entries with
  | nil => simp [lookup]
  | cons head rest ih =>
    obtain ⟨key, old⟩ := head
    rw [List.pairwise_cons] at sorted
    simp only [lookup, List.mem_cons, Prod.mk.injEq]
    by_cases first : key = name
    · subst first
      simp only [if_true, Option.some.injEq, true_and]
      constructor
      · intro same
        exact .inl same.symm
      · rintro (same | later)
        · exact same.symm
        · exact absurd (sorted.1 _ later) (String.lt_irrefl key)
    · rw [if_neg first, ih sorted.2]
      constructor
      · exact .inr
      · rintro (⟨same, _⟩ | later)
        · exact absurd same.symm first
        · exact later

/-- A dictionary answers a value exactly when it lists it under that name. -/
theorem find?_eq_some_iff {dictionary : Dictionary α} {name : String} {value : α} :
    dictionary.find? name = some value ↔ (name, value) ∈ dictionary.entries :=
  lookup_eq_some_iff dictionary.sorted

/-- What an entry answers is kept exactly if the test accepts it. -/
theorem find?_filter (dictionary : Dictionary α) (keep : String → α → Bool) (name : String) :
    (dictionary.filter keep).find? name = (dictionary.find? name).filter (keep name) := by
  ext value
  rw [find?_eq_some_iff, Option.filter_eq_some_iff, find?_eq_some_iff]
  exact List.mem_filter

/-- A name is listed exactly when it has an entry. -/
theorem mem_names_iff {dictionary : Dictionary α} {name : String} :
    name ∈ dictionary.names ↔ dictionary.contains name = true := by
  simp only [names, List.mem_map, contains, Option.isSome_iff_exists, find?_eq_some_iff]
  constructor
  · rintro ⟨⟨_, value⟩, mem, rfl⟩
    exact ⟨value, mem⟩
  · rintro ⟨value, mem⟩
    exact ⟨(name, value), mem, rfl⟩

/-- A value is listed exactly when some name answers it. -/
theorem mem_values_iff {dictionary : Dictionary α} {value : α} :
    value ∈ dictionary.values ↔ ∃ name, dictionary.find? name = some value := by
  simp only [values, List.mem_map, find?_eq_some_iff]
  constructor
  · rintro ⟨⟨name, _⟩, mem, rfl⟩
    exact ⟨name, mem⟩
  · rintro ⟨name, mem⟩
    exact ⟨(name, value), mem, rfl⟩

/-- No name is listed twice. -/
theorem names_nodup (dictionary : Dictionary α) : dictionary.names.Nodup := by
  refine List.pairwise_map.2 (dictionary.sorted.imp ?_)
  intro left right before same
  exact String.lt_irrefl right.1 (same ▸ before)

/-- An entry list answers nothing for the names it does not list. -/
theorem lookup_eq_none_iff {name : String} {entries : List (String × α)} :
    lookup name entries = none ↔ name ∉ entries.map (·.1) := by
  induction entries with
  | nil => simp [lookup]
  | cons head rest ih =>
    obtain ⟨key, value⟩ := head
    by_cases first : key = name
    · simp [lookup, first]
    · simp [lookup, first, Ne.symm first, ih]

/-- Entries put in turn, no name twice, answer first, and every other name answers as before. -/
theorem find?_insertAll {entries : List (String × α)} (distinct : (entries.map (·.1)).Nodup)
    (dictionary : Dictionary α) (name : String) :
    (dictionary.insertAll entries).find? name =
      (lookup name entries).or (dictionary.find? name) := by
  induction entries generalizing dictionary with
  | nil => simp [insertAll, lookup]
  | cons head rest ih =>
    obtain ⟨key, value⟩ := head
    rw [List.map_cons, List.nodup_cons] at distinct
    have step : (dictionary.insertAll ((key, value) :: rest)).find? name =
        (lookup name rest).or ((dictionary.insert key value).find? name) :=
      ih distinct.2 (dictionary.insert key value)
    rw [step, find?_insert]
    by_cases first : key = name
    · subst first
      simp [lookup, lookup_eq_none_iff.2 distinct.1]
    · simp [lookup, first]

/-- Two ordered entry lists with the same answers are equal. -/
theorem entries_ext : {left right : List (String × α)} →
    left.Pairwise (fun first second => first.1 < second.1) →
    right.Pairwise (fun first second => first.1 < second.1) →
    (∀ name, lookup name left = lookup name right) → left = right
  | [], [], _, _, _ => rfl
  | [], (key, value) :: _, _, _, same => by simpa [lookup] using same key
  | (key, value) :: _, [], _, _, same => by simpa [lookup] using same key
  | (leftKey, leftValue) :: leftRest, (rightKey, rightValue) :: rightRest, leftSorted,
      rightSorted, same => by
    rw [List.pairwise_cons] at leftSorted rightSorted
    have keys : leftKey = rightKey := by
      rcases Std.lt_trichotomy leftKey rightKey with lower | equal | higher
      · have answer := same leftKey
        simp only [lookup, if_true] at answer
        rw [if_neg (by rintro rfl; exact String.lt_irrefl _ lower)] at answer
        have mem := (lookup_eq_some_iff rightSorted.2).1 answer.symm
        exact absurd (String.lt_trans lower (rightSorted.1 _ mem)) (String.lt_irrefl _)
      · exact equal
      · have answer := same rightKey
        simp only [lookup, if_true] at answer
        rw [if_neg (by rintro rfl; exact String.lt_irrefl _ higher)] at answer
        have mem := (lookup_eq_some_iff leftSorted.2).1 answer
        exact absurd (String.lt_trans higher (leftSorted.1 _ mem)) (String.lt_irrefl _)
    subst keys
    have heads : leftValue = rightValue := by simpa [lookup] using same leftKey
    subst heads
    have rests : leftRest = rightRest := by
      refine entries_ext leftSorted.2 rightSorted.2 fun name => ?_
      by_cases first : leftKey = name
      · subst first
        have none_of : {rest : List (String × α)} → (∀ entry ∈ rest, leftKey < entry.1) →
            lookup leftKey rest = none := by
          intro rest above
          induction rest with
          | nil => rfl
          | cons head tail ih =>
            obtain ⟨key, value⟩ := head
            have below := above (key, value) List.mem_cons_self
            simp only [lookup]
            rw [if_neg (by rintro rfl; exact String.lt_irrefl _ below)]
            exact ih fun entry mem => above entry (List.mem_cons_of_mem _ mem)
        rw [none_of leftSorted.1, none_of rightSorted.1]
      · simpa [lookup, first] using same name
    rw [rests]

/-- Two dictionaries with the same answers are equal. -/
theorem ext_find? {left right : Dictionary α}
    (same : ∀ name, left.find? name = right.find? name) : left = right := by
  obtain ⟨leftEntries, leftSorted⟩ := left
  obtain ⟨rightEntries, rightSorted⟩ := right
  have equal := entries_ext leftSorted rightSorted same
  subst equal
  rfl

/-- Inserting what a name is bound to changes nothing. -/
theorem insert_of_find? {dictionary : Dictionary α} {name : String} {value : α}
    (bound : dictionary.find? name = some value) : dictionary.insert name value = dictionary := by
  refine ext_find? fun other => ?_
  by_cases same : name = other
  · rw [← same, find?_insert_self, bound]
  · exact find?_insert_of_ne _ _ same

/-- Values that are left alone leave the dictionary as it is. -/
theorem mapValues_id (dictionary : Dictionary α) : dictionary.mapValues id = dictionary := by
  refine ext_find? fun name => ?_
  rw [find?_mapValues, Option.map_id]
  rfl

end Dictionary

end Reflection
