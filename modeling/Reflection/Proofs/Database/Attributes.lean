import Reflection.Proofs.Database.Homes

/-!
# Lookups of attributes

Attributes stand under the name of their type, one under each name, so what was attached last under
a name hides what was attached there before (`Types.find?_attachAll`). Whether there is an attribute
of a type is asked of the name alone, and so is which types a query selects; the attribute itself is
given only if it is of the type. These answers agree as long as no attribute of another type stands
under the name.
-/
namespace Reflection

namespace Types

variable (types : Types)

/-- The attributes after some values were attached one after another. -/
def attachAll (table : Attributes) (values : List Typed) : Attributes :=
  values.foldl (fun table value => table.insert (types.name value.type) value) table

/-- The value that was attached last under a name. -/
def latest? (values : List Typed) (name : String) : Option Typed :=
  values.reverse.find? fun value => types.name value.type = name

/-- Asked whether there is an attribute of a type, and asked for it, a table gives the same
answer. -/
def Agrees (table : Attributes) (type : Ty) : Prop :=
  types.hasAttribute table type = true ↔ (types.typedAttribute table type).isSome = true

variable {types} {table : Attributes} {values : List Typed} {name : String} {type : Ty}

/-- The last value is attached last. -/
theorem attachAll_concat (value : Typed) :
    types.attachAll table (values ++ [value]) =
      (types.attachAll table values).insert (types.name value.type) value := by
  simp [attachAll]

/-- Types that are named alike attach alike. -/
theorem attachAll_of_fixed {other : Types} (same : other.fixed = types.fixed) :
    other.attachAll = types.attachAll := by
  funext table values
  simp only [attachAll, Types.name, Types.record, same]

/-- The value attached last is found among the later ones, or it is the first. -/
theorem latest?_cons (first : Typed) (rest : List Typed) :
    types.latest? (first :: rest) name =
      (types.latest? rest name).or (if types.name first.type = name then some first else none) := by
  rw [latest?, List.reverse_cons, List.find?_append, ← latest?, List.find?_singleton]
  simp

/-- Under a name stands what was attached there last, and what stood there before if nothing
was. -/
theorem find?_attachAll :
    (types.attachAll table values).find? name =
      (types.latest? values name).or (table.find? name) := by
  induction values generalizing table with
  | nil => rfl
  | cons first rest ih =>
    have step : types.attachAll table (first :: rest) =
        types.attachAll (table.insert (types.name first.type) first) rest := rfl
    rw [step, ih, Dictionary.find?_insert, latest?_cons, Option.or_assoc]
    split <;> rfl

/-- A name was attached to if and only if some value of it was attached. -/
theorem isSome_latest?_iff :
    (types.latest? values name).isSome = true ↔
      ∃ value ∈ values, types.name value.type = name := by
  simp [latest?]

/-- What was attached last under the name of its own type is the last of that type. -/
theorem find?_type_of_latest? {value : Value}
    (last : types.latest? values (types.name type) = some ⟨type, value⟩) :
    values.reverse.find? (·.type = type) = some ⟨type, value⟩ := by
  obtain ⟨_, later, earlier, order, others⟩ := List.find?_eq_some_iff_append.1 last
  refine List.find?_eq_some_iff_append.2 ⟨by simp, later, earlier, order, fun other mem => ?_⟩
  have named := others other mem
  simp only [Bool.not_eq_true', decide_eq_false_iff_not] at named ⊢
  rintro rfl
  exact named rfl

/-- The answers about a type agree exactly if no value of another type stands under its name. -/
theorem agrees_iff :
    types.Agrees table type ↔
      ∀ value, table.find? (types.name type) = some value → value.type = type := by
  unfold Agrees hasAttribute Dictionary.contains
  cases found : table.find? (types.name type) with
  | none => simp [typedAttribute, found]
  | some value =>
    by_cases own : value.type = type
    · simp [typedAttribute, found, own]
    · simp [typedAttribute, found, own]

/-- What the lookups of a type tell of the values that were attached to an empty table. -/
structure Recalls (types : Types) (values : List Typed) (type : Ty) : Prop where
  /-- There is an attribute if something was attached under the name of the type. -/
  has : types.hasAttribute (types.attachAll .empty values) type = true ↔
    ∃ value ∈ values, types.name value.type = types.name type
  /-- It is given if what was attached last under this name is of the type. -/
  given : ∀ value, types.typedAttribute (types.attachAll .empty values) type = some value ↔
    types.latest? values (types.name type) = some ⟨type, value⟩
  /-- What is given is the last value of the type that was attached. -/
  last : ∀ value, types.typedAttribute (types.attachAll .empty values) type = some value →
    values.reverse.find? (·.type = type) = some ⟨type, value⟩
  /-- The answers agree exactly if nothing of another type was attached last under this name. -/
  agrees : types.Agrees (types.attachAll .empty values) type ↔
    ∀ value, types.latest? values (types.name type) = some value → value.type = type

/-- Lookups recall what was attached. -/
theorem recalls (types : Types) (values : List Typed) (type : Ty) :
    types.Recalls values type := by
  have stands : (types.attachAll .empty values).find? (types.name type) =
      types.latest? values (types.name type) := by
    rw [find?_attachAll, Dictionary.find?_empty, Option.or_none]
  constructor
  case has => rw [hasAttribute, Dictionary.contains, stands, isSome_latest?_iff]
  case given => exact fun value => by rw [typedAttribute_eq_some_iff, stands]
  case last =>
    intro value found
    rw [typedAttribute_eq_some_iff, stands] at found
    exact find?_type_of_latest? found
  case agrees => rw [agrees_iff, stands]

end Types

namespace Store

variable {store : Store}

/-- Every type has the attributes it is described with and those attached to it since. -/
def Attached (store : Store) : Prop :=
  ∀ type, ∃ values, (store.types.members type).attributes =
    store.types.attachAll (store.types.fixed.described type).attributes values

/-- Nothing is attached at first. -/
theorem attached_fresh (fixed : Universe) : (fresh fixed).Attached := fun _ => ⟨[], rfl⟩

/-- A registration attaches at most one value more, and a reset begins anew. -/
theorem keeps_attached (database : String) : Keeps Attached database where
  register store type attached := by
    have types : (store.setScope database ((store.scope database).register type).value).types =
        store.types := Scope.types_register
    rw [Attached, types]
    exact attached
  apply store factory link attached := by
    intro type
    obtain ⟨_, _, fixed, _⟩ := Scope.apply_frame (store.scope database) factory link
    obtain ⟨values, before⟩ := attached type
    simp only [setScope, fixed, Types.attachAll_of_fixed fixed]
    rcases Scope.apply_attributes (store.scope database) factory link with
      ⟨_, _, kept⟩ | ⟨value, _, _, gained⟩
    · exact ⟨values, (kept type).trans before⟩
    · rw [gained]
      split
      · refine ⟨values ++ [value], ?_⟩
        rw [Types.attachAll_concat, scope, before]
      · exact ⟨values, before⟩
  reset store other name attached := by
    intro type
    have fixed : (store.reset other name).value.2.types.fixed = store.types.fixed :=
      fixed_reset store other name
    rw [fixed, Types.attachAll_of_fixed fixed]
    rcases members_reset_or type with same | same
    · rw [same]
      exact attached type
    · rw [same]
      exact ⟨[], rfl⟩

end Store

/-- Where lookups of attributes agree, whatever is done through any number of databases to types
that begin as they are described. For all values attached to a table one after another, among them
values of types that share a name, and every type: the table has an attribute of the type if any
value was attached under its name, gives it if the last of these is of the type, and gives the last
value of the type that was attached. Every type carries what it was described with and what was
attached to it since, and gives each attribute that it has exactly if no attribute of another type
of that name stands in its place. If it is registered through one database alone, a query there for
an attribute selects it exactly if it has the attribute. -/
theorem attribute_lookups_agree_iff (fixed : Universe)
    (history : List (String × DatabaseOperation)) :
    let store := (Store.fresh fixed).afterAll history
    (∀ values type, store.types.Recalls values type) ∧
    ∀ carrier,
      let table := (store.types.members carrier).attributes
      (∃ values, table = store.types.attachAll (fixed.described carrier).attributes values) ∧
      (∀ type, store.types.Agrees table type ↔
        ∀ value, table.find? (store.types.name type) = some value → value.type = type) ∧
      ∀ home, (∀ step ∈ history, step.2.Opens carrier → step.1 = home) →
        (store.scope home).Holds carrier →
          ∀ type, carrier ∈ (Query.ofFilters (store.scope home)
              [.carries (store.types.name type)]).types (store.scope home) ↔
            store.types.hasAttribute table type = true := by
  intro store
  refine ⟨store.types.recalls, fun carrier => ?_⟩
  intro table
  have reached : Store.Reachable fixed store := Store.Reachable.fresh.afterAll history
  have attached : store.Attached := reached.keeps Store.keeps_attached (Store.attached_fresh fixed)
  refine ⟨reached.fixed ▸ attached carrier, fun _ => Types.agrees_iff, ?_⟩
  intro home own held type
  have homed : store.Homed home carrier :=
    (Store.Homed.fresh fixed home carrier).afterAll history own
  have selected := Store.mem_query_of_listsExactly homed.listed (reached.searchable home)
    (store.types.name type)
  exact selected.trans (and_iff_right held)

/-- Lookups of a type are misled by its twin. A type carries a mark of the twin alone: asked for a
mark of the other type of that name, its record has one, the query selects it, and there is none to
be given. -/
theorem twin_mistaken_for_plain :
    let store := (Store.fresh Store.twinUniverse).afterAll
      [("main", .reflect (.named "Rich") [.register (.attach ⟨.named "Twin", .unit⟩)])]
    let scope := store.scope "main"
    let table := (scope.types.members (.named "Rich")).attributes
    table = scope.types.attachAll .empty [⟨.named "Twin", .unit⟩] ∧
      scope.types.hasAttribute table (.named "Plain") = true ∧
      (Query.ofFilters scope [.carries (scope.types.name (.named "Plain"))]).types scope =
        [.named "Rich"] ∧
      scope.types.typedAttribute table (.named "Plain") = none ∧
      ¬scope.types.Agrees table (.named "Plain") := by
  intro store scope table
  have has : scope.types.hasAttribute table (.named "Plain") = true := rfl
  have missing : scope.types.typedAttribute table (.named "Plain") = none := rfl
  refine ⟨rfl, has, rfl, missing, fun agrees => ?_⟩
  have given := agrees.1 has
  rw [missing] at given
  contradiction

end Reflection
