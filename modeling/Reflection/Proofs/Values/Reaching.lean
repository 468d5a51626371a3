import Reflection.Proofs.Access.Const
import Reflection.Proofs.Access.Parents
import Reflection.Proofs.Access.Update
import Reflection.Proofs.Values.Sound

/-!
# What accessors reach is typed

Whatever an accessor borrows from a value lies at a place that the value's type contains, and if it
is borrowed mutably it can be replaced there by any value of its own type. Since containment
composes, the same holds at the end of every chain. Items of sets and keys of tables are contained
but cannot be replaced, and no accessor borrows them mutably.
-/
namespace Reflection

variable {meaning : Meaning} {types : Types}

/-! ### Single accessors -/

namespace Types.Sound

variable {type target : Ty} {place : Path}

/-- Every value of a type has the part that a way along parents lands on. -/
theorem projects_of_leads (sound : types.Sound meaning) {way : List Parent}
    (leads : types.Leads type target way) : meaning.Projects type (landing way) target := by
  induction way generalizing type with
  | nil =>
    have same : type = target := leads_nil.1 leads
    rw [← same]
    exact .self meaning type
  | cons parent rest ih =>
    obtain ⟨_, declared, later⟩ := leads_cons.1 leads
    exact ((sound.members type).parents parent declared).trans (ih later)

/-- Every value of a type has the part that a cast finds. -/
theorem projects_of_cast (sound : types.Sound meaning)
    (found : (types.cast type target).value = .found place) :
    meaning.Projects type place target := by
  have one : types.ancestors type target = {place} := cast_eq_iff.1 found
  have reached : place ∈ types.ancestors type target := by
    rw [one]
    exact Set.mem_singleton place
  obtain ⟨way, leads, _, lands⟩ := reached
  rw [← lands]
  exact sound.projects_of_leads leads

end Types.Sound

/-- A parent that is found is of the type that was looked for. -/
theorem Typed.type_of_parent {content : Typed} {type target : Ty} {path : Path}
    (found : content.selected types (.parent target) = some (path, type)) : type = target := by
  cases cast : (types.cast content.type target).value with
  | found place =>
    simp only [Typed.selected, cast] at found
    cases found
    rfl
  | missing => simp [Typed.selected, cast] at found
  | ambiguous count => simp [Typed.selected, cast] at found

/-- Whether what a selector finds in values of a type may be replaced: items and values of entries
as the shape of the type says, keys never, and everything else always. -/
def Selector.Replaces (types : Types) (type : Ty) : Selector → Prop
  | .whole | .parent _ | .field _ => True
  | .item _ | .walked _ | .visited _ => (types.record type).range.any (·.writable) = true
  | .keyed _ | .entryValue _ => (types.record type).table.any (·.writable) = true
  | .entryKey _ => False

namespace Types.Sound

variable {content : Typed} {path : Path} {type : Ty}

/-- A type contains the items of its range. -/
theorem contains_of_ranged (sound : types.Sound meaning) {selector : Selector}
    (found : ((types.record content.type).range.bind fun shape =>
      (content.rangeView shape).selected selector) = some (path, type)) :
    meaning.Contains content.type path type
      ((types.record content.type).range.any (·.writable) = true) := by
  obtain ⟨shape, shaped, chosen⟩ := Option.bind_eq_some_iff.1 found
  obtain ⟨index, lies, typed⟩ := RangeView.exists_of_selected chosen
  rw [shaped, lies, typed]
  exact (sound.fixed.record content.type).items shape shaped index

/-- A type contains the keys and the values of its table, which can be replaced if they are no
keys. -/
theorem contains_of_tabled (sound : types.Sound meaning) {selector : Selector}
    (found : ((types.record content.type).table.bind fun shape =>
      (content.tableView shape).selected types selector) = some (path, type)) :
    meaning.Contains content.type path type
      ((∀ index, selector ≠ .entryKey index) ∧
        (types.record content.type).table.any (·.writable) = true) := by
  obtain ⟨shape, shaped, chosen⟩ := Option.bind_eq_some_iff.1 found
  have record := sound.fixed.record content.type
  obtain ⟨index, ⟨⟨position, keyed⟩, lies, typed⟩ | ⟨lies, typed⟩⟩ :=
    TableView.exists_of_selected chosen
  · have key := record.keys shape shaped index
    rw [lies, typed]
    exact key.mono fun allowed => allowed.1 position keyed
  · have value := record.values shape shaped index
    rw [shaped, lies, typed]
    exact value.mono fun allowed => allowed.2

/-- A type contains what a selector finds in its values. -/
theorem contains_of_selected (sound : types.Sound meaning) {selector : Selector}
    (found : content.selected types selector = some (path, type)) :
    meaning.Contains content.type path type (selector.Replaces types content.type) := by
  cases selector with
  | whole =>
    cases found
    exact .self meaning content.type True
  | parent target =>
    cases cast : (types.cast content.type target).value with
    | found place =>
      simp only [Typed.selected, cast] at found
      cases found
      exact (sound.projects_of_cast cast).contains
    | missing => simp [Typed.selected, cast] at found
    | ambiguous count => simp [Typed.selected, cast] at found
  | field index =>
    obtain ⟨field, listed, same⟩ := Option.map_eq_some_iff.1 found
    cases same
    exact (sound.fixed.record content.type).fields field (List.mem_of_getElem? listed)
  | item index | walked steps | visited ends => exact sound.contains_of_ranged found
  | keyed key | entryValue index =>
    have contains := sound.contains_of_tabled found
    exact contains.mono fun writable => ⟨fun _ same => Selector.noConfusion same, writable⟩
  | entryKey index =>
    have contains := sound.contains_of_tabled found
    exact contains.mono False.elim

end Types.Sound

/-- What an accessor borrows mutably may be replaced. -/
theorem Any.replaces_of_access {access : Access} {content : Typed} {accessor : Accessor}
    {part : Part}
    (given : ((Any.held access content).access types accessor).outcome = .ok (some part))
    (mutably : part.exclusive = true) : accessor.selector.Replaces types content.type := by
  obtain ⟨permitted, _, flag⟩ := Any.access_eq_some_iff.1 given
  rw [mutably] at flag
  have mutable : accessor.isMutable = true := (Bool.and_eq_true_iff.1 flag.symm).1
  cases accessor with
  | exclusive | asTypeMut target | fieldMut index const => trivial
  | itemMut index const | walkMut steps const | visitMut ends const => exact (permitted.2 rfl).2
  | valueMut key const | findMut key const | entryValueMut index const =>
    exact (permitted.2 rfl).2
  | _ => contradiction

/-- A type contains what an accessor borrows from its values; what is borrowed mutably can be
replaced. -/
theorem Types.Sound.contains_of_access (sound : types.Sound meaning) {access : Access}
    {content : Typed} {accessor : Accessor} {part : Part}
    (given : ((Any.held access content).access types accessor).outcome = .ok (some part)) :
    meaning.Contains content.type part.path part.type (part.exclusive = true) := by
  have found := (Any.access_eq_some_iff.1 given).2.1
  exact (sound.contains_of_selected found).mono (Any.replaces_of_access given)

/-! ### Chains -/

namespace Place

variable {access last : Access} {content target : Typed} {base path : Path} {place : Place}
  {route : List Accessor}

/-- A chain that leads from a value to another follows a path along which the first one's type
contains the other's; what is not reached const can be replaced. -/
theorem contains_of_follow (sound : types.Sound meaning)
    (reached : ((Place.mk (.held access content) base).follow types route).outcome =
      .ok ⟨.held last target, path⟩) :
    ∃ along, path = base ++ along ∧ content.value.part? along = some target.value ∧
      meaning.Contains content.type along target.type (last ≠ .shared) := by
  induction route generalizing access content base with
  | nil =>
    simp only [follow, Fallible.outcome_pure, Except.ok.injEq, Place.mk.injEq, Any.held.injEq]
      at reached
    obtain ⟨⟨_, rfl⟩, rfl⟩ := reached
    exact ⟨[], by simp, by simp, .self meaning content.type _⟩
  | cons accessor rest ih =>
    obtain ⟨part, value, given, within, later⟩ := follow_cons_iff.1 reached
    obtain ⟨along, rfl, inside, contains⟩ := ih later
    refine ⟨part.path ++ along, by simp, ?_, ?_⟩
    · rw [Value.part?_append, within]
      exact inside
    · have first := sound.contains_of_access given
      -- What ends up writable was entered writable, so every accessor on the way borrowed mutably.
      refine (first.trans contains).mono fun writable => ⟨?_, writable⟩
      have entered := (hasDataMut_of_follow later (by simpa using writable)).1
      have borrowed : ((Any.held access content).borrow part).hasDataMut = true := by
        rw [Any.borrow_eq within]
        exact entered
      exact Any.exclusive_of_hasDataMut_borrow borrowed

/-- What a chain leads to from a value of its type is one of its own type. -/
theorem sound_of_follow (sound : types.Sound meaning) {start : Any} (typed : start.Sound meaning)
    (reached : ((Place.mk start base).follow types route).outcome = .ok place) :
    place.any.Sound meaning := by
  obtain ⟨any, path⟩ := place
  cases any with
  | empty => trivial
  | held last target =>
    cases start with
    | empty => exact absurd (follow_empty reached) (by simp)
    | held access content =>
      obtain ⟨along, _, inside, contains⟩ := contains_of_follow sound reached
      exact contains.reads content.value target.value typed inside

/-- Nothing that is reached through a part that cannot be replaced can be written. -/
theorem unwritable_of_follow {accessor : Accessor} {back : List Accessor}
    (kept : ¬ accessor.selector.Replaces types content.type)
    (reached : ((Place.mk (.held access content) base).follow types
      (accessor :: back)).outcome = .ok place) :
    place.any.hasDataMut = false := by
  refine Bool.eq_false_iff.2 fun writable => ?_
  obtain ⟨found, given, later⟩ := outcome_follow_cons.1 reached
  cases found with
  | none =>
    rw [follow_empty later] at writable
    contradiction
  | some part =>
    have entered : ((Any.held access content).borrow part).hasDataMut = true :=
      (hasDataMut_of_follow later writable).1
    have mutably := Any.exclusive_of_hasDataMut_borrow entered
    exact kept (Any.replaces_of_access given mutably)

end Place

/-! ### Items of sets and keys of tables -/

/-- Whether an accessor takes an item of a set or the key of an entry from values of a type. -/
def Accessor.PicksKey (type : Ty) (accessor : Accessor) : Prop :=
  match accessor.selector with
  | .entryKey _ => True
  | .item _ | .walked _ | .visited _ => ∃ item, type = .hashSet item ∨ type = .orderedSet item
  | _ => False

/-- Items of sets and keys of tables are never replaced. -/
theorem Standard.not_replaces_of_picksKey {describe : String → Standard.Description} {type : Ty}
    {accessor : Accessor} (fixed : types.fixed = Standard.universeOf describe)
    (picks : accessor.PicksKey type) : ¬ accessor.selector.Replaces types type := by
  unfold Accessor.PicksKey at picks
  cases chosen : accessor.selector with
  | entryKey index => exact id
  | item index | walked steps | visited ends =>
    rw [chosen] at picks
    obtain ⟨item, rfl | rfl⟩ := picks
    · simp [Selector.Replaces, Types.record, fixed, universeOf, record, rangeShape]
    · simp [Selector.Replaces, Types.record, fixed, universeOf, record, rangeShape]
  | whole | parent target | field index | keyed key | entryValue index =>
    rw [chosen] at picks
    exact False.elim picks

end Reflection
