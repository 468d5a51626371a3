import Mathlib.Logic.Relation
import Reflection.Mutation
import Reflection.Proofs.Values.Operations

/-!
# Stores keep slots typed

What an operation changes of a value in a slot it changes by a store (`Slots.Stores`): at a place
that the type of the slot's value contains, what is there is overwritten by a value of its own type.
Stores keep every slot typed. Every way to change the value at a location is such a store or changes
nothing; a walk over mutable items and the entries of a table are stores one after another; and so
is what a call gives back to the slots it borrowed from.
-/
namespace Reflection

variable {meaning : Meaning} {types : Types}

namespace Slots

/-- Whether every slot is empty or holds a value of the type its record names. -/
def Sound (meaning : Meaning) (slots : Slots) : Prop := ∀ name, (slots.holding name).Sound meaning

/-- Whether slots differ by one store: what lies at a path in the value of a slot is overwritten by
a value of a type that the slot's type contains there. -/
def Stores (meaning : Meaning) (slot : String) (path : Path) (type : Ty) (before after : Slots) :
    Prop :=
  ∃ access root new, before.holding slot = .held access root ∧ access ≠ .shared ∧
    meaning.Contains root.type path type True ∧ meaning.Holds type new ∧
    after = before.keep slot (.held access (root.put path new))

variable {slots before after changed : Slots} {slot name : String} {path : Path} {type : Ty}
  {location : Location} {place : Place}

/-! ### Slots -/

/-- No slot but the one that was filled holds anything else. -/
theorem holding_keep_of_ne (slots : Slots) (any : Any) (different : slot ≠ name) :
    (slots.keep slot any).holding name = slots.holding name := by
  simp [holding, keep, Dictionary.find?_insert_of_ne _ _ different]

/-- What a slot holds is of its type. -/
theorem Sound.holds (typed : slots.Sound meaning) {access : Access} {root : Typed}
    (held : slots.holding name = .held access root) : meaning.Holds root.type root.value := by
  have here := typed name
  rw [held] at here
  exact here

/-- Slots stay typed when one is filled with a value of its type. -/
theorem Sound.keep (typed : slots.Sound meaning) {any : Any} (fits : any.Sound meaning)
    (slot : String) : (slots.keep slot any).Sound meaning := by
  intro name
  by_cases same : slot = name
  · rw [same, holding_keep]
    exact fits
  · rw [holding_keep_of_ne slots any same]
    exact typed name

/-- Slots stay typed when one is emptied. -/
theorem Sound.vacate (typed : slots.Sound meaning) (slot : String) :
    (slots.vacate slot).Sound meaning := by
  have nothing : Any.empty.Sound meaning := trivial
  exact typed.keep nothing slot

/-- A store keeps slots typed. -/
theorem Stores.sound (stores : Stores meaning slot path type before after)
    (typed : before.Sound meaning) : after.Sound meaning := by
  obtain ⟨access, root, new, held, _, contains, holds, rfl⟩ := stores
  have stored : (Any.held access (root.put path new)).Sound meaning :=
    contains.writes trivial root.value new (typed.holds held) holds
  exact typed.keep stored slot

/-- A store keeps the type of what a slot holds and how it is held. -/
theorem Stores.holding (stores : Stores meaning slot path type before after) {access : Access}
    {root : Typed} (held : before.holding name = .held access root) :
    ∃ content, after.holding name = .held access content ∧ content.type = root.type := by
  obtain ⟨_, old, new, holds, _, _, _, rfl⟩ := stores
  by_cases same : slot = name
  · subst same
    rw [holds] at held
    cases held
    exact ⟨_, holding_keep _ _ _, rfl⟩
  · exact ⟨root, by rw [holding_keep_of_ne _ _ same, held], rfl⟩

/-- What a location leads to is of its own type. -/
theorem Sound.located (typed : slots.Sound meaning) (sound : types.Sound meaning)
    (reached : (slots.locate types location).outcome = .ok place) : place.any.Sound meaning :=
  Place.sound_of_follow sound (typed location.slot) reached

/-- A place at a location that can be written lies in a value of its slot that can be, whose type
contains it. -/
theorem contains_of_locate (sound : types.Sound meaning) {access : Access} {target : Typed}
    (reached : (slots.locate types location).outcome = .ok ⟨.held access target, path⟩)
    (writable : access ≠ .shared) :
    ∃ rootAccess root, slots.holding location.slot = .held rootAccess root ∧
      rootAccess ≠ .shared ∧ meaning.Contains root.type path target.type True := by
  obtain ⟨rootAccess, root, held⟩ := held_of_located reached (by simp)
  simp only [locate, held, Place.root] at reached
  obtain ⟨along, rfl, _, contains⟩ := Place.contains_of_follow sound reached
  have start := (Place.hasDataMut_of_follow reached (by simpa using writable)).1
  exact ⟨rootAccess, root, held, by simpa using start, contains.mono fun _ => writable⟩

/-- Storing in what a location leads to stores there in the slot. -/
theorem stores_of_update (sound : types.Sound meaning) {written : Any}
    (reached : (slots.locate types location).outcome = .ok place)
    (stores : place.any.Stores meaning written) :
    ∃ access old, place.any = .held access old ∧
      Stores meaning location.slot place.path old.type slots
        (slots.update location.slot place written) := by
  obtain ⟨any, path⟩ := place
  obtain ⟨access, old, new, rfl, writable, rfl, holds⟩ := stores
  obtain ⟨rootAccess, root, held, rootWritable, contains⟩ :=
    contains_of_locate sound reached writable
  refine ⟨access, old, rfl, rootAccess, root, new, held, rootWritable, contains, holds, ?_⟩
  simp [update, Any.content?, held, Any.put, Typed.put]

end Slots

/-! ### Changes at a location -/

/-- Whether what an operation reads is of its own type. -/
def Operand.Sound (meaning : Meaning) : Operand → Prop
  | .value any => any.Sound meaning
  | .held _ => True

/-- Whether what a change brings is typed: a new value is of its type, and what is called or set
works on values of the types it says. -/
def Mutation.Sound (meaning : Meaning) : Mutation → Prop
  | .replace new | .replaceCast new | .replaceInto new => meaning.Holds new.type new.value
  | .write source => source.Sound meaning
  | .setText _ => True
  | .setProperty _ property source => property.Sound meaning ∧ source.Sound meaning
  | .call overload arguments => overload.Sound meaning ∧ ∀ any ∈ arguments, any.Sound meaning

namespace Slots

variable {slots changed : Slots} {location : Location} {mutation : Mutation}

/-- What an operand stands for is of its own type. -/
theorem Sound.operand (typed : slots.Sound meaning) (sound : types.Sound meaning)
    {operand : Operand} (brings : operand.Sound meaning) {any : Any}
    (read : (slots.operand types operand).outcome = .ok any) : any.Sound meaning := by
  cases operand with
  | value any =>
    cases read
    exact brings
  | held location =>
    simp only [Slots.operand, Fallible.outcome_bind_eq_ok_iff] at read
    obtain ⟨place, reached, same⟩ := read
    cases same
    exact typed.located sound reached

/-- Whether slots differ by a store at a location, of a value of the type of what the location leads
to. -/
def StoresAt (meaning : Meaning) (types : Types) (location : Location) (before after : Slots) :
    Prop :=
  ∃ access old path, (before.locate types location).outcome = .ok ⟨.held access old, path⟩ ∧
    Stores meaning location.slot path old.type before after

/-- A change at a location stores there a value of the type of what is there, or changes nothing. -/
theorem stores_of_mutate (sound : types.Sound meaning) (typed : slots.Sound meaning)
    (brings : mutation.Sound meaning)
    (done : (slots.mutate types location mutation).outcome = .ok ((), changed)) :
    changed = slots ∨ StoresAt meaning types location slots changed := by
  have stored : ∀ place written, (slots.locate types location).outcome = .ok place →
      place.any.Stores meaning written →
      StoresAt meaning types location slots (slots.update location.slot place written) := by
    rintro ⟨any, path⟩ written reached stores
    obtain ⟨access, old, rfl, store⟩ := stores_of_update sound reached stores
    exact ⟨access, old, path, reached, store⟩
  cases mutation with
  | replace new =>
    obtain ⟨_, answered⟩ := Acted.outcome_settled_eq_ok_iff.1 done
    obtain ⟨place, reached, ran⟩ := Acting.attempt_bind_eq_ok_iff.1 answered
    cases set : place.any.set? new.type new.value with
    | none =>
      rw [set] at ran
      cases ran
      exact .inl rfl
    | some written =>
      rw [set] at ran
      cases ran
      exact .inr (stored place written reached (Any.stores_of_set? brings set))
  | replaceCast new =>
    obtain ⟨_, answered⟩ := Acted.outcome_settled_eq_ok_iff.1 done
    obtain ⟨place, reached, rest⟩ := Acting.attempt_bind_eq_ok_iff.1 answered
    obtain ⟨part, cast, ran⟩ := Acting.attempt_bind_eq_ok_iff.1 rest
    cases ran
    have there := typed.located sound reached
    exact .inr (stored place _ reached (Any.stores_of_castMut sound there cast brings))
  | replaceInto new =>
    obtain ⟨place, reached, rest⟩ := Acting.attempt_bind_eq_ok_iff.1 done
    obtain ⟨value, into, same⟩ := Acting.attempt_bind_eq_ok_iff.1 rest
    cases same
    exact .inr (stored place _ reached (Any.stores_of_intoMut brings into))
  | write source =>
    obtain ⟨_, answered⟩ := Acted.outcome_settled_eq_ok_iff.1 done
    obtain ⟨place, reached, rest⟩ := Acting.attempt_bind_eq_ok_iff.1 answered
    obtain ⟨any, read, ran⟩ := Acting.attempt_bind_eq_ok_iff.1 rest
    obtain ⟨⟨_, written⟩, wrote, same⟩ := Acting.within_bind_eq_ok_iff.1 ran
    cases same
    have sourced := typed.operand sound brings read
    exact .inr (stored place _ reached (Any.stores_of_write sound sourced wrote))
  | setText text =>
    obtain ⟨_, answered⟩ := Acted.outcome_settled_eq_ok_iff.1 done
    obtain ⟨place, reached, ran⟩ := Acting.attempt_bind_eq_ok_iff.1 answered
    obtain ⟨⟨_, written⟩, wrote, same⟩ := Acting.within_bind_eq_ok_iff.1 ran
    cases same
    have there := typed.located sound reached
    exact .inr (stored place _ reached (Any.stores_of_setText sound there wrote))
  | setProperty name property source =>
    obtain ⟨_, answered⟩ := Acted.outcome_settled_eq_ok_iff.1 done
    obtain ⟨place, reached, rest⟩ := Acting.attempt_bind_eq_ok_iff.1 answered
    obtain ⟨any, read, ran⟩ := Acting.attempt_bind_eq_ok_iff.1 rest
    obtain ⟨⟨_, written⟩, wrote, same⟩ := Acting.within_bind_eq_ok_iff.1 ran
    cases same
    have there := typed.located sound reached
    have sourced := typed.operand sound brings.2 read
    exact .inr (stored place _ reached
      (Property.stores_of_write sound brings.1 sourced there wrote))
  | call overload arguments =>
    obtain ⟨_, answered⟩ := Acted.outcome_settled_eq_ok_iff.1 done
    obtain ⟨place, reached, rest⟩ := Acting.attempt_bind_eq_ok_iff.1 answered
    obtain ⟨⟨result, after⟩, ran, same⟩ := Acting.within_bind_eq_ok_iff.1 rest
    cases same
    have there := typed.located sound reached
    have given : ∀ any ∈ place.any :: arguments, any.Sound meaning :=
      List.forall_mem_cons.2 ⟨there, brings.2⟩
    have changes := (Overload.sound_of_invoke sound brings.1 given ran).2
    unfold Overload.Changes at changes
    unfold takeBack
    split at changes
    · rename_i exclusive
      obtain ⟨this, others, written, whole, rfl, stores⟩ := changes
      cases whole
      rw [if_pos exclusive]
      exact .inr (stored place written reached stores)
    · rename_i const
      rw [if_neg const]
      exact .inl rfl

/-- An attempt at a change stores a value of the type of what is there, or changes nothing. -/
theorem stores_of_attempt (sound : types.Sound meaning) (typed : slots.Sound meaning)
    (brings : mutation.Sound meaning) :
    slots.attempt types location mutation = slots ∨
      StoresAt meaning types location slots (slots.attempt types location mutation) := by
  rcases (slots.atomic_mutate types location mutation).left_cases with kept | ⟨⟨⟩, done⟩
  · exact .inl kept
  · exact stores_of_mutate sound typed brings done

/-- Slots stay typed when one is assigned a copy, and when there is none. -/
theorem Sound.assign (typed : slots.Sound meaning) (sound : types.Sound meaning)
    {source : Operand} (brings : source.Sound meaning) (slot : String) :
    (slots.assign types slot source).left.Sound meaning := by
  unfold Slots.assign Acted.left
  rw [Acting.value_on_attempt_bind]
  cases read : (slots.operand types source).outcome with
  | error error => exact typed
  | ok any =>
    have sourced := typed.operand sound brings read
    have keeps : ((slots.holding slot).assign types any).left.Sound meaning := by
      unfold Any.assign Acted.left
      rw [Acting.value_on_attempt_bind]
      cases copied : (any.tryClone types).outcome with
      | error error => exact typed slot
      | ok copy => exact Any.sound_of_tryClone sound sourced copied
    simp only [Acting.value_on_within_bind]
    split
    all_goals
      rename_i assigned
      rw [Acted.left, assigned] at keeps
      exact typed.keep keeps slot

end Slots

/-! ### Walks -/

namespace Slots

variable {slots after : Slots} {slot : String} {place : Place} {part : Part} {source : Any}
  {path : Path} {type : Ty}

/-- Writing to a part of the value at a place stores there a value of the part's type, or changes
nothing. -/
theorem stores_of_writePart (sound : types.Sound meaning) (typed : source.Sound meaning)
    {access : Access} {root : Typed} (held : slots.holding slot = .held access root)
    (writable : access ≠ .shared)
    (contains : meaning.Contains root.type (place.path ++ part.path) part.type
      (part.exclusive = true)) :
    (slots.writePart types slot place part source).value.2 = slots ∨
      Stores meaning slot (place.path ++ part.path) part.type slots
        (slots.writePart types slot place part source).value.2 := by
  let current : Any :=
    (slots.holding slot).borrow ⟨place.path ++ part.path, part.type, part.exclusive⟩
  have run : (slots.writePart types slot place part source).value.2 =
      slots.update slot ⟨current, place.path ++ part.path⟩ (current.write types source).left := rfl
  cases done : (current.write types source).outcome with
  | error error =>
    have kept : (current.write types source).left = current :=
      current.atomic_write types source error (Acted.outcome_eq_error_iff.1 done)
    have within : Place.Within (slots.holding slot) ⟨current, place.path ++ part.path⟩ :=
      (Place.within_root (slots.holding slot)).enter
        (some ⟨place.path ++ part.path, part.type, part.exclusive⟩)
    rw [run, kept]
    exact .inl (update_of_within within)
  | ok answer =>
    obtain ⟨⟨⟩, written⟩ := answer
    have left : (current.write types source).left = written :=
      congrArg Prod.snd (Acted.outcome_eq_ok_iff.1 done)
    rw [run, left]
    obtain ⟨holder, old, new, borrowed, mutable, rfl, brings⟩ := Any.write_eq_ok done
    have given : current.hasDataMut = true := by
      rw [borrowed]
      simpa using mutable
    have exclusive := Any.exclusive_of_hasDataMut_borrow given
    have kind : old.type = part.type := by
      simp only [current, held, Any.borrow] at borrowed
      split at borrowed
      · cases borrowed
        rfl
      · contradiction
    refine .inr ⟨access, root, new, held, writable, contains.mono fun _ => exclusive, ?_, ?_⟩
    · rw [← kind]
      exact Any.holds_of_brings sound typed brings
    · simp [update, Any.content?, held, Any.put, Typed.put]

/-- Whether slots differ by a store at some place of a slot, of a value of a type. -/
def StoresIn (meaning : Meaning) (slot : String) (type : Ty) (before after : Slots) : Prop :=
  ∃ path, Stores meaning slot path type before after

/-- Stores one after another keep slots typed. -/
theorem sound_of_storesIn
    (stores : Relation.ReflTransGen (StoresIn meaning slot type) slots after)
    (typed : slots.Sound meaning) : after.Sound meaning := by
  induction stores with
  | refl => exact typed
  | tail _ last ih =>
    obtain ⟨path, store⟩ := last
    exact store.sound ih

/-- Writing to parts of one type in turn is storing values of this type, one after another. -/
theorem stores_of_writeParts (sound : types.Sound meaning) {access : Access} {root : Typed}
    (held : slots.holding slot = .held access root) (writable : access ≠ .shared)
    {writes : List (Option Part × Any)}
    (typed : ∀ write ∈ writes, write.2.Sound meaning)
    (contains : ∀ write ∈ writes, ∀ part ∈ write.1, part.type = type ∧
      meaning.Contains root.type (place.path ++ part.path) part.type (part.exclusive = true)) :
    Relation.ReflTransGen (StoresIn meaning slot type) slots
      (slots.writeParts types slot place writes).value.2 := by
  induction writes generalizing slots root with
  | nil => exact .refl
  | cons write rest ih =>
    obtain ⟨first, others⟩ := List.forall_mem_cons.1 typed
    obtain ⟨here, there⟩ := List.forall_mem_cons.1 contains
    obtain ⟨target, source⟩ := write
    cases target with
    | none => exact ih held others there
    | some part =>
      obtain ⟨kind, contained⟩ := here part rfl
      -- A write keeps the type of the slot's value, which contains the parts still to be written.
      have last : ∀ (left : Slots) content, left.holding slot = .held access content →
          content.type = root.type →
          Relation.ReflTransGen (StoresIn meaning slot type) left
            (left.writeParts types slot place rest).value.2 := by
        intro left content same alike
        refine ih same others ?_
        rw [alike]
        exact there
      rcases stores_of_writePart sound first held writable contained with same | store
      · show Relation.ReflTransGen _ slots
          (Slots.writeParts types (slots.writePart types slot place part source).value.2 slot place
            rest).value.2
        rw [same]
        exact last slots root held rfl
      · obtain ⟨content, after, alike⟩ := store.holding held
        rw [kind] at store
        exact .head ⟨_, store⟩ (last _ content after alike)

variable {location : Location} {const : Bool}

/-- A view that may be written through is made of a value that is not held const. -/
theorem ne_shared_of_viewed {access : Access} {content : Typed}
    (permitted : const = true ∨ access ≠ .shared)
    (writes : (Any.held (viewAccess const) content).isConst = false) : access ≠ .shared := by
  cases const with
  | true => contradiction
  | false => exact permitted.resolve_left Bool.false_ne_true

/-- Walking over the mutable items of a range at a location and writing to each stores values of the
item type, one after another. -/
theorem stores_of_writeRange (sound : types.Sound meaning) {side : End} {sources : List Any}
    (typed : ∀ source ∈ sources, source.Sound meaning) {reports : List (Option WriteReport)}
    (done : (slots.writeRange types location const side sources).outcome = .ok (reports, after)) :
    ∃ access content path shape,
      (slots.locate types location).outcome = .ok ⟨.held access content, path⟩ ∧
        (types.record content.type).range = some shape ∧
        Relation.ReflTransGen (StoresIn meaning location.slot shape.item) slots after := by
  simp only [writeRange, Acting.attempt_bind_eq_ok_iff, Fallible.outcome_ofLogged] at done
  obtain ⟨⟨any, path⟩, reached, view, viewed, cursor, walked, written, ran, last⟩ := done
  cases any with
  | empty => cases const <;> contradiction
  | held access content =>
    obtain ⟨permitted, shape, shaped, rfl⟩ := Any.rangeView_eq_ok_iff.1 viewed
    obtain ⟨⟨mutable, writable⟩, rfl⟩ := RangeView.iterMut_eq_ok_iff.1 walked
    have notShared := ne_shared_of_viewed permitted mutable
    obtain ⟨rootAccess, root, held, rootWritable, contains⟩ :=
      contains_of_locate sound reached notShared
    refine ⟨access, content, path, shape, reached, shaped, ?_⟩
    cases last
    rw [← Except.ok.inj ran]
    refine stores_of_writeParts sound held rootWritable ?_ ?_
    · intro write mem
      exact typed write.2 (List.of_mem_zip mem).2
    · intro write mem part chosen
      have listed : some part ∈ _ := chosen ▸ (List.of_mem_zip mem).1
      obtain ⟨index, _, rfl⟩ := List.mem_map.1 (Cursor.mem_of_mem_walk listed)
      have item := (sound.fixed.record content.type).items shape shaped index
      exact ⟨rfl, (contains.trans item).mono fun _ => ⟨trivial, writable⟩⟩

/-- Writing to every value of a table at a location stores values of the value type, one after
another. -/
theorem stores_of_writeTable (sound : types.Sound meaning) (typed : source.Sound meaning)
    {reports : List (Bool × WriteReport)}
    (done : (slots.writeTable types location const source).outcome = .ok (reports, after)) :
    ∃ access content path shape,
      (slots.locate types location).outcome = .ok ⟨.held access content, path⟩ ∧
        (types.record content.type).table = some shape ∧
        Relation.ReflTransGen (StoresIn meaning location.slot shape.value) slots after := by
  simp only [writeTable, Acting.attempt_bind_eq_ok_iff, Fallible.outcome_ofLogged] at done
  obtain ⟨⟨any, path⟩, reached, view, viewed, entries, walked, written, ran, last⟩ := done
  cases any with
  | empty => cases const <;> contradiction
  | held access content =>
    obtain ⟨permitted, shape, shaped, rfl⟩ := Any.tableView_eq_ok_iff.1 viewed
    obtain ⟨⟨mutable, writable⟩, rfl⟩ := TableView.iterMut_eq_ok_iff.1 walked
    have notShared := ne_shared_of_viewed permitted mutable
    obtain ⟨rootAccess, root, held, rootWritable, contains⟩ :=
      contains_of_locate sound reached notShared
    refine ⟨access, content, path, shape, reached, shaped, ?_⟩
    cases last
    rw [← Except.ok.inj ran]
    refine stores_of_writeParts sound held rootWritable ?_ ?_
    · intro write mem
      obtain ⟨entry, _, rfl⟩ := List.mem_map.1 mem
      exact typed
    · intro write mem part chosen
      obtain ⟨entry, listed, rfl⟩ := List.mem_map.1 mem
      obtain ⟨index, _, rfl⟩ := List.mem_map.1 listed
      cases chosen
      have value := (sound.fixed.record content.type).values shape shaped index
      exact ⟨rfl, (contains.trans value).mono fun _ => ⟨trivial, writable⟩⟩

end Slots

end Reflection
