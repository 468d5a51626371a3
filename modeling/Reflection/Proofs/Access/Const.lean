import Reflection.Proofs.Access.Failures
import Reflection.Proofs.Access.Selection
import Reflection.Standard.Universe

/-!
# Const values stay const

A chain of accessors ends at a value that can be written only if it starts at one and every
accessor on it is a mutable one. A const any refuses every way to change what it refers to, and so
does whatever is borrowed from it, so no sequence of attempts through a const any changes anything.
-/
namespace Reflection

/-! ### Chains -/

namespace Any

variable {types : Types} {access : Access} {content : Typed}

/-- A held value can be written unless it is held by a const reference. -/
@[simp] theorem hasDataMut_held :
    (held access content).hasDataMut = decide (access ≠ .shared) := by
  cases access <;> rfl

/-- Nothing can be written where nothing is held. -/
@[simp] theorem hasDataMut_empty : empty.hasDataMut = false := rfl

/-- What is borrowed can be written only if it was borrowed mutably. -/
theorem exclusive_of_hasDataMut_borrow {any : Any} {part : Part}
    (writable : (any.borrow part).hasDataMut = true) : part.exclusive = true := by
  cases any with
  | empty => contradiction
  | held access content =>
    simp only [borrow] at writable
    split at writable
    · cases flag : part.exclusive with
      | true => rfl
      | false => simp [Part.access, flag] at writable
    · contradiction

end Any

namespace Place

variable {types : Types} {start place : Place}

/-- An accessor leads to something that can be written only from something that can be written,
and only if it is a mutable one. -/
theorem hasDataMut_of_access {accessor : Accessor} {found : Option Part}
    (given : (start.any.access types accessor).outcome = .ok found)
    (writable : (start.enter found).any.hasDataMut = true) :
    start.any.hasDataMut = true ∧ accessor.isMutable = true := by
  cases found with
  | none => contradiction
  | some part =>
    have mutable : part.exclusive = true := Any.exclusive_of_hasDataMut_borrow writable
    cases held : start.any with
    | empty =>
      simp only [enter, held] at writable
      contradiction
    | held access content =>
      rw [held, Any.access_eq_some_iff] at given
      obtain ⟨_, _, flag⟩ := given
      rw [mutable] at flag
      simpa [and_comm] using flag.symm

/-- A chain is followed one part after the other. -/
theorem outcome_follow_cons {accessor : Accessor} {route : List Accessor} :
    (start.follow types (accessor :: route)).outcome = .ok place ↔
      ∃ found, (start.any.access types accessor).outcome = .ok found ∧
        ((start.enter found).follow types route).outcome = .ok place := by
  simp only [follow]
  exact Fallible.outcome_bind_eq_ok_iff

/-- A chain in two pieces is followed one piece after the other. -/
theorem outcome_follow_append {front back : List Accessor} :
    (start.follow types (front ++ back)).outcome = .ok place ↔
      ∃ middle, (start.follow types front).outcome = .ok middle ∧
        (middle.follow types back).outcome = .ok place := by
  induction front generalizing start with
  | nil => simp [follow]
  | cons accessor rest ih =>
    simp only [List.cons_append, outcome_follow_cons, ih]
    constructor
    · rintro ⟨found, given, middle, reached, last⟩
      exact ⟨middle, ⟨found, given, reached⟩, last⟩
    · rintro ⟨middle, ⟨found, given, reached⟩, last⟩
      exact ⟨found, given, middle, reached, last⟩

/-- A chain leads to something that can be written only from something that can be written, and
only if all its accessors are mutable ones. -/
theorem hasDataMut_of_follow {route : List Accessor}
    (reached : (start.follow types route).outcome = .ok place)
    (writable : place.any.hasDataMut = true) :
    start.any.hasDataMut = true ∧ ∀ accessor ∈ route, accessor.isMutable = true := by
  induction route generalizing start with
  | nil =>
    obtain rfl : start = place := by simpa [follow] using reached
    exact ⟨writable, fun _ mem => absurd mem List.not_mem_nil⟩
  | cons accessor rest ih =>
    obtain ⟨found, given, later⟩ := outcome_follow_cons.1 reached
    obtain ⟨entered, others⟩ := ih later
    obtain ⟨first, mutable⟩ := hasDataMut_of_access given entered
    exact ⟨first, List.forall_mem_cons.2 ⟨mutable, others⟩⟩

end Place

/-! ### Attempts -/

namespace Any

variable {types : Types} {any : Any}

/-- An any through which nothing can be changed: it gives no mutable access to its value, and every
operation that would change the value fails. -/
structure Frozen (types : Types) (any : Any) : Prop where
  /-- There is no mutable access to the value. -/
  data : any.hasDataMut = false
  /-- There is no exact mutable reference of any type. -/
  exact : ∀ type value, any.set? type value = none
  /-- No part can be cast to a mutable reference. -/
  cast : ∀ type, ∃ error, (any.castMut types type).outcome = .error error
  /-- Nothing can be written. -/
  write : ∀ source, ∃ error, (any.write types source).outcome = .error error
  /-- No text can be assigned. -/
  text : ∀ text, ∃ error, (any.setText types text).outcome = .error error
  /-- It cannot be turned into a mutable reference. -/
  into : ∀ type, ∃ error, (any.intoMut types type).outcome = .error error
  /-- No property can be set. -/
  property : ∀ name (property : Property) value,
    ∃ error, (property.write types name value any).outcome = .error error
  /-- No overload that borrows its receiver mutably takes it or can be called with it. -/
  call : ∀ (overload : Overload) arguments, overload.receiver.any (·.exclusive) = true →
    overload.accepts types (any :: arguments) = false ∧
      ∃ error, (overload.invoke types (any :: arguments)).outcome = .error error

/-- A const any and an empty one are all that cannot be written. -/
theorem empty_or_shared (unwritable : any.hasDataMut = false) :
    any = .empty ∨ ∃ content, any = held .shared content := by
  cases any with
  | empty => exact .inl rfl
  | held access content =>
    cases access with
    | shared => exact .inr ⟨content, rfl⟩
    | owned => contradiction
    | exclusive => contradiction

/-- A property cannot be set where no part can be cast to a mutable reference. -/
theorem property_fails
    (cast : ∀ type, ∃ error, (any.castMut types type).outcome = .error error) (name : String)
    (property : Property) (value : Any) :
    ∃ error, (property.write types name value any).outcome = .error error := by
  unfold Property.write
  cases property.set with
  | none => exact ⟨_, rfl⟩
  | some set =>
    refine Acting.fails_of_next fun adapted => ?_
    exact Acting.fails_of_attempt (Fallible.fails_mapError (cast _))

/-- A receiver cannot be borrowed mutably where no part can be cast to a mutable reference. -/
theorem call_fails (cast : ∀ type, ∃ error, (any.castMut types type).outcome = .error error)
    {overload : Overload} {parameter : Parameter} (receives : overload.receiver = some parameter)
    (exclusive : parameter.exclusive = true) (arguments : List Any) :
    ∃ error, (overload.invoke types (any :: arguments)).outcome = .error error := by
  unfold Overload.invoke
  split
  · exact ⟨_, rfl⟩
  · simp only [receives, exclusive, if_true]
    refine Acting.fails_of_next fun values => ?_
    exact Acting.fails_of_attempt (Fallible.fails_mapError (cast _))

/-- Nothing can be changed through an any that cannot be written. -/
theorem frozen_of_unwritable (unwritable : any.hasDataMut = false) : any.Frozen types := by
  have cast : ∀ type, ∃ error, (any.castMut types type).outcome = .error error := by
    rcases empty_or_shared unwritable with rfl | ⟨content, rfl⟩
    · exact fun _ => ⟨_, rfl⟩
    · exact fun _ => ⟨_, rfl⟩
  constructor
  case data => exact unwritable
  case cast => exact cast
  case property => exact property_fails cast
  case call =>
    intro overload arguments mutates
    obtain ⟨parameter, receives, exclusive⟩ := (Option.any_eq_true _ _).1 mutates
    refine ⟨?_, call_fails cast receives exclusive arguments⟩
    have refused : parameter.accepts types any = false := by
      rcases empty_or_shared unwritable with rfl | ⟨content, rfl⟩
      · rfl
      · simp [Parameter.accepts, exclusive]
    simp [Overload.accepts, Overload.parameters, receives, Overload.acceptsAll, refused]
  case exact =>
    rcases empty_or_shared unwritable with rfl | ⟨content, rfl⟩
    · exact fun _ _ => rfl
    · exact fun _ _ => rfl
  case write =>
    rcases empty_or_shared unwritable with rfl | ⟨content, rfl⟩
    · exact fun _ => ⟨_, rfl⟩
    · exact fun _ => ⟨_, rfl⟩
  case text =>
    intro text
    rcases empty_or_shared unwritable with rfl | ⟨content, rfl⟩
    · exact ⟨_, rfl⟩
    · simp only [setText]
      cases (types.record content.type).string with
      | none => exact ⟨_, rfl⟩
      | some shape => exact ⟨_, rfl⟩
  case into =>
    intro type
    rcases empty_or_shared unwritable with rfl | ⟨content, rfl⟩
    · exact ⟨_, rfl⟩
    · simp only [intoMut]
      split
      · exact ⟨_, rfl⟩
      · exact ⟨_, rfl⟩

end Any

namespace Slots

variable {types : Types} {slots changed : Slots} {location : Location}

/-- A change at a location from which nothing can be changed changes nothing. -/
theorem mutate_of_unwritable
    (unwritable : ∀ place, (slots.locate types location).outcome = .ok place →
      place.any.hasDataMut = false) {mutation : Mutation}
    (done : (slots.mutate types location mutation).outcome = .ok ((), changed)) :
    changed = slots := by
  have frozen : ∀ place, (slots.locate types location).outcome = .ok place →
      place.any.Frozen types :=
    fun place reached => Any.frozen_of_unwritable (unwritable place reached)
  cases mutation with
  | replace new =>
    obtain ⟨_, answered⟩ := Acted.outcome_settled_eq_ok_iff.1 done
    obtain ⟨place, reached, ran⟩ := Acting.attempt_bind_eq_ok_iff.1 answered
    rw [(frozen place reached).exact] at ran
    cases ran
    rfl
  | replaceCast new =>
    obtain ⟨_, answered⟩ := Acted.outcome_settled_eq_ok_iff.1 done
    obtain ⟨place, reached, ran⟩ := Acting.attempt_bind_eq_ok_iff.1 answered
    obtain ⟨_, cast, _⟩ := Acting.attempt_bind_eq_ok_iff.1 ran
    exact absurd cast (Fallible.not_ok_of_fails ((frozen place reached).cast _))
  | replaceInto new =>
    obtain ⟨place, reached, ran⟩ := Acting.attempt_bind_eq_ok_iff.1 done
    obtain ⟨_, turned, _⟩ := Acting.attempt_bind_eq_ok_iff.1 ran
    exact absurd turned (Fallible.not_ok_of_fails ((frozen place reached).into _))
  | write source =>
    obtain ⟨_, answered⟩ := Acted.outcome_settled_eq_ok_iff.1 done
    obtain ⟨place, reached, ran⟩ := Acting.attempt_bind_eq_ok_iff.1 answered
    obtain ⟨any, _, rest⟩ := Acting.attempt_bind_eq_ok_iff.1 ran
    obtain ⟨_, written, _⟩ := Acting.within_bind_eq_ok_iff.1 rest
    exact absurd written (Acted.not_ok_of_fails ((frozen place reached).write any))
  | setText text =>
    obtain ⟨_, answered⟩ := Acted.outcome_settled_eq_ok_iff.1 done
    obtain ⟨place, reached, ran⟩ := Acting.attempt_bind_eq_ok_iff.1 answered
    obtain ⟨_, assigned, _⟩ := Acting.within_bind_eq_ok_iff.1 ran
    exact absurd assigned (Acted.not_ok_of_fails ((frozen place reached).text text))
  | setProperty name property source =>
    obtain ⟨_, answered⟩ := Acted.outcome_settled_eq_ok_iff.1 done
    obtain ⟨place, reached, ran⟩ := Acting.attempt_bind_eq_ok_iff.1 answered
    obtain ⟨any, _, rest⟩ := Acting.attempt_bind_eq_ok_iff.1 ran
    obtain ⟨_, set, _⟩ := Acting.within_bind_eq_ok_iff.1 rest
    exact absurd set (Acted.not_ok_of_fails ((frozen place reached).property name property any))
  | call overload arguments =>
    obtain ⟨_, answered⟩ := Acted.outcome_settled_eq_ok_iff.1 done
    obtain ⟨place, reached, ran⟩ := Acting.attempt_bind_eq_ok_iff.1 answered
    obtain ⟨after, called, rest⟩ := Acting.within_bind_eq_ok_iff.1 ran
    cases mutates : overload.receiver.any (·.exclusive) with
    | true =>
      exact absurd called
        (Acted.not_ok_of_fails ((frozen place reached).call overload arguments mutates).2)
    | false =>
      rw [takeBack, mutates] at rest
      cases rest
      rfl

/-- An attempt at a location from which nothing can be changed changes nothing: one that succeeds
because there is nothing it has to change, and one that fails because failures leave no trace. -/
theorem attempt_of_unwritable
    (unwritable : ∀ place, (slots.locate types location).outcome = .ok place →
      place.any.hasDataMut = false) (mutation : Mutation) :
    slots.attempt types location mutation = slots := by
  cases answer : (slots.mutate types location mutation).value.1 with
  | error error => exact atomic_mutate types slots location mutation error answer
  | ok done =>
    exact mutate_of_unwritable unwritable (Acted.outcome_eq_ok_iff.2 (Prod.ext answer rfl))

/-- Attempts through something that cannot be written, wherever they go from there, change
nothing. -/
theorem attemptAll_of_unwritable {place : Place}
    (reached : (slots.locate types location).outcome = .ok place)
    (unwritable : place.any.hasDataMut = false) (attempts : List (List Accessor × Mutation)) :
    slots.attemptAll types (attempts.map fun attempt =>
      (⟨location.slot, location.route ++ attempt.1⟩, attempt.2)) = slots := by
  induction attempts with
  | nil => rfl
  | cons attempt rest ih =>
    have beyond : ∀ last, (slots.locate types
        ⟨location.slot, location.route ++ attempt.1⟩).outcome = .ok last →
          last.any.hasDataMut = false := by
      intro last found
      obtain ⟨middle, first, second⟩ := Place.outcome_follow_append.1 found
      obtain rfl : place = middle := Except.ok.inj (reached.symm.trans first)
      refine Bool.eq_false_iff.2 fun writable => ?_
      rw [(Place.hasDataMut_of_follow second writable).1] at unwritable
      contradiction
    rw [List.map_cons, attemptAll, attempt_of_unwritable beyond]
    exact ih

/-- Borrowing keeps values const. Whatever an any holds and whatever chain of accessors leads from
it, through const or mutable views: what is reached is const, or empty where there is nothing,
unless the any could be written and every accessor on the way is a mutable one; and by way of a key
of a table nothing is reached that can be written. If a const any is reached, it gives no mutable
access to its value; it cannot be borrowed or cast mutably, written, assigned a text, turned into a
mutable reference, have a property set, or be the receiver of a call that borrows it mutably; and
no sequence of attempts at these, on it or on what is borrowed from it, changes anything. -/
theorem const_closed_under_borrowing {place : Place}
    (reached : (slots.locate types location).outcome = .ok place) :
    (place.any.hasDataMut = true → (slots.holding location.slot).hasDataMut = true ∧
        ∀ accessor ∈ location.route, accessor.isMutable = true) ∧
      (∀ accessor ∈ location.route, ∀ index, accessor.selector = .entryKey index →
        place.any.hasDataMut = false) ∧
      (place.any.isConst = true →
        (∃ error, (place.any.asMut types).outcome = .error error) ∧ place.any.Frozen types ∧
          ∀ attempts : List (List Accessor × Mutation),
            slots.attemptAll types (attempts.map fun attempt =>
              (⟨location.slot, location.route ++ attempt.1⟩, attempt.2)) = slots) := by
  have closed : place.any.hasDataMut = true → (slots.holding location.slot).hasDataMut = true ∧
      ∀ accessor ∈ location.route, accessor.isMutable = true :=
    Place.hasDataMut_of_follow reached
  refine ⟨closed, fun accessor mem index keys => ?_, fun const => ?_⟩
  · refine Bool.eq_false_iff.2 fun writable => ?_
    have mutable := (closed writable).2 accessor mem
    cases accessor <;> simp at keys mutable
  · have unwritable : place.any.hasDataMut = false := by
      simp [Any.hasDataMut, const]
    refine ⟨?_, Any.frozen_of_unwritable unwritable, attemptAll_of_unwritable reached unwritable⟩
    rcases Any.empty_or_shared unwritable with empty | ⟨content, shared⟩
    · rw [empty] at const
      contradiction
    · rw [shared]
      exact ⟨_, rfl⟩

/-- The built-in types, with every named type a bare token. -/
def tokenTypes : Types :=
  .described (Standard.universeOf fun key =>
    { record := { name := key, layout := ⟨0, 1⟩ }, content := .token })

/-- A const reference to a map from numbers to lists of numbers. -/
def constMap : Slots :=
  Slots.keep .empty "map"
    (.held .shared ⟨.orderedMap .i32 (.vector .i32),
      .compound [.compound [.integer 7, .compound [.integer 1, .integer 2]]]⟩)

/-- The second item of the list under a key of a const map cannot be changed. -/
theorem constMap_item_frozen :
    (constMap.locate tokenTypes
        ⟨"map", [.find (.new ⟨.i32, .integer 7⟩), .item 1]⟩).outcome =
        .ok ⟨.held .shared ⟨.i32, .integer 2⟩, [0, 1, 1]⟩ ∧
      (Any.held .shared ⟨.i32, .integer 2⟩).Frozen tokenTypes := by
  have reached : (constMap.locate tokenTypes
      ⟨"map", [.find (.new ⟨.i32, .integer 7⟩), .item 1]⟩).outcome =
        .ok ⟨.held .shared ⟨.i32, .integer 2⟩, [0, 1, 1]⟩ := rfl
  exact ⟨reached, ((const_closed_under_borrowing reached).2.2 rfl).2.1⟩

end Slots

end Reflection
