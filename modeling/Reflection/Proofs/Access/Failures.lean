import Reflection.Session.Run

/-!
# Failures leave no trace

Operations on anys act on what they borrow, and what they leave of it is given back whether they
succeed or fail. Everything that can fail comes before anything is changed: a write makes what it
stores, a setter gets its value and a body its arguments before there is a new value to put back.
So an operation that fails gives back what it got (`Acted.Atomic`). What a route leads to has the
value that lies at its place in the slot (`Place.Within`), so giving it back unchanged leaves the
slots as they were, and a change at a location that fails changes no slot (`Slots.atomic_mutate`).
-/
namespace Reflection

open Acting

variable {types : Types}

/-! ### Operations on anys -/

namespace Any

/-- A write that fails leaves its destination as it was. -/
theorem atomic_write (types : Types) (destination source : Any) :
    (destination.write types source).Atomic destination := by
  unfold write
  cases destination with
  | empty => exact atomic_throw _
  | held access content =>
    cases access with
    | shared => exact atomic_throw _
    | owned | exclusive => exact atomic_attempt_bind fun _ => atomic_of_answers ⟨_, _, rfl⟩

/-- Assigning a text changes nothing if it fails. -/
theorem atomic_setText (types : Types) (text : String) (any : Any) :
    (any.setText types text).Atomic any := by
  unfold setText
  cases any with
  | empty => exact atomic_throw _
  | held access content =>
    cases shape : (types.record content.type).string with
    | none =>
      simp only [shape]
      exact atomic_throw _
    | some shape =>
      simp only [shape]
      split
      · exact atomic_throw _
      · exact atomic_of_answers ⟨_, _, rfl⟩

end Any

namespace Property

/-- Setting a property changes nothing if it fails. -/
theorem atomic_write (types : Types) (name : String) (property : Property) (value subject : Any) :
    (property.write types name value subject).Atomic subject := by
  unfold write
  cases property.set with
  | none => exact atomic_throw _
  | some setter =>
    exact atomic_attempt_bind fun adapted => atomic_attempt_bind fun part =>
      atomic_of_answers ⟨_, _, rfl⟩

end Property

/-- A call that goes to nothing changes none of its arguments. -/
theorem atomic_callNothing (arguments : List Any) (cause : Cause) :
    (callNothing arguments cause).Atomic arguments := atomic_throw _

namespace Overload

/-- A call that fails changes none of its arguments: a receiver is changed last, by what the body
leaves of it. -/
theorem atomic_invoke (types : Types) (overload : Overload) (arguments : List Any) :
    (overload.invoke types arguments).Atomic arguments := by
  unfold invoke
  split
  · exact atomic_throw _
  · split
    · split
      · exact atomic_attempt_bind fun values => atomic_attempt_bind fun part =>
          atomic_of_answers ⟨_, _, rfl⟩
      · exact atomic_attempt_bind fun part => atomic_attempt_bind fun values =>
          atomic_of_answers ⟨_, _, rfl⟩
    · exact atomic_attempt_bind fun _ => atomic_of_answers ⟨_, _, rfl⟩

end Overload

/-- Calling a function of several overloads changes no argument if it fails. -/
theorem atomic_invokeFirst (types : Types) (name : String) (overloads : List Overload)
    (arguments : List Any) : (invokeFirst types name overloads arguments).Atomic arguments := by
  unfold invokeFirst
  split
  · exact Overload.atomic_invoke types _ arguments
  · exact atomic_callNothing arguments _

namespace Types

/-- Constructing a value changes no argument if it fails. -/
theorem atomic_construct (types : Types) (type : Option Ty) (arguments : List Any) :
    (types.construct type arguments).Atomic arguments := by
  unfold construct
  split
  · exact atomic_callNothing arguments _
  · split
    · exact Overload.atomic_invoke types _ arguments
    · exact atomic_callNothing arguments _

/-- Calling a function by name changes no argument if it fails. -/
theorem atomic_invoke (types : Types) (type : Option Ty) (name : String) (arguments : List Any) :
    (types.invoke type name arguments).Atomic arguments := by
  unfold invoke
  split
  · exact atomic_callNothing arguments _
  · split
    · exact atomic_invokeFirst types name _ arguments
    · exact atomic_callNothing arguments _

end Types

/-- Whatever a call goes to, it changes no argument if it fails. -/
theorem Callee.atomic_call (types : Types) (callee : Callee) (arguments : List Any) :
    (callee.call types arguments).Atomic arguments := by
  cases callee with
  | constructors type => exact types.atomic_construct type arguments
  | function type name => exact types.atomic_invoke type name arguments
  | overload called => exact called.atomic_invoke types arguments

/-! ### Places in slots -/

namespace Place

/-- Whether what is found at a place is what lies there in a value. -/
def Within (root : Any) (place : Place) : Prop :=
  ∀ content, place.any.content? = some content →
    ∃ whole, root.content? = some whole ∧ whole.value.part? place.path = some content.value

variable {root start place : Place} {any : Any}

/-- A whole value lies in itself. -/
theorem within_root (any : Any) : (Place.root any).Within any :=
  fun content held => ⟨content, held, Value.part?_nil content.value⟩

/-- A part of something that lies in a value lies there. -/
theorem Within.enter (within : start.Within any) (found : Option Part) :
    (start.enter found).Within any := by
  intro content borrowed
  cases found with
  | none => cases borrowed
  | some part =>
    cases held : start.any with
    | empty =>
      simp only [Place.enter, held, Any.borrow] at borrowed
      cases borrowed
    | held access outer =>
      obtain ⟨whole, filled, lies⟩ := within outer (by rw [held]; rfl)
      simp only [Place.enter, held, Any.borrow] at borrowed
      cases inside : outer.value.part? part.path with
      | none =>
        rw [inside] at borrowed
        cases borrowed
      | some value =>
        rw [inside] at borrowed
        cases borrowed
        refine ⟨whole, filled, ?_⟩
        rw [Place.enter, Value.part?_append, lies]
        exact inside

/-- What a route leads to lies in what it starts from. -/
theorem Within.follow (within : start.Within any) {route : List Accessor}
    (reached : (start.follow types route).outcome = .ok place) : place.Within any := by
  induction route generalizing start with
  | nil =>
    obtain rfl : start = place := by simpa [Place.follow] using reached
    exact within
  | cons accessor rest ih =>
    obtain ⟨found, _, later⟩ := Fallible.outcome_bind_eq_ok_iff.1 reached
    exact ih (within.enter found) later

end Place

namespace Slots

variable {slots : Slots} {location : Location} {place : Place} {name : String}

/-- What is found at a location lies in the slot of the location. -/
theorem within_of_located (reached : (slots.locate types location).outcome = .ok place) :
    place.Within (slots.holding location.slot) :=
  (Place.within_root _).follow reached

/-- A slot that holds something is filled with it. -/
theorem keep_of_holding {any : Any} (held : slots.holding name = any) (filled : any ≠ .empty) :
    slots.keep name any = slots := by
  cases found : slots.find? name with
  | none =>
    simp only [holding, found] at held
    exact absurd held.symm filled
  | some there =>
    simp only [holding, found] at held
    exact Dictionary.insert_of_find? (held ▸ found)

/-- Giving back what was found, as it was, changes no slot. -/
theorem update_of_within (within : place.Within (slots.holding name)) :
    slots.update name place place.any = slots := by
  unfold update
  cases found : place.any.content? with
  | none => rfl
  | some content =>
    obtain ⟨whole, filled, lies⟩ := within content found
    cases held : slots.holding name with
    | empty =>
      rw [held] at filled
      cases filled
    | held access root =>
      rw [held] at filled
      cases filled
      simp only [Any.put, Value.replace_part? lies]
      exact keep_of_holding held (by simp)

/-- What is found at a location is given back there without changing a slot. -/
theorem update_of_located (reached : (slots.locate types location).outcome = .ok place) :
    slots.update location.slot place place.any = slots :=
  update_of_within (within_of_located reached)

/-! ### Changes at a location -/

/-- An operation on what is found at a location that is atomic there changes no slot if it fails. -/
theorem atomic_located {α : Type} {operate : Place → Acting Slots Error α}
    (each : ∀ place, (slots.locate types location).outcome = .ok place →
      ((operate place).on slots).Atomic slots) :
    (Acting.on slots (Acting.attempt (slots.locate types location) >>= operate)).Atomic slots := by
  unfold Acted.Atomic Acted.left
  rw [value_on_attempt_bind]
  cases reached : (slots.locate types location).outcome with
  | error error => exact fun _ _ => rfl
  | ok place => exact each place reached

/-- Writing at a location changes no slot if it fails. -/
theorem atomic_write (types : Types) (slots : Slots) (location : Location) (source : Operand) :
    (slots.write types location source).Atomic slots :=
  atomic_located fun place reached => atomic_attempt_bind fun source =>
    atomic_within_bind (place.any.atomic_write types source) (update_of_located reached)
      fun _ => atomic_of_answers ⟨_, _, rfl⟩

/-- Assigning a text at a location changes no slot if it fails. -/
theorem atomic_setText (types : Types) (slots : Slots) (location : Location) (text : String) :
    (slots.setText types location text).Atomic slots :=
  atomic_located fun place reached =>
    atomic_within_bind (place.any.atomic_setText types text) (update_of_located reached)
      fun _ => atomic_of_answers ⟨_, _, rfl⟩

/-- Overwriting what is exactly of a type does not fail once its location is found. -/
theorem atomic_replace (types : Types) (slots : Slots) (location : Location) (new : Typed) :
    (slots.replace types location new).Atomic slots :=
  atomic_located fun place _ => by
    split
    · exact atomic_of_answers ⟨_, _, rfl⟩
    · exact atomic_of_answers ⟨_, _, rfl⟩

/-- Overwriting what a mutable cast leads to changes no slot if it fails. -/
theorem atomic_replaceCast (types : Types) (slots : Slots) (location : Location) (new : Typed) :
    (slots.replaceCast types location new).Atomic slots :=
  atomic_located fun _ _ => atomic_attempt_bind fun _ => atomic_of_answers ⟨_, _, rfl⟩

/-- Overwriting what a mutable reference is turned into changes no slot if it fails. -/
theorem atomic_replaceInto (types : Types) (slots : Slots) (location : Location) (new : Typed) :
    (slots.replaceInto types location new).Atomic slots :=
  atomic_located fun _ _ => atomic_attempt_bind fun _ => atomic_of_answers ⟨_, _, rfl⟩

/-- Setting a property at a location changes no slot if it fails. -/
theorem atomic_writeProperty (types : Types) (slots : Slots) (location : Location) (name : String)
    (property : Property) (source : Operand) :
    (slots.writeProperty types location name property source).Atomic slots :=
  atomic_located fun place reached => atomic_attempt_bind fun source =>
    atomic_within_bind (Property.atomic_write types name property source place.any)
      (update_of_located reached) fun _ => atomic_of_answers ⟨_, _, rfl⟩

/-- Writing to the items of a range at a location changes no slot if it fails: it does not fail once
there is an item to write to, since each write reports its own error. -/
theorem atomic_writeRange (types : Types) (slots : Slots) (location : Location) (const : Bool)
    (side : End) (sources : List Any) :
    (slots.writeRange types location const side sources).Atomic slots :=
  atomic_located fun _ _ => atomic_attempt_bind fun _ => atomic_attempt_bind fun _ =>
    atomic_attempt_bind fun _ => atomic_of_answers ⟨_, _, rfl⟩

/-- Writing to the values of a table at a location changes no slot if it fails. -/
theorem atomic_writeTable (types : Types) (slots : Slots) (location : Location) (const : Bool)
    (source : Any) : (slots.writeTable types location const source).Atomic slots :=
  atomic_located fun _ _ => atomic_attempt_bind fun _ => atomic_attempt_bind fun _ =>
    atomic_attempt_bind fun _ => atomic_of_answers ⟨_, _, rfl⟩

/-- A call that leaves its arguments as they were leaves the slots as they were. -/
theorem takeBack_of_located (reached : (slots.locate types location).outcome = .ok place)
    (overload : Overload) (arguments : List Any) :
    slots.takeBack location place overload (place.any :: arguments) = slots := by
  unfold takeBack
  split
  · exact update_of_located reached
  · rfl

/-- A call on what is at a location changes no slot if it fails. -/
theorem atomic_callOn (types : Types) (slots : Slots) (location : Location) (overload : Overload)
    (arguments : List Any) : (slots.callOn types location overload arguments).Atomic slots :=
  atomic_located fun place reached =>
    atomic_within_bind (overload.atomic_invoke types (place.any :: arguments))
      (takeBack_of_located reached overload arguments) fun _ => atomic_of_answers ⟨_, _, rfl⟩

/-- A change at a location that fails changes no slot. -/
theorem atomic_mutate (types : Types) (slots : Slots) (location : Location) (mutation : Mutation) :
    (slots.mutate types location mutation).Atomic slots := by
  cases mutation with
  | replace new => exact (slots.atomic_replace types location new).settled
  | replaceCast new => exact (slots.atomic_replaceCast types location new).settled
  | replaceInto new => exact slots.atomic_replaceInto types location new
  | write source => exact (slots.atomic_write types location source).settled
  | setText text => exact (slots.atomic_setText types location text).settled
  | setProperty name property source =>
    exact (slots.atomic_writeProperty types location name property source).settled
  | call overload arguments =>
    exact (slots.atomic_callOn types location overload arguments).settled

end Slots

end Reflection
