import Reflection.Slots

/-!
# Attempts to change a value

There are several ways to change the value an any refers to: overwriting it through an exact or a
cast mutable reference, writing a copy or a text into it, setting one of its properties, and
calling something that borrows it mutably. Each is tried on the any at a location, and what it
leaves of the slots is what the next one finds, whether or not it fails.
-/
namespace Reflection

/-- One way to change the value at a location. -/
inductive Mutation where
  /-- Overwrite it, if it is exactly of a type. -/
  | replace (new : Typed)
  /-- Overwrite the part of a type that a mutable cast leads to. -/
  | replaceCast (new : Typed)
  /-- Turn the mutable reference into what it refers to, and overwrite that. -/
  | replaceInto (new : Typed)
  | write (source : Operand)
  | setText (text : String)
  | setProperty (name : String) (property : Property) (source : Operand)
  /-- Call an overload with the any as its receiver. -/
  | call (overload : Overload) (arguments : List Any)

namespace Slots

/-- Overwrite what the mutable reference at a location is turned into. -/
def replaceInto (types : Types) (slots : Slots) (location : Location) (new : Typed) :
    Acted Slots Error Unit :=
  Acting.on slots do
    let place ← .attempt (slots.locate types location)
    let _ ← .attempt (place.any.intoMut types new.type)
    set (slots.update location.slot place (.held .exclusive new))

/-- The slots after a call has left some arguments, the first of which comes from a location if it
is the receiver and borrowed mutably. -/
def takeBack (slots : Slots) (location : Location) (place : Place) (overload : Overload)
    (after : List Any) : Slots :=
  if overload.receiver.any (·.exclusive) then
    slots.update location.slot place (after.headD .empty)
  else slots

/-- Call an overload with the any at a location as its receiver. -/
def callOn (types : Types) (slots : Slots) (location : Location) (overload : Overload)
    (arguments : List Any) : Acted Slots Error Any :=
  Acting.on slots do
    let place ← .attempt (slots.locate types location)
    let (result, _) ← .within (slots.takeBack location place overload)
      (overload.invoke types (place.any :: arguments))
    pure result

/-- Carry out a change at a location. -/
def mutate (types : Types) (slots : Slots) (location : Location) :
    Mutation → Acted Slots Error Unit
  | .replace new => (slots.replace types location new).settled
  | .replaceCast new => (slots.replaceCast types location new).settled
  | .replaceInto new => slots.replaceInto types location new
  | .write source => (slots.write types location source).settled
  | .setText text => (slots.setText types location text).settled
  | .setProperty name property source =>
    (slots.writeProperty types location name property source).settled
  | .call overload arguments => (slots.callOn types location overload arguments).settled

/-- The slots after an attempt at a change. -/
def attempt (types : Types) (slots : Slots) (location : Location) (mutation : Mutation) : Slots :=
  (slots.mutate types location mutation).left

/-- The slots after attempts at changes, one after another. -/
def attemptAll (types : Types) (slots : Slots) : List (Location × Mutation) → Slots
  | [] => slots
  | (location, mutation) :: rest =>
    (slots.attempt types location mutation).attemptAll types rest

end Slots

end Reflection
