import Reflection.Database.Run
import Reflection.Enumeration
import Reflection.Mutation
import Reflection.Session
import Reflection.Signature

/-!
# Runs of a session

What is in the slots of a session is changed by steps: a slot is filled, emptied or consumed, a
value at a location is changed, mutable items and entries are written one after another, something
is called with what the slots hold, or what is made from it is kept. Between such steps types are
registered and reset. A run is a list of steps, each carried out on what the one before it left
behind, whether that one succeeded or not.
-/
namespace Reflection

/-- What a call goes to. -/
inductive Callee where
  /-- The constructors of a type. -/
  | constructors (type : Option Ty)
  /-- The overloads of a function of a type. -/
  | function (type : Option Ty) (name : String)
  | overload (overload : Overload)

/-- Call with some arguments. -/
def Callee.call (types : Types) (callee : Callee) (arguments : List Any) :
    Acted (List Any) Error Any :=
  match callee with
  | .constructors type => types.construct type arguments
  | .function type name => types.invoke type name arguments
  | .overload called => called.invoke types arguments

/-- An any made from what is there, which stays as it is. -/
inductive Derivation where
  | copy (location : Location)
  /-- The conversion of what is there; empty where there is none. -/
  | conversion (location : Location) (target : Option Ty)
  /-- The conversion of what is there; an error where there is none. -/
  | tryConversion (location : Location) (target : Option Ty)
  | property (name : String) (property : Property) (location : Location)
  | constant (constant : Constant)
  /-- The value of an enumeration that a text names. -/
  | enumerator (type : Option Ty) (text : String)

/-- Make what a derivation says. -/
def Derivation.make (types : Types) (slots : Slots) : Derivation → Attempt Any
  | .copy location => do (← slots.locate types location).any.tryClone types
  | .conversion location target => do
    let place ← slots.locate types location
    Fallible.ofLogged (place.any.conv types target)
  | .tryConversion location target => do (← slots.locate types location).any.tryConv types target
  | .property name read location => do
    read.read types name (← slots.locate types location).any
  | .constant copied => copied.value.borrowed.tryClone types
  | .enumerator type text => types.enumFromString type text

/-- A step on the slots of a session. -/
inductive SlotStep where
  | fill (slot : String) (any : Any)
  | vacate (slot : String)
  | take (slot : String) (into : Option String)
  | assign (slot : String) (source : Operand)
  | intoRef (slot : String) (type : Ty)
  | intoMut (slot : String) (type : Ty)
  | downcast (slot : String) (type : Ty)
  | intoOwned (slot : String)
  | throughView (slot : String) (shape : ShapeKind)
  | change (location : Location) (mutation : Mutation)
  /-- Write to the mutable items of a range, from one end on. -/
  | writeRange (location : Location) (const : Bool) (side : End) (sources : List Any)
  /-- Write to every value of a table. -/
  | writeTable (location : Location) (const : Bool) (source : Any)
  | call (callee : Callee) (arguments : List Argument) (into : Option String)
  | derive (derivation : Derivation) (into : Option String)

/-- A step of a session. -/
inductive SessionStep where
  | slots (step : SlotStep)
  /-- Register or reset types through a database. -/
  | types (database : String) (operation : DatabaseOperation)

namespace Session

/-- The session after a result is known, which is stored if there is one. -/
def collect (session : Session) (into : Option String) (result : Except Error Any) : Session :=
  match result with
  | .ok any => session.storeInto into any
  | .error _ => session

/-- Carry out one step on the slots. -/
def performOnSlots (session : Session) (step : SlotStep) : Session :=
  let types := session.types
  let slots := session.slots
  match step with
  | .fill slot any => session.setSlots (slots.keep slot any)
  | .vacate slot => session.setSlots (slots.vacate slot)
  | .take slot into =>
    let (taken, left) := slots.take slot
    (session.setSlots left).storeInto into taken
  | .assign slot source => session.setSlots (slots.assign types slot source).left
  | .intoRef slot type => session.setSlots (slots.intoRef types slot type).2
  | .intoMut slot type => session.setSlots (slots.intoMut types slot type).2
  | .downcast slot type => session.setSlots (slots.downcast slot type).2
  | .intoOwned slot => session.setSlots (slots.intoOwned types slot).value.2
  | .throughView slot shape => session.setSlots (slots.throughView types slot shape).value.2
  | .change location mutation => session.setSlots (slots.attempt types location mutation)
  | .writeRange location const side sources =>
    session.setSlots (slots.writeRange types location const side sources).left
  | .writeTable location const source =>
    session.setSlots (slots.writeTable types location const source).left
  | .call callee arguments into =>
    let (result, left) := (slots.call types arguments (callee.call types)).value
    (session.setSlots left).collect into result
  | .derive derivation into => session.collect into (derivation.make types slots).outcome

/-- Carry out one step. -/
def perform (session : Session) : SessionStep → Session
  | .slots step => session.performOnSlots step
  | .types database operation =>
    { session with store := (session.store.perform database operation).value }

/-- What a run of steps leaves behind. -/
def after (session : Session) : List SessionStep → Session
  | [] => session
  | step :: rest => (session.perform step).after rest

end Session

end Reflection
