import Reflection.Database

/-!
# Registering members

A factory adds members to one type. Each registration also decides where the attributes that
follow go: to the constant, property or overload just registered, or to the type itself after a
constructor, a parent or a conversion. Constants and properties are replaced by later ones of
their name; overloads are only ever added.
-/
namespace Reflection

/-- Where an attribute goes. -/
inductive AttributeTarget where
  | type
  | constant (name : String)
  | property (name : String)
  | function (name : String) (index : Nat)
  deriving DecidableEq, Repr

/-- The debug form of a target. -/
def AttributeTarget.debug : AttributeTarget → Document
  | .type => .text "Type"
  | .constant name => .tuple "Constant" [.quoted name]
  | .property name => .tuple "Property" [.quoted name]
  | .function name index => .tuple "Function" [.quoted name, .text (toString index)]

/-- One registration. -/
inductive Link where
  | constant (name : String) (value : Typed)
  | property (name : String) (property : Property)
  | function (name : String) (overload : Overload)
  | constructor (overload : Overload)
  | parent (parent : Parent)
  | conversion (conversion : Conversion)
  | attach (value : Typed)

/-- Registration of members of one type. -/
structure Factory where
  type : Ty
  target : AttributeTarget := .type
  deriving DecidableEq, Repr

namespace Members

/-- The attributes of a target, if the target is there. -/
def attributesOf (members : Members) : AttributeTarget → Option Attributes
  | .type => some members.attributes
  | .constant name => (members.constants.find? name).map (·.attributes)
  | .property name => (members.properties.find? name).map (·.attributes)
  | .function name index =>
    (members.functions.find? name).bind fun overloads => overloads[index]?.map (·.attributes)

/-- The members with other attributes on a target. -/
def setAttributes (members : Members) (attributes : Attributes) : AttributeTarget → Members
  | .type => { members with attributes }
  | .constant name =>
    { members with constants := members.constants.modify name ({ · with attributes }) }
  | .property name =>
    { members with properties := members.properties.modify name ({ · with attributes }) }
  | .function name index =>
    { members with
      functions := members.functions.modify name (·.modify index ({ · with attributes })) }

end Members

namespace Scope

/-- Open a factory on a type, which registers it. -/
def reflect (scope : Scope) (type : Ty) : Logged (Factory × Scope) := do
  let scope ← scope.register type
  pure (⟨type, .type⟩, scope)

/-- Change the members of a type. -/
def changeMembers (scope : Scope) (type : Ty) (change : Members → Members) : Scope :=
  { scope with types := scope.types.changeMembers type change }

/-- Attach an attribute to the target of a factory. -/
def attach (scope : Scope) (factory : Factory) (value : Typed) : Logged Scope := do
  let members := scope.types.members factory.type
  match members.attributesOf factory.target with
  | none =>
    let target := factory.target.debug.compact
    Logged.note .warn
      s!"Attribute target {target} of '{scope.types.name factory.type}' vanished"
    pure scope
  | some attributes =>
    let key := scope.types.name value.type
    let changed := members.setAttributes (attributes.insert key value) factory.target
    let scope := { scope with types := scope.types.setMembers factory.type changed }
    if factory.target = .type then
      pure { scope with database := scope.database.index scope.types factory.type key }
    else pure scope

/-- Note that a member of a type takes the place of another. -/
def noteReplaced (scope : Scope) (type : Ty) (kind name : String) (replaced : Bool) :
    Logged Unit :=
  if replaced then Logged.note .warn s!"{kind} '{scope.types.name type}::{name}' replaced"
  else pure ()

/-- Carry out one registration. -/
def apply (scope : Scope) (factory : Factory) : Link → Logged (Factory × Scope)
  | .constant name value => do
    let replaced := (scope.types.members factory.type).constants.contains name
    scope.noteReplaced factory.type "Constant" name replaced
    pure ({ factory with target := .constant name },
      scope.changeMembers factory.type fun members =>
        { members with constants := members.constants.insert name ⟨value, .empty⟩ })
  | .property name property => do
    let replaced := (scope.types.members factory.type).properties.contains name
    scope.noteReplaced factory.type "Property" name replaced
    pure ({ factory with target := .property name },
      scope.changeMembers factory.type fun members =>
        { members with properties := members.properties.insert name property })
  | .function name overload => do
    let index := ((scope.types.members factory.type).overloads name).length
    pure ({ factory with target := .function name index },
      scope.changeMembers factory.type (·.addOverload name overload))
  | .constructor overload => do
    pure ({ factory with target := .type },
      scope.changeMembers factory.type fun members =>
        { members with constructors := members.constructors ++ [overload] })
  | .parent parent => do
    pure ({ factory with target := .type },
      scope.changeMembers factory.type fun members =>
        { members with parents := members.parents ++ [parent] })
  | .conversion conversion => do
    pure ({ factory with target := .type },
      scope.changeMembers factory.type fun members =>
        { members with conversions := members.conversions ++ [conversion] })
  | .attach value => do
    pure (factory, ← scope.attach factory value)

/-- Carry out registrations one after another. -/
def applyAll (scope : Scope) (factory : Factory) : List Link → Logged (Factory × Scope)
  | [] => pure (factory, scope)
  | link :: rest => do
    let (factory, scope) ← scope.apply factory link
    scope.applyAll factory rest

/-- Close a factory. -/
def finish (scope : Scope) (factory : Factory) : Logged Unit :=
  Logged.note .debug s!"Finished registering '{scope.types.name factory.type}'"

/-- Register a type and some of its members. -/
def declare (scope : Scope) (type : Ty) (links : List Link) : Logged Scope := do
  let (factory, scope) ← scope.reflect type
  let (factory, scope) ← scope.applyAll factory links
  scope.finish factory
  pure scope

end Scope

end Reflection
