import Reflection.Any.Copy

/-!
# Properties

Reading a property casts the instance to the owner of the property; writing it first brings the
new value to the property's type, then casts the instance mutably, and acts on the instance by
putting what the setter leaves of it in its place. Errors about the instance name the property.
-/
namespace Reflection

namespace Property

/-- The value of a property of an instance. -/
def read (types : Types) (name : String) (property : Property) (subject : Any) :
    Attempt Any := do
  let part ← (subject.cast types property.owner).mapError fun error =>
    ⟨.invalidProperty, .inProperty name error.cause⟩
  pure (.new ⟨property.type, property.get (subject.read part.path)⟩)

/-- A value brought to the type of a property: cast along parents where they lead there,
converted otherwise. -/
def adapt (types : Types) (target : Ty) (value : Any) : Attempt Value := do
  let inherited := match value.type? with
    | some type => type = target || types.inherits type target
    | none => false
  if inherited then
    let part ← value.cast types target
    pure (value.read part.path)
  else
    let converted ← value.tryConv types (some target)
    let part ← converted.cast types target
    pure (converted.read part.path)

/-- Give a property of an instance another value. -/
def write (types : Types) (name : String) (property : Property) (value subject : Any) :
    Acted Any Error Unit :=
  Acting.on subject <|
    match property.set with
    | none => throw (.of (.readOnlyProperty name))
    | some setter => do
      let adapted ← .attempt (adapt types property.type value)
      let part ← .attempt ((subject.castMut types property.owner).mapError fun error =>
        ⟨error.kind, .inProperty name error.cause⟩)
      modify fun subject => subject.put part.path (setter (subject.read part.path) adapted)

end Property

end Reflection
