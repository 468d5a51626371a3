import Reflection.Any.Basic

/-!
# Casting along parents

A value of a type can be used as a value of any type its parents lead to, provided they lead to
one sub-object of that type. `asType` and `asTypeMut` give an empty result where they do not;
`cast` and `castMut` say why.
-/
namespace Reflection

namespace Any

/-- The one sub-object of a type, borrowed const; none where there is none or more than one. -/
def asType (types : Types) (target : Ty) : Any → Logged (Option Part)
  | .empty => pure none
  | .held _ content => do
    match ← types.cast content.type target with
    | .found place => pure (some ⟨place, target, false⟩)
    | .missing | .ambiguous _ => pure none

/-- The one sub-object of a type, borrowed mutably unless the any is const. -/
def asTypeMut (types : Types) (target : Ty) : Any → Logged (Option Part)
  | .empty => pure none
  | .held .shared content => asType types target (.held .shared content)
  | .held _ content => do
    match ← types.cast content.type target with
    | .found place => pure (some ⟨place, target, true⟩)
    | .missing | .ambiguous _ => pure none

/-- The place a cast ended at, or why it failed. -/
def castPlace (types : Types) (type target : Ty) : Types.CastResult → Attempt Path
  | .found place => pure place
  | .missing => fail (.typeMismatch (types.name target) (types.name type))
  | .ambiguous count => fail (.ambiguous (types.name type) count (types.name target))

/-- The one sub-object of a type, borrowed const. -/
def cast (types : Types) (target : Ty) : Any → Attempt Part
  | .empty => fail (.emptyAny "cast")
  | .held _ content => do
    let result ← Fallible.ofLogged (types.cast content.type target)
    let place ← castPlace types content.type target result
    pure ⟨place, target, false⟩

/-- The one sub-object of a type, borrowed mutably. -/
def castMut (types : Types) (target : Ty) : Any → Attempt Part
  | .empty => fail (.emptyAny "cast")
  | .held .shared content => fail (.constCast (types.name content.type))
  | .held _ content => do
    let result ← Fallible.ofLogged (types.cast content.type target)
    let place ← castPlace types content.type target result
    pure ⟨place, target, true⟩

end Any

end Reflection
