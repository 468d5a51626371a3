/-!
# Access guards

A guarded value is read through shared guards and written through one exclusive guard. Any number
of shared guards may be held together; an exclusive guard excludes all others. Asking for a guard
that is not available answers nothing and changes nothing.
-/
namespace Reflection

/-- A value and the guards held on it. -/
structure AccessGuard (α : Type) where
  value : α
  /-- How many shared guards are held. -/
  readers : Nat := 0
  /-- Whether an exclusive guard is held. -/
  writing : Bool := false
  deriving DecidableEq, Repr

namespace AccessGuard

variable {α : Type}

/-- Whether any guard is held. -/
def isLocked (guarded : AccessGuard α) : Bool := guarded.writing || guarded.readers != 0

/-- Take a shared guard, if no exclusive one is held. -/
def tryShared (guarded : AccessGuard α) : Option (AccessGuard α) :=
  if guarded.writing then none else some { guarded with readers := guarded.readers + 1 }

/-- Take an exclusive guard, if no other is held. -/
def tryExclusive (guarded : AccessGuard α) : Option (AccessGuard α) :=
  if guarded.isLocked then none else some { guarded with writing := true }

/-- Give a shared guard back, if one is held. -/
def releaseShared (guarded : AccessGuard α) : Option (AccessGuard α) :=
  match guarded.readers with
  | 0 => none
  | readers + 1 => some { guarded with readers }

/-- Give the exclusive guard back, if it is held. -/
def releaseExclusive (guarded : AccessGuard α) : Option (AccessGuard α) :=
  if guarded.writing then some { guarded with writing := false } else none

/-- Change the value. -/
def update (guarded : AccessGuard α) (change : α → α) : AccessGuard α :=
  { guarded with value := change guarded.value }

/-- The debug form of a guard. -/
def debug (guarded : AccessGuard α) : String :=
  "AccessGuard \x7b locked: " ++ (if guarded.isLocked then "true" else "false") ++ " \x7d"

end AccessGuard

end Reflection
