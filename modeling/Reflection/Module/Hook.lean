import Reflection.Any.Call
import Reflection.Module.Basic

/-!
# Running hooks

A hook acts through its context, which remembers the name of every type the module brings. A name
is the module's own if some module already lists it or it is not registered yet; a type that was
registered outside of all modules is only extended, and stays when the module leaves.
-/
namespace Reflection

/-- What a hook can see while it runs. -/
structure HookContext where
  /-- The module the hook belongs to. -/
  module : String
  /-- The database types are registered in. -/
  database : String
  /-- What the registry knows of all modules. -/
  modules : Dictionary ModuleInfo

/-- What a hook changes while it runs. -/
structure HookState where
  store : Store
  /-- The names of the types the module brought so far. -/
  reflected : List String

/-- Something a hook recorded. -/
inductive Trace where
  | reflected (type : String) (remarks : List Remark)
  | constructed (value : Any)
  | found (valid : Bool)
  | about (module : String) (reflected : List String)
  deriving DecidableEq, Repr

/-- The end of a run: how it ended for the module, and what it answers. -/
structure HookEnd where
  ending : Ending
  result : Except ModuleError Unit

namespace HookContext

/-- Whether some module lists a name among its types. -/
def claimed (context : HookContext) (name : String) : Bool :=
  context.modules.values.any fun info => info.types.contains name

/-- Whether another module is active. -/
def isActive (context : HookContext) (id : String) : Bool :=
  match context.modules.find? id with
  | some info => info.status = .active
  | none => false

/-- Remember that the module brings a type, if it does. -/
def record (context : HookContext) (state : HookState) (type : Ty) : Logged HookState := do
  let name := state.store.types.name type
  if state.reflected.contains name then pure state
  else if context.claimed name || !(state.store.database context.database).contains name then
    pure { state with reflected := state.reflected ++ [name] }
  else
    Logged.note .debug s!"Module '{context.module}' extends external type '{name}'"
    pure state

/-- Register a type through the context. -/
def reflect (context : HookContext) (state : HookState) (type : Ty) (chain : List ChainStep) :
    Logged (List Remark × HookState) := do
  let state ← context.record state type
  let (remarks, store) ← state.store.reflect context.database type chain
  pure (remarks, { state with store })

/-- Run actions until one fails: how the run ended, what was recorded, and the state after it. -/
def run (context : HookContext) (state : HookState) :
    List Action → Logged (HookEnd × List Trace × HookState)
  | [] => pure (⟨.completed, .ok ()⟩, [], state)
  | .reflect type chain :: rest => do
    let (remarks, after) ← context.reflect state type chain
    let (finish, traces, last) ← context.run after rest
    pure (finish, .reflected (state.store.types.name type) remarks :: traces, last)
  | .fail message :: _ => pure (⟨.failed, .error (.failed context.module message)⟩, [], state)
  | .require id :: rest =>
    if context.isActive id then context.run state rest
    else
      pure (⟨.prevented, .error (.failed context.module s!"{id} inactive")⟩, [], state)
  | .construct name :: rest => do
    let type := (state.store.database context.database).get name
    match ← state.store.types.construct type [] with
    | (.error error, _) => pure (⟨.prevented, .error (.reflection error)⟩, [], state)
    | (.ok value, _) =>
      let (finish, traces, last) ← context.run state rest
      pure (finish, .constructed value :: traces, last)
  | .lookup name :: rest => do
    let found := ((state.store.database context.database).get name).isSome
    let (finish, traces, last) ← context.run state rest
    pure (finish, .found found :: traces, last)
  | .trace :: rest => do
    let (finish, traces, last) ← context.run state rest
    pure (finish, .about context.module state.reflected :: traces, last)

end HookContext

end Reflection
