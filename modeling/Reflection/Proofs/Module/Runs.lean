import Reflection.Proofs.Module.Steps

/-!
# Induction over runs

What a hook does to a store is what the reflections it carries out do, one after another, so a
property that these keep is kept by the hook. In the same way a property that registering, loading
and unloading one module keep is kept by every run of operations. Both inductions may ask of the
reflections that are really carried out whatever they need, and of no others.
-/
namespace Reflection

namespace HookContext

variable {context : HookContext} {state : HookState}

/-- The reflections that a run carries out: those up to the first action that fails. -/
def reflections (context : HookContext) (state : HookState) :
    List Action → List (Ty × List ChainStep)
  | [] => []
  | .reflect type chain :: rest =>
    (type, chain) :: context.reflections (context.reflect state type chain).value.2 rest
  | .fail _ :: _ => []
  | .require id :: rest => if context.isActive id then context.reflections state rest else []
  | .construct name :: rest =>
    match (state.store.types.construct ((state.store.database context.database).get name)
        []).outcome with
    | .error _ => []
    | .ok _ => context.reflections state rest
  | .lookup _ :: rest => context.reflections state rest
  | .trace :: rest => context.reflections state rest

/-- What every reflection that a run carries out keeps, the run keeps. -/
theorem run_induction (kept : HookState → Prop) {allowed : Ty × List ChainStep → Prop}
    (step : ∀ state type chain, allowed (type, chain) → kept state →
      kept (context.reflect state type chain).value.2)
    {actions : List Action}
    (every : ∀ reflection ∈ context.reflections state actions, allowed reflection)
    (start : kept state) : kept (context.run state actions).value.2.2 := by
  induction actions generalizing state with
  | nil => exact start
  | cons action rest ih =>
    cases action with
    | reflect type chain =>
      obtain ⟨first, later⟩ := List.forall_mem_cons.1 every
      exact ih later (step state type chain first start)
    | fail message => exact start
    | require id =>
      unfold run
      unfold reflections at every
      split
      · rename_i active
        rw [if_pos active] at every
        exact ih every start
      · exact start
    | construct name =>
      simp only [reflections] at every
      simp only [run, Logged.value_bind]
      split
      · exact start
      · rename_i made
        rw [Acted.outcome_eq_ok_iff.2 made] at every
        exact ih every start
    | lookup name => exact ih every start
    | trace => exact ih every start

end HookContext

namespace ModuleHost

variable {host : ModuleHost}

/-- The reflections that a load carries out. -/
def loadReflections (host : ModuleHost) (id : String) : List (Ty × List ChainStep) :=
  match host.registry.loadable id with
  | .error _ => []
  | .ok _ =>
    ((host.registry.setStatus id .loading).context id).reflections ⟨host.store, []⟩
      (host.actions id (·.onLoad))

/-- The reflections that an unload carries out. -/
def unloadReflections (host : ModuleHost) (id : String) : List (Ty × List ChainStep) :=
  match host.registry.unloadable id with
  | .error _ => []
  | .ok info =>
    ((host.registry.setStatus id .unloading).context id).reflections ⟨host.store, info.types⟩
      (host.actions id (·.onUnload))

/-- The reflections that unloads carry out one after another. -/
def eachReflections (host : ModuleHost) : List String → List (Ty × List ChainStep)
  | [] => []
  | id :: rest => host.unloadReflections id ++ (host.unload id).value.2.eachReflections rest

/-- The reflections that an operation carries out. -/
def reflections (host : ModuleHost) : ModuleOperation → List (Ty × List ChainStep)
  | .register _ => []
  | .load id => host.loadReflections id
  | .unload id => host.unloadReflections id
  | .unloadAll => host.eachReflections host.registry.loadOrder.reverse

/-- The reflections that a run of operations carries out. -/
def allReflections (host : ModuleHost) : List ModuleOperation → List (Ty × List ChainStep)
  | [] => []
  | operation :: rest =>
    host.reflections operation ++ (host.perform operation).value.2.allReflections rest

/-- A property of hosts that every operation on one module keeps if the reflections it carries out
are allowed. -/
structure Keeps (kept : ModuleHost → Prop) (allowed : Ty × List ChainStep → Prop) : Prop where
  register : ∀ host module, kept host → kept (host.register module).value.2
  load : ∀ host id, (∀ reflection ∈ host.loadReflections id, allowed reflection) →
    kept host → kept (host.load id).value.2
  unload : ∀ host id, (∀ reflection ∈ host.unloadReflections id, allowed reflection) →
    kept host → kept (host.unload id).value.2

namespace Keeps

variable {kept : ModuleHost → Prop} {allowed : Ty × List ChainStep → Prop}

/-- What single unloads keep, several keep. -/
theorem unloadEach (keeps : Keeps kept allowed) (ids : List String)
    (every : ∀ reflection ∈ host.eachReflections ids, allowed reflection) (start : kept host) :
    kept (host.unloadEach ids).value.2 := by
  induction ids generalizing host with
  | nil => exact start
  | cons id rest ih =>
    obtain ⟨first, later⟩ := List.forall_mem_append.1 every
    exact ih later (keeps.unload host id first start)

/-- What operations on one module keep, every operation keeps. -/
theorem perform (keeps : Keeps kept allowed) (operation : ModuleOperation)
    (every : ∀ reflection ∈ host.reflections operation, allowed reflection) (start : kept host) :
    kept (host.perform operation).value.2 := by
  cases operation with
  | register module => exact keeps.register host module start
  | load id => exact keeps.load host id every start
  | unload id => exact keeps.unload host id every start
  | unloadAll => exact keeps.unloadEach _ every start

/-- What operations on one module keep, every run keeps. -/
theorem after (keeps : Keeps kept allowed) (operations : List ModuleOperation)
    (every : ∀ reflection ∈ host.allReflections operations, allowed reflection)
    (start : kept host) : kept (host.after operations) := by
  induction operations generalizing host with
  | nil => exact start
  | cons operation rest ih =>
    obtain ⟨first, later⟩ := List.forall_mem_append.1 every
    exact ih later (keeps.perform operation first start)

end Keeps

end ModuleHost

end Reflection
