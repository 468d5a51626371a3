import Reflection.Module.Hook

/-!
# Module registries

A registry loads and unloads the modules registered with it. A module is loaded only while all it
depends on is active at a compatible version, and unloaded only while no active module depends on
it, so dependencies stand before their dependents in load order. When a module leaves, or its
load hook fails, every type it brought is reset unless another active module uses it too.
-/
namespace Reflection

/-- Modules and what is known of them, over one database. -/
structure ModuleRegistry where
  database : String
  modules : Dictionary Module := .empty
  info : Dictionary ModuleInfo := .empty
  /-- The active modules in the order in which they were loaded. -/
  loadOrder : List String := []

/-- A registry and the store its modules act on. -/
structure ModuleHost where
  registry : ModuleRegistry
  store : Store

/-- What an operation answers, and what hooks recorded meanwhile. -/
structure ModuleOutcome where
  result : Except ModuleError Unit
  traces : List Trace := []

namespace ModuleRegistry

/-- The registry over a database in which no module is registered. -/
def ofDatabase (database : String) : ModuleRegistry := ⟨database, .empty, .empty, []⟩

/-- Where a module stands. -/
def status (registry : ModuleRegistry) (id : String) : Option ModuleStatus :=
  (registry.info.find? id).map (·.status)

/-- Move a module to another status. -/
def setStatus (registry : ModuleRegistry) (id : String) (status : ModuleStatus) :
    ModuleRegistry :=
  { registry with info := registry.info.modify id ({ · with status }) }

/-- Register a module. -/
def register (registry : ModuleRegistry) (module : Module) :
    Logged (Except ModuleError Unit × ModuleRegistry) := do
  if registry.modules.contains module.id then
    pure (.error (.alreadyRegistered module.id), registry)
  else
    Logged.note .debug s!"Registered module '{module.id}' {module.version.text}"
    pure (.ok (),
      { registry with
        modules := registry.modules.insert module.id module
        info := registry.info.insert module.id module.info })

/-- What is wrong with the first dependency that is not satisfied. -/
def unmetDependency (registry : ModuleRegistry) (id : String) :
    List Dependency → Option ModuleError
  | [] => none
  | dependency :: rest =>
    match (registry.info.find? dependency.id).filter (·.status = .active) with
    | none => some (.missingDependency id dependency.id)
    | some found =>
      if found.version.isCompatibleWith dependency.version then registry.unmetDependency id rest
      else some (.versionMismatch id dependency.id dependency.version found.version)

/-- Why a module cannot be loaded, or what is known of it. -/
def loadable (registry : ModuleRegistry) (id : String) : Except ModuleError ModuleInfo :=
  match registry.info.find? id with
  | none => .error (.notFound id)
  | some info =>
    if info.status = .registered ∨ info.status = .failed then
      match registry.unmetDependency id info.dependencies with
      | some error => .error error
      | none => .ok info
    else .error (.invalidState id info.status)

/-- The first active module that depends on another. -/
def activeDependent (registry : ModuleRegistry) (id : String) : Option String :=
  (registry.info.values.find? fun info =>
    info.status = .active && info.dependencies.any (·.id = id)).map (·.id)

/-- Why a module cannot be unloaded, or what is known of it. -/
def unloadable (registry : ModuleRegistry) (id : String) : Except ModuleError ModuleInfo :=
  match registry.info.find? id with
  | none => .error (.notFound id)
  | some info =>
    if info.status ≠ .active then .error (.invalidState id info.status)
    else match registry.activeDependent id with
      | some dependent => .error (.inUse id dependent)
      | none => .ok info

/-- Another active module that uses a type. -/
def typeUser (registry : ModuleRegistry) (id type : String) : Option String :=
  (registry.info.values.find? fun info =>
    info.id ≠ id && info.status = .active && info.types.contains type).map (·.id)

/-- Reset the types a module brought, except those another active module uses. -/
def resetTypes (registry : ModuleRegistry) (store : Store) (id : String) :
    List String → Logged Store
  | [] => pure store
  | type :: rest => do
    match registry.typeUser id type with
    | some user =>
      Logged.note .debug s!"Type '{type}' is still used by module '{user}'"
      registry.resetTypes store id rest
    | none =>
      let (existed, store) ← store.reset registry.database type
      if !existed then
        Logged.note .debug s!"Type '{type}' was not registered at reset"
      registry.resetTypes store id rest

/-- The registry after a hook of a module has run. -/
def remember (registry : ModuleRegistry) (id : String) (ending : Ending) : ModuleRegistry :=
  { registry with
    modules := registry.modules.modify id fun module =>
      { module with history := ending :: module.history } }

/-- What a hook of a module can see. -/
def context (registry : ModuleRegistry) (id : String) : HookContext :=
  ⟨id, registry.database, registry.info⟩

end ModuleRegistry

namespace ModuleHost

/-- The actions a hook of a module takes now, if the module is there. -/
def actions? (host : ModuleHost) (id : String) (hook : Module → Hook) : Option (List Action) :=
  (host.registry.modules.find? id).map fun module => hook module module.history

/-- Register a module. -/
def register (host : ModuleHost) (module : Module) : Logged (ModuleOutcome × ModuleHost) := do
  let (result, registry) ← host.registry.register module
  pure (⟨result, []⟩, { host with registry })

/-- Load a module. -/
def load (host : ModuleHost) (id : String) : Logged (ModuleOutcome × ModuleHost) := do
  match host.registry.loadable id with
  | .error error => pure ({ result := .error error }, host)
  | .ok _ =>
    let registry := host.registry.setStatus id .loading
    match host.actions? id (·.onLoad) with
    | none => pure ({ result := .error (.notFound id) }, { host with registry })
    | some actions =>
      let (finish, traces, state) ← (registry.context id).run ⟨host.store, []⟩ actions
      let registry := registry.remember id finish.ending
      match finish.result with
      | .error error =>
        Logged.note .warn s!"Module '{id}' failed to load: {error.message}"
        let store ← registry.resetTypes state.store id state.reflected
        pure ({ result := .error error, traces }, ⟨registry.setStatus id .failed, store⟩)
      | .ok () =>
        Logged.note .info s!"Loaded module '{id}' ({state.reflected.length} types)"
        let info := registry.info.modify id
          ({ · with types := state.reflected, status := .active })
        pure ({ result := .ok (), traces },
          ⟨{ registry with info, loadOrder := registry.loadOrder ++ [id] }, state.store⟩)

/-- Unload a module. -/
def unload (host : ModuleHost) (id : String) : Logged (ModuleOutcome × ModuleHost) := do
  match host.registry.unloadable id with
  | .error error => pure ({ result := .error error }, host)
  | .ok info =>
    let registry := host.registry.setStatus id .unloading
    match host.actions? id (·.onUnload) with
    | none => pure ({ result := .error (.notFound id) }, { host with registry })
    | some actions =>
      let (finish, traces, state) ← (registry.context id).run ⟨host.store, info.types⟩ actions
      let registry := registry.remember id finish.ending
      let store ← registry.resetTypes state.store id state.reflected
      let registry :=
        { registry with
          info := registry.info.modify id ({ · with types := [] })
          loadOrder := registry.loadOrder.filter (· ≠ id) }
      match finish.result with
      | .ok () =>
        Logged.note .info s!"Unloaded module '{id}'"
        pure ({ result := .ok (), traces }, ⟨registry.setStatus id .registered, store⟩)
      | .error error =>
        Logged.note .warn s!"Module '{id}' failed to unload cleanly: {error.message}"
        pure ({ result := .error error, traces }, ⟨registry.setStatus id .failed, store⟩)

/-- Unload some modules one after another; the first error is kept and the others go on. -/
def unloadEach (host : ModuleHost) : List String → Logged (ModuleOutcome × ModuleHost)
  | [] => pure ({ result := .ok () }, host)
  | id :: rest => do
    let (first, host) ← host.unload id
    let (others, host) ← host.unloadEach rest
    let result := match first.result with
      | .error error => .error error
      | .ok () => others.result
    pure ({ result, traces := first.traces ++ others.traces }, host)

/-- Unload all active modules, the one loaded last first. -/
def unloadAll (host : ModuleHost) : Logged (ModuleOutcome × ModuleHost) :=
  host.unloadEach host.registry.loadOrder.reverse

end ModuleHost

end Reflection
