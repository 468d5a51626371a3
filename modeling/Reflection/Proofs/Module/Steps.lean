import Reflection.Module.Run

/-!
# What one operation on a registry does

An operation either refuses and leaves everything as it was, or runs a hook and then settles the
module. Each way a load or an unload can go has one equation here, and `ModuleRegistry.Moved` says
what a registry keeps while one of its modules changes its status and its types. Later arguments
about registries use these and do not open the operations again.
-/
namespace Reflection

namespace ModuleRegistry

variable {registry before after : ModuleRegistry} {id : String} {info : ModuleInfo}

/-! ### When an operation is allowed -/

/-- A dependency that is active at a version that will do. -/
def Meets (registry : ModuleRegistry) (dependency : Dependency) : Prop :=
  ∃ found, registry.info.find? dependency.id = some found ∧ found.status = .active ∧
    found.version.isCompatibleWith dependency.version = true

/-- No dependency is reported exactly when all of them are met. -/
theorem unmetDependency_eq_none_iff (id : String) {dependencies : List Dependency} :
    registry.unmetDependency id dependencies = none ↔
      ∀ dependency ∈ dependencies, registry.Meets dependency := by
  induction dependencies with
  | nil => simp [unmetDependency]
  | cons dependency rest ih =>
    simp only [unmetDependency, List.forall_mem_cons]
    cases looked : registry.info.find? dependency.id with
    | none => simp [Meets, looked]
    | some found =>
      by_cases active : found.status = .active
      · by_cases fits : found.version.isCompatibleWith dependency.version = true
        · simp [Meets, looked, active, fits, Option.filter, ih]
        · simp [Meets, looked, active, fits, Option.filter]
      · simp [Meets, looked, active, Option.filter]

/-- A module may be loaded exactly when it is known, at rest, and all it depends on is met. -/
theorem loadable_eq_ok_iff :
    registry.loadable id = .ok info ↔
      registry.info.find? id = some info ∧ (info.status = .registered ∨ info.status = .failed) ∧
        ∀ dependency ∈ info.dependencies, registry.Meets dependency := by
  rw [← unmetDependency_eq_none_iff id]
  unfold loadable
  cases registry.info.find? id with
  | none => simp
  | some found =>
    by_cases resting : found.status = .registered ∨ found.status = .failed
    · cases unmet : registry.unmetDependency id found.dependencies with
      | none =>
        simp only [resting, if_true, unmet, Except.ok.injEq, Option.some.injEq]
        constructor
        · rintro rfl
          exact ⟨rfl, resting, unmet⟩
        · exact fun facts => facts.1
      | some error =>
        simp only [resting, if_true, unmet, reduceCtorEq, Option.some.injEq, false_iff]
        rintro ⟨rfl, _, missing⟩
        simp [unmet] at missing
    · simp only [resting, if_false, reduceCtorEq, Option.some.injEq, false_iff]
      rintro ⟨rfl, settled, _⟩
      exact resting settled

/-- No dependent is reported exactly when no active module depends on the module. -/
theorem activeDependent_eq_none_iff :
    registry.activeDependent id = none ↔
      ∀ other found, registry.info.find? other = some found → found.status = .active →
        ∀ dependency ∈ found.dependencies, dependency.id ≠ id := by
  simp only [activeDependent, Option.map_eq_none_iff, List.find?_eq_none,
    Dictionary.mem_values_iff]
  constructor
  · intro none_found other found looked active dependency mem same
    apply none_found found ⟨other, looked⟩
    simp only [active, decide_true, Bool.true_and, List.any_eq_true, decide_eq_true_eq]
    exact ⟨dependency, mem, same⟩
  · rintro apart found ⟨other, looked⟩ depends
    simp only [Bool.and_eq_true, decide_eq_true_eq, List.any_eq_true] at depends
    obtain ⟨active, dependency, mem, same⟩ := depends
    exact apart other found looked active dependency mem same

/-- A module may be unloaded exactly when it is active and no active module depends on it. -/
theorem unloadable_eq_ok_iff :
    registry.unloadable id = .ok info ↔
      registry.info.find? id = some info ∧ info.status = .active ∧
        registry.activeDependent id = none := by
  unfold unloadable
  cases registry.info.find? id with
  | none => simp
  | some found =>
    by_cases active : found.status = .active
    · cases needed : registry.activeDependent id with
      | none =>
        simp only [active, ne_eq, not_true, if_false, Except.ok.injEq, Option.some.injEq,
          and_true]
        constructor
        · rintro rfl
          exact ⟨rfl, active⟩
        · exact fun facts => facts.1
      | some dependent => simp [active]
    · simp only [active, ne_eq, not_false_iff, if_true, reduceCtorEq, Option.some.injEq,
        false_iff]
      rintro ⟨rfl, running, _⟩
      exact active running

/-! ### What a registry keeps -/

/-- One module of a registry has another status and other types; all else that is known of it and
of every other module is as before. -/
structure Moved (before after : ModuleRegistry) (id : String) (status : ModuleStatus)
    (types : List String) : Prop where
  /-- The modules are over the same database. -/
  database : after.database = before.database
  /-- No module comes or goes. -/
  modules : ∀ name, after.modules.contains name = before.modules.contains name
  /-- What is known changes in the status and the types of the one module. -/
  info : ∀ name, after.info.find? name =
    if id = name then (before.info.find? name).map ({ · with status, types })
    else before.info.find? name

/-- The registry in which a module has a passing status and its hook has ended. -/
def passing (registry : ModuleRegistry) (id : String) (status : ModuleStatus) (ending : Ending) :
    ModuleRegistry :=
  (registry.setStatus id status).remember id ending

/-- Remembering a run of a hook keeps all modules. -/
theorem contains_passing (name : String) (status : ModuleStatus) (ending : Ending) :
    (registry.passing id status ending).modules.contains name =
      registry.modules.contains name := by
  simp only [passing, remember, setStatus, Dictionary.contains, Dictionary.find?_modify]
  split <;> simp

/-- A module is known with the passing status while its hook runs. -/
theorem find?_passing (name : String) (status : ModuleStatus) (ending : Ending) :
    (registry.passing id status ending).info.find? name =
      if id = name then (registry.info.find? name).map ({ · with status })
      else registry.info.find? name := by
  simp only [passing, remember, setStatus, Dictionary.find?_modify]

/-- A module whose load hook failed, and which had no types, is failed without types. -/
theorem moved_of_failed {ending : Ending} (found : registry.info.find? id = some info)
    (bare : info.types = []) :
    Moved registry ((registry.passing id .loading ending).setStatus id .failed) id .failed [] where
  database := rfl
  modules name := contains_passing name .loading ending
  info name := by
    simp only [setStatus, Dictionary.find?_modify, find?_passing]
    by_cases same : id = name
    · subst same
      simp [found, bare]
    · simp [same]

/-- A module whose load hook ended well is active with the types it brought. -/
theorem moved_of_loaded {ending : Ending} {types order : List String} :
    Moved registry
      { registry.passing id .loading ending with
        info := (registry.passing id .loading ending).info.modify id
          ({ · with types, status := .active })
        loadOrder := order } id .active types where
  database := rfl
  modules name := contains_passing name .loading ending
  info name := by
    simp only [Dictionary.find?_modify, find?_passing]
    by_cases same : id = name
    · simp [same, Function.comp_def]
    · simp [same]

/-- A module whose unload hook ended has left all its types behind. -/
theorem moved_of_unloaded {ending : Ending} {status : ModuleStatus} {order : List String} :
    Moved registry
      (setStatus
        { registry.passing id .unloading ending with
          info := (registry.passing id .unloading ending).info.modify id ({ · with types := [] })
          loadOrder := order } id status) id status [] where
  database := rfl
  modules name := contains_passing name .unloading ending
  info name := by
    simp only [setStatus, Dictionary.find?_modify, find?_passing]
    by_cases same : id = name
    · simp [same, Function.comp_def]
    · simp [same]

/-- The registry to which a module was added. -/
def entered (registry : ModuleRegistry) (module : Module) : ModuleRegistry :=
  { registry with
    modules := registry.modules.insert module.id module
    info := registry.info.insert module.id module.info }

/-- What is known after a module was added was known before or is about the new module. -/
theorem find?_entered {module : Module}
    (found : (registry.entered module).info.find? id = some info) :
    (module.id = id ∧ info = module.info) ∨ registry.info.find? id = some info := by
  simp only [entered, Dictionary.find?_insert] at found
  split at found
  · rename_i same
    exact .inl ⟨same, (Option.some.inj found).symm⟩
  · exact .inr found

/-- Adding a module changes nothing that is known of the others. -/
theorem find?_entered_of_ne {module : Module} (different : module.id ≠ id) :
    (registry.entered module).info.find? id = registry.info.find? id :=
  Dictionary.find?_insert_of_ne _ _ different

end ModuleRegistry

namespace ModuleHost

variable {host : ModuleHost} {id : String} {info : ModuleInfo} {error : ModuleError}

/-! ### The ways an operation can go -/

/-- The actions a hook of a module takes now; a module that is not there takes none. -/
def actions (host : ModuleHost) (id : String) (hook : Module → Hook) : List Action :=
  (host.actions? id hook).getD []

/-- A module that is there has actions to take. -/
theorem actions?_of_present (present : host.registry.modules.contains id = true)
    (hook : Module → Hook) : host.actions? id hook = some (host.actions id hook) := by
  obtain ⟨module, found⟩ := Option.isSome_iff_exists.1 present
  simp [actions, actions?, found]

/-- A module that is not there has none. -/
theorem actions?_of_absent (absent : host.registry.modules.contains id = false)
    (hook : Module → Hook) : host.actions? id hook = none := by
  have missing : host.registry.modules.find? id = none := by
    simpa [Dictionary.contains] using absent
  simp [actions?, missing]

/-- The run of the load hook of a module. -/
def loadRun (host : ModuleHost) (id : String) : Logged (HookEnd × List Trace × HookState) :=
  ((host.registry.setStatus id .loading).context id).run ⟨host.store, []⟩
    (host.actions id (·.onLoad))

/-- The run of the unload hook of a module that brought some types. -/
def unloadRun (host : ModuleHost) (id : String) (types : List String) :
    Logged (HookEnd × List Trace × HookState) :=
  ((host.registry.setStatus id .unloading).context id).run ⟨host.store, types⟩
    (host.actions id (·.onUnload))

/-- The registry in which the load hook of a module has ended. -/
def loading (host : ModuleHost) (id : String) : ModuleRegistry :=
  host.registry.passing id .loading (host.loadRun id).value.1.ending

/-- The registry in which the unload hook of a module has ended. -/
def unloading (host : ModuleHost) (id : String) (types : List String) : ModuleRegistry :=
  host.registry.passing id .unloading (host.unloadRun id types).value.1.ending

/-- The resets that follow a load hook that failed. -/
def loadResets (host : ModuleHost) (id : String) : Logged Store :=
  (host.loading id).resetTypes (host.loadRun id).value.2.2.store id
    (host.loadRun id).value.2.2.reflected

/-- The resets that follow an unload hook. -/
def unloadResets (host : ModuleHost) (id : String) (types : List String) : Logged Store :=
  (host.unloading id types).resetTypes (host.unloadRun id types).value.2.2.store id
    (host.unloadRun id types).value.2.2.reflected

/-- Registering a module under a name that is taken does nothing. -/
theorem register_of_taken {module : Module}
    (taken : host.registry.modules.contains module.id = true) :
    host.register module = pure ({ result := .error (.alreadyRegistered module.id) }, host) := by
  simp [register, ModuleRegistry.register, taken]

/-- Registering a module under a new name adds it. -/
theorem register_of_new {module : Module}
    (new : host.registry.modules.contains module.id = false) :
    (host.register module).value =
        ({ result := .ok () }, ⟨host.registry.entered module, host.store⟩) ∧
      (host.register module).notes =
        [⟨some .debug, s!"Registered module '{module.id}' {module.version.text}"⟩] := by
  unfold register ModuleRegistry.register
  rw [new]
  exact ⟨rfl, rfl⟩

/-- A load that is refused does nothing. -/
theorem load_of_refused (refused : host.registry.loadable id = .error error) :
    host.load id = pure ({ result := .error error }, host) := by
  simp [load, refused]

/-- A load of a module that is known but not there finds none and leaves it in passing. -/
theorem load_of_absent (allowed : host.registry.loadable id = .ok info)
    (absent : host.registry.modules.contains id = false) :
    host.load id = pure ({ result := .error (.notFound id) },
      { host with registry := host.registry.setStatus id .loading }) := by
  simp [load, allowed, actions?_of_absent absent]

/-- A load whose hook fails resets what the hook brought and marks the module failed. -/
theorem load_of_failed (allowed : host.registry.loadable id = .ok info)
    (present : host.registry.modules.contains id = true)
    (failed : (host.loadRun id).value.1.result = .error error) :
    (host.load id).value =
        ({ result := .error error, traces := (host.loadRun id).value.2.1 },
          ⟨(host.loading id).setStatus id .failed, (host.loadResets id).value⟩) ∧
      (host.load id).notes =
        (host.loadRun id).notes ++
          ⟨some .warn, s!"Module '{id}' failed to load: {error.message}"⟩ ::
          (host.loadResets id).notes := by
  unfold load loadResets loading
  simp only [allowed, actions?_of_present present]
  generalize ran : host.loadRun id = run at failed
  rw [loadRun] at ran
  rw [ran]
  obtain ⟨⟨⟨ending, result⟩, traces, state⟩, notes⟩ := run
  obtain rfl : result = .error error := failed
  constructor
  · rfl
  · simp [ModuleRegistry.passing]

/-- A load whose hook ends well makes the module active, the last in load order. -/
theorem load_of_completed (allowed : host.registry.loadable id = .ok info)
    (present : host.registry.modules.contains id = true)
    (completed : (host.loadRun id).value.1.result = .ok ()) :
    (host.load id).value =
        ({ result := .ok (), traces := (host.loadRun id).value.2.1 },
          ⟨{ host.loading id with
              info := (host.loading id).info.modify id
                ({ · with types := (host.loadRun id).value.2.2.reflected, status := .active })
              loadOrder := host.registry.loadOrder ++ [id] },
            (host.loadRun id).value.2.2.store⟩) ∧
      (host.load id).notes =
        (host.loadRun id).notes ++
          [⟨some .info,
            s!"Loaded module '{id}' ({(host.loadRun id).value.2.2.reflected.length} types)"⟩] := by
  unfold load loading
  simp only [allowed, actions?_of_present present]
  generalize ran : host.loadRun id = run at completed
  rw [loadRun] at ran
  rw [ran]
  obtain ⟨⟨⟨ending, result⟩, traces, state⟩, notes⟩ := run
  obtain rfl : result = .ok () := completed
  constructor
  · rfl
  · simp

/-- An unload that is refused does nothing. -/
theorem unload_of_refused (refused : host.registry.unloadable id = .error error) :
    host.unload id = pure ({ result := .error error }, host) := by
  simp [unload, refused]

/-- The status in which an unload leaves a module. -/
def settled : Except ModuleError Unit → ModuleStatus
  | .ok () => .registered
  | .error _ => .failed

/-- The closing note of an unload. -/
def closing (id : String) : Except ModuleError Unit → Note
  | .ok () => ⟨some .info, s!"Unloaded module '{id}'"⟩
  | .error error => ⟨some .warn, s!"Module '{id}' failed to unload cleanly: {error.message}"⟩

/-- An unload of a module that is known but not there finds none and leaves it in passing. -/
theorem unload_of_absent (allowed : host.registry.unloadable id = .ok info)
    (absent : host.registry.modules.contains id = false) :
    host.unload id = pure ({ result := .error (.notFound id) },
      { host with registry := host.registry.setStatus id .unloading }) := by
  simp [unload, allowed, actions?_of_absent absent]

/-- An unload that is allowed takes the module out of load order and resets its types, whether its
hook ends well or not. -/
theorem unload_of_allowed (allowed : host.registry.unloadable id = .ok info)
    (present : host.registry.modules.contains id = true) :
    (host.unload id).value =
        ({ result := (host.unloadRun id info.types).value.1.result,
            traces := (host.unloadRun id info.types).value.2.1 },
          ⟨ModuleRegistry.setStatus
              { host.unloading id info.types with
                info := (host.unloading id info.types).info.modify id ({ · with types := [] })
                loadOrder := host.registry.loadOrder.filter (· ≠ id) } id
              (settled (host.unloadRun id info.types).value.1.result),
            (host.unloadResets id info.types).value⟩) ∧
      (host.unload id).notes =
        (host.unloadRun id info.types).notes ++ (host.unloadResets id info.types).notes ++
          [closing id (host.unloadRun id info.types).value.1.result] := by
  unfold unload unloadResets unloading
  simp only [allowed, actions?_of_present present]
  generalize ran : host.unloadRun id info.types = run
  rw [unloadRun] at ran
  rw [ran]
  obtain ⟨⟨⟨ending, result⟩, traces, state⟩, notes⟩ := run
  cases result with
  | ok =>
    constructor
    · rfl
    · simp [closing, ModuleRegistry.passing]
  | error error =>
    constructor
    · rfl
    · simp [closing, ModuleRegistry.passing]

end ModuleHost

end Reflection
