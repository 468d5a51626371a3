import Reflection.Proofs.Module.Ownership
import Reflection.Proofs.Module.Unloading

/-!
# Operations fail cleanly

An operation on a registry either refuses before it changes anything, or runs a hook.
`ModuleRegistry.LoadFault` and `ModuleRegistry.UnloadFault` are the reasons to refuse, one
constructor for each, and the operations refuse for exactly these. A load whose hook fails has
changed the registry and the database on its way; `ModuleHost.Restored` says how much of that is
taken back.
-/
namespace Reflection

/-- The first value that passes a test, in the order of names, stands under the least name of those
whose values pass. -/
theorem Dictionary.find?_values_eq_some_iff {α : Type} {dictionary : Dictionary α}
    {test : α → Bool} {value : α} :
    dictionary.values.find? test = some value ↔
      ∃ name, dictionary.find? name = some value ∧ test value = true ∧
        ∀ other found, dictionary.find? other = some found → test found = true → ¬ other < name := by
  obtain ⟨entries, sorted⟩ := dictionary
  simp only [Dictionary.values, Dictionary.find?_eq_some_iff]
  induction entries with
  | nil => simp
  | cons first rest ih =>
    obtain ⟨key, head⟩ := first
    obtain ⟨above, later⟩ := List.pairwise_cons.1 sorted
    by_cases passes : test head = true
    · rw [List.map_cons, List.find?_cons_of_pos passes]
      constructor
      · intro same
        obtain rfl := Option.some.inj same
        refine ⟨key, List.mem_cons_self, passes, fun other found mem _ before => ?_⟩
        rcases List.mem_cons.1 mem with same | behind
        · obtain ⟨rfl, rfl⟩ := Prod.mk.inj same
          exact String.lt_irrefl _ before
        · exact String.lt_irrefl _ (String.lt_trans before (above _ behind))
      · rintro ⟨name, mem, _, least⟩
        rcases List.mem_cons.1 mem with same | behind
        · obtain ⟨_, rfl⟩ := Prod.mk.inj same
          rfl
        · exact absurd (above _ behind) (least key head List.mem_cons_self passes)
    · rw [List.map_cons, List.find?_cons_of_neg passes, ih later]
      refine exists_congr fun name => ?_
      constructor
      · rintro ⟨mem, passing, least⟩
        refine ⟨List.mem_cons_of_mem _ mem, passing, fun other found among => ?_⟩
        rcases List.mem_cons.1 among with same | behind
        · obtain ⟨_, rfl⟩ := Prod.mk.inj same
          exact fun passed => absurd passed passes
        · exact least other found behind
      · rintro ⟨mem, passing, least⟩
        rcases List.mem_cons.1 mem with same | behind
        · obtain ⟨_, rfl⟩ := Prod.mk.inj same
          exact absurd passing passes
        · exact ⟨behind, passing, fun other found among =>
            least other found (List.mem_cons_of_mem _ among)⟩

namespace ModuleRegistry

variable {registry : ModuleRegistry} {id : String} {error : ModuleError}

/-! ### Reasons to refuse a load -/

/-- What is wrong with one dependency of a module. -/
inductive Unmet (registry : ModuleRegistry) (id : String) (dependency : Dependency) :
    ModuleError → Prop where
  /-- It is not active. -/
  | missing (inactive : registry.status dependency.id ≠ some .active) :
      Unmet registry id dependency (.missingDependency id dependency.id)
  /-- It is active at a version that will not do. -/
  | mismatch {known : ModuleInfo} (found : registry.info.find? dependency.id = some known)
      (active : known.status = .active)
      (incompatible : known.version.isCompatibleWith dependency.version = false) :
      Unmet registry id dependency
        (.versionMismatch id dependency.id dependency.version known.version)

/-- Why a module cannot be loaded. -/
inductive LoadFault (registry : ModuleRegistry) (id : String) : ModuleError → Prop where
  /-- The module is unknown. -/
  | unknown (absent : registry.info.find? id = none) : LoadFault registry id (.notFound id)
  /-- The module is active already. -/
  | active (active : registry.status id = some .active) :
      LoadFault registry id (.invalidState id .active)
  /-- Something is wrong with a dependency, and those declared before it are met. -/
  | unmet {info : ModuleInfo} {front back : List Dependency} {dependency : Dependency}
      {error : ModuleError} (found : registry.info.find? id = some info)
      (resting : info.status ≠ .active) (declared : info.dependencies = front ++ dependency :: back)
      (met : ∀ earlier ∈ front, registry.Meets earlier)
      (unmet : registry.Unmet id dependency error) : LoadFault registry id error

/-- A dependency is met or something is wrong with it. -/
theorem meets_or_unmet (registry : ModuleRegistry) (id : String) (dependency : Dependency) :
    registry.Meets dependency ∨ ∃ error, registry.Unmet id dependency error := by
  by_cases active : registry.status dependency.id = some .active
  · obtain ⟨known, found, active⟩ := status_eq_some_iff.1 active
    cases compatible : known.version.isCompatibleWith dependency.version with
    | true => exact .inl ⟨known, found, active, compatible⟩
    | false => exact .inr ⟨_, .mismatch found active compatible⟩
  · exact .inr ⟨_, .missing active⟩

/-- A dependency that is met is passed over. -/
theorem unmetDependency_of_meets {dependency : Dependency} {rest : List Dependency}
    (meets : registry.Meets dependency) :
    registry.unmetDependency id (dependency :: rest) = registry.unmetDependency id rest := by
  obtain ⟨known, found, active, compatible⟩ := meets
  simp [unmetDependency, found, active, compatible, Option.filter]

/-- What is wrong with the first dependency is reported. -/
theorem unmetDependency_of_unmet {dependency : Dependency} {rest : List Dependency}
    (unmet : registry.Unmet id dependency error) :
    registry.unmetDependency id (dependency :: rest) = some error := by
  cases unmet with
  | missing inactive =>
    have absent : (registry.info.find? dependency.id).filter (·.status = .active) = none := by
      rw [Option.filter_eq_none_iff]
      intro known found active
      exact inactive (status_eq_some_iff.2 ⟨known, found, of_decide_eq_true active⟩)
    simp only [unmetDependency, absent]
  | mismatch found active incompatible =>
    simp [unmetDependency, found, active, incompatible, Option.filter]

/-- What is reported of dependencies is what is wrong with the first that is not met. -/
theorem unmetDependency_eq_some_iff {dependencies : List Dependency} :
    registry.unmetDependency id dependencies = some error ↔
      ∃ front dependency back, dependencies = front ++ dependency :: back ∧
        (∀ earlier ∈ front, registry.Meets earlier) ∧ registry.Unmet id dependency error := by
  constructor
  · intro reported
    induction dependencies with
    | nil => contradiction
    | cons first rest ih =>
      rcases registry.meets_or_unmet id first with meets | ⟨other, unmet⟩
      · rw [unmetDependency_of_meets meets] at reported
        obtain ⟨front, dependency, back, rfl, met, unmet⟩ := ih reported
        exact ⟨first :: front, dependency, back, rfl, List.forall_mem_cons.2 ⟨meets, met⟩, unmet⟩
      · rw [unmetDependency_of_unmet unmet] at reported
        obtain rfl := Option.some.inj reported
        exact ⟨[], first, rest, rfl, by simp, unmet⟩
  · rintro ⟨front, dependency, back, rfl, met, unmet⟩
    induction front with
    | nil => exact unmetDependency_of_unmet unmet
    | cons first others ih =>
      obtain ⟨meets, met⟩ := List.forall_mem_cons.1 met
      rw [List.cons_append, unmetDependency_of_meets meets]
      exact ih met

/-- Between operations a module that is not active is at rest. -/
theorem Sound.registered_or_failed (sound : registry.Sound) {info : ModuleInfo}
    (found : registry.info.find? id = some info) (resting : info.status ≠ .active) :
    info.status = .registered ∨ info.status = .failed := by
  rcases sound.settled id info found with registered | running | failed
  · exact .inl registered
  · exact absurd running resting
  · exact .inr failed

/-- A load is refused for the reasons there are and no others. -/
theorem Sound.loadable_eq_error_iff (sound : registry.Sound) :
    registry.loadable id = .error error ↔ registry.LoadFault id error := by
  constructor
  · intro refused
    unfold loadable at refused
    cases found : registry.info.find? id with
    | none =>
      rw [found] at refused
      obtain rfl := Except.error.inj refused
      exact .unknown found
    | some info =>
      rw [found] at refused
      by_cases active : info.status = .active
      · obtain rfl : ModuleError.invalidState id .active = error := by
          simpa [active] using refused
        exact .active (status_eq_some_iff.2 ⟨info, found, active⟩)
      · simp only [if_pos (sound.registered_or_failed found active)] at refused
        cases reported : registry.unmetDependency id info.dependencies with
        | none =>
          rw [reported] at refused
          contradiction
        | some other =>
          rw [reported] at refused
          obtain rfl := Except.error.inj refused
          obtain ⟨front, dependency, back, declared, met, unmet⟩ :=
            unmetDependency_eq_some_iff.1 reported
          exact .unmet found active declared met unmet
  · intro fault
    cases fault with
    | unknown absent => simp only [loadable, absent]
    | active active =>
      obtain ⟨info, found, active⟩ := status_eq_some_iff.1 active
      simp [loadable, found, active]
    | @unmet info front back dependency error found resting declared met unmet =>
      have reported : registry.unmetDependency id info.dependencies = some error :=
        unmetDependency_eq_some_iff.2 ⟨front, dependency, back, declared, met, unmet⟩
      simp only [loadable, found, if_pos (sound.registered_or_failed found resting), reported]

/-! ### Reasons to refuse an unload -/

/-- An active module depends on another. -/
def NeededBy (registry : ModuleRegistry) (id dependent : String) : Prop :=
  ∃ known, registry.info.find? dependent = some known ∧ known.status = .active ∧
    ∃ dependency ∈ known.dependencies, dependency.id = id

/-- Why a module cannot be unloaded. -/
inductive UnloadFault (registry : ModuleRegistry) (id : String) : ModuleError → Prop where
  /-- The module is unknown. -/
  | unknown (absent : registry.info.find? id = none) : UnloadFault registry id (.notFound id)
  /-- The module is not active. -/
  | resting {info : ModuleInfo} (found : registry.info.find? id = some info)
      (resting : info.status ≠ .active) : UnloadFault registry id (.invalidState id info.status)
  /-- Some active module depends on it, of which the first by name is reported. -/
  | inUse {dependent : String} (active : registry.status id = some .active)
      (needed : registry.NeededBy id dependent)
      (first : ∀ other, registry.NeededBy id other → ¬ other < dependent) :
      UnloadFault registry id (.inUse id dependent)

/-- The dependent that is reported is the first by name. -/
theorem Sound.activeDependent_eq_some_iff (sound : registry.Sound) {dependent : String} :
    registry.activeDependent id = some dependent ↔
      registry.NeededBy id dependent ∧
        ∀ other, registry.NeededBy id other → ¬ other < dependent := by
  have passes : ∀ known : ModuleInfo,
      (known.status = .active && known.dependencies.any (·.id = id)) = true ↔
        known.status = .active ∧ ∃ dependency ∈ known.dependencies, dependency.id = id := by
    simp
  simp only [activeDependent, Option.map_eq_some_iff, Dictionary.find?_values_eq_some_iff, passes]
  constructor
  · rintro ⟨known, ⟨name, found, needs, least⟩, rfl⟩
    rw [sound.named name known found]
    refine ⟨⟨known, found, needs⟩, ?_⟩
    rintro other ⟨another, looked, same⟩
    exact least other another looked same
  · rintro ⟨⟨known, found, needs⟩, least⟩
    exact ⟨known, ⟨dependent, found, needs, fun other another looked same =>
      least other ⟨another, looked, same⟩⟩, sound.named dependent known found⟩

/-- An unload is refused for the reasons there are and no others. -/
theorem Sound.unloadable_eq_error_iff (sound : registry.Sound) :
    registry.unloadable id = .error error ↔ registry.UnloadFault id error := by
  constructor
  · intro refused
    unfold unloadable at refused
    cases found : registry.info.find? id with
    | none =>
      rw [found] at refused
      obtain rfl := Except.error.inj refused
      exact .unknown found
    | some info =>
      rw [found] at refused
      by_cases active : info.status = .active
      · simp only [active, ne_eq, not_true, if_false] at refused
        cases needed : registry.activeDependent id with
        | none =>
          rw [needed] at refused
          contradiction
        | some dependent =>
          rw [needed] at refused
          obtain rfl := Except.error.inj refused
          obtain ⟨needed, first⟩ := sound.activeDependent_eq_some_iff.1 needed
          exact .inUse (status_eq_some_iff.2 ⟨info, found, active⟩) needed first
      · obtain rfl : ModuleError.invalidState id info.status = error := by
          simpa [active] using refused
        exact .resting found active
  · intro fault
    cases fault with
    | unknown absent => simp only [unloadable, absent]
    | resting found resting => simp [unloadable, found, resting]
    | inUse active needed first =>
      obtain ⟨info, found, active⟩ := status_eq_some_iff.1 active
      have reported := sound.activeDependent_eq_some_iff.2 ⟨needed, first⟩
      simp [unloadable, found, active, reported]

end ModuleRegistry

namespace ModuleHost

open ModuleRegistry

variable {host : ModuleHost} {id : String} {error : ModuleError}

/-! ### Hooks that ran -/

/-- A hook of a module has run between two hosts: the module remembers one more run than before. -/
def HookRan (before after : ModuleHost) (id : String) : Prop :=
  ∃ module ending, before.registry.modules.find? id = some module ∧
    after.registry.modules.find? id = some { module with history := ending :: module.history }

/-- No hook has run where nothing has changed. -/
theorem not_hookRan_self (host : ModuleHost) (id : String) : ¬ host.HookRan host id := by
  rintro ⟨module, ending, before, after⟩
  have same := congrArg Module.history (Option.some.inj (before.symm.trans after))
  exact absurd (congrArg List.length same) (by simp)

/-- A load that is not refused runs the hook: what a sound registry knows is there. -/
theorem hookRan_load {info : ModuleInfo} (sound : host.registry.Sound)
    (allowed : host.registry.loadable id = .ok info) : host.HookRan (host.load id).value.2 id := by
  obtain ⟨found, _⟩ := loadable_eq_ok_iff.1 allowed
  have there := sound.present found
  obtain ⟨module, present⟩ := Option.isSome_iff_exists.1 there
  have modules : (host.load id).value.2.registry.modules = (host.loading id).modules := by
    cases ended : (host.loadRun id).value.1.result with
    | error error =>
      rw [(load_of_failed allowed there ended).1]
      rfl
    | ok =>
      rw [(load_of_completed allowed there ended).1]
  refine ⟨module, (host.loadRun id).value.1.ending, present, ?_⟩
  rw [modules]
  simp [loading, passing, remember, setStatus, Dictionary.find?_modify, present]

/-- An unload that is not refused runs the hook: what a sound registry knows is there. -/
theorem hookRan_unload {info : ModuleInfo} (sound : host.registry.Sound)
    (allowed : host.registry.unloadable id = .ok info) :
    host.HookRan (host.unload id).value.2 id := by
  obtain ⟨run, leaves⟩ := leaves_of_allowed sound allowed
  obtain ⟨module, present, recorded⟩ := leaves.recorded
  exact ⟨module, run.finish.ending, present, recorded⟩

/-! ### Refusals -/

/-- How a host refuses: it registers no second module under a name, and it neither loads nor unloads
a module exactly if there is a reason not to. A refusal answers the reason, and that is all it does:
no hook runs, nothing is recorded or noted, and the registry and the whole store are as before. -/
structure RefusesCleanly (host : ModuleHost) : Prop where
  register_iff : ∀ module,
    (∃ error, (host.register module).value.1.result = .error error) ↔
      host.registry.modules.contains module.id = true
  register : ∀ module, host.registry.modules.contains module.id = true →
    host.register module = pure ({ result := .error (.alreadyRegistered module.id) }, host)
  load_iff : ∀ id error,
    (host.load id).value.1.result = .error error ∧ ¬ host.HookRan (host.load id).value.2 id ↔
      host.registry.LoadFault id error
  load : ∀ id error, host.registry.LoadFault id error →
    host.load id = pure ({ result := .error error }, host)
  unload_iff : ∀ id error,
    (host.unload id).value.1.result = .error error ∧
        ¬ host.HookRan (host.unload id).value.2 id ↔
      host.registry.UnloadFault id error
  unload : ∀ id error, host.registry.UnloadFault id error →
    host.unload id = pure ({ result := .error error }, host)

/-- A host with a sound registry refuses cleanly. -/
theorem refusesCleanly (sound : host.registry.Sound) : host.RefusesCleanly := by
  have load : ∀ id error, host.registry.LoadFault id error →
      host.load id = pure ({ result := .error error }, host) :=
    fun _ _ fault => load_of_refused (sound.loadable_eq_error_iff.2 fault)
  have unload : ∀ id error, host.registry.UnloadFault id error →
      host.unload id = pure ({ result := .error error }, host) :=
    fun _ _ fault => unload_of_refused (sound.unloadable_eq_error_iff.2 fault)
  constructor
  case register_iff =>
    intro module
    cases taken : host.registry.modules.contains module.id with
    | true => simp [register_of_taken taken]
    | false => simp [(register_of_new taken).1]
  case register => exact fun module taken => register_of_taken taken
  case load => exact load
  case unload => exact unload
  case load_iff =>
    intro id error
    constructor
    · rintro ⟨failed, unrun⟩
      cases allowed : host.registry.loadable id with
      | ok info => exact absurd (hookRan_load sound allowed) unrun
      | error other =>
        rw [load_of_refused allowed] at failed
        obtain rfl := Except.error.inj failed
        exact sound.loadable_eq_error_iff.1 allowed
    · intro fault
      rw [load id error fault]
      exact ⟨rfl, not_hookRan_self host id⟩
  case unload_iff =>
    intro id error
    constructor
    · rintro ⟨failed, unrun⟩
      cases allowed : host.registry.unloadable id with
      | ok info => exact absurd (hookRan_unload sound allowed) unrun
      | error other =>
        rw [unload_of_refused allowed] at failed
        obtain rfl := Except.error.inj failed
        exact sound.unloadable_eq_error_iff.1 allowed
    · intro fault
      rw [unload id error fault]
      exact ⟨rfl, not_hookRan_self host id⟩

/-! ### Loads that fail -/

/-- What a load whose hook failed has left: the module is failed and has no types, and otherwise the
names that are registered, the load order and all that is known of modules are as before. -/
structure Restored (before after : ModuleHost) (id : String) : Prop where
  names : ∀ name, (after.store.database before.registry.database).contains name =
    (before.store.database before.registry.database).contains name
  order : after.registry.loadOrder = before.registry.loadOrder
  failed : ∃ info, before.registry.info.find? id = some info ∧
    after.registry.info.find? id = some { info with status := .failed, types := [] }
  others : ∀ other, id ≠ other →
    after.registry.info.find? other = before.registry.info.find? other

/-- A load whose hook fails restores what was there before. -/
theorem restored_load {database : String} {outside : String → Prop}
    (orderly : host.Orderly database outside) (spares : Spares database (host.loadReflections id))
    (ran : host.HookRan (host.load id).value.2 id)
    (failed : (host.load id).value.1.result = .error error) :
    host.Restored (host.load id).value.2 id := by
  obtain ⟨rfl, sound, owned⟩ := orderly
  cases allowed : host.registry.loadable id with
  | error other =>
    rw [load_of_refused allowed] at ran
    exact absurd ran (not_hookRan_self host id)
  | ok info =>
    obtain ⟨found, resting, _⟩ := loadable_eq_ok_iff.1 allowed
    have present := sound.present found
    have bare : info.types = [] := by
      refine sound.bare id info found ?_
      rcases resting with registered | broken
      · simp [registered]
      · simp [broken]
    obtain ⟨other, ended⟩ : ∃ other, (host.loadRun id).value.1.result = .error other := by
      cases ended : (host.loadRun id).value.1.result with
      | error other => exact ⟨other, rfl⟩
      | ok =>
        rw [(load_of_completed allowed present ended).1] at failed
        contradiction
    have value := (load_of_failed allowed present ended).1
    have moved : Moved host.registry (host.load id).value.2.registry id .failed [] := by
      rw [value]
      exact moved_of_failed found bare
    -- The names are those from outside and those listed by active modules, before and after.
    have lists : ∀ name, (host.load id).value.2.registry.Lists name ↔ host.registry.Lists name := by
      intro name
      rw [moved.lists_iff found, sound.lists_iff found, bare]
      simp
    have kept := (owned_load owned sound id spares).1
    constructor
    case names =>
      intro name
      rw [Bool.eq_iff_iff, owned.registered, ← lists, ← kept.registered, moved.database]
    case order =>
      rw [value]
      rfl
    case failed => exact ⟨info, found, moved.find?_self found⟩
    case others => exact fun other different => moved.find?_of_ne different

/-- Operations fail cleanly. After every run of operations on a registry over a database that is
otherwise left alone, with whatever hooks: registering a module fails exactly if its name is taken;
loading and unloading fail without running the hook exactly for the reasons in `LoadFault` and
`UnloadFault`, and a refusal leaves everything as it was. A load whose hook fails, whatever types
the hook reflected, leaves the registered names, the load order and every other module as before,
and the module itself failed and without types. -/
theorem after_fails_cleanly {database : String} {start : Store}
    {operations : List ModuleOperation}
    (spares : Spares database
      ((ModuleHost.mk (.ofDatabase database) start).allReflections operations)) :
    let host := (ModuleHost.mk (.ofDatabase database) start).after operations
    host.RefusesCleanly ∧
      ∀ id error, Spares database (host.loadReflections id) →
        host.HookRan (host.load id).value.2 id →
          (host.load id).value.1.result = .error error →
            host.Restored (host.load id).value.2 id := by
  intro host
  have orderly : host.Orderly database
      fun name => (start.database database).contains name = true :=
    (keeps_orderly database _).after operations spares (orderly_ofDatabase database start)
  exact ⟨refusesCleanly orderly.sound, fun id error => restored_load orderly⟩

/-- The operations before the load that fails in the run in which two modules share a type. -/
def sharedStart : List ModuleOperation := sharedRun.take 3

/-- The host after these operations. -/
def sharedHost : ModuleHost := (ModuleHost.mk (.ofDatabase "main") outsideStore).after sharedStart

/-- The load hook that fails has reflected a type of its own and one it shares, and everything is
restored. Loading the module that is active already is refused before its hook runs. -/
theorem sharedHost_fails_cleanly :
    (sharedHost.load "first").value.1.result = .error (.invalidState "first" .active) ∧
      (sharedHost.load "second").value.1.result = .error (.failed "second" "broken") ∧
      sharedHost.Restored (sharedHost.load "second").value.2 "second" := by
  have carried : (ModuleHost.mk (.ofDatabase "main") outsideStore).allReflections sharedStart =
      [(.named "Shared", [.register (.parent ⟨.unit, []⟩)])] := rfl
  have broken : sharedHost.loadReflections "second" =
      [(.named "Shared", []), (.named "Own", [.info])] := rfl
  have spares : Spares "main"
      ((ModuleHost.mk (.ofDatabase "main") outsideStore).allReflections sharedStart) := by
    rw [carried]
    simp [Spares, ChainStep.Spares]
  have spared : Spares "main" (sharedHost.loadReflections "second") := by
    rw [broken]
    simp [Spares, ChainStep.Spares]
  have ran : sharedHost.HookRan (sharedHost.load "second").value.2 "second" :=
    ⟨_, .failed, rfl, rfl⟩
  have failed : (sharedHost.load "second").value.1.result =
      .error (.failed "second" "broken") := rfl
  have active : sharedHost.registry.status "first" = some .active := rfl
  obtain ⟨refuses, restores⟩ := after_fails_cleanly spares
  exact ⟨((refuses.load_iff "first" _).2 (.active active)).1, failed,
    restores "second" _ spared ran failed⟩

end ModuleHost

end Reflection
