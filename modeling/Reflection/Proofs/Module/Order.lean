import Reflection.Proofs.Module.Runs
import Reflection.Proofs.Module.Steps

/-!
# Dependencies stand before their dependents

The modules, what is known of them and the load order are three structures that every operation
changes together. `ModuleRegistry.Sound` says how they fit: the load order lists exactly the active
modules, and each of these has all its dependencies active, at compatible versions and before it.
Three moves of one module keep it: it is loaded last, it fails, or it leaves while nothing active
depends on it. Hooks never matter, since they reach a registry only through these moves.
-/
namespace Reflection

namespace ModuleRegistry

/-- The modules, what is known of them and the load order fit together. -/
structure Sound (registry : ModuleRegistry) : Prop where
  /-- A module is registered exactly when something is known of it. -/
  keys : ∀ id, registry.modules.contains id = registry.info.contains id
  /-- What is known of a module stands under its name. -/
  named : ∀ id info, registry.info.find? id = some info → info.id = id
  /-- No module is left in the middle of a load or an unload. -/
  settled : ∀ id info, registry.info.find? id = some info →
    info.status = .registered ∨ info.status = .active ∨ info.status = .failed
  /-- No module stands in the load order twice. -/
  order_nodup : registry.loadOrder.Nodup
  /-- The load order lists the active modules and no others. -/
  mem_order : ∀ id, id ∈ registry.loadOrder ↔ registry.status id = some .active
  /-- Whatever an active module depends on is active at a version that will do. -/
  met : ∀ id info, registry.info.find? id = some info → info.status = .active →
    ∀ dependency ∈ info.dependencies, registry.Meets dependency
  /-- Whatever an active module depends on stands before it in the load order. -/
  before : ∀ id info, registry.info.find? id = some info → info.status = .active →
    ∀ dependency ∈ info.dependencies, [dependency.id, id].Sublist registry.loadOrder
  /-- Only an active module lists types. -/
  bare : ∀ id info, registry.info.find? id = some info → info.status ≠ .active → info.types = []

variable {registry before after : ModuleRegistry} {id : String} {info : ModuleInfo}

/-- A module of a sound registry that is known is there. -/
theorem Sound.present (sound : registry.Sound) (found : registry.info.find? id = some info) :
    registry.modules.contains id = true := by
  rw [sound.keys, Dictionary.contains, found]
  rfl

/-- The status of a module is what is known of it. -/
theorem status_eq_some_iff {registry : ModuleRegistry} {status : ModuleStatus} :
    registry.status id = some status ↔
      ∃ info, registry.info.find? id = some info ∧ info.status = status := by
  simp [ModuleRegistry.status, Option.map_eq_some_iff]

namespace Moved

variable {status : ModuleStatus} {types : List String}

/-- What is known of the module that moved. -/
theorem find?_self (moved : Moved before after id status types)
    (found : before.info.find? id = some info) :
    after.info.find? id = some { info with status, types } := by
  rw [moved.info, if_pos rfl, found, Option.map_some]

/-- What is known of a module that did not move. -/
theorem find?_of_ne (moved : Moved before after id status types) {name : String}
    (different : id ≠ name) : after.info.find? name = before.info.find? name := by
  rw [moved.info, if_neg different]

/-- Whatever is known of a module afterwards was known before, but for status and types. -/
theorem cases (moved : Moved before after id status types)
    (found : before.info.find? id = some info) {name : String} {known : ModuleInfo}
    (looked : after.info.find? name = some known) :
    (name = id ∧ known = { info with status, types }) ∨
      (id ≠ name ∧ before.info.find? name = some known) := by
  by_cases same : id = name
  · subst same
    rw [moved.find?_self found] at looked
    exact .inl ⟨rfl, (Option.some.inj looked).symm⟩
  · rw [moved.find?_of_ne same] at looked
    exact .inr ⟨same, looked⟩

/-- A move brings nothing new under any name. -/
theorem keys (moved : Moved before after id status types) (sound : before.Sound) (name : String) :
    after.modules.contains name = after.info.contains name := by
  rw [moved.modules, sound.keys]
  simp only [Dictionary.contains, moved.info]
  split <;> simp

/-- A move keeps every module under its name. -/
theorem named (moved : Moved before after id status types)
    (found : before.info.find? id = some info) (sound : before.Sound) (name : String)
    (known : ModuleInfo) (looked : after.info.find? name = some known) : known.id = name := by
  rcases moved.cases found looked with ⟨rfl, rfl⟩ | ⟨_, earlier⟩
  · exact sound.named name info found
  · exact sound.named name known earlier

/-- A move to a settled status leaves every module settled. -/
theorem settled (moved : Moved before after id status types)
    (found : before.info.find? id = some info) (sound : before.Sound)
    (rest : status = .registered ∨ status = .active ∨ status = .failed) (name : String)
    (known : ModuleInfo) (looked : after.info.find? name = some known) :
    known.status = .registered ∨ known.status = .active ∨ known.status = .failed := by
  rcases moved.cases found looked with ⟨_, rfl⟩ | ⟨_, earlier⟩
  · exact rest
  · exact sound.settled name known earlier

/-- The status of the module that moved. -/
theorem status_self (moved : Moved before after id status types)
    (found : before.info.find? id = some info) : after.status id = some status :=
  status_eq_some_iff.2 ⟨_, moved.find?_self found, rfl⟩

/-- The status of a module that did not move. -/
theorem status_of_ne (moved : Moved before after id status types) {name : String}
    (different : id ≠ name) : after.status name = before.status name := by
  rw [ModuleRegistry.status, moved.find?_of_ne different, ModuleRegistry.status]

/-- A dependency on a module that did not move is met as before. -/
theorem meets_of_ne (moved : Moved before after id status types) {dependency : Dependency}
    (different : id ≠ dependency.id) (met : before.Meets dependency) :
    after.Meets dependency := by
  obtain ⟨found, looked, facts⟩ := met
  exact ⟨found, by rw [moved.find?_of_ne different]; exact looked, facts⟩

end Moved

namespace Sound

/-- An active module stands in the load order. -/
theorem mem_of_meets {registry : ModuleRegistry} (sound : registry.Sound)
    {dependency : Dependency} (met : registry.Meets dependency) :
    dependency.id ∈ registry.loadOrder := by
  obtain ⟨found, looked, active, _⟩ := met
  exact (sound.mem_order dependency.id).2 (status_eq_some_iff.2 ⟨found, looked, active⟩)

/-- A module that is not active does not stand in the load order. -/
theorem not_mem_of_resting {registry : ModuleRegistry} (sound : registry.Sound)
    (found : registry.info.find? id = some info) (resting : info.status ≠ .active) :
    id ∉ registry.loadOrder := by
  intro listed
  obtain ⟨known, looked, active⟩ := status_eq_some_iff.1 ((sound.mem_order id).1 listed)
  rw [found] at looked
  obtain rfl := Option.some.inj looked
  exact resting active

/-- A module whose dependencies are met may be loaded last. -/
theorem of_loaded (sound : before.Sound) (found : before.info.find? id = some info)
    (resting : info.status ≠ .active)
    (met : ∀ dependency ∈ info.dependencies, before.Meets dependency) {types : List String}
    (moved : Moved before after id .active types)
    (order : after.loadOrder = before.loadOrder ++ [id]) : after.Sound := by
  have fresh : id ∉ before.loadOrder := sound.not_mem_of_resting found resting
  -- What is active is not the module itself, so whatever was met is still met.
  have still : ∀ dependency, before.Meets dependency → after.Meets dependency := by
    intro dependency earlier
    refine moved.meets_of_ne ?_ earlier
    rintro rfl
    exact fresh (sound.mem_of_meets earlier)
  constructor
  case keys => exact moved.keys sound
  case named => exact moved.named found sound
  case settled => exact moved.settled found sound (.inr (.inl rfl))
  case order_nodup =>
    rw [order, List.nodup_append]
    refine ⟨sound.order_nodup, by simp, ?_⟩
    intro listed mem last isLast same
    rw [same, List.mem_singleton.1 isLast] at mem
    exact fresh mem
  case mem_order =>
    intro name
    rw [order, List.mem_append, List.mem_singleton]
    by_cases same : id = name
    · subst same
      simp [moved.status_self found]
    · rw [moved.status_of_ne same, ← sound.mem_order name]
      simp [Ne.symm same]
  case met =>
    intro name known looked active dependency mem
    rcases moved.cases found looked with ⟨_, rfl⟩ | ⟨_, earlier⟩
    · exact still dependency (met dependency mem)
    · exact still dependency (sound.met name known earlier active dependency mem)
  case before =>
    intro name known looked active dependency mem
    rw [order]
    rcases moved.cases found looked with ⟨rfl, rfl⟩ | ⟨_, earlier⟩
    · have listed : [dependency.id].Sublist before.loadOrder :=
        List.singleton_sublist.2 (sound.mem_of_meets (met dependency mem))
      exact listed.append (List.Sublist.refl [name])
    · exact (sound.before name known earlier active dependency mem).trans
        (List.sublist_append_left _ _)
  case bare =>
    intro name known looked inactive
    rcases moved.cases found looked with ⟨_, rfl⟩ | ⟨_, earlier⟩
    · exact absurd rfl inactive
    · exact sound.bare name known earlier inactive

/-- A module nothing active depends on may leave the load order, without types. -/
theorem of_left (sound : before.Sound) (found : before.info.find? id = some info)
    (free : ∀ other known, before.info.find? other = some known → known.status = .active →
      ∀ dependency ∈ known.dependencies, dependency.id ≠ id) {status : ModuleStatus}
    (rest : status = .registered ∨ status = .failed) (moved : Moved before after id status [])
    (order : after.loadOrder = before.loadOrder.filter (· ≠ id)) : after.Sound := by
  have inactive : status ≠ .active := by
    rcases rest with rfl | rfl <;> simp
  constructor
  case keys => exact moved.keys sound
  case named => exact moved.named found sound
  case settled =>
    refine moved.settled found sound ?_
    rcases rest with registered | failed
    · exact .inl registered
    · exact .inr (.inr failed)
  case order_nodup =>
    rw [order]
    exact sound.order_nodup.filter _
  case mem_order =>
    intro name
    rw [order, List.mem_filter, decide_eq_true_eq]
    by_cases same : id = name
    · subst same
      simp [moved.status_self found, inactive]
    · rw [moved.status_of_ne same, ← sound.mem_order name]
      simp [Ne.symm same]
  case met =>
    intro name known looked active dependency mem
    rcases moved.cases found looked with ⟨_, rfl⟩ | ⟨_, earlier⟩
    · exact absurd active inactive
    · have apart := free name known earlier active dependency mem
      exact moved.meets_of_ne (Ne.symm apart) (sound.met name known earlier active dependency mem)
  case before =>
    intro name known looked active dependency mem
    rcases moved.cases found looked with ⟨_, rfl⟩ | ⟨different, earlier⟩
    · exact absurd active inactive
    · have apart := free name known earlier active dependency mem
      have kept := (sound.before name known earlier active dependency mem).filter (· ≠ id)
      rw [order]
      simpa [apart, Ne.symm different] using kept
  case bare =>
    intro name known looked resting
    rcases moved.cases found looked with ⟨_, rfl⟩ | ⟨_, earlier⟩
    · rfl
    · exact sound.bare name known earlier resting

end Sound

/-- The registry without modules is sound. -/
theorem sound_ofDatabase (database : String) : (ofDatabase database).Sound := by
  constructor <;> simp [ofDatabase, Dictionary.contains, ModuleRegistry.status]

/-- Adding a module under a new name keeps a registry sound. -/
theorem Sound.entered (sound : registry.Sound) {module : Module}
    (unknown : registry.info.find? module.id = none) : (registry.entered module).Sound := by
  -- Nothing that is known of an active module lies under the new name.
  have apart : ∀ name, registry.status name = some .active → module.id ≠ name := by
    rintro name active rfl
    simp [ModuleRegistry.status, unknown] at active
  constructor
  case keys =>
    intro name
    have known := sound.keys name
    simp only [ModuleRegistry.entered, Dictionary.contains, Dictionary.find?_insert] at known ⊢
    split
    · rfl
    · exact known
  case named =>
    intro name known looked
    rcases find?_entered looked with ⟨same, rfl⟩ | earlier
    · exact same
    · exact sound.named name known earlier
  case settled =>
    intro name known looked
    rcases find?_entered looked with ⟨_, rfl⟩ | earlier
    · exact .inl rfl
    · exact sound.settled name known earlier
  case order_nodup => exact sound.order_nodup
  case mem_order =>
    intro name
    show name ∈ registry.loadOrder ↔ _
    rw [sound.mem_order]
    by_cases same : module.id = name
    · subst same
      simp [ModuleRegistry.status, ModuleRegistry.entered, unknown, Module.info]
    · simp only [ModuleRegistry.status, find?_entered_of_ne same]
  case met =>
    intro name known looked active dependency mem
    rcases find?_entered looked with ⟨_, rfl⟩ | earlier
    · contradiction
    · obtain ⟨found, there, running, fits⟩ := sound.met name known earlier active dependency mem
      have different := apart dependency.id (status_eq_some_iff.2 ⟨found, there, running⟩)
      exact ⟨found, (find?_entered_of_ne different).trans there, running, fits⟩
  case before =>
    intro name known looked active
    rcases find?_entered looked with ⟨_, rfl⟩ | earlier
    · contradiction
    · exact sound.before name known earlier active
  case bare =>
    intro name known looked resting
    rcases find?_entered looked with ⟨_, rfl⟩ | earlier
    · rfl
    · exact sound.bare name known earlier resting

/-- In a sound registry, nothing is known under a name that no module has. -/
theorem Sound.unknown (sound : registry.Sound) (free : registry.modules.contains id = false) :
    registry.info.find? id = none := by
  rw [sound.keys] at free
  simpa [Dictionary.contains] using free

end ModuleRegistry

namespace ModuleHost

variable {host : ModuleHost}

/-- Registering a module keeps the registry sound. -/
theorem sound_register (sound : host.registry.Sound) (module : Module) :
    (host.register module).value.2.registry.Sound := by
  cases taken : host.registry.modules.contains module.id with
  | true => simpa [register_of_taken taken] using sound
  | false =>
    rw [(register_of_new taken).1]
    exact sound.entered (sound.unknown taken)

/-- A load keeps the registry sound, whatever its hook does. -/
theorem sound_load (sound : host.registry.Sound) (id : String) :
    (host.load id).value.2.registry.Sound := by
  cases allowed : host.registry.loadable id with
  | error error => simpa [load_of_refused allowed] using sound
  | ok info =>
    obtain ⟨found, resting, met⟩ := ModuleRegistry.loadable_eq_ok_iff.1 allowed
    have present := sound.present found
    have inactive : info.status ≠ .active := by
      rcases resting with registered | failed
      · simp [registered]
      · simp [failed]
    cases ended : (host.loadRun id).value.1.result with
    | error error =>
      rw [(load_of_failed allowed present ended).1]
      have fresh := sound.not_mem_of_resting found inactive
      refine sound.of_left found ?_ (.inr rfl)
        (ModuleRegistry.moved_of_failed found (sound.bare id info found inactive)) ?_
      · rintro other known looked active dependency mem rfl
        exact fresh (sound.mem_of_meets (sound.met other known looked active dependency mem))
      · symm
        refine List.filter_eq_self.2 fun listed mem => ?_
        rw [decide_eq_true_eq]
        rintro rfl
        exact fresh mem
    | ok done =>
      rw [(load_of_completed allowed present ended).1]
      exact sound.of_loaded found inactive met ModuleRegistry.moved_of_loaded rfl

/-- An unload keeps the registry sound, whatever its hook does. -/
theorem sound_unload (sound : host.registry.Sound) (id : String) :
    (host.unload id).value.2.registry.Sound := by
  cases allowed : host.registry.unloadable id with
  | error error => simpa [unload_of_refused allowed] using sound
  | ok info =>
    obtain ⟨found, _, free⟩ := ModuleRegistry.unloadable_eq_ok_iff.1 allowed
    rw [(unload_of_allowed allowed (sound.present found)).1]
    refine sound.of_left found (ModuleRegistry.activeDependent_eq_none_iff.1 free) ?_
      ModuleRegistry.moved_of_unloaded rfl
    cases (host.unloadRun id info.types).value.1.result with
    | ok => exact .inl rfl
    | error error => exact .inr rfl

/-- Every operation keeps the registry sound, whatever hooks do. -/
theorem keeps_sound : Keeps (·.registry.Sound) fun _ => True where
  register _ module sound := sound_register sound module
  load _ id _ sound := sound_load sound id
  unload _ id _ sound := sound_unload sound id

/-- Whatever is done to a registry that starts without modules, over any store and with any hooks:
the modules and what is known of them have the same names, the load order lists exactly the active
modules and each once, every active module has its dependencies active at compatible versions and
before it in load order, no module is left in the middle of an operation, and only active modules
list types. -/
theorem after_dependencies_ordered (database : String) (store : Store)
    (operations : List ModuleOperation) :
    (after ⟨.ofDatabase database, store⟩ operations).registry.Sound :=
  keeps_sound.after operations (fun _ _ => trivial) (ModuleRegistry.sound_ofDatabase database)

end ModuleHost

end Reflection
