import Reflection.Proofs.Module.Hooks
import Reflection.Proofs.Module.Order

/-!
# Modules own the types they list

A database in which some names were registered outside all modules is changed through one module
registry. `ModuleHost.Owned` says whose the registered names are: those from outside, and those
active modules list. A hook only adds names it records, and the resets after a hook take away
exactly the recorded names that no other active module lists, so every operation keeps this,
whether its hook ends well or not. Since a reset also brings back the described members, nothing
that a module declared outlives it.
-/
namespace Reflection

namespace ModuleRegistry

variable {registry before after : ModuleRegistry} {id : String} {info : ModuleInfo} {store : Store}

/-- Whether some active module lists a name. -/
def Lists (registry : ModuleRegistry) (name : String) : Prop :=
  ∃ id info, registry.info.find? id = some info ∧ info.status = .active ∧ name ∈ info.types

/-- Whether an active module other than one given lists a name. -/
def ListsApart (registry : ModuleRegistry) (id name : String) : Prop :=
  ∃ other info, other ≠ id ∧ registry.info.find? other = some info ∧ info.status = .active ∧
    name ∈ info.types

/-- A name is listed by a module itself or apart from it. -/
theorem Sound.lists_iff (sound : registry.Sound) (found : registry.info.find? id = some info)
    (name : String) : registry.Lists name ↔ registry.ListsApart id name ∨ name ∈ info.types := by
  constructor
  · rintro ⟨other, known, looked, active, mem⟩
    by_cases same : other = id
    · subst same
      rw [found] at looked
      obtain rfl := Option.some.inj looked
      exact .inr mem
    · exact .inl ⟨other, known, same, looked, active, mem⟩
  · rintro (⟨other, known, _, facts⟩ | mem)
    · exact ⟨other, known, facts⟩
    · refine ⟨id, info, found, Decidable.byContradiction fun resting => ?_, mem⟩
      rw [sound.bare id info found resting] at mem
      contradiction

/-- After a move, a name is listed apart from the module, or by the module if it is active. -/
theorem Moved.lists_iff {status : ModuleStatus} {types : List String}
    (moved : Moved before after id status types) (found : before.info.find? id = some info)
    (name : String) :
    after.Lists name ↔ before.ListsApart id name ∨ (status = .active ∧ name ∈ types) := by
  constructor
  · rintro ⟨other, known, looked, active, mem⟩
    rcases moved.cases found looked with ⟨_, rfl⟩ | ⟨different, earlier⟩
    · exact .inr ⟨active, mem⟩
    · exact .inl ⟨other, known, Ne.symm different, earlier, active, mem⟩
  · rintro (⟨other, known, different, looked, facts⟩ | ⟨active, mem⟩)
    · exact ⟨other, known, by rw [moved.find?_of_ne (Ne.symm different)]; exact looked, facts⟩
    · exact ⟨id, _, moved.find?_self found, active, mem⟩

/-- The context of a hook finds a name claimed only if an active module lists it. -/
theorem Sound.lists_of_claimed (sound : registry.Sound) {status : ModuleStatus} {name : String}
    (claimed : ((registry.setStatus id status).context id).claimed name = true) :
    registry.Lists name := by
  simp only [HookContext.claimed, context, List.any_eq_true, List.contains_iff_mem,
    Dictionary.mem_values_iff, setStatus, Dictionary.find?_modify] at claimed
  obtain ⟨known, ⟨other, looked⟩, mem⟩ := claimed
  -- The passing status does not touch the types a module lists.
  have listed : ∃ info, registry.info.find? other = some info ∧ name ∈ info.types := by
    split at looked
    · obtain ⟨info, found, rfl⟩ := Option.map_eq_some_iff.1 looked
      exact ⟨info, found, mem⟩
    · exact ⟨known, looked, mem⟩
  obtain ⟨info, found, mem⟩ := listed
  exact (sound.lists_iff found name).2 (.inr mem)

/-- While a module is passing, a type has another user exactly if it is listed apart from it. -/
theorem Sound.typeUser_eq_none_iff (sound : registry.Sound) (status : ModuleStatus)
    (ending : Ending) (name : String) :
    (registry.passing id status ending).typeUser id name = none ↔
      ¬registry.ListsApart id name := by
  simp only [typeUser, Option.map_eq_none_iff, List.find?_eq_none, Dictionary.mem_values_iff]
  constructor
  · rintro unused ⟨other, known, different, looked, active, mem⟩
    refine unused known ⟨other, ?_⟩ ?_
    · rw [find?_passing, if_neg (Ne.symm different)]
      exact looked
    · simp [sound.named other known looked, different, active, mem]
  · rintro apart known ⟨other, looked⟩ uses
    simp only [ne_eq, decide_not, Bool.and_eq_true, Bool.not_eq_true', decide_eq_false_iff_not,
      decide_eq_true_eq, List.contains_iff_mem] at uses
    obtain ⟨⟨different, active⟩, mem⟩ := uses
    rw [find?_passing] at looked
    split at looked
    · rename_i same
      obtain ⟨info, found, rfl⟩ := Option.map_eq_some_iff.1 looked
      exact different ((sound.named other info found).trans same.symm)
    · rename_i other_ne
      exact apart ⟨other, known, Ne.symm other_ne, looked, active, mem⟩

/-! ### Resets -/

/-- The note of a reset that did not find its name registered. -/
def missedReset (type : String) : Note :=
  ⟨some .debug, s!"Type '{type}' was not registered at reset"⟩

/-- A plain note is not that of a missed reset. -/
theorem ne_missedReset_of_plain {note : Note} (plain : note.Plain) (type : String) :
    note ≠ missedReset type := by
  rintro rfl
  apply plain
  simp [missedReset, toString]

/-- Resetting one name notes a miss exactly if no other module uses the name and it is not
registered. -/
theorem missedReset_mem_resetTypes {type name : String} :
    missedReset name ∈ (registry.resetTypes store id [type]).notes ↔
      name = type ∧ registry.typeUser id type = none ∧
        (store.database registry.database).contains type = false := by
  unfold resetTypes
  cases registry.typeUser id type with
  | some user =>
    simp only [resetTypes, Logged.notes_bind, Logged.notes_note, Logged.notes_pure,
      List.append_nil, List.mem_singleton, reduceCtorEq, false_and, and_false, iff_false,
      missedReset, Note.mk.injEq, true_and]
    -- The two texts end differently.
    intro same
    have reversed := congrArg (fun text => text.toList.reverse) same
    simp [toString] at reversed
  | none =>
    have plain := Store.plain_reset store registry.database type
    have unrelated : missedReset name ∉ (store.reset registry.database type).notes :=
      fun mem => ne_missedReset_of_plain (plain _ mem) name rfl
    simp only [resetTypes, Logged.notes_bind, List.mem_append, unrelated, Store.fst_reset,
      false_or, true_and]
    cases (store.database registry.database).contains type with
    | true => simp
    | false => simp [missedReset, toString]

/-- Resetting several names resets the first and then the others. -/
theorem resetTypes_cons (type : String) (rest : List String) :
    registry.resetTypes store id (type :: rest) =
      registry.resetTypes store id [type] >>= fun store => registry.resetTypes store id rest := by
  cases used : registry.typeUser id type with
  | some user => simp only [resetTypes, used, bind_assoc, pure_bind]
  | none =>
    simp only [resetTypes, used, bind_assoc]
    congr 1
    funext ⟨existed, store⟩
    cases existed <;> simp

/-- The store after one name was reset: the name has left unless another module uses it. -/
theorem value_resetTypes_single (type : String) :
    (registry.resetTypes store id [type]).value =
      if registry.typeUser id type = none then (store.reset registry.database type).value.2
      else store := by
  cases used : registry.typeUser id type with
  | some user => simp [resetTypes, used]
  | none =>
    simp only [resetTypes, used, Logged.value_bind, if_true]
    split <;> rfl

/-- Resets take away exactly the given names that no other active module uses. -/
theorem contains_resetTypes (types : List String) (name : String) :
    ((registry.resetTypes store id types).value.database registry.database).contains name = true ↔
      (store.database registry.database).contains name = true ∧
        ¬(name ∈ types ∧ registry.typeUser id name = none) := by
  induction types generalizing store with
  | nil => simp [resetTypes]
  | cons type rest ih =>
    rw [resetTypes_cons, Logged.value_bind, ih, value_resetTypes_single, List.mem_cons]
    by_cases unused : registry.typeUser id type = none
    · rw [if_pos unused, Database.contains_eq_isSome, Store.get_reset,
        Database.contains_eq_isSome]
      by_cases same : type = name
      · subst same
        simp [unused]
      · simp [same, Ne.symm same]
    · rw [if_neg unused]
      by_cases same : name = type
      · subst same
        simp [unused]
      · simp [same]

/-- Resets of different names that are all registered miss none. -/
theorem resetTypes_hit {types : List String} (nodup : types.Nodup)
    (registered : ∀ type ∈ types, (store.database registry.database).contains type = true)
    (name : String) : missedReset name ∉ (registry.resetTypes store id types).notes := by
  induction types generalizing store with
  | nil => exact List.not_mem_nil
  | cons type rest ih =>
    obtain ⟨fresh, later⟩ := List.nodup_cons.1 nodup
    obtain ⟨first, others⟩ := List.forall_mem_cons.1 registered
    rw [resetTypes_cons, Logged.notes_bind, List.mem_append, not_or]
    constructor
    · rw [missedReset_mem_resetTypes]
      rintro ⟨_, _, missing⟩
      rw [first] at missing
      contradiction
    · refine ih later fun other mem => ?_
      have different : other ≠ type := by
        rintro rfl
        exact fresh mem
      rw [contains_resetTypes]
      exact ⟨others other mem, fun both => different (List.mem_singleton.1 both.1)⟩

/-- Resets leave a store tidy. -/
theorem tidy_resetTypes (registry : ModuleRegistry) {fixed : Universe} {known : Ty → Prop}
    (tidy : store.Tidy registry.database fixed known) (types : List String) :
    (registry.resetTypes store id types).value.Tidy registry.database fixed known := by
  induction types generalizing store with
  | nil => exact tidy
  | cons type rest ih =>
    rw [resetTypes_cons, Logged.value_bind, value_resetTypes_single]
    split
    · exact ih (tidy.reset type)
    · exact ih tidy

end ModuleRegistry

namespace ModuleHost

open ModuleRegistry

variable {host : ModuleHost} {id : String} {info : ModuleInfo} {outside : String → Prop}

/-- The registered names are those from outside all modules and those that active modules list. -/
structure Owned (host : ModuleHost) (outside : String → Prop) : Prop where
  /-- A name is registered exactly if it is from outside or some active module lists it. -/
  registered : ∀ name,
    (host.store.database host.registry.database).contains name = true ↔
      outside name ∨ host.registry.Lists name
  /-- No active module lists a name from outside. -/
  inside : ∀ name, host.registry.Lists name → ¬outside name
  /-- No module lists a name twice. -/
  nodup : ∀ id info, host.registry.info.find? id = some info → info.types.Nodup

/-! ### What a hook and its resets leave -/

/-- The state after a hook of a module that begins with the types the module lists. -/
theorem Owned.tracks (owned : host.Owned outside) (sound : host.registry.Sound)
    (found : host.registry.info.find? id = some info) (status : ModuleStatus)
    {actions : List Action}
    (spares : Spares host.registry.database
      (((host.registry.setStatus id status).context id).reflections ⟨host.store, info.types⟩
        actions)) :
    ((host.registry.setStatus id status).context id).Tracks outside
      (fun name => outside name ∨ host.registry.ListsApart id name)
      (((host.registry.setStatus id status).context id).run ⟨host.store, info.types⟩
        actions).value.2.2 := by
  have start : ((host.registry.setStatus id status).context id).Tracks outside
      (fun name => outside name ∨ host.registry.ListsApart id name)
      ⟨host.store, info.types⟩ := by
    refine ⟨fun name => ?_, owned.nodup id info found, fun name mem => ?_⟩
    · rw [or_assoc, ← sound.lists_iff found]
      exact owned.registered name
    · exact owned.inside name ((sound.lists_iff found name).2 (.inr mem))
  refine start.run (fun name claimed => ?_) (fun name => .inl) spares
  exact owned.inside name (sound.lists_of_claimed claimed)

/-- The resets after a hook leave the names from outside and those listed by other modules. -/
theorem registered_resets {registry : ModuleRegistry} (sound : registry.Sound)
    {status : ModuleStatus} {ending : Ending} {state : HookState}
    (tracks : ((registry.setStatus id status).context id).Tracks outside
      (fun name => outside name ∨ registry.ListsApart id name) state) (name : String) :
    (((registry.passing id status ending).resetTypes state.store id
        state.reflected).value.database registry.database).contains name = true ↔
      outside name ∨ registry.ListsApart id name := by
  have resets : (((registry.passing id status ending).resetTypes state.store id
        state.reflected).value.database registry.database).contains name = true ↔
      (state.store.database registry.database).contains name = true ∧
        ¬(name ∈ state.reflected ∧
          (registry.passing id status ending).typeUser id name = none) :=
    contains_resetTypes state.reflected name
  have names : (state.store.database registry.database).contains name = true ↔
      (outside name ∨ registry.ListsApart id name) ∨ name ∈ state.reflected :=
    tracks.registered name
  rw [resets, sound.typeUser_eq_none_iff, names]
  constructor
  · rintro ⟨kept | recorded, unreset⟩
    · exact kept
    · exact .inr (Classical.byContradiction fun apart => unreset ⟨recorded, apart⟩)
  · intro kept
    refine ⟨.inl kept, fun ⟨recorded, apart⟩ => ?_⟩
    rcases kept with external | listed
    · exact tracks.inside name recorded external
    · exact apart listed

/-- After a move of one module, names and lists agree again if the names are those from outside,
those of other modules and those of the module. -/
theorem Owned.of_moved (owned : host.Owned outside) {after : ModuleHost} {status : ModuleStatus}
    {types : List String} (found : host.registry.info.find? id = some info)
    (moved : Moved host.registry after.registry id status types)
    (registered : ∀ name,
      (after.store.database host.registry.database).contains name = true ↔
        outside name ∨ host.registry.ListsApart id name ∨ (status = .active ∧ name ∈ types))
    (inside : ∀ name ∈ types, ¬outside name) (nodup : types.Nodup) : after.Owned outside := by
  constructor
  · intro name
    rw [moved.database, registered, moved.lists_iff found]
  · intro name listed
    rcases (moved.lists_iff found name).1 listed with ⟨other, known, _, facts⟩ | ⟨_, own⟩
    · exact owned.inside name ⟨other, known, facts⟩
    · exact inside name own
  · intro name known looked
    rcases moved.cases found looked with ⟨_, rfl⟩ | ⟨_, earlier⟩
    · exact nodup
    · exact owned.nodup name known earlier

/-- A module that left lists nothing. -/
theorem Owned.of_left (owned : host.Owned outside) {after : ModuleHost} {status : ModuleStatus}
    (found : host.registry.info.find? id = some info)
    (moved : Moved host.registry after.registry id status [])
    (registered : ∀ name,
      (after.store.database host.registry.database).contains name = true ↔
        outside name ∨ host.registry.ListsApart id name) : after.Owned outside := by
  refine owned.of_moved found moved (fun name => ?_) (fun name mem => ?_) List.nodup_nil
  · rw [registered]
    simp
  · exact absurd mem List.not_mem_nil

/-! ### Operations -/

/-- The reflections of a load that is allowed are those of its hook. -/
theorem loadReflections_of_allowed (allowed : host.registry.loadable id = .ok info) :
    host.loadReflections id =
      ((host.registry.setStatus id .loading).context id).reflections ⟨host.store, []⟩
        (host.actions id (·.onLoad)) := by
  simp only [loadReflections, allowed]

/-- The reflections of an unload that is allowed are those of its hook. -/
theorem unloadReflections_of_allowed (allowed : host.registry.unloadable id = .ok info) :
    host.unloadReflections id =
      ((host.registry.setStatus id .unloading).context id).reflections ⟨host.store, info.types⟩
        (host.actions id (·.onUnload)) := by
  simp only [unloadReflections, allowed]

/-- Plain notes are none of a missed reset. -/
theorem missedReset_not_mem {notes : List Note} (plain : ∀ note ∈ notes, note.Plain)
    (type : String) : missedReset type ∉ notes :=
  fun mem => ne_missedReset_of_plain (plain _ mem) type rfl

/-- Registering a module keeps names and lists in agreement and resets nothing. -/
theorem owned_register (owned : host.Owned outside) (sound : host.registry.Sound)
    (module : Module) :
    (host.register module).value.2.Owned outside ∧
      ∀ type, missedReset type ∉ (host.register module).notes := by
  cases taken : host.registry.modules.contains module.id with
  | true =>
    rw [register_of_taken taken]
    exact ⟨owned, fun _ => List.not_mem_nil⟩
  | false =>
    obtain ⟨value, notes⟩ := register_of_new taken
    have lists : ∀ name,
        (host.registry.entered module).Lists name ↔ host.registry.Lists name := by
      intro name
      constructor
      · rintro ⟨other, known, looked, active, mem⟩
        rcases find?_entered looked with ⟨_, rfl⟩ | earlier
        · contradiction
        · exact ⟨other, known, earlier, active, mem⟩
      · rintro ⟨other, known, looked, facts⟩
        have different : module.id ≠ other := by
          rintro rfl
          rw [sound.unknown taken] at looked
          contradiction
        exact ⟨other, known, (find?_entered_of_ne different).trans looked, facts⟩
    constructor
    · rw [value]
      constructor
      · intro name
        rw [lists]
        exact owned.registered name
      · intro name listed
        exact owned.inside name ((lists name).1 listed)
      · intro name known looked
        rcases find?_entered looked with ⟨_, rfl⟩ | earlier
        · exact List.nodup_nil
        · exact owned.nodup name known earlier
    · intro type
      rw [notes, List.mem_singleton]
      refine (ne_missedReset_of_plain ?_ type).symm
      simp [Note.Plain, toString]

/-- A load keeps names and lists in agreement and resets registered names only. -/
theorem owned_load (owned : host.Owned outside) (sound : host.registry.Sound) (id : String)
    (spares : Spares host.registry.database (host.loadReflections id)) :
    (host.load id).value.2.Owned outside ∧ ∀ type, missedReset type ∉ (host.load id).notes := by
  cases allowed : host.registry.loadable id with
  | error error =>
    rw [load_of_refused allowed]
    exact ⟨owned, fun _ => List.not_mem_nil⟩
  | ok info =>
    obtain ⟨found, resting, _⟩ := loadable_eq_ok_iff.1 allowed
    have present := sound.present found
    have bare : info.types = [] := by
      refine sound.bare id info found ?_
      rcases resting with registered | failed
      · simp [registered]
      · simp [failed]
    have tracks : ((host.registry.setStatus id .loading).context id).Tracks outside
        (fun name => outside name ∨ host.registry.ListsApart id name)
        (host.loadRun id).value.2.2 := by
      rw [loadReflections_of_allowed allowed, ← bare] at spares
      have kept := owned.tracks sound found .loading spares
      rw [bare] at kept
      exact kept
    have plain : ∀ type, missedReset type ∉ (host.loadRun id).notes :=
      missedReset_not_mem (HookContext.plain_run _)
    cases ended : (host.loadRun id).value.1.result with
    | error error =>
      obtain ⟨value, notes⟩ := load_of_failed allowed present ended
      constructor
      · rw [value]
        exact owned.of_left found (moved_of_failed found bare) (registered_resets sound tracks)
      · intro type
        rw [notes, List.mem_append, List.mem_cons, not_or, not_or]
        refine ⟨plain type, (ne_missedReset_of_plain ?_ type).symm, ?_⟩
        · simp [Note.Plain, toString]
        · refine resetTypes_hit tracks.nodup (fun name mem => ?_) type
          exact (tracks.registered name).2 (.inr mem)
    | ok done =>
      obtain ⟨value, notes⟩ := load_of_completed allowed present ended
      constructor
      · rw [value]
        refine owned.of_moved found moved_of_loaded (fun name => ?_) tracks.inside tracks.nodup
        rw [← or_assoc]
        refine (tracks.registered name).trans ?_
        simp
      · intro type
        rw [notes, List.mem_append, List.mem_singleton, not_or]
        refine ⟨plain type, (ne_missedReset_of_plain ?_ type).symm⟩
        simp [Note.Plain, toString]

/-- An unload keeps names and lists in agreement and resets registered names only. -/
theorem owned_unload (owned : host.Owned outside) (sound : host.registry.Sound) (id : String)
    (spares : Spares host.registry.database (host.unloadReflections id)) :
    (host.unload id).value.2.Owned outside ∧
      ∀ type, missedReset type ∉ (host.unload id).notes := by
  cases allowed : host.registry.unloadable id with
  | error error =>
    rw [unload_of_refused allowed]
    exact ⟨owned, fun _ => List.not_mem_nil⟩
  | ok info =>
    obtain ⟨found, _, _⟩ := unloadable_eq_ok_iff.1 allowed
    rw [unloadReflections_of_allowed allowed] at spares
    have tracks := owned.tracks sound found .unloading spares
    obtain ⟨value, notes⟩ := unload_of_allowed allowed (sound.present found)
    constructor
    · rw [value]
      exact owned.of_left found moved_of_unloaded (registered_resets sound tracks)
    · intro type
      rw [notes, List.mem_append, List.mem_append, List.mem_singleton, not_or, not_or]
      refine ⟨⟨missedReset_not_mem (HookContext.plain_run _) type, ?_⟩,
        (ne_missedReset_of_plain ?_ type).symm⟩
      · refine resetTypes_hit tracks.nodup (fun name mem => ?_) type
        exact (tracks.registered name).2 (.inr mem)
      · cases (host.unloadRun id info.types).value.1.result with
        | ok => simp [closing, Note.Plain, toString]
        | error error => simp [closing, Note.Plain, toString]

/-- No operation puts a registry over another database. -/
theorem keeps_database (database : String) :
    Keeps (·.registry.database = database) fun _ => True where
  register host module kept := by
    cases taken : host.registry.modules.contains module.id with
    | true => simpa [register_of_taken taken] using kept
    | false =>
      rw [(register_of_new taken).1]
      exact kept
  load host id _ kept := by
    cases allowed : host.registry.loadable id with
    | error error => simpa [load_of_refused allowed] using kept
    | ok info =>
      cases present : host.registry.modules.contains id with
      | false =>
        rw [load_of_absent allowed present]
        exact kept
      | true =>
        cases ended : (host.loadRun id).value.1.result with
        | error error =>
          rw [(load_of_failed allowed present ended).1]
          exact kept
        | ok done =>
          rw [(load_of_completed allowed present ended).1]
          exact kept
  unload host id _ kept := by
    cases allowed : host.registry.unloadable id with
    | error error => simpa [unload_of_refused allowed] using kept
    | ok info =>
      cases present : host.registry.modules.contains id with
      | false =>
        rw [unload_of_absent allowed present]
        exact kept
      | true =>
        rw [(unload_of_allowed allowed present).1]
        exact kept

/-- A host over a database whose names and lists agree, and whose registry is sound. -/
structure Orderly (host : ModuleHost) (database : String) (outside : String → Prop) : Prop where
  database : host.registry.database = database
  sound : host.registry.Sound
  owned : host.Owned outside

/-- Operations whose chains leave the registrations of the database to the hooks keep a host
orderly. -/
theorem keeps_orderly (database : String) (outside : String → Prop) :
    Keeps (·.Orderly database outside) fun reflection =>
      ∀ step ∈ reflection.2, step.Spares database where
  register host module kept :=
    { database := (keeps_database database).register host module kept.database
      sound := sound_register kept.sound module
      owned := (owned_register kept.owned kept.sound module).1 }
  load host id spares kept :=
    { database := (keeps_database database).load host id (fun _ _ => trivial) kept.database
      sound := sound_load kept.sound id
      owned := (owned_load kept.owned kept.sound id (kept.database ▸ spares)).1 }
  unload host id spares kept :=
    { database := (keeps_database database).unload host id (fun _ _ => trivial) kept.database
      sound := sound_unload kept.sound id
      owned := (owned_unload kept.owned kept.sound id (kept.database ▸ spares)).1 }

/-- Unloads one after another reset registered names only. -/
theorem unloadEach_hits {database : String} (orderly : host.Orderly database outside)
    (ids : List String) (spares : Spares database (host.eachReflections ids)) (type : String) :
    missedReset type ∉ (host.unloadEach ids).notes := by
  induction ids generalizing host with
  | nil => exact List.not_mem_nil
  | cons id rest ih =>
    obtain ⟨first, later⟩ := List.forall_mem_append.1 spares
    have next := (keeps_orderly database outside).unload host id first orderly
    obtain ⟨_, hits⟩ := owned_unload orderly.owned orderly.sound id (orderly.database ▸ first)
    have notes : (host.unloadEach (id :: rest)).notes =
        (host.unload id).notes ++ ((host.unload id).value.2.unloadEach rest).notes := by
      simp [ModuleHost.unloadEach]
    rw [notes, List.mem_append, not_or]
    exact ⟨hits type, ih next later⟩

/-- Every operation resets registered names only. -/
theorem perform_hits {database : String} (orderly : host.Orderly database outside)
    (operation : ModuleOperation) (spares : Spares database (host.reflections operation))
    (type : String) : missedReset type ∉ (host.perform operation).notes := by
  cases operation with
  | register module => exact (owned_register orderly.owned orderly.sound module).2 type
  | load id =>
    exact (owned_load orderly.owned orderly.sound id (orderly.database ▸ spares)).2 type
  | unload id =>
    exact (owned_unload orderly.owned orderly.sound id (orderly.database ▸ spares)).2 type
  | unloadAll => exact unloadEach_hits orderly _ spares type

/-! ### Members of types that are not registered -/

/-- Operations whose chains register known types, no two of one name, and leave the registrations
of the database to the hooks keep the store tidy. -/
theorem keeps_tidy (database : String) {fixed : Universe} {known : Ty → Prop}
    (distinct : ∀ left right, known left → known right →
      (fixed.record left).name = (fixed.record right).name → left = right) :
    Keeps (fun host => host.registry.database = database ∧
        host.store.Tidy database fixed known) fun reflection =>
      (∀ step ∈ reflection.2, step.Spares database) ∧ known reflection.1 where
  register host module kept := by
    refine ⟨(keeps_database database).register host module kept.1, ?_⟩
    cases taken : host.registry.modules.contains module.id with
    | true => simpa [register_of_taken taken] using kept.2
    | false =>
      rw [(register_of_new taken).1]
      exact kept.2
  load host id allowed kept := by
    refine ⟨(keeps_database database).load host id (fun _ _ => trivial) kept.1, ?_⟩
    obtain ⟨rfl, tidy⟩ := kept
    cases permitted : host.registry.loadable id with
    | error error => simpa [load_of_refused permitted] using tidy
    | ok info =>
      rw [loadReflections_of_allowed permitted] at allowed
      have ran : (host.loadRun id).value.2.2.store.Tidy host.registry.database fixed known :=
        HookContext.tidy_run tidy distinct (fun reflection mem => (allowed reflection mem).1)
          fun reflection mem => (allowed reflection mem).2
      cases present : host.registry.modules.contains id with
      | false => simpa [load_of_absent permitted present] using tidy
      | true =>
        cases ended : (host.loadRun id).value.1.result with
        | error error =>
          rw [(load_of_failed permitted present ended).1]
          exact tidy_resetTypes (host.loading id) ran _
        | ok done =>
          rw [(load_of_completed permitted present ended).1]
          exact ran
  unload host id allowed kept := by
    refine ⟨(keeps_database database).unload host id (fun _ _ => trivial) kept.1, ?_⟩
    obtain ⟨rfl, tidy⟩ := kept
    cases permitted : host.registry.unloadable id with
    | error error => simpa [unload_of_refused permitted] using tidy
    | ok info =>
      rw [unloadReflections_of_allowed permitted] at allowed
      have ran : (host.unloadRun id info.types).value.2.2.store.Tidy host.registry.database
          fixed known :=
        HookContext.tidy_run tidy distinct (fun reflection mem => (allowed reflection mem).1)
          fun reflection mem => (allowed reflection mem).2
      cases present : host.registry.modules.contains id with
      | false => simpa [unload_of_absent permitted present] using tidy
      | true =>
        rw [(unload_of_allowed permitted present).1]
        exact tidy_resetTypes (host.unloading id info.types) ran _

/-! ### Whole runs -/

/-- A host without modules lists nothing, so all registered names are from outside. -/
theorem orderly_ofDatabase (database : String) (store : Store) :
    (ModuleHost.mk (.ofDatabase database) store).Orderly database
      fun name => (store.database database).contains name = true := by
  have empty : ∀ name, ¬(ofDatabase database).Lists name := by
    rintro name ⟨_, _, looked, _⟩
    simp [ofDatabase] at looked
  refine ⟨rfl, sound_ofDatabase database, ?_⟩
  constructor
  · intro name
    simp only [empty, or_false]
    rfl
  · exact fun name listed => absurd listed (empty name)
  · intro id info looked
    simp [ofDatabase] at looked

/-- Modules own the types they list. A database is changed by one registry alone, from a store that
registrations and resets lead to and in which every unregistered type has its described members,
and no chain resets the database while its factory is open. After every run of operations, with
whatever hooks: the registered names are those from outside and those active modules list, no
module lists a name from outside, none lists one twice, and the next operation resets registered
names only. If moreover no two of the types that were registered at first or were reflected by a
hook share a name, every unregistered type still has exactly its described members. -/
theorem after_types_owned {fixed : Universe} {start : Store}
    (reached : Store.Reachable fixed start) {database : String}
    (pristine : start.Pristine database) {operations : List ModuleOperation}
    (spares : Spares database
      ((ModuleHost.mk (.ofDatabase database) start).allReflections operations)) :
    let host := (ModuleHost.mk (.ofDatabase database) start).after operations
    let known := fun type =>
      (∃ name, (start.database database).get name = some type) ∨
        ∃ chain, (type, chain) ∈
          (ModuleHost.mk (.ofDatabase database) start).allReflections operations
    host.Owned (fun name => (start.database database).contains name = true) ∧
      (∀ operation, Spares database (host.reflections operation) →
        ∀ type, missedReset type ∉ (host.perform operation).notes) ∧
      ((∀ left right, known left → known right →
          start.types.name left = start.types.name right → left = right) →
        host.store.types.fixed = start.types.fixed ∧ host.store.Pristine database) := by
  intro host known
  have orderly : host.Orderly database
      fun name => (start.database database).contains name = true :=
    (keeps_orderly database _).after operations spares (orderly_ofDatabase database start)
  refine ⟨orderly.owned, fun operation => perform_hits orderly operation, fun distinct => ?_⟩
  have tidy : start.Tidy database start.types.fixed known :=
    { fixed := rfl
      known := fun name type found => .inl ⟨name, found⟩
      named := reached.named database
      pristine := pristine }
  have kept : host.registry.database = database ∧
      host.store.Tidy database start.types.fixed known := by
    refine (keeps_tidy database distinct).after operations ?_ ⟨rfl, tidy⟩
    rintro ⟨type, chain⟩ mem
    exact ⟨spares _ mem, .inr ⟨chain, mem⟩⟩
  exact ⟨kept.2.fixed, kept.2.pristine⟩

/-- Types that are known by their names alone. -/
def plainUniverse : Universe where
  record
    | .named key => { name := key, layout := ⟨0, 1⟩ }
    | _ => { name := "", layout := ⟨0, 1⟩ }
  described _ := {}

/-- A store in which one type was registered outside all modules. -/
def outsideStore : Store :=
  ((Store.fresh plainUniverse).reflect "main" (.named "Outside") []).value.2

/-- Two modules share a type; the load hook of the second fails, and then the first leaves. -/
def sharedRun : List ModuleOperation :=
  [.register
    { id := "first"
      onLoad := fun _ => [.reflect (.named "Shared") [.register (.parent ⟨.unit, []⟩)]] },
    .register
      { id := "second"
        onLoad := fun _ =>
          [.reflect (.named "Shared") [], .reflect (.named "Own") [.info], .fail "broken"] },
    .load "first", .load "second", .unload "first"]

/-- The run in which two modules share a type leaves the type from outside alone, and nothing on
the others. -/
theorem sharedRun_types_owned :
    let host := (ModuleHost.mk (.ofDatabase "main") outsideStore).after sharedRun
    host.Owned (fun name => (outsideStore.database "main").contains name = true) ∧
      host.store.Pristine "main" := by
  have carried : (ModuleHost.mk (.ofDatabase "main") outsideStore).allReflections sharedRun =
      [(.named "Shared", [.register (.parent ⟨.unit, []⟩)]), (.named "Shared", []),
        (.named "Own", [.info])] := rfl
  have spares : Spares "main"
      ((ModuleHost.mk (.ofDatabase "main") outsideStore).allReflections sharedRun) := by
    rw [carried]
    simp [Spares, ChainStep.Spares]
  have reached : Store.Reachable plainUniverse outsideStore := .reflect .fresh "main" _ []
  have pristine : outsideStore.Pristine "main" := fun _ _ => rfl
  obtain ⟨owned, _, described⟩ := after_types_owned reached pristine spares
  refine ⟨owned, (described fun left right first second same => ?_).2⟩
  have named : ∀ type,
      ((∃ name, (outsideStore.database "main").get name = some type) ∨
        ∃ chain, (type, chain) ∈
          (ModuleHost.mk (.ofDatabase "main") outsideStore).allReflections sharedRun) →
      ∃ key, type = .named key := by
    rintro type (⟨name, found⟩ | ⟨chain, mem⟩)
    · have looked : Dictionary.lookup name [("Outside", Ty.named "Outside")] = some type := found
      simp only [Dictionary.lookup, Option.ite_none_right_eq_some, Option.some.injEq] at looked
      exact ⟨_, looked.2.symm⟩
    · rw [carried] at mem
      simp only [List.mem_cons, Prod.mk.injEq, List.not_mem_nil, or_false] at mem
      rcases mem with ⟨rfl, _⟩ | ⟨rfl, _⟩ | ⟨rfl, _⟩
      · exact ⟨_, rfl⟩
      · exact ⟨_, rfl⟩
      · exact ⟨_, rfl⟩
  obtain ⟨_, rfl⟩ := named left first
  obtain ⟨_, rfl⟩ := named right second
  exact congrArg Ty.named same

end ModuleHost

end Reflection
