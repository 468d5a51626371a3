import Mathlib.Data.List.Nodup
import Reflection.Proofs.Module.Order

/-!
# Unloading everything

Unloading all modules goes through the load order from its end, as it was when the unloading began.
The module that is unloaded next is then always the last that is left, and what is last in load
order is never in use: whatever depends on it would stand behind it. So no unload is refused, every
hook runs once, and a hook that fails keeps no other from running. `ModuleHost.Unwinds` is the
invariant of the loop and `ModuleHost.Unwound` what the loop has done when it ends.
-/
namespace Reflection

namespace ModuleRegistry

variable {registry : ModuleRegistry} {id : String} {info : ModuleInfo}

/-- The registries that operations lead to from one without modules. Each operation is carried out
over whatever store there is by then. -/
inductive Reachable : ModuleRegistry → Prop where
  | ofDatabase (database : String) : Reachable (.ofDatabase database)
  | perform {registry : ModuleRegistry} (reached : Reachable registry) (store : Store)
      (operation : ModuleOperation) :
      Reachable (ModuleHost.perform ⟨registry, store⟩ operation).value.2.registry

/-- Operations lead to sound registries only. -/
theorem Reachable.sound (reached : registry.Reachable) : registry.Sound := by
  induction reached with
  | ofDatabase database => exact sound_ofDatabase database
  | perform _ store operation ih =>
    exact ModuleHost.keeps_sound.perform operation (fun _ _ => trivial) ih

/-- What is known of a module that stands in the load order. -/
theorem Sound.active_of_mem (sound : registry.Sound) (listed : id ∈ registry.loadOrder) :
    ∃ info, registry.info.find? id = some info ∧ info.status = .active :=
  status_eq_some_iff.1 ((sound.mem_order id).1 listed)

/-- Nothing active depends on the module that was loaded last, so it may be unloaded. -/
theorem Sound.unloadable_last (sound : registry.Sound) {front : List String}
    (last : registry.loadOrder = front ++ [id]) : ∃ info, registry.unloadable id = .ok info := by
  have listed : id ∈ registry.loadOrder := by simp [last]
  obtain ⟨info, found, active⟩ := sound.active_of_mem listed
  refine ⟨info, unloadable_eq_ok_iff.2 ⟨found, active, ?_⟩⟩
  rw [activeDependent_eq_none_iff]
  rintro other known looked running dependency mem rfl
  -- A dependent stands behind what it depends on, and behind the last there is nothing.
  have behind := sound.before other known looked running dependency mem
  have once := sound.order_nodup
  rw [last] at behind once
  have fresh : dependency.id ∉ front := by
    intro early
    exact (List.nodup_append.1 once).2.2 _ early _ (List.mem_singleton_self _) rfl
  have turned : [other, dependency.id].Sublist (dependency.id :: front.reverse) := by
    simpa using behind.reverse
  have early : dependency.id ∈ front.reverse := by
    cases turned with
    | cons _ rest => exact rest.subset (by simp)
    | cons_cons _ rest => exact rest.subset (by simp)
  exact fresh (List.mem_reverse.1 early)

end ModuleRegistry

/-- A run of an unload hook: whose it was, how it ended, and what it recorded. -/
structure HookRun where
  id : String
  finish : HookEnd
  traces : List Trace

namespace ModuleHost

variable {host : ModuleHost} {id : String} {info : ModuleInfo} {ids : List String}

/-- The run of the unload hook of a module, if it may be unloaded. -/
def hookRun? (host : ModuleHost) (id : String) : Option HookRun :=
  match host.registry.unloadable id with
  | .error _ => none
  | .ok info =>
    let (finish, traces, _) := (host.unloadRun id info.types).value
    some ⟨id, finish, traces⟩

/-- The runs of unload hooks while modules are unloaded one after another. -/
def unloadRuns (host : ModuleHost) : List String → List HookRun
  | [] => []
  | id :: rest => (host.hookRun? id).toList ++ (host.unload id).value.2.unloadRuns rest

/-! ### One step -/

/-- One step of an unloading: a module runs its unload hook and leaves the registry, whatever the
hook returns, and nothing happens to the others. -/
structure Leaves (host : ModuleHost) (id : String) (run : HookRun) : Prop where
  hook : host.hookRun? id = some run
  named : run.id = id
  outcome : (host.unload id).value.1 = { result := run.finish.result, traces := run.traces }
  order : (host.unload id).value.2.registry.loadOrder = host.registry.loadOrder.filter (· ≠ id)
  status : (host.unload id).value.2.registry.status id = some (settled run.finish.result)
  recorded : ∃ module, host.registry.modules.find? id = some module ∧
    (host.unload id).value.2.registry.modules.find? id =
      some { module with history := run.finish.ending :: module.history }
  statuses : ∀ other, id ≠ other →
    (host.unload id).value.2.registry.status other = host.registry.status other
  modules : ∀ other, id ≠ other →
    (host.unload id).value.2.registry.modules.find? other = host.registry.modules.find? other

/-- A module that may be unloaded leaves. -/
theorem leaves_of_allowed (sound : host.registry.Sound)
    (allowed : host.registry.unloadable id = .ok info) : ∃ run, host.Leaves id run := by
  obtain ⟨found, _, _⟩ := ModuleRegistry.unloadable_eq_ok_iff.1 allowed
  have there := sound.present found
  obtain ⟨module, present⟩ := Option.isSome_iff_exists.1 there
  let run := (host.unloadRun id info.types).value
  have unloaded := (unload_of_allowed allowed there).1
  -- Of the modules only the history of this one changes, when its hook has run.
  have histories : ∀ other, (host.unload id).value.2.registry.modules.find? other =
      if id = other then
        (host.registry.modules.find? other).map fun module =>
          { module with history := run.1.ending :: module.history }
      else host.registry.modules.find? other := by
    intro other
    rw [unloaded]
    exact Dictionary.find?_modify _ _ _ _
  refine ⟨⟨id, run.1, run.2.1⟩, ?_⟩
  constructor
  case hook => simp [hookRun?, allowed, run]
  case named => rfl
  case outcome => rw [unloaded]
  case order =>
    rw [unloaded]
    rfl
  case status =>
    rw [unloaded]
    exact ModuleRegistry.moved_of_unloaded.status_self found
  case recorded =>
    refine ⟨module, present, ?_⟩
    rw [histories, if_pos rfl, present, Option.map_some]
  case statuses =>
    intro other different
    rw [unloaded]
    exact ModuleRegistry.moved_of_unloaded.status_of_ne different
  case modules =>
    intro other different
    rw [histories, if_neg different]

/-- What is left to unload is the load order, the module loaded last first. -/
structure Unwinds (host : ModuleHost) (ids : List String) : Prop where
  sound : host.registry.Sound
  order : host.registry.loadOrder = ids.reverse

/-- A step of an unloading is not refused and leaves the rest to unload. -/
theorem Unwinds.step (unwinds : host.Unwinds (id :: ids)) :
    (∃ info, host.registry.unloadable id = .ok info) ∧ id ∉ ids ∧
      (∃ run, host.Leaves id run) ∧ (host.unload id).value.2.Unwinds ids := by
  have last : host.registry.loadOrder = ids.reverse ++ [id] := by
    rw [unwinds.order, List.reverse_cons]
  obtain ⟨info, allowed⟩ := unwinds.sound.unloadable_last last
  obtain ⟨run, leaves⟩ := leaves_of_allowed unwinds.sound allowed
  have fresh : id ∉ ids := by
    have once := unwinds.sound.order_nodup
    rw [unwinds.order, List.nodup_reverse] at once
    exact (List.nodup_cons.1 once).1
  refine ⟨⟨info, allowed⟩, fresh, ⟨run, leaves⟩, sound_unload unwinds.sound id, ?_⟩
  rw [leaves.order, last, List.filter_append, List.filter_eq_self.2 ?_]
  · simp
  · intro other mem
    rw [decide_eq_true_eq]
    rintro rfl
    exact fresh (List.mem_reverse.1 mem)

/-- A run leads to registries that can be reached. -/
theorem reachable_after (reached : host.registry.Reachable) (operations : List ModuleOperation) :
    (host.after operations).registry.Reachable := by
  induction operations generalizing host with
  | nil => exact reached
  | cons operation rest ih => exact ih (.perform reached host.store operation)

/-! ### The whole loop -/

/-- What unloading some modules one after another has done: every one of them was allowed to leave
and ran its hook, in turn and once, and the hooks alone decide how each ended and what is
answered. -/
structure Unwound (host : ModuleHost) (ids : List String) : Prop where
  /-- The hooks of all modules ran, in turn. -/
  ran : (host.unloadRuns ids).map (·.id) = ids
  /-- No unload was refused. -/
  allowed : ∀ front id back, ids = front ++ id :: back →
    ∃ info, (host.unloadEach front).value.2.registry.unloadable id = .ok info
  /-- What was recorded is what the hooks recorded, in turn. -/
  traces : (host.unloadEach ids).value.1.traces = (host.unloadRuns ids).flatMap (·.traces)
  /-- Each module remembers one more run, its last. -/
  recorded : ∀ run ∈ host.unloadRuns ids, ∃ module,
    host.registry.modules.find? run.id = some module ∧
      (host.unloadEach ids).value.2.registry.modules.find? run.id =
        some { module with history := run.finish.ending :: module.history }
  /-- Each module is registered if its hook ended well, and failed if it did not. -/
  settled : ∀ run ∈ host.unloadRuns ids,
    (host.unloadEach ids).value.2.registry.status run.id = some (settled run.finish.result)
  /-- No hook of another module ran, and every other module stands where it stood. -/
  untouched : ∀ other, other ∉ ids →
    (host.unloadEach ids).value.2.registry.modules.find? other =
        host.registry.modules.find? other ∧
      (host.unloadEach ids).value.2.registry.status other = host.registry.status other
  /-- Nothing is left in load order. -/
  order : (host.unloadEach ids).value.2.registry.loadOrder = []
  /-- It went well if every hook did. -/
  ok_iff : (host.unloadEach ids).value.1.result = .ok () ↔
    ∀ run ∈ host.unloadRuns ids, run.finish.result = .ok ()
  /-- Otherwise the first error of a hook is answered. -/
  first_error : ∀ front run back error, host.unloadRuns ids = front ++ run :: back →
    (∀ earlier ∈ front, earlier.finish.result = .ok ()) → run.finish.result = .error error →
      (host.unloadEach ids).value.1.result = .error error

/-- Where nothing is left in load order, there is nothing to do. -/
theorem Unwound.nil (order : host.registry.loadOrder = []) : host.Unwound [] where
  ran := rfl
  allowed front _ _ split := by simp at split
  traces := rfl
  recorded _ mem := absurd mem List.not_mem_nil
  settled _ mem := absurd mem List.not_mem_nil
  untouched _ _ := ⟨rfl, rfl⟩
  order := order
  ok_iff := by simp [unloadEach, unloadRuns]
  first_error front _ _ _ split := by simp [unloadRuns] at split

/-- What is answered if one more module is unloaded first. -/
theorem value_unloadEach_cons (host : ModuleHost) (id : String) (ids : List String) :
    (host.unloadEach (id :: ids)).value =
      ({ result := match (host.unload id).value.1.result with
          | .error error => .error error
          | .ok () => ((host.unload id).value.2.unloadEach ids).value.1.result
         traces := (host.unload id).value.1.traces ++
          ((host.unload id).value.2.unloadEach ids).value.1.traces },
        ((host.unload id).value.2.unloadEach ids).value.2) := rfl

/-- One more module is unloaded before the others. -/
theorem Unwound.cons {run : HookRun} (leaves : host.Leaves id run) (fresh : id ∉ ids)
    (may : ∃ info, host.registry.unloadable id = .ok info)
    (later : (host.unload id).value.2.Unwound ids) : host.Unwound (id :: ids) := by
  have runs : host.unloadRuns (id :: ids) =
      run :: (host.unload id).value.2.unloadRuns ids := by
    rw [unloadRuns, leaves.hook]
    rfl
  -- The hooks that run later are those of other modules.
  have elsewhere : ∀ next ∈ (host.unload id).value.2.unloadRuns ids, id ≠ next.id := by
    rintro next mem rfl
    exact fresh (later.ran ▸ List.mem_map_of_mem mem)
  have head := later.untouched id fresh
  constructor
  case ran => rw [runs, List.map_cons, later.ran, leaves.named]
  case allowed =>
    intro front next back split
    cases front with
    | nil =>
      obtain ⟨rfl, _⟩ := List.cons.inj split
      exact may
    | cons first others =>
      obtain ⟨rfl, rest⟩ := List.cons.inj split
      exact later.allowed others next back rest
  case traces =>
    rw [value_unloadEach_cons, runs, List.flatMap_cons, ← later.traces, leaves.outcome]
  case recorded =>
    rw [runs]
    refine List.forall_mem_cons.2 ⟨?_, fun next mem => ?_⟩
    · obtain ⟨module, present, changed⟩ := leaves.recorded
      rw [leaves.named, value_unloadEach_cons, head.1]
      exact ⟨module, present, changed⟩
    · rw [← leaves.modules next.id (elsewhere next mem)]
      exact later.recorded next mem
  case settled =>
    rw [runs]
    refine List.forall_mem_cons.2 ⟨?_, later.settled⟩
    rw [leaves.named, value_unloadEach_cons, head.2]
    exact leaves.status
  case untouched =>
    intro other outside
    obtain ⟨different, apart⟩ := not_or.1 (mt List.mem_cons.2 outside)
    obtain ⟨module, status⟩ := later.untouched other apart
    rw [value_unloadEach_cons, module, status]
    exact ⟨leaves.modules other (Ne.symm different), leaves.statuses other (Ne.symm different)⟩
  case order => exact later.order
  case ok_iff =>
    rw [value_unloadEach_cons, runs, List.forall_mem_cons, ← later.ok_iff, leaves.outcome]
    cases run.finish.result with
    | ok done => simp
    | error error => simp
  case first_error =>
    intro front next back error split before failed
    rw [runs] at split
    rw [value_unloadEach_cons, leaves.outcome]
    cases front with
    | nil =>
      obtain ⟨rfl, _⟩ := List.cons.inj split
      simp [failed]
    | cons first others =>
      obtain ⟨rfl, rest⟩ := List.cons.inj split
      obtain ⟨well, between⟩ := List.forall_mem_cons.1 before
      simp only [well]
      exact later.first_error others next back error rest between failed

/-- What is left to unload is unloaded. -/
theorem Unwinds.unwound (unwinds : host.Unwinds ids) : host.Unwound ids := by
  induction ids generalizing host with
  | nil => exact .nil unwinds.order
  | cons id rest ih =>
    obtain ⟨may, fresh, ⟨run, leaves⟩, next⟩ := unwinds.step
    exact .cons leaves fresh may (ih next)

/-- Unloading everything empties a registry. Whatever operations led to the registry and whatever
store it is over, `unloadAll` goes through the load order from its end: every active module, and
each once, runs its unload hook in this order; none is refused, whatever the hooks before it
returned. Afterwards nothing is active or in load order, each of these modules is registered if its
hook ended well and failed if it did not, and the answer is the first error of a hook, if there is
one. -/
theorem unloadAll_unwound {registry : ModuleRegistry} (reached : registry.Reachable)
    (store : Store) :
    let host := ModuleHost.mk registry store
    host.unloadAll = host.unloadEach registry.loadOrder.reverse ∧
      host.Unwound registry.loadOrder.reverse ∧ registry.loadOrder.Nodup ∧
      (∀ id, id ∈ registry.loadOrder ↔ registry.status id = some .active) ∧
      ∀ id, host.unloadAll.value.2.registry.status id ≠ some .active := by
  intro host
  have unwound : host.Unwound registry.loadOrder.reverse :=
    Unwinds.unwound ⟨reached.sound, by simp [host]⟩
  have last : host.unloadAll.value.2.registry.Sound :=
    (ModuleRegistry.Reachable.perform reached store .unloadAll).sound
  refine ⟨rfl, unwound, reached.sound.order_nodup, reached.sound.mem_order, fun id active => ?_⟩
  have listed := (last.mem_order id).2 active
  rw [show host.unloadAll.value.2.registry.loadOrder = [] from unwound.order] at listed
  contradiction

/-- A module, one that needs it and will not leave quietly, and one that needs nothing. -/
def stuckRun : List ModuleOperation :=
  [.register { id := "base", onLoad := fun _ => [.reflect .unit []] },
    .register
      { id := "tool"
        dependencies := [⟨"base", .initial⟩]
        onLoad := fun _ => [.reflect .unit [], .require "base"]
        onUnload := fun _ => [.trace, .fail "stuck"] },
    .register { id := "spare", onLoad := fun _ => [] },
    .load "base", .load "tool", .load "spare"]

/-- The host over one type after these operations. -/
def stuckHost : ModuleHost :=
  (ModuleHost.mk (.ofDatabase "main")
    (.fresh ⟨fun _ => { name := "Part", layout := ⟨0, 1⟩ }, fun _ => {}⟩)).after stuckRun

/-- While everything is unloaded the module in the middle fails, and the one below it leaves all the
same. -/
theorem stuckHost_unwound :
    stuckHost.registry.Reachable ∧ stuckHost.Unwound ["spare", "tool", "base"] ∧
      stuckHost.unloadAll.value.1.result = .error (.failed "tool" "stuck") ∧
      ∀ id, stuckHost.unloadAll.value.2.registry.status id ≠ some .active := by
  have reached : stuckHost.registry.Reachable := reachable_after (.ofDatabase "main") stuckRun
  have order : stuckHost.registry.loadOrder = ["base", "tool", "spare"] := rfl
  obtain ⟨_, unwound, _, _, inactive⟩ := unloadAll_unwound reached stuckHost.store
  rw [order] at unwound
  exact ⟨reached, unwound, rfl, inactive⟩

end ModuleHost

end Reflection
