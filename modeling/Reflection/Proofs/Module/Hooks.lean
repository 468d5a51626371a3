import Reflection.Proofs.Module.Runs
import Reflection.Proofs.Registration

/-!
# What hooks leave behind

A hook reaches the store only by registering types through its context. `HookContext.Tracks` is
what every action keeps of the bookkeeping: the registered names are those held when the hook began
and those it has recorded, each recorded once and none from outside all modules. A hook also keeps
the store tidy, and takes no note that reads like the notes on the resets that follow it.
-/
namespace Reflection

/-- Whether no chain of some reflections, each a type and its chain, touches the registrations of a
database on its way. -/
def Spares (database : String) (reflections : List (Ty × List ChainStep)) : Prop :=
  ∀ reflection ∈ reflections, ∀ step ∈ reflection.2, step.Spares database

namespace HookContext

variable {context : HookContext} {state : HookState} {type : Ty} {chain : List ChainStep}
  {outside held : String → Prop}

/-! ### Recorded names -/

/-- A name that is recorded, or that is registered and no module's, is not recorded again. -/
theorem record_of_known
    (known : state.store.types.name type ∈ state.reflected ∨
      (context.claimed (state.store.types.name type) = false ∧
        (state.store.database context.database).contains (state.store.types.name type) = true)) :
    (context.record state type).value = state := by
  unfold record
  by_cases recorded : state.store.types.name type ∈ state.reflected
  · simp [recorded]
  · obtain ⟨unclaimed, registered⟩ := known.resolve_left recorded
    simp [recorded, unclaimed, registered]

/-- A name that is some module's or not registered yet is recorded. -/
theorem record_of_new (unrecorded : state.store.types.name type ∉ state.reflected)
    (own : context.claimed (state.store.types.name type) = true ∨
      (state.store.database context.database).contains (state.store.types.name type) = false) :
    (context.record state type).value =
      { state with reflected := state.reflected ++ [state.store.types.name type] } := by
  unfold record
  rcases own with claimed | free
  · simp [unrecorded, claimed]
  · simp [unrecorded, free]

/-- Recording a type changes nothing in the store. -/
theorem store_record : (context.record state type).value.store = state.store := by
  simp only [record]
  split
  · rfl
  · split <;> rfl

/-- What a reflection does to the store is what its chain does. -/
theorem store_reflect :
    (context.reflect state type chain).value.2.store =
      (state.store.reflect context.database type chain).value.2 := by
  simp only [reflect, Logged.value_bind, Logged.value_pure, store_record]

/-- What a reflection records is decided before its chain is carried out. -/
theorem reflected_reflect :
    (context.reflect state type chain).value.2.reflected =
      (context.record state type).value.reflected := rfl

/-- The registered names are those held and those recorded, each recorded once and none from
outside all modules. -/
structure Tracks (context : HookContext) (outside held : String → Prop) (state : HookState) :
    Prop where
  /-- A name is registered exactly if it was held or has been recorded. -/
  registered : ∀ name, (state.store.database context.database).contains name = true ↔
    held name ∨ name ∈ state.reflected
  /-- No name is recorded twice. -/
  nodup : state.reflected.Nodup
  /-- No name from outside is recorded. -/
  inside : ∀ name ∈ state.reflected, ¬outside name

/-- A reflection keeps track of names. -/
theorem Tracks.reflect (tracks : context.Tracks outside held state)
    (claims : ∀ name, context.claimed name = true → ¬outside name)
    (external : ∀ name, outside name → held name)
    (spares : ∀ step ∈ chain, step.Spares context.database) :
    context.Tracks outside held (context.reflect state type chain).value.2 := by
  have names : ∀ name,
      ((context.reflect state type chain).value.2.store.database
          context.database).contains name = true ↔
        (state.store.database context.database).contains name = true ∨
          state.store.types.name type = name := by
    intro name
    rw [store_reflect, Database.contains_eq_isSome, Store.get_reflect spares,
      Database.contains_eq_isSome]
    by_cases same : state.store.types.name type = name
    · simp [same]
    · simp [same]
  by_cases known : state.store.types.name type ∈ state.reflected ∨
      (context.claimed (state.store.types.name type) = false ∧
        (state.store.database context.database).contains (state.store.types.name type) = true)
  case pos =>
    have same : (context.reflect state type chain).value.2.reflected = state.reflected := by
      rw [reflected_reflect, record_of_known known]
    have already : (state.store.database context.database).contains
        (state.store.types.name type) = true := by
      rcases known with recorded | ⟨_, registered⟩
      · exact (tracks.registered _).2 (.inr recorded)
      · exact registered
    constructor
    · intro name
      rw [names, same, ← tracks.registered]
      constructor
      · rintro (earlier | rfl)
        · exact earlier
        · exact already
      · exact .inl
    · rw [same]
      exact tracks.nodup
    · rw [same]
      exact tracks.inside
  case neg =>
    obtain ⟨unrecorded, own⟩ := not_or.1 known
    have new : context.claimed (state.store.types.name type) = true ∨
        (state.store.database context.database).contains
          (state.store.types.name type) = false := by
      cases claimed : context.claimed (state.store.types.name type) with
      | true => exact .inl rfl
      | false =>
        refine .inr ?_
        rw [← Bool.not_eq_true]
        exact fun registered => own ⟨claimed, registered⟩
    have grown : (context.reflect state type chain).value.2.reflected =
        state.reflected ++ [state.store.types.name type] := by
      rw [reflected_reflect, record_of_new unrecorded new]
    constructor
    · intro name
      rw [names, grown, tracks.registered, List.mem_append, List.mem_singleton, or_assoc]
      exact or_congr_right (or_congr_right eq_comm)
    · rw [grown, List.nodup_append]
      refine ⟨tracks.nodup, by simp, ?_⟩
      rintro name mem last isLast rfl
      rw [List.mem_singleton.1 isLast] at mem
      exact unrecorded mem
    · intro name mem
      rw [grown, List.mem_append, List.mem_singleton] at mem
      rcases mem with earlier | rfl
      · exact tracks.inside name earlier
      · intro external_name
        rcases new with claimed | free
        · exact claims _ claimed external_name
        · have registered := (tracks.registered _).2 (.inl (external _ external_name))
          rw [registered] at free
          contradiction

/-! ### Runs -/

/-- A run of a hook keeps track of names. -/
theorem Tracks.run (tracks : context.Tracks outside held state)
    (claims : ∀ name, context.claimed name = true → ¬outside name)
    (external : ∀ name, outside name → held name) {actions : List Action}
    (spares : Spares context.database (context.reflections state actions)) :
    context.Tracks outside held (context.run state actions).value.2.2 :=
  run_induction (context.Tracks outside held)
    (fun _ _ _ spared holds => Tracks.reflect holds claims external spared) spares tracks

/-- A run of a hook that registers known types, no two of one name, leaves the store tidy. -/
theorem tidy_run {fixed : Universe} {known : Ty → Prop}
    (tidy : state.store.Tidy context.database fixed known)
    (distinct : ∀ left right, known left → known right →
      (fixed.record left).name = (fixed.record right).name → left = right)
    {actions : List Action} (spares : Spares context.database (context.reflections state actions))
    (familiar : ∀ reflection ∈ context.reflections state actions, known reflection.1) :
    (context.run state actions).value.2.2.store.Tidy context.database fixed known := by
  refine run_induction (fun later => later.store.Tidy context.database fixed known) ?_
    (fun reflection mem => And.intro (spares reflection mem) (familiar reflection mem)) tidy
  rintro later type chain ⟨spared, new⟩ holds
  rw [store_reflect]
  exact holds.reflect distinct new spared

end HookContext

/-! ### Notes -/

/-- A note that does not begin like the notes a registry takes on the resets of types. -/
def Note.Plain (note : Note) : Prop := ¬"Type '".toList <+: note.text.toList

section Notes

variable {α : Type} {scope : Scope} {store : Store}

/-- Registering a type takes plain notes. -/
theorem Scope.plain_register (type : Ty) : (scope.register type).AllNotes Note.Plain := by
  simp only [Scope.register]
  split
  · split
    · refine Logged.allNotes_bind (Logged.allNotes_note ?_) (Logged.allNotes_pure _)
      simp [Note.Plain, toString]
    · exact Logged.allNotes_pure _
  · refine Logged.allNotes_bind (Logged.allNotes_note ?_) (Logged.allNotes_pure _)
    simp [Note.Plain, toString]

/-- Noting a replacement takes plain notes. -/
theorem Scope.plain_noteReplaced (type : Ty) {kind : String} (name : String) (replaced : Bool)
    (member : kind = "Constant" ∨ kind = "Property") :
    (scope.noteReplaced type kind name replaced).AllNotes Note.Plain := by
  unfold Scope.noteReplaced
  split
  · refine Logged.allNotes_note ?_
    rcases member with rfl | rfl
    · simp [Note.Plain, toString]
    · simp [Note.Plain, toString]
  · exact Logged.allNotes_pure _

/-- Attaching an attribute takes plain notes. -/
theorem Scope.plain_attach (factory : Factory) (value : Typed) :
    (scope.attach factory value).AllNotes Note.Plain := by
  simp only [Scope.attach]
  split
  · refine Logged.allNotes_bind (Logged.allNotes_note ?_) (Logged.allNotes_pure _)
    simp [Note.Plain, toString]
  · split
    · exact Logged.allNotes_pure _
    · exact Logged.allNotes_pure _

/-- One registration takes plain notes. -/
theorem Scope.plain_apply (factory : Factory) (link : Link) :
    (scope.apply factory link).AllNotes Note.Plain := by
  cases link with
  | constant name value =>
    exact Logged.allNotes_bind (Scope.plain_noteReplaced _ _ _ (.inl rfl)) (Logged.allNotes_pure _)
  | property name property =>
    exact Logged.allNotes_bind (Scope.plain_noteReplaced _ _ _ (.inr rfl)) (Logged.allNotes_pure _)
  | function name overload => exact Logged.allNotes_pure _
  | constructor overload => exact Logged.allNotes_pure _
  | parent parent => exact Logged.allNotes_pure _
  | conversion conversion => exact Logged.allNotes_pure _
  | attach value => exact Logged.allNotes_bind (Scope.plain_attach _ _) (Logged.allNotes_pure _)

/-- Resetting a name takes plain notes. -/
theorem Store.plain_reset (store : Store) (database name : String) :
    (store.reset database name).AllNotes Note.Plain := by
  refine Logged.allNotes_bind ?_ (Logged.allNotes_pure _)
  simp only [Scope.reset]
  split
  · exact Logged.allNotes_pure _
  · refine Logged.allNotes_bind (Logged.allNotes_note ?_) (Logged.allNotes_pure _)
    simp [Note.Plain, toString]

/-- The steps of a chain take plain notes. -/
theorem Store.plain_runSteps (database : String) (factory : Factory) (chain : List ChainStep) :
    (store.runSteps database factory chain).AllNotes Note.Plain := by
  induction chain generalizing store factory with
  | nil => exact Logged.allNotes_pure _
  | cons step rest ih =>
    cases step with
    | register link => exact Logged.allNotes_bind (Scope.plain_apply _ _) (ih _)
    | info => exact Logged.allNotes_bind (ih _) (Logged.allNotes_pure _)
    | resetIn elsewhere name =>
      exact Logged.allNotes_bind (Store.plain_reset _ _ _)
        (Logged.allNotes_bind (ih _) (Logged.allNotes_pure _))

/-- A chain takes plain notes. -/
theorem Store.plain_reflect (database : String) (type : Ty) (chain : List ChainStep) :
    (store.reflect database type chain).AllNotes Note.Plain := by
  have opened : ((store.scope database).reflect type).AllNotes Note.Plain :=
    Logged.allNotes_bind (Scope.plain_register type) (Logged.allNotes_pure _)
  refine Logged.allNotes_bind opened (Logged.allNotes_bind (Store.plain_runSteps _ _ _) ?_)
  refine Logged.allNotes_bind ?_ (Logged.allNotes_bind ?_ (Logged.allNotes_pure _))
  · intro note mem
    rw [Logged.notes_mark, List.mem_singleton] at mem
    subst mem
    simp [Note.Plain]
  · refine Logged.allNotes_note ?_
    simp [Note.Plain, toString]

/-- Making a value without arguments takes no notes. -/
theorem Types.notes_construct_nil (types : Types) (type : Option Ty) :
    (types.construct type []).notes = [] := by
  unfold Types.construct
  split
  · rfl
  · split
    · rename_i constructor _
      unfold Overload.invoke
      split
      · rfl
      · cases constructor.receiver <;> cases constructor.copied <;> rfl
    · rfl

/-- A run of a hook takes plain notes. -/
theorem HookContext.plain_run {context : HookContext} {state : HookState}
    (actions : List Action) : (context.run state actions).AllNotes Note.Plain := by
  induction actions generalizing state with
  | nil => exact Logged.allNotes_pure _
  | cons action rest ih =>
    cases action with
    | reflect type chain =>
      refine Logged.allNotes_bind ?_ (Logged.allNotes_bind ih (Logged.allNotes_pure _))
      refine Logged.allNotes_bind ?_
        (Logged.allNotes_bind (Store.plain_reflect _ _ _) (Logged.allNotes_pure _))
      simp only [HookContext.record]
      split
      · exact Logged.allNotes_pure _
      · split
        · exact Logged.allNotes_pure _
        · refine Logged.allNotes_bind (Logged.allNotes_note ?_) (Logged.allNotes_pure _)
          simp [Note.Plain, toString]
    | fail message => exact Logged.allNotes_pure _
    | require id =>
      unfold HookContext.run
      split
      · exact ih
      · exact Logged.allNotes_pure _
    | construct name =>
      refine Logged.allNotes_bind ?_ ?_
      · intro note mem
        rw [Types.notes_construct_nil] at mem
        contradiction
      · split
        · exact Logged.allNotes_pure _
        · exact Logged.allNotes_bind ih (Logged.allNotes_pure _)
    | lookup name => exact Logged.allNotes_bind ih (Logged.allNotes_pure _)
    | trace => exact Logged.allNotes_bind ih (Logged.allNotes_pure _)

end Notes

end Reflection
