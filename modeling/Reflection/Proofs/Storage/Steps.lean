import Reflection.Proofs.Storage.Agreement

/-!
# What steps and runs keep

Every step leads from a sound machine to a sound one and changes nothing but the holders that it
names and the variable that it reaches (`keeps_perform`). By induction a run keeps a machine sound,
an owned any that the run does not name (`owned_after`), and all variables as long as it only writes
to what an any owns (`variables_after`).
-/
namespace Reflection

namespace Machine

variable {fixed : Universe} {types : Types} {machine before middle after : Machine}
  {holder source target : Holder} {touched : List Holder} {reached : Nat → Prop}

/-- Whether a change leads to a sound machine and leaves alone what it should. -/
structure Keeps (fixed : Universe) (touched : List Holder) (reached : Nat → Prop)
    (before after : Machine) : Prop where
  sound : after.Sound fixed
  spares : before.Spares touched reached after

/-- Two changes in turn. -/
theorem Keeps.trans (first : before.Keeps fixed touched reached middle)
    (second : middle.Sound fixed → middle.Keeps fixed touched reached after) :
    before.Keeps fixed touched reached after :=
  ⟨(second first.sound).sound, first.spares.trans (second first.sound).spares⟩

namespace Sound

/-- No change at all. -/
theorem keeps_refl (sound : machine.Sound fixed) :
    machine.Keeps fixed touched reached machine := ⟨sound, .refl machine⟩

/-- Dropping what a holder holds. -/
theorem keeps_drop (sound : machine.Sound fixed) (named : holder ∈ touched) :
    machine.Keeps fixed touched reached (machine.drop holder) :=
  ⟨sound.drop holder, (sound.spares_drop holder).mono (by simpa using named) fun _ hit => hit⟩

/-- Moving a container. -/
theorem keeps_move (sound : machine.Sound fixed) (given : source ∈ touched)
    (taken : target ∈ touched) :
    machine.Keeps fixed touched reached (machine.move source target) :=
  ⟨sound.move source target,
    (sound.spares_move source target).mono (by simp [given, taken]) fun _ hit => hit⟩

/-- Taking ownership of a value. -/
theorem keeps_place (sound : machine.Sound types.fixed) (any : Any) (named : holder ∈ touched) :
    machine.Keeps types.fixed touched reached (machine.place types holder any) :=
  ⟨sound.place types holder any, (sound.spares_place types holder any).mono (by simpa using named)
    fun _ hit => hit⟩

/-- Referring to a variable. -/
theorem keeps_refer (sound : machine.Sound fixed) (named : holder ∈ touched) {address : Nat}
    {storage : Storage} (refers : storage = .ref address ∨ storage = .refMut address) :
    machine.Keeps fixed touched reached (machine.refer holder address storage).2 := by
  unfold Machine.refer
  split
  · exact sound.keeps_refl
  · rename_i type found
    have tagged := Memory.variableType_eq_some_iff.1 found
    exact ⟨sound.refer holder tagged refers,
      (sound.spares_refer holder _).mono (by simpa using named) fun _ hit => hit⟩

/-- Overwriting a value. -/
theorem keeps_overwrite (sound : machine.Sound fixed) (named : holder ∈ touched)
    {pointer : Pointer} (pointed : (machine.contents holder).dataMut = some pointer)
    (value : Value)
    (through : ∀ address, (machine.contents holder).storage = .refMut address → reached address) :
    machine.Keeps fixed touched reached (machine.overwrite holder pointer value) := by
  exact ⟨sound.overwrite (Storage.pointer_of_pointerMut pointed) value,
    (sound.spares_overwrite pointed value).mono (by simpa using named) through⟩

/-- Putting an owned copy under a name. -/
theorem keeps_copy (sound : machine.Sound types.fixed) (source target : String)
    (made : .temporary ∈ touched) (named : .any target ∈ touched) :
    machine.Keeps types.fixed touched reached (machine.copy types source target).2 := by
  unfold copy
  split
  · exact sound.keeps_refl
  · exact (sound.keeps_place _ made).trans fun placed => placed.keeps_move made named

/-- Writing a copy or conversion into a value. -/
theorem keeps_write (sound : machine.Sound types.fixed) (target source : String) :
    machine.Keeps types.fixed [.temporary, .any target]
      (fun address => (machine.contents (.any target)).storage = .refMut address)
      (machine.write types target source).2 := by
  simp only [write]
  split
  · exact sound.keeps_refl
  split
  · exact sound.keeps_refl
  rename_i pointer pointed
  split
  · exact sound.keeps_refl
  rename_i stored made
  have placing : machine.Keeps types.fixed [.temporary, .any target]
      (fun address => (machine.contents (.any target)).storage = .refMut address)
      (machine.place types .temporary stored) := sound.keeps_place stored (by simp)
  refine placing.trans fun placed => ?_
  -- The temporary is another holder, so the target still has its container.
  have same : (machine.place types .temporary stored).contents (.any target) =
      machine.contents (.any target) :=
    ((sound.spares_place types .temporary stored).others (.any target) (by simp)
      fun _ _ hit => hit).1
  simp only [moveInto]
  split
  · exact placed.keeps_refl
  · rename_i value found
    refine Keeps.trans (placed.keeps_overwrite (by simp) (same ▸ pointed) value ?_)
      fun written => written.keeps_drop (by simp)
    rw [same]
    exact fun _ hit => hit

/-- Replacing a text. -/
theorem keeps_setText (sound : machine.Sound types.fixed) (target text : String) :
    machine.Keeps types.fixed [.any target]
      (fun address => (machine.contents (.any target)).storage = .refMut address)
      (machine.setText types target text).2 := by
  simp only [setText]
  split
  · exact sound.keeps_refl
  split
  · exact sound.keeps_refl
  split
  · exact sound.keeps_refl
  rename_i pointer pointed
  split
  · exact sound.keeps_refl
  split
  · exact sound.keeps_overwrite (by simp) pointed _ fun _ hit => hit
  · exact sound.keeps_refl

/-- Turning an any into an owned value. -/
theorem keeps_intoOwned (sound : machine.Sound types.fixed) (source target : String) :
    machine.Keeps types.fixed [.temporary, .any source, .any target] reached
      (machine.intoOwned types source target).2 := by
  unfold intoOwned
  split
  · split
    · exact sound.keeps_drop (by simp)
    · exact ((sound.keeps_place _ (by simp)).trans fun placed =>
        placed.keeps_drop (by simp)).trans fun dropped =>
          dropped.keeps_move (by simp) (by simp)
  · exact sound.keeps_move (by simp) (by simp)

/-- Moving a value out of an any. -/
theorem keeps_downcast (sound : machine.Sound fixed) (source : String) (type : Ty) :
    machine.Keeps fixed [.any source] reached (machine.downcast source type).2 := by
  simp only [downcast]
  split
  · exact sound.keeps_refl
  split
  · exact sound.keeps_refl
  · exact sound.keeps_drop (by simp)

/-- Turning an any into a view. -/
theorem keeps_view (sound : machine.Sound fixed) (types : Types) (source : String)
    (shape : ShapeKind) (target : String) :
    machine.Keeps fixed [.any source, .view target] reached
      (machine.view types source shape target).2 := by
  unfold view
  split
  · exact sound.keeps_drop (by simp)
  · exact sound.keeps_move (by simp) (by simp)

/-- Every step leads to a sound machine and leaves alone the holders that it does not name and the
variables that it does not reach. -/
theorem keeps_perform (sound : machine.Sound types.fixed) (step : Step) :
    machine.Keeps types.fixed step.touched (fun address => step.Reaches machine address)
      (machine.perform types step).2 := by
  cases step with
  | declare content => exact ⟨sound.declare content, sound.spares_declare content⟩
  | store address value =>
    simp only [perform]
    split
    · exact sound.keeps_refl
    · rename_i type found
      refine ⟨sound.store address value, (spares_store machine address value).mono
        (fun _ hit => hit) ?_⟩
      rintro other rfl
      exact ⟨rfl, by rw [found]; rfl⟩
  | new target content =>
    exact (sound.keeps_place _ (by simp [Step.touched])).trans fun placed =>
      placed.keeps_move (by simp [Step.touched]) (by simp [Step.touched])
  | fromRef target address => exact sound.keeps_refer (by simp [Step.touched]) (.inl rfl)
  | fromMut target address => exact sound.keeps_refer (by simp [Step.touched]) (.inr rfl)
  | take source target =>
    exact sound.keeps_move (by simp [Step.touched]) (by simp [Step.touched])
  | reset target => exact sound.keeps_drop (by simp [Step.touched])
  | assign target source =>
    exact sound.keeps_copy source target (by simp [Step.touched]) (by simp [Step.touched])
  | write target source => exact sound.keeps_write target source
  | setText target text => exact sound.keeps_setText target text
  | tryClone source target =>
    exact sound.keeps_copy source target (by simp [Step.touched]) (by simp [Step.touched])
  | intoOwned source target => exact sound.keeps_intoOwned source target
  | intoRef source type => exact sound.keeps_drop (by simp [Step.touched])
  | intoMut source type => exact sound.keeps_drop (by simp [Step.touched])
  | downcast source type => exact sound.keeps_downcast source type
  | view source shape target => exact sound.keeps_view types source shape target
  | intoTarget source target =>
    exact sound.keeps_move (by simp [Step.touched]) (by simp [Step.touched])

/-- Every step does so, whatever the members of types are when it is carried out. -/
theorem keeps_step (sound : machine.Sound fixed) (members : Ty → Members) (step : Step) :
    machine.Keeps fixed step.touched (fun address => step.Reaches machine address)
      (machine.perform ⟨fixed, members⟩ step).2 :=
  @keeps_perform ⟨fixed, members⟩ machine sound step

/-- A run leads from a sound machine to a sound one. -/
theorem sound_after (sound : machine.Sound fixed) (run : List ((Ty → Members) × Step)) :
    (machine.after fixed run).Sound fixed := by
  induction run generalizing machine with
  | nil => exact sound
  | cons first rest ih => exact ih (sound.keeps_step first.1 first.2).sound

/-- What a step reaches is a variable. -/
theorem tag_of_reaches (sound : machine.Sound fixed) {step : Step} {address : Nat}
    (reaches : step.Reaches machine address) :
    ∃ type, machine.memory.tag address = some (.program, type) := by
  have through : ∀ target, (machine.contents (.any target)).storage = .refMut address →
      ∃ type, machine.memory.tag address = some (.program, type) := by
    intro target refers
    have pointed : (machine.contents (.any target)).data = some (.cell address) := by
      rw [Container.data, refers]
      rfl
    rcases (sound.coherent (.any target)).tag_of_pointed pointed with owned | known
    · rw [refers] at owned
      cases owned
    · exact known
  cases step with
  | store other value =>
    obtain ⟨rfl, known⟩ := reaches
    obtain ⟨type, found⟩ := Option.isSome_iff_exists.1 known
    exact ⟨type, Memory.variableType_eq_some_iff.1 found⟩
  | write target source => exact through target reaches
  | setText target text => exact through target reaches
  | _ => cases reaches

/-- What lies behind an owned value is not reached by a step. -/
theorem not_reaches_owned (sound : machine.Sound fixed)
    (owned : (machine.contents holder).isRef = false) {address : Nat}
    (pointed : (machine.contents holder).data = some (.cell address)) (step : Step) :
    ¬ step.Reaches machine address := by
  intro reaches
  obtain ⟨type, tagged⟩ := sound.tag_of_reaches reaches
  refine sound.not_owned tagged holder ?_
  cases stored : (machine.contents holder).storage with
  | heap other =>
    rw [Container.data, stored] at pointed
    cases pointed
    rfl
  | empty | inline value =>
    rw [Container.data, stored] at pointed
    cases pointed
  | ref other | refMut other =>
    rw [Container.isRef, stored] at owned
    cases owned

/-- An owned any is the same after a run that does not name it. -/
theorem owned_after (sound : machine.Sound fixed)
    (owned : (machine.contents holder).isRef = false) (run : List ((Ty → Members) × Step))
    (unnamed : ∀ step ∈ run, holder ∉ step.2.touched) :
    (machine.after fixed run).contents holder = machine.contents holder ∧
      (machine.after fixed run).held holder = machine.held holder := by
  induction run generalizing machine with
  | nil => exact ⟨rfl, rfl⟩
  | cons first rest ih =>
    obtain ⟨members, step⟩ := first
    have keeps := sound.keeps_step members step
    have same := keeps.spares.others holder (unnamed _ (List.mem_cons_self ..))
      fun address pointed => sound.not_reaches_owned owned pointed step
    have rested := ih keeps.sound (same.1 ▸ owned) fun step listed =>
      unnamed step (List.mem_cons_of_mem _ listed)
    exact ⟨rested.1.trans same.1, rested.2.trans same.2⟩

/-- Writing in the value of an any leaves it a reference or none, as it was. -/
theorem isRef_of_written (sound : machine.Sound fixed) (members : Ty → Members) {step : Step}
    {target : String} (writes : step.written = some target) :
    ((machine.perform ⟨fixed, members⟩ step).2.contents (.any target)).isRef =
      (machine.contents (.any target)).isRef := by
  have performed := (sound.keeps_step members step).sound
  have before := (sound.coherent (.any target)).mirrors.isRef
  have after := (performed.coherent (.any target)).mirrors.isRef
  have kept : ∀ {expected : Except Error (Unit × Any)},
      Answers (expected.map Prod.snd) (.any target) machine
        (machine.perform ⟨fixed, members⟩ step) →
      (∀ any, expected = .ok ((), any) → any.isRef = (machine.held (.any target)).isRef) →
        ((machine.perform ⟨fixed, members⟩ step).2.held (.any target)).isRef =
          (machine.held (.any target)).isRef := by
    intro expected answers same
    cases expected with
    | error error =>
      have refused : machine.perform ⟨fixed, members⟩ step = (.failed error, machine) := answers
      rw [refused]
    | ok given =>
      obtain ⟨⟨⟩, any⟩ := given
      rw [answers.2]
      exact same any rfl
  rw [before, after]
  cases step with
  | write target source =>
    cases writes
    exact kept (@answers_write ⟨fixed, members⟩ machine sound target source)
      fun _ => Any.isRef_write
  | setText target text =>
    cases writes
    exact kept (@answers_setText ⟨fixed, members⟩ machine sound target text)
      fun _ => Any.isRef_setText
  | _ => cases writes

/-- No variable changes while a run only writes in the value of an any that owns it. -/
theorem variables_after (sound : machine.Sound fixed) {target : String}
    (owned : (machine.contents (.any target)).isRef = false)
    (run : List ((Ty → Members) × Step)) (writes : ∀ step ∈ run, step.2.written = some target)
    {address : Nat} {type : Ty} (tagged : machine.memory.tag address = some (.program, type)) :
    (machine.after fixed run).memory.cells address = machine.memory.cells address := by
  induction run generalizing machine with
  | nil => rfl
  | cons first rest ih =>
    obtain ⟨members, step⟩ := first
    have written : step.written = some target := writes _ (List.mem_cons_self ..)
    have keeps := sound.keeps_step members step
    have spared : ¬ step.Reaches machine address := by
      intro reaches
      have refers : (machine.contents (.any target)).storage = .refMut address := by
        cases step <;> cases written <;> exact reaches
      rw [Container.isRef, refers] at owned
      cases owned
    have same := keeps.spares.cells address type tagged spared
    have still : (machine.perform ⟨fixed, members⟩ step).2.memory.tag address =
        some (.program, type) := by
      rw [Memory.tag, same]
      exact tagged
    have kept := (sound.isRef_of_written members written).trans owned
    exact (ih keeps.sound kept (fun step listed => writes step (List.mem_cons_of_mem _ listed))
      still).trans same

end Sound

end Machine

end Reflection
