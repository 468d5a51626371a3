import Reflection.Catalogue.Enumerations
import Reflection.Proofs.Storage.Steps

/-!
# Ownership in every run

What holds of anys whose two parts are set separately, whatever a program does with them: the parts
agree, moving takes the whole content, an owned copy and the variable it was copied from have
nothing to do with each other from then on, and a step that fails leaves the operand it does not
consume as it was. These are laws of sound machines (`Sound.ownership`), and every run leads to one
(`ownership_after`).
-/
namespace Reflection

namespace Machine

variable {fixed : Universe} {types : Types} {machine : Machine}

/-- Whether steps answer as the operations on anys do. A step that consumes an any drops it when it
fails, and all others leave everything as it was. -/
structure Agrees (types : Types) (machine : Machine) : Prop where
  assign : ∀ target source,
    Answers (((machine.held (.any target)).assign types
        (machine.held (.any source))).outcome.map Prod.snd)
      (.any target) machine (machine.perform types (.assign target source))
  write : ∀ target source,
    Answers (((machine.held (.any target)).write types
        (machine.held (.any source))).outcome.map Prod.snd)
      (.any target) machine (machine.perform types (.write target source))
  setText : ∀ target text,
    Answers (((machine.held (.any target)).setText types text).outcome.map Prod.snd)
      (.any target) machine (machine.perform types (.setText target text))
  tryClone : ∀ source target,
    Answers ((machine.held (.any source)).tryClone types).outcome (.any target) machine
      (machine.perform types (.tryClone source target))
  intoOwned : ∀ source target,
    Answers ((machine.held (.any source)).intoOwned types).outcome (.any target)
      (machine.drop (.any source)) (machine.perform types (.intoOwned source target))
  view : ∀ source shape target,
    Answers (((machine.held (.any source)).viewLength types shape).outcome.map fun _ =>
        machine.held (.any source)) (.view target) (machine.drop (.any source))
      (machine.perform types (.view source shape target))

/-- A sound machine agrees with the operations on anys. -/
theorem Sound.agrees (sound : machine.Sound types.fixed) : machine.Agrees types where
  assign := sound.answers_assign
  write := sound.answers_write
  setText := sound.answers_setText
  tryClone := sound.answers_copy
  intoOwned := sound.answers_intoOwned
  view := sound.answers_view

/-- Whether a step put an owned value under a name that has nothing to do with any variable: no
variable changed, nothing that a run does elsewhere changes the value, and no run of writes to the
value changes a variable. -/
structure Detaches (fixed : Universe) (before : Machine) (target : String) (value : Any)
    (after : Machine) : Prop where
  held : after.held (.any target) = value
  owned : ∃ content, value = .new content
  cells : ∀ address type, before.memory.tag address = some (.program, type) →
    after.memory.cells address = before.memory.cells address
  kept : ∀ run : List ((Ty → Members) × Step), (∀ step ∈ run, .any target ∉ step.2.touched) →
    (after.after fixed run).held (.any target) = value
  apart : ∀ run : List ((Ty → Members) × Step), (∀ step ∈ run, step.2.written = some target) →
    ∀ address type, before.memory.tag address = some (.program, type) →
      (after.after fixed run).memory.cells address = before.memory.cells address

namespace Sound

/-- A step that copies an any answers as copying does, whatever it leaves behind when that fails. -/
theorem answers_of_copies (sound : machine.Sound types.fixed) {step : Step}
    {original target : String} (copies : step.Copies machine original target) :
    ∃ refused, Answers ((machine.held (.any original)).tryClone types).outcome (.any target) refused
      (machine.perform types step) := by
  cases copies with
  | assign target source => exact ⟨_, sound.answers_copy original target⟩
  | tryClone source target => exact ⟨_, sound.answers_copy original target⟩
  | intoOwned target refers =>
    have answers := sound.answers_intoOwned original target
    have referring : (machine.held (.any original)).isRef = true :=
      (sound.coherent (.any original)).mirrors.isRef.symm.trans refers
    rw [Any.intoOwned, if_pos referring] at answers
    exact ⟨_, answers⟩

/-- A copy of a value under a name is detached from all variables. -/
theorem detaches_of_copies (sound : machine.Sound fixed) {members : Ty → Members} {step : Step}
    {original target : String} (copies : step.Copies machine original target)
    (holds : (machine.contents (.any original)).isEmpty = false) {copy : Any}
    (copied : ((machine.held (.any original)).tryClone ⟨fixed, members⟩).outcome = .ok copy) :
    machine.Detaches fixed target copy (machine.perform ⟨fixed, members⟩ step).2 := by
  have keeps := sound.keeps_step members step
  have nonempty : (machine.held (.any original)).isEmpty = false :=
    (sound.coherent (.any original)).mirrors.isEmpty.symm.trans holds
  have owned : ∃ content, copy = .new content := by
    cases found : machine.held (.any original) with
    | empty =>
      rw [found] at nonempty
      cases nonempty
    | held access content =>
      rw [found] at copied
      exact Any.new_of_tryClone copied
  have held : (machine.perform ⟨fixed, members⟩ step).2.held (.any target) = copy := by
    obtain ⟨refused, answers⟩ := @answers_of_copies ⟨fixed, members⟩ _ sound _ _ _ copies
    rw [copied] at answers
    exact answers.2
  have cells : ∀ address type, machine.memory.tag address = some (.program, type) →
      (machine.perform ⟨fixed, members⟩ step).2.memory.cells address =
        machine.memory.cells address :=
    fun address type tagged => keeps.spares.cells address type tagged
      (by cases copies <;> exact fun reaches => reaches)
  have unshared : ((machine.perform ⟨fixed, members⟩ step).2.contents (.any target)).isRef =
      false := by
    obtain ⟨content, rfl⟩ := owned
    exact (keeps.sound.coherent (.any target)).mirrors.isRef.trans (congrArg Any.isRef held)
  refine ⟨held, owned, cells, ?_, ?_⟩
  · intro run unnamed
    exact (keeps.sound.owned_after unshared run unnamed).2.trans held
  · intro run writes address type tagged
    have same := cells address type tagged
    have still : (machine.perform ⟨fixed, members⟩ step).2.memory.tag address =
        some (.program, type) := by
      rw [Memory.tag, same]
      exact tagged
    exact (keeps.sound.variables_after unshared run writes still).trans same

/-- A step that fails and does not consume its operand changes nothing. -/
theorem perform_of_failed (sound : machine.Sound types.fixed) {step : Step} {error : Error}
    (lasting : step.consumes = false) (failed : (machine.perform types step).1 = .failed error) :
    (machine.perform types step).2 = machine := by
  have agrees := sound.agrees
  cases step with
  | assign target source => exact (agrees.assign target source).refused failed
  | write target source => exact (agrees.write target source).refused failed
  | setText target text => exact (agrees.setText target text).refused failed
  | tryClone source target => exact (agrees.tryClone source target).refused failed
  | store address value =>
    simp only [perform] at failed
    split at failed <;> cases failed
  | fromRef target address =>
    simp only [perform, Machine.refer] at failed
    split at failed <;> cases failed
  | fromMut target address =>
    simp only [perform, Machine.refer] at failed
    split at failed <;> cases failed
  | downcast source type =>
    have moved := sound.downcast_eq source type
    simp only [perform] at failed
    split at moved
    · rw [moved] at failed
      cases failed
    · rw [moved.2] at failed
      cases failed
  | declare content | new target content | take source target | reset target => cases failed
  | intoOwned source target | intoRef source type | intoMut source type
  | view source shape target | intoTarget source target => cases lasting

end Sound

/-- What is true of the anys of a program at some moment, whatever it did before and does next. -/
structure Ownership (fixed : Universe) (machine : Machine) : Prop where
  /-- Records, storages and memory agree, no two anys own one cell, and no cell is lost. -/
  sound : machine.Sound fixed
  /-- What an any says of itself fits together. -/
  observed : ∀ holder, (machine.contents holder).Observed fixed
  /-- It is what the any that the parts make up says. -/
  mirrors : ∀ holder, (machine.contents holder).Mirrors (machine.held holder)
  isLocal : ∀ members holder,
    (machine.held holder).isLocal ⟨fixed, members⟩ = (machine.contents holder).isLocal
  /-- Steps do what the operations on anys do. -/
  agrees : ∀ members, machine.Agrees ⟨fixed, members⟩
  /-- A new any owns its value. -/
  made : ∀ members target content,
    (machine.perform ⟨fixed, members⟩ (.new target content)).2.held (.any target) = .new content
  /-- A reference to a variable holds its value and lies outside of the any. -/
  referred : ∀ members target address type value (mutable : Bool),
    machine.memory.tag address = some (.program, type) →
    machine.memory.load address = some value →
      (machine.perform ⟨fixed, members⟩
          (if mutable then .fromMut target address else .fromRef target address)).2.held
          (.any target) =
        .held (if mutable then .exclusive else .shared) ⟨type, value⟩
  /-- A reset leaves nothing. -/
  emptied : ∀ members target,
    (machine.perform ⟨fixed, members⟩ (.reset target)).2.contents (.any target) = .vacant
  /-- Taking moves the whole content and leaves nothing behind. -/
  taken : ∀ members source target, source ≠ target →
    let after := (machine.perform ⟨fixed, members⟩ (.take source target)).2
    after.contents (.any target) = machine.contents (.any source) ∧
      after.held (.any target) = machine.held (.any source) ∧
      after.contents (.any source) = .vacant
  /-- So does taking an any back out of a view. -/
  unviewed : ∀ members source target,
    let after := (machine.perform ⟨fixed, members⟩ (.intoTarget source target)).2
    after.contents (.any target) = machine.contents (.view source) ∧
      after.held (.any target) = machine.held (.view source) ∧
      after.contents (.view source) = .vacant
  /-- A downcast moves an owned value of exactly the type out, and hands anything else back. -/
  downcast : ∀ members source type,
    let result := machine.perform ⟨fixed, members⟩ (.downcast source type)
    (∀ value, machine.held (.any source) = .new ⟨type, value⟩ →
        result.1 = .moved value ∧ result.2.contents (.any source) = .vacant) ∧
      ((∀ value, machine.held (.any source) ≠ .new ⟨type, value⟩) →
        result = (.handedBack, machine))
  /-- Recovering a variable from a reference gives the one it refers to, with its value. -/
  borrowed : ∀ members source type (mutable : Bool),
    let types : Types := ⟨fixed, members⟩
    let result := machine.perform types
      (if mutable then .intoMut source type else .intoRef source type)
    match (if mutable then (machine.held (.any source)).intoMut types type
        else (machine.held (.any source)).intoRef types type).outcome with
    | .ok value => ∃ address, machine.memory.load address = some value ∧
        machine.memory.tag address = some (.program, type) ∧
        result = (.address address, machine.drop (.any source))
    | .error error => result = (.failed error, machine.drop (.any source))
  /-- A copy is owned, of the type that is copied as long as constructors make values of their own
  types, and it is detached: it changes no variable, the one that was copied among them, nothing
  that a run does elsewhere changes it, and no run of writes to it changes a variable. -/
  copied : ∀ members step original target, step.Copies machine original target →
    (machine.contents (.any original)).isEmpty = false →
    ∀ copy, ((machine.held (.any original)).tryClone ⟨fixed, members⟩).outcome = .ok copy →
      machine.Detaches fixed target copy (machine.perform ⟨fixed, members⟩ step).2 ∧
        ((∀ type, ∀ constructor ∈ (members type).constructors, constructor.returns = type) →
          copy.type? = (machine.contents (.any original)).record)
  /-- A step changes nothing but the holders that it names and the variable that it sets or writes
  through a mutable reference. -/
  spares : ∀ members step, machine.Spares step.touched (fun address => step.Reaches machine address)
    (machine.perform ⟨fixed, members⟩ step).2
  /-- A step that fails changes nothing, unless it consumes its operand. -/
  refused : ∀ members step error, step.consumes = false →
    (machine.perform ⟨fixed, members⟩ step).1 = .failed error →
      (machine.perform ⟨fixed, members⟩ step).2 = machine

/-- A new any owns its value. -/
theorem Sound.held_made (sound : machine.Sound types.fixed) (target : String) (content : Typed) :
    (machine.perform types (.new target content)).2.held (.any target) = .new content := by
  have placed := held_place types machine .temporary (rfl : (Any.new content).isRef = false)
  have moved := (sound.place types .temporary (.new content)).held_move .temporary (.any target)
  exact moved.trans placed

/-- A reference to a variable holds its value. -/
theorem Sound.held_referred (sound : machine.Sound types.fixed) (target : String) (address : Nat)
    (type : Ty) (value : Value) (mutable : Bool)
    (tagged : machine.memory.tag address = some (.program, type))
    (loaded : machine.memory.load address = some value) :
    (machine.perform types
        (if mutable then .fromMut target address else .fromRef target address)).2.held
        (.any target) =
      .held (if mutable then .exclusive else .shared) ⟨type, value⟩ := by
  have known := Memory.variableType_eq_some_iff.2 tagged
  have still : (machine.drop (.any target)).memory.load address = some value := by
    rw [Memory.load, cells_drop (sound.not_owned tagged (.any target))]
    exact loaded
  have shown : ∀ storage : Storage, storage.pointer = some (.cell address) →
      (machine.refer (.any target) address storage).2.held (.any target) =
        .held storage.access ⟨type, value⟩ := by
    intro storage pointed
    have read : (Container.mk (some type) storage).value (machine.drop (.any target)).memory =
        some value := by
      rw [Container.value, Container.data, pointed]
      exact still
    simp only [Machine.refer, known, held, contents_set, if_true, memory_set, Container.held, read]
  cases mutable with
  | true => exact shown (.refMut address) rfl
  | false => exact shown (.ref address) rfl

/-- A downcast moves an owned value of exactly the type out, and hands anything else back. -/
theorem Sound.moves_downcast (sound : machine.Sound fixed) (source : String) (type : Ty) :
    (∀ value, machine.held (.any source) = .new ⟨type, value⟩ →
        (machine.downcast source type).1 = .moved value ∧
          (machine.downcast source type).2.contents (.any source) = .vacant) ∧
      ((∀ value, machine.held (.any source) ≠ .new ⟨type, value⟩) →
        machine.downcast source type = (.handedBack, machine)) := by
  have answers := sound.downcast_eq source type
  rcases (machine.held (.any source)).downcast_cases type with ⟨value, moved, holds⟩ | handed
  · rw [moved] at answers
    refine ⟨fun other same => ?_, fun none => absurd holds (none value)⟩
    have values : Any.new ⟨type, value⟩ = .new ⟨type, other⟩ := holds.symm.trans same
    cases values
    have result : machine.downcast source type = (.moved value, machine.drop (.any source)) :=
      answers
    rw [result]
    exact ⟨rfl, if_pos rfl⟩
  · rw [handed] at answers
    refine ⟨fun value holds => ?_, fun _ => answers.2⟩
    rw [holds] at handed
    simp [Any.downcast, Any.new] at handed

/-- Recovering a variable from a reference gives the one it refers to, with its value. -/
theorem Sound.recovers_borrow (sound : machine.Sound types.fixed) (source : String) (type : Ty)
    (mutable : Bool) :
    match (if mutable then (machine.held (.any source)).intoMut types type
        else (machine.held (.any source)).intoRef types type).outcome with
    | .ok value => ∃ address, machine.memory.load address = some value ∧
        machine.memory.tag address = some (.program, type) ∧
        machine.perform types (if mutable then .intoMut source type else .intoRef source type) =
          (.address address, machine.drop (.any source))
    | .error error =>
      machine.perform types (if mutable then .intoMut source type else .intoRef source type) =
        (.failed error, machine.drop (.any source)) := by
  cases mutable with
  | true => exact sound.intoBorrow_eq source type true
  | false => exact sound.intoBorrow_eq source type false

/-- The laws of ownership hold of every sound machine. -/
theorem Sound.ownership (sound : machine.Sound fixed) : machine.Ownership fixed where
  sound := sound
  observed := fun holder => (sound.coherent holder).observed
  mirrors := fun holder => (sound.coherent holder).mirrors
  isLocal := fun members holder =>
    @Container.Coherent.isLocal_held _ _ ⟨fixed, members⟩ (sound.coherent holder)
  agrees := fun members => @Sound.agrees ⟨fixed, members⟩ machine sound
  made := fun members => @Sound.held_made ⟨fixed, members⟩ machine sound
  referred := fun members => @Sound.held_referred ⟨fixed, members⟩ machine sound
  emptied := fun _ _ => if_pos rfl
  taken := fun _ source target apart =>
    ⟨contents_move .., sound.held_move .., contents_move_source machine (by simpa using apart)⟩
  unviewed := fun _ source target =>
    ⟨contents_move .., sound.held_move .., contents_move_source machine (by simp)⟩
  downcast := fun _ => sound.moves_downcast
  borrowed := fun members => @Sound.recovers_borrow ⟨fixed, members⟩ machine sound
  copied := fun _ _ original _ copies holds _ copied =>
    ⟨sound.detaches_of_copies copies holds copied, fun typed =>
      (Any.type_of_tryClone typed copied).trans
        (sound.coherent (.any original)).mirrors.record.symm⟩
  spares := fun members step => (sound.keeps_step members step).spares
  refused := fun members step error =>
    @Sound.perform_of_failed ⟨fixed, members⟩ machine sound step error

/-- The laws of ownership hold after every run of a program, whatever is registered between its
steps. -/
theorem ownership_after (fixed : Universe) (run : List ((Ty → Members) × Step)) :
    (Machine.fresh.after fixed run).Ownership fixed :=
  ((Sound.ofFresh fixed).sound_after run).ownership

/-- A value that does not fit inline is copied from a variable, which is set to another value then:
the reference shows it, and the copy does not. -/
example :
    let fixed := Standard.universeOf fun _ => Catalogue.describeHuge
    let machine := fresh.after fixed
      ([.declare ⟨.named "Huge", .integer 7⟩, .fromMut "reference" 0, .tryClone "reference" "copy",
        .store 0 (.integer 8)].map (fixed.described, ·))
    machine.contents (.any "copy") = ⟨some (.named "Huge"), .heap 1⟩ ∧
      machine.held (.any "copy") = .new ⟨.named "Huge", .integer 7⟩ ∧
      machine.held (.any "reference") = .held .exclusive ⟨.named "Huge", .integer 8⟩ :=
  ⟨rfl, rfl, rfl⟩

end Machine

end Reflection
