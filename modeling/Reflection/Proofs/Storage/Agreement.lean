import Reflection.Proofs.Values.Runs
import Reflection.Proofs.Storage.Separation

/-!
# Steps answer as anys do

A step works on the parts of containers and on memory, while `Any` has the same operations on values
alone. In a sound machine the two agree: a step fails exactly if the operation on the any does, with
the same error, and what it leaves behind makes up the any that the operation gives. The one thing
that values do not show is where a failed step leaves its operand: as it was, unless the step
consumes it.
-/
namespace Reflection

namespace Any

variable {types : Types} {type : Ty} {source copy stored : Any}

/-- A copy is no reference. -/
theorem isRef_of_tryClone (copied : (source.tryClone types).outcome = .ok copy) :
    copy.isRef = false := by
  cases source with
  | empty =>
    cases copied
    rfl
  | held access content =>
    obtain ⟨new, rfl⟩ := new_of_tryClone copied
    rfl

/-- A copy has the type of its source, if constructors make values of the type they belong to. -/
theorem type_of_tryClone
    (typed : ∀ type, ∀ constructor ∈ (types.members type).constructors, constructor.returns = type)
    (copied : (source.tryClone types).outcome = .ok copy) : copy.type? = source.type? := by
  cases source with
  | empty =>
    cases copied
    rfl
  | held access content =>
    simp only [tryClone] at copied
    split at copied
    · cases copied
      rfl
    · split at copied
      · rename_i constructor found
        rw [Fallible.outcome_bind_eq_ok_iff] at copied
        obtain ⟨⟨result, after⟩, answered, last⟩ := copied
        cases last
        obtain ⟨receiver, values, index, given, _, _, rfl, _⟩ := Overload.invoke_eq_ok answered
        exact congrArg some (typed _ _ (List.mem_of_find?_eq_some found))
      · contradiction

/-- A copy that may be missing is no reference. -/
theorem isRef_cloneOrEmpty (types : Types) (source : Any) :
    (source.cloneOrEmpty types).value.isRef = false := by
  simp only [cloneOrEmpty, Logged.value_bind, Fallible.value_run]
  cases copied : (source.tryClone types).outcome with
  | error error => rfl
  | ok copy => exact isRef_of_tryClone copied

/-- A conversion is no reference. -/
theorem isRef_conv (types : Types) (source : Any) (target : Ty) :
    (source.conv types (some target)).value.isRef = false := by
  cases source with
  | empty => rfl
  | held access content =>
    rw [value_conv_held]
    split
    · exact isRef_cloneOrEmpty types _
    · split
      · rfl
      · split
        · exact isRef_cloneOrEmpty types _
        · rfl

/-- What is written to a value is held as the value was. -/
theorem isRef_write {destination written : Any}
    (done : (destination.write types source).outcome = .ok ((), written)) :
    written.isRef = destination.isRef := by
  obtain ⟨access, old, new, rfl, _, rfl, _⟩ := write_eq_ok done
  cases access <;> rfl

/-- A value whose text is replaced is held as it was. -/
theorem isRef_setText {destination changed : Any} {text : String}
    (done : (destination.setText types text).outcome = .ok ((), changed)) :
    changed.isRef = destination.isRef := by
  cases destination with
  | empty => contradiction
  | held access content =>
    simp only [setText] at done
    split at done
    · contradiction
    · split at done
      · contradiction
      · cases done
        cases access <;> rfl

/-- An any that is neither empty nor a reference owns its value. -/
theorem exists_new {any : Any} (held : any.isEmpty = false) (owned : any.isRef = false) :
    ∃ content, any = .new content := by
  cases any with
  | empty => cases held
  | held access content =>
    cases access with
    | owned => exact ⟨content, rfl⟩
    | shared => cases owned
    | exclusive => cases owned

/-- What a write stores is an owned value. -/
theorem new_of_writeSource (made : (writeSource types type source).outcome = .ok stored) :
    ∃ content, stored = .new content := by
  unfold writeSource at made
  split at made
  · rename_i same
    cases source with
    | empty => contradiction
    | held access content => exact new_of_tryClone made
  · rw [Fallible.outcome_bind_eq_ok_iff] at made
    obtain ⟨converted, answered, rest⟩ := made
    obtain rfl : (source.conv types (some type)).value = converted := by
      simpa using answered
    cases empty : (source.conv types (some type)).value.isEmpty with
    | true =>
      rw [empty] at rest
      contradiction
    | false =>
      rw [empty] at rest
      obtain rfl := Except.ok.inj rest
      exact exists_new empty (isRef_conv types source type)

end Any

namespace Container

variable {fixed : Universe} {memory : Memory} {container : Container}

/-- A container that took ownership of a value holds it. -/
theorem held_own (types : Types) (memory : Memory) (content : Typed) :
    (own types memory content).1.held (own types memory content).2 = .new content := by
  by_cases fits : (types.record content.type).layout.fitsInline = true
  · simp only [own, if_pos fits]
    rfl
  · have loaded : (memory.allocate .any content).load memory.next = some content.value := by
      rw [Memory.load, Memory.cells_allocate, if_pos rfl]
      rfl
    simp only [own, if_neg fits, held, value, data, Storage.pointer, Option.bind_some, read, loaded]
    rfl

/-- The value of a container that makes up an any is the one that is held. -/
theorem value_of_held {access : Access} {content : Typed}
    (holds : container.held memory = .held access content) :
    container.value memory = some content.value := by
  unfold held at holds
  split at holds
  · rename_i found
    cases holds
    exact found
  · cases holds

/-- What a container that is not vacant shows: a record, a pointer to read through, which is also
one to write through unless the container is a const reference, and a value where it points. -/
structure Shows (container : Container) (memory : Memory) (type : Ty) (pointer : Pointer)
    (value : Value) : Prop where
  record : container.record = some type
  data : container.data = some pointer
  dataMut : container.dataMut =
    if container.storage.access = .shared then none else some pointer
  read : container.read memory pointer = some value

/-- A coherent container shows nothing at all, or everything. -/
theorem Coherent.vacant_or_shows (coherent : container.Coherent fixed memory) :
    container = .vacant ∨ ∃ type pointer value, container.Shows memory type pointer value := by
  have present : ∀ {type : Ty} {storage : Storage} {pointer : Pointer},
      (Container.mk (some type) storage).Coherent fixed memory →
      storage.pointer = some pointer →
      (storage.pointerMut = if storage.access = .shared then none else some pointer) →
        ∃ value, (Container.mk (some type) storage).Shows memory type pointer value := by
    intro type storage pointer coherent pointed writable
    obtain ⟨value, found⟩ := coherent.exists_value (by simp [data, pointed])
    have stored : (Container.mk (some type) storage).read memory pointer = some value := by
      simpa [Container.value, data, pointed] using found
    exact ⟨value, rfl, pointed, writable, stored⟩
  cases coherent with
  | vacant => exact .inl rfl
  | inline fits => exact .inr ⟨_, _, present (.inline fits) rfl rfl⟩
  | heap large tagged => exact .inr ⟨_, _, present (.heap large tagged) rfl rfl⟩
  | ref tagged => exact .inr ⟨_, _, present (.ref tagged) rfl rfl⟩
  | refMut tagged => exact .inr ⟨_, _, present (.refMut tagged) rfl rfl⟩

namespace Shows

variable {type : Ty} {pointer : Pointer} {value : Value}
  (shows : container.Shows memory type pointer value)

include shows

/-- The value that is shown is the one held. -/
theorem value_eq : container.value memory = some value := by
  rw [Container.value, shows.data]
  exact shows.read

/-- The any that is made up holds the value as the storage does. -/
theorem held_eq : container.held memory = .held container.storage.access ⟨type, value⟩ := by
  simp only [Container.held, shows.record, shows.value_eq]

/-- A container whose value is overwritten holds the new one in the same way. -/
theorem held_overwrite (new : Value) :
    (container.overwrite memory new pointer).1.held (container.overwrite memory new pointer).2 =
      .held container.storage.access ⟨type, new⟩ := by
  obtain ⟨record, storage⟩ := container
  obtain rfl : record = some type := shows.record
  have pointed : storage.pointer = some pointer := shows.data
  cases pointer with
  | inside =>
    cases storage <;> cases pointed
    rfl
  | cell address =>
    have used : (memory.tag address).isSome := by
      have loaded : memory.load address = some value := shows.read
      rw [← Memory.isSome_load, loaded]
      rfl
    have stored := Memory.load_store used new
    have after : (Container.mk (some type) storage).Shows (memory.store address new) type
        (.cell address) new :=
      ⟨rfl, shows.data, shows.dataMut, stored⟩
    exact after.held_eq

end Shows

/-- What a reference recovers is the variable in which the value lies that the operation on anys
recovers; where that fails, so does the reference. -/
theorem Coherent.borrowed_eq (coherent : container.Coherent fixed memory) (types : Types) (type : Ty)
    (mutable : Bool) :
    match (if mutable then (container.held memory).intoMut types type
        else (container.held memory).intoRef types type).outcome with
    | .ok value => ∃ address, memory.load address = some value ∧
        memory.tag address = some (.program, type) ∧
        container.borrowed types type mutable = .ok address
    | .error error => container.borrowed types type mutable = .error error := by
  rcases coherent.vacant_or_shows with rfl | ⟨own, pointer, value, shows⟩
  · cases mutable <;> rfl
  obtain ⟨record, storage⟩ := container
  obtain rfl : record = some own := shows.record
  rw [shows.held_eq]
  by_cases same : own = type
  · subst same
    cases coherent with
    | inline fits =>
      cases mutable <;> simp [borrowed, Any.intoMut, Any.intoRef, Storage.access]
    | heap large tagged =>
      cases mutable <;> simp [borrowed, Any.intoMut, Any.intoRef, Storage.access]
    | @ref _ address tagged =>
      have loaded : memory.load address = some value := shows.value_eq
      cases mutable with
      | true => simp [borrowed, Any.intoMut, Storage.access]
      | false => simp [borrowed, Any.intoRef, Storage.access, loaded, tagged]
    | @refMut _ address tagged =>
      have loaded : memory.load address = some value := shows.value_eq
      cases mutable <;>
        simp [borrowed, Any.intoMut, Any.intoRef, Storage.access, loaded, tagged]
  · cases mutable <;> simp [borrowed, Any.intoMut, Any.intoRef, same]

/-- A container and the any it makes up say the same of themselves. -/
structure Mirrors (container : Container) (any : Any) : Prop where
  record : container.record = any.type?
  isEmpty : container.isEmpty = any.isEmpty
  isRef : container.isRef = any.isRef
  isConst : container.isConst = any.isConst
  data : container.data.isSome = any.hasData
  dataMut : container.dataMut.isSome = any.hasDataMut

/-- A coherent container says what the any it makes up does. -/
theorem Coherent.mirrors (coherent : container.Coherent fixed memory) :
    container.Mirrors (container.held memory) := by
  rcases coherent.vacant_or_shows with rfl | ⟨type, pointer, value, shows⟩
  · exact ⟨rfl, rfl, rfl, rfl, rfl, rfl⟩
  obtain ⟨record, storage⟩ := container
  obtain rfl : record = some type := shows.record
  rw [shows.held_eq]
  have pointed : storage.pointer = some pointer := shows.data
  cases storage with
  | empty => cases pointed
  | inline value => exact ⟨rfl, rfl, rfl, rfl, rfl, rfl⟩
  | heap address => exact ⟨rfl, rfl, rfl, rfl, rfl, rfl⟩
  | ref address => exact ⟨rfl, rfl, rfl, rfl, rfl, rfl⟩
  | refMut address => exact ⟨rfl, rfl, rfl, rfl, rfl, rfl⟩

/-- A coherent container keeps its value inline exactly if the any it makes up says so. -/
theorem Coherent.isLocal_held {types : Types} (coherent : container.Coherent types.fixed memory) :
    (container.held memory).isLocal types = container.isLocal := by
  rcases coherent.vacant_or_shows with rfl | ⟨type, pointer, value, shows⟩
  · rfl
  rw [shows.held_eq]
  cases coherent with
  | vacant => cases shows.record
  | inline fits =>
    cases shows.record
    exact fits
  | heap large tagged =>
    cases shows.record
    exact large
  | ref tagged => rfl
  | refMut tagged => rfl

/-- What the two parts of an any say together: there is a type, a value and a pointer to it all at
once, and how it is held decides whether it may be written and where it lies. -/
structure Observed (fixed : Universe) (container : Container) : Prop where
  type : container.record.isSome = true ↔ container.isEmpty = false
  data : container.isEmpty = false ↔ container.data.isSome = true
  dataMut : container.dataMut.isSome = true ↔
    container.isEmpty = false ∧ container.isConst = false
  isConst : container.isConst = true → container.isRef = true
  isLocal : container.isLocal = true ↔ container.isRef = false ∧
    ∃ type, container.record = some type ∧ (fixed.record type).layout.fitsInline = true

/-- The two parts of a coherent container say together what they should. -/
theorem Coherent.observed (coherent : container.Coherent fixed memory) :
    container.Observed fixed where
  type := by simp [isEmpty, Option.isSome_iff_ne_none]
  data := by cases coherent <;> simp [isEmpty, data, Storage.pointer, Container.vacant]
  dataMut := by
    cases coherent <;>
      simp [isEmpty, isConst, dataMut, Storage.pointerMut, Storage.pointer, Container.vacant]
  isConst := by cases coherent <;> simp [isConst, isRef, Container.vacant]
  isLocal := by
    cases coherent with
    | vacant => simp [isLocal, isRef, Container.vacant]
    | inline fits => simp [isLocal, isRef, fits]
    | heap large tagged => simp [isLocal, large]
    | ref tagged => simp [isLocal, isRef]
    | refMut tagged => simp [isLocal, isRef]

end Container

namespace Machine

variable {fixed : Universe} {types : Types} {machine : Machine} {holder : Holder}
  {source target : Holder}

/-- The holder of a vacant container holds nothing. -/
theorem held_of_vacant (vacant : machine.contents holder = .vacant) :
    machine.held holder = .empty := by
  rw [held, vacant]
  rfl

/-- What was moved is held as it was. -/
theorem contents_move (machine : Machine) (source target : Holder) :
    (machine.move source target).contents target = machine.contents source := if_pos rfl

/-- Moving empties the source. -/
theorem contents_move_source (machine : Machine) (apart : source ≠ target) :
    (machine.move source target).contents source = .vacant := by
  rw [move_of_ne apart]
  exact if_pos rfl

/-- A holder that takes ownership of an owned value holds it. -/
theorem held_place (types : Types) (machine : Machine) (holder : Holder) {any : Any}
    (owned : any.isRef = false) : (machine.place types holder any).held holder = any := by
  cases any with
  | empty =>
    exact held_of_vacant (if_pos rfl)
  | held access content =>
    cases access with
    | owned =>
      have taken := Container.held_own types (machine.drop holder).memory content
      have placed : (machine.place types holder (.new content)).contents holder =
          (Container.own types (machine.drop holder).memory content).1 := if_pos rfl
      change (machine.place types holder (.new content)).held holder = .new content
      rw [held, placed]
      exact taken
    | shared => cases owned
    | exclusive => cases owned

namespace Sound

/-- What was moved is the same value. -/
theorem held_move (sound : machine.Sound fixed) (source target : Holder) :
    (machine.move source target).held target = machine.held source := by
  by_cases apart : source = target
  · rw [apart, move_self]
  refine held_congr (contents_move machine source target) fun address pointed => ?_
  rw [move_of_ne apart]
  exact cells_drop (sound.spares_pointed apart pointed)

end Sound

/-- A holder whose value is overwritten holds the new one in the same way. -/
theorem held_overwrite {type : Ty} {pointer : Pointer} {old : Value}
    (shows : (machine.contents holder).Shows machine.memory type pointer old) (new : Value) :
    (machine.overwrite holder pointer new).held holder =
      .held (machine.contents holder).storage.access ⟨type, new⟩ := by
  have contents : (machine.overwrite holder pointer new).contents holder =
      ((machine.contents holder).overwrite machine.memory new pointer).1 := if_pos rfl
  rw [held, contents]
  exact shows.held_overwrite new

/-- Whether a step answers as an operation on anys does: with the error of the operation, leaving a
given machine behind, or else with what the operation gives in the target. -/
def Answers (expected : Except Error Any) (target : Holder) (refused : Machine)
    (result : Reply × Machine) : Prop :=
  match expected with
  | .ok any => result.1 = .done ∧ result.2.held target = any
  | .error error => result = (.failed error, refused)

/-- A step that answers as an operation does is done or refused as the operation is. -/
theorem Answers.done_or_refused {expected : Except Error Any} {refused : Machine}
    {result : Reply × Machine} (answers : Answers expected target refused result) :
    (∃ any, expected = .ok any ∧ result.1 = .done ∧ result.2.held target = any) ∨
      ∃ error, expected = .error error ∧ result = (.failed error, refused) := by
  cases expected with
  | ok any => exact .inl ⟨any, rfl, answers⟩
  | error error => exact .inr ⟨error, rfl, answers⟩

/-- A step that answers with an error leaves behind what it should. -/
theorem Answers.refused {expected : Except Error Any} {refused : Machine}
    {result : Reply × Machine} {error : Error} (answers : Answers expected target refused result)
    (failed : result.1 = .failed error) : result.2 = refused := by
  rcases answers.done_or_refused with ⟨any, _, done, _⟩ | ⟨other, _, same⟩
  · rw [done] at failed
    cases failed
  · rw [same]

namespace Sound

/-- Copying puts what the copy is under the target, or fails as the copy does. -/
theorem answers_copy (sound : machine.Sound types.fixed) (source target : String) :
    Answers ((machine.held (.any source)).tryClone types).outcome (.any target) machine
      (machine.copy types source target) := by
  unfold copy
  cases copied : ((machine.held (.any source)).tryClone types).outcome with
  | error error => rfl
  | ok copy =>
    have placed := held_place types machine .temporary (Any.isRef_of_tryClone copied)
    have moved := (sound.place types .temporary copy).held_move .temporary (.any target)
    exact ⟨rfl, moved.trans placed⟩

/-- Assigning puts a copy under the target, or fails as the copy does and changes nothing. -/
theorem answers_assign (sound : machine.Sound types.fixed) (target source : String) :
    Answers (((machine.held (.any target)).assign types
        (machine.held (.any source))).outcome.map Prod.snd)
      (.any target) machine (machine.copy types source target) := by
  have copies := sound.answers_copy source target
  unfold Any.assign
  rw [Acting.outcome_on_attempt_bind]
  cases copied : ((machine.held (.any source)).tryClone types).outcome with
  | error error =>
    rw [copied] at copies
    exact copies
  | ok copy =>
    rw [copied] at copies
    exact copies

/-- Turning an any into an owned value puts under the target what the operation gives, or fails as
it does; the source is consumed. -/
theorem answers_intoOwned (sound : machine.Sound types.fixed) (source target : String) :
    Answers ((machine.held (.any source)).intoOwned types).outcome (.any target)
      (machine.drop (.any source)) (machine.intoOwned types source target) := by
  have referring := (sound.coherent (.any source)).mirrors.isRef
  change _ = (machine.held (.any source)).isRef at referring
  unfold intoOwned Any.intoOwned
  rw [referring]
  cases refers : (machine.held (.any source)).isRef with
  | false => exact ⟨rfl, sound.held_move (.any source) (.any target)⟩
  | true =>
    simp only [if_true]
    cases copied : ((machine.held (.any source)).tryClone types).outcome with
    | error error => rfl
    | ok copy =>
      have placed := held_place types machine .temporary (Any.isRef_of_tryClone copied)
      have made := sound.place types .temporary copy
      have spared := (made.spares_drop (.any source)).others .temporary (by simp)
        fun _ _ hit => hit
      have moved := (made.drop (.any source)).held_move .temporary (.any target)
      exact ⟨rfl, moved.trans (spared.2.trans placed)⟩

/-- Writing changes the value of the target as the operation does, or fails as it does and changes
nothing. -/
theorem answers_write (sound : machine.Sound types.fixed) (target source : String) :
    Answers (((machine.held (.any target)).write types
        (machine.held (.any source))).outcome.map Prod.snd)
      (.any target) machine (machine.write types target source) := by
  unfold write
  rcases (sound.coherent (.any target)).vacant_or_shows with vacant | ⟨type, pointer, old, shows⟩
  · simp only [vacant, held_of_vacant vacant]
    rfl
  have holding : machine.held (.any target) =
      .held (machine.contents (.any target)).storage.access ⟨type, old⟩ := shows.held_eq
  simp only [shows.record, shows.dataMut, holding]
  by_cases shared : (machine.contents (.any target)).storage.access = .shared
  · simp only [shared, if_true]
    rfl
  rw [Any.write_of_ne_shared shared]
  simp only [if_neg shared, Acting.outcome_on_attempt_bind]
  cases made : ((machine.held (.any source)).writeSource types type).outcome with
  | error error => rfl
  | ok stored =>
    obtain ⟨content, rfl⟩ := Any.new_of_writeSource made
    refine ⟨rfl, ?_⟩
    let placed := machine.place types .temporary (.new content)
    have made := sound.place types .temporary (.new content)
    have spared := (sound.spares_place types .temporary (.new content)).others
      (.any target) (by simp) fun _ _ hit => hit
    have holds : placed.held .temporary = .new content := held_place types machine .temporary rfl
    have found : (placed.contents .temporary).value placed.memory = some content.value :=
      Container.value_of_held holds
    have value := Container.value_of_held (spared.2.trans holding)
    have still : (placed.contents (.any target)).Shows placed.memory type pointer old := by
      rw [Container.value, spared.1, shows.data] at value
      exact spared.1 ▸ ⟨shows.record, shows.data, shows.dataMut, value⟩
    have written := held_overwrite still content.value
    have dropped := ((made.overwrite still.data content.value).spares_drop .temporary).others
      (.any target) (by simp) fun _ _ hit => hit
    rw [spared.1] at written
    change (placed.moveInto (.any target) pointer).held (.any target) = _
    rw [moveInto, found]
    exact dropped.2.trans written

/-- Replacing a text changes the value of the target as the operation does, or fails as it does and
changes nothing. -/
theorem answers_setText (sound : machine.Sound types.fixed) (target text : String) :
    Answers (((machine.held (.any target)).setText types text).outcome.map Prod.snd) (.any target)
      machine (machine.setText types target text) := by
  unfold setText
  rcases (sound.coherent (.any target)).vacant_or_shows with vacant | ⟨type, pointer, old, shows⟩
  · simp only [vacant, held_of_vacant vacant]
    rfl
  have holding : machine.held (.any target) =
      .held (machine.contents (.any target)).storage.access ⟨type, old⟩ := shows.held_eq
  simp only [shows.record, shows.dataMut, holding, Any.setText]
  cases shaped : (types.record type).string with
  | none => rfl
  | some shape =>
    by_cases shared : (machine.contents (.any target)).storage.access = .shared
    · simp only [shared, if_true]
      rfl
    simp only [shared, if_false, shows.read, decide_false, Bool.false_or]
    cases taken : shape.takes text with
    | false => rfl
    | true => exact ⟨rfl, held_overwrite shows _⟩

/-- Turning an any into a view hands it to the view as it is, or fails as viewing does; the any is
consumed. -/
theorem answers_view (sound : machine.Sound types.fixed) (source : String) (shape : ShapeKind)
    (target : String) :
    Answers (((machine.held (.any source)).viewLength types shape).outcome.map fun _ =>
        machine.held (.any source)) (.view target) (machine.drop (.any source))
      (machine.view types source shape target) := by
  unfold view
  cases viewed : ((machine.held (.any source)).viewLength types shape).outcome with
  | error error => rfl
  | ok length => exact ⟨rfl, sound.held_move (.any source) (.view target)⟩

/-- Recovering a variable answers an address at which the value is that the operation gives, or
fails as it does; the any is consumed. -/
theorem intoBorrow_eq (sound : machine.Sound types.fixed) (source : String) (type : Ty)
    (mutable : Bool) :
    match (if mutable then (machine.held (.any source)).intoMut types type
        else (machine.held (.any source)).intoRef types type).outcome with
    | .ok value => ∃ address, machine.memory.load address = some value ∧
        machine.memory.tag address = some (.program, type) ∧
        machine.intoBorrow types source type mutable =
          (.address address, machine.drop (.any source))
    | .error error =>
      machine.intoBorrow types source type mutable =
        (.failed error, machine.drop (.any source)) := by
  have recovers := (sound.coherent (.any source)).borrowed_eq types type mutable
  unfold intoBorrow
  change match (if mutable then (machine.held (.any source)).intoMut types type
      else (machine.held (.any source)).intoRef types type).outcome with
    | .ok value => _
    | .error error => _ at recovers
  split
  · rename_i value answered
    rw [answered] at recovers
    obtain ⟨address, loaded, tagged, borrowed⟩ := recovers
    exact ⟨address, loaded, tagged, by rw [borrowed]⟩
  · rename_i error answered
    rw [answered] at recovers
    rw [recovers]

/-- An owned value of exactly the type is moved out, which empties the any; anything else is handed
back as it was. -/
theorem downcast_eq (sound : machine.Sound fixed) (source : String) (type : Ty) :
    match (machine.held (.any source)).downcast type with
    | .ok value => machine.downcast source type = (.moved value, machine.drop (.any source))
    | .error any => any = machine.held (.any source) ∧
        machine.downcast source type = (.handedBack, machine) := by
  unfold downcast
  rcases (sound.coherent (.any source)).vacant_or_shows with vacant | ⟨own, pointer, value, shows⟩
  · rw [held_of_vacant vacant, vacant]
    exact ⟨rfl, rfl⟩
  have holding : machine.held (.any source) =
      .held (machine.contents (.any source)).storage.access ⟨own, value⟩ := shows.held_eq
  have referring := (sound.coherent (.any source)).mirrors.isRef
  rw [shows.held_eq] at referring
  simp only [holding, Container.isExactly, shows.record, shows.data, shows.value_eq, referring]
  cases (machine.contents (.any source)).storage.access with
  | owned =>
    by_cases same : own = type
    · simp [Any.downcast, Any.isRef, same]
    · simp [Any.downcast, Any.isRef, same]
  | shared => exact ⟨rfl, rfl⟩
  | exclusive => exact ⟨rfl, rfl⟩

end Sound

end Machine

end Reflection
