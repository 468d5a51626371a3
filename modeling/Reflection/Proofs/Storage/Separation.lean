import Reflection.Proofs.Storage.Coherent

/-!
# What a change leaves alone

A step changes the containers it names and, at most, one variable: the one that the program sets, or
the one that a mutable reference writes through. Everything else is spared (`Machine.Spares`), the
values of other owned anys and of references to other variables among it. Here is what each of the
changes spares that steps are made of: no cell that an any owns is a variable or the cell of
another, so freeing or overwriting it is seen nowhere else.
-/
namespace Reflection

namespace Step

/-- The holders that a step names, the temporary among them. -/
def touched : Step → List Holder
  | .declare _ | .store _ _ => []
  | .new target _ => [.temporary, .any target]
  | .fromRef target _ | .fromMut target _ | .reset target | .setText target _ => [.any target]
  | .take source target => [.any source, .any target]
  | .assign target _ | .tryClone _ target => [.temporary, .any target]
  | .write target _ => [.temporary, .any target]
  | .intoOwned source target => [.temporary, .any source, .any target]
  | .intoRef source _ | .intoMut source _ | .downcast source _ => [.any source]
  | .view source _ target => [.any source, .view target]
  | .intoTarget source target => [.view source, .any target]

/-- Whether a step may change a variable: it sets it, or writes through a mutable reference to it.
-/
def Reaches (machine : Machine) (address : Nat) : Step → Prop
  | .store other _ => other = address ∧ (machine.memory.variableType other).isSome = true
  | .write target _ | .setText target _ =>
    (machine.contents (.any target)).storage = .refMut address
  | _ => False

/-- The any in whose value a step writes. -/
def written : Step → Option String
  | .write target _ | .setText target _ => some target
  | _ => none

/-- Whether a step takes an any away from its name even when it fails. -/
def consumes : Step → Bool
  | .intoOwned .. | .intoRef .. | .intoMut .. | .view .. | .intoTarget .. => true
  | _ => false

/-- Whether a step puts a copy of an any under a name. -/
inductive Copies (machine : Machine) : Step → String → String → Prop
  | assign (target source : String) : Copies machine (.assign target source) source target
  | tryClone (source target : String) : Copies machine (.tryClone source target) source target
  | intoOwned {source : String} (target : String)
    (refers : (machine.contents (.any source)).isRef = true) :
    Copies machine (.intoOwned source target) source target

end Step

namespace Machine

variable {fixed : Universe} {machine before middle after : Machine}
  {holder other source target : Holder} {address : Nat} {touched : List Holder}
  {reached : Nat → Prop}

/-- Holders of the same container with the same cell behind it hold the same. -/
theorem held_congr (same : after.contents target = before.contents source)
    (cells : ∀ address, (before.contents source).data = some (.cell address) →
      after.memory.cells address = before.memory.cells address) :
    after.held target = before.held source := by
  have value : (before.contents source).value after.memory =
      (before.contents source).value before.memory := by
    unfold Container.value
    cases pointed : (before.contents source).data with
    | none => rfl
    | some pointer =>
      cases pointer with
      | inside => rfl
      | cell address =>
        simp only [Option.bind_some, Container.read, Memory.load, cells address pointed]
  rw [held, held, same, Container.held, value, Container.held]

/-- Whether a change leaves alone all variables but those reached, and all holders but those touched
that do not refer to a variable reached. -/
structure Spares (touched : List Holder) (reached : Nat → Prop) (before after : Machine) :
    Prop where
  cells : ∀ address type, before.memory.tag address = some (.program, type) →
    ¬ reached address → after.memory.cells address = before.memory.cells address
  others : ∀ holder ∉ touched,
    (∀ address, (before.contents holder).data = some (.cell address) → ¬ reached address) →
      after.contents holder = before.contents holder ∧ after.held holder = before.held holder

namespace Spares

/-- What is left alone by no change. -/
protected theorem refl (machine : Machine) : machine.Spares touched reached machine :=
  ⟨fun _ _ _ _ => rfl, fun _ _ _ => ⟨rfl, rfl⟩⟩

/-- What is left alone by two changes in turn. -/
theorem trans (first : before.Spares touched reached middle)
    (second : middle.Spares touched reached after) : before.Spares touched reached after where
  cells := by
    intro address type tagged spared
    have same := first.cells address type tagged spared
    have still : middle.memory.tag address = some (.program, type) := by
      rw [Memory.tag, same]
      exact tagged
    exact (second.cells address type still spared).trans same
  others := by
    intro holder untouched spared
    have same := first.others holder untouched spared
    have also := second.others holder untouched (same.1 ▸ spared)
    exact ⟨also.1.trans same.1, also.2.trans same.2⟩

/-- Less is left alone when more is touched. -/
theorem mono {more : List Holder} {further : Nat → Prop}
    (spares : before.Spares touched reached after) (wider : ∀ holder ∈ touched, holder ∈ more)
    (beyond : ∀ address, reached address → further address) :
    before.Spares more further after :=
  ⟨fun address type tagged spared =>
      spares.cells address type tagged fun hit => spared (beyond address hit),
    fun holder untouched spared =>
      spares.others holder (fun hit => untouched (wider holder hit)) fun address pointed hit =>
        spared address pointed (beyond address hit)⟩

end Spares

/-- A change spares what it should if it leaves the containers of other holders and the cells they
point to, and all variables. -/
theorem spares_of_cells
    (contents : ∀ holder ∉ touched, after.contents holder = before.contents holder)
    (cells : ∀ address type, before.memory.tag address = some (.program, type) →
      ¬ reached address → after.memory.cells address = before.memory.cells address)
    (pointed : ∀ holder ∉ touched, ∀ address,
      (before.contents holder).data = some (.cell address) → ¬ reached address →
        after.memory.cells address = before.memory.cells address) :
    before.Spares touched reached after :=
  ⟨cells, fun holder untouched spared =>
    ⟨contents holder untouched, held_congr (contents holder untouched) fun address points =>
      pointed holder untouched address points (spared address points)⟩⟩

namespace Sound

/-- Dropping what a holder holds leaves everything else alone. -/
theorem spares_drop (sound : machine.Sound fixed) (holder : Holder) :
    machine.Spares [holder] reached (machine.drop holder) := by
  refine spares_of_cells ?_ ?_ ?_
  · intro other untouched
    rw [contents_drop, if_neg fun same => untouched (List.mem_singleton.2 same)]
  · intro address type tagged _
    exact cells_drop (sound.not_owned tagged holder)
  · intro other untouched address pointed _
    exact cells_drop
      (sound.spares_pointed (fun same => untouched (List.mem_singleton.2 same)) pointed)

/-- Moving a container leaves everything else alone. -/
theorem spares_move (sound : machine.Sound fixed) (source target : Holder) :
    machine.Spares [source, target] reached (machine.move source target) := by
  by_cases apart : source = target
  · rw [apart, move_self]
    exact .refl machine
  have dropped : machine.Spares [source, target] reached (machine.drop target) :=
    (sound.spares_drop target).mono (by simp) fun _ hit => hit
  refine dropped.trans (spares_of_cells ?_ ?_ ?_)
  · intro other untouched
    simp only [List.mem_cons, List.not_mem_nil, or_false, not_or] at untouched
    simp only [move_of_ne apart, contents_set, if_neg untouched.1, if_neg untouched.2]
  · intro address type _ _
    rw [move_of_ne apart]
    rfl
  · intro other _ address _ _
    rw [move_of_ne apart]
    rfl

/-- Taking ownership of a value leaves everything else alone. -/
theorem spares_place (types : Types) (sound : machine.Sound fixed) (holder : Holder) (any : Any) :
    machine.Spares [holder] reached (machine.place types holder any) := by
  have dropped := sound.drop holder
  cases any with
  | empty => exact sound.spares_drop holder
  | held access content =>
    refine (sound.spares_drop holder).trans (spares_of_cells ?_ ?_ ?_)
    · intro other untouched
      exact if_neg fun same => untouched (List.mem_singleton.2 same)
    · intro address type tagged _
      exact Container.cells_own (dropped.ne_next_of_tag tagged)
    · intro other _ address pointed _
      exact Container.cells_own (dropped.ne_next_of_pointed pointed)

/-- Starting a variable leaves everything else alone. -/
theorem spares_declare (sound : machine.Sound fixed) (content : Typed) :
    machine.Spares touched reached
      { machine with memory := machine.memory.allocate .program content } := by
  refine spares_of_cells (fun _ _ => rfl) ?_ ?_
  · intro address type tagged _
    exact if_neg (sound.ne_next_of_tag tagged)
  · intro other _ address pointed _
    exact if_neg (sound.ne_next_of_pointed pointed)

/-- Setting a variable leaves everything else alone. -/
theorem spares_store (machine : Machine) (address : Nat) (value : Value) :
    machine.Spares touched (address = ·)
      { machine with memory := machine.memory.store address value } := by
  refine spares_of_cells (fun _ _ => rfl) ?_ ?_
  · intro other type _ spared
    exact Memory.cells_store_of_ne (fun same => spared same.symm) value
  · intro holder _ other _ spared
    exact Memory.cells_store_of_ne (fun same => spared same.symm) value

/-- Making a holder refer to a variable leaves everything else alone. -/
theorem spares_refer (sound : machine.Sound fixed) (holder : Holder) (container : Container) :
    machine.Spares [holder] reached ((machine.drop holder).set holder container) := by
  refine (sound.spares_drop holder).trans (spares_of_cells ?_ ?_ ?_)
  · intro other untouched
    exact if_neg fun same => untouched (List.mem_singleton.2 same)
  · exact fun _ _ _ _ => rfl
  · exact fun _ _ _ _ _ => rfl

/-- Overwriting the value of a holder leaves everything else alone, apart from the variable that a
mutable reference refers to. -/
theorem spares_overwrite (sound : machine.Sound fixed) {pointer : Pointer}
    (pointed : (machine.contents holder).dataMut = some pointer) (value : Value) :
    machine.Spares [holder] (fun address => (machine.contents holder).storage = .refMut address)
      (machine.overwrite holder pointer value) := by
  have apart : ∀ {other : Holder}, other ∉ [holder] → other ≠ holder :=
    fun untouched same => untouched (List.mem_singleton.2 same)
  cases pointer with
  | inside =>
    refine spares_of_cells (fun other untouched => if_neg (apart untouched)) ?_ ?_
    · exact fun _ _ _ _ => rfl
    · exact fun _ _ _ _ _ => rfl
  | cell written =>
    -- A cell that may be written is owned, or it is the variable behind a mutable reference.
    have cases : (machine.contents holder).storage.owned? = some written ∨
        (machine.contents holder).storage = .refMut written := by
      rw [Container.dataMut] at pointed
      cases stored : (machine.contents holder).storage with
      | heap address =>
        rw [stored] at pointed
        cases pointed
        exact .inl rfl
      | refMut address =>
        rw [stored] at pointed
        cases pointed
        exact .inr rfl
      | _ =>
        rw [stored] at pointed
        cases pointed
    refine spares_of_cells (fun other untouched => if_neg (apart untouched)) ?_ ?_
    · intro address type tagged spared
      refine Memory.cells_store_of_ne ?_ value
      rintro rfl
      rcases cases with owned | refers
      · exact sound.not_owned tagged holder owned
      · exact spared refers
    · intro other untouched address points spared
      refine Memory.cells_store_of_ne ?_ value
      rintro rfl
      rcases cases with owned | refers
      · exact sound.spares_pointed (apart untouched) points owned
      · exact spared refers

end Sound

end Machine

end Reflection
