import Reflection.Storage.Run

/-!
# Records and storages agree

Every operation on an any sets its record and its storage separately, and some move values out by
hand. A container is coherent if the two agree with each other and with memory: there is a record
exactly if there is a storage, a value is inline exactly if it fits, and what lies in memory is a
value of the type of the record, in a cell of its own or in a variable. A machine is sound if all
its containers are coherent, no two own the same cell, and every cell that was allocated for an any
is still owned. Each way in which steps change a machine keeps it so.
-/
namespace Reflection

namespace Memory

variable {memory : Memory} {address other : Nat} {type : Ty}

@[simp] theorem cells_put (memory : Memory) (address : Nat) (cell : Option Cell) (other : Nat) :
    (memory.put address cell).cells other =
      if other = address then cell else memory.cells other := rfl

/-- The cells after a value was put into the next one. -/
theorem cells_allocate (memory : Memory) (owner : Owner) (content : Typed) (other : Nat) :
    (memory.allocate owner content).cells other =
      if other = memory.next then some ⟨owner, content⟩ else memory.cells other := rfl

/-- The cells after one was taken out of use. -/
theorem cells_free (memory : Memory) (address other : Nat) :
    (memory.free address).cells other =
      if other = address then none else memory.cells other := rfl

/-- The tags after a value was put into the next cell. -/
theorem tag_allocate (memory : Memory) (owner : Owner) (content : Typed) (other : Nat) :
    (memory.allocate owner content).tag other =
      if other = memory.next then some (owner, content.type) else memory.tag other := by
  simp only [tag, cells_allocate]
  split <;> rfl

/-- The tags after a cell was taken out of use. -/
theorem tag_free (memory : Memory) (address other : Nat) :
    (memory.free address).tag other = if other = address then none else memory.tag other := by
  simp only [tag, cells_free]
  split <;> rfl

/-- A value in a cell is replaced by one of its type, for the same owner. -/
@[simp] theorem tag_store (memory : Memory) (address : Nat) (value : Value) (other : Nat) :
    (memory.store address value).tag other = memory.tag other := by
  simp only [tag, store, cells_put]
  split
  · rename_i same
    rw [same, Option.map_map]
    rfl
  · rfl

/-- The cells apart from the one whose value is replaced. -/
theorem cells_store_of_ne (different : other ≠ address) (value : Value) :
    (memory.store address value).cells other = memory.cells other := if_neg different

/-- The value that was stored in a cell in use. -/
theorem load_store (used : (memory.tag address).isSome) (value : Value) :
    (memory.store address value).load address = some value := by
  simp only [tag, Option.isSome_map] at used
  obtain ⟨cell, found⟩ := Option.isSome_iff_exists.1 used
  simp [load, store, found]

/-- A cell has a tag exactly if it has a value. -/
theorem isSome_load (memory : Memory) (address : Nat) :
    (memory.load address).isSome = (memory.tag address).isSome := by
  simp only [load, tag, Option.isSome_map]

/-- What the variable at an address is. -/
theorem variableType_eq_some_iff :
    memory.variableType address = some type ↔ memory.tag address = some (.program, type) := by
  unfold variableType
  split
  · rename_i found
    simp [found]
  · rename_i other
    refine iff_of_false nofun fun found => other type found

end Memory

namespace Storage

/-- The cell that a storage owns. -/
def owned? : Storage → Option Nat
  | .heap address => some address
  | _ => none

/-- A storage points to the cell it owns. -/
theorem pointer_of_owned {storage : Storage} {address : Nat}
    (owned : storage.owned? = some address) : storage.pointer = some (.cell address) := by
  cases storage <;> cases owned
  rfl

/-- A pointer for writing is the pointer to the value. -/
theorem pointer_of_pointerMut {storage : Storage} {pointer : Pointer}
    (writable : storage.pointerMut = some pointer) : storage.pointer = some pointer := by
  cases storage with
  | ref address => cases writable
  | empty | inline value | heap address | refMut address => exact writable

end Storage

namespace Container

variable {fixed : Universe} {memory after : Memory} {container : Container} {address : Nat}

/-- Whether the record, the storage and memory agree. -/
inductive Coherent (fixed : Universe) (memory : Memory) : Container → Prop
  | vacant : Coherent fixed memory .vacant
  | inline {type : Ty} {value : Value} (fits : (fixed.record type).layout.fitsInline = true) :
    Coherent fixed memory ⟨some type, .inline value⟩
  | heap {type : Ty} {address : Nat} (large : (fixed.record type).layout.fitsInline = false)
    (tagged : memory.tag address = some (.any, type)) :
    Coherent fixed memory ⟨some type, .heap address⟩
  | ref {type : Ty} {address : Nat} (tagged : memory.tag address = some (.program, type)) :
    Coherent fixed memory ⟨some type, .ref address⟩
  | refMut {type : Ty} {address : Nat} (tagged : memory.tag address = some (.program, type)) :
    Coherent fixed memory ⟨some type, .refMut address⟩

/-- A container stays coherent if the cell it points to keeps its tag. -/
theorem Coherent.congr (coherent : container.Coherent fixed memory)
    (same : ∀ address, container.data = some (.cell address) →
      after.tag address = memory.tag address) :
    container.Coherent fixed after := by
  cases coherent with
  | vacant => exact .vacant
  | inline fits => exact .inline fits
  | heap large tagged => exact .heap large ((same _ rfl).trans tagged)
  | ref tagged => exact .ref ((same _ rfl).trans tagged)
  | refMut tagged => exact .refMut ((same _ rfl).trans tagged)

/-- A coherent container that owns a cell points to one that was allocated for it. -/
theorem Coherent.tag_of_owned (coherent : container.Coherent fixed memory)
    (owned : container.storage.owned? = some address) :
    ∃ type, memory.tag address = some (.any, type) := by
  cases coherent <;> cases owned
  exact ⟨_, ‹_›⟩

/-- A coherent container does not point to a variable and own it. -/
theorem Coherent.tag_of_pointed (coherent : container.Coherent fixed memory)
    (pointed : container.data = some (.cell address)) :
    container.storage.owned? = some address ∨
      ∃ type, memory.tag address = some (.program, type) := by
  cases coherent with
  | vacant => cases pointed
  | inline fits => cases pointed
  | heap large tagged =>
    cases pointed
    exact .inl rfl
  | ref tagged =>
    cases pointed
    exact .inr ⟨_, tagged⟩
  | refMut tagged =>
    cases pointed
    exact .inr ⟨_, tagged⟩

/-- What a coherent container points to is there. -/
theorem Coherent.exists_value (coherent : container.Coherent fixed memory)
    (pointed : container.data.isSome) : ∃ value, container.value memory = some value := by
  have loads : ∀ {address : Nat} {owner : Owner} {type : Ty},
      memory.tag address = some (owner, type) → ∃ value, memory.load address = some value := by
    intro address owner type tagged
    rw [← Option.isSome_iff_exists, Memory.isSome_load, tagged]
    rfl
  cases coherent with
  | vacant => cases pointed
  | inline fits => exact ⟨_, rfl⟩
  | heap large tagged => exact loads tagged
  | ref tagged => exact loads tagged
  | refMut tagged => exact loads tagged

/-- Taking ownership of a value uses no cell but the next. -/
theorem cells_own {types : Types} {content : Typed} (used : address ≠ memory.next) :
    (own types memory content).2.cells address = memory.cells address := by
  by_cases fits : (types.record content.type).layout.fitsInline = true
  · simp only [own, if_pos fits]
  · simp only [own, if_neg fits]
    exact if_neg used

/-- Dropping a coherent container frees the cell it owns. -/
theorem Coherent.release_eq (coherent : container.Coherent fixed memory) :
    container.release after =
      match container.storage.owned? with
      | some address => after.free address
      | none => after := by
  cases coherent <;> rfl

end Container

namespace Machine

variable {fixed : Universe} {machine : Machine} {holder other source target : Holder}
  {container : Container} {address : Nat}

/-- The containers after one holder was given another. -/
@[simp] theorem contents_set (machine : Machine) (holder : Holder) (container : Container)
    (other : Holder) :
    (machine.set holder container).contents other =
      if other = holder then container else machine.contents other := rfl

/-- Giving a holder the container it has changes nothing. -/
@[simp] theorem set_contents (machine : Machine) (holder : Holder) :
    machine.set holder (machine.contents holder) = machine := by
  have contents : (machine.set holder (machine.contents holder)).contents = machine.contents := by
    funext other
    rw [contents_set]
    split
    · rename_i same
      rw [same]
    · rfl
  exact Machine.mk.injEq .. |>.mpr ⟨rfl, contents⟩

@[simp] theorem memory_set (machine : Machine) (holder : Holder) (container : Container) :
    (machine.set holder container).memory = machine.memory := rfl

/-- The containers after one was dropped. -/
@[simp] theorem contents_drop (machine : Machine) (holder other : Holder) :
    (machine.drop holder).contents other =
      if other = holder then .vacant else machine.contents other := rfl

/-- Memory after a container was dropped. -/
theorem memory_drop (machine : Machine) (holder : Holder) :
    (machine.drop holder).memory = (machine.contents holder).release machine.memory := rfl

/-- Dropping gives no address out. -/
@[simp] theorem next_drop (machine : Machine) (holder : Holder) :
    (machine.drop holder).memory.next = machine.memory.next := by
  rw [memory_drop, Container.release]
  split <;> rfl

/-- Dropping a container leaves the cells it does not own. -/
theorem cells_drop (spared : (machine.contents holder).storage.owned? ≠ some address) :
    (machine.drop holder).memory.cells address = machine.memory.cells address := by
  rw [memory_drop, Container.release]
  split
  · rename_i owned
    refine if_neg fun same => spared ?_
    rw [owned, same]
    rfl
  · rfl

/-- Dropping a container leaves the tags of the cells it does not own. -/
theorem tag_drop (spared : (machine.contents holder).storage.owned? ≠ some address) :
    (machine.drop holder).memory.tag address = machine.memory.tag address := by
  rw [Memory.tag, cells_drop spared, Memory.tag]

/-- A holder whose container was dropped owns no cell. -/
theorem owned_drop (machine : Machine) (holder : Holder) :
    ((machine.drop holder).contents holder).storage.owned? = none := by
  rw [contents_drop, if_pos rfl]
  rfl

/-- A holder that owns a cell is not one that owns none. -/
theorem ne_of_owned (owned : (machine.contents other).storage.owned? = some address)
    (free : (machine.contents holder).storage.owned? = none) : other ≠ holder := by
  rintro rfl
  rw [free] at owned
  cases owned

/-- Moving what a holder holds to itself changes nothing. -/
theorem move_self (machine : Machine) (holder : Holder) :
    machine.move holder holder = machine := by
  have contents : (machine.move holder holder).contents = machine.contents := by
    funext other
    simp only [move, contents_set, contents_drop]
    split
    · rename_i same
      rw [same]
    · rfl
  have memory : (machine.move holder holder).memory = machine.memory := by
    simp only [move, memory_set, memory_drop, contents_set, if_true]
    rfl
  cases machine
  exact Machine.mk.injEq .. |>.mpr ⟨memory, contents⟩

/-- Moving to another holder drops what that held and hands the container on. -/
theorem move_of_ne (apart : source ≠ target) :
    machine.move source target =
      ((machine.drop target).set target (machine.contents source)).set source .vacant := by
  have contents : (machine.move source target).contents =
      (((machine.drop target).set target (machine.contents source)).set source
        .vacant).contents := by
    funext other
    simp only [move, contents_set, contents_drop]
    by_cases first : other = source
    · have second : other ≠ target := fun second => apart (first.symm.trans second)
      rw [if_pos first, if_neg second, if_neg second, if_pos first]
    · simp only [if_neg first]
  have memory : (machine.move source target).memory = (machine.drop target).memory := by
    simp only [move, memory_set, memory_drop, contents_set, if_neg apart.symm]
  exact Machine.mk.injEq .. |>.mpr ⟨memory, contents⟩

/-- Whether every container of a machine is coherent, owns its cell alone, and no cell that was
allocated for an any is lost. -/
structure Sound (fixed : Universe) (machine : Machine) : Prop where
  /-- Addresses that were not given out are not in use. -/
  fresh : ∀ address, machine.memory.next ≤ address → machine.memory.tag address = none
  coherent : ∀ holder, (machine.contents holder).Coherent fixed machine.memory
  unshared : ∀ left right address, (machine.contents left).storage.owned? = some address →
    (machine.contents right).storage.owned? = some address → left = right
  kept : ∀ address type, machine.memory.tag address = some (.any, type) →
    ∃ holder, (machine.contents holder).storage.owned? = some address

namespace Sound

/-- A cell that belongs to the program is not owned by an any. -/
theorem not_owned (sound : machine.Sound fixed) {type : Ty}
    (tagged : machine.memory.tag address = some (.program, type)) (holder : Holder) :
    (machine.contents holder).storage.owned? ≠ some address := by
  intro owned
  obtain ⟨other, allocated⟩ := (sound.coherent holder).tag_of_owned owned
  rw [tagged] at allocated
  cases allocated

/-- What another holder points to is not what a holder owns. -/
theorem spares_pointed (sound : machine.Sound fixed) (apart : other ≠ holder)
    (pointed : (machine.contents other).data = some (.cell address)) :
    (machine.contents holder).storage.owned? ≠ some address := by
  rcases (sound.coherent other).tag_of_pointed pointed with owned | ⟨type, tagged⟩
  · exact fun shared => apart (sound.unshared other holder address owned shared)
  · exact sound.not_owned tagged holder

/-- A sound machine stays so when it drops what a holder holds. -/
theorem drop (sound : machine.Sound fixed) (holder : Holder) :
    (machine.drop holder).Sound fixed := by
  have freed : ∀ address, (machine.contents holder).storage.owned? = some address →
      (machine.drop holder).memory.tag address = none := by
    intro address owned
    rw [memory_drop, (sound.coherent holder).release_eq, owned]
    exact (Memory.tag_free _ _ _).trans (if_pos rfl)
  have owner : ∀ {other : Holder} {address : Nat},
      ((machine.drop holder).contents other).storage.owned? = some address →
        other ≠ holder ∧ (machine.contents other).storage.owned? = some address := by
    intro other address owned
    by_cases same : other = holder
    · rw [contents_drop, if_pos same] at owned
      cases owned
    · rw [contents_drop, if_neg same] at owned
      exact ⟨same, owned⟩
  refine ⟨?_, ?_, ?_, ?_⟩
  · intro address above
    have unused := sound.fresh address (by simpa using above)
    by_cases owned : (machine.contents holder).storage.owned? = some address
    · exact freed address owned
    · rw [tag_drop owned]
      exact unused
  · intro other
    by_cases same : other = holder
    · rw [contents_drop, if_pos same]
      exact .vacant
    · rw [contents_drop, if_neg same]
      exact (sound.coherent other).congr fun address pointed =>
        tag_drop (sound.spares_pointed same pointed)
  · intro left right address first second
    exact sound.unshared left right address (owner first).2 (owner second).2
  · intro address type tagged
    have spared : (machine.contents holder).storage.owned? ≠ some address := by
      intro owned
      rw [freed address owned] at tagged
      cases tagged
    rw [tag_drop spared] at tagged
    obtain ⟨other, owned⟩ := sound.kept address type tagged
    refine ⟨other, ?_⟩
    have apart : other ≠ holder := by
      rintro rfl
      exact spared owned
    rw [contents_drop, if_neg apart]
    exact owned

/-- A sound machine stays so when a holder that owns no cell gets a container that owns none. -/
theorem set (sound : machine.Sound fixed)
    (before : (machine.contents holder).storage.owned? = none)
    (coherent : container.Coherent fixed machine.memory)
    (after : container.storage.owned? = none) : (machine.set holder container).Sound fixed := by
  have owner : ∀ {other : Holder} {address : Nat},
      ((machine.set holder container).contents other).storage.owned? = some address ↔
        (machine.contents other).storage.owned? = some address := by
    intro other address
    by_cases same : other = holder
    · rw [contents_set, if_pos same, after, same, before]
    · rw [contents_set, if_neg same]
  refine ⟨sound.fresh, ?_, ?_, ?_⟩
  · intro other
    by_cases same : other = holder
    · rw [contents_set, if_pos same]
      exact coherent
    · rw [contents_set, if_neg same]
      exact sound.coherent other
  · intro left right address first second
    exact sound.unshared left right address (owner.1 first) (owner.1 second)
  · intro address type tagged
    obtain ⟨other, owned⟩ := sound.kept address type tagged
    exact ⟨other, owner.2 owned⟩

/-- A sound machine stays so when a container is handed on to a holder that owns no cell. -/
theorem handOn (sound : machine.Sound fixed) (apart : source ≠ target)
    (free : (machine.contents target).storage.owned? = none) :
    ((machine.set target (machine.contents source)).set source .vacant).Sound fixed := by
  let after := (machine.set target (machine.contents source)).set source .vacant
  have left : after.contents source = .vacant := if_pos rfl
  have moved : after.contents target = machine.contents source := by
    simp only [after, contents_set, if_neg apart.symm, if_true]
  have kept : ∀ other, other ≠ source → other ≠ target →
      after.contents other = machine.contents other := by
    intro other notSource notTarget
    simp only [after, contents_set, if_neg notSource, if_neg notTarget]
  -- Every cell that is owned afterwards was owned by the holder it came from.
  have owner : ∀ {other : Holder} {address : Nat},
      (after.contents other).storage.owned? = some address →
        other ≠ source ∧
          (machine.contents (if other = target then source else other)).storage.owned? =
            some address := by
    intro other address owned
    by_cases given : other = source
    · rw [given, left] at owned
      cases owned
    refine ⟨given, ?_⟩
    by_cases taken : other = target
    · rw [if_pos taken, ← moved, ← taken]
      exact owned
    · rw [if_neg taken, ← kept other given taken]
      exact owned
  refine ⟨sound.fresh, ?_, ?_, ?_⟩
  · intro other
    change (after.contents other).Coherent fixed machine.memory
    by_cases given : other = source
    · rw [given, left]
      exact .vacant
    by_cases taken : other = target
    · rw [taken, moved]
      exact sound.coherent source
    · rw [kept other given taken]
      exact sound.coherent other
  · intro first second address ownedFirst ownedSecond
    obtain ⟨notFirst, before⟩ := owner ownedFirst
    obtain ⟨notSecond, also⟩ := owner ownedSecond
    have same := sound.unshared _ _ address before also
    by_cases one : first = target
    · by_cases two : second = target
      · rw [one, two]
      · rw [if_pos one, if_neg two] at same
        exact absurd same.symm notSecond
    · by_cases two : second = target
      · rw [if_neg one, if_pos two] at same
        exact absurd same notFirst
      · rw [if_neg one, if_neg two] at same
        exact same
  · intro address type tagged
    obtain ⟨other, owned⟩ := sound.kept address type tagged
    by_cases given : other = source
    · exact ⟨target, by rw [moved, ← given]; exact owned⟩
    · exact ⟨other, by rw [kept other given (ne_of_owned owned free)]; exact owned⟩

/-- A sound machine stays so when one of its containers is moved. -/
theorem move (sound : machine.Sound fixed) (source target : Holder) :
    (machine.move source target).Sound fixed := by
  by_cases apart : source = target
  · rw [apart, move_self]
    exact sound
  have same : (machine.drop target).contents source = machine.contents source :=
    if_neg apart
  rw [move_of_ne apart, ← same]
  exact (sound.drop target).handOn apart (owned_drop machine target)

/-- The next address is not in use. -/
theorem ne_next_of_tag (sound : machine.Sound fixed) {tag : Owner × Ty}
    (tagged : machine.memory.tag address = some tag) : address ≠ machine.memory.next := by
  rintro rfl
  rw [sound.fresh _ (Nat.le_refl _)] at tagged
  cases tagged

/-- No container points to the next address. -/
theorem ne_next_of_pointed (sound : machine.Sound fixed)
    (pointed : (machine.contents holder).data = some (.cell address)) :
    address ≠ machine.memory.next := by
  rcases (sound.coherent holder).tag_of_pointed pointed with owned | ⟨type, tagged⟩
  · obtain ⟨type, tagged⟩ := (sound.coherent holder).tag_of_owned owned
    exact sound.ne_next_of_tag tagged
  · exact sound.ne_next_of_tag tagged

/-- After an address was given out, those above it are not in use. -/
theorem fresh_allocate (sound : machine.Sound fixed) (owner : Owner) (content : Typed)
    (above : (machine.memory.allocate owner content).next ≤ address) :
    (machine.memory.allocate owner content).tag address = none := by
  have beyond : machine.memory.next < address := above
  rw [Memory.tag_allocate, if_neg (Nat.ne_of_gt beyond)]
  exact sound.fresh address (Nat.le_of_lt beyond)

/-- Containers stay coherent when an address is given out. -/
theorem coherent_allocate (sound : machine.Sound fixed) (owner : Owner) (content : Typed)
    (holder : Holder) :
    (machine.contents holder).Coherent fixed (machine.memory.allocate owner content) := by
  refine (sound.coherent holder).congr fun address pointed => ?_
  rw [Memory.tag_allocate, if_neg (sound.ne_next_of_pointed pointed)]

/-- A sound machine stays so when a holder that owns no cell gets one of its own. -/
theorem allocate (sound : machine.Sound fixed) {content : Typed}
    (free : (machine.contents holder).storage.owned? = none)
    (large : (fixed.record content.type).layout.fitsInline = false) :
    ({ machine.set holder ⟨some content.type, .heap machine.memory.next⟩ with
        memory := machine.memory.allocate .any content } : Machine).Sound fixed := by
  have used : ∀ {other : Holder} {address : Nat},
      (machine.contents other).storage.owned? = some address → address ≠ machine.memory.next :=
    fun owned => sound.ne_next_of_pointed (Storage.pointer_of_owned owned)
  refine ⟨fun _ => sound.fresh_allocate .any content, ?_, ?_, ?_⟩
  · intro other
    by_cases same : other = holder
    · simp only [contents_set, if_pos same]
      exact .heap large ((Memory.tag_allocate ..).trans (if_pos rfl))
    · simp only [contents_set, if_neg same]
      exact sound.coherent_allocate .any content other
  · intro left right address first second
    simp only [contents_set] at first second
    by_cases one : left = holder
    · by_cases two : right = holder
      · rw [one, two]
      · rw [if_pos one] at first
        rw [if_neg two] at second
        cases first
        exact absurd rfl (used second)
    · by_cases two : right = holder
      · rw [if_neg one] at first
        rw [if_pos two] at second
        cases second
        exact absurd rfl (used first)
      · rw [if_neg one] at first
        rw [if_neg two] at second
        exact sound.unshared left right address first second
  · intro address type tagged
    rw [Memory.tag_allocate] at tagged
    by_cases new : address = machine.memory.next
    · refine ⟨holder, ?_⟩
      simp only [contents_set, if_true, new]
      rfl
    · rw [if_neg new] at tagged
      obtain ⟨other, owned⟩ := sound.kept address type tagged
      refine ⟨other, ?_⟩
      simp only [contents_set, if_neg (ne_of_owned owned free)]
      exact owned

/-- A sound machine stays so when a holder takes ownership of a value. -/
theorem place (types : Types) (sound : machine.Sound types.fixed) (holder : Holder) (any : Any) :
    (machine.place types holder any).Sound types.fixed := by
  have dropped := sound.drop holder
  have free := owned_drop machine holder
  cases any with
  | empty => exact dropped
  | held access content =>
    by_cases fits : (types.record content.type).layout.fitsInline = true
    · simp only [Machine.place, Container.own, if_pos fits]
      exact dropped.set free (.inline fits) rfl
    · simp only [Machine.place, Container.own, if_neg fits]
      exact dropped.allocate free (Bool.eq_false_iff.2 fits)

/-- A sound machine stays so when the program starts a variable. -/
theorem declare (sound : machine.Sound fixed) (content : Typed) :
    ({ machine with memory := machine.memory.allocate .program content } : Machine).Sound
      fixed := by
  refine ⟨fun _ => sound.fresh_allocate .program content,
    sound.coherent_allocate .program content, sound.unshared, ?_⟩
  intro address type tagged
  rw [Memory.tag_allocate] at tagged
  split at tagged
  · cases tagged
  · exact sound.kept address type tagged

/-- A sound machine stays so when a value in memory is replaced by one of its type. -/
theorem store (sound : machine.Sound fixed) (address : Nat) (value : Value) :
    ({ machine with memory := machine.memory.store address value } : Machine).Sound fixed := by
  refine ⟨?_, ?_, sound.unshared, ?_⟩
  · intro other above
    rw [Memory.tag_store]
    exact sound.fresh other above
  · intro holder
    exact (sound.coherent holder).congr fun _ _ => Memory.tag_store ..
  · intro other type tagged
    rw [Memory.tag_store] at tagged
    exact sound.kept other type tagged

/-- A sound machine stays so when the value of a holder is overwritten. -/
theorem overwrite (sound : machine.Sound fixed) {pointer : Pointer}
    (pointed : (machine.contents holder).data = some pointer) (value : Value) :
    (machine.overwrite holder pointer value).Sound fixed := by
  cases pointer with
  | inside =>
    have coherent := sound.coherent holder
    revert pointed coherent
    generalize found : machine.contents holder = container
    intro pointed coherent
    cases coherent with
    | inline fits =>
      simp only [Machine.overwrite, Container.overwrite, found]
      exact sound.set (by rw [found]; rfl) (.inline fits) rfl
    | _ => cases pointed
  | cell address =>
    simp only [Machine.overwrite, Container.overwrite]
    rw [set_contents]
    exact sound.store address value

/-- A sound machine stays so when a holder is made to refer to a variable. -/
theorem refer (sound : machine.Sound fixed) (holder : Holder) {type : Ty} {storage : Storage}
    (tagged : machine.memory.tag address = some (.program, type))
    (refers : storage = .ref address ∨ storage = .refMut address) :
    ((machine.drop holder).set holder ⟨some type, storage⟩).Sound fixed := by
  have free := owned_drop machine holder
  have still : (machine.drop holder).memory.tag address = some (.program, type) := by
    rw [tag_drop (sound.not_owned tagged holder)]
    exact tagged
  rcases refers with rfl | rfl
  · exact (sound.drop holder).set free (.ref still) rfl
  · exact (sound.drop holder).set free (.refMut still) rfl

/-- A machine that has not done anything is sound. -/
theorem ofFresh (fixed : Universe) : Machine.fresh.Sound fixed where
  fresh := fun _ _ => rfl
  coherent := fun _ => .vacant
  unshared := fun _ _ _ owned => nomatch owned
  kept := fun _ _ tagged => nomatch tagged

end Sound

end Machine

end Reflection
