import Reflection.Any.Route

/-!
# What accessors select

Accessors come in pairs that look for the same sub-object and borrow it const or mutably. A
`Selector` is what such a pair looks for; which sub-object that is depends on the value alone
(`Typed.selected`), and whether the accessor may have it depends on how the value is held
(`Accessor.Permits`). `Any.access_eq_some_iff` puts the two together for every accessor, so that
arguments about chains never open a view again.
-/
namespace Reflection

/-! ### Views -/

namespace Cursor

/-- The next part from the front is the first that remains. -/
theorem next_fst (cursor : Cursor) : cursor.next.1 = cursor.remaining[0]? := by
  unfold next
  cases cursor.remaining <;> rfl

/-- What a walk over changed parts gives is changed alike. -/
theorem walk_map (change : Part → Part) (remaining : List Part) (doubleEnded : Bool)
    (ends : List End) :
    (Cursor.mk (remaining.map change) doubleEnded).walk ends =
      ((Cursor.mk remaining doubleEnded).walk ends).map (Option.map change) := by
  induction ends generalizing remaining with
  | nil => rfl
  | cons side rest ih =>
    cases side with
    | front =>
      cases remaining with
      | nil => exact congrArg (none :: ·) (ih [])
      | cons part others => exact congrArg (some (change part) :: ·) (ih others)
    | back =>
      cases doubleEnded with
      | false => exact congrArg (none :: ·) (ih remaining)
      | true =>
        have last : (remaining.map change).getLast? = remaining.getLast?.map change := by
          simp
        have others : (remaining.map change).dropLast = remaining.dropLast.map change := by
          simp
        simp only [walk, nextBack, if_true, List.map_cons, last, others, ih]

/-- What a walk over changed parts gives last is changed alike. -/
theorem visit_map (change : Part → Part) (remaining : List Part) (doubleEnded : Bool)
    (ends : List End) :
    (Cursor.mk (remaining.map change) doubleEnded).visit ends =
      ((Cursor.mk remaining doubleEnded).visit ends).map change := by
  unfold visit
  rw [walk_map, List.getLast?_map]
  cases ((Cursor.mk remaining doubleEnded).walk ends).getLast? with
  | none => rfl
  | some found => cases found <;> rfl

/-- A walk gives only parts that it walks over. -/
theorem mem_of_mem_walk {part : Part} {remaining : List Part} {doubleEnded : Bool}
    {ends : List End} (mem : some part ∈ (Cursor.mk remaining doubleEnded).walk ends) :
    part ∈ remaining := by
  induction ends generalizing remaining with
  | nil => exact absurd mem List.not_mem_nil
  | cons side rest ih =>
    cases side with
    | front =>
      cases remaining with
      | nil =>
        rcases List.mem_cons.1 mem with same | later
        · contradiction
        · exact ih later
      | cons head others =>
        rcases List.mem_cons.1 mem with same | later
        · obtain rfl := Option.some.inj same
          exact List.mem_cons_self
        · exact List.mem_cons_of_mem _ (ih later)
    | back =>
      cases doubleEnded with
      | false =>
        rcases List.mem_cons.1 mem with same | later
        · contradiction
        · exact ih later
      | true =>
        rcases List.mem_cons.1 mem with same | later
        · exact List.mem_of_getLast? same.symm
        · exact List.dropLast_subset remaining (ih later)

/-- A walk gives last a part that it walks over. -/
theorem mem_of_visit {part : Part} {remaining : List Part} {doubleEnded : Bool} {ends : List End}
    (given : (Cursor.mk remaining doubleEnded).visit ends = some part) : part ∈ remaining := by
  unfold visit at given
  exact mem_of_mem_walk (List.mem_of_getLast? (Option.join_eq_some_iff.1 given))

end Cursor

/-- What an accessor looks for, be it to borrow it const or mutably. -/
inductive Selector where
  | whole
  | parent (target : Ty)
  | field (index : Nat)
  | item (index : Nat)
  | walked (steps : Nat)
  | visited (ends : List End)
  | keyed (key : Any)
  | entryKey (index : Nat)
  | entryValue (index : Nat)

/-- Parts are the same if they lie at the same place and are borrowed alike. -/
theorem Part.eq_iff {left right : Part} :
    left = right ↔
      (left.path, left.type) = (right.path, right.type) ∧ left.exclusive = right.exclusive := by
  cases left
  cases right
  simp [and_assoc]

namespace RangeView

variable {types : Types} {view : RangeView} {part : Part}

/-- Where the item that is looked for lies, and its type. -/
def selected (view : RangeView) : Selector → Option (Path × Ty)
  | .item index =>
    if view.shape.isRandomAccess = true ∧ index < view.count then
      some (view.shape.place ++ [index], view.shape.item)
    else none
  | .walked steps =>
    if steps < view.count then some (view.shape.place ++ [steps], view.shape.item) else none
  | .visited ends => (view.iter.visit ends).map fun part => (part.path, part.type)
  | _ => none

/-- Whether items may be borrowed mutably. -/
def Writes (view : RangeView) : Prop :=
  view.target.isConst = false ∧ view.shape.writable = true

/-- Mutable items differ from const ones only in how they are borrowed. -/
theorem items_true (view : RangeView) :
    view.items true = (view.items false).map ({ · with exclusive := true }) := by
  simp [items, item, Function.comp_def]

/-- All items are borrowed alike. -/
theorem exclusive_of_mem_items {exclusive : Bool} (mem : part ∈ view.items exclusive) :
    part.exclusive = exclusive := by
  obtain ⟨index, _, rfl⟩ := List.mem_map.1 mem
  rfl

/-- When an item is given by position. -/
theorem get_eq_ok_iff {index : Nat} :
    (view.get types index).outcome = .ok part ↔
      view.selected (.item index) = some (part.path, part.type) ∧ part.exclusive = false := by
  obtain ⟨path, type, exclusive⟩ := part
  unfold get requireRandomAccess selected
  rw [Fallible.outcome_bind_eq_ok_iff]
  by_cases indexed : view.shape.isRandomAccess = true
  · by_cases inside : index < view.count
    · simp [indexed, inside, item, and_assoc]
    · simp [indexed, inside]
  · simp [indexed]

/-- When an item is given mutably by position. -/
theorem getMut_eq_ok_iff {index : Nat} :
    (view.getMut types index).outcome = .ok part ↔
      view.Writes ∧ view.selected (.item index) = some (part.path, part.type) ∧
        part.exclusive = true := by
  obtain ⟨path, type, exclusive⟩ := part
  unfold getMut requireRandomAccess requireMutable selected Writes
  rw [Fallible.outcome_bind_eq_ok_iff]
  by_cases indexed : view.shape.isRandomAccess = true
  · cases const : view.target.isConst with
    | true => simp [indexed, Except.bind]
    | false =>
      by_cases inside : index < view.count
      · by_cases writable : view.shape.writable = true
        · simp [indexed, inside, writable, item, and_assoc]
        · simp [indexed, inside, writable]
      · simp [indexed, inside]
  · simp [indexed]

/-- When a walk over mutable items is given. -/
theorem iterMut_eq_ok_iff {cursor : Cursor} :
    (view.iterMut types).outcome = .ok cursor ↔
      view.Writes ∧ ⟨view.items true, view.shape.isBidirectional⟩ = cursor := by
  unfold iterMut requireMutable Writes
  rw [Fallible.outcome_bind_eq_ok_iff]
  cases const : view.target.isConst with
  | true => simp
  | false =>
    by_cases writable : view.shape.writable = true
    · simp [writable]
    · simp [writable]

/-- Which item stands at a position of a walk. -/
theorem getElem?_items_eq_some_iff {mutable : Bool} {steps : Nat} :
    (view.items mutable)[steps]? = some part ↔
      view.selected (.walked steps) = some (part.path, part.type) ∧
        part.exclusive = mutable := by
  obtain ⟨path, type, exclusive⟩ := part
  unfold items selected
  by_cases inside : steps < view.count
  · simp [inside, item, and_assoc, @eq_comm _ mutable]
  · simp [inside]

/-- Which item a walk gives last. -/
theorem visit_eq_some_iff {ends : List End} :
    view.iter.visit ends = some part ↔
      view.selected (.visited ends) = some (part.path, part.type) ∧ part.exclusive = false := by
  unfold selected
  rw [Option.map_eq_some_iff]
  constructor
  · intro given
    exact ⟨⟨part, given, rfl⟩, exclusive_of_mem_items (Cursor.mem_of_visit given)⟩
  · rintro ⟨⟨found, given, same⟩, const⟩
    have alike := exclusive_of_mem_items (Cursor.mem_of_visit given)
    rw [given, Option.some.injEq, Part.eq_iff]
    exact ⟨same, alike.trans const.symm⟩

/-- Which item a walk over mutable items gives last. -/
theorem visit_items_true_eq_some_iff {ends : List End} :
    (Cursor.mk (view.items true) view.shape.isBidirectional).visit ends = some part ↔
      view.selected (.visited ends) = some (part.path, part.type) ∧ part.exclusive = true := by
  unfold selected
  rw [items_true, Cursor.visit_map, Option.map_eq_some_iff, Option.map_eq_some_iff]
  constructor
  · rintro ⟨found, given, rfl⟩
    exact ⟨⟨found, given, rfl⟩, rfl⟩
  · rintro ⟨⟨found, given, same⟩, mutable⟩
    exact ⟨found, given, Part.eq_iff.2 ⟨same, mutable.symm⟩⟩

end RangeView

namespace TableView

variable {types : Types} {view : TableView} {part : Part} {key : Any}

/-- The position of the entry with a key of any type, if there is one. -/
def bound? (types : Types) (view : TableView) (key : Any) : Option Nat :=
  (view.bindKey types key).value.bind view.position?

/-- Where the key or value that is looked for lies, and its type. -/
def selected (types : Types) (view : TableView) : Selector → Option (Path × Ty)
  | .keyed key =>
    (view.bound? types key).map fun index => (view.shape.place ++ [index, 1], view.shape.value)
  | .entryKey index =>
    if index < view.len then some (view.shape.place ++ [index, 0], view.shape.key) else none
  | .entryValue index =>
    if index < view.len then some (view.shape.place ++ [index, 1], view.shape.value) else none
  | _ => none

/-- Whether values may be borrowed mutably. -/
def Writes (view : TableView) : Prop :=
  view.target.isConst = false ∧ view.shape.writable = true

/-- What is found under a key. -/
theorem value_find :
    (view.find types key).value = (view.bound? types key).map (view.valuePart false) := rfl

/-- What is found mutably under a key. -/
theorem value_findMut :
    (view.findMut types key).value =
      if view.target.isConst || !view.shape.writable then none
      else (view.bound? types key).map (view.valuePart true) := by
  unfold findMut
  split <;> rfl

/-- Which value is found under a key. -/
theorem find_eq_some_iff :
    (view.find types key).value = some part ↔
      view.selected types (.keyed key) = some (part.path, part.type) ∧
        part.exclusive = false := by
  obtain ⟨path, type, exclusive⟩ := part
  rw [value_find]
  cases bound : view.bound? types key with
  | none => simp [selected, bound]
  | some index => simp [selected, bound, valuePart, and_assoc]

/-- Which value is found mutably under a key. -/
theorem findMut_eq_some_iff :
    (view.findMut types key).value = some part ↔
      view.Writes ∧ view.selected types (.keyed key) = some (part.path, part.type) ∧
        part.exclusive = true := by
  obtain ⟨path, type, exclusive⟩ := part
  rw [value_findMut]
  unfold Writes
  cases view.target.isConst with
  | true => simp
  | false =>
    cases view.shape.writable with
    | true =>
      cases bound : view.bound? types key with
      | none => simp [selected, bound]
      | some index => simp [selected, bound, valuePart, and_assoc]
    | false => simp

/-- When the value under a key is given. -/
theorem get_eq_ok_iff :
    (view.get types key).outcome = .ok part ↔ (view.find types key).value = some part := by
  unfold get
  rw [Fallible.outcome_bind_eq_ok_iff]
  cases found : (view.find types key).value with
  | none => simp [found]
  | some value => simp [found]

/-- When the value under a key is given mutably. -/
theorem getMut_eq_ok_iff :
    (view.getMut types key).outcome = .ok part ↔ (view.findMut types key).value = some part := by
  unfold getMut
  rw [Fallible.outcome_bind_eq_ok_iff]
  cases found : (view.findMut types key).value with
  | none => simp [found]
  | some value => simp [found]

/-- When the entries with mutable values are given. -/
theorem iterMut_eq_ok_iff {entries : List (Part × Part)} :
    (view.iterMut types).outcome = .ok entries ↔ view.Writes ∧ view.entries true = entries := by
  unfold iterMut requireMutable Writes
  rw [Fallible.outcome_bind_eq_ok_iff]
  cases const : view.target.isConst with
  | true => simp
  | false =>
    by_cases writable : view.shape.writable = true
    · simp [writable]
    · simp [writable]

/-- Which key stands at a position among the entries. -/
theorem entryKey_eq_some_iff (types : Types) {mutable : Bool} {index : Nat} :
    (view.entries mutable)[index]?.map (·.1) = some part ↔
      view.selected types (.entryKey index) = some (part.path, part.type) ∧
        part.exclusive = false := by
  obtain ⟨path, type, exclusive⟩ := part
  unfold entries selected
  by_cases inside : index < view.len
  · simp [inside, keyPart, and_assoc]
  · simp [inside]

/-- Which value stands at a position among the entries. -/
theorem entryValue_eq_some_iff (types : Types) {mutable : Bool} {index : Nat} :
    (view.entries mutable)[index]?.map (·.2) = some part ↔
      view.selected types (.entryValue index) = some (part.path, part.type) ∧
        part.exclusive = mutable := by
  obtain ⟨path, type, exclusive⟩ := part
  unfold entries selected
  by_cases inside : index < view.len
  · simp [inside, valuePart, and_assoc, @eq_comm _ mutable]
  · simp [inside]

end TableView

namespace TupleView

variable {types : Types} {view : TupleView} {index : Nat} {part : Part}

/-- Where a field lies, and its type. -/
def selected (view : TupleView) (index : Nat) : Option (Path × Ty) :=
  view.fields[index]?.map fun field => (field.place, field.type)

/-- When a field is given. -/
theorem get_eq_ok_iff :
    (view.get index).outcome = .ok part ↔
      view.selected index = some (part.path, part.type) ∧ part.exclusive = false := by
  obtain ⟨path, type, exclusive⟩ := part
  unfold get selected
  cases view.fields[index]? with
  | none => simp
  | some field => simp [and_assoc]

/-- When a field is given mutably. -/
theorem getMut_eq_ok_iff :
    (view.getMut types index).outcome = .ok part ↔
      view.target.isConst = false ∧ view.selected index = some (part.path, part.type) ∧
        part.exclusive = true := by
  obtain ⟨path, type, exclusive⟩ := part
  unfold getMut selected
  cases view.fields[index]? with
  | none => simp
  | some field =>
    cases view.target.isConst with
    | true => simp
    | false => simp [and_assoc]

end TupleView

/-! ### Values -/

namespace Typed

/-- The range view of a value whose type has a range shape. -/
def rangeView (content : Typed) (shape : RangeShape) : RangeView := ⟨shape, .held .shared content⟩

/-- The table view of a value whose type has a table shape. -/
def tableView (content : Typed) (shape : TableShape) : TableView := ⟨shape, .held .shared content⟩

/-- The sub-object that is found in a value: where it lies, and its type. -/
def selected (types : Types) (content : Typed) (selector : Selector) : Option (Path × Ty) :=
  match selector with
  | .whole => some ([], content.type)
  | .parent target =>
    match (types.cast content.type target).value with
    | .found place => some (place, target)
    | .missing | .ambiguous _ => none
  | .field index =>
    (types.record content.type).fields[index]?.map fun field => (field.place, field.type)
  | .item _ | .walked _ | .visited _ =>
    (types.record content.type).range.bind fun shape => (content.rangeView shape).selected selector
  | .keyed _ | .entryKey _ | .entryValue _ =>
    (types.record content.type).table.bind fun shape =>
      (content.tableView shape).selected types selector

end Typed

/-- How a view that is const or mutable holds its value. -/
def viewAccess (const : Bool) : Access := if const then .shared else .exclusive

/-- Whether a view, const or mutable, may be made of a value that is held in some way, and be
written through if that is asked for and the shape allows it. -/
def ViewPermits (access : Access) (const writes writable : Bool) : Prop :=
  (const = true ∨ access ≠ .shared) ∧ (writes = true → const = false ∧ writable = true)

/-- A view that may be written through is not one of a const value. -/
theorem ViewPermits.ne_shared {access : Access} {const writable : Bool}
    (permits : ViewPermits access const true writable) : access ≠ .shared := by
  rcases permits.1 with viewedConst | notShared
  · rw [(permits.2 rfl).1] at viewedConst
    contradiction
  · exact notShared

namespace Any

variable {types : Types} {access : Access} {content : Typed} {const : Bool}

/-- When the whole value is given mutably. -/
theorem asMut_eq_ok_iff {target : Any} :
    ((held access content).asMut types).outcome = .ok target ↔
      access ≠ .shared ∧ target = held .exclusive content := by
  cases access with
  | owned => simp [asMut, eq_comm]
  | shared => simp [asMut]
  | exclusive => simp [asMut, eq_comm]

/-- A view that is const or mutable is made of a reference that holds the value so. -/
theorem viewed_eq_ok_iff {View : Type} {make : Any → Attempt View} {view : View} :
    (if const then make (held access content).asRef
      else (held access content).asMut types >>= make).outcome = .ok view ↔
      (const = true ∨ access ≠ .shared) ∧
        (make (held (viewAccess const) content)).outcome = .ok view := by
  cases const with
  | true => simp [asRef, viewAccess]
  | false =>
    rw [if_neg Bool.false_ne_true, Fallible.outcome_bind_eq_ok_iff]
    simp only [asMut_eq_ok_iff, Bool.false_eq_true, false_or, viewAccess, if_false]
    constructor
    · rintro ⟨_, ⟨permitted, rfl⟩, given⟩
      exact ⟨permitted, given⟩
    · rintro ⟨permitted, given⟩
      exact ⟨_, ⟨permitted, rfl⟩, given⟩

/-- When a value is viewed as a range. -/
theorem rangeView_eq_ok_iff {view : RangeView} :
    ((held access content).rangeView types const).outcome = .ok view ↔
      (const = true ∨ access ≠ .shared) ∧
        ∃ shape, (types.record content.type).range = some shape ∧
          ⟨shape, held (viewAccess const) content⟩ = view := by
  refine viewed_eq_ok_iff.trans (and_congr_right fun _ => ?_)
  simp only [RangeView.of]
  cases (types.record content.type).range with
  | none => simp
  | some shape => simp

/-- When a value is viewed as a table. -/
theorem tableView_eq_ok_iff {view : TableView} :
    ((held access content).tableView types const).outcome = .ok view ↔
      (const = true ∨ access ≠ .shared) ∧
        ∃ shape, (types.record content.type).table = some shape ∧
          ⟨shape, held (viewAccess const) content⟩ = view := by
  refine viewed_eq_ok_iff.trans (and_congr_right fun _ => ?_)
  simp only [TableView.of]
  cases (types.record content.type).table with
  | none => simp
  | some shape => simp

/-- When a value is viewed as a tuple. -/
theorem tupleView_eq_ok_iff {view : TupleView} :
    ((held access content).tupleView types const).outcome = .ok view ↔
      (const = true ∨ access ≠ .shared) ∧ (types.record content.type).hasTuple = true ∧
        ⟨(types.record content.type).fields, held (viewAccess const) content⟩ = view := by
  refine viewed_eq_ok_iff.trans (and_congr_right fun _ => ?_)
  simp only [TupleView.of]
  cases (types.record content.type).hasTuple with
  | true => simp
  | false => simp

/-- What is borrowed through a view that is made of a shape, if there is one; `needs` tells whether
the view has to be mutable. -/
theorem viewed_eq_some_iff {Shape View : Type} {viewed : Attempt View} {shaped : Option Shape}
    {make : Shape → View} {writable : Shape → Bool} {Writes : View → Prop}
    {select : View → Option (Path × Ty)} {needs gives : Bool} {part : Part}
    {next : View → Attempt (Option Part)}
    (viewedIff : ∀ view, viewed.outcome = .ok view ↔
      (const = true ∨ access ≠ .shared) ∧ ∃ shape, shaped = some shape ∧ make shape = view)
    (writesIff : ∀ shape, Writes (make shape) ↔ const = false ∧ writable shape = true)
    (spec : ∀ view, (next view).outcome = .ok (some part) ↔
      (needs = true → Writes view) ∧ select view = some (part.path, part.type) ∧
        part.exclusive = gives) :
    (viewed >>= next).outcome = .ok (some part) ↔
      ViewPermits access const needs (shaped.any writable) ∧
        (shaped.bind fun shape => select (make shape)) = some (part.path, part.type) ∧
        part.exclusive = gives := by
  simp only [Fallible.outcome_bind_eq_ok_iff, viewedIff]
  cases shaped with
  | none => simp
  | some shape =>
    simp only [Option.some.injEq, exists_eq_left', ViewPermits, Option.any_some, Option.bind_some]
    constructor
    · rintro ⟨_, ⟨permitted, rfl⟩, given⟩
      obtain ⟨written, found, flag⟩ := (spec _).1 given
      exact ⟨⟨permitted, fun asked => (writesIff shape).1 (written asked)⟩, found, flag⟩
    · rintro ⟨⟨permitted, written⟩, found, flag⟩
      exact ⟨_, ⟨permitted, rfl⟩,
        (spec _).2 ⟨fun asked => (writesIff shape).2 (written asked), found, flag⟩⟩

/-- What is borrowed through a range view. -/
theorem ranged_eq_some_iff {writes : Bool} {selector : Selector} {part : Part}
    {next : RangeView → Attempt (Option Part)}
    (spec : ∀ view : RangeView, (next view).outcome = .ok (some part) ↔
      (writes = true → view.Writes) ∧ view.selected selector = some (part.path, part.type) ∧
        part.exclusive = writes) :
    ((held access content).rangeView types const >>= next).outcome = .ok (some part) ↔
      ViewPermits access const writes ((types.record content.type).range.any (·.writable)) ∧
        ((types.record content.type).range.bind fun shape =>
          (content.rangeView shape).selected selector) = some (part.path, part.type) ∧
        part.exclusive = writes := by
  refine viewed_eq_some_iff (fun _ => rangeView_eq_ok_iff) (fun shape => ?_) spec
  cases const <;> simp [RangeView.Writes, viewAccess, isConst]

/-- What is borrowed through a table view; `needs` tells whether the view has to be mutable. -/
theorem tabled_eq_some_iff {needs gives : Bool} {selector : Selector} {part : Part}
    {next : TableView → Attempt (Option Part)}
    (spec : ∀ view : TableView, (next view).outcome = .ok (some part) ↔
      (needs = true → view.Writes) ∧ view.selected types selector = some (part.path, part.type) ∧
        part.exclusive = gives) :
    ((held access content).tableView types const >>= next).outcome = .ok (some part) ↔
      ViewPermits access const needs ((types.record content.type).table.any (·.writable)) ∧
        ((types.record content.type).table.bind fun shape =>
          (content.tableView shape).selected types selector) = some (part.path, part.type) ∧
        part.exclusive = gives := by
  refine viewed_eq_some_iff (fun _ => tableView_eq_ok_iff) (fun shape => ?_) spec
  cases const <;> simp [TableView.Writes, viewAccess, isConst]

/-- What is borrowed through a tuple view. -/
theorem tupled_eq_some_iff {writes : Bool} {index : Nat} {part : Part}
    {next : TupleView → Attempt (Option Part)}
    (spec : ∀ view : TupleView, (next view).outcome = .ok (some part) ↔
      (writes = true → view.target.isConst = false) ∧
        view.selected index = some (part.path, part.type) ∧ part.exclusive = writes) :
    ((held access content).tupleView types const >>= next).outcome = .ok (some part) ↔
      ViewPermits access const writes true ∧
        content.selected types (.field index) = some (part.path, part.type) ∧
        part.exclusive = writes := by
  have constIff : (held (viewAccess const) content).isConst = false ↔ const = false := by
    cases const <;> simp [viewAccess, isConst]
  simp only [Fallible.outcome_bind_eq_ok_iff, tupleView_eq_ok_iff]
  constructor
  · rintro ⟨_, ⟨permitted, _, rfl⟩, given⟩
    obtain ⟨written, found, flag⟩ := (spec _).1 given
    exact ⟨⟨permitted, fun asked => ⟨constIff.1 (written asked), rfl⟩⟩, found, flag⟩
  · rintro ⟨⟨permitted, written⟩, found, flag⟩
    have shaped : (types.record content.type).hasTuple = true := by
      unfold Record.hasTuple
      cases fields : (types.record content.type).fields with
      | nil => simp [Typed.selected, fields] at found
      | cons first rest => rfl
    exact ⟨_, ⟨permitted, shaped, rfl⟩,
      (spec _).2 ⟨fun asked => constIff.2 (written asked).1, found, flag⟩⟩

end Any

/-! ### Accessors -/

namespace Accessor

/-- What an accessor looks for. -/
@[simp] def selector : Accessor → Selector
  | .shared | .exclusive => .whole
  | .asType target | .asTypeMut target => .parent target
  | .field index _ | .fieldMut index _ => .field index
  | .item index _ | .itemMut index _ => .item index
  | .front _ => .walked 0
  | .back _ => .visited [.back]
  | .walk steps _ | .walkMut steps _ => .walked steps
  | .visit ends _ | .visitMut ends _ => .visited ends
  | .value key _ | .valueMut key _ | .find key _ | .findMut key _ => .keyed key
  | .entryKey index _ | .entryKeyMut index _ => .entryKey index
  | .entryValue index _ | .entryValueMut index _ => .entryValue index

/-- Whether an accessor borrows mutably what it finds. The keys of a table are never borrowed
mutably. -/
@[simp] def isMutable : Accessor → Bool
  | .exclusive | .asTypeMut _ | .fieldMut .. | .itemMut .. | .walkMut .. | .visitMut ..
  | .valueMut .. | .findMut .. | .entryValueMut .. => true
  | .shared | .asType _ | .field .. | .item .. | .front _ | .back _ | .walk .. | .visit ..
  | .value .. | .find .. | .entryKey .. | .entryValue .. | .entryKeyMut .. => false

/-- Whether an accessor may be applied to a value of some type that is held in some way. -/
def Permits (types : Types) (type : Ty) (access : Access) : Accessor → Prop
  | .shared | .asType _ | .asTypeMut _ => True
  | .exclusive => access ≠ .shared
  | .field _ const => ViewPermits access const false true
  | .fieldMut _ const => ViewPermits access const true true
  | .item _ const | .front const | .back const | .walk _ const | .visit _ const =>
    ViewPermits access const false ((types.record type).range.any (·.writable))
  | .itemMut _ const | .walkMut _ const | .visitMut _ const =>
    ViewPermits access const true ((types.record type).range.any (·.writable))
  | .value _ const | .find _ const | .entryKey _ const | .entryValue _ const =>
    ViewPermits access const false ((types.record type).table.any (·.writable))
  | .valueMut _ const | .findMut _ const | .entryKeyMut _ const | .entryValueMut _ const =>
    ViewPermits access const true ((types.record type).table.any (·.writable))

end Accessor

namespace Any

variable {types : Types} {access : Access} {content : Typed}

/-- What is borrowed through a view that may be written through is borrowed mutably. -/
theorem mutable_iff {const writable flag : Bool} {found : Prop} :
    ViewPermits access const true writable ∧ found ∧ flag = true ↔
      ViewPermits access const true writable ∧ found ∧
        flag = (true && decide (access ≠ .shared)) := by
  refine and_congr_right fun permits => and_congr_right fun _ => ?_
  simp [permits.ne_shared]

/-- What a cast along parents borrows. -/
theorem asType_eq_some_iff {target : Ty} {part : Part} :
    ((held access content).asType types target).value = some part ↔
      content.selected types (.parent target) = some (part.path, part.type) ∧
        part.exclusive = false := by
  obtain ⟨path, type, exclusive⟩ := part
  simp only [asType, Logged.value_bind, Typed.selected]
  cases (types.cast content.type target).value with
  | found place => simp [and_assoc]
  | missing => simp
  | ambiguous count => simp

/-- What a cast along parents borrows mutably, unless the value is const. -/
theorem asTypeMut_eq_some_iff {target : Ty} {part : Part} :
    ((held access content).asTypeMut types target).value = some part ↔
      content.selected types (.parent target) = some (part.path, part.type) ∧
        part.exclusive = decide (access ≠ .shared) := by
  obtain ⟨path, type, exclusive⟩ := part
  cases access with
  | shared => simpa [asTypeMut] using asType_eq_some_iff
  | owned | exclusive =>
    simp only [asTypeMut, Logged.value_bind, Typed.selected]
    cases (types.cast content.type target).value with
    | found place => simp [and_assoc]
    | missing => simp
    | ambiguous count => simp

/-- What an accessor borrows from a value: the selected sub-object, if it may have it, and mutably
if the accessor is mutable and the value is not const. -/
theorem access_eq_some_iff {accessor : Accessor} {part : Part} :
    ((held access content).access types accessor).outcome = .ok (some part) ↔
      accessor.Permits types content.type access ∧
        content.selected types accessor.selector = some (part.path, part.type) ∧
        part.exclusive = (accessor.isMutable && decide (access ≠ .shared)) := by
  cases accessor with
  | shared =>
    obtain ⟨path, type, exclusive⟩ := part
    simp [Any.access, whole, type?, content?, Accessor.Permits, Accessor.selector,
      Accessor.isMutable, Typed.selected, and_assoc]
  | exclusive =>
    obtain ⟨path, type, exclusive⟩ := part
    simp only [Any.access, Fallible.outcome_bind_eq_ok_iff, asMut_eq_ok_iff]
    cases access with
    | shared => simp [Accessor.Permits]
    | owned | exclusive =>
      simp [whole, type?, content?, Accessor.Permits, Accessor.selector, Accessor.isMutable,
        Typed.selected, and_assoc]
  | asType target =>
    simpa [Any.access, Accessor.Permits, Accessor.selector, Accessor.isMutable]
      using asType_eq_some_iff
  | asTypeMut target =>
    simpa [Any.access, Accessor.Permits, Accessor.selector, Accessor.isMutable]
      using asTypeMut_eq_some_iff
  | field index const =>
    refine tupled_eq_some_iff fun view => ?_
    simp [Fallible.outcome_some_eq_ok_iff, TupleView.get_eq_ok_iff]
  | fieldMut index const =>
    refine (tupled_eq_some_iff fun view => ?_).trans mutable_iff
    simp [Fallible.outcome_some_eq_ok_iff, TupleView.getMut_eq_ok_iff]
  | item index const =>
    refine ranged_eq_some_iff fun view => ?_
    simp [Fallible.outcome_some_eq_ok_iff, RangeView.get_eq_ok_iff]
  | itemMut index const =>
    refine (ranged_eq_some_iff fun view => ?_).trans mutable_iff
    simp [Fallible.outcome_some_eq_ok_iff, RangeView.getMut_eq_ok_iff]
  | front const =>
    refine ranged_eq_some_iff fun view => ?_
    simp [RangeView.front, Cursor.next_fst, RangeView.iter, RangeView.getElem?_items_eq_some_iff]
  | back const =>
    refine ranged_eq_some_iff fun view => ?_
    have last : view.back = view.iter.visit [.back] := rfl
    simp [last, RangeView.visit_eq_some_iff]
  | walk steps const =>
    refine ranged_eq_some_iff fun view => ?_
    simp [RangeView.iter, RangeView.getElem?_items_eq_some_iff]
  | walkMut steps const =>
    refine (ranged_eq_some_iff fun view => ?_).trans mutable_iff
    simp [Fallible.outcome_map_eq_ok_iff, RangeView.iterMut_eq_ok_iff, and_assoc,
      RangeView.getElem?_items_eq_some_iff]
  | visit ends const =>
    refine ranged_eq_some_iff fun view => ?_
    simp [RangeView.visit_eq_some_iff]
  | visitMut ends const =>
    refine (ranged_eq_some_iff fun view => ?_).trans mutable_iff
    simp [Fallible.outcome_map_eq_ok_iff, RangeView.iterMut_eq_ok_iff, and_assoc,
      RangeView.visit_items_true_eq_some_iff]
  | value key const =>
    refine tabled_eq_some_iff fun view => ?_
    simp [Fallible.outcome_some_eq_ok_iff, TableView.get_eq_ok_iff, TableView.find_eq_some_iff]
  | valueMut key const =>
    refine (tabled_eq_some_iff fun view => ?_).trans mutable_iff
    simp [Fallible.outcome_some_eq_ok_iff, TableView.getMut_eq_ok_iff,
      TableView.findMut_eq_some_iff]
  | find key const =>
    refine tabled_eq_some_iff fun view => ?_
    simp [TableView.find_eq_some_iff]
  | findMut key const =>
    refine (tabled_eq_some_iff fun view => ?_).trans mutable_iff
    simp [TableView.findMut_eq_some_iff]
  | entryKey index const =>
    refine tabled_eq_some_iff fun view => ?_
    simp [-Option.map_eq_some_iff, TableView.iter, TableView.entryKey_eq_some_iff types]
  | entryValue index const =>
    refine tabled_eq_some_iff fun view => ?_
    simp [-Option.map_eq_some_iff, TableView.iter, TableView.entryValue_eq_some_iff types]
  | entryKeyMut index const =>
    refine tabled_eq_some_iff fun view => ?_
    simp [-Option.map_eq_some_iff, Fallible.outcome_map_eq_ok_iff, TableView.iterMut_eq_ok_iff,
      and_assoc, TableView.entryKey_eq_some_iff types]
  | entryValueMut index const =>
    refine (tabled_eq_some_iff fun view => ?_).trans mutable_iff
    simp [-Option.map_eq_some_iff, Fallible.outcome_map_eq_ok_iff, TableView.iterMut_eq_ok_iff,
      and_assoc, TableView.entryValue_eq_some_iff types]

end Any

end Reflection
