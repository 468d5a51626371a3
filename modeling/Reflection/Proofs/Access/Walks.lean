import Reflection.Proofs.Access.Selection
import Reflection.Standard.Universe

/-!
# Walking a range

A walk is continued from one end or the other, in any order, until the two ends meet. What is left
of it has a closed form (`Cursor.remaining_after`, `Cursor.remaining_after_forward`), and so has the
answer to every call. The ranges of built-in types are the sequences of the parts of their values:
walks, positions, the first and the last item and the length all speak of that one sequence, and
mutable access reaches the same parts.
-/
namespace Reflection

namespace Cursor

variable {cursor : Cursor} {items : List Part} {doubleEnded : Bool}

/-- What a call from an end answers. -/
def take (cursor : Cursor) : End → Option Part
  | .front => cursor.next.1
  | .back => cursor.nextBack.1

/-- What is left of a walk once it was continued from some ends in turn. -/
def after (cursor : Cursor) : List End → Cursor
  | [] => cursor
  | .front :: ends => cursor.next.2.after ends
  | .back :: ends => cursor.nextBack.2.after ends

/-- A walk answers every call from what the calls before have left. -/
theorem getElem?_walk (cursor : Cursor) (past : List End) (side : End) (rest : List End) :
    (cursor.walk (past ++ side :: rest))[past.length]? = some ((cursor.after past).take side) := by
  induction past generalizing cursor with
  | nil => cases side <;> rfl
  | cons first others ih =>
    cases first with
    | front => exact ih cursor.next.2
    | back => exact ih cursor.nextBack.2

/-- A walk from both ends has left the parts that lie between the calls from the front and those
from the end. -/
theorem remaining_after (items : List Part) (past : List End) :
    (Cursor.mk items true).after past =
      ⟨(items.drop (past.count .front)).take (items.length - past.length), true⟩ := by
  induction past generalizing items with
  | nil => simp [after]
  | cons first others ih =>
    cases first with
    | front =>
      have left : (Cursor.mk items true).next.2 = ⟨items.tail, true⟩ := by cases items <;> rfl
      rw [after, left, ih, List.count_cons_self, List.drop_tail, List.length_tail,
        List.length_cons]
      congr 2
      omega
    | back =>
      have left : (Cursor.mk items true).nextBack.2 = ⟨items.dropLast, true⟩ := rfl
      have fewer := List.count_le_length (a := End.front) (l := others)
      rw [after, left, ih, List.count_cons_of_ne (by decide), List.length_dropLast,
        List.dropLast_eq_take, List.drop_take, List.take_take, List.length_cons]
      congr 2
      omega

/-- A walk that goes forward only has left the parts after the calls from the front. -/
theorem remaining_after_forward (items : List Part) (past : List End) :
    (Cursor.mk items false).after past = ⟨items.drop (past.count .front), false⟩ := by
  induction past generalizing items with
  | nil => rfl
  | cons first others ih =>
    cases first with
    | front =>
      have left : (Cursor.mk items false).next.2 = ⟨items.tail, false⟩ := by cases items <;> rfl
      rw [after, left, ih, List.count_cons_self, List.drop_tail]
    | back =>
      have left : (Cursor.mk items false).nextBack.2 = ⟨items, false⟩ := rfl
      rw [after, left, ih, List.count_cons_of_ne (by decide)]

/-- The item that a walk over some items owes to a call from one end after some other calls: from
both ends, as long as there are more items than calls, the one next to those given at this end;
going forward only, the one next to those given, and none at the end. -/
def owed {α : Type} (items : List α) (doubleEnded : Bool) (past : List End) : End → Option α
  | .front =>
    if doubleEnded && items.length ≤ past.length then none else items[past.count .front]?
  | .back =>
    if doubleEnded && past.length < items.length then
      items[items.length - 1 - past.count .back]?
    else none

/-- What is owed among changed items is changed alike. -/
theorem owed_map {α β : Type} (change : α → β) (items : List α) (doubleEnded : Bool)
    (past : List End) (side : End) :
    owed (items.map change) doubleEnded past side =
      (owed items doubleEnded past side).map change := by
  cases side with
  | front =>
    simp only [owed, List.length_map, List.getElem?_map]
    split <;> rfl
  | back =>
    simp only [owed, List.length_map, List.getElem?_map]
    split <;> rfl

/-- Calls come from the one end or from the other. -/
theorem count_front_add_count_back (past : List End) :
    past.count .front + past.count .back = past.length := by
  induction past with
  | nil => rfl
  | cons first others ih =>
    cases first with
    | front => simp; omega
    | back => simp; omega

/-- A walk answers every call with the item it owes. -/
theorem take_after (items : List Part) (doubleEnded : Bool) (past : List End) (side : End) :
    ((Cursor.mk items doubleEnded).after past).take side = owed items doubleEnded past side := by
  have calls := count_front_add_count_back past
  cases doubleEnded with
  | false =>
    rw [remaining_after_forward]
    cases side with
    | front => simp [take, next_fst, owed]
    | back => simp [take, nextBack, owed]
  | true =>
    rw [remaining_after]
    by_cases beyond : items.length ≤ past.length
    · have nothing : items.length - past.length = 0 := by omega
      have done : ¬past.length < items.length := by omega
      cases side with
      | front => simp [take, next_fst, owed, beyond, nothing]
      | back => simp [take, nextBack, owed, done, nothing]
    · have more : past.length < items.length := by omega
      cases side with
      | front =>
        have inside : 0 < items.length - past.length := by omega
        simp [take, next_fst, owed, beyond, inside]
      | back =>
        simp only [take, nextBack, owed, more, decide_true, Bool.and_self, if_true]
        rw [List.getLast?_eq_getElem?, List.getElem?_take, List.length_take, List.length_drop,
          List.getElem?_drop, if_pos (by omega)]
        congr 1
        omega

/-- What a walk has given and what is left of it are the parts it walks over. -/
theorem perm_walk (cursor : Cursor) (ends : List End) :
    ((cursor.walk ends).filterMap id ++ (cursor.after ends).remaining).Perm cursor.remaining := by
  induction ends generalizing cursor with
  | nil => exact .refl _
  | cons side rest ih =>
    obtain ⟨items, doubleEnded⟩ := cursor
    cases side with
    | front =>
      cases items with
      | nil => exact ih ⟨[], doubleEnded⟩
      | cons part others => exact (ih ⟨others, doubleEnded⟩).cons part
    | back =>
      cases doubleEnded with
      | false => exact ih ⟨items, false⟩
      | true =>
        rcases List.eq_nil_or_concat items with rfl | ⟨others, part, rfl⟩
        · exact ih ⟨[], true⟩
        · have rests := ih ⟨others, true⟩
          simp only [walk, after, nextBack, if_true, List.concat_eq_append,
            List.getLast?_append, List.getLast?_singleton, List.dropLast_concat,
            List.filterMap_cons, id_eq, Option.some_or, List.cons_append]
          exact (rests.cons part).trans (List.perm_append_singleton part others).symm

end Cursor

/-! ### Views -/

/-- A part, borrowed mutably. -/
def Part.mutably (part : Part) : Part := { part with exclusive := true }

namespace RangeView

variable {types : Types} {view : RangeView} {items : List Any} {value : Value}

/-- A view gives some items and no others, in their order. -/
structure Lists (types : Types) (view : RangeView) (category : Category) (items : List Any) :
    Prop where
  /-- Whatever calls were made before, the next is answered with the item it is owed. -/
  walks : ∀ past side rest,
    ((view.iter.walk (past ++ side :: rest)).map (Option.map view.target.borrow))[past.length]? =
      some (Cursor.owed items (category != .forward) past side)
  /-- What was given and what is left are the items, none of them lost and none repeated. -/
  once : ∀ ends, (((view.iter.walk ends).filterMap id ++ (view.iter.after ends).remaining).map
    view.target.borrow).Perm items
  len : view.len = some items.length
  isEmpty : view.isEmpty = true ↔ items.length = 0
  front : view.front.map view.target.borrow = items.head?
  back : view.back.map view.target.borrow =
    if category = .forward then none else items.getLast?
  get : category = .randomAccess → ∀ index (inside : index < items.length),
    ∃ part, (view.get types index).outcome = .ok part ∧ view.target.borrow part = items[index]
  outside : category = .randomAccess → ∀ index, items.length ≤ index →
    ∃ error, (view.get types index).outcome = .error error ∧ error.kind = .invalidParam 0
  unindexed : category ≠ .randomAccess → ∀ index,
    ∃ error, (view.get types index).outcome = .error error ∧ error.kind = .invalidType

/-- Mutable access to a view reaches the parts that const access reaches. -/
structure Mutates (types : Types) (view : RangeView) : Prop where
  walks : ∃ cursor, (view.iterMut types).outcome = .ok cursor ∧
    ∀ ends, cursor.walk ends = (view.iter.walk ends).map (Option.map Part.mutably)
  get : ∀ index, (view.getMut types index).outcome = (view.get types index).outcome.map Part.mutably

/-- A view gives no mutable access. -/
structure Frozen (types : Types) (view : RangeView) : Prop where
  walks : ∀ cursor, (view.iterMut types).outcome ≠ .ok cursor
  get : ∀ index part, (view.getMut types index).outcome ≠ .ok part

/-- What indexing a view answers. -/
theorem outcome_get (types : Types) (view : RangeView) (index : Nat) :
    (view.get types index).outcome =
      if view.shape.isRandomAccess then
        if index < view.count then .ok (view.item false index)
        else .error (.of (.indexOutOfRange index))
      else .error (.of (.notRandomAccess (view.target.typeName types))) := by
  unfold RangeView.get requireRandomAccess
  by_cases indexed : view.shape.isRandomAccess = true
  · by_cases inside : index < view.count
    · simp [indexed, inside]
    · simp [indexed, inside]
  · simp [indexed, Except.bind]

/-- What mutable indexing answers. -/
theorem outcome_getMut (types : Types) (view : RangeView) (index : Nat) :
    (view.getMut types index).outcome =
      if view.shape.isRandomAccess then
        if view.target.isConst then
          .error (.of (.constView .range (view.target.typeName types)))
        else if view.shape.writable then (view.get types index).outcome.map Part.mutably
        else .error (.of (.indexOutOfRange index))
      else (view.get types index).outcome.map Part.mutably := by
  rw [outcome_get]
  unfold getMut requireRandomAccess requireMutable
  by_cases indexed : view.shape.isRandomAccess = true
  · by_cases const : view.target.isConst = true
    · simp [indexed, const, Except.bind]
    · by_cases writable : view.shape.writable = true
      · by_cases inside : index < view.count
        · simp [indexed, const, writable, inside, Except.map, item, Part.mutably]
        · simp [indexed, const, writable, inside, Except.map]
      · simp [indexed, const, writable]
  · simp [indexed, Except.bind, Except.map]

/-- A view that may be written through gives mutable access. -/
theorem mutates_of_writes (writes : view.Writes) : view.Mutates types where
  walks := by
    refine ⟨_, iterMut_eq_ok_iff.2 ⟨writes, rfl⟩, fun ends => ?_⟩
    rw [items_true]
    exact Cursor.walk_map _ _ _ ends
  get index := by
    obtain ⟨mutable, writable⟩ := writes
    rw [outcome_getMut, mutable, writable]
    split <;> rfl

/-- A view that may not be written through gives no mutable access. -/
theorem frozen_of_not_writes (not : ¬view.Writes) : view.Frozen types where
  walks _ given := not (iterMut_eq_ok_iff.1 given).1
  get _ _ given := not (getMut_eq_ok_iff.1 given).1

/-- A view of the parts of a value. -/
def ofParts (item : Ty) (category : Category) (writable : Bool) (access : Access)
    (content : Typed) : RangeView :=
  ⟨{ item, category, writable }, .held access content⟩

section Parts

variable {part : Part} {item : Ty} {category : Category} {writable : Bool} {access : Access}
  {content : Typed}

/-- The items of a view of parts are the parts. -/
theorem map_borrow_items (item : Ty) (category : Category) (writable : Bool) (access : Access)
    (content : Typed) :
    ((ofParts item category writable access content).items false).map
        (ofParts item category writable access content).target.borrow =
      content.value.parts.map fun part => .held .shared ⟨item, part⟩ := by
  refine List.ext_getElem? fun index => ?_
  simp only [ofParts, items, count, Any.read, Value.part?_nil, Option.getD_some,
    List.getElem?_map]
  by_cases inside : index < content.value.parts.length
  · simp [inside, Any.borrow, RangeView.item, Value.part?_cons, Part.access]
  · simp [inside]

/-- There are as many items in a view of parts as there are parts. -/
theorem count_ofParts (item : Ty) (category : Category) (writable : Bool) (access : Access)
    (content : Typed) :
    (ofParts item category writable access content).count = content.value.parts.length := by
  simp [ofParts, count, Any.read]

/-- The item at a position of a view of parts is the part there. -/
theorem borrow_item {index : Nat} (inside : index < content.value.parts.length) :
    (Any.held access content).borrow ((ofParts item category writable access content).item false
        index) = .held .shared ⟨item, content.value.parts[index]⟩ := by
  simp [Any.borrow, ofParts, RangeView.item, Value.part?_cons, Part.access, inside]

/-- A view of parts gives the parts. -/
theorem lists_parts :
    (ofParts item category writable access content).Lists types category
      (content.value.parts.map fun part => .held .shared ⟨item, part⟩) := by
  have parts := map_borrow_items item category writable access content
  have length := count_ofParts item category writable access content
  have both : (ofParts item category writable access content).shape.isBidirectional =
      (category != .forward) := rfl
  generalize view : ofParts item category writable access content = seen at *
  have walk : seen.iter = ⟨seen.items false, category != .forward⟩ := by rw [iter, both]
  constructor
  case walks =>
    intro past side rest
    rw [List.getElem?_map, Cursor.getElem?_walk, walk, Cursor.take_after, Option.map_some,
      ← Cursor.owed_map, parts]
  case once =>
    intro ends
    rw [← parts]
    have same := Cursor.perm_walk seen.iter ends
    rw [walk] at same ⊢
    exact same.map _
  case len =>
    rw [List.length_map, ← length, ← view]
    rfl
  case isEmpty =>
    rw [List.length_map, ← length, ← view]
    simp [isEmpty, len, ofParts]
  case front =>
    rw [front, Cursor.next_fst, walk, ← parts, List.head?_map, List.head?_eq_getElem?]
  case back =>
    rw [back, walk, ← parts]
    cases category with
    | forward => rfl
    | bidirectional => simp [Cursor.nextBack]
    | randomAccess => simp [Cursor.nextBack]
  case get =>
    rintro rfl index inside
    have bound : index < content.value.parts.length := by simpa using inside
    refine ⟨seen.item false index, ?_, ?_⟩
    · rw [outcome_get, length, if_pos bound, ← view]
      rfl
    · rw [List.getElem_map, ← view]
      exact borrow_item bound
  case outside =>
    rintro rfl index beyond
    have outside : ¬index < content.value.parts.length := by simpa using beyond
    refine ⟨.of (.indexOutOfRange index), ?_, rfl⟩
    rw [outcome_get, length, if_neg outside, ← view]
    rfl
  case unindexed =>
    intro other index
    have indexed : seen.shape.isRandomAccess = false := by
      rw [← view]
      exact beq_eq_false_iff_ne.2 other
    exact ⟨.of (.notRandomAccess (seen.target.typeName types)), by simp [outcome_get, indexed], rfl⟩

end Parts

end RangeView

/-! ### Built-in ranges -/

namespace Standard

/-- The built-in range types: what their items are, how they can be walked, and whether items may be
borrowed mutably. -/
inductive Ranged : Ty → Ty → Category → Bool → Prop where
  | vector (item : Ty) : Ranged (.vector item) item .randomAccess true
  | deque (item : Ty) : Ranged (.deque item) item .randomAccess true
  | array (item : Ty) (length : Nat) : Ranged (.array item length) item .randomAccess true
  | option (item : Ty) : Ranged (.option item) item .bidirectional true
  | orderedSet (item : Ty) : Ranged (.orderedSet item) item .bidirectional false
  | hashSet (item : Ty) : Ranged (.hashSet item) item .forward false

variable {type item : Ty} {category : Category} {writable : Bool}

/-- Built-in range types have a range shape of their parts. -/
theorem range_record (describe : String → Description)
    (ranged : Ranged type item category writable) :
    ((universeOf describe).record type).range = some { item, category, writable } := by
  cases ranged <;> rfl

/-- Range views neither lose nor repeat items. For every value of every built-in range type, over
any items, however it is held and whatever was registered: a view of it can be made, const or, if
the value is not const, mutable; and whatever calls are made on a walk from both ends, each is
answered with the item it is owed. The view gives the parts of the value and nothing else, by
walking, by position, at its front and back and in its length. Mutable walks and positions, which
there are for a mutable view of all ranges but sets, give the same parts. -/
theorem range_views_list_parts (describe : String → Description) (members : Ty → Members)
    (ranged : Ranged type item category writable) (value : Value) (access : Access)
    (const : Bool) (permitted : const = true ∨ access ≠ .shared) :
    let types : Types := ⟨universeOf describe, members⟩
    ∃ view, ((Any.held access ⟨type, value⟩).rangeView types const).outcome = .ok view ∧
      view.Lists types category (value.parts.map fun part => .held .shared ⟨item, part⟩) ∧
      (const = false ∧ writable = true → view.Mutates types) ∧
      (¬(const = false ∧ writable = true) → view.Frozen types) := by
  intro types
  have shaped := range_record describe ranged
  refine ⟨.ofParts item category writable (viewAccess const) ⟨type, value⟩,
    Any.rangeView_eq_ok_iff.2 ⟨permitted, _, shaped, rfl⟩, RangeView.lists_parts, ?_⟩
  have writes : (RangeView.ofParts item category writable (viewAccess const) ⟨type, value⟩).Writes ↔
      const = false ∧ writable = true := by
    cases const <;> simp [RangeView.Writes, RangeView.ofParts, viewAccess, Any.isConst]
  exact ⟨fun holds => RangeView.mutates_of_writes (writes.2 holds),
    fun not => RangeView.frozen_of_not_writes fun holds => not (writes.1 holds)⟩

/-- The two ends of a walk over three items meet in the middle, and mutable access reaches the same
items. -/
theorem deque_walks :
    let types : Types := ⟨universeOf fun key =>
      { record := { name := key, layout := ⟨0, 1⟩ }, content := .token }, fun _ => {}⟩
    let deque : Any := .held .owned
      ⟨.deque .i32, .compound [.integer 1, .integer 2, .integer 3]⟩
    let item := fun whole : Int => some (some (Any.held .shared ⟨.i32, .integer whole⟩))
    Ranged (.deque .i32) .i32 .randomAccess true ∧
      ∃ view, (deque.rangeView types false).outcome = .ok view ∧ view.Mutates types ∧
        let given := (view.iter.walk [.front, .back, .back, .front]).map
          (Option.map view.target.borrow)
        given[0]? = item 1 ∧ given[1]? = item 3 ∧ given[2]? = item 2 ∧ given[3]? = some none := by
  intro types deque item
  obtain ⟨view, made, lists, mutates, _⟩ := range_views_list_parts
    (fun key => { record := { name := key, layout := ⟨0, 1⟩ }, content := .token }) (fun _ => {})
    (.deque .i32) (.compound [.integer 1, .integer 2, .integer 3]) .owned false (.inr (by decide))
  exact ⟨.deque .i32, view, made, mutates ⟨rfl, rfl⟩, lists.walks [] .front [.back, .back, .front],
    lists.walks [.front] .back [.back, .front], lists.walks [.front, .back] .back [.front],
    lists.walks [.front, .back, .back] .front []⟩

end Standard

end Reflection
