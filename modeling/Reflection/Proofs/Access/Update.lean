import Reflection.Proofs.Access.Const
import Reflection.Session

/-!
# A write changes what it names and nothing else

What a selector finds in a value depends on its type, on how many items and entries there are and
on the keys of the entries. A replacement inside what was found touches none of these, so the chain
that led there leads there again, and so does the chain of the const accessors that look for the
same. From this a write through a chain of mutable accessors is a lawful update: it is read back,
whatever lies beside it stays, and the containers on the way keep their length, keys and order.
-/
namespace Reflection

/-! ### What selectors depend on -/

namespace RangeView

variable {view other : RangeView} {selector : Selector} {path : Path} {type : Ty}

/-- What is found among items lies one step below the place of the items and is of their type. -/
theorem exists_of_selected (found : view.selected selector = some (path, type)) :
    ∃ index, path = view.shape.place ++ [index] ∧ type = view.shape.item := by
  cases selector with
  | item index | walked index =>
    simp only [selected, Option.ite_none_right_eq_some, Option.some.injEq, Prod.mk.injEq] at found
    exact ⟨index, found.2.1.symm, found.2.2.symm⟩
  | visited ends =>
    obtain ⟨part, given, same⟩ := Option.map_eq_some_iff.1 found
    obtain ⟨index, _, rfl⟩ := List.mem_map.1 (Cursor.mem_of_visit given)
    obtain ⟨lies, typed⟩ := Prod.mk.inj same
    exact ⟨index, lies.symm, typed.symm⟩
  | _ => contradiction

/-- What is found among items depends on the shape and the number of items. -/
theorem selected_congr (shapes : other.shape = view.shape) (counts : other.count = view.count) :
    other.selected selector = view.selected selector := by
  have items : other.items false = view.items false := by
    simp [RangeView.items, item, shapes, counts]
  unfold selected iter
  rw [shapes, counts, items]

end RangeView

namespace TableView

variable {types : Types} {view other : TableView} {selector : Selector} {path : Path} {type : Ty}

/-- The keys of the entries as they are stored, in order. -/
def keys (view : TableView) : List (Option Value) := view.stored.map (·.part? [0])

/-- What is found among entries by key or position is a key or a value, and of the type of these. -/
theorem exists_of_selected (found : view.selected types selector = some (path, type)) :
    ∃ index,
      ((∃ position, selector = .entryKey position) ∧ path = view.shape.place ++ [index, 0] ∧
          type = view.shape.key) ∨
        (path = view.shape.place ++ [index, 1] ∧ type = view.shape.value) := by
  cases selector with
  | keyed key =>
    obtain ⟨index, _, same⟩ := Option.map_eq_some_iff.1 found
    obtain ⟨lies, typed⟩ := Prod.mk.inj same
    exact ⟨index, .inr ⟨lies.symm, typed.symm⟩⟩
  | entryKey index =>
    simp only [selected, Option.ite_none_right_eq_some, Option.some.injEq, Prod.mk.injEq] at found
    exact ⟨index, .inl ⟨⟨index, rfl⟩, found.2.1.symm, found.2.2.symm⟩⟩
  | entryValue index =>
    simp only [selected, Option.ite_none_right_eq_some, Option.some.injEq, Prod.mk.injEq] at found
    exact ⟨index, .inr ⟨found.2.1.symm, found.2.2.symm⟩⟩
  | _ => contradiction

/-- An entry is found by comparing the keys alone. -/
theorem position?_eq (key : Value) :
    view.position? key = view.keys.findIdx? (· = some key) := by
  simp only [position?, keys, List.findIdx?_map]
  rfl

/-- What is found among entries by position depends on the shape and the number of entries. -/
theorem selected_congr_len (shapes : other.shape = view.shape) (lens : other.len = view.len)
    (positioned : ∀ key, selector ≠ .keyed key) :
    other.selected types selector = view.selected types selector := by
  cases selector with
  | keyed key => exact absurd rfl (positioned key)
  | _ => simp only [selected, shapes, lens]

/-- What is found among entries depends on the shape and the keys. -/
theorem selected_congr_keys (shapes : other.shape = view.shape) (keys : other.keys = view.keys) :
    other.selected types selector = view.selected types selector := by
  have lens : other.len = view.len := by
    have lengths := congrArg List.length keys
    simpa [TableView.keys, len] using lengths
  cases selector with
  | keyed key =>
    have bound : other.bound? types key = view.bound? types key := by
      unfold bound? bindKey
      rw [shapes]
      congr 1
      funext value
      rw [position?_eq, position?_eq, keys]
    simp only [selected, shapes, bound]
  | _ => simp only [selected, shapes, lens]

end TableView

/-! ### Replacements -/

namespace Typed

variable {types : Types} {content : Typed} {selector : Selector} {path place : Path} {type : Ty}

/-- A value with another part at a path. -/
def put (content : Typed) (path : Path) (new : Value) : Typed :=
  ⟨content.type, content.value.replace path new⟩

/-- What is stored one step below a place. -/
def stored (content : Typed) (place : Path) : List Value :=
  ((content.value.part? place).getD .unit).parts

/-- A replacement below a place changes one of the things stored there. -/
theorem stored_put {index : Nat} {beyond : Path} {part : Value}
    (reached : content.value.part? (place ++ index :: beyond) = some part) (rest : Path)
    (new : Value) :
    ∃ entry, (content.stored place)[index]? = some entry ∧
      (content.put (place ++ index :: rest) new).stored place =
        (content.stored place).set index (entry.replace rest new) := by
  rw [Value.part?_append] at reached
  cases whole : content.value.part? place with
  | none => simp [whole] at reached
  | some sequence =>
    rw [whole, Option.bind_some, Value.part?_cons] at reached
    cases step : sequence.parts[index]? with
    | none => simp [step] at reached
    | some entry =>
      refine ⟨entry, by simpa [stored, whole] using step, ?_⟩
      simp [stored, put, whole, Value.part?_replace_below whole, Value.replace_cons step]

/-- A replacement inside an item keeps the number of items. -/
theorem count_put {shape : RangeShape} {index : Nat} {beyond : Path} {part : Value}
    (reached : content.value.part? (shape.place ++ index :: beyond) = some part) (rest : Path)
    (new : Value) :
    ((content.put (shape.place ++ index :: rest) new).rangeView shape).count =
      (content.rangeView shape).count := by
  obtain ⟨entry, _, changed⟩ := stored_put reached rest new
  show ((content.put (shape.place ++ index :: rest) new).stored shape.place).length = _
  rw [changed, List.length_set]
  rfl

/-- A replacement inside an entry keeps the number of entries. -/
theorem len_put {shape : TableShape} {index : Nat} {beyond : Path} {part : Value}
    (reached : content.value.part? (shape.place ++ index :: beyond) = some part) (rest : Path)
    (new : Value) :
    ((content.put (shape.place ++ index :: rest) new).tableView shape).len =
      (content.tableView shape).len := by
  obtain ⟨entry, _, changed⟩ := stored_put reached rest new
  show ((content.put (shape.place ++ index :: rest) new).stored shape.place).length = _
  rw [changed, List.length_set]
  rfl

/-- A replacement inside the value of an entry keeps all keys. -/
theorem keys_put {shape : TableShape} {index : Nat} {beyond : Path} {part : Value}
    (reached : content.value.part? (shape.place ++ index :: beyond) = some part) (rest : Path)
    (new : Value) :
    ((content.put (shape.place ++ index :: 1 :: rest) new).tableView shape).keys =
      (content.tableView shape).keys := by
  obtain ⟨entry, stands, changed⟩ := stored_put reached (1 :: rest) new
  have key : (entry.replace (1 :: rest) new).part? [0] = entry.part? [0] :=
    Value.part?_replace_apart new (by simp)
  show ((content.put (shape.place ++ index :: 1 :: rest) new).stored shape.place).map
    (·.part? [0]) = (content.stored shape.place).map (·.part? [0])
  obtain ⟨bound, rfl⟩ := List.getElem?_eq_some_iff.1 stands
  rw [changed, List.map_set, key, ← List.map_set, List.set_getElem_self]

/-- A replacement inside what a selector found leaves the selector to find the same. -/
theorem selected_put (found : content.selected types selector = some (path, type)) {part : Value}
    (reached : content.value.part? path = some part) (inner : Path) (new : Value) :
    (content.put (path ++ inner) new).selected types selector = some (path, type) := by
  cases selector with
  | whole | parent target | field index => exact found
  | item index | walked index | visited ends =>
    obtain ⟨shape, shaped, chosen⟩ := Option.bind_eq_some_iff.1 found
    obtain ⟨index, rfl, _⟩ := RangeView.exists_of_selected chosen
    have counts := count_put reached inner new
    rw [List.append_assoc, List.singleton_append]
    refine Option.bind_eq_some_iff.2 ⟨shape, shaped, Eq.trans ?_ chosen⟩
    exact RangeView.selected_congr rfl counts
  | keyed key =>
    obtain ⟨shape, shaped, chosen⟩ := Option.bind_eq_some_iff.1 found
    obtain ⟨index, ⟨⟨_, contrary⟩, _⟩ | ⟨rfl, _⟩⟩ := TableView.exists_of_selected chosen
    · contradiction
    · have keys := keys_put reached inner new
      rw [List.append_assoc]
      refine Option.bind_eq_some_iff.2 ⟨shape, shaped, Eq.trans ?_ chosen⟩
      exact TableView.selected_congr_keys rfl keys
  | entryKey position | entryValue position =>
    obtain ⟨shape, shaped, chosen⟩ := Option.bind_eq_some_iff.1 found
    obtain ⟨index, ⟨_, rfl, _⟩ | ⟨rfl, _⟩⟩ := TableView.exists_of_selected chosen
    · have lens := len_put reached (0 :: inner) new
      rw [List.append_assoc]
      refine Option.bind_eq_some_iff.2 ⟨shape, shaped, Eq.trans ?_ chosen⟩
      exact TableView.selected_congr_len rfl lens (by simp)
    · have lens := len_put reached (1 :: inner) new
      rw [List.append_assoc]
      refine Option.bind_eq_some_iff.2 ⟨shape, shaped, Eq.trans ?_ chosen⟩
      exact TableView.selected_congr_len rfl lens (by simp)

end Typed

/-- What a selector looks through keeps its type; a sequence keeps its items but one in their order,
a table its keys and its entries but one. -/
def Selector.Keeps (types : Types) (selector : Selector) (before after : Typed) : Prop :=
  after.type = before.type ∧
    match selector with
    | .whole | .parent _ | .field _ => True
    | .item _ | .walked _ | .visited _ =>
      ∀ shape, (types.record before.type).range = some shape →
        ∃ index item, after.stored shape.place = (before.stored shape.place).set index item
    | .keyed _ | .entryKey _ | .entryValue _ =>
      ∀ shape, (types.record before.type).table = some shape →
        (after.tableView shape).keys = (before.tableView shape).keys ∧
          ∃ index entry, after.stored shape.place = (before.stored shape.place).set index entry

/-- A replacement inside an item or a value that a selector found keeps what it looked through. -/
theorem Selector.keeps_put {types : Types} {content : Typed} {selector : Selector} {path : Path}
    {type : Ty} (found : content.selected types selector = some (path, type)) {part : Value}
    (reached : content.value.part? path = some part)
    (values : ∀ position, selector ≠ .entryKey position) (inner : Path) (new : Value) :
    selector.Keeps types content (content.put (path ++ inner) new) := by
  refine ⟨rfl, ?_⟩
  cases selector with
  | whole | parent target | field index => trivial
  | item index | walked index | visited ends =>
    intro shape shaped
    obtain ⟨_, same, chosen⟩ := Option.bind_eq_some_iff.1 found
    obtain rfl : shape = _ := Option.some.inj (shaped.symm.trans same)
    obtain ⟨index, rfl, _⟩ := RangeView.exists_of_selected chosen
    obtain ⟨entry, _, changed⟩ := Typed.stored_put reached inner new
    rw [List.append_assoc, List.singleton_append]
    exact ⟨index, _, changed⟩
  | entryKey position => exact absurd rfl (values position)
  | keyed key | entryValue position =>
    intro shape shaped
    obtain ⟨_, same, chosen⟩ := Option.bind_eq_some_iff.1 found
    obtain rfl : shape = _ := Option.some.inj (shaped.symm.trans same)
    obtain ⟨index, ⟨⟨_, contrary⟩, _⟩ | ⟨rfl, _⟩⟩ := TableView.exists_of_selected chosen
    · contradiction
    · obtain ⟨entry, _, changed⟩ := Typed.stored_put reached (1 :: inner) new
      rw [List.append_assoc]
      exact ⟨Typed.keys_put reached inner new, index, _, changed⟩

/-! ### Chains -/

namespace Accessor

/-- The const accessor that looks for the same, through a const view. -/
def toConst : Accessor → Accessor
  | .shared | .exclusive => .shared
  | .asType target | .asTypeMut target => .asType target
  | .field index _ | .fieldMut index _ => .field index
  | .item index _ | .itemMut index _ => .item index
  | .front _ => .front
  | .back _ => .back
  | .walk steps _ | .walkMut steps _ => .walk steps
  | .visit ends _ | .visitMut ends _ => .visit ends
  | .value key _ | .valueMut key _ => .value key
  | .find key _ | .findMut key _ => .find key
  | .entryKey index _ | .entryKeyMut index _ => .entryKey index
  | .entryValue index _ | .entryValueMut index _ => .entryValue index

/-- The const accessor looks for the same. -/
@[simp] theorem selector_toConst (accessor : Accessor) :
    accessor.toConst.selector = accessor.selector := by
  cases accessor <;> rfl

/-- The const accessor borrows const. -/
@[simp] theorem isMutable_toConst (accessor : Accessor) : accessor.toConst.isMutable = false := by
  cases accessor <;> rfl

/-- The const accessor may be applied however a value is held. -/
theorem permits_toConst (types : Types) (type : Ty) (access : Access) (accessor : Accessor) :
    accessor.toConst.Permits types type access := by
  cases accessor <;> simp [toConst, Permits, ViewPermits]

end Accessor

namespace Any

variable {types : Types} {access : Access} {content : Typed} {accessor : Accessor} {part : Part}

/-- A replacement inside what was borrowed leaves the accessor to borrow the same part. -/
theorem access_put (given : ((held access content).access types accessor).outcome = .ok (some part))
    {value : Value} (reached : content.value.part? part.path = some value) (inner : Path)
    (new : Value) :
    ((held access (content.put (part.path ++ inner) new)).access types accessor).outcome =
      .ok (some part) := by
  obtain ⟨permitted, found, flag⟩ := access_eq_some_iff.1 given
  exact access_eq_some_iff.2 ⟨permitted, Typed.selected_put found reached inner new, flag⟩

/-- The const accessor borrows the same part const, however the value is held. -/
theorem access_toConst
    (given : ((held access content).access types accessor).outcome = .ok (some part))
    (other : Access) :
    ((held other content).access types accessor.toConst).outcome =
      .ok (some ⟨part.path, part.type, false⟩) := by
  obtain ⟨_, found, _⟩ := access_eq_some_iff.1 given
  refine access_eq_some_iff.2 ⟨accessor.permits_toConst types content.type other, ?_, ?_⟩
  · rw [Accessor.selector_toConst]
    exact found
  · rw [Accessor.isMutable_toConst]
    rfl

end Any

namespace Place

variable {types : Types} {access last : Access} {content target : Typed} {base : Path}
  {accessor : Accessor} {route : List Accessor} {path : Path}

/-- A chain leads from nothing to nothing. -/
theorem follow_empty {place : Place}
    (reached : ((Place.mk .empty base).follow types route).outcome = .ok place) :
    place.any = .empty := by
  induction route generalizing base with
  | nil =>
    obtain rfl : Place.mk .empty base = place := by simpa [follow] using reached
    rfl
  | cons accessor rest ih =>
    obtain ⟨found, _, later⟩ := outcome_follow_cons.1 reached
    cases found with
    | none => exact ih later
    | some part => exact ih later

/-- A chain that leads to a value borrows a part first and goes on from there. -/
theorem follow_cons_iff :
    ((Place.mk (.held access content) base).follow types (accessor :: route)).outcome =
        .ok ⟨.held last target, path⟩ ↔
      ∃ part value,
        ((Any.held access content).access types accessor).outcome = .ok (some part) ∧
          content.value.part? part.path = some value ∧
          ((Place.mk (.held part.access ⟨part.type, value⟩) (base ++ part.path)).follow types
            route).outcome = .ok ⟨.held last target, path⟩ := by
  rw [outcome_follow_cons]
  constructor
  · rintro ⟨found, given, later⟩
    cases found with
    | none => exact absurd (follow_empty later) (by simp)
    | some part =>
      cases reached : content.value.part? part.path with
      | none =>
        have nothing : (Any.held access content).borrow part = .empty := by
          simp [Any.borrow, reached]
        simp only [enter, nothing] at later
        exact absurd (follow_empty later) (by simp)
      | some value =>
        simp only [enter, Any.borrow_eq reached] at later
        exact ⟨part, value, given, reached, later⟩
  · rintro ⟨part, value, given, reached, later⟩
    refine ⟨some part, given, ?_⟩
    simp only [enter, Any.borrow_eq reached]
    exact later

/-- A chain leads to a part of the value it starts from. After a replacement inside that part, the
chain leads there again. -/
theorem follow_put
    (reached : ((Place.mk (.held access content) base).follow types route).outcome =
      .ok ⟨.held last target, path⟩) :
    ∃ along, path = base ++ along ∧ content.value.part? along = some target.value ∧
      ∀ inner new,
        ((Place.mk (.held access (content.put (along ++ inner) new)) base).follow types
          route).outcome = .ok ⟨.held last (target.put inner new), path⟩ := by
  induction route generalizing access content base with
  | nil =>
    simp only [follow, Fallible.outcome_pure, Except.ok.injEq, Place.mk.injEq, Any.held.injEq]
      at reached
    obtain ⟨⟨rfl, rfl⟩, rfl⟩ := reached
    exact ⟨[], by simp, by simp, fun inner new => rfl⟩
  | cons accessor rest ih =>
    obtain ⟨part, value, given, within, later⟩ := follow_cons_iff.1 reached
    obtain ⟨along, rfl, inside, again⟩ := ih later
    refine ⟨part.path ++ along, by simp, ?_, fun inner new => ?_⟩
    · rw [Value.part?_append, within]
      exact inside
    · rw [List.append_assoc]
      exact follow_cons_iff.2 ⟨part, value.replace (along ++ inner) new,
        Any.access_put given within (along ++ inner) new,
        Value.part?_replace_below within (along ++ inner) new, again inner new⟩

/-- The chain of the const accessors leads to the same part. -/
theorem follow_toConst
    (reached : ((Place.mk (.held access content) base).follow types route).outcome =
      .ok ⟨.held last target, path⟩) (other : Access) :
    ∃ const, ((Place.mk (.held other content) base).follow types
      (route.map Accessor.toConst)).outcome = .ok ⟨.held const target, path⟩ := by
  induction route generalizing access content base other with
  | nil =>
    simp only [follow, Fallible.outcome_pure, Except.ok.injEq, Place.mk.injEq, Any.held.injEq]
      at reached
    obtain ⟨⟨rfl, rfl⟩, rfl⟩ := reached
    exact ⟨other, rfl⟩
  | cons accessor rest ih =>
    obtain ⟨part, value, given, within, later⟩ := follow_cons_iff.1 reached
    obtain ⟨const, again⟩ := ih later .shared
    exact ⟨const, follow_cons_iff.2 ⟨_, value, Any.access_toConst given other, within, again⟩⟩

/-- A chain may go on with const accessors from any point and still leads to the same part. -/
theorem follow_append_toConst {front back : List Accessor}
    (reached : ((Place.mk (.held access content) base).follow types (front ++ back)).outcome =
      .ok ⟨.held last target, path⟩) :
    ∃ const, ((Place.mk (.held access content) base).follow types
      (front ++ back.map Accessor.toConst)).outcome = .ok ⟨.held const target, path⟩ := by
  induction front generalizing access content base with
  | nil => exact follow_toConst reached access
  | cons accessor rest ih =>
    obtain ⟨part, value, given, within, later⟩ := follow_cons_iff.1 reached
    obtain ⟨const, again⟩ := ih later
    exact ⟨const, follow_cons_iff.2 ⟨part, value, given, within, again⟩⟩

end Place

/-! ### Writes -/

/-- Whatever an overload answers is an owned value. -/
theorem Overload.new_of_invoke {types : Types} {overload : Overload} {arguments after : List Any}
    {result : Any} (answered : (overload.invoke types arguments).outcome = .ok (result, after)) :
    ∃ content, result = .new content := by
  obtain ⟨receiver, values, _, _, _, _, same, _⟩ := invoke_eq_ok answered
  exact ⟨_, same⟩

namespace Any

variable {types : Types} {source destination written : Any} {type : Ty}

/-- The copy of a held value is an owned value. -/
theorem new_of_tryClone {access : Access} {content : Typed} {copy : Any}
    (copied : ((held access content).tryClone types).outcome = .ok copy) :
    ∃ content, copy = .new content := by
  simp only [tryClone] at copied
  split at copied
  · cases copied
    exact ⟨_, rfl⟩
  · split at copied
    · obtain ⟨⟨result, after⟩, answered, last⟩ := Fallible.outcome_bind_eq_ok_iff.1 copied
      cases last
      exact Overload.new_of_invoke answered
    · contradiction

/-- The value that a source brings to a place of some type: that of its copy if it is of this type,
and that of its conversion otherwise. -/
def Brings (types : Types) (source : Any) (type : Ty) (new : Value) : Prop :=
  if source.type? = some type then
    ∃ copy, (source.tryClone types).outcome = .ok copy ∧
      copy.content?.map (·.value) = some new
  else (source.conv types (some type)).value.content?.map (·.value) = some new

/-- What a write stores is what its source brings. -/
theorem brings_of_writeSource {stored : Any}
    (made : (writeSource types type source).outcome = .ok stored) :
    source.Brings types type (stored.read []) := by
  unfold writeSource at made
  unfold Brings
  split at made
  · rename_i same
    rw [if_pos same]
    cases source with
    | empty => contradiction
    | held access content =>
      obtain ⟨copy, rfl⟩ := new_of_tryClone made
      exact ⟨_, made, by simp [new, content?, read]⟩
  · rename_i different
    rw [if_neg different]
    rw [Fallible.outcome_bind_eq_ok_iff] at made
    obtain ⟨converted, answered, rest⟩ := made
    obtain rfl : (source.conv types (some type)).value = converted := by
      simpa using answered
    cases found : (source.conv types (some type)).value with
    | empty =>
      rw [found] at rest
      contradiction
    | held access content =>
      rw [found] at rest
      cases rest
      simp [content?, read]

/-- A write to a value that is not const first makes what it stores. -/
theorem write_of_ne_shared {access : Access} (writable : access ≠ .shared) (content : Typed) :
    (held access content).write types source =
      Acting.on (held access content) (do
        let stored ← Acting.attempt (writeSource types content.type source)
        set ((held access content).put [] (stored.read []))) := by
  cases access with
  | shared => contradiction
  | owned | exclusive => rfl

/-- A write succeeds only on a value that is not const, which keeps its type and gets what the
source brings. -/
theorem write_eq_ok (done : (destination.write types source).outcome = .ok ((), written)) :
    ∃ access old new, destination = held access old ∧ access ≠ .shared ∧
      written = held access ⟨old.type, new⟩ ∧ source.Brings types old.type new := by
  cases destination with
  | empty => contradiction
  | held access old =>
    have writable : access ≠ .shared := by
      rintro rfl
      contradiction
    rw [write_of_ne_shared writable, Acting.attempt_bind_eq_ok_iff] at done
    obtain ⟨stored, made, last⟩ := done
    cases last
    exact ⟨access, old, stored.read [], rfl, writable, by simp [put], brings_of_writeSource made⟩

end Any

namespace Slots

/-- The part at a path of the value that a slot holds. -/
def part? (slots : Slots) (slot : String) (path : Path) : Option Value :=
  (slots.holding slot).content?.bind (·.value.part? path)

/-- What a write of a value to a location leaves behind. -/
structure Updated (types : Types) (before after : Slots) (location : Location) (type : Ty)
    (path : Path) (new : Value) : Prop where
  /-- The chain leads to the new value, and it may go on with const accessors from any point. -/
  readBack : ∀ front back, location.route = front ++ back →
    ∃ access, (after.locate types ⟨location.slot, front ++ back.map Accessor.toConst⟩).outcome =
      .ok ⟨.held access ⟨type, new⟩, path⟩
  /-- Every part that neither contains the written one nor lies inside it is as it was. -/
  beside : ∀ other, ¬path <+: other → ¬other <+: path →
    after.part? location.slot other = before.part? location.slot other
  /-- Every container on the way is where it was and keeps its length, keys and order. -/
  containers : ∀ front accessor back, location.route = front ++ accessor :: back →
    ∃ access old new way,
      (before.locate types ⟨location.slot, front⟩).outcome = .ok ⟨.held access old, way⟩ ∧
        (after.locate types ⟨location.slot, front⟩).outcome = .ok ⟨.held access new, way⟩ ∧
        accessor.selector.Keeps types old new
  /-- Every other slot is as it was. -/
  others : ∀ slot, slot ≠ location.slot → after.find? slot = before.find? slot

variable {types : Types} {slots after : Slots} {location : Location}

/-- A slot holds what was put into it. -/
theorem holding_keep (slots : Slots) (name : String) (any : Any) :
    (slots.keep name any).holding name = any := by
  simp [holding, keep]

/-- A location that leads to a value starts from one. -/
theorem held_of_located {place : Place}
    (reached : (slots.locate types location).outcome = .ok place) (found : place.any ≠ .empty) :
    ∃ access root, slots.holding location.slot = .held access root := by
  cases start : slots.holding location.slot with
  | empty =>
    simp only [locate, start, Place.root] at reached
    exact absurd (Place.follow_empty reached) found
  | held access root => exact ⟨access, root, rfl⟩

/-- Replacing the value at a place that is not const is a lawful update. -/
theorem updated_of_put {access : Access} {old : Typed} {path : Path}
    (reached : (slots.locate types location).outcome = .ok ⟨.held access old, path⟩)
    (writable : access ≠ .shared) (new : Value) :
    slots.Updated types
      (slots.keep location.slot ((slots.holding location.slot).put path new)) location old.type
      path new := by
  have mutable : ∀ accessor ∈ location.route, accessor.isMutable = true :=
    (Place.hasDataMut_of_follow reached (by simp [writable])).2
  obtain ⟨rootAccess, root, start⟩ := held_of_located reached (by simp)
  have changed : (slots.holding location.slot).put path new =
      .held rootAccess (root.put path new) := by
    rw [start]
    rfl
  rw [changed]
  simp only [locate, start, Place.root] at reached
  constructor
  case readBack =>
    intro front back split
    obtain ⟨along, rfl, _, again⟩ := Place.follow_put reached
    have whole := again [] new
    rw [List.append_nil, split] at whole
    simp only [locate, holding_keep, Place.root]
    simpa [Typed.put] using Place.follow_append_toConst whole
  case beside =>
    intro other outside apart
    simp only [part?, holding_keep, start, Any.content?, Option.bind_some]
    exact Value.part?_replace_apart new ⟨outside, apart⟩
  case containers =>
    intro front accessor back split
    rw [split] at reached
    obtain ⟨⟨any, way⟩, first, second⟩ := Place.outcome_follow_append.1 reached
    cases any with
    | empty => exact absurd (Place.follow_empty second) (by simp)
    | held containerAccess container =>
      obtain ⟨part, value, given, within, later⟩ := Place.follow_cons_iff.1 second
      obtain ⟨_, rfl, _, again⟩ := Place.follow_put first
      obtain ⟨rest, rfl, _, _⟩ := Place.follow_put later
      refine ⟨containerAccess, container, container.put (part.path ++ rest) new, way, ?_, ?_, ?_⟩
      · simpa [locate, start, Place.root] using first
      · simpa [locate, holding_keep, Place.root] using again (part.path ++ rest) new
      · refine Selector.keeps_put (Any.access_eq_some_iff.1 given).2.1 within ?_ rest new
        intro position keys
        have writes := mutable accessor (by simp [split])
        cases accessor <;> simp at keys writes
  case others =>
    intro slot different
    exact Dictionary.find?_insert_of_ne _ _ (Ne.symm different)

end Slots

namespace Session

variable {session : Session} {location : Location} {source : Operand}

/-- A write leaves the slots as the write at the location in them does, and everything else alone.
-/
theorem value_write (session : Session) (location : Location) (source : Operand) :
    (session.write location source).value =
      ((session.slots.write session.types location source).value.1,
        session.setSlots (session.slots.write session.types location source).left) := rfl

/-- A write that fails leaves the session as it was: it stores nothing before it has all it
stores. -/
theorem left_write_of_error {error : Error}
    (failed : (session.write location source).value.1 = .error error) :
    (session.write location source).value.2 = session := by
  have kept := session.slots.atomic_write session.types location source error failed
  rw [value_write, kept]
  rfl

/-- A write is a lawful update. It acts on the slots; if it fails, they are left as they were, and
so is everything else, and the same holds of the memory that is written through
(`Machine.Sound.answers_write`). If it succeeds, it led from a value that may be written to one, by
mutable accessors only; what is there now is the copy of the source, if the source is of the type
that is there, and the conversion of the source to this type otherwise; it is read back along the
same chain by its own or by the const accessors; every part beside it is as it was; the containers
on the way keep their length, keys and order; and no other slot, no type, no database, no module and
no config registry changes. -/
theorem write_lawful (session : Session) (location : Location) (source : Operand) :
    (∀ error, (session.write location source).value.1 = .error error →
        (session.write location source).value.2 = session) ∧
      ∀ written, (session.write location source).value.1 = .ok written →
        ∃ any access old new path,
          (session.slots.operand session.types source).outcome = .ok any ∧
            (session.slots.locate session.types location).outcome =
              .ok ⟨.held access old, path⟩ ∧
            (session.slots.holding location.slot).hasDataMut = true ∧
            (∀ accessor ∈ location.route, accessor.isMutable = true) ∧
            written = .held access ⟨old.type, new⟩ ∧ any.Brings session.types old.type new ∧
            session.slots.Updated session.types (session.write location source).value.2.slots
              location old.type path new ∧
            (session.write location source).value.2.store = session.store ∧
            (session.write location source).value.2.modules = session.modules ∧
            (session.write location source).value.2.configs = session.configs := by
  refine ⟨fun error failed => left_write_of_error failed, fun written answered => ?_⟩
  have done : (session.slots.write session.types location source).outcome =
      .ok (written, (session.slots.write session.types location source).left) :=
    Acted.outcome_eq_ok_iff.2 (Prod.ext answered rfl)
  obtain ⟨place, reached, found⟩ := Acting.attempt_bind_eq_ok_iff.1 done
  obtain ⟨any, read, stored⟩ := Acting.attempt_bind_eq_ok_iff.1 found
  obtain ⟨⟨_, changed⟩, wrote, last⟩ := Acting.within_bind_eq_ok_iff.1 stored
  obtain ⟨access, old, new, held, writable, rfl, brings⟩ := Any.write_eq_ok wrote
  obtain ⟨held_any, path⟩ := place
  cases held
  obtain ⟨rfl, left⟩ := Prod.mk.inj (Except.ok.inj last)
  have closed := Place.hasDataMut_of_follow reached (by simp [writable])
  refine ⟨any, access, old, new, path, read, reached, closed.1, closed.2, rfl, brings, ?_,
    rfl, rfl, rfl⟩
  rw [value_write]
  show session.slots.Updated session.types
    (session.slots.write session.types location source).left location old.type path new
  rw [← left]
  exact Slots.updated_of_put reached writable new

/-- The second item of an owned list takes the conversion of a wider number. -/
example :
    let list := fun items : List Int => Any.new ⟨.vector .i8, .compound (items.map .integer)⟩
    let session : Session :=
      { store := ⟨Slots.tokenTypes, .empty⟩, slots := .keep .empty "list" (list [1, 2, 3]) }
    ((session.write ⟨"list", [.itemMut 1 false]⟩
      (.value (.new ⟨.i32, .integer 300⟩))).value.2.slots.holding "list") = list [1, 44, 3] := rfl

end Session

end Reflection
