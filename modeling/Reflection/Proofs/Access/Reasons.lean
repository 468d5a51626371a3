import Reflection.Proofs.Access.Walks

/-!
# Why mutable access fails

A caller of a mutable accessor has to tell what cannot be written from what is not there. What
const access finds, mutable access should give too, or else say that the value is const; that
nothing is there it should say only where const access says so. What each view answers has a closed
form. Tuples keep to this; ranges do unless they refuse to lend an item mutably; tables look under
the key and say that it is missing, for whichever reason they could not lend its value.
-/
namespace Reflection

/-- Mutable access tells what cannot be written from what is not there, beside const access to the
same thing in the same view. -/
structure Discerns (const writable : Bool) (read write : Except Error Part) : Prop where
  /-- What is found in a const value is refused for its being const. -/
  refuses : const = true → ∀ part, read = .ok part →
    ∃ error, write = .error error ∧ error.kind = .invalidQualifier
  /-- What is found in any other value is given mutably, if its type allows it. -/
  gives : const = false → writable = true → ∀ part, read = .ok part → write = .ok part.mutably
  /-- Nothing is said to be absent unless const access says the same. -/
  misses : ∀ error, write = .error error → error.kind = .invalidParam 0 → read = .error error

namespace Discerns

variable {const writable : Bool} {read write : Except Error Part} {part : Part} {error : Error}

/-- What const access finds is not said to be absent. -/
theorem kind_ne (discerns : Discerns const writable read write) (found : read = .ok part)
    (refused : write = .error error) : error.kind ≠ .invalidParam 0 := by
  intro absent
  have missed := discerns.misses error refused absent
  rw [found] at missed
  contradiction

/-- Access that gives what const access finds, mutably, and fails as it fails. -/
theorem of_mutably (mutable : const = false) (same : write = read.map Part.mutably) :
    Discerns const writable read write where
  refuses isConst := by
    rw [mutable] at isConst
    contradiction
  gives _ _ part found := by rw [same, found]; rfl
  misses error refused _ := by
    cases read with
    | ok part =>
      rw [same] at refused
      contradiction
    | error reason =>
      rw [same] at refused
      exact refused

/-- Access that is refused for the value being const. -/
theorem of_const (isConst : const = true) (refused : write = .error error)
    (kind : error.kind = .invalidQualifier) : Discerns const writable read write where
  refuses _ _ _ := ⟨error, refused, kind⟩
  gives mutable := by
    rw [isConst] at mutable
    contradiction
  misses reason given absent := by
    obtain rfl : error = reason := Except.error.inj (refused.symm.trans given)
    rw [kind] at absent
    contradiction

/-- Access that fails as const access fails. -/
theorem of_error (missing : read = .error error) (refused : write = .error error) :
    Discerns const writable read write where
  refuses _ part found := by
    rw [missing] at found
    contradiction
  gives _ _ part found := by
    rw [missing] at found
    contradiction
  misses reason given _ := by rw [missing, ← refused, given]

/-- Access that says that nothing is there discerns exactly if nothing is there. -/
theorem iff_of_absent (refused : write = .error error) (absent : error.kind = .invalidParam 0)
    (missing : (¬∃ part, read = .ok part) → read = .error error) :
    Discerns const writable read write ↔ ¬∃ part, read = .ok part := by
  constructor
  · rintro discerns ⟨part, found⟩
    exact discerns.kind_ne found refused absent
  · exact fun nothing => .of_error (missing nothing) refused

end Discerns

namespace TupleView

variable (types : Types) (view : TupleView) (index : Nat)

/-- What mutable access to a field answers. -/
theorem outcome_getMut :
    (view.getMut types index).outcome =
      if view.target.isConst && (view.fields[index]?).isSome then
        .error (.of (.constView .tuple (view.target.typeName types)))
      else (view.get index).outcome.map Part.mutably := by
  unfold getMut get
  cases view.fields[index]? with
  | none => simp [Except.map]
  | some field =>
    cases view.target.isConst with
    | true => simp
    | false => simp [Except.map, Part.mutably]

/-- Mutable access to fields discerns. -/
theorem discerns :
    Discerns view.target.isConst true (view.get index).outcome (view.getMut types index).outcome := by
  rw [outcome_getMut]
  cases view.target.isConst with
  | false => exact .of_mutably rfl rfl
  | true =>
    cases field : view.fields[index]? with
    | none =>
      have missing : (view.get index).outcome = .error (.of (.fieldOutOfRange index)) := by
        rw [get, field]
        rfl
      rw [missing]
      exact .of_error rfl rfl
    | some found => exact .of_const rfl rfl rfl

end TupleView

namespace RangeView

variable (types : Types) (view : RangeView) (index : Nat)

/-- Mutable indexing discerns except where an item is found that a range does not lend mutably. -/
theorem discerns_iff :
    Discerns view.target.isConst view.shape.writable (view.get types index).outcome
        (view.getMut types index).outcome ↔
      ((∃ part, (view.get types index).outcome = .ok part) →
        view.target.isConst = true ∨ view.shape.writable = true) := by
  have answer := outcome_getMut types view index
  cases indexed : view.shape.isRandomAccess with
  | false =>
    have missing : (view.get types index).outcome =
        .error (.of (.notRandomAccess (view.target.typeName types))) := by
      rw [outcome_get, indexed]
      rfl
    simp only [indexed, missing] at answer
    rw [missing]
    exact ⟨fun _ ⟨_, found⟩ => (by contradiction), fun _ => .of_error rfl answer⟩
  | true =>
    cases const : view.target.isConst with
    | true =>
      simp only [indexed, const, if_true] at answer
      exact ⟨fun _ _ => .inl rfl, fun _ => .of_const rfl answer rfl⟩
    | false =>
      cases writable : view.shape.writable with
      | true =>
        simp only [indexed, const, writable, if_true, Bool.false_eq_true, if_false] at answer
        exact ⟨fun _ _ => .inr rfl, fun _ => .of_mutably rfl answer⟩
      | false =>
        simp only [indexed, const, writable, if_true, Bool.false_eq_true, if_false] at answer
        refine (Discerns.iff_of_absent answer rfl fun nothing => ?_).trans (by simp)
        have outside : ¬index < view.count := fun inside =>
          nothing ⟨_, by rw [outcome_get, if_pos indexed, if_pos inside]⟩
        rw [outcome_get, if_pos indexed, if_neg outside]

end RangeView

namespace TableView

variable (types : Types) (view : TableView) (key : Any)

/-- What a lookup answers. -/
theorem outcome_get :
    (view.get types key).outcome =
      match (view.find types key).value with
      | some part => .ok part
      | none => .error (.of (view.missingKey types key)) := by
  unfold TableView.get
  cases found : (view.find types key).value <;> simp [found, Except.bind]

/-- What a mutable lookup finds: what a lookup finds, if values can be lent mutably. -/
theorem value_findMut_eq_map :
    (view.findMut types key).value =
      if !view.target.isConst && view.shape.writable then
        (view.find types key).value.map Part.mutably
      else none := by
  have mutably : Part.mutably ∘ view.valuePart false = view.valuePart true := rfl
  rw [value_find, value_findMut, Option.map_map, mutably]
  cases view.target.isConst <;> cases view.shape.writable <;> rfl

/-- What a mutable lookup answers: the value under the key, if it can be lent, and for whatever
reason it cannot, that the key is missing. -/
theorem outcome_getMut :
    (view.getMut types key).outcome =
      if !view.target.isConst && view.shape.writable then
        (view.get types key).outcome.map Part.mutably
      else .error (.of (view.missingKey types key)) := by
  have answer : (view.getMut types key).outcome =
      match (view.findMut types key).value with
      | some part => .ok part
      | none => .error (.of (view.missingKey types key)) := by
    unfold TableView.getMut
    cases found : (view.findMut types key).value <;> simp [found, Except.bind]
  rw [answer, value_findMut_eq_map, outcome_get]
  cases !view.target.isConst && view.shape.writable with
  | true => cases (view.find types key).value <;> rfl
  | false => rfl

/-- A mutable lookup discerns except where a key is found whose value cannot be lent mutably. -/
theorem discerns_iff :
    Discerns view.target.isConst view.shape.writable (view.get types key).outcome
        (view.getMut types key).outcome ↔
      ((∃ part, (view.get types key).outcome = .ok part) →
        view.target.isConst = false ∧ view.shape.writable = true) := by
  have answer := outcome_getMut types view key
  by_cases lent : view.target.isConst = false ∧ view.shape.writable = true
  · obtain ⟨mutable, writable⟩ := lent
    simp only [mutable, writable, Bool.not_false, Bool.and_self, if_true] at answer
    rw [mutable, writable]
    exact ⟨fun _ _ => ⟨rfl, rfl⟩, fun _ => .of_mutably rfl answer⟩
  · have refused : (view.getMut types key).outcome = .error (.of (view.missingKey types key)) := by
      rw [answer, if_neg (by simpa using lent)]
    refine (Discerns.iff_of_absent refused rfl fun nothing => ?_).trans
      ⟨fun nothing found => absurd found nothing, fun allowed found => lent (allowed found)⟩
    have missing : (view.find types key).value = none :=
      Option.eq_none_iff_forall_ne_some.2 fun part found => nothing ⟨part, get_eq_ok_iff.2 found⟩
    rw [outcome_get, missing]

end TableView

/-- Where mutable accessors tell what cannot be written from what is not there. For every view,
const or mutable, of every value, whatever is registered: field access of tuples always does;
indexing of ranges does exactly if an item that is there is const or lent mutably by its type; and
lookup in tables exactly if the value of a key that is there can be written. In tables, a value
that cannot be written is always reported as a missing key, with the text for a key that is not
there. -/
theorem mutable_accessors_discern_iff (types : Types) :
    (∀ (view : TupleView) (index : Nat),
      Discerns view.target.isConst true (view.get index).outcome
        (view.getMut types index).outcome) ∧
    (∀ (view : RangeView) (index : Nat),
      Discerns view.target.isConst view.shape.writable (view.get types index).outcome
          (view.getMut types index).outcome ↔
        ((∃ part, (view.get types index).outcome = .ok part) →
          view.target.isConst = true ∨ view.shape.writable = true)) ∧
    ∀ (view : TableView) (key : Any),
      (Discerns view.target.isConst view.shape.writable (view.get types key).outcome
          (view.getMut types key).outcome ↔
        ((∃ part, (view.get types key).outcome = .ok part) →
          view.target.isConst = false ∧ view.shape.writable = true)) ∧
      (view.getMut types key).outcome =
        if !view.target.isConst && view.shape.writable then
          (view.get types key).outcome.map Part.mutably
        else .error (.of (view.missingKey types key)) :=
  ⟨fun view index => view.discerns types index,
    fun view index => view.discerns_iff types index,
    fun view key => ⟨view.discerns_iff types key, view.outcome_getMut types key⟩⟩

/-- A const view of a table finds a key and mutable access to it says that the key is missing. -/
theorem constLedger_blames_key :
    let types : Types := ⟨Standard.universeOf fun key =>
      { record := { name := key, layout := ⟨0, 1⟩ }, content := .token }, fun _ => {}⟩
    let ledger : Any := .held .owned
      ⟨.orderedMap .u8 .i32, .compound [.compound [.integer 1, .integer 10]]⟩
    let key : Any := .new ⟨.u8, .integer 1⟩
    ∃ view, (ledger.tableView types true).outcome = .ok view ∧
      view.target.isConst = true ∧ view.shape.writable = true ∧
      (view.get types key).outcome = .ok (view.valuePart false 0) ∧
      (view.getMut types key).outcome =
        .error (.of (.keyNotFound "1" "BTreeMap<u8, i32>")) ∧
      ¬Discerns view.target.isConst view.shape.writable (view.get types key).outcome
        (view.getMut types key).outcome := by
  intro types ledger key
  have found : (TableView.get types ⟨{ key := .u8, value := .i32 }, ledger.asRef⟩ key).outcome =
      .ok ⟨[0, 1], .i32, false⟩ := rfl
  have refused :
      (TableView.getMut types ⟨{ key := .u8, value := .i32 }, ledger.asRef⟩ key).outcome =
        .error (.of (.keyNotFound "1" "BTreeMap<u8, i32>")) := by rfl
  refine ⟨_, rfl, rfl, rfl, found, refused, fun discerns => ?_⟩
  exact absurd rfl (discerns.kind_ne found refused)

end Reflection
