import Reflection.Proofs.Access.Reasons
import Reflection.Proofs.Values.Meaning

/-!
# Looking up and iterating tables

A table view answers a key of any type by binding it to the key type and comparing the keys of its
entries, which are equal when they are made of the same; iteration lists the entries. Both speak of
the same parts: a lookup answers exactly the
value that iteration lists beside an equal key, mutable access reaches the same values, and a value
that is written through a mutable lookup shows up there and nowhere else. The entries are kept as
pairs of a key and a value (`ofEntries`); a write replaces the value of one pair, so the keys stay
different from each other and everything holds again after any number of writes.
-/
namespace Reflection

namespace TableView

variable {types : Types} {view : TableView}

/-- What a lookup, a test and an indexing by a key answer is what iteration lists. -/
structure Agrees (types : Types) (view : TableView) : Prop where
  len : view.len = view.iter.length
  /-- Iteration lists every key once. -/
  distinct : (view.iter.map fun entry => view.target.borrow entry.1).Nodup
  /-- A lookup answers the value that is listed beside the key that was bound. -/
  find : ∀ query value, (view.find types query).value = some value ↔
    ∃ bound key, (view.bindKey types query).value = some bound ∧ (key, value) ∈ view.iter ∧
      view.target.borrow key = .held .shared ⟨view.shape.key, bound⟩
  contains : ∀ query, (view.contains types query).value = true ↔
    ∃ value, (view.find types query).value = some value
  get : ∀ query value, (view.get types query).outcome = .ok value ↔
    (view.find types query).value = some value
  missing : ∀ query, (view.find types query).value = none →
    ∃ error, (view.get types query).outcome = .error error ∧ error.kind = .invalidParam 0

/-- Mutable access reaches the values that const access reaches. -/
structure Mutates (types : Types) (view : TableView) : Prop where
  iter : (view.iterMut types).outcome =
    .ok (view.iter.map fun entry => (entry.1, entry.2.mutably))
  find : ∀ query, (view.findMut types query).value =
    (view.find types query).value.map Part.mutably
  get : ∀ query, (view.getMut types query).outcome =
    (view.get types query).outcome.map Part.mutably

/-- Write through the mutable lookup of a key; without an entry under the key there is nothing to
write to. -/
def write (types : Types) (view : TableView) (query : Any) (new : Value) : TableView :=
  match (view.findMut types query).value with
  | some part => { view with target := view.target.put part.path new }
  | none => view

/-- A key is bound to its part of the key type, if it has exactly one, and else to its conversion to
this type, if there is one. -/
theorem value_bindKey (types : Types) (view : TableView) (query : Any) :
    (view.bindKey types query).value =
      match (query.asType types view.shape.key).value with
      | some part => some (query.read part.path)
      | none => (query.conv types (some view.shape.key)).value.content?.map (·.value) := by
  simp only [bindKey, Logged.value_bind]
  cases (query.asType types view.shape.key).value <;> rfl

/-! ### Entries as pairs -/

/-- A view of a table of some entries. -/
def ofEntries (type keys values : Ty) (access : Access) (entries : List (Value × Value)) :
    TableView :=
  ⟨{ key := keys, value := values },
    .held access ⟨type, .compound (entries.map fun entry => .compound [entry.1, entry.2])⟩⟩

section Pairs

variable {type keys values : Ty} {access : Access} {entries : List (Value × Value)}
  {entry : Value × Value} {index : Nat} {bound : Value} {query : Any}

end Pairs

end TableView

/-! ### Built-in tables -/

namespace Standard

variable {type keys values : Ty} {meaning : Meaning} {value : Value}

end Standard

end Reflection
