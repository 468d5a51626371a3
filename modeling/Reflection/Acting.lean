import Reflection.Logged

/-!
# Computations on a state

What is borrowed mutably may be changed before a computation fails, and what was changed by then
stays changed. `Acting` is a computation on a state that may fail; `Acted` is what became of one:
its answer or its error, beside the state as it was left. That a failure leaves the state as it was
is therefore nothing that holds of itself but a property of a computation (`Acted.Atomic`), which
each part of a sequence has to keep.
-/
namespace Reflection

/-- A computation that takes notes, may fail, and acts on a state. -/
abbrev Acting (σ ε α : Type) := ExceptT ε (StateT σ Logged) α

/-- What a computation on a state answers, or its error, and the state it leaves behind. -/
abbrev Acted (σ ε α : Type) := Logged (Except ε α × σ)

variable {σ ε α β : Type}

namespace Acting

/-- Carry out a computation on a state. -/
def on (state : σ) (acting : Acting σ ε α) : Acted σ ε α := acting.run.run state

/-- A computation that leaves the state alone. -/
def attempt (attempt : Fallible ε α) : Acting σ ε α :=
  ExceptT.mk fun state => do pure (← attempt.run, state)

/-- A computation on a part of the state: what it leaves of the part is put back, whether or not it
fails. -/
def within {τ : Type} (putBack : τ → σ) (acted : Acted τ ε α) : Acting σ ε (α × τ) :=
  ExceptT.mk fun _ => do
    let (answer, part) ← acted
    pure (answer.map fun answer => (answer, part), putBack part)

end Acting

namespace Acted

/-- What was answered, together with the state. -/
def outcome (acted : Acted σ ε α) : Except ε (α × σ) :=
  acted.value.1.map fun answer => (answer, acted.value.2)

/-- The state that is left behind, whether or not there is an answer. -/
def left (acted : Acted σ ε α) : σ := acted.value.2

/-- The answer together with the state; with an error the state is given up. -/
def forget (acted : Acted σ ε α) : Fallible ε (α × σ) :=
  ExceptT.mk do
    let (answer, state) ← acted
    pure (answer.map fun answer => (answer, state))

instance : Coe (Acted σ ε α) (Fallible ε (α × σ)) := ⟨forget⟩

/-- What was done, whatever it answered. -/
def settled (acted : Acted σ ε α) : Logged (Except ε Unit × σ) := do
  let (answer, state) ← acted
  pure (answer.map fun _ => (), state)

/-- Whether a failure left the state as it was. -/
def Atomic (before : σ) (acted : Acted σ ε α) : Prop :=
  ∀ error, acted.value.1 = .error error → acted.left = before

variable {acted : Acted σ ε α} {answer : α} {state before : σ} {error : ε}

/-- What is answered together with the state is the answer and the state. -/
theorem outcome_eq_ok_iff :
    acted.outcome = .ok (answer, state) ↔ acted.value = (.ok answer, state) := by
  obtain ⟨⟨given, left⟩, notes⟩ := acted
  cases given <;> simp [outcome, Except.map]

/-- An error is answered exactly if there is one beside the state. -/
theorem outcome_eq_error_iff : acted.outcome = .error error ↔ acted.value.1 = .error error := by
  obtain ⟨⟨given, left⟩, notes⟩ := acted
  cases given <;> simp [outcome, Except.map]

/-- What fails does not answer. -/
theorem not_ok_of_fails {result : α × σ} (fails : ∃ error, acted.outcome = .error error) :
    acted.outcome ≠ .ok result := by
  obtain ⟨error, failed⟩ := fails
  rw [failed]
  simp

/-- What fails atomically leaves its error and the state as it was. -/
theorem Atomic.value_eq (atomic : acted.Atomic before) (failed : acted.outcome = .error error) :
    acted.value = (.error error, before) := by
  have answered := outcome_eq_error_iff.1 failed
  exact Prod.ext answered (atomic error answered)

/-- What fails atomically leaves the state as it was, or there is an answer beside what is left. -/
theorem Atomic.left_cases (atomic : acted.Atomic before) :
    acted.left = before ∨ ∃ answer, acted.outcome = .ok (answer, acted.left) := by
  cases given : acted.value.1 with
  | error error => exact .inl (atomic error given)
  | ok answer => exact .inr ⟨answer, outcome_eq_ok_iff.2 (Prod.ext given rfl)⟩

/-- What was done is settled with the state that is left. -/
@[simp] theorem value_settled (acted : Acted σ ε α) :
    acted.settled.value = (acted.value.1.map fun _ => (), acted.value.2) := rfl

/-- What answers nothing in particular leaves the same state. -/
theorem Atomic.settled (atomic : acted.Atomic before) : Acted.Atomic before acted.settled := by
  intro error failed
  rw [value_settled] at failed
  cases given : acted.value.1 with
  | error _ => exact atomic _ given
  | ok _ =>
    rw [given] at failed
    cases failed

/-- What is settled was answered. -/
theorem outcome_settled_eq_ok_iff :
    Acted.outcome acted.settled = .ok ((), state) ↔
      ∃ answer, acted.outcome = .ok (answer, state) := by
  obtain ⟨⟨given, left⟩, notes⟩ := acted
  cases given with
  | error error => simp [outcome, settled, Except.map]
  | ok answer => simp [outcome, settled, Except.map]

end Acted

namespace Acting

variable {acting : Acting σ ε α} {first : Fallible ε α} {next : α → Acting σ ε β} {before : σ}

/-- After a computation that leaves the state alone, either its error is all there is, or the rest
is carried out on the same state. -/
theorem value_on_attempt_bind (state : σ) (first : Fallible ε α) (next : α → Acting σ ε β) :
    ((attempt first >>= next).on state).value =
      match first.outcome with
      | .ok value => ((next value).on state).value
      | .error error => (.error error, state) := by
  show (ExceptT.bindCont next first.run.value |>.run state).value = _
  rw [Fallible.value_run]
  cases first.outcome <;> rfl

/-- After a computation on a part, the rest is carried out on the state with what was left of it. -/
theorem value_on_within_bind {τ : Type} (state : σ) (putBack : τ → σ) (acted : Acted τ ε α)
    (next : α × τ → Acting σ ε β) :
    ((within putBack acted >>= next).on state).value =
      match acted.value with
      | (.ok answer, part) => ((next (answer, part)).on (putBack part)).value
      | (.error error, part) => (.error error, putBack part) := by
  obtain ⟨⟨given, part⟩, notes⟩ := acted
  cases given <;> rfl

@[simp] theorem value_on_set (state later : σ) :
    ((set later : Acting σ ε PUnit).on state).value = (.ok ⟨⟩, later) := rfl

/-- A sequence answers the first error, else what its second part answers. -/
@[simp] theorem outcome_on_attempt_bind (state : σ) (first : Fallible ε α)
    (next : α → Acting σ ε β) :
    ((attempt first >>= next).on state).outcome =
      first.outcome.bind fun value => ((next value).on state).outcome := by
  simp only [Acted.outcome, value_on_attempt_bind]
  cases first.outcome <;> rfl

/-- A sequence answers the error of its first part, else what its second part answers. -/
@[simp] theorem outcome_on_within_bind {τ : Type} (state : σ) (putBack : τ → σ)
    (acted : Acted τ ε α) (next : α × τ → Acting σ ε β) :
    ((within putBack acted >>= next).on state).outcome =
      acted.outcome.bind fun answer => ((next answer).on (putBack answer.2)).outcome := by
  obtain ⟨⟨given, part⟩, notes⟩ := acted
  cases given <;> rfl

variable {τ : Type} {state : σ} {putBack : τ → σ} {part : τ} {inner : Acted τ ε α}
  {following : α × τ → Acting σ ε β} {result : β × σ}

/-- A sequence answers exactly if its parts do. -/
theorem attempt_bind_eq_ok_iff :
    ((attempt first >>= next).on state).outcome = .ok result ↔
      ∃ value, first.outcome = .ok value ∧ ((next value).on state).outcome = .ok result := by
  rw [outcome_on_attempt_bind]
  cases first.outcome with
  | error error => simp [Except.bind]
  | ok value => simp [Except.bind]

/-- A sequence that starts on a part of the state answers exactly if its parts do. -/
theorem within_bind_eq_ok_iff :
    ((within putBack inner >>= following).on state).outcome = .ok result ↔
      ∃ answer, inner.outcome = .ok answer ∧
        ((following answer).on (putBack answer.2)).outcome = .ok result := by
  rw [outcome_on_within_bind]
  cases inner.outcome with
  | error error => simp [Except.bind]
  | ok answer => simp [Except.bind]

/-- A sequence fails if its first part does. -/
theorem fails_of_attempt (fails : ∃ error, first.outcome = .error error) :
    ∃ error, ((attempt first >>= next).on state).outcome = .error error := by
  obtain ⟨error, failed⟩ := fails
  exact ⟨error, by rw [outcome_on_attempt_bind, failed]; rfl⟩

/-- A sequence fails if its second part does whatever the first gives. -/
theorem fails_of_next (fails : ∀ value, ∃ error, ((next value).on state).outcome = .error error) :
    ∃ error, ((attempt first >>= next).on state).outcome = .error error := by
  rw [outcome_on_attempt_bind]
  cases first.outcome with
  | error error => exact ⟨error, rfl⟩
  | ok value => exact fails value

/-! ### Failures that leave no trace -/

/-- Giving up at once leaves the state as it is. -/
theorem atomic_throw (error : ε) :
    ((throw error : Acting σ ε α).on state).Atomic state := fun _ _ => rfl

/-- What cannot fail may change the state. -/
theorem atomic_of_answers (answers : ∃ answer later,
    (acting.on state).value = (.ok answer, later)) : (acting.on state).Atomic before := by
  obtain ⟨answer, later, same⟩ := answers
  intro error failed
  rw [same] at failed
  cases failed

/-- A computation that leaves the state alone may fail before one that is atomic. -/
theorem atomic_attempt_bind (rest : ∀ value, ((next value).on state).Atomic state) :
    ((attempt first >>= next).on state).Atomic state := by
  unfold Acted.Atomic Acted.left
  rw [value_on_attempt_bind]
  cases first.outcome with
  | error error => exact fun _ _ => rfl
  | ok value => exact rest value

/-- A part that is left as it was by a failure is put back as it was. -/
theorem atomic_within_bind (atomic : inner.Atomic part) (same : putBack part = state)
    (rest : ∀ answer, ((following answer).on (putBack answer.2)).Atomic state) :
    ((within putBack inner >>= following).on state).Atomic state := by
  obtain ⟨⟨given, remains⟩, notes⟩ := inner
  cases given with
  | error error =>
    have kept : remains = part := atomic error rfl
    exact fun _ _ => kept ▸ same
  | ok answer => exact rest (answer, remains)

end Acting

end Reflection
