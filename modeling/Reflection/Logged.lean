/-!
# Results with notes

A library of this kind reports what it does while it does it. `Logged` is a value together with
the notes taken while it was computed, in order; `Fallible` is the same for a computation that
may fail. What a computation answers never depends on its notes: `value` and `outcome` of a
sequence are those of its parts (`value_bind`, `outcome_bind`), so laws about answers are stated
without mentioning notes.
-/
namespace Reflection

/-- How much attention a note asks for. -/
inductive Level where
  | debug
  | info
  | warn
  deriving DecidableEq, Repr

/-- The printed form of a level. -/
def Level.label : Level → String
  | .debug => "DEBUG"
  | .info => "INFO"
  | .warn => "WARN"

/-- One line of the log. A line without a level is a mark set by the caller. -/
structure Note where
  level : Option Level
  text : String
  deriving DecidableEq, Repr

/-- A value and the notes taken while it was computed, oldest first. -/
structure Logged (α : Type) where
  value : α
  notes : List Note

namespace Logged

variable {α β : Type}

/-- A value without notes. -/
protected def pure (value : α) : Logged α := ⟨value, []⟩

/-- Go on with a value, keeping its notes in front. -/
protected def bind (first : Logged α) (next : α → Logged β) : Logged β :=
  let second := next first.value
  ⟨second.value, first.notes ++ second.notes⟩

instance : Monad Logged where
  pure := Logged.pure
  bind := Logged.bind

/-- Changing a value by nothing keeps it and its notes. -/
theorem map_identity (first : Logged α) : id <$> first = first := by
  obtain ⟨value, notes⟩ := first
  show Logged.mk value (notes ++ []) = _
  simp

instance : LawfulMonad Logged := LawfulMonad.mk' Logged
  (fun first => map_identity first)
  (fun value next => by
    show Logged.mk (next value).value ([] ++ (next value).notes) = _
    simp)
  (fun first next last => by
    show Logged.mk _ _ = Logged.mk _ _
    simp [bind, Logged.bind])

/-- Take one note. -/
def note (level : Level) (text : String) : Logged Unit := ⟨(), [⟨some level, text⟩]⟩

/-- Set a mark between the notes. -/
def mark (text : String) : Logged Unit := ⟨(), [⟨none, text⟩]⟩

@[simp] theorem value_pure (value : α) : (pure value : Logged α).value = value := rfl

@[simp] theorem notes_pure (value : α) : (pure value : Logged α).notes = [] := rfl

@[simp] theorem value_bind (first : Logged α) (next : α → Logged β) :
    (first >>= next).value = (next first.value).value := rfl

@[simp] theorem notes_bind (first : Logged α) (next : α → Logged β) :
    (first >>= next).notes = first.notes ++ (next first.value).notes := rfl

@[simp] theorem value_map (change : α → β) (first : Logged α) :
    (change <$> first).value = change first.value := rfl

@[simp] theorem notes_map (change : α → β) (first : Logged α) :
    (change <$> first).notes = first.notes := by
  show first.notes ++ [] = first.notes
  simp

/-- Doing the same to every item of a list gives the values that doing it to each gives. -/
@[simp] theorem value_mapM (items : List α) (change : α → Logged β) :
    (items.mapM change).value = items.map fun item => (change item).value := by
  induction items with
  | nil => rfl
  | cons item rest ih => simp [ih]

@[simp] theorem value_note (level : Level) (text : String) : (note level text).value = () := rfl

@[simp] theorem notes_note (level : Level) (text : String) :
    (note level text).notes = [⟨some level, text⟩] := rfl

@[simp] theorem value_mark (text : String) : (mark text).value = () := rfl

@[simp] theorem notes_mark (text : String) : (mark text).notes = [⟨none, text⟩] := rfl

/-- Whether every note that is taken passes a test. -/
def AllNotes (test : Note → Prop) (first : Logged α) : Prop := ∀ note ∈ first.notes, test note

/-- The notes of a sequence are those of its parts. -/
theorem allNotes_bind {test : Note → Prop} {first : Logged α} {next : α → Logged β}
    (before : first.AllNotes test) (after : (next first.value).AllNotes test) :
    (first >>= next).AllNotes test := by
  intro note mem
  rcases List.mem_append.1 mem with early | late
  · exact before note early
  · exact after note late

/-- A value without notes passes every test on notes. -/
theorem allNotes_pure {test : Note → Prop} (value : α) : (pure value : Logged α).AllNotes test :=
  fun _ mem => absurd mem List.not_mem_nil

/-- A note that was taken passes a test if its text and level do. -/
theorem allNotes_note {test : Note → Prop} {level : Level} {text : String}
    (passes : test ⟨some level, text⟩) : (note level text).AllNotes test := by
  intro taken mem
  rw [List.mem_singleton.1 mem]
  exact passes

end Logged

/-- A computation that takes notes and answers a value or an error. -/
abbrev Fallible (ε α : Type) := ExceptT ε Logged α

namespace Fallible

variable {ε α β : Type}

/-- What a computation answers, its notes set aside. -/
def outcome (attempt : Fallible ε α) : Except ε α := attempt.run.value

/-- An answer that is already known. -/
def ofExcept (known : Except ε α) : Fallible ε α := ExceptT.mk (pure known)

/-- A computation that cannot fail. -/
def ofLogged (first : Logged α) : Fallible ε α := ExceptT.lift first

/-- Give the error of a failing computation another form. -/
def mapError {δ : Type} (change : ε → δ) (attempt : Fallible ε α) : Fallible δ α :=
  ExceptT.mk (attempt.run >>= fun known => pure (known.mapError change))

@[simp] theorem outcome_pure (value : α) :
    outcome (pure value : Fallible ε α) = .ok value := rfl

@[simp] theorem outcome_throw (error : ε) :
    outcome (throw error : Fallible ε α) = .error error := rfl

@[simp] theorem outcome_ofExcept (known : Except ε α) : outcome (ofExcept known) = known := rfl

@[simp] theorem outcome_ofLogged (first : Logged α) :
    outcome (ofLogged first : Fallible ε α) = .ok first.value := rfl

@[simp] theorem outcome_mapError {δ : Type} (change : ε → δ) (attempt : Fallible ε α) :
    outcome (attempt.mapError change) = (outcome attempt).mapError change := rfl

/-- Running a computation to its end gives what it answers. -/
theorem value_run (attempt : Fallible ε α) : attempt.run.value = attempt.outcome := rfl

/-- A sequence answers the first error, else what its second part answers. -/
@[simp] theorem outcome_bind (first : Fallible ε α) (next : α → Fallible ε β) :
    outcome (first >>= next) = (outcome first).bind (fun value => outcome (next value)) := by
  show (ExceptT.bindCont next first.run.value).value = _
  unfold outcome
  cases ExceptT.run first |>.value <;> rfl

variable {first : Fallible ε α} {next : α → Fallible ε β}

/-- A sequence answers a value exactly if its parts do. -/
theorem outcome_bind_eq_ok_iff {result : β} :
    (first >>= next).outcome = .ok result ↔
      ∃ value, first.outcome = .ok value ∧ (next value).outcome = .ok result := by
  rw [outcome_bind]
  cases first.outcome with
  | error error => simp [Except.bind]
  | ok value => simp [Except.bind]

/-- What is done to an answer is done exactly if there is one. -/
theorem outcome_map_eq_ok_iff {change : α → β} {result : β} :
    (change <$> first).outcome = .ok result ↔
      ∃ value, first.outcome = .ok value ∧ change value = result := by
  rw [map_eq_pure_bind, outcome_bind_eq_ok_iff]
  simp

/-- An answer that is wrapped is one that is given. -/
theorem outcome_some_eq_ok_iff {result : α} :
    (some <$> first).outcome = .ok (some result) ↔ first.outcome = .ok result := by
  rw [outcome_map_eq_ok_iff]
  simp

/-- Another form of the error does not change when there is an answer. -/
theorem outcome_mapError_eq_ok_iff {δ : Type} {change : ε → δ} {result : α} :
    (first.mapError change).outcome = .ok result ↔ first.outcome = .ok result := by
  rw [outcome_mapError]
  cases first.outcome with
  | error error => exact iff_of_false (fun absent => nomatch absent) fun absent => nomatch absent
  | ok value =>
    constructor
    · intro same
      exact congrArg Except.ok (Except.ok.inj same)
    · intro same
      exact congrArg Except.ok (Except.ok.inj same)

/-- What fails does not answer. -/
theorem not_ok_of_fails {value : α} (fails : ∃ error, first.outcome = .error error) :
    first.outcome ≠ .ok value := by
  obtain ⟨error, failed⟩ := fails
  rw [failed]
  simp

/-- A failure stays one in another form. -/
theorem fails_mapError {δ : Type} {change : ε → δ} (fails : ∃ error, first.outcome = .error error) :
    ∃ error, (first.mapError change).outcome = .error error := by
  obtain ⟨error, failed⟩ := fails
  exact ⟨change error, by rw [outcome_mapError, failed]; rfl⟩

end Fallible

end Reflection
