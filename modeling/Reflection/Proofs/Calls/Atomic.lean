import Reflection.Proofs.Calls.Binding
import Reflection.Proofs.Values.Passing
import Reflection.Session.Run

/-!
# Calls that fail leave no trace

A call is decided by its arguments (`Overload.bindsFirst`), and so is the setting of a property
(`Property.adaptsFirst`): either fails for a reason that no body could change, and leaves what it
was given as it was, or runs its body once. Of the arguments only a receiver that is borrowed
mutably is changed (`Overload.spares_of_invoke`), so of the slots only the one that this receiver
comes from, and only by a call that succeeds (`Slots.holding_call`). What a call goes to is the
first overload that takes the arguments. All of this is put together in `calls_atomic`.
-/
namespace Reflection

variable {types : Types}

/-! ### Arguments after a call -/

namespace Overload

variable {overload : Overload} {arguments after : List Any} {result : Any}

/-- Whether arguments after a call are those before it, but for a receiver that is borrowed mutably,
in which something may have been put at one place. -/
def Spares (overload : Overload) (before after : List Any) : Prop :=
  after = before ∨
    overload.receiver.any (·.exclusive) = true ∧
      ∃ this rest path value, before = this :: rest ∧ after = this.put path value :: rest

/-- What a call answers spares all arguments but a receiver that is borrowed mutably. -/
theorem spares_answer (overload : Overload) (arguments : List Any) (parts : List Part) :
    overload.Spares arguments (overload.answer arguments parts).2 := by
  unfold answer Spares
  split
  · rename_i parameter this rest part others received
    rw [received]
    cases exclusive : parameter.exclusive with
    | false => exact .inl rfl
    | true => exact .inr ⟨exclusive, this, rest, part.path, _, rfl, rfl⟩
  · exact .inl rfl

/-- A call spares all arguments but a receiver that is borrowed mutably. -/
theorem spares_of_invoke
    (answered : (overload.invoke types arguments).outcome = .ok (result, after)) :
    overload.Spares arguments after := by
  rcases bindsFirst types overload arguments with ⟨parts, _, answers⟩ | ⟨error, _, fails⟩
  · have same : (result, after) = overload.answer arguments parts :=
      Except.ok.inj (answered.symm.trans (answers overload.body))
    have left : after = (overload.answer arguments parts).2 := congrArg Prod.snd same
    rw [left]
    exact overload.spares_answer arguments parts
  · have contrary := answered.symm.trans (fails overload.body)
    contradiction

end Overload

namespace Callee

/-- The overloads that a call may go to. -/
def overloads (types : Types) : Callee → List Overload
  | .constructors type => type.elim [] fun type => (types.members type).constructors
  | .function type name => type.elim [] fun type => (types.members type).overloads name
  | .overload called => [called]

/-- What spares the arguments of a call is one of the overloads that it may go to. -/
theorem spares_of_call {callee : Callee} {arguments after : List Any} {result : Any}
    (answered : (callee.call types arguments).outcome = .ok (result, after)) :
    ∃ overload ∈ callee.overloads types, overload.Spares arguments after := by
  have chosen : ∃ overload ∈ callee.overloads types,
      (overload.invoke types arguments).outcome = .ok (result, after) := by
    cases callee with
    | constructors type =>
      cases type with
      | none => contradiction
      | some type =>
        simp only [call, Types.construct] at answered
        split at answered
        · rename_i constructor found
          exact ⟨constructor, List.mem_of_find?_eq_some found, answered⟩
        · contradiction
    | function type name =>
      cases type with
      | none => contradiction
      | some type =>
        simp only [call, Types.invoke] at answered
        split at answered
        · rename_i several listed
          unfold invokeFirst at answered
          split at answered
          · rename_i overload found
            have mem : overload ∈ (types.members type).overloads name := by
              simpa [Members.overloads, listed] using List.mem_of_find?_eq_some found
            exact ⟨overload, mem, answered⟩
          · contradiction
        · contradiction
    | overload called => exact ⟨called, List.mem_singleton_self called, answered⟩
  obtain ⟨overload, listed, answers⟩ := chosen
  exact ⟨overload, listed, Overload.spares_of_invoke answers⟩

end Callee

/-! ### Slots after a call -/

/-- Putting the value that is there back changes nothing. -/
theorem Any.put_self (any : Any) {content : Typed} (there : any.content? = some content) :
    any.put [] content.value = any := by
  cases any with
  | empty => rfl
  | held access root =>
    cases there
    simp [put]

namespace Slots

variable {slots left : Slots} {name : String} {any : Any}

/-- Whether what was borrowed from a slot has the value that is there, if it has one. -/
def Lends (slots : Slots) (name : String) (any : Any) : Prop :=
  any.content? = none ∨ any.content? = (slots.holding name).content?

/-- What was borrowed from a slot has the value that is there as long as the slot holds the same. -/
theorem Lends.congr (lends : slots.Lends name any)
    (same : left.holding name = slots.holding name) : left.Lends name any := by
  unfold Lends
  rw [same]
  exact lends

/-- No slot but the one whose value is changed holds anything else. -/
theorem holding_update_of_ne {slot : String} (slots : Slots) (place : Place) (any : Any)
    (different : slot ≠ name) :
    (slots.update slot place any).holding name = slots.holding name := by
  unfold update
  split
  · exact holding_keep_of_ne slots _ different
  · rfl

/-- A slot to which what was borrowed from it is given back unchanged holds what it held. -/
theorem holding_update_of_lends (lends : slots.Lends name any) :
    (slots.update name (.root (slots.holding name)) any).holding name = slots.holding name := by
  unfold update
  cases filled : any.content? with
  | none => rfl
  | some content =>
    have there : (slots.holding name).content? = some content := by
      rcases lends with nothing | same
      · rw [nothing] at filled
        contradiction
      · rw [← same, filled]
    rw [holding_keep]
    exact Any.put_self _ there

/-- A slot holds what it held after an argument was passed, unless it was moved out of it. -/
theorem holding_of_pass {passing : Passing} {other : String}
    (passed : (slots.pass types name passing).outcome = .ok (any, left))
    (kept : passing = .moved → name ≠ other) : left.holding other = slots.holding other := by
  cases passing with
  | shared =>
    cases passed
    rfl
  | exclusive =>
    simp only [pass, Fallible.outcome_bind_eq_ok_iff] at passed
    obtain ⟨reference, _, same⟩ := passed
    cases same
    rfl
  | moved =>
    cases passed
    exact holding_keep_of_ne slots .empty (kept rfl)

/-- What is borrowed mutably from a slot has the value that is there. -/
theorem lends_of_pass (passed : (slots.pass types name .exclusive).outcome = .ok (any, left)) :
    slots.Lends name any := by
  simp only [pass, Fallible.outcome_bind_eq_ok_iff] at passed
  obtain ⟨reference, given, same⟩ := passed
  cases same
  unfold Lends
  cases held : slots.holding name with
  | empty =>
    rw [held] at given
    cases given
    exact .inl rfl
  | held access content =>
    rw [held] at given
    obtain ⟨_, rfl⟩ := Any.asMut_eq_ok_iff.1 given
    exact .inr rfl

/-- A slot out of which nothing is moved holds what it held after arguments were passed, and what
was borrowed from it mutably has the value that is there. -/
theorem holding_passAll (types : Types) (slots : Slots) {wanted : List (Nat × String × Passing)}
    (kept : ∀ position, (position, name, Passing.moved) ∉ wanted) :
    (slots.passAll types wanted).value.2.holding name = slots.holding name ∧
      ∀ found, (slots.passAll types wanted).value.1 = .ok found → ∀ entry ∈ found,
        ∃ owner passing, (entry.1, owner, passing) ∈ wanted ∧
          (owner = name → passing = .exclusive → slots.Lends name entry.2) := by
  induction wanted generalizing slots with
  | nil =>
    refine ⟨rfl, fun found answered entry mem => ?_⟩
    cases answered
    exact absurd mem List.not_mem_nil
  | cons want rest ih =>
    obtain ⟨position, owner, passing⟩ := want
    have later : ∀ position, (position, name, Passing.moved) ∉ rest :=
      fun position mem => kept position (List.mem_cons_of_mem _ mem)
    cases passed : (slots.pass types owner passing).outcome with
    | error error =>
      rw [value_passAll_of_error passed]
      exact ⟨rfl, fun found answered => by contradiction⟩
    | ok answer =>
      obtain ⟨any, left⟩ := answer
      have first : left.holding name = slots.holding name := by
        refine holding_of_pass passed ?_
        rintro rfl rfl
        exact kept position List.mem_cons_self
      obtain ⟨others, lent⟩ := ih left later
      rw [value_passAll_of_ok passed]
      refine ⟨others.trans first, fun found answered entry mem => ?_⟩
      cases tail : (left.passAll types rest).value.1 with
      | error error =>
        rw [tail] at answered
        contradiction
      | ok entries =>
        rw [tail] at answered
        cases answered
        rcases List.mem_cons.1 mem with rfl | listed
        · refine ⟨owner, passing, List.mem_cons_self, ?_⟩
          rintro rfl rfl
          exact lends_of_pass passed
        · obtain ⟨lender, how, wanted, lends⟩ := lent entries tail entry listed
          refine ⟨lender, how, List.mem_cons_of_mem _ wanted, fun same exclusive => ?_⟩
          exact (lends same exclusive).congr first.symm

/-- A slot out of which nothing is moved holds what it held after the arguments of a call were
taken, and what was borrowed from it mutably has the value that is there. -/
theorem holding_prepare (types : Types) (slots : Slots) {arguments : List Argument}
    (kept : Argument.slot name .moved ∉ arguments) :
    (slots.prepare types arguments).value.2.holding name = slots.holding name ∧
      ∀ anys, (slots.prepare types arguments).value.1 = .ok anys →
        ∀ (position : Nat) any, arguments[position]? = some (Argument.slot name .exclusive) →
          anys[position]? = some any → slots.Lends name any := by
  have unmoved : ∀ position, (position, name, Passing.moved) ∉ borrowed arguments :=
    fun position mem => kept (List.mem_of_getElem? (getElem?_of_mem_borrowed mem))
  obtain ⟨holds, lent⟩ := holding_passAll types slots unmoved
  refine ⟨holds, fun anys answered position any stands given => ?_⟩
  simp only [prepare, Logged.value_bind, Logged.value_pure] at answered
  cases passed : (slots.passAll types (borrowed arguments)).value.1 with
  | error error =>
    rw [passed] at answered
    contradiction
  | ok found =>
    rw [passed] at answered
    cases answered
    rw [List.getElem?_mapIdx, stands] at given
    cases looked : found.lookup position with
    | none =>
      simp only [Option.map_some, looked, Option.getD_none] at given
      cases given
      exact .inl rfl
    | some taken =>
      simp only [Option.map_some, looked, Option.getD_some] at given
      cases given
      obtain ⟨front, back, rfl, _⟩ := List.lookup_eq_some_iff.1 looked
      obtain ⟨owner, passing, wanted, lends⟩ := lent _ passed (position, any) (by simp)
      have alike := (getElem?_of_mem_borrowed wanted).symm.trans stands
      cases alike
      exact lends rfl rfl

/-- A slot to which everything that was borrowed from it is given back unchanged holds what it
held. -/
theorem holding_giveBack {pairs : List (Argument × Any)}
    (lends : ∀ pair ∈ pairs, pair.1 = .slot name .exclusive → slots.Lends name pair.2) :
    (slots.giveBack pairs).holding name = slots.holding name := by
  induction pairs generalizing slots with
  | nil => rfl
  | cons pair rest ih =>
    obtain ⟨argument, any⟩ := pair
    obtain ⟨here, there⟩ := List.forall_mem_cons.1 lends
    cases argument with
    | value literal => exact ih there
    | slot owner passing =>
      cases passing with
      | shared | moved => exact ih there
      | exclusive =>
        have first : (slots.update owner (.root (slots.holding owner)) any).holding name =
            slots.holding name := by
          by_cases same : owner = name
          · subst same
            exact holding_update_of_lends (here rfl)
          · exact holding_update_of_ne slots _ any same
        refine Eq.trans (ih fun pair mem wants => ?_) first
        exact (there pair mem wants).congr first

/-- A slot out of which nothing is moved holds what it held after a call, unless the call succeeds
and its receiver is borrowed mutably from the slot. -/
theorem holding_call (types : Types) (slots : Slots) {arguments : List Argument} (callee : Callee)
    (kept : Argument.slot name .moved ∉ arguments) :
    let (answer, left) := (slots.call types arguments (callee.call types)).value
    left.holding name = slots.holding name ∨
      (∃ result, answer = .ok result) ∧ arguments.head? = some (.slot name .exclusive) ∧
        ∃ overload ∈ callee.overloads types, overload.receiver.any (·.exclusive) = true := by
  obtain ⟨holds, lent⟩ := holding_prepare types slots kept
  generalize prepared : (slots.prepare types arguments).value = settled at holds lent
  obtain ⟨answer, left⟩ := settled
  cases answer with
  | error error =>
    rw [value_call_of_unprepared prepared]
    exact .inl holds
  | ok anys =>
    rw [value_call_of_prepared prepared]
    -- Arguments that are given back unchanged leave the slots as they are.
    have unchanged : ∀ after : List Any,
        (∀ (position : Nat) any, arguments[position]? = some (Argument.slot name .exclusive) →
          after[position]? = some any → anys[position]? = some any) →
        (left.giveBack (arguments.zip after)).holding name = slots.holding name := by
      intro after same
      refine Eq.trans (holding_giveBack fun pair mem wants => ?_) holds
      obtain ⟨position, stands⟩ := List.mem_iff_getElem?.1 mem
      obtain ⟨first, second⟩ := List.getElem?_zip_eq_some.1 stands
      rw [wants] at first
      exact (lent anys rfl position pair.2 first (same position pair.2 first second)).congr holds
    rcases (callee.atomic_call types anys).left_cases with kept | ⟨result, called⟩
    · refine .inl ?_
      rw [kept]
      exact unchanged anys fun _ _ _ stands => stands
    · obtain ⟨overload, listed, spares⟩ := Callee.spares_of_call called
      by_cases changes : arguments.head? = some (.slot name .exclusive) ∧
          overload.receiver.any (·.exclusive) = true
      · exact .inr ⟨⟨result, congrArg Prod.fst (Acted.outcome_eq_ok_iff.1 called)⟩, changes.1,
          overload, listed, changes.2⟩
      · refine .inl (unchanged _ fun position any lends stands => ?_)
        rcases spares with same | ⟨exclusive, this, rest, path, value, rfl, after⟩
        · rw [← same]
          exact stands
        · -- The receiver is borrowed from another slot.
          rw [after] at stands
          cases position with
          | zero =>
            rw [List.head?_eq_getElem?] at changes
            exact absurd ⟨lends, exclusive⟩ changes
          | succ position => exact stands

end Slots

/-! ### Properties -/

namespace Property

variable {property : Property} {name : String} {value subject : Any}

/-- The property with a setter. -/
def withSetter (property : Property) (set : Value → Value → Value) : Property :=
  { property with set := some set }

/-- Whether the setting of a property is decided before the setter runs: whatever the setter, it
fails with the same error and leaves the instance as it was, or the setter gets the value, brought
to the type of the property, and the part of the instance that the property belongs to, and what it
leaves of this part is put there. -/
def AdaptsFirst (types : Types) (name : String) (property : Property) (value subject : Any) :
    Prop :=
  (∃ new part, (adapt types property.type value).outcome = .ok new ∧
      (subject.castMut types property.owner).outcome = .ok part ∧
      ∀ set, ((property.withSetter set).write types name value subject).outcome =
        .ok ((), subject.put part.path (set (subject.read part.path) new))) ∨
    ∃ error, ∀ set,
      ((property.withSetter set).write types name value subject).value = (.error error, subject)

/-- Setting a property first adapts the value, then casts the instance, and changes it last. -/
theorem value_write (set : Value → Value → Value) :
    ((property.withSetter set).write types name value subject).value =
      match (adapt types property.type value).outcome with
      | .error error => (.error error, subject)
      | .ok new =>
        match (subject.castMut types property.owner).outcome with
        | .error error => (.error ⟨error.kind, .inProperty name error.cause⟩, subject)
        | .ok part => (.ok (), subject.put part.path (set (subject.read part.path) new)) := by
  simp only [write, withSetter, Acting.value_on_attempt_bind, Fallible.outcome_mapError]
  cases (adapt types property.type value).outcome with
  | error error => rfl
  | ok new => cases (subject.castMut types property.owner).outcome <;> rfl

/-- The setting of a property is decided before the setter runs. -/
theorem adaptsFirst (types : Types) (name : String) (property : Property) (value subject : Any) :
    property.AdaptsFirst types name value subject := by
  unfold AdaptsFirst
  simp only [Acted.outcome_eq_ok_iff, value_write]
  cases (adapt types property.type value).outcome with
  | error error => exact .inr ⟨error, fun set => rfl⟩
  | ok new =>
    cases (subject.castMut types property.owner).outcome with
    | error error => exact .inr ⟨_, fun set => rfl⟩
    | ok part => exact .inl ⟨new, part, rfl, rfl, fun set => rfl⟩

end Property

/-- Setting a property of what a location leads to fails and changes nothing, or changes there what
the setter changes. -/
theorem Slots.left_writeProperty_cases (types : Types) (slots : Slots) (location : Location)
    (name : String) (property : Property) (source : Operand) :
    let after := (slots.writeProperty types location name property source).left
    after = slots ∨ ∃ place changed, after = slots.update location.slot place changed := by
  rcases (slots.atomic_writeProperty types location name property source).left_cases with
    kept | ⟨answer, done⟩
  · exact .inl kept
  · obtain ⟨place, _, rest⟩ := Acting.attempt_bind_eq_ok_iff.1 done
    obtain ⟨value, _, ran⟩ := Acting.attempt_bind_eq_ok_iff.1 rest
    obtain ⟨changed, _, last⟩ := Acting.within_bind_eq_ok_iff.1 ran
    exact .inr ⟨place, changed.2, (congrArg Prod.snd (Except.ok.inj last)).symm⟩

/-! ### Calls and settings -/

/-- Whether calls, and settings of properties, that fail do so before any body runs and leave what
they act on as it was, and those that succeed run one body and change only what is borrowed mutably.
-/
structure CallsAtomic (types : Types) : Prop where
  /-- Of the overloads of a function the first that takes the arguments is called. -/
  functions : ∀ name overloads arguments,
    Resolves types overloads arguments (invokeFirst types name overloads arguments)
  /-- So is the first of the constructors of a type. -/
  constructors : ∀ type arguments, Resolves types (types.members type).constructors arguments
    (types.construct (some type) arguments)
  /-- A single overload that does not take the arguments fails with an error about a parameter. -/
  refuses : ∀ (overload : Overload) (arguments : List Any),
    overload.accepts types arguments = false → ∃ index cause,
      (overload.invoke types arguments).value = (.error ⟨.invalidParam index, cause⟩, arguments)
  /-- A call fails with the same error whatever its body, or gives its arguments to the body. -/
  binds : ∀ (overload : Overload) (arguments : List Any), overload.BindsFirst types arguments
  /-- A call that fails leaves all its arguments as they were, a receiver that is borrowed mutably
  included. -/
  undone : ∀ (overload : Overload) (arguments : List Any) error,
    (overload.invoke types arguments).value.1 = .error error →
      (overload.invoke types arguments).left = arguments
  /-- So does a call of whatever is called, by its name or by its type. -/
  resolvedUndone : ∀ (callee : Callee) (arguments : List Any) error,
    (callee.call types arguments).value.1 = .error error →
      (callee.call types arguments).left = arguments
  /-- A call that succeeds leaves all its arguments but a receiver that is borrowed mutably. -/
  spares : ∀ (overload : Overload) (arguments : List Any) result after,
    (overload.invoke types arguments).outcome = .ok (result, after) →
      overload.Spares arguments after
  /-- A slot holds what it held unless it is moved out of, or a call succeeds whose receiver is
  borrowed mutably from it. -/
  slots : ∀ (slots : Slots) (callee : Callee) (arguments : List Argument) (name : String),
    Argument.slot name .moved ∉ arguments →
      let (answer, left) := (slots.call types arguments (callee.call types)).value
      left.holding name = slots.holding name ∨
        (∃ result, answer = .ok result) ∧ arguments.head? = some (.slot name .exclusive) ∧
          ∃ overload ∈ callee.overloads types, overload.receiver.any (·.exclusive) = true
  /-- The setting of a property fails with the same error whatever its setter, or gives the setter
  the adapted value. -/
  adapts : ∀ (property : Property) name value subject,
    property.AdaptsFirst types name value subject
  /-- A setting that fails leaves the instance as it was. -/
  unset : ∀ (property : Property) name value subject error,
    (property.write types name value subject).value.1 = .error error →
      (property.write types name value subject).left = subject
  /-- A property without a setter cannot be set. -/
  readOnly : ∀ (property : Property) name value subject, property.set = none → ∃ cause,
    (property.write types name value subject).value = (.error ⟨.invalidProperty, cause⟩, subject)
  /-- A setting that fails changes no slot, and one that succeeds none but that of the instance. -/
  settings : ∀ (slots : Slots) (location : Location) name (property : Property) source,
    let set := slots.writeProperty types location name property source
    (∀ error, set.value.1 = .error error → set.left = slots) ∧
      ∀ slot, location.slot ≠ slot → set.left.holding slot = slots.holding slot

/-- Calls resolve to the first match, and those that are rejected or fail have no effect. For all
overloads, parents and arguments: a function or a type calls the first overload or constructor that
takes the arguments, and fails with an error about a function if none does; a single overload that
does not take the arguments fails with an error about a parameter; a call or the setting of a
property is decided before a body or a setter runs. What is left of the arguments, of the instance
and of the slots after one that fails is what was there before, a receiver included that would have
been borrowed mutably, since it is bound last and changed last; and one that succeeds changes only
what is borrowed mutably. -/
theorem calls_atomic (types : Types) : CallsAtomic types where
  functions := resolves_invokeFirst types
  constructors := resolves_construct types
  refuses overload arguments refused := by
    have unbound : ¬∃ parts, Overload.BindsAll types overload.parameters arguments parts := by
      intro bound
      have accepted := (Overload.exists_bindsAll_parameters_iff.1 bound).1
      rw [refused] at accepted
      contradiction
    obtain ⟨index, cause, failed⟩ := Overload.invoke_of_not_bindsAll unbound
    exact ⟨index, cause, (overload.atomic_invoke types arguments).value_eq failed⟩
  binds := Overload.bindsFirst types
  undone overload arguments := overload.atomic_invoke types arguments
  resolvedUndone callee arguments := callee.atomic_call types arguments
  spares _ _ _ _ answered := Overload.spares_of_invoke answered
  slots slots callee arguments name kept := slots.holding_call types callee kept
  adapts property name value subject := property.adaptsFirst types name value subject
  unset property name value subject := property.atomic_write types name value subject
  readOnly property name value subject unset := by
    simp only [Property.write, unset]
    exact ⟨_, rfl⟩
  settings slots location name property source := by
    refine ⟨slots.atomic_writeProperty types location name property source, ?_⟩
    intro slot different
    rcases slots.left_writeProperty_cases types location name property source with
      kept | ⟨place, changed, stored⟩
    · rw [kept]
    · rw [stored]
      exact Slots.holding_update_of_ne slots place changed different

end Reflection
