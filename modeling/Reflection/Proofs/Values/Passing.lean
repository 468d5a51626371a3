import Reflection.Proofs.Values.Storing

/-!
# Calls keep slots typed

A call takes its arguments out of the slots, by reference or for good, and gives back what it
borrowed mutably. A slot is empty afterwards, holds what it held, or has had a value of its own type
stored in it (`Slots.Retains`), because a slot takes back only what has the type of what it lent.
-/
namespace Reflection

variable {meaning : Meaning} {types : Types}

/-- An any that stores twice stores. -/
theorem Any.Stores.trans {first second third : Any} (front : first.Stores meaning second)
    (back : second.Stores meaning third) : first.Stores meaning third := by
  obtain ⟨access, old, middle, rfl, writable, rfl, _⟩ := front
  obtain ⟨_, _, new, same, _, rfl, holds⟩ := back
  cases same
  exact ⟨access, old, new, rfl, writable, rfl, holds⟩

namespace Slots

/-- Whether every slot holds what it held, is empty, or had a value of its own type stored in what
it held. -/
def Retains (meaning : Meaning) (before after : Slots) : Prop :=
  ∀ name, after.holding name = before.holding name ∨ after.holding name = .empty ∨
    (before.holding name).Stores meaning (after.holding name)

/-- Whether the value of an any, if it has one, may be stored in what a slot holds, if it holds
something. -/
def TakesBack (meaning : Meaning) (slots : Slots) (name : String) (any : Any) : Prop :=
  ∀ access root, slots.holding name = .held access root → ∀ content, any.content? = some content →
    access ≠ .shared ∧ content.type = root.type ∧ meaning.Holds content.type content.value

variable {slots before middle after : Slots} {name : String} {any : Any}

namespace Retains

/-- Nothing changes. -/
theorem refl (slots : Slots) : Retains meaning slots slots := fun _ => .inl rfl

/-- Changes in turn. -/
theorem trans (front : Retains meaning before middle) (back : Retains meaning middle after) :
    Retains meaning before after := by
  intro name
  rcases back name with same | empty | stores
  · rw [same]
    exact front name
  · exact .inr (.inl empty)
  · rcases front name with same | empty | earlier
    · rw [same] at stores
      exact .inr (.inr stores)
    · obtain ⟨_, _, _, held, _⟩ := stores
      rw [empty] at held
      contradiction
    · exact .inr (.inr (earlier.trans stores))

/-- Slots stay typed. -/
theorem sound (retains : Retains meaning before after) (typed : before.Sound meaning) :
    after.Sound meaning := by
  intro name
  rcases retains name with same | empty | stores
  · rw [same]
    exact typed name
  · rw [empty]
    trivial
  · exact stores.sound

/-- Emptying a slot empties it. -/
theorem vacate (slots : Slots) (name : String) : Retains meaning slots (slots.vacate name) := by
  intro other
  by_cases same : name = other
  · rw [← same]
    exact .inr (.inl (holding_keep slots name .empty))
  · exact .inl (holding_keep_of_ne slots .empty same)

/-- A slot that takes a value back does so afterwards. -/
theorem takesBack (retains : Retains meaning before after)
    (takes : before.TakesBack meaning name any) : after.TakesBack meaning name any := by
  intro access root held content filled
  rcases retains name with same | empty | stores
  · exact takes access root (same ▸ held) content filled
  · rw [empty] at held
    contradiction
  · obtain ⟨_, old, new, earlier, _, later, _⟩ := stores
    rw [later] at held
    cases held
    exact takes _ old earlier content filled

end Retains

/-- What is passed for an argument is of its own type, and the slot it is borrowed from mutably
takes it back. -/
theorem retains_of_pass (typed : slots.Sound meaning) {passing : Passing} {left : Slots}
    (passed : (slots.pass types name passing).outcome = .ok (any, left)) :
    Retains meaning slots left ∧ any.Sound meaning ∧
      (passing = .exclusive → left.TakesBack meaning name any) := by
  cases passing with
  | shared =>
    cases passed
    exact ⟨.refl slots, Any.sound_asRef (typed name), Passing.noConfusion⟩
  | moved =>
    cases passed
    exact ⟨.vacate slots name, typed name, Passing.noConfusion⟩
  | exclusive =>
    simp only [pass, Fallible.outcome_bind_eq_ok_iff] at passed
    obtain ⟨reference, given, same⟩ := passed
    cases same
    refine ⟨.refl slots, Any.sound_asMut (typed name) given, fun _ => ?_⟩
    intro access root held content filled
    rw [held] at given
    obtain ⟨writable, rfl⟩ := Any.asMut_eq_ok_iff.1 given
    cases filled
    exact ⟨writable, rfl, typed.holds held⟩

/-- Passing arguments stops at the first that cannot be passed. -/
theorem value_passAll_of_error {position : Nat} {passing : Passing}
    {rest : List (Nat × String × Passing)} {error : Error}
    (failed : (slots.pass types name passing).outcome = .error error) :
    (slots.passAll types ((position, name, passing) :: rest)).value = (.error error, slots) := by
  simp only [passAll, Logged.value_bind, Fallible.value_run, failed]
  rfl

/-- Passing arguments goes on with the slots that the first one left. -/
theorem value_passAll_of_ok {position : Nat} {passing : Passing}
    {rest : List (Nat × String × Passing)} {left : Slots}
    (passed : (slots.pass types name passing).outcome = .ok (any, left)) :
    (slots.passAll types ((position, name, passing) :: rest)).value =
      ((left.passAll types rest).value.1.map ((position, any) :: ·),
        (left.passAll types rest).value.2) := by
  simp only [passAll, Logged.value_bind, Fallible.value_run, passed]
  rfl

/-- What is passed for arguments is of its own types, and the slots it is borrowed from mutably take
it back. -/
theorem retains_of_passAll (types : Types) (typed : slots.Sound meaning)
    (wanted : List (Nat × String × Passing)) :
    Retains meaning slots (slots.passAll types wanted).value.2 ∧
      ∀ found, (slots.passAll types wanted).value.1 = .ok found → ∀ entry ∈ found,
        entry.2.Sound meaning ∧ ∃ name passing, (entry.1, name, passing) ∈ wanted ∧
          (passing = .exclusive →
            (slots.passAll types wanted).value.2.TakesBack meaning name entry.2) := by
  induction wanted generalizing slots with
  | nil =>
    refine ⟨.refl slots, fun found answered entry mem => ?_⟩
    cases answered
    exact absurd mem List.not_mem_nil
  | cons want rest ih =>
    obtain ⟨position, name, passing⟩ := want
    cases passed : (slots.pass types name passing).outcome with
    | error error =>
      rw [value_passAll_of_error passed]
      exact ⟨.refl slots, fun found answered => by contradiction⟩
    | ok answer =>
      obtain ⟨any, left⟩ := answer
      obtain ⟨first, fits, lent⟩ := retains_of_pass typed passed
      obtain ⟨others, later⟩ := ih (first.sound typed)
      rw [value_passAll_of_ok passed]
      refine ⟨first.trans others, fun found answered entry mem => ?_⟩
      cases tail : (left.passAll types rest).value.1 with
      | error error =>
        rw [tail] at answered
        contradiction
      | ok entries =>
        rw [tail] at answered
        cases answered
        -- Arguments passed later leave a slot that was lent as it is, or empty it.
        rcases List.mem_cons.1 mem with rfl | listed
        · exact ⟨fits, name, passing, List.mem_cons_self,
            fun exclusive => others.takesBack (lent exclusive)⟩
        · obtain ⟨typedEntry, owner, how, wanted, back⟩ := later entries tail entry listed
          exact ⟨typedEntry, owner, how, List.mem_cons_of_mem _ wanted, back⟩

/-- A slot that is asked for is one of an argument's. -/
theorem getElem?_of_mem_borrowed {arguments : List Argument} {position : Nat} {passing : Passing}
    (mem : (position, name, passing) ∈ borrowed arguments) :
    arguments[position]? = some (.slot name passing) := by
  unfold borrowed at mem
  rw [List.mem_mergeSort, List.mem_filterMap] at mem
  obtain ⟨⟨argument, index⟩, listed, chosen⟩ := mem
  cases argument with
  | value any => contradiction
  | slot other how =>
    cases chosen
    exact List.mem_zipIdx_iff_getElem?.1 listed

/-- Nothing can always be taken back. -/
theorem takesBack_empty (slots : Slots) (name : String) : slots.TakesBack meaning name .empty := by
  intro access root held content filled
  contradiction

/-- Storing a value in what was borrowed mutably from a slot leaves what the slot takes back. -/
theorem TakesBack.stores {changed : Any} (takes : slots.TakesBack meaning name any)
    (stores : any.Stores meaning changed) : slots.TakesBack meaning name changed := by
  obtain ⟨borrowed, old, new, rfl, _, rfl, holds⟩ := stores
  intro access root held content filled
  obtain ⟨writable, same, _⟩ := takes access root held old rfl
  cases filled
  exact ⟨writable, same, holds⟩

/-- What a slot takes back is stored in it. -/
theorem retains_of_takesBack (takes : slots.TakesBack meaning name any) :
    Retains meaning slots (slots.update name (.root (slots.holding name)) any) := by
  unfold update
  split
  · rename_i content filled
    intro other
    by_cases same : name = other
    · subst same
      rw [holding_keep]
      cases held : slots.holding name with
      | empty => exact .inl rfl
      | held access root =>
        obtain ⟨writable, kind, holds⟩ := takes access root held content filled
        refine .inr (.inr ⟨access, root, content.value, rfl, writable, ?_, kind ▸ holds⟩)
        simp [Any.put, Place.root]
    · exact .inl (holding_keep_of_ne slots _ same)
  · exact .refl slots

/-- Whether slots take back what was borrowed mutably from them for the arguments of a call. -/
def TakesAllBack (meaning : Meaning) (slots : Slots) (pairs : List (Argument × Any)) : Prop :=
  ∀ pair ∈ pairs, ∀ name, pair.1 = .slot name .exclusive → slots.TakesBack meaning name pair.2

/-- What a call gives back to the slots is stored in them. -/
theorem retains_of_giveBack {pairs : List (Argument × Any)}
    (takes : slots.TakesAllBack meaning pairs) : Retains meaning slots (slots.giveBack pairs) := by
  induction pairs generalizing slots with
  | nil => exact .refl slots
  | cons pair rest ih =>
    obtain ⟨argument, any⟩ := pair
    obtain ⟨here, there⟩ := List.forall_mem_cons.1 takes
    cases argument with
    | value literal => exact ih there
    | slot name passing =>
      cases passing with
      | shared | moved => exact ih there
      | exclusive =>
        have first := retains_of_takesBack (here name rfl)
        refine first.trans (ih fun pair mem owner wants => ?_)
        exact first.takesBack (there pair mem owner wants)

/-- What stands for an argument of a call is of its own type, and the slot that it is borrowed from
mutably takes it back. -/
theorem sound_of_passed {arguments : List Argument} {found : List (Nat × Any)} {left : Slots}
    (brings : ∀ any, .value any ∈ arguments → any.Sound meaning)
    (passes : ∀ entry ∈ found, entry.2.Sound meaning ∧ ∃ name passing,
      (entry.1, name, passing) ∈ borrowed arguments ∧
        (passing = .exclusive → left.TakesBack meaning name entry.2))
    {position : Nat} {argument : Argument}
    (same : (match argument with
      | .value any => any
      | .slot .. => (found.lookup position).getD .empty) = any)
    (stands : arguments[position]? = some argument) :
    any.Sound meaning ∧
      ∀ name, argument = .slot name .exclusive → left.TakesBack meaning name any := by
  cases argument with
  | value literal =>
    cases same
    exact ⟨brings literal (List.mem_of_getElem? stands), fun _ => Argument.noConfusion⟩
  | slot name passing =>
    cases looked : found.lookup position with
    | none =>
      simp only [looked, Option.getD_none] at same
      cases same
      exact ⟨trivial, fun owner _ => left.takesBack_empty owner⟩
    | some taken =>
      simp only [looked, Option.getD_some] at same
      cases same
      obtain ⟨front, back, rfl, _⟩ := List.lookup_eq_some_iff.1 looked
      obtain ⟨fits, owner, how, wanted, takes⟩ := passes (position, any) (by simp)
      have alike := (getElem?_of_mem_borrowed wanted).symm.trans stands
      cases alike
      refine ⟨fits, fun other wants => ?_⟩
      cases wants
      exact takes rfl

/-- The arguments of a call are of their own types, and the slots take back what was borrowed from
them mutably. -/
theorem retains_of_prepare (types : Types) (typed : slots.Sound meaning) {arguments : List Argument}
    (brings : ∀ any, .value any ∈ arguments → any.Sound meaning) :
    Retains meaning slots (slots.prepare types arguments).value.2 ∧
      ∀ anys, (slots.prepare types arguments).value.1 = .ok anys →
        (∀ any ∈ anys, any.Sound meaning) ∧
          (slots.prepare types arguments).value.2.TakesAllBack meaning (arguments.zip anys) := by
  obtain ⟨retains, passes⟩ := retains_of_passAll types typed (borrowed arguments)
  refine ⟨retains, fun anys answered => ?_⟩
  simp only [prepare, Logged.value_bind, Logged.value_pure] at answered ⊢
  cases passed : (slots.passAll types (borrowed arguments)).value.1 with
  | error error =>
    rw [passed] at answered
    contradiction
  | ok found =>
    rw [passed] at answered
    cases answered
    constructor
    · intro any mem
      obtain ⟨position, bound, same⟩ := List.mem_mapIdx.1 mem
      exact (sound_of_passed brings (passes found passed) same (List.getElem?_eq_getElem bound)).1
    · intro pair mem
      obtain ⟨position, stands⟩ := List.mem_iff_getElem?.1 mem
      obtain ⟨first, second⟩ := List.getElem?_zip_eq_some.1 stands
      rw [List.getElem?_mapIdx, first] at second
      exact (sound_of_passed brings (passes found passed) (Option.some.inj second) first).2

/-- What slots take back from a call's arguments, they take back after the call changed them. -/
theorem TakesAllBack.changes {overload : Overload} {arguments : List Argument}
    {anys left : List Any} (takes : slots.TakesAllBack meaning (arguments.zip anys))
    (changes : overload.Changes meaning anys left) :
    slots.TakesAllBack meaning (arguments.zip left) := by
  unfold Overload.Changes at changes
  split at changes
  · obtain ⟨this, rest, changed, rfl, rfl, stores⟩ := changes
    cases arguments with
    | nil => exact fun pair mem => absurd mem List.not_mem_nil
    | cons argument others =>
      obtain ⟨here, there⟩ := List.forall_mem_cons.1 takes
      refine List.forall_mem_cons.2 ⟨fun name wants => ?_, there⟩
      exact (here name wants).stores stores
  · rw [changes]
    exact takes

section

variable {arguments : List Argument} {anys : List Any} {left : Slots} {error : Error}
  {callee : List Any → Acted (List Any) Error Any}

/-- A call whose arguments cannot be taken from the slots fails. -/
theorem value_call_of_unprepared
    (prepared : (slots.prepare types arguments).value = (.error error, left)) :
    (slots.call types arguments callee).value = (.error error, left) := by
  simp only [call, Logged.value_bind, prepared]
  rfl

/-- A call gives what it leaves of its arguments back to the slots, whether or not it fails. -/
theorem value_call_of_prepared
    (prepared : (slots.prepare types arguments).value = (.ok anys, left)) :
    (slots.call types arguments callee).value =
      ((callee anys).value.1, left.giveBack (arguments.zip (callee anys).left)) := by
  simp only [call, Logged.value_bind, prepared]
  rfl

end

/-- A call that changes its arguments as overloads do, or not at all if it fails, and answers values
of their types, stores in slots values of the types of what they hold, and leaves empty what was
moved out. -/
theorem retains_of_call (types : Types) (typed : slots.Sound meaning) {arguments : List Argument}
    (brings : ∀ any, .value any ∈ arguments → any.Sound meaning)
    {callee : List Any → Acted (List Any) Error Any}
    (atomic : ∀ anys, (callee anys).Atomic anys)
    (works : ∀ anys result left, (∀ any ∈ anys, any.Sound meaning) →
      (callee anys).outcome = .ok (result, left) →
      result.Sound meaning ∧ ∃ overload : Overload, overload.Changes meaning anys left) :
    Retains meaning slots (slots.call types arguments callee).value.2 ∧
      ∀ result, (slots.call types arguments callee).value.1 = .ok result →
        result.Sound meaning := by
  obtain ⟨retains, prepares⟩ := retains_of_prepare types typed brings
  generalize prepared : (slots.prepare types arguments).value = settled at retains prepares
  obtain ⟨answer, left⟩ := settled
  cases answer with
  | error error =>
    rw [value_call_of_unprepared prepared]
    exact ⟨retains, fun result answered => by contradiction⟩
  | ok anys =>
    obtain ⟨given, takes⟩ := prepares anys rfl
    rw [value_call_of_prepared prepared]
    cases called : (callee anys).value.1 with
    | error error =>
      rw [atomic anys error called]
      exact ⟨retains.trans (retains_of_giveBack takes), fun result answered => by contradiction⟩
    | ok result =>
      have done : (callee anys).outcome = .ok (result, (callee anys).left) :=
        Acted.outcome_eq_ok_iff.2 (Prod.ext called rfl)
      obtain ⟨answers, overload, changes⟩ := works anys result _ given done
      refine ⟨retains.trans (retains_of_giveBack (takes.changes changes)), ?_⟩
      intro other same
      cases same
      exact answers

end Slots

end Reflection
