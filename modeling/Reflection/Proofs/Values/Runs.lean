import Reflection.Proofs.Values.Capabilities
import Reflection.Proofs.Values.Passing
import Reflection.Proofs.Values.Registering
import Reflection.Session.Run

/-!
# Values stay well formed

Whatever steps a session takes, every slot is empty or holds a value of the type its record names,
at every depth: one step keeps this, by what it stores, makes or consumes, and a run keeps it by
induction. All that has to be given is that values which steps bring from outside are of their types
and that what is registered is written for its type.
-/
namespace Reflection

variable {meaning : Meaning} {types : Types}

/-! ### What steps bring -/

/-- Whether what a call goes to works on values of the types it says. -/
def Callee.Sound (meaning : Meaning) : Callee → Prop
  | .overload called => called.Sound meaning
  | .constructors _ | .function _ _ => True

/-- Whether what a derivation brings works on values of the types it says. -/
def Derivation.Sound (meaning : Meaning) : Derivation → Prop
  | .property _ read _ => read.Sound meaning
  | .constant copied => meaning.Holds copied.value.type copied.value.value
  | .copy _ | .conversion _ _ | .tryConversion _ _ | .enumerator _ _ => True

/-- Whether the values that a step brings are of their types. -/
def SlotStep.Sound (meaning : Meaning) : SlotStep → Prop
  | .fill _ any => any.Sound meaning
  | .assign _ source => source.Sound meaning
  | .change _ mutation => mutation.Sound meaning
  | .writeRange _ _ _ sources => ∀ source ∈ sources, source.Sound meaning
  | .writeTable _ _ source => source.Sound meaning
  | .call callee arguments _ =>
    callee.Sound meaning ∧ ∀ any, .value any ∈ arguments → any.Sound meaning
  | .derive derivation _ => derivation.Sound meaning
  | .vacate _ | .take _ _ | .intoRef _ _ | .intoMut _ _ | .downcast _ _ | .intoOwned _
  | .throughView _ _ => True

/-- Whether what a step brings is of its type, or written for it. -/
def SessionStep.Sound (meaning : Meaning) : SessionStep → Prop
  | .slots step => step.Sound meaning
  | .types _ operation => operation.Sound meaning

/-- A call answers a value of its type and changes its arguments as overloads do. -/
theorem Callee.sound_of_call (sound : types.Sound meaning) {callee : Callee}
    (works : callee.Sound meaning) {arguments left : List Any} {result : Any}
    (typed : ∀ any ∈ arguments, any.Sound meaning)
    (answered : (callee.call types arguments).outcome = .ok (result, left)) :
    result.Sound meaning ∧ ∃ overload : Overload, overload.Changes meaning arguments left := by
  cases callee with
  | constructors found =>
    cases found with
    | none => contradiction
    | some type =>
      obtain ⟨has, changes⟩ := Types.sound_of_construct sound typed answered
      exact ⟨has.sound, changes⟩
  | function found name =>
    obtain ⟨overload, has, changes⟩ := Types.sound_of_invoke sound typed answered
    exact ⟨has.sound, overload, changes⟩
  | overload called =>
    obtain ⟨has, changes⟩ := Overload.sound_of_invoke sound works typed answered
    exact ⟨has.sound, called, changes⟩

/-- What is made from typed slots is of its type. -/
theorem Derivation.sound_of_make (sound : types.Sound meaning) {slots : Slots}
    (typed : slots.Sound meaning) {derivation : Derivation} (brings : derivation.Sound meaning)
    {made : Any} (given : (derivation.make types slots).outcome = .ok made) :
    made.Sound meaning := by
  cases derivation with
  | copy location =>
    simp only [make, Fallible.outcome_bind_eq_ok_iff] at given
    obtain ⟨place, reached, copied⟩ := given
    exact Any.sound_of_tryClone sound (typed.located sound reached) copied
  | conversion location target =>
    simp only [make, Fallible.outcome_bind_eq_ok_iff, Fallible.outcome_ofLogged] at given
    obtain ⟨place, reached, converted⟩ := given
    cases converted
    exact Any.sound_conv sound (typed.located sound reached) target
  | tryConversion location target =>
    simp only [make, Fallible.outcome_bind_eq_ok_iff] at given
    obtain ⟨place, reached, converted⟩ := given
    obtain ⟨rfl, _⟩ := Any.eq_conv_of_tryConv converted
    exact Any.sound_conv sound (typed.located sound reached) target
  | property name read location =>
    simp only [make, Fallible.outcome_bind_eq_ok_iff] at given
    obtain ⟨place, reached, got⟩ := given
    exact (Property.has_of_read sound brings (typed.located sound reached) got).sound
  | constant copied =>
    have borrowed : copied.value.borrowed.Sound meaning := brings
    exact Any.sound_of_tryClone sound borrowed given
  | enumerator found text =>
    cases found with
    | none => contradiction
    | some type => exact (Types.has_of_enumFromString sound given).sound

/-! ### Single steps -/

/-- What is moved out of an any, or handed back, is what it held. -/
theorem Any.downcast_cases (any : Any) (type : Ty) :
    (∃ value, any.downcast type = .ok value ∧ any = .new ⟨type, value⟩) ∨
      any.downcast type = .error any := by
  cases any with
  | empty => exact .inr rfl
  | held access content =>
    cases access with
    | shared | exclusive => exact .inr rfl
    | owned =>
      by_cases same : content.type = type
      · subst same
        exact .inl ⟨content.value, if_pos rfl, rfl⟩
      · exact .inr (if_neg same)

/-- A slot that a value was moved out of and back into holds what it held. -/
theorem Slots.snd_downcast (slots : Slots) (slot : String) (type : Ty) :
    (slots.downcast slot type).2 = slots.keep slot (slots.holding slot) := by
  unfold Slots.downcast
  rcases Any.downcast_cases (slots.holding slot) type with ⟨value, moved, same⟩ | back
  · rw [moved]
    dsimp only
    rw [same]
  · rw [back]

namespace Slots.Sound

variable {slots : Slots} {slot : String} {any : Any}

/-- What becomes of a slot that was consumed is of its type. -/
theorem settle (typed : slots.Sound meaning) {attempt : Attempt Any}
    (fits : ∀ any, attempt.outcome = .ok any → any.Sound meaning) (slot : String) :
    (slots.settle slot attempt).value.2.Sound meaning := by
  simp only [Slots.settle, Logged.value_bind, Fallible.value_run]
  cases known : attempt.outcome with
  | ok any => exact typed.keep (fits any known) slot
  | error error => exact typed.vacate slot

end Slots.Sound

/-- Whether what a session knows of types is sound, and every slot is empty or holds a value of the
type its record names. -/
structure Session.Sound (meaning : Meaning) (session : Session) : Prop where
  types : session.types.Sound meaning
  slots : session.slots.Sound meaning

namespace Session.Sound

variable {session : Session}

/-- A session stays sound with other slots that are. -/
theorem setSlots (sound : session.Sound meaning) {slots : Slots} (typed : slots.Sound meaning) :
    (session.setSlots slots).Sound meaning :=
  ⟨sound.types, typed⟩

/-- A session stays sound when a value of its type is stored. -/
theorem storeInto (sound : session.Sound meaning) (slot : Option String) {any : Any}
    (fits : any.Sound meaning) : (session.storeInto slot any).Sound meaning := by
  cases slot with
  | none => exact sound
  | some slot => exact sound.setSlots (sound.slots.keep fits slot)

/-- A session stays sound when a result of its type is stored. -/
theorem collect (sound : session.Sound meaning) (slot : Option String)
    {result : Except Error Any} (fits : ∀ any, result = .ok any → any.Sound meaning) :
    (session.collect slot result).Sound meaning := by
  cases result with
  | error error => exact sound
  | ok any => exact sound.storeInto slot (fits any rfl)

/-- A session stays sound with what is left of its slots by an operation that changes nothing if it
fails. -/
theorem settled (sound : session.Sound meaning) {α : Type} {acted : Acted Slots Error α}
    (atomic : acted.Atomic session.slots)
    (keeps : ∀ answer slots, acted.outcome = .ok (answer, slots) → slots.Sound meaning) :
    (session.setSlots acted.left).Sound meaning := by
  refine sound.setSlots ?_
  rcases atomic.left_cases with kept | ⟨answer, done⟩
  · rw [kept]
    exact sound.slots
  · exact keeps answer _ done

/-- A step on the slots keeps a session sound. -/
theorem performOnSlots (sound : session.Sound meaning) {step : SlotStep}
    (brings : step.Sound meaning) : (session.performOnSlots step).Sound meaning := by
  have typesSound := sound.types
  have typed := sound.slots
  cases step with
  | fill slot any => exact sound.setSlots (typed.keep brings slot)
  | vacate slot => exact sound.setSlots (typed.vacate slot)
  | take slot into => exact (sound.setSlots (typed.vacate slot)).storeInto into (typed slot)
  | assign slot source =>
    exact sound.setSlots (typed.assign typesSound brings slot)
  | intoRef slot type => exact sound.setSlots (typed.vacate slot)
  | intoMut slot type => exact sound.setSlots (typed.vacate slot)
  | downcast slot type =>
    refine sound.setSlots ?_
    rw [Slots.snd_downcast]
    exact typed.keep (typed slot) slot
  | intoOwned slot =>
    refine sound.setSlots (typed.settle (fun any done => ?_) slot)
    exact Any.sound_of_intoOwned typesSound (typed slot) done
  | throughView slot shape =>
    refine sound.setSlots (typed.settle (fun any done => ?_) slot)
    obtain ⟨_, _, same⟩ := Fallible.outcome_bind_eq_ok_iff.1 done
    cases same
    exact typed slot
  | change location mutation =>
    refine sound.setSlots ?_
    rcases Slots.stores_of_attempt typesSound typed brings with same | ⟨_, _, _, _, stores⟩
    · rw [same]
      exact typed
    · exact stores.sound typed
  | writeRange location const side sources =>
    refine sound.settled (session.slots.atomic_writeRange _ location const side sources) ?_
    intro reports after written
    obtain ⟨_, _, _, _, _, _, stores⟩ := Slots.stores_of_writeRange typesSound brings written
    exact Slots.sound_of_storesIn stores typed
  | writeTable location const source =>
    refine sound.settled (session.slots.atomic_writeTable _ location const source) ?_
    intro reports after written
    obtain ⟨_, _, _, _, _, _, stores⟩ := Slots.stores_of_writeTable typesSound brings written
    exact Slots.sound_of_storesIn stores typed
  | call callee arguments into =>
    obtain ⟨works, given⟩ := brings
    obtain ⟨retains, answers⟩ := Slots.retains_of_call session.types typed given
      (fun anys => callee.atomic_call session.types anys) fun anys result left typed answered =>
        callee.sound_of_call typesSound works typed answered
    exact (sound.setSlots (retains.sound typed)).collect into answers
  | derive derivation into =>
    refine sound.collect into fun any made => ?_
    exact Derivation.sound_of_make typesSound typed brings made

/-- A step keeps a session sound. -/
theorem perform (sound : session.Sound meaning) {step : SessionStep}
    (brings : step.Sound meaning) : (session.perform step).Sound meaning := by
  cases step with
  | slots step => exact sound.performOnSlots brings
  | types database operation =>
    exact ⟨Store.sound_perform sound.types brings, sound.slots⟩

/-- A run keeps a session sound. -/
theorem after (sound : session.Sound meaning) {steps : List SessionStep}
    (brings : ∀ step ∈ steps, step.Sound meaning) : (session.after steps).Sound meaning := by
  induction steps generalizing session with
  | nil => exact sound
  | cons step rest ih =>
    obtain ⟨first, later⟩ := List.forall_mem_cons.1 brings
    exact ih (sound.perform first) later

end Session.Sound

/-! ### Runs -/

namespace Session

/-- No slot step touches types. -/
theorem types_performOnSlots (session : Session) (step : SlotStep) :
    (session.performOnSlots step).types = session.types := by
  have stored : ∀ slots slot any,
      ((session.setSlots slots).storeInto slot any).types = session.types := by
    intro slots slot any
    cases slot <;> rfl
  cases step with
  | take slot into => exact stored _ into _
  | call callee arguments into =>
    simp only [performOnSlots, collect]
    split
    · exact stored _ into _
    · rfl
  | derive derivation into =>
    simp only [performOnSlots, collect]
    split
    · exact stored session.slots into _
    · rfl
  | _ => rfl

/-- No step touches what is fixed about types. -/
theorem fixed_after (session : Session) (steps : List SessionStep) :
    (session.after steps).types.fixed = session.types.fixed := by
  induction steps generalizing session with
  | nil => rfl
  | cons step rest ih =>
    rw [after, ih]
    cases step with
    | slots step => exact congrArg Types.fixed (types_performOnSlots session step)
    | types database operation => exact Store.fixed_perform session.store database operation

/-- A session whose values are well formed, whatever is done next. -/
structure WellFormed (meaning : Meaning) (session : Session) : Prop where
  /-- What a slot holds is a value of the type its record names. -/
  held : ∀ slot access content, session.slots.holding slot = .held access content →
    meaning.Holds content.type content.value
  /-- So is what a chain of accessors leads to. -/
  reached : ∀ location access content path,
    (session.slots.locate session.types location).outcome = .ok ⟨.held access content, path⟩ →
      meaning.Holds content.type content.value
  /-- Nothing that is reached through an item of a set or the key of an entry can be written. -/
  keys : ∀ slot front accessor back access content path place,
    (session.slots.locate session.types ⟨slot, front⟩).outcome =
      .ok ⟨.held access content, path⟩ →
    accessor.PicksKey content.type →
    (session.slots.locate session.types ⟨slot, front ++ accessor :: back⟩).outcome = .ok place →
      place.any.hasDataMut = false
  /-- A change at a location, whether or not it fails, stores a value of the type of what is there
  or changes nothing. -/
  changes : ∀ location mutation, Mutation.Sound meaning mutation →
    let changed := session.slots.attempt session.types location mutation
    changed = session.slots ∨ Slots.StoresAt meaning session.types location session.slots changed
  /-- Writing to mutable items stores values of the item type, one after another. -/
  ranges : ∀ location const side sources reports after, (∀ source ∈ sources, source.Sound meaning) →
    (session.slots.writeRange session.types location const side sources).outcome =
      .ok (reports, after) →
    ∃ access content path shape,
      (session.slots.locate session.types location).outcome = .ok ⟨.held access content, path⟩ ∧
        (session.types.record content.type).range = some shape ∧
        Relation.ReflTransGen (Slots.StoresIn meaning location.slot shape.item) session.slots after
  /-- Writing to the values of a table stores values of the value type, one after another. -/
  tables : ∀ location const source reports after, Any.Sound meaning source →
    (session.slots.writeTable session.types location const source).outcome =
      .ok (reports, after) →
    ∃ access content path shape,
      (session.slots.locate session.types location).outcome = .ok ⟨.held access content, path⟩ ∧
        (session.types.record content.type).table = some shape ∧
        Relation.ReflTransGen (Slots.StoresIn meaning location.slot shape.value) session.slots after
  /-- A call stores in slots values of the types of what they hold, and empties what is moved. -/
  calls : ∀ callee arguments, Callee.Sound meaning callee →
    (∀ any, .value any ∈ arguments → any.Sound meaning) →
      Slots.Retains meaning session.slots
        (session.slots.call session.types arguments (callee.call session.types)).value.2

/-- A sound session over the built-in types is well formed. -/
theorem Sound.wellFormed {session : Session} (sound : session.Sound meaning)
    {describe : String → Standard.Description}
    (fixed : session.types.fixed = Standard.universeOf describe) : session.WellFormed meaning := by
  obtain ⟨typesSound, typed⟩ := sound
  constructor
  case held =>
    intro slot access content filled
    exact typed.holds filled
  case reached =>
    intro location access content path led
    exact typed.located typesSound led
  case keys =>
    intro slot front accessor back access content path place led picks beyond
    -- From the key on nothing is borrowed mutably, however long the chain goes on.
    obtain ⟨middle, first, second⟩ := Place.outcome_follow_append.1 beyond
    cases led.symm.trans first
    exact Place.unwritable_of_follow (Standard.not_replaces_of_picksKey fixed picks) second
  case changes =>
    exact fun location mutation brings => Slots.stores_of_attempt typesSound typed brings
  case ranges =>
    intro location const side sources reports after brings done
    exact Slots.stores_of_writeRange typesSound brings done
  case tables =>
    intro location const source reports after brings done
    exact Slots.stores_of_writeTable typesSound brings done
  case calls =>
    intro callee arguments works given
    exact (Slots.retains_of_call session.types typed given
      (fun anys => callee.atomic_call session.types anys)
      fun anys result left typed answered =>
        callee.sound_of_call typesSound works typed answered).1

/-- Values stay well formed. Take the built-in types over any description of named ones that is
written for them, and any run of steps: slots are filled, emptied and consumed, values are written,
cast, assigned a text, set a property, walked over, called, copied and converted, and types are
registered and reset, each step failing or not. If what steps bring from outside is of its type and
what is registered is written for its type, then every value in a slot is well formed for the type
its record names, at every depth: integers in range, arrays of their length, tuples with their
fields, options with at most one item, items of sets distinct or ascending, keys of tables distinct
or ascending. So is what any chain of accessors leads to; none yields a mutable reference to an item
of a set or a key of a table; and whatever changes a value stores one of its own type there, also
where the source had to be converted. -/
theorem after_well_formed {describe : String → Standard.Description}
    (records : ∀ name, (describe name).record.Sound meaning (.named name))
    (described : ∀ name, (describe name).members.Sound meaning (.named name))
    {steps : List SessionStep} (brings : ∀ step ∈ steps, step.Sound meaning) :
    ((Session.fresh (Standard.universeOf describe)).after steps).WellFormed meaning := by
  have fixedSound := Standard.sound_universeOf records described
  have start : (Session.fresh (Standard.universeOf describe)).Sound meaning := by
    refine ⟨Types.sound_described fixedSound, fun slot => ?_⟩
    trivial
  exact (start.after brings).wellFormed (fixed_after _ steps)

/-- A list and a set of bytes, and an attempt to overwrite the first item of each. -/
def byteSteps : List SessionStep :=
  [.slots (.fill "list" (.new ⟨.vector .i8, .compound [.integer 1, .integer 2]⟩)),
    .slots (.fill "set" (.new ⟨.orderedSet .i8, .compound [.integer 1, .integer 5]⟩)),
    .slots (.writeRange ⟨"list", []⟩ false .front [.new ⟨.i32, .integer 300⟩]),
    .slots (.writeRange ⟨"set", []⟩ false .front [.new ⟨.i8, .integer 9⟩])]

/-- The list gets the byte that the wider number converts to; the set stays as it is. -/
theorem byteSteps_well_formed :
    let session := (Session.fresh (Standard.universeOf Types.sealedDescription)).after byteSteps
    session.WellFormed Types.tokenMeaning ∧
      session.slots.holding "list" = .new ⟨.vector .i8, .compound [.integer 44, .integer 2]⟩ ∧
      session.slots.holding "set" = .new ⟨.orderedSet .i8, .compound [.integer 1, .integer 5]⟩ := by
  have byte : ∀ number : Int, IntegerKind.i8.holds number = true →
      Types.tokenMeaning.Holds .i8 (.integer number) := fun number holds => ⟨number, rfl, holds⟩
  have bytes : ∀ first second : Int, IntegerKind.i8.holds first = true →
      IntegerKind.i8.holds second = true → ∀ item ∈ [Value.integer first, .integer second],
        Types.tokenMeaning.Holds .i8 item := by
    intro first second firstHolds secondHolds
    exact List.forall_mem_cons.2 ⟨byte first firstHolds,
      List.forall_mem_singleton.2 (byte second secondHolds)⟩
  refine ⟨after_well_formed ?records ?described ?brings, rfl, rfl⟩
  case records =>
    intro name
    constructor
    case clone =>
      intro clone installed value holds
      cases installed
      exact holds
    case fields => exact fun field absent => absurd absent List.not_mem_nil
    all_goals
      intro shape absent
      cases absent
  case described =>
    intro name
    constructor
    case constructors => exact fun overload absent => absurd absent List.not_mem_nil
    case parents => exact fun parent absent => absurd absent List.not_mem_nil
    case conversions => exact fun conversion absent => absurd absent List.not_mem_nil
    all_goals
      intro name member absent
      cases absent
  case brings =>
    have list : (Any.new ⟨.vector .i8, .compound [.integer 1, .integer 2]⟩).Sound
        Types.tokenMeaning :=
      ⟨_, rfl, bytes 1 2 (by decide) (by decide), trivial⟩
    have set : (Any.new ⟨.orderedSet .i8, .compound [.integer 1, .integer 5]⟩).Sound
        Types.tokenMeaning := by
      refine ⟨_, rfl, bytes 1 5 (by decide) (by decide), ?_⟩
      simp [Types.tokenMeaning, Value.toInt]
    have wide : (Any.new ⟨.i32, .integer 300⟩).Sound Types.tokenMeaning := ⟨300, rfl, by decide⟩
    have narrow : (Any.new ⟨.i8, .integer 9⟩).Sound Types.tokenMeaning := byte 9 (by decide)
    intro step mem
    simp only [byteSteps, List.mem_cons, List.not_mem_nil, or_false] at mem
    rcases mem with rfl | rfl | rfl | rfl
    · exact list
    · exact set
    · exact List.forall_mem_singleton.2 wide
    · exact List.forall_mem_singleton.2 narrow

end Session

end Reflection
