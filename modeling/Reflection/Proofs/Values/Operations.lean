import Reflection.Enumeration
import Reflection.Proofs.Values.Reaching

/-!
# Operations keep types

Every operation that makes a value makes one of the type it promises: copies are of the type they
copy, be they made by the type's own capability or by a registered constructor; conversions, also
those that fall back on a parent, are of their target; and calls answer values of the type they
return. Every operation that changes a value stores one of the type that was there (`Any.Stores`).
-/
namespace Reflection

variable {meaning : Meaning} {types : Types} {type target : Ty}

/-! ### Anys and their types -/

namespace Any

/-- Whether an any holds a value of a type. -/
def Has (meaning : Meaning) (type : Ty) (any : Any) : Prop :=
  ∃ access value, any = held access ⟨type, value⟩ ∧ meaning.Holds type value

/-- Whether an any is what another becomes when a value of its own type is stored in it. -/
def Stores (meaning : Meaning) (before after : Any) : Prop :=
  ∃ access old new, before = held access old ∧ access ≠ .shared ∧
    after = held access ⟨old.type, new⟩ ∧ meaning.Holds old.type new

variable {any : Any}

/-- What is there is of its own type. -/
theorem Has.sound (has : any.Has meaning type) : any.Sound meaning := by
  obtain ⟨access, value, rfl, holds⟩ := has
  exact holds

/-- An any that was made from a value of its type holds it. -/
theorem has_new {value : Value} (holds : meaning.Holds type value) :
    (new ⟨type, value⟩).Has meaning type :=
  ⟨.owned, value, rfl, holds⟩

/-- What is stored is of its own type. -/
theorem Stores.sound {before after : Any} (stores : before.Stores meaning after) :
    after.Sound meaning := by
  obtain ⟨access, old, new, _, _, rfl, holds⟩ := stores
  exact holds

/-- A const reference to a value of its type is one. -/
theorem sound_asRef (typed : any.Sound meaning) : any.asRef.Sound meaning := by
  cases any with
  | empty => trivial
  | held access content => exact typed

/-- A mutable reference to a value of its type is one. -/
theorem sound_asMut (typed : any.Sound meaning) {reference : Any}
    (given : (any.asMut types).outcome = .ok reference) : reference.Sound meaning := by
  cases any with
  | empty =>
    cases given
    trivial
  | held access content =>
    obtain ⟨_, rfl⟩ := asMut_eq_ok_iff.1 given
    exact typed

/-! ### Casts -/

section Casts

variable {part : Part}

/-- What a cast gives is a part of what is held. -/
theorem projects_of_cast (sound : types.Sound meaning)
    (given : (any.cast types target).outcome = .ok part) :
    ∃ access content, any = held access content ∧
      meaning.Projects content.type part.path target := by
  cases any with
  | empty => contradiction
  | held access content =>
    refine ⟨access, content, rfl, ?_⟩
    simp only [cast, Fallible.outcome_bind_eq_ok_iff, Fallible.outcome_ofLogged] at given
    obtain ⟨result, found, place, placed, same⟩ := given
    cases found
    cases cast : (types.cast content.type target).value with
    | found there =>
      rw [cast] at placed
      cases placed
      cases same
      exact sound.projects_of_cast cast
    | missing => simp [cast, castPlace] at placed
    | ambiguous count => simp [cast, castPlace] at placed

/-- A mutable cast gives the part that a const one gives, of a value that is not held const. -/
theorem cast_of_castMut (given : (any.castMut types target).outcome = .ok part) :
    any.isConst = false ∧
      (any.cast types target).outcome = .ok ⟨part.path, target, false⟩ := by
  cases any with
  | empty => contradiction
  | held access content =>
    have writable : (held access content).isConst = false := by
      cases access with
      | shared => contradiction
      | owned | exclusive => rfl
    rw [outcome_castMut writable] at given
    refine ⟨writable, ?_⟩
    rw [outcome_cast]
    cases found : ancestor types content target with
    | error error => simp [found, Except.map] at given
    | ok place =>
      rw [found] at given
      cases given
      rfl

/-- What is read at a part that a cast gives is of the type of the cast. -/
theorem holds_of_cast (sound : types.Sound meaning) (typed : any.Sound meaning)
    (given : (any.cast types target).outcome = .ok part) :
    meaning.Holds target (any.read part.path) := by
  obtain ⟨access, content, rfl, projects⟩ := projects_of_cast sound given
  obtain ⟨value, inside⟩ := Option.isSome_iff_exists.1 (projects.reaches content.value typed)
  have holds := projects.contains.reads content.value value typed inside
  simpa [read, inside] using holds

/-- A value that is put at a part that a mutable cast gives is stored. -/
theorem stores_of_castMut (sound : types.Sound meaning) (typed : any.Sound meaning)
    (given : (any.castMut types target).outcome = .ok part) {new : Value}
    (holds : meaning.Holds target new) : any.Stores meaning (any.put part.path new) := by
  obtain ⟨writable, viewed⟩ := cast_of_castMut given
  obtain ⟨access, content, rfl, projects⟩ := projects_of_cast sound viewed
  have notShared : access ≠ .shared := by
    rintro rfl
    contradiction
  exact ⟨access, content, _, rfl, notShared, rfl,
    projects.contains.writes trivial content.value new typed holds⟩

end Casts

end Any

/-! ### Calls -/

namespace Overload

variable {overload : Overload} {arguments after : List Any} {result : Any}

/-- Copied arguments are of the types they are copied as. -/
theorem forall₂_of_copyArguments (sound : types.Sound meaning) {index : Nat} {copied : List Ty}
    {values : List Value} (lengths : arguments.length = copied.length)
    (typed : ∀ any ∈ arguments, any.Sound meaning)
    (given : (copyArguments types index copied arguments).outcome = .ok values) :
    List.Forall₂ meaning.Holds copied values := by
  induction copied generalizing arguments index values with
  | nil =>
    cases given
    exact .nil
  | cons type rest ih =>
    cases arguments with
    | nil => contradiction
    | cons argument others =>
      obtain ⟨first, later⟩ := List.forall_mem_cons.1 typed
      simp only [copyArguments, Fallible.outcome_bind_eq_ok_iff] at given
      obtain ⟨part, cast, values, given, same⟩ := given
      cases same
      have casts : (argument.cast types type).outcome = .ok part :=
        Fallible.outcome_mapError_eq_ok_iff.1 cast
      exact .cons (Any.holds_of_cast sound first casts) (ih (Nat.succ.inj lengths) later given)

/-- The arguments of a call, and what it changed of them: the first, if it was borrowed mutably, has
another value of its type stored in it, and all others are as they were. -/
def Changes (meaning : Meaning) (overload : Overload) (arguments after : List Any) : Prop :=
  if overload.receiver.any (·.exclusive) then
    ∃ this rest changed, arguments = this :: rest ∧ after = changed :: rest ∧
      this.Stores meaning changed
  else after = arguments

/-- A call answers a value of the type that the overload returns, and stores in a receiver that is
borrowed mutably a value of the receiver's type. -/
theorem sound_of_invoke (sound : types.Sound meaning) (works : overload.Sound meaning)
    (typed : ∀ any ∈ arguments, any.Sound meaning)
    (answered : (overload.invoke types arguments).outcome = .ok (result, after)) :
    result.Has meaning overload.returns ∧ overload.Changes meaning arguments after := by
  obtain ⟨receiver, values, index, copied, lengths, given, rfl, ways⟩ := invoke_eq_ok answered
  unfold Changes
  rcases ways with ⟨none, rfl, rfl⟩ | ⟨parameter, this, part, some, rfl, rfl, cast⟩
  · have copies := forall₂_of_copyArguments sound lengths typed given
    have gives := works receiver values (by simp [none]) copies
    rw [none]
    exact ⟨Any.has_new gives.1, rfl⟩
  · obtain ⟨first, others⟩ := List.forall_mem_cons.1 typed
    have copies := forall₂_of_copyArguments sound lengths others given
    have received : meaning.Holds parameter.type (this.read part.path) := by
      rcases cast with ⟨_, const, _⟩ | ⟨_, mutable, _⟩
      · exact Any.holds_of_cast sound first const
      · have read := Any.holds_of_cast sound first (Any.cast_of_castMut mutable).2
        exact read
    have gives := works _ values (by simpa [some] using received) copies
    refine ⟨Any.has_new gives.1, ?_⟩
    rw [some]
    rcases cast with ⟨const, _, rfl⟩ | ⟨exclusive, mutable, rfl⟩
    · simp [const]
    · have left := gives.2 parameter some exclusive
      rw [Option.any_some, if_pos exclusive]
      exact ⟨this, copied, _, rfl, rfl, Any.stores_of_castMut sound first mutable left⟩

end Overload

/-! ### Copies and conversions -/

namespace Any

variable {access : Access} {content : Typed} {copy source destination written : Any}

/-- A copy is of the type that is copied. -/
theorem has_of_tryClone (sound : types.Sound meaning)
    (holds : meaning.Holds content.type content.value)
    (copied : ((held access content).tryClone types).outcome = .ok copy) :
    copy.Has meaning content.type := by
  simp only [tryClone] at copied
  split at copied
  · rename_i clone installed
    cases copied
    exact has_new ((sound.fixed.record content.type).clone clone installed content.value holds)
  · split at copied
    · rename_i constructor found
      rw [Fallible.outcome_bind_eq_ok_iff] at copied
      obtain ⟨⟨result, after⟩, answered, same⟩ := copied
      cases same
      have listed := List.mem_of_find?_eq_some found
      obtain ⟨works, returns⟩ := (sound.members content.type).constructors constructor listed
      have typed : ∀ any ∈ [(held access content).asRef], any.Sound meaning := by
        intro any mem
        rw [List.mem_singleton.1 mem]
        exact holds
      have gives := (Overload.sound_of_invoke sound works typed answered).1
      rw [returns] at gives
      exact gives
    · contradiction

/-- A copy of what is of its own type is of its own type. -/
theorem sound_of_tryClone (sound : types.Sound meaning) (typed : source.Sound meaning)
    (copied : (source.tryClone types).outcome = .ok copy) : copy.Sound meaning := by
  cases source with
  | empty =>
    cases copied
    trivial
  | held access content => exact (has_of_tryClone sound typed copied).sound

/-- A copy that may be missing is of the type that is copied if there is one. -/
theorem has_cloneOrEmpty (sound : types.Sound meaning)
    (holds : meaning.Holds content.type content.value) :
    ((held access content).cloneOrEmpty types).value = .empty ∨
      ((held access content).cloneOrEmpty types).value.Has meaning content.type := by
  cases copied : ((held access content).tryClone types).outcome with
  | error error =>
    have missing : ((held access content).cloneOrEmpty types).value = .empty := by
      simp only [cloneOrEmpty, Logged.value_bind, Fallible.value_run, copied]
      rfl
    exact .inl missing
  | ok copy =>
    have made : ((held access content).cloneOrEmpty types).value = copy := by
      simp only [cloneOrEmpty, Logged.value_bind, Fallible.value_run, copied]
      rfl
    rw [made]
    exact .inr (has_of_tryClone sound holds copied)

/-- How a held value is converted: copied if it is of the target, else by the conversion that was
registered last, else by copying the parent. -/
theorem value_conv_held :
    ((held access content).conv types (some target)).value =
      if content.type = target then ((held access content).cloneOrEmpty types).value
      else match (types.members content.type).conversion? target with
        | some conversion => new ⟨target, conversion.convert content.value⟩
        | none =>
          match ((held access content).asType types target).value with
          | some part => (((held access content).borrow part).cloneOrEmpty types).value
          | none => .empty := by
  simp only [conv]
  split
  · rfl
  · cases (types.members content.type).conversion? target with
    | some conversion => rfl
    | none =>
      rw [Logged.value_bind]
      cases ((held access content).asType types target).value with
      | some part => rfl
      | none => rfl

/-- The copy of a parent is of the parent's type if there is one. -/
theorem has_conv_parent (sound : types.Sound meaning)
    (holds : meaning.Holds content.type content.value) {part : Part}
    (cast : ((held access content).asType types target).value = some part) :
    (((held access content).borrow part).cloneOrEmpty types).value = .empty ∨
      (((held access content).borrow part).cloneOrEmpty types).value.Has meaning target := by
  obtain ⟨found, _⟩ := asType_eq_some_iff.1 cast
  have contains := sound.contains_of_selected found
  have aims : part.type = target := Typed.type_of_parent found
  rw [aims] at contains
  cases inside : content.value.part? part.path with
  | none =>
    have nothing : (held access content).borrow part = .empty := by
      simp [borrow, inside]
    rw [nothing]
    exact .inl rfl
  | some value =>
    rw [borrow_eq inside, aims]
    exact has_cloneOrEmpty sound (contains.reads content.value value holds inside)

/-- A conversion is of its target if there is one. -/
theorem has_conv (sound : types.Sound meaning) (typed : source.Sound meaning) (target : Ty) :
    (source.conv types (some target)).value = .empty ∨
      (source.conv types (some target)).value.Has meaning target := by
  cases source with
  | empty => exact .inl rfl
  | held access content =>
    rw [value_conv_held]
    by_cases same : content.type = target
    · rw [if_pos same, ← same]
      exact has_cloneOrEmpty sound typed
    rw [if_neg same]
    cases known : (types.members content.type).conversion? target with
    | some conversion =>
      have listed : conversion ∈ (types.members content.type).conversions :=
        List.mem_reverse.1 (List.mem_of_find?_eq_some known)
      have aims : conversion.target = target := by simpa using List.find?_some known
      have gives := (sound.members content.type).conversions conversion listed content.value typed
      rw [aims] at gives
      exact .inr (has_new gives)
    | none =>
      cases cast : ((held access content).asType types target).value with
      | none => exact .inl rfl
      | some part => exact has_conv_parent sound typed cast

/-- A conversion of what is of its own type is of its own type. -/
theorem sound_conv (sound : types.Sound meaning) (typed : source.Sound meaning)
    (target : Option Ty) : (source.conv types target).value.Sound meaning := by
  cases target with
  | none => cases source <;> trivial
  | some target =>
    rcases has_conv sound typed target with nothing | has
    · rw [nothing]
      trivial
    · exact has.sound

/-- What a conversion that may fail answers is the conversion, which is not empty. -/
theorem eq_conv_of_tryConv {target : Option Ty} {converted : Any}
    (answered : (source.tryConv types target).outcome = .ok converted) :
    converted = (source.conv types target).value ∧ converted ≠ .empty := by
  unfold tryConv at answered
  split at answered
  · contradiction
  simp only [Fallible.outcome_bind_eq_ok_iff, Fallible.outcome_ofLogged] at answered
  obtain ⟨_, made, rest⟩ := answered
  cases made
  split at rest
  · contradiction
  rename_i filled
  cases rest
  refine ⟨rfl, fun nothing => ?_⟩
  rw [nothing] at filled
  exact absurd rfl filled

/-- A conversion that answers is of its target. -/
theorem has_of_tryConv (sound : types.Sound meaning) (typed : source.Sound meaning)
    {converted : Any}
    (answered : (source.tryConv types (some target)).outcome = .ok converted) :
    converted.Has meaning target := by
  obtain ⟨rfl, filled⟩ := eq_conv_of_tryConv answered
  exact (has_conv sound typed target).resolve_left filled

/-! ### Changes -/

/-- What a source brings to a place of some type is of this type. -/
theorem holds_of_brings (sound : types.Sound meaning) (typed : source.Sound meaning) {new : Value}
    (brings : source.Brings types type new) : meaning.Holds type new := by
  unfold Brings at brings
  split at brings
  · rename_i same
    obtain ⟨copy, copied, content⟩ := brings
    cases source with
    | empty => contradiction
    | held access stored =>
      have kind : stored.type = type := Option.some.inj same
      rw [← kind]
      obtain ⟨_, value, rfl, holds⟩ := has_of_tryClone sound typed copied
      cases content
      exact holds
  · rcases has_conv sound typed type with nothing | ⟨_, value, made, holds⟩
    · rw [nothing] at brings
      contradiction
    · rw [made] at brings
      cases brings
      exact holds

/-- A write stores. -/
theorem stores_of_write (sound : types.Sound meaning) (typed : source.Sound meaning)
    (done : (destination.write types source).outcome = .ok ((), written)) :
    destination.Stores meaning written := by
  obtain ⟨access, old, new, same, writable, changed, brings⟩ := write_eq_ok done
  exact ⟨access, old, new, same, writable, changed, holds_of_brings sound typed brings⟩

/-- Overwriting through an exact mutable reference stores. -/
theorem stores_of_set? {value : Value} (holds : meaning.Holds type value)
    (done : destination.set? type value = some written) : destination.Stores meaning written := by
  cases destination with
  | empty => contradiction
  | held access content =>
    have writable : access ≠ .shared := by
      rintro rfl
      contradiction
    have exact : content.type = type ∧ written = held access ⟨type, value⟩ := by
      cases access with
      | shared => contradiction
      | owned | exclusive => simpa [set?, eq_comm] using done
    obtain ⟨rfl, rfl⟩ := exact
    exact ⟨access, content, value, rfl, writable, rfl, holds⟩

/-- Overwriting what a mutable reference is turned into stores. -/
theorem stores_of_intoMut {content : Typed} {value : Value}
    (holds : meaning.Holds content.type content.value)
    (done : (destination.intoMut types content.type).outcome = .ok value) :
    destination.Stores meaning (held .exclusive content) := by
  cases destination with
  | empty => contradiction
  | held access old =>
    simp only [intoMut] at done
    split at done
    · contradiction
    rename_i same
    have kind : old.type = content.type := not_not.1 same
    cases access with
    | owned | shared => contradiction
    | exclusive =>
      refine ⟨.exclusive, old, content.value, rfl, by simp, ?_, kind ▸ holds⟩
      rw [kind]

/-- Assigning a text stores. -/
theorem stores_of_setText (sound : types.Sound meaning) (typed : destination.Sound meaning)
    {text : String} (done : (destination.setText types text).outcome = .ok ((), written)) :
    destination.Stores meaning written := by
  cases destination with
  | empty => contradiction
  | held access content =>
    simp only [setText] at done
    split at done
    · contradiction
    rename_i shape shaped
    split at done
    · contradiction
    rename_i allowed
    simp only [Bool.or_eq_true, decide_eq_true_eq, not_or] at allowed
    cases done
    have takes : shape.takes text = true := by simpa using allowed.2
    have keeps := (sound.fixed.record content.type).text shape shaped content.value text takes typed
    exact ⟨access, content, _, rfl, allowed.1, rfl, keeps⟩

/-- An owned value made of one of its type is of its type. -/
theorem sound_of_intoOwned (sound : types.Sound meaning) (typed : source.Sound meaning)
    {owned : Any} (done : (source.intoOwned types).outcome = .ok owned) : owned.Sound meaning := by
  unfold intoOwned at done
  split at done
  · exact sound_of_tryClone sound typed done
  · cases done
    exact typed

end Any

/-! ### Properties -/

namespace Property

variable {property : Property} {name : String} {value subject changed : Any}

/-- A property that is read is of its type. -/
theorem has_of_read (sound : types.Sound meaning) (fits : property.Sound meaning)
    (typed : subject.Sound meaning)
    (given : (property.read types name subject).outcome = .ok value) :
    value.Has meaning property.type := by
  simp only [read, Fallible.outcome_bind_eq_ok_iff] at given
  obtain ⟨part, cast, same⟩ := given
  cases same
  have owner := Any.holds_of_cast sound typed (Fallible.outcome_mapError_eq_ok_iff.1 cast)
  exact Any.has_new (fits.get _ owner)

/-- A value that is adapted to a type is of it. -/
theorem holds_of_adapt (sound : types.Sound meaning) (typed : value.Sound meaning) {new : Value}
    (adapted : (adapt types target value).outcome = .ok new) : meaning.Holds target new := by
  unfold adapt at adapted
  extract_lets inherited at adapted
  clear_value inherited
  cases inherited with
  | true =>
    rw [if_pos rfl, Fallible.outcome_bind_eq_ok_iff] at adapted
    obtain ⟨part, cast, same⟩ := adapted
    cases same
    exact Any.holds_of_cast sound typed cast
  | false =>
    simp only [Bool.false_eq_true, if_false, Fallible.outcome_bind_eq_ok_iff] at adapted
    obtain ⟨converted, made, part, cast, same⟩ := adapted
    cases same
    exact Any.holds_of_cast sound (Any.has_of_tryConv sound typed made).sound cast

/-- Setting a property stores. -/
theorem stores_of_write (sound : types.Sound meaning) (fits : property.Sound meaning)
    (valued : value.Sound meaning) (typed : subject.Sound meaning)
    (done : (property.write types name value subject).outcome = .ok ((), changed)) :
    subject.Stores meaning changed := by
  unfold write at done
  split at done
  · contradiction
  rename_i set given
  simp only [Acting.attempt_bind_eq_ok_iff] at done
  obtain ⟨new, adapted, part, cast, same⟩ := done
  cases same
  have mutable := Fallible.outcome_mapError_eq_ok_iff.1 cast
  have owner := Any.holds_of_cast sound typed (Any.cast_of_castMut mutable).2
  have holds := fits.set set given _ new owner (holds_of_adapt sound valued adapted)
  exact Any.stores_of_castMut sound typed mutable holds

end Property

/-! ### Constructors, functions and enumerations -/

namespace Types

variable {arguments after : List Any} {result : Any}

/-- A constructor answers a value of its type and changes its arguments as calls do. -/
theorem sound_of_construct (sound : types.Sound meaning)
    (typed : ∀ any ∈ arguments, any.Sound meaning)
    (answered : (types.construct (some type) arguments).outcome = .ok (result, after)) :
    result.Has meaning type ∧
      ∃ overload : Overload, overload.Changes meaning arguments after := by
  simp only [construct] at answered
  split at answered
  · rename_i constructor found
    obtain ⟨works, returns⟩ :=
      (sound.members type).constructors constructor (List.mem_of_find?_eq_some found)
    obtain ⟨has, changes⟩ := Overload.sound_of_invoke sound works typed answered
    rw [returns] at has
    exact ⟨has, constructor, changes⟩
  · contradiction

/-- A function answers a value of the type it returns and changes its arguments as calls do. -/
theorem sound_of_invoke (sound : types.Sound meaning) {found : Option Ty} {name : String}
    (typed : ∀ any ∈ arguments, any.Sound meaning)
    (answered : (types.invoke found name arguments).outcome = .ok (result, after)) :
    ∃ overload : Overload, result.Has meaning overload.returns ∧
      overload.Changes meaning arguments after := by
  unfold invoke at answered
  split at answered
  · contradiction
  rename_i type
  split at answered
  · rename_i overloads listed
    unfold invokeFirst at answered
    split at answered
    · rename_i overload chosen
      have works := (sound.members type).functions name overloads listed overload
        (List.mem_of_find?_eq_some chosen)
      exact ⟨overload, Overload.sound_of_invoke sound works typed answered⟩
    · contradiction
  · contradiction

/-- A text that names a value of an enumeration gives one of its type. -/
theorem has_of_enumFromString (sound : types.Sound meaning) {text : String}
    (given : (types.enumFromString (some type) text).outcome = .ok result) :
    result.Has meaning type := by
  simp only [enumFromString, enumeration] at given
  cases known : (types.record type).enumeration with
  | none =>
    rw [known, Fallible.outcome_bind_eq_ok_iff] at given
    obtain ⟨_, found, _⟩ := given
    contradiction
  | some enumeration =>
    simp only [known, Fallible.outcome_bind_eq_ok_iff, Fallible.outcome_pure] at given
    obtain ⟨_, same, given⟩ := given
    cases same
    dsimp only at given
    split at given
    · rename_i constant named
      obtain ⟨found, kind⟩ := Option.filter_eq_some_iff.1 named
      have holds := (sound.members type).constants text constant found
      have has := Any.has_of_tryClone sound holds given
      rw [of_decide_eq_true kind] at has
      exact has
    · split at given
      · contradiction
      · split at given
        · rename_i value stands
          cases given
          exact Any.has_new
            ((sound.fixed.record type).fromInteger enumeration known _ value stands)
        · contradiction

end Types

end Reflection
