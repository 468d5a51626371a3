import Reflection.Any.Call
import Reflection.Proofs.Access.Inheritance

/-!
# Arguments and parameters

A call binds each argument to the parameter in its place: the argument is cast to the type of the
parameter, mutably if the parameter borrows it so. Whether an overload takes its arguments is
decided before, by inheritance. The two agree except on elusive types
(`Overload.exists_bindsAll_iff`), so every overload that can bind takes its arguments, and one that
takes them binds unless an argument eludes its parameter (`accepted_call_binds_iff`). Binding does
not look at the body of an overload: a call either fails for a reason that no body could change, or
its body gets what the arguments were bound to (`Overload.bindsFirst`).
-/
namespace Reflection

variable {types : Types}

namespace Any

variable {access : Access} {content : Typed} {target : Ty} {place : Path}

/-- The place that parents lead to is that of the only sub-object. -/
theorem ancestor_eq_ok_iff :
    ancestor types content target = .ok place ↔
      types.ancestors content.type target = {place} := by
  have told : (types.cast content.type target).value = .found place ↔
      types.ancestors content.type target = {place} := Types.cast_eq_iff
  rw [← told]
  unfold ancestor
  cases (types.cast content.type target).value with
  | found other => simp [castPlace]
  | missing => simp [castPlace]
  | ambiguous count => simp [castPlace]

end Any

/-! ### One argument -/

namespace Parameter

variable {parameter : Parameter} {access : Access} {content : Typed} {argument : Any} {part : Part}

/-- The sub-object that an argument is cast to for a parameter, or why there is none. -/
def bind (types : Types) (parameter : Parameter) (argument : Any) : Except Error Part :=
  if parameter.exclusive then (argument.castMut types parameter.type).outcome
  else (argument.cast types parameter.type).outcome

/-- Whether a parameter that borrows mutably is given a const reference. -/
def Bars (parameter : Parameter) (access : Access) : Prop :=
  parameter.exclusive = true ∧ access = .shared

/-- Whether an argument passes for a parameter although it cannot be cast to its type. -/
def Eludes (types : Types) (parameter : Parameter) (argument : Any) : Prop :=
  ∃ content, argument.content? = some content ∧ types.Elusive content.type parameter.type

/-- An argument can be passed for a parameter that does not bar it if it is of the parameter's type
or of one that inherits from it. -/
theorem accepts_held_iff :
    parameter.accepts types (.held access content) = true ↔
      ¬parameter.Bars access ∧
        (content.type = parameter.type ∨ types.inherits content.type parameter.type = true) := by
  unfold accepts Bars
  cases parameter.exclusive with
  | false => simp
  | true => simp

/-- An argument is bound to a parameter that does not bar it, to its only sub-object of the
parameter's type. -/
theorem bind_held_eq_ok_iff :
    parameter.bind types (.held access content) = .ok part ↔
      ¬parameter.Bars access ∧ types.ancestors content.type parameter.type = {part.path} ∧
        part.type = parameter.type ∧ part.exclusive = parameter.exclusive := by
  have given {place : Except Error Path} {exclusive : Bool} :
      place.map (Part.mk · parameter.type exclusive) = .ok part ↔
        place = .ok part.path ∧ part.type = parameter.type ∧ part.exclusive = exclusive := by
    obtain ⟨path, type, mutable⟩ := part
    cases place with
    | error error => simp [Except.map]
    | ok place => simp [Except.map, eq_comm]
  unfold bind Bars
  cases wanted : parameter.exclusive with
  | false =>
    rw [if_neg Bool.false_ne_true, Any.outcome_cast, given, Any.ancestor_eq_ok_iff]
    simp
  | true =>
    rw [if_pos rfl]
    cases access with
    | shared => simp [Any.castMut]
    | owned | exclusive =>
      rw [Any.outcome_castMut rfl, given, Any.ancestor_eq_ok_iff]
      simp

/-- An argument is bound exactly if it can be passed and does not elude the parameter. -/
theorem exists_bind_iff :
    (∃ part, parameter.bind types argument = .ok part) ↔
      parameter.accepts types argument = true ∧ ¬parameter.Eludes types argument := by
  cases argument with
  | empty =>
    have fails : ∀ part, parameter.bind types .empty ≠ .ok part := by
      intro part
      unfold bind
      split <;> simp [Any.castMut, Any.cast]
    have barred : parameter.accepts types .empty = false := rfl
    refine iff_of_false ?_ ?_
    · rintro ⟨part, bound⟩
      exact fails part bound
    · rintro ⟨accepted, _⟩
      rw [barred] at accepted
      contradiction
  | held access content =>
    have eludesIff : parameter.Eludes types (.held access content) ↔
        types.Elusive content.type parameter.type := by
      simp [Eludes, Any.content?]
    rw [accepts_held_iff, eludesIff, and_assoc, ← Types.exists_ancestor_iff]
    simp only [bind_held_eq_ok_iff]
    constructor
    · rintro ⟨part, allowed, one, _⟩
      exact ⟨allowed, part.path, one⟩
    · rintro ⟨allowed, place, one⟩
      exact ⟨⟨place, parameter.type, parameter.exclusive⟩, allowed, one, rfl, rfl⟩

end Parameter

/-! ### All arguments -/

namespace Overload

variable {overload : Overload} {parameters : List Parameter} {copied : List Ty}
  {arguments : List Any} {parts : List Part} {error : Error}

/-- Arguments bound to parameters, one for one. -/
inductive BindsAll (types : Types) : List Parameter → List Any → List Part → Prop where
  | nil : BindsAll types [] [] []
  | cons {parameter : Parameter} {argument : Any} {part : Part} {parameters : List Parameter}
      {arguments : List Any} {parts : List Part} (bound : parameter.bind types argument = .ok part)
      (others : BindsAll types parameters arguments parts) :
      BindsAll types (parameter :: parameters) (argument :: arguments) (part :: parts)

/-- Whether an error is that of an argument that is not bound, at its position after the first. -/
def Misbinds (types : Types) (parameters : List Parameter) (arguments : List Any) (first : Nat)
    (error : Error) : Prop :=
  ∃ position, ∃ parameter : Parameter, ∃ argument reason,
    parameters[position]? = some parameter ∧ arguments[position]? = some argument ∧
      parameter.bind types argument = .error reason ∧ error = reason.atParam (first + position)

/-- Whether an error is one for which arguments are refused: their number is wrong, or one of them
is not bound. -/
def Refuses (types : Types) (parameters : List Parameter) (arguments : List Any) (error : Error) :
    Prop :=
  (arguments.length ≠ parameters.length ∧
      error = .of (.argumentCount parameters.length arguments.length)) ∨
    arguments.length = parameters.length ∧ Misbinds types parameters arguments 0 error

/-- Arguments are bound exactly if each can be passed and none eludes its parameter. -/
theorem exists_bindsAll_iff :
    (∃ parts, BindsAll types parameters arguments parts) ↔
      acceptsAll types parameters arguments = true ∧
        ∀ pair ∈ parameters.zip arguments, ¬pair.1.Eludes types pair.2 := by
  induction parameters generalizing arguments with
  | nil =>
    cases arguments with
    | nil => exact iff_of_true ⟨[], .nil⟩ ⟨rfl, by simp⟩
    | cons argument rest =>
      exact iff_of_false (fun ⟨_, bound⟩ => nomatch bound) (by simp [acceptsAll])
  | cons parameter others ih =>
    cases arguments with
    | nil => exact iff_of_false (fun ⟨_, bound⟩ => nomatch bound) (by simp [acceptsAll])
    | cons argument rest =>
      have split : (∃ parts, BindsAll types (parameter :: others) (argument :: rest) parts) ↔
          (∃ part, parameter.bind types argument = .ok part) ∧
            ∃ parts, BindsAll types others rest parts := by
        constructor
        · rintro ⟨_, _ | ⟨bound, later⟩⟩
          exact ⟨⟨_, bound⟩, _, later⟩
        · rintro ⟨⟨part, bound⟩, parts, later⟩
          exact ⟨part :: parts, .cons bound later⟩
      rw [split, ih, Parameter.exists_bind_iff]
      simp only [acceptsAll, Bool.and_eq_true, List.zip_cons_cons, List.forall_mem_cons]
      exact and_and_and_comm

/-- Bound arguments are as many as there are parameters. -/
theorem BindsAll.length (bound : BindsAll types parameters arguments parts) :
    arguments.length = parameters.length := by
  induction bound with
  | nil => rfl
  | cons _ _ ih => exact congrArg Nat.succ ih

/-- Every one of bound arguments is bound. -/
theorem BindsAll.bind (bound : BindsAll types parameters arguments parts) {position : Nat}
    {parameter : Parameter} {argument : Any} (stands : parameters[position]? = some parameter)
    (given : arguments[position]? = some argument) :
    ∃ part, parameter.bind types argument = .ok part := by
  induction bound generalizing position with
  | nil => contradiction
  | cons here _ ih =>
    cases position with
    | zero =>
      cases stands
      cases given
      exact ⟨_, here⟩
    | succ position => exact ih stands given

/-- Arguments that are bound are not refused. -/
theorem BindsAll.not_refuses (bound : BindsAll types parameters arguments parts) :
    ¬Refuses types parameters arguments error := by
  rintro (⟨counted, _⟩ | ⟨_, position, parameter, argument, reason, stands, given, failed, _⟩)
  · exact counted bound.length
  · obtain ⟨part, works⟩ := bound.bind stands given
    rw [works] at failed
    contradiction

/-- Arguments are refused with an error about a parameter. -/
theorem Refuses.invalidParam (refuses : Refuses types parameters arguments error) :
    ∃ index cause, error = ⟨.invalidParam index, cause⟩ := by
  rcases refuses with ⟨_, rfl⟩ | ⟨_, position, _, _, reason, _, _, _, rfl⟩
  · exact ⟨_, _, rfl⟩
  · exact ⟨0 + position, reason.cause, rfl⟩

/-- The parameters of arguments that are copied out. -/
def byCopy (copied : List Ty) : List Parameter := copied.map (⟨·, false⟩)

/-- What is read from arguments at the sub-objects that they were bound to. -/
def readAll (arguments : List Any) (parts : List Part) : List Value :=
  arguments.zipWith (fun argument part => argument.read part.path) parts

/-- Arguments are copied out from where they are bound, or the first that is not bound is reported.
-/
theorem copyArguments_cases (types : Types) (index : Nat)
    (lengths : arguments.length = copied.length) :
    (∃ parts, BindsAll types (byCopy copied) arguments parts ∧
        (copyArguments types index copied arguments).outcome = .ok (readAll arguments parts)) ∨
      ∃ error, Misbinds types (byCopy copied) arguments index error ∧
        (copyArguments types index copied arguments).outcome = .error error := by
  induction copied generalizing arguments index with
  | nil =>
    obtain rfl : arguments = [] := List.length_eq_zero_iff.1 lengths
    exact .inl ⟨[], .nil, rfl⟩
  | cons type rest ih =>
    cases arguments with
    | nil => contradiction
    | cons argument others =>
      simp only [copyArguments, Fallible.outcome_bind, Fallible.outcome_mapError]
      cases cast : (argument.cast types type).outcome with
      | error reason =>
        exact .inr ⟨reason.atParam index,
          ⟨0, ⟨type, false⟩, argument, reason, rfl, rfl, cast, rfl⟩, rfl⟩
      | ok part =>
        rcases ih (index + 1) (Nat.succ.inj lengths) with
          ⟨parts, bound, copies⟩ | ⟨error, misbinds, failed⟩
        · have here : (Parameter.mk type false).bind types argument = .ok part := cast
          refine .inl ⟨part :: parts, .cons here bound, ?_⟩
          simp only [Except.mapError, Except.bind, copies]
          rfl
        · obtain ⟨position, parameter, found, reason, stands, given, unbound, rfl⟩ := misbinds
          have later : index + 1 + position = index + (position + 1) := by omega
          refine .inr ⟨reason.atParam (index + 1 + position), ?_, ?_⟩
          · exact ⟨position + 1, parameter, found, reason, stands, given, unbound, by rw [later]⟩
          · simp only [Except.mapError, Except.bind, failed]

/-! ### Calls -/

/-- The overload with another body. -/
def withBody (overload : Overload) (body : Value → List Value → Value × Value) : Overload :=
  { overload with body }

/-- What a call answers when its arguments are bound: the body gets the receiver and the copied
arguments as they are read there, and only a receiver that is borrowed mutably is changed, to what
the body leaves of it. -/
def answer (overload : Overload) (arguments : List Any) (parts : List Part) : Any × List Any :=
  match overload.receiver, arguments, parts with
  | some parameter, this :: rest, part :: others =>
    let (result, receiver) := overload.body (this.read part.path) (readAll rest others)
    (.new ⟨overload.returns, result⟩,
      if parameter.exclusive then this.put part.path receiver :: rest else arguments)
  | _, _, _ =>
    (.new ⟨overload.returns, (overload.body .unit (readAll arguments parts)).1⟩, arguments)

/-- What a call without a receiver answers. -/
theorem answer_of_none (overload : Overload) (received : overload.receiver = none) :
    overload.answer arguments parts =
      (.new ⟨overload.returns, (overload.body .unit (readAll arguments parts)).1⟩, arguments) := by
  unfold answer
  rw [received]

/-- What a call with a receiver answers. -/
theorem answer_of_some (overload : Overload) {parameter : Parameter} {this : Any} {rest : List Any}
    {part : Part} {others : List Part} (received : overload.receiver = some parameter) :
    overload.answer (this :: rest) (part :: others) =
      let left := overload.body (this.read part.path) (readAll rest others)
      (.new ⟨overload.returns, left.1⟩,
        if parameter.exclusive then this.put part.path left.2 :: rest else this :: rest) := by
  unfold answer
  rw [received]

/-- A call answers an owned value of the type that the overload returns. -/
theorem fst_answer (overload : Overload) (arguments : List Any) (parts : List Part) :
    ∃ value, (overload.answer arguments parts).1 = .new ⟨overload.returns, value⟩ := by
  unfold answer
  split <;> exact ⟨_, rfl⟩

/-- A call with the wrong number of arguments fails. -/
theorem outcome_invoke_of_miscount (overload : Overload)
    (miscounted : arguments.length ≠ overload.arity) :
    (overload.invoke types arguments).outcome =
      .error (.of (.argumentCount overload.arity arguments.length)) := by
  unfold invoke
  rw [if_pos miscounted]
  rfl

/-- A call without a receiver copies out its arguments. -/
theorem outcome_invoke_of_none (overload : Overload) (counted : arguments.length = overload.arity)
    (received : overload.receiver = none) :
    (overload.invoke types arguments).outcome =
      (copyArguments types 0 overload.copied arguments).outcome.map fun values =>
        (.new ⟨overload.returns, (overload.body .unit values).1⟩, arguments) := by
  unfold invoke
  rw [if_neg (not_not.2 counted), received]
  exact Acting.outcome_on_attempt_bind arguments _ _

/-- A call with a receiver binds it and copies out the other arguments. A receiver that is borrowed
mutably is bound last. -/
theorem outcome_invoke_of_some (overload : Overload) {parameter : Parameter} {this : Any}
    {rest : List Any} (counted : (this :: rest).length = overload.arity)
    (received : overload.receiver = some parameter) :
    let copies := (copyArguments types 1 overload.copied rest).outcome
    let bound := (parameter.bind types this).mapError (·.atParam 0)
    let finish := fun (part : Part) values =>
      let left := overload.body (this.read part.path) values
      (Any.new ⟨overload.returns, left.1⟩,
        if parameter.exclusive then this.put part.path left.2 :: rest else this :: rest)
    (overload.invoke types (this :: rest)).outcome =
      if parameter.exclusive then copies.bind fun values => bound.map fun part => finish part values
      else bound.bind fun part => copies.map fun values => finish part values := by
  intro copies bound finish
  unfold invoke
  rw [if_neg (not_not.2 counted), received]
  cases exclusive : parameter.exclusive with
  | false =>
    simp only [Bool.false_eq_true, if_false, Acting.outcome_on_attempt_bind,
      Fallible.outcome_mapError, bound, Parameter.bind, exclusive, finish]
    rfl
  | true =>
    simp only [if_true, Acting.outcome_on_attempt_bind, Fallible.outcome_mapError, bound,
      Parameter.bind, exclusive, finish]
    rfl

/-- Whether a call is decided by its arguments before the body of the overload runs: whatever the
body, the call fails since its arguments are refused, or it answers by giving the body what its
arguments were bound to. -/
def BindsFirst (types : Types) (overload : Overload) (arguments : List Any) : Prop :=
  (∃ parts, BindsAll types overload.parameters arguments parts ∧
      ∀ body, ((overload.withBody body).invoke types arguments).outcome =
        .ok ((overload.withBody body).answer arguments parts)) ∨
    ∃ error, Refuses types overload.parameters arguments error ∧
      ∀ body, ((overload.withBody body).invoke types arguments).outcome = .error error

/-- A call without a receiver is decided by its arguments. -/
theorem bindsFirst_of_none (counted : arguments.length = overload.arity)
    (received : overload.receiver = none) : overload.BindsFirst types arguments := by
  have all : overload.parameters = byCopy overload.copied := by
    simp [parameters, received, byCopy]
  have lengths : arguments.length = overload.copied.length := by
    simpa [arity, all, byCopy] using counted
  rcases copyArguments_cases types 0 lengths with ⟨parts, bound, copies⟩ | ⟨error, misbinds, failed⟩
  · refine .inl ⟨parts, all ▸ bound, fun body => ?_⟩
    rw [outcome_invoke_of_none (overload.withBody body) counted received,
      answer_of_none (overload.withBody body) received]
    exact congrArg (Except.map _) copies
  · refine .inr ⟨error, .inr ⟨counted, all ▸ misbinds⟩, fun body => ?_⟩
    rw [outcome_invoke_of_none (overload.withBody body) counted received]
    exact congrArg (Except.map _) failed

/-- A call with a receiver is decided by its arguments. -/
theorem bindsFirst_of_some {parameter : Parameter} {this : Any} {rest : List Any}
    (counted : (this :: rest).length = overload.arity)
    (received : overload.receiver = some parameter) :
    overload.BindsFirst types (this :: rest) := by
  have all : overload.parameters = parameter :: byCopy overload.copied := by
    simp [parameters, received, byCopy]
  have lengths : rest.length = overload.copied.length := by
    simpa [arity, all, byCopy] using counted
  have refusesThis : ∀ reason, parameter.bind types this = .error reason →
      Refuses types overload.parameters (this :: rest) (reason.atParam 0) := by
    intro reason unbound
    rw [all]
    exact .inr ⟨all ▸ counted, 0, parameter, this, reason, rfl, rfl, unbound, rfl⟩
  have refusesRest : ∀ error, Misbinds types (byCopy overload.copied) rest 1 error →
      Refuses types overload.parameters (this :: rest) error := by
    rintro _ ⟨position, found, argument, reason, stands, given, unbound, rfl⟩
    have later : 1 + position = 0 + (position + 1) := by omega
    rw [all, later]
    exact .inr ⟨all ▸ counted, position + 1, found, argument, reason, stands, given, unbound, rfl⟩
  have calls := fun body =>
    @outcome_invoke_of_some types (overload.withBody body) parameter this rest counted received
  cases here : parameter.bind types this with
  | ok part =>
    rcases copyArguments_cases types 1 lengths with
      ⟨parts, bound, copies⟩ | ⟨error, misbinds, failed⟩
    · refine .inl ⟨part :: parts, all ▸ .cons here bound, fun body => ?_⟩
      rw [calls body, answer_of_some (overload.withBody body) received]
      simp only [withBody, here, copies]
      cases parameter.exclusive <;> rfl
    · refine .inr ⟨error, refusesRest error misbinds, fun body => ?_⟩
      rw [calls body]
      simp only [withBody, here, failed]
      cases parameter.exclusive <;> rfl
  | error reason =>
    rcases copyArguments_cases types 1 lengths with
      ⟨parts, bound, copies⟩ | ⟨error, misbinds, failed⟩
    · refine .inr ⟨reason.atParam 0, refusesThis reason here, fun body => ?_⟩
      rw [calls body]
      simp only [withBody, here, copies]
      cases parameter.exclusive <;> rfl
    · -- Of two arguments that are not bound, the one that is tried first is reported.
      cases exclusive : parameter.exclusive with
      | true =>
        refine .inr ⟨error, refusesRest error misbinds, fun body => ?_⟩
        rw [calls body, exclusive, if_pos rfl]
        exact congrArg (Except.bind · _) failed
      | false =>
        refine .inr ⟨reason.atParam 0, refusesThis reason here, fun body => ?_⟩
        rw [calls body, exclusive, if_neg Bool.false_ne_true, here]
        rfl

/-- Every call is decided by its arguments before the body runs. -/
theorem bindsFirst (types : Types) (overload : Overload) (arguments : List Any) :
    overload.BindsFirst types arguments := by
  by_cases counted : arguments.length = overload.arity
  case neg =>
    exact .inr ⟨_, .inl ⟨counted, rfl⟩,
      fun body => outcome_invoke_of_miscount (overload.withBody body) counted⟩
  cases received : overload.receiver with
  | none => exact bindsFirst_of_none counted received
  | some parameter =>
    cases arguments with
    | nil => simp [arity, parameters, received] at counted
    | cons this rest => exact bindsFirst_of_some counted received

/-- Arguments that are bound are passed to the body. -/
theorem BindsAll.invoke (bound : BindsAll types overload.parameters arguments parts) :
    ∃ parts, BindsAll types overload.parameters arguments parts ∧
      (overload.invoke types arguments).outcome = .ok (overload.answer arguments parts) := by
  rcases bindsFirst types overload arguments with ⟨parts, binds, answers⟩ | ⟨error, refuses, _⟩
  · exact ⟨parts, binds, answers overload.body⟩
  · exact absurd refuses bound.not_refuses

/-- A call whose arguments are not all bound fails with an error about a parameter. -/
theorem invoke_of_not_bindsAll
    (unbound : ¬∃ parts, BindsAll types overload.parameters arguments parts) :
    ∃ index cause,
      (overload.invoke types arguments).outcome = .error ⟨.invalidParam index, cause⟩ := by
  rcases bindsFirst types overload arguments with ⟨parts, binds, _⟩ | ⟨error, refuses, fails⟩
  · exact absurd ⟨parts, binds⟩ unbound
  · obtain ⟨index, cause, rfl⟩ := refuses.invalidParam
    exact ⟨index, cause, fails overload.body⟩

/-- Whether an argument passes for its parameter although it cannot be cast to the parameter's
type. -/
def Eluded (types : Types) (overload : Overload) (arguments : List Any) : Prop :=
  ∃ pair ∈ overload.parameters.zip arguments, pair.1.Eludes types pair.2

/-- An overload binds its arguments exactly if it takes them and none eludes its parameter. -/
theorem exists_bindsAll_parameters_iff :
    (∃ parts, BindsAll types overload.parameters arguments parts) ↔
      overload.accepts types arguments = true ∧ ¬overload.Eluded types arguments := by
  rw [exists_bindsAll_iff]
  simp [accepts, Eluded]

end Overload

/-! ### Several overloads -/

section Overloads

open Overload

variable {overloads : List Overload} {overload : Overload} {arguments : List Any}

/-- Whether an overload of a list takes some arguments and none before it does. -/
def Overload.IsFirst (types : Types) (overloads : List Overload) (arguments : List Any)
    (overload : Overload) : Prop :=
  overload.accepts types arguments = true ∧
    ∃ index : Nat, overloads[index]? = some overload ∧
      ∀ (earlier : Nat) (other : Overload), earlier < index →
        overloads[earlier]? = some other → other.accepts types arguments = false

/-- The overload that is called is the first in the list that takes the arguments. -/
theorem firstAccepting_eq_some_iff :
    firstAccepting types overloads arguments = some overload ↔
      overload.IsFirst types overloads arguments := by
  unfold firstAccepting IsFirst
  rw [List.find?_eq_some_iff_getElem]
  refine and_congr_right fun _ => ⟨?_, ?_⟩
  · rintro ⟨index, bound, rfl, before⟩
    refine ⟨index, List.getElem?_eq_getElem bound, fun earlier other sooner stands => ?_⟩
    obtain ⟨_, rfl⟩ := List.getElem?_eq_some_iff.1 stands
    simpa using before earlier sooner
  · rintro ⟨index, stands, before⟩
    obtain ⟨bound, rfl⟩ := List.getElem?_eq_some_iff.1 stands
    refine ⟨index, bound, rfl, fun earlier sooner => ?_⟩
    have refused := before earlier _ sooner (List.getElem?_eq_getElem (sooner.trans bound))
    simp [refused]

/-- No overload is called exactly if none takes the arguments. -/
theorem firstAccepting_eq_none_iff :
    firstAccepting types overloads arguments = none ↔
      ∀ overload ∈ overloads, overload.accepts types arguments = false := by
  simp [firstAccepting]

/-- Whether a call goes to the first overload of a list that takes the arguments, and fails if there
is none, and then leaves the arguments as they were. -/
structure Resolves (types : Types) (overloads : List Overload) (arguments : List Any)
    (call : Acted (List Any) Error Any) : Prop where
  /-- The first overload that takes the arguments is called. -/
  calls : ∀ overload : Overload, overload.IsFirst types overloads arguments →
    call = overload.invoke types arguments
  /-- Without one, there is no function to call. -/
  fails : (∀ overload ∈ overloads, overload.accepts types arguments = false) →
    ∃ cause, call.value = (.error ⟨.invalidFunction, cause⟩, arguments)

/-- A function calls the first of its overloads that takes the arguments. -/
theorem resolves_invokeFirst (types : Types) (name : String) (overloads : List Overload)
    (arguments : List Any) :
    Resolves types overloads arguments (invokeFirst types name overloads arguments) := by
  unfold invokeFirst
  refine ⟨fun overload first => ?_, fun none => ?_⟩
  · rw [firstAccepting_eq_some_iff.2 first]
  · rw [firstAccepting_eq_none_iff.2 none]
    exact ⟨_, rfl⟩

/-- A type makes a value by the first of its constructors that takes the arguments. -/
theorem resolves_construct (types : Types) (type : Ty) (arguments : List Any) :
    Resolves types (types.members type).constructors arguments
      (types.construct (some type) arguments) := by
  unfold Types.construct
  refine ⟨fun constructor first => ?_, fun none => ?_⟩
  · simp only [firstAccepting_eq_some_iff.2 first]
  · simp only [firstAccepting_eq_none_iff.2 none]
    exact ⟨_, rfl⟩

/-- When an accepted call binds. For every list of overloads or constructors, all parents that types
declare and any arguments: if some overload takes the arguments, the first that does is called, by
name or to construct a value. The call fails with an error about a parameter exactly if some
argument eludes its parameter, since parents lead to several sub-objects of the parameter's type or
to one just beyond the limit; otherwise all arguments are bound, and the body runs with what they
are bound to. -/
theorem accepted_call_binds_iff
    (accepted : ∃ overload ∈ overloads, overload.accepts types arguments = true) :
    ∃ overload : Overload, overload.IsFirst types overloads arguments ∧
      (∀ name, invokeFirst types name overloads arguments = overload.invoke types arguments) ∧
      (∀ type, (types.members type).constructors = overloads →
        types.construct (some type) arguments = overload.invoke types arguments) ∧
      ((∃ index cause,
          (overload.invoke types arguments).outcome = .error ⟨.invalidParam index, cause⟩) ↔
        overload.Eluded types arguments) ∧
      (¬overload.Eluded types arguments →
        ∃ parts, BindsAll types overload.parameters arguments parts ∧
          (overload.invoke types arguments).outcome = .ok (overload.answer arguments parts)) := by
  have found : (firstAccepting types overloads arguments).isSome = true :=
    List.find?_isSome.2 accepted
  obtain ⟨overload, first⟩ := Option.isSome_iff_exists.1 found
  have leads : overload.IsFirst types overloads arguments := firstAccepting_eq_some_iff.1 first
  have runs : ¬overload.Eluded types arguments →
      ∃ parts, BindsAll types overload.parameters arguments parts ∧
        (overload.invoke types arguments).outcome = .ok (overload.answer arguments parts) := by
    intro graspable
    obtain ⟨parts, bound⟩ := exists_bindsAll_parameters_iff.2 ⟨leads.1, graspable⟩
    exact bound.invoke
  refine ⟨overload, leads, fun name => ?_, fun type listed => ?_, ?_, runs⟩
  · exact (resolves_invokeFirst types name overloads arguments).calls overload leads
  · exact (resolves_construct types type arguments).calls overload (listed ▸ leads)
  · constructor
    · rintro ⟨index, cause, failed⟩
      by_contra graspable
      obtain ⟨parts, _, answered⟩ := runs graspable
      rw [answered] at failed
      contradiction
    · intro eluded
      apply invoke_of_not_bindsAll
      intro bound
      exact (exists_bindsAll_parameters_iff.1 bound).2 eluded

/-- A function that replaces the node of a left side by that of a right side, and answers it. -/
def graft : Overload :=
  .exclusive (.named "Left") [.named "Right"] (.named "Node") fun _ copied =>
    (copied.headD .unit |>.field 0, copied.headD .unit)

/-- A function of a number. -/
def negate : Overload :=
  .function [.i32] .i32 fun copied => .integer (-(copied.headD .unit).toInt)

/-- Of a function of a number and one of two sides, two diamonds are passed to the second: one is
borrowed mutably as a left side, the other copied out as a right one. -/
theorem graft_binds_diamonds :
    let diamonds := [Any.held .exclusive Any.diamond, .held .shared Any.diamond]
    (∃ overload ∈ [negate, graft], overload.accepts Any.diamondTypes diamonds = true) ∧
      (∃ parts, BindsAll Any.diamondTypes graft.parameters diamonds parts ∧
        (invokeFirst Any.diamondTypes "graft" [negate, graft] diamonds).outcome =
          .ok (graft.answer diamonds parts)) ∧
      (invokeFirst Any.diamondTypes "graft" [negate, graft] diamonds).outcome =
        .ok (.new ⟨.named "Node", .integer 2⟩,
          [.held .exclusive ⟨.named "Diamond", .compound [.compound [.integer 2],
            .compound [.integer 2]]⟩, .held .shared Any.diamond]) := by
  intro diamonds
  have accepted :
      ∃ overload ∈ [negate, graft], overload.accepts Any.diamondTypes diamonds = true :=
    ⟨graft, by simp, rfl⟩
  obtain ⟨overload, first, called, _, failsIff, runs⟩ := accepted_call_binds_iff accepted
  cases firstAccepting_eq_some_iff.2 first
  have settled : ¬graft.Eluded Any.diamondTypes diamonds := by
    intro eluded
    obtain ⟨index, cause, failed⟩ := failsIff.2 eluded
    cases failed
  rw [called]
  exact ⟨accepted, runs settled, rfl⟩

/-- A function of a node. -/
def weigh : Overload :=
  .function [.named "Node"] .i32 fun copied => copied.headD .unit

/-- A function of a diamond, which counts its nodes. -/
def countNodes : Overload :=
  .function [.named "Diamond"] .i32 fun _ => .integer 2

/-- Not every accepted call binds: a function of a node takes a diamond, which has two, and fails,
although a function of a diamond comes after it. -/
theorem weigh_fails_diamond :
    ¬(∀ (types : Types) (overloads : List Overload) (arguments : List Any),
        (∃ overload ∈ overloads, overload.accepts types arguments = true) →
          ∀ name index cause, (invokeFirst types name overloads arguments).outcome ≠
            .error ⟨.invalidParam index, cause⟩) ∧
      (invokeFirst Any.diamondTypes "weigh" [weigh, countNodes] [.new Any.diamond]).outcome =
        .error ⟨.invalidParam 0, .ambiguous "Diamond" 2 "Node"⟩ ∧
      (countNodes.invoke Any.diamondTypes [.new Any.diamond]).outcome =
        .ok (.new ⟨.i32, .integer 2⟩, [.new Any.diamond]) := by
  have failed :
      (invokeFirst Any.diamondTypes "weigh" [weigh, countNodes] [.new Any.diamond]).outcome =
        .error ⟨.invalidParam 0, .ambiguous "Diamond" 2 "Node"⟩ := rfl
  refine ⟨fun always => ?_, failed, rfl⟩
  have accepted : ∃ overload ∈ [weigh, countNodes],
      overload.accepts Any.diamondTypes [.new Any.diamond] = true := ⟨weigh, by simp, rfl⟩
  exact always _ _ _ accepted "weigh" 0 _ failed

end Overloads

end Reflection
