import Reflection.Any.Cast

/-!
# Calls

A call passes anys to an overload. Arguments are cast to the types of the parameters; a receiver is
borrowed, everything else is copied out. Of several overloads the first that accepts the arguments
is called, and no other (`firstAccepting`). A call acts on its arguments: what the body leaves of a
receiver that is borrowed mutably is put in its place.
-/
namespace Reflection

/-- Whether an argument can be passed for a parameter. -/
def Parameter.accepts (types : Types) (parameter : Parameter) : Any → Bool
  | .empty => false
  | .held access content =>
    !(parameter.exclusive && access = .shared) &&
      (content.type = parameter.type || types.inherits content.type parameter.type)

namespace Overload

/-- Whether arguments can be passed, one for one. -/
def acceptsAll (types : Types) : List Parameter → List Any → Bool
  | [], [] => true
  | parameter :: parameters, argument :: arguments =>
    parameter.accepts types argument && acceptsAll types parameters arguments
  | _, _ => false

/-- Whether an overload takes some arguments. -/
def accepts (types : Types) (overload : Overload) (arguments : List Any) : Bool :=
  acceptsAll types overload.parameters arguments

/-- Copy arguments out as values of some types; an error names the position of its argument. -/
def copyArguments (types : Types) : Nat → List Ty → List Any → Attempt (List Value)
  | index, type :: rest, argument :: arguments => do
    let part ← (argument.cast types type).mapError (·.atParam index)
    let values ← copyArguments types (index + 1) rest arguments
    pure (argument.read part.path :: values)
  | _, _, _ => pure []

/-- Call an overload: its result or an error, and the arguments afterwards. -/
def invoke (types : Types) (overload : Overload) (arguments : List Any) :
    Acted (List Any) Error Any :=
  Acting.on arguments <|
    if arguments.length ≠ overload.arity then
      throw (.of (.argumentCount overload.arity arguments.length))
    else match overload.receiver, arguments with
      | some parameter, this :: rest =>
        if parameter.exclusive then do
          let values ← .attempt (copyArguments types 1 overload.copied rest)
          let part ← .attempt ((this.castMut types parameter.type).mapError (·.atParam 0))
          let (result, receiver) := overload.body (this.read part.path) values
          set (this.put part.path receiver :: rest)
          pure (.new ⟨overload.returns, result⟩)
        else do
          let part ← .attempt ((this.cast types parameter.type).mapError (·.atParam 0))
          let values ← .attempt (copyArguments types 1 overload.copied rest)
          let (result, _) := overload.body (this.read part.path) values
          pure (.new ⟨overload.returns, result⟩)
      | _, arguments => do
        let values ← .attempt (copyArguments types 0 overload.copied arguments)
        let (result, _) := overload.body .unit values
        pure (.new ⟨overload.returns, result⟩)

/-- Everything that a call can do: it copies out its arguments, those of a receiver apart, casts the
receiver, and stores what the body leaves of one that is borrowed mutably. -/
theorem invoke_eq_ok {types : Types} {overload : Overload} {arguments after : List Any}
    {result : Any}
    (answered : (overload.invoke types arguments).outcome = .ok (result, after)) :
    ∃ receiver values index copied,
      copied.length = overload.copied.length ∧
      (copyArguments types index overload.copied copied).outcome = .ok values ∧
      result = .new ⟨overload.returns, (overload.body receiver values).1⟩ ∧
      ((overload.receiver = none ∧ copied = arguments ∧ after = arguments) ∨
        ∃ parameter this part, overload.receiver = some parameter ∧ arguments = this :: copied ∧
          receiver = this.read part.path ∧
          ((parameter.exclusive = false ∧ (this.cast types parameter.type).outcome = .ok part ∧
              after = arguments) ∨
            (parameter.exclusive = true ∧ (this.castMut types parameter.type).outcome = .ok part ∧
              after = this.put part.path (overload.body receiver values).2 :: copied))) := by
  unfold invoke at answered
  split at answered
  · contradiction
  rename_i counted
  have arity : arguments.length = overload.receiver.toList.length + overload.copied.length := by
    simpa [Overload.arity, parameters] using counted
  cases received : overload.receiver with
  | none =>
    simp only [received, Acting.attempt_bind_eq_ok_iff] at answered
    obtain ⟨values, given, same⟩ := answered
    cases same
    refine ⟨.unit, values, 0, arguments, ?_, given, rfl, .inl ⟨rfl, rfl, rfl⟩⟩
    simpa [received] using arity
  | some parameter =>
    cases arguments with
    | nil =>
      rw [received] at arity
      simp at arity
      omega
    | cons this rest =>
      have lengths : rest.length = overload.copied.length := by
        simpa [received, Nat.add_comm] using arity
      cases exclusive : parameter.exclusive with
      | false =>
        simp only [received, exclusive, Bool.false_eq_true, if_false,
          Acting.attempt_bind_eq_ok_iff] at answered
        obtain ⟨part, cast, values, given, same⟩ := answered
        cases same
        exact ⟨_, values, 1, rest, lengths, given, rfl, .inr ⟨parameter, this, part, rfl, rfl, rfl,
          .inl ⟨exclusive, Fallible.outcome_mapError_eq_ok_iff.1 cast, rfl⟩⟩⟩
      | true =>
        simp only [received, exclusive, if_true, Acting.attempt_bind_eq_ok_iff] at answered
        obtain ⟨values, given, part, cast, same⟩ := answered
        cases same
        exact ⟨_, values, 1, rest, lengths, given, rfl, .inr ⟨parameter, this, part, rfl, rfl, rfl,
          .inr ⟨exclusive, Fallible.outcome_mapError_eq_ok_iff.1 cast, rfl⟩⟩⟩

end Overload

/-- The first overload that takes some arguments. -/
def firstAccepting (types : Types) (overloads : List Overload) (arguments : List Any) :
    Option Overload :=
  overloads.find? (·.accepts types arguments)

/-- The types of some arguments, as an error message lists them. -/
def describeArguments (types : Types) (arguments : List Any) : String :=
  String.intercalate ", " (arguments.map (·.typeName types))

/-- A call that goes to nothing: it fails for a cause and acts on none of its arguments. -/
def callNothing (arguments : List Any) (cause : Cause) : Acted (List Any) Error Any :=
  Acting.on arguments (throw (.of cause))

/-- Call the first overload of a function that takes the arguments. -/
def invokeFirst (types : Types) (name : String) (overloads : List Overload)
    (arguments : List Any) : Acted (List Any) Error Any :=
  match firstAccepting types overloads arguments with
  | some overload => overload.invoke types arguments
  | none => callNothing arguments (.noOverload name (describeArguments types arguments))

namespace Types

/-- Make a value of a type by the first of its constructors that takes the arguments. -/
def construct (types : Types) (type : Option Ty) (arguments : List Any) :
    Acted (List Any) Error Any :=
  match type with
  | none => callNothing arguments (.missingType "construct")
  | some type =>
    match firstAccepting types (types.members type).constructors arguments with
    | some constructor => constructor.invoke types arguments
    | none =>
      callNothing arguments (.noConstructor (types.name type) (describeArguments types arguments))

/-- Call a function of a type by name. -/
def invoke (types : Types) (type : Option Ty) (name : String) (arguments : List Any) :
    Acted (List Any) Error Any :=
  match type with
  | none => callNothing arguments (.missingType "invoke")
  | some type =>
    match (types.members type).functions.find? name with
    | some overloads => invokeFirst types name overloads arguments
    | none => callNothing arguments (.noFunction (types.name type) name)

end Types

end Reflection
