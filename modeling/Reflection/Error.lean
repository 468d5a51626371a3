import Reflection.Logged

/-!
# Errors of reflection

An error names its cause and the kind under which callers catch it. Kinds form a small tree
(`ErrorKind.parent`): catching a kind also catches its descendants (`ErrorKind.is`). The wording
of every cause stands in one place (`Cause.message`).
-/
namespace Reflection

/-- What callers distinguish about an error. -/
inductive ErrorKind where
  | invalidParam (index : Nat)
  | invalidType
  | invalidQualifier
  | invalidMember
  | invalidProperty
  | invalidFunction
  | expectedRefAny
  | unexpectedEmptyAny
  | notCopyable
  | ambiguousCast
  deriving DecidableEq, Repr

namespace ErrorKind

/-- The more general kind, if there is one. -/
def parent : ErrorKind → Option ErrorKind
  | .invalidQualifier | .invalidMember | .ambiguousCast => some .invalidType
  | .invalidProperty | .invalidFunction => some .invalidMember
  | _ => none

/-- How far a kind lies below a root of the tree. -/
def depth : ErrorKind → Nat
  | .invalidQualifier | .invalidMember | .ambiguousCast => 1
  | .invalidProperty | .invalidFunction => 2
  | _ => 0

/-- A parent lies one level higher. -/
theorem depth_parent {kind parent : ErrorKind} (found : kind.parent = some parent) :
    parent.depth < kind.depth := by
  cases kind <;> simp [ErrorKind.parent] at found <;> subst found <;> decide

/-- Whether a kind is another or lies below it. -/
def is (kind other : ErrorKind) : Bool :=
  kind == other ||
    match found : kind.parent with
    | some parent =>
      have : parent.depth < kind.depth := depth_parent found
      parent.is other
    | none => false
  termination_by kind.depth

/-- The argument an error is about, where it is about one. -/
def paramIndex : ErrorKind → Option Nat
  | .invalidParam index => some index
  | _ => none

/-- The name of a kind. -/
def label : ErrorKind → String
  | .invalidParam index => s!"InvalidParam({index})"
  | .invalidType => "InvalidType"
  | .invalidQualifier => "InvalidQualifier"
  | .invalidMember => "InvalidMember"
  | .invalidProperty => "InvalidProperty"
  | .invalidFunction => "InvalidFunction"
  | .expectedRefAny => "ExpectedRefAny"
  | .unexpectedEmptyAny => "UnexpectedEmptyAny"
  | .notCopyable => "NotCopyable"
  | .ambiguousCast => "AmbiguousCast"

/-- A kind in running text. -/
def display : ErrorKind → String
  | .invalidParam index => s!"invalid parameter {index}"
  | .invalidType => "invalid type"
  | .invalidQualifier => "invalid qualifier"
  | .invalidMember => "invalid member"
  | .invalidProperty => "invalid property"
  | .invalidFunction => "invalid function"
  | .expectedRefAny => "expected reference any"
  | .unexpectedEmptyAny => "unexpected empty any"
  | .notCopyable => "not copyable"
  | .ambiguousCast => "ambiguous cast"

end ErrorKind

/-- The shapes a value may be viewed in. -/
inductive ShapeKind where
  | range
  | table
  | tuple
  deriving DecidableEq, Repr

/-- The word for a shape. -/
def ShapeKind.word : ShapeKind → String
  | .range => "range"
  | .table => "table"
  | .tuple => "tuple"

/-- Why an operation failed. Types are given by name. -/
inductive Cause where
  /-- The operation needs a value and the any is empty. -/
  | emptyAny (operation : String)
  /-- A value of one type was found where another was expected. -/
  | typeMismatch (expected found : String)
  /-- A const value was to be borrowed mutably. -/
  | constBorrow (type : String)
  /-- A const value was to be cast to a mutable reference. -/
  | constCast (type : String)
  /-- A const value was to be overwritten. -/
  | constWrite (type : String)
  /-- A mutable accessor was used on a view of a const value. -/
  | constView (shape : ShapeKind) (type : String)
  /-- Parents lead to several sub-objects of the target type. -/
  | ambiguous (type : String) (count : Nat) (target : String)
  /-- No conversion leads to the target type. -/
  | noConversion (source target : String)
  /-- The type cannot be copied. -/
  | notCopyable (type : String)
  /-- A borrow was asked of an owned value. -/
  | owned (type : String)
  /-- The type has no such shape. -/
  | noShape (type : String) (shape : ShapeKind)
  /-- The type holds no text. -/
  | notString (type : String)
  /-- The text cannot be assigned. -/
  | readOnly (type : String)
  /-- The type gives no mutable access to its items. -/
  | frozen (type : String)
  /-- The range cannot be indexed. -/
  | notRandomAccess (type : String)
  /-- There is no item at this index. -/
  | indexOutOfRange (index : Nat)
  /-- There is no field at this index. -/
  | fieldOutOfRange (index : Nat)
  /-- The table holds no such key, given by its debug text. -/
  | keyNotFound (key type : String)
  /-- A call passes the wrong number of arguments. -/
  | argumentCount (expected found : Nat)
  /-- No constructor takes these arguments, given by their type names. -/
  | noConstructor (type arguments : String)
  /-- No overload takes these arguments, given by their type names. -/
  | noOverload (function arguments : String)
  /-- The type has no function of this name. -/
  | noFunction (type function : String)
  /-- There is no type to operate on. -/
  | missingType (operation : String)
  /-- The property has no setter. -/
  | readOnlyProperty (property : String)
  /-- Something failed while a property was accessed. -/
  | inProperty (property : String) (inner : Cause)
  /-- The type is no enumeration. -/
  | notEnum (type : String)
  /-- The text names no constant and is no integer. -/
  | unknownEnumText (text type : String)
  /-- The enumeration has no such value. -/
  | noEnumValue (value : Int) (type : String)
  /-- A cause given by its wording. -/
  | custom (text : String)
  deriving DecidableEq, Repr

namespace Cause

/-- The wording of a cause. -/
def message : Cause → String
  | .emptyAny operation => s!"cannot {operation} an empty any"
  | .typeMismatch expected found => s!"expected '{expected}', found '{found}'"
  | .constBorrow type => s!"cannot borrow const '{type}' as mutable"
  | .constCast type => s!"cannot cast const '{type}' to a mutable reference"
  | .constWrite type => s!"cannot write to const '{type}'"
  | .constView shape type => s!"{shape.word} '{type}' is const"
  | .ambiguous type count target => s!"'{type}' reaches {count} distinct '{target}' sub-objects"
  | .noConversion source target => s!"no conversion from '{source}' to '{target}'"
  | .notCopyable type => s!"'{type}' has no copy constructor"
  | .owned type => s!"'{type}' is owned, not a reference"
  | .noShape type shape => s!"'{type}' is not a {shape.word}"
  | .notString type => s!"'{type}' is not a string"
  | .readOnly type => s!"'{type}' is read-only"
  | .frozen type => s!"'{type}' does not allow mutable iteration"
  | .notRandomAccess type => s!"'{type}' is not a random access range"
  | .indexOutOfRange index => s!"index {index} out of range"
  | .fieldOutOfRange index => s!"field index {index} out of range"
  | .keyNotFound key type => s!"key {key} not found in '{type}'"
  | .argumentCount expected found => s!"expected {expected} arguments, found {found}"
  | .noConstructor type arguments => s!"no constructor of '{type}' accepts ({arguments})"
  | .noOverload function arguments => s!"no overload of '{function}' accepts ({arguments})"
  | .noFunction type function => s!"'{type}' has no function '{function}'"
  | .missingType operation => s!"cannot {operation} through an invalid type"
  | .readOnlyProperty property => s!"property '{property}' is read-only"
  | .inProperty property inner => s!"{property}: {inner.message}"
  | .notEnum type => s!"'{type}' is not an enum"
  | .unknownEnumText text type => s!"'{text}' is neither a constant of '{type}' nor an integer"
  | .noEnumValue value type => s!"{value} is not a value of '{type}'"
  | .custom text => text

/-- The kind under which a cause is reported where no caller gives it another. -/
def kind : Cause → ErrorKind
  | .emptyAny _ => .unexpectedEmptyAny
  | .typeMismatch .. | .noConversion .. | .noShape .. | .notString _ | .notRandomAccess _
  | .missingType _ | .notEnum _ | .custom _ => .invalidType
  | .constBorrow _ | .constCast _ | .constWrite _ | .constView .. | .readOnly _ | .frozen _ =>
    .invalidQualifier
  | .ambiguous .. => .ambiguousCast
  | .notCopyable _ => .notCopyable
  | .owned _ => .expectedRefAny
  | .indexOutOfRange _ | .fieldOutOfRange _ | .keyNotFound .. => .invalidParam 0
  | .argumentCount expected found => .invalidParam (min found expected)
  | .noConstructor .. | .noOverload .. | .noFunction .. => .invalidFunction
  | .readOnlyProperty _ | .inProperty .. => .invalidProperty
  | .unknownEnumText .. | .noEnumValue .. => .invalidParam 1

end Cause

/-- An error: its cause and the kind callers see. -/
structure Error where
  kind : ErrorKind
  cause : Cause
  deriving DecidableEq, Repr

namespace Error

/-- An error of the kind its cause has by itself. -/
def of (cause : Cause) : Error := ⟨cause.kind, cause⟩

/-- The wording of an error, without its kind. -/
def message (error : Error) : String := error.cause.message

/-- An error in full. -/
def display (error : Error) : String := s!"{error.kind.display}: {error.message}"

/-- The same cause, reported about one argument. -/
def atParam (error : Error) (index : Nat) : Error := { error with kind := .invalidParam index }

end Error

/-- A computation of the library that takes notes and may fail. -/
abbrev Attempt := Fallible Error

/-- Fail for a cause, under its own kind. -/
def fail {α : Type} (cause : Cause) : Attempt α := throw (Error.of cause)

/-- Failing answers the error of the cause. -/
@[simp] theorem outcome_fail {α : Type} (cause : Cause) :
    Fallible.outcome (fail cause : Attempt α) = .error (Error.of cause) := rfl

end Reflection
