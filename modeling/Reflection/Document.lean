import Reflection.Text.Quoted

/-!
# Debug documents

The debug form of a value is a tree that is laid out in two ways: on one line
(`Document.compact`), or with every element on a line of its own, indented by four spaces and
followed by a comma (`Document.pretty`).
-/
namespace Reflection

/-- How a group of elements is bracketed. -/
inductive Brackets where
  /-- A list `[…]`. -/
  | square
  /-- A set or map `{…}`. -/
  | curly
  /-- A tuple with the name of its type, which may be empty. -/
  | round (name : String)
  /-- A structure with the name of its type. -/
  | named (name : String)
  deriving DecidableEq, Repr

/-- The debug form of a value. -/
inductive Document where
  | text (line : String)
  | group (brackets : Brackets) (elements : List Document)
  /-- A field name or key and its value. -/
  | pair (key value : Document)
  deriving Repr, Inhabited

namespace Brackets

/-- What stands before the elements on one line. -/
def opening : Brackets → String
  | .square => "["
  | .curly => "\x7b"
  | .round name => name ++ "("
  | .named name => name ++ " \x7b "

/-- What stands behind the elements on one line. -/
def closing : Brackets → String
  | .square => "]"
  | .curly => "\x7d"
  | .round _ => ")"
  | .named _ => " \x7d"

/-- What stands before elements on lines of their own. -/
def prettyOpening : Brackets → String
  | .named name => name ++ " \x7b"
  | brackets => brackets.opening

/-- What stands behind elements on lines of their own. -/
def prettyClosing : Brackets → String
  | .named _ => "\x7d"
  | brackets => brackets.closing

/-- A group without elements. -/
def empty : Brackets → String
  | .square => "[]"
  | .curly => "\x7b\x7d"
  | .round name => name
  | .named name => name

/-- What follows a single element on one line: a tuple without a name keeps its comma. -/
def single : Brackets → String
  | .round "" => ","
  | _ => ""

end Brackets

/-- The margin of a line at some depth. -/
def margin (depth : Nat) : String := String.ofList (List.replicate (4 * depth) ' ')

mutual

/-- A document on one line. -/
def Document.compact : Document → String
  | .text line => line
  | .pair key value => key.compact ++ ": " ++ value.compact
  | .group brackets [] => brackets.empty
  | .group brackets [element] =>
    brackets.opening ++ element.compact ++ brackets.single ++ brackets.closing
  | .group brackets (first :: second :: rest) =>
    brackets.opening ++ first.compact ++ ", " ++ second.compact ++ compactRest rest ++
      brackets.closing

/-- Further elements on one line, each behind a comma. -/
def compactRest : List Document → String
  | [] => ""
  | element :: rest => ", " ++ element.compact ++ compactRest rest

end

mutual

/-- A document with its elements on lines of their own, below a line at some depth. -/
def Document.prettyAt (depth : Nat) : Document → String
  | .text line => line
  | .pair key value => key.prettyAt depth ++ ": " ++ value.prettyAt depth
  | .group brackets [] => brackets.empty
  | .group brackets (first :: rest) =>
    brackets.prettyOpening ++ "\n" ++ prettyLines (depth + 1) (first :: rest) ++ margin depth ++
      brackets.prettyClosing

/-- Elements on lines of their own. -/
def prettyLines (depth : Nat) : List Document → String
  | [] => ""
  | element :: rest => margin depth ++ element.prettyAt depth ++ ",\n" ++ prettyLines depth rest

end

namespace Document

/-- The elements of a group; other documents have none. -/
def elements : Document → List Document
  | .group _ elements => elements
  | _ => []

/-- A document with its elements on lines of their own. -/
def pretty (document : Document) : String := document.prettyAt 0

/-- A quoted text. -/
def quoted (text : String) : Document := .text (Text.quoted text)

/-- A list. -/
def list (elements : List Document) : Document := .group .square elements

/-- A set. -/
def set (elements : List Document) : Document := .group .curly elements

/-- A map of keys and values. -/
def map (entries : List (Document × Document)) : Document :=
  .group .curly (entries.map fun entry => .pair entry.1 entry.2)

/-- A tuple with the name of its type. -/
def tuple (name : String) (elements : List Document) : Document := .group (.round name) elements

/-- A structure with named fields. -/
def record (name : String) (fields : List (String × Document)) : Document :=
  .group (.named name) (fields.map fun field => .pair (.text field.1) field.2)

end Document

end Reflection
