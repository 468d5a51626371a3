import Reflection.Dictionary
import Reflection.Number.Decimal

/-!
# JSON documents

A document is a tree of scalars, arrays and objects. The members of an object stand in the order
of their keys, each key once; of two members with one key the later counts. Integers of at most
64 bits are kept apart from other numbers, which are binary numbers of 64 bits.
-/
namespace Reflection

/-- A JSON document. -/
inductive Json where
  | null
  | bool (truth : Bool)
  | integer (number : Int)
  | real (number : Number)
  | string (text : String)
  | array (elements : List Json)
  /-- The members in the order of their keys. -/
  | object (members : List (String × Json))
  deriving Repr, Inhabited

namespace Json

/-- The object of some members; of two with one key the later counts. -/
def ofMembers (members : List (String × Json)) : Json :=
  .object (Dictionary.ofList members).entries

/-- The value of a member; none where the document is no object or has no such member. -/
def member? (key : String) : Json → Option Json
  | .object members => Dictionary.lookup key members
  | _ => none

/-- The members of an object. -/
def members? : Json → Option (List (String × Json))
  | .object members => some members
  | _ => none

/-- The elements of an array. -/
def elements? : Json → Option (List Json)
  | .array elements => some elements
  | _ => none

/-- The text of a string. -/
def string? : Json → Option String
  | .string text => some text
  | _ => none

/-- A number as a document: one that is not finite has no JSON form and becomes null. -/
def ofNumber (number : Number) : Json := if number.isFinite then .real number else .null

/-- Whether the members of a document, if it is an object, stand in the order of their keys, each
key once. -/
def Ordered (document : Json) : Prop :=
  ∀ members, document.members? = some members →
    members.Pairwise fun left right => left.1 < right.1

/-- A document that has no members is ordered. -/
theorem ordered_of_no_members {document : Json} (plain : document.members? = none) :
    document.Ordered := by
  intro members found
  rw [plain] at found
  cases found

/-- The members of a dictionary are an ordered object. -/
theorem ordered_object (members : Dictionary Json) : (object members.entries).Ordered := by
  intro entries found
  cases found
  exact members.sorted

/-- An object made of members is ordered. -/
theorem ordered_ofMembers (members : List (String × Json)) : (ofMembers members).Ordered :=
  ordered_object (Dictionary.ofList members)

/-- An object made of members, no two with one key, has each of them. -/
theorem member?_ofMembers {members : List (String × Json)}
    (distinct : (members.map (·.1)).Nodup) (key : String) :
    (ofMembers members).member? key = Dictionary.lookup key members := by
  have law := Dictionary.find?_insertAll distinct .empty key
  rw [Dictionary.find?_empty, Option.or_none] at law
  exact law

end Json

end Reflection
