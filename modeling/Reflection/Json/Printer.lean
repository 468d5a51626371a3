import Reflection.Json.Basic

/-!
# Writing JSON

A document is written on one line without blanks, or with two spaces of indentation per level.
Strings escape the quote, the backslash and control characters only. Numbers that are no
integers are written in their shortest decimal.
-/
namespace Reflection.Json

/-- A character of a string. -/
def escape (c : Char) : List Char :=
  if c = '"' then ['\\', '"']
  else if c = '\\' then ['\\', '\\']
  else if c = '\x08' then ['\\', 'b']
  else if c = '\x0c' then ['\\', 'f']
  else if c = '\n' then ['\\', 'n']
  else if c = '\r' then ['\\', 'r']
  else if c = '\t' then ['\\', 't']
  else if c.toNat < 0x20 then
    let digits := Nat.toDigits 16 c.toNat
    '\\' :: 'u' :: (List.replicate (4 - digits.length) '0' ++ digits)
  else [c]

/-- A string between quotes. -/
def quote (text : String) : String :=
  String.ofList ('"' :: (text.toList.flatMap escape ++ ['"']))

/-- How numbers are written: positionally from `1e-5` to below `1e16`, ties to the even digit,
and otherwise with an exponent that always has its sign. -/
def numberStyle : Number.Style := ⟨-4, 16, false, true, "null", "null"⟩

mutual

/-- A document on one line. -/
def compact : Json → String
  | .null => "null"
  | .bool truth => if truth then "true" else "false"
  | .integer number => toString number
  | .real number => if number.isFinite then number.text numberStyle .double else "null"
  | .string text => quote text
  | .array elements => "[" ++ compactElements true elements ++ "]"
  | .object members => "\x7b" ++ compactMembers true members ++ "\x7d"

/-- Elements on one line, each but the first behind a comma. -/
def compactElements (first : Bool) : List Json → String
  | [] => ""
  | element :: rest =>
    (if first then "" else ",") ++ element.compact ++ compactElements false rest

/-- Members on one line, each but the first behind a comma. -/
def compactMembers (first : Bool) : List (String × Json) → String
  | [] => ""
  | (key, value) :: rest =>
    (if first then "" else ",") ++ quote key ++ ":" ++ value.compact ++ compactMembers false rest

end

/-- The margin of a line at some depth. -/
def margin (depth : Nat) : String := String.ofList (List.replicate (2 * depth) ' ')

mutual

/-- A document over several lines, below a line at some depth. -/
def prettyAt (depth : Nat) : Json → String
  | .array [] => "[]"
  | .array (first :: rest) =>
    "[\n" ++ prettyElements (depth + 1) true (first :: rest) ++ "\n" ++ margin depth ++ "]"
  | .object [] => "\x7b\x7d"
  | .object (first :: rest) =>
    "\x7b\n" ++ prettyMembers (depth + 1) true (first :: rest) ++ "\n" ++ margin depth ++ "\x7d"
  | .null => compact .null
  | .bool truth => compact (.bool truth)
  | .integer number => compact (.integer number)
  | .real number => compact (.real number)
  | .string text => compact (.string text)

/-- Elements on lines of their own. -/
def prettyElements (depth : Nat) (first : Bool) : List Json → String
  | [] => ""
  | element :: rest =>
    (if first then "" else ",\n") ++ margin depth ++ element.prettyAt depth ++
      prettyElements depth false rest

/-- Members on lines of their own. -/
def prettyMembers (depth : Nat) (first : Bool) : List (String × Json) → String
  | [] => ""
  | (key, value) :: rest =>
    (if first then "" else ",\n") ++ margin depth ++ quote key ++ ": " ++ value.prettyAt depth ++
      prettyMembers depth false rest

end

/-- A document over several lines. -/
def pretty (document : Json) : String := document.prettyAt 0

end Reflection.Json
