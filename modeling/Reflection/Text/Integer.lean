import Reflection.Text.Blank

/-!
# Integers in text

An integer is written as one or more ASCII digits behind an optional sign. Natural numbers take
a plus sign only. Numbers outside the bounds given are not read.
-/
namespace Reflection.Text

/-- The number that a list of digits writes, added to what was read before. -/
def readDigits (total : Nat) : List Char → Option Nat
  | [] => some total
  | c :: rest =>
    if c.isDigit then readDigits (total * 10 + (c.toNat - '0'.toNat)) rest else none

/-- A natural number without sign. -/
def readNatural? : List Char → Option Nat
  | [] => none
  | digits => readDigits 0 digits

/-- A natural number of at most a bound, with an optional plus sign. -/
def readUnsigned? (greatest : Nat) (text : List Char) : Option Nat :=
  let digits := match text with
    | '+' :: rest => rest
    | text => text
  (readNatural? digits).filter (· ≤ greatest)

/-- An integer between two bounds, with an optional sign. -/
def readSigned? (least greatest : Int) (text : List Char) : Option Int :=
  let number := match text with
    | '+' :: rest => (readNatural? rest).map Int.ofNat
    | '-' :: rest => (readNatural? rest).map (fun magnitude => -(magnitude : Int))
    | text => (readNatural? text).map Int.ofNat
  number.filter (fun number => decide (least ≤ number) && decide (number ≤ greatest))

end Reflection.Text
