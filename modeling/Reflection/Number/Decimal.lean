import Reflection.Number.Rounding

/-!
# Decimal text

The shortest decimal of a number is the one with the fewest digits among those that round to it,
and of these the nearest. A style says how its digits are laid out: positionally, or with an
exponent outside a range of magnitudes. Reading a decimal rounds its exact value once.
-/
namespace Reflection

namespace Number

/-- The numbers that round to a finite number, as quotients over one denominator: the number
itself and the two ends of the interval around it. -/
structure Neighbourhood where
  value : Nat
  lower : Nat
  upper : Nat
  denominator : Nat
  /-- Whether the ends themselves round to the number. -/
  closed : Bool

/-- The interval of the magnitudes that round to a finite number. -/
def neighbourhood (format : Format) (mantissa : Nat) (exponent : Int) : Neighbourhood :=
  let narrow := mantissa = Nat.pow 2 (format.precision - 1) ∧ exponent > format.least
  let (unit, denominator) := scaled 1 4 (-exponent)
  { value := 4 * mantissa * unit
    lower := (4 * mantissa - if narrow then 1 else 2) * unit
    upper := (4 * mantissa + 2) * unit
    denominator
    closed := mantissa % 2 = 0 }

/-- Whether a quotient lies in the interval. -/
def Neighbourhood.contains (around : Neighbourhood) (numerator denominator : Nat) : Bool :=
  let point := numerator * around.denominator
  if around.closed then
    around.lower * denominator ≤ point && point ≤ around.upper * denominator
  else around.lower * denominator < point && point < around.upper * denominator

/-- How many digits stand before the point of a positive quotient: the least power of ten above
it. -/
def magnitude (numerator denominator : Nat) : Int :=
  let guess : Int := ((numerator.log2 : Int) - denominator.log2) * 1233 / 4096
  let above (power : Int) : Bool :=
    if power < 0 then numerator * Nat.pow 10 (-power).toNat < denominator
    else numerator < denominator * Nat.pow 10 power.toNat
  if above (guess - 1) then guess - 1
  else if above guess then guess
  else if above (guess + 1) then guess + 1
  else guess + 2

/-- The decimals `digits * 10 ^ (power - count)` next to a number on the grid of `count` digits
that round to it; of two the nearer, and on a tie the greater or the even one. -/
def onGrid? (tiesUp : Bool) (around : Neighbourhood) (power : Int) (count : Nat) : Option Nat :=
  let place := power - count
  let (tens, ones) :=
    if place < 0 then (1, Nat.pow 10 (-place).toNat) else (Nat.pow 10 place.toNat, 1)
  let below := around.value * ones / (around.denominator * tens)
  let above := below + 1
  let fits (digits : Nat) : Bool := around.contains (digits * tens) ones
  match fits below, fits above with
  | true, true =>
    let twice := 2 * around.value * ones
    let middle := (below + above) * tens * around.denominator
    if twice < middle ∨ (twice = middle ∧ !tiesUp ∧ below % 2 = 0) then some below
    else some above
  | true, false => some below
  | false, true => some above
  | false, false => none

/-- Search the grids of more and more digits. -/
def searchGrids (tiesUp : Bool) (around : Neighbourhood) (power : Int) : Nat → Nat → Nat × Nat
  | 0, count => (around.value * Nat.pow 10 count / around.denominator, count)
  | fuel + 1, count =>
    match onGrid? tiesUp around power count with
    | some digits => (digits, count)
    | none => searchGrids tiesUp around power fuel (count + 1)

/-- Drop the zeros at the end of a digit list. -/
def dropZeros (digits : List Char) : List Char :=
  (digits.reverse.dropWhile (· == '0')).reverse

/-- The shortest decimal of a positive number: its digits without zeros at the end, and how many
of them stand before the point. -/
def shortest (tiesUp : Bool) (format : Format) (mantissa : Nat) (exponent : Int) :
    List Char × Int :=
  let around := neighbourhood format mantissa exponent
  let power := magnitude around.value around.denominator
  let (digits, count) := searchGrids tiesUp around power 17 1
  let text := Nat.toDigits 10 digits
  (dropZeros text, power + text.length - count)

/-- How numbers are laid out as text. -/
structure Style where
  /-- The fewest digits before the point that are written positionally; zero and below count
  zeros after it. -/
  positionalFrom : Int
  /-- The most digits before the point that are written positionally. -/
  positionalTo : Int
  /-- Whether of two shortest decimals equally near the greater one is written, or the even
  one. -/
  tiesUp : Bool
  /-- Whether an exponent above zero is written with its sign. -/
  plusSign : Bool
  /-- The text of a number that is undefined. -/
  nan : String
  /-- The text of an infinity, without its sign. -/
  infinity : String

/-- Lay out digits positionally, with a digit on both sides of the point. -/
def positional (digits : List Char) (point : Int) : List Char :=
  if point ≤ 0 then '0' :: '.' :: (List.replicate (-point).toNat '0' ++ digits)
  else
    let before := point.toNat
    let whole := digits.take before ++ List.replicate (before - digits.length) '0'
    let fraction := digits.drop before
    whole ++ '.' :: (if fraction.isEmpty then ['0'] else fraction)

/-- Lay out digits with one of them before the point and an exponent, which may have a plus
sign. -/
def scientific (plusSign : Bool) (digits : List Char) (point : Int) : List Char :=
  let fraction := digits.drop 1
  let exponent := point - 1
  digits.take 1 ++ (if fraction.isEmpty then [] else '.' :: fraction) ++
    'e' :: (if plusSign ∧ 0 < exponent then ['+'] else []) ++ (toString exponent).toList

/-- The text of a number in its shortest decimal. -/
def text (style : Style) (format : Format) : Number → String
  | .nan => style.nan
  | .infinite negative => if negative then "-" ++ style.infinity else style.infinity
  | .finite negative mantissa exponent =>
    let body :=
      if mantissa = 0 then ['0', '.', '0']
      else
        let (digits, point) := shortest style.tiesUp format mantissa exponent
        if style.positionalFrom ≤ point ∧ point ≤ style.positionalTo then
          positional digits point
        else scientific style.plusSign digits point
    String.ofList (if negative then '-' :: body else body)

/-- The digits at the front of a text, as a number, with their count and what follows. -/
def takeDigits (total count : Nat) : List Char → Nat × Nat × List Char
  | [] => (total, count, [])
  | c :: rest =>
    if c.isDigit then takeDigits (total * 10 + (c.toNat - '0'.toNat)) (count + 1) rest
    else (total, count, c :: rest)

/-- A sign at the front of a text, and what follows it. -/
def takeSign : List Char → Bool × List Char
  | '-' :: rest => (true, rest)
  | '+' :: rest => (false, rest)
  | rest => (false, rest)

/-- The number nearest to `digits * 10 ^ power`. Powers beyond every number of at most 64 bits
are not expanded. -/
def ofDecimal (format : Format) (negative : Bool) (digits : Nat) (power : Int) : Number :=
  let size : Int := (Nat.toDigits 10 digits).length
  if digits = 0 ∨ size + power < -400 then zero format negative
  else if size + power > 400 then .infinite negative
  else if power < 0 then ofQuotient format negative digits (Nat.pow 10 (-power).toNat)
  else ofQuotient format negative (digits * Nat.pow 10 power.toNat) 1

/-- Read a decimal: digits with an optional sign, point and exponent, or one of the words `NaN`,
`inf` and `-inf`. -/
def read? (format : Format) (text : String) : Option Number :=
  if text = "NaN" then some .nan
  else
    let (negative, body) := takeSign text.toList
    if body = ['i', 'n', 'f'] then some (.infinite negative)
    else
      let (whole, wholeCount, rest) := takeDigits 0 0 body
      let (digits, fractionCount, rest) := match rest with
        | '.' :: rest =>
          let (digits, count, rest) := takeDigits whole 0 rest
          (digits, count, rest)
        | rest => (whole, 0, rest)
      if wholeCount + fractionCount = 0 then none
      else match rest with
        | [] => some (ofDecimal format negative digits (-fractionCount))
        | mark :: rest =>
          if mark = 'e' ∨ mark = 'E' then
            let (down, rest) := takeSign rest
            match takeDigits 0 0 rest with
            | (_, 0, _) => none
            | (power, _, []) =>
              some (ofDecimal format negative digits (signed down power - fractionCount))
            | _ => none
          else none

end Number

end Reflection
