import Reflection.Json.Basic

/-!
# Reading JSON

A text is read as one document with nothing but blanks around it. Arrays and objects nest at most
127 deep. A number without point and exponent that fits 64 bits is an integer. Any other number
is the product or quotient of its first digits, as a 64-bit number, and a power of ten; a number
too large to be finite is refused.
-/
namespace Reflection.Json

/-- How deep arrays and objects may nest. -/
def depthLimit : Nat := 127

/-- A text without the blanks in front. -/
def skipBlanks : List Char → List Char
  | c :: rest => if c = ' ' ∨ c = '\n' ∨ c = '\t' ∨ c = '\r' then skipBlanks rest else c :: rest
  | [] => []

/-- The value of a hexadecimal digit. -/
def hexDigit? (c : Char) : Option Nat :=
  if '0' ≤ c ∧ c ≤ '9' then some (c.toNat - '0'.toNat)
  else if 'a' ≤ c ∧ c ≤ 'f' then some (c.toNat - 'a'.toNat + 10)
  else if 'A' ≤ c ∧ c ≤ 'F' then some (c.toNat - 'A'.toNat + 10)
  else none

/-- Four hexadecimal digits and what follows. -/
def hexQuad? : List Char → Option (Nat × List Char)
  | a :: b :: c :: d :: rest => do
    let a ← hexDigit? a
    let b ← hexDigit? b
    let c ← hexDigit? c
    let d ← hexDigit? d
    some (((a * 16 + b) * 16 + c) * 16 + d, rest)
  | _ => none

/-- The character an escape stands for, behind its backslash, and what follows. Half of a pair of
code units stands for nothing by itself. -/
def readEscape? : List Char → Option (Char × List Char)
  | '"' :: rest => some ('"', rest)
  | '\\' :: rest => some ('\\', rest)
  | '/' :: rest => some ('/', rest)
  | 'b' :: rest => some ('\x08', rest)
  | 'f' :: rest => some ('\x0c', rest)
  | 'n' :: rest => some ('\n', rest)
  | 'r' :: rest => some ('\r', rest)
  | 't' :: rest => some ('\t', rest)
  | 'u' :: rest => do
    let (unit, rest) ← hexQuad? rest
    if 0xdc00 ≤ unit ∧ unit ≤ 0xdfff then none
    else if 0xd800 ≤ unit ∧ unit ≤ 0xdbff then
      match rest with
      | '\\' :: 'u' :: rest =>
        let (low, rest) ← hexQuad? rest
        if 0xdc00 ≤ low ∧ low ≤ 0xdfff then
          some (Char.ofNat (0x10000 + (unit - 0xd800) * 0x400 + (low - 0xdc00)), rest)
        else none
      | _ => none
    else some (Char.ofNat unit, rest)
  | _ => none

/-- The characters of a string up to its closing quote, in reverse behind those read before, and
what follows. -/
def readString? : Nat → List Char → List Char → Option (String × List Char)
  | 0, _, _ => none
  | fuel + 1, before, text =>
    match text with
    | '"' :: rest => some (String.ofList before.reverse, rest)
    | '\\' :: rest => do
      let (c, rest) ← readEscape? rest
      readString? fuel (c :: before) rest
    | c :: rest => if c.toNat < 0x20 then none else readString? fuel (c :: before) rest
    | [] => none

/-- The greatest number a run of digits is collected to. -/
def digitLimit : Nat := Nat.pow 2 64 - 1

/-- Digits collected as far as they fit: the number, how many digits were read, how many of them
were left out, and what follows. Once one digit does not fit no further one is collected. -/
structure Digits where
  number : Nat
  read : Nat := 0
  dropped : Nat := 0
  rest : List Char

/-- Collect digits behind a number. -/
def collect (number read dropped : Nat) : List Char → Digits
  | [] => ⟨number, read, dropped, []⟩
  | c :: rest =>
    if c.isDigit then
      let longer := number * 10 + (c.toNat - '0'.toNat)
      if dropped = 0 ∧ longer ≤ digitLimit then collect longer (read + 1) 0 rest
      else collect number (read + 1) (dropped + 1) rest
    else ⟨number, read, dropped, c :: rest⟩

/-- Ten to a power, as a 64-bit number. -/
def tenTo (power : Nat) : Number := Number.ofDecimal .double false 1 power

/-- A number times a power of ten, one rounding for each factor; none where it is too large. -/
def scale? : Nat → Number → Int → Option Number
  | 0, number, _ => some number
  | fuel + 1, number, power =>
    if power.natAbs ≤ 308 then
      if power < 0 then some (number.div .double (tenTo power.natAbs))
      else
        let product := number.mul .double (tenTo power.natAbs)
        if product.isFinite then some product else none
    else if number.same (.zero .double false) then some number
    else if power < 0 then scale? fuel (number.div .double (tenTo 308)) (power + 308)
    else none

/-- The number of some digits, a power of ten and a sign. -/
def assemble? (negative : Bool) (digits : Nat) (power : Int) : Option Json := do
  let magnitude ← scale? 8 (Number.ofInt .double digits) power
  some (.real (if negative then magnitude.negate else magnitude))

/-- The greatest exponent that is computed with. -/
def exponentLimit : Nat := Nat.pow 2 31 - 1

/-- Read the exponent of a number behind its mark. -/
def readExponent? (negative : Bool) (digits : Nat) (power : Int) (text : List Char) :
    Option (Json × List Char) :=
  let (down, text) := Number.takeSign text
  match Number.takeDigits 0 0 text with
  | (_, 0, _) => none
  | (exponent, _, rest) =>
    if exponent > exponentLimit then
      if digits ≠ 0 ∧ !down then none
      else some (.real (.zero .double negative), rest)
    else do
      let number ← assemble? negative digits (power + if down then -(exponent : Int) else exponent)
      some (number, rest)

/-- Go on behind the digits of a number: an exponent, or its end. -/
def readTail? (negative : Bool) (digits : Nat) (power : Int) :
    List Char → Option (Json × List Char)
  | 'e' :: rest => readExponent? negative digits power rest
  | 'E' :: rest => readExponent? negative digits power rest
  | rest => do
    let number ← assemble? negative digits power
    some (number, rest)

/-- The document of an integer: one that does not fit 64 bits, and zero with a minus sign, is no
integer. -/
def ofDigits (negative : Bool) (digits : Nat) : Json :=
  if !negative then .integer digits
  else if 0 < digits ∧ digits ≤ Nat.pow 2 63 then .integer (-(digits : Int))
  else .real (Number.ofInt .double digits).negate

/-- Read a number. -/
def readNumber? (text : List Char) : Option (Json × List Char) :=
  let (negative, body) := match text with
    | '-' :: rest => (true, rest)
    | text => (false, text)
  let leadingZero := match body with
    | '0' :: c :: _ => c.isDigit
    | _ => false
  let whole := collect 0 0 0 body
  if whole.read = 0 ∨ leadingZero then none
  else match whole.rest with
    | '.' :: rest =>
      let all := collect whole.number 0 0 rest
      if all.read = 0 then none
      else
        let power : Int := whole.dropped - (all.read - all.dropped : Nat)
        readTail? negative all.number power all.rest
    | 'e' :: rest => readExponent? negative whole.number whole.dropped rest
    | 'E' :: rest => readExponent? negative whole.number whole.dropped rest
    | rest =>
      if whole.dropped = 0 then some (ofDigits negative whole.number, rest)
      else do
        let number ← assemble? negative whole.number whole.dropped
        some (number, rest)

mutual

/-- Read a document that nests at most to some depth. -/
def readValue? : Nat → Nat → List Char → Option (Json × List Char)
  | 0, _, _ => none
  | fuel + 1, depth, text =>
    match skipBlanks text with
    | 'n' :: 'u' :: 'l' :: 'l' :: rest => some (.null, rest)
    | 't' :: 'r' :: 'u' :: 'e' :: rest => some (.bool true, rest)
    | 'f' :: 'a' :: 'l' :: 's' :: 'e' :: rest => some (.bool false, rest)
    | '"' :: rest => do
      let (text, rest) ← readString? (rest.length + 1) [] rest
      some (.string text, rest)
    | '[' :: rest =>
      match depth with
      | 0 => none
      | depth + 1 =>
        match skipBlanks rest with
        | ']' :: rest => some (.array [], rest)
        | rest => do
          let (elements, rest) ← readElements? fuel depth rest
          some (.array elements, rest)
    | '{' :: rest =>
      match depth with
      | 0 => none
      | depth + 1 =>
        match skipBlanks rest with
        | '}' :: rest => some (.object [], rest)
        | rest => do
          let (members, rest) ← readMembers? fuel depth rest
          some (ofMembers members, rest)
    | text => readNumber? text

/-- Read the elements of an array up to its closing bracket. -/
def readElements? : Nat → Nat → List Char → Option (List Json × List Char)
  | 0, _, _ => none
  | fuel + 1, depth, text => do
    let (element, rest) ← readValue? fuel depth text
    match skipBlanks rest with
    | ',' :: rest =>
      let (elements, rest) ← readElements? fuel depth rest
      some (element :: elements, rest)
    | ']' :: rest => some ([element], rest)
    | _ => none

/-- Read the members of an object up to its closing brace. -/
def readMembers? : Nat → Nat → List Char → Option (List (String × Json) × List Char)
  | 0, _, _ => none
  | fuel + 1, depth, text =>
    match skipBlanks text with
    | '"' :: rest => do
      let (key, rest) ← readString? (rest.length + 1) [] rest
      match skipBlanks rest with
      | ':' :: rest =>
        let (value, rest) ← readValue? fuel depth rest
        match skipBlanks rest with
        | ',' :: rest =>
          let (members, rest) ← readMembers? fuel depth rest
          some ((key, value) :: members, rest)
        | '}' :: rest => some ([(key, value)], rest)
        | _ => none
      | _ => none
    | _ => none

end

/-- Read a text as one document that nests at most to some depth. -/
def readWithin? (depth : Nat) (text : String) : Option Json := do
  let characters := text.toList
  let (document, rest) ← readValue? (2 * characters.length + 2) depth characters
  if (skipBlanks rest).isEmpty then some document else none

/-- Read a text as one document. -/
def read? (text : String) : Option Json := readWithin? depthLimit text

variable {negative : Bool} {digits : Nat} {power : Int} {text rest : List Char} {document : Json}

/-- A number that is put together is no object. -/
theorem members?_of_assemble? (read : assemble? negative digits power = some document) :
    document.members? = none := by
  obtain ⟨magnitude, _, number⟩ := Option.bind_eq_some_iff.1 read
  cases number
  rfl

/-- A number is no object, whatever text is left behind it. -/
theorem members?_of_assembled
    (read : (do
      let number ← assemble? negative digits power
      some (number, text)) = some (document, rest)) : document.members? = none := by
  obtain ⟨number, assembled, same⟩ := Option.bind_eq_some_iff.1 read
  cases same
  exact members?_of_assemble? assembled

/-- A number with an exponent is no object. -/
theorem members?_of_readExponent?
    (read : readExponent? negative digits power text = some (document, rest)) :
    document.members? = none := by
  unfold readExponent? at read
  split at read
  split at read
  · cases read
  · split at read
    · split at read
      · cases read
      · cases read
        rfl
    · exact members?_of_assembled read

/-- A number with a fraction is no object. -/
theorem members?_of_readTail?
    (read : readTail? negative digits power text = some (document, rest)) :
    document.members? = none := by
  unfold readTail? at read
  split at read
  · exact members?_of_readExponent? read
  · exact members?_of_readExponent? read
  · exact members?_of_assembled read

/-- An integer is no object. -/
theorem members?_ofDigits (negative : Bool) (digits : Nat) :
    (ofDigits negative digits).members? = none := by
  unfold ofDigits
  split
  · rfl
  · split <;> rfl

/-- A number is no object. -/
theorem members?_of_readNumber? (read : readNumber? text = some (document, rest)) :
    document.members? = none := by
  simp only [readNumber?] at read
  repeat' split at read
  all_goals
    first
      | exact members?_of_readTail? read
      | exact members?_of_readExponent? read
      | exact members?_of_assembled read
      | (cases read; exact members?_ofDigits _ _)
      | cases read

/-- Every document that is read has its members in order. -/
theorem ordered_of_readValue? {fuel depth : Nat}
    (read : readValue? fuel depth text = some (document, rest)) : document.Ordered := by
  cases fuel with
  | zero =>
    simp [readValue?] at read
  | succ fuel =>
    rw [readValue?] at read
    split at read
    · cases read
      exact ordered_of_no_members rfl
    · cases read
      exact ordered_of_no_members rfl
    · cases read
      exact ordered_of_no_members rfl
    · obtain ⟨_, _, same⟩ := Option.bind_eq_some_iff.1 read
      cases same
      exact ordered_of_no_members rfl
    · split at read
      · cases read
      · split at read
        · cases read
          exact ordered_of_no_members rfl
        · obtain ⟨_, _, same⟩ := Option.bind_eq_some_iff.1 read
          cases same
          exact ordered_of_no_members rfl
    · split at read
      · cases read
      · split at read
        · cases read
          exact ordered_object .empty
        · obtain ⟨_, _, same⟩ := Option.bind_eq_some_iff.1 read
          cases same
          exact ordered_ofMembers _
    · exact ordered_of_no_members (members?_of_readNumber? read)

/-- Every document that is read has its members in order. -/
theorem ordered_of_read? {text : String} (read : read? text = some document) :
    document.Ordered := by
  obtain ⟨⟨value, rest⟩, found, same⟩ := Option.bind_eq_some_iff.1 read
  dsimp only at same
  split at same
  · cases same
    exact ordered_of_readValue? found
  · cases same

end Reflection.Json
