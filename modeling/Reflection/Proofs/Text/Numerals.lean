import Mathlib.Data.List.Induction
import Reflection.Proofs.Text.Decimal

/-!
# Which texts are numbers

Numbers as a grammar, and that the readers accept exactly these. A numeral is one or more digits, so
leading zeros do no harm; `Unsigned` allows a plus sign before it and `Signed` either sign. Numbers
outside the bounds given are not read, however they are written. Blank space around a text is no
part of it: `trim` leaves a text without blank space exactly if that is what the blank space
surrounds.
-/
namespace Reflection.Text

/-- A text of one or more digits, and the number it writes. -/
inductive Numeral : List Char → Nat → Prop where
  | digit {c : Char} (digit : c.isDigit = true) : Numeral [c] (c.toNat - '0'.toNat)
  | append {text : List Char} {number : Nat} {c : Char} (front : Numeral text number)
      (digit : c.isDigit = true) : Numeral (text ++ [c]) (number * 10 + (c.toNat - '0'.toNat))

/-- A numeral, with or without a plus sign. -/
inductive Unsigned : List Char → Nat → Prop where
  | plain {text : List Char} {number : Nat} (numeral : Numeral text number) : Unsigned text number
  | plus {text : List Char} {number : Nat} (numeral : Numeral text number) :
      Unsigned ('+' :: text) number

/-- A numeral, with or without a sign. -/
inductive Signed : List Char → Int → Prop where
  | plain {text : List Char} {number : Nat} (numeral : Numeral text number) : Signed text number
  | plus {text : List Char} {number : Nat} (numeral : Numeral text number) :
      Signed ('+' :: text) number
  | minus {text : List Char} {number : Nat} (numeral : Numeral text number) :
      Signed ('-' :: text) (-number)

variable {text core : List Char} {number : Nat} {c : Char}

/-! ### Numerals -/

/-- All characters of a numeral are digits. -/
theorem Numeral.isDigit (numeral : Numeral text number) : ∀ c ∈ text, c.isDigit = true := by
  induction numeral with
  | digit digit =>
    intro c mem
    rw [List.mem_singleton.1 mem]
    exact digit
  | append _ digit ih =>
    intro c mem
    rcases List.mem_append.1 mem with earlier | last
    · exact ih c earlier
    · rw [List.mem_singleton.1 last]
      exact digit

/-- A numeral has a first character, which is no sign. -/
theorem Numeral.exists_cons (numeral : Numeral text number) :
    ∃ first rest, text = first :: rest ∧ first ≠ '+' ∧ first ≠ '-' := by
  have filled : text ≠ [] := by
    cases numeral with
    | digit => simp
    | append => simp
  obtain ⟨first, rest, rfl⟩ := List.exists_cons_of_ne_nil filled
  have digit := numeral.isDigit first List.mem_cons_self
  refine ⟨first, rest, rfl, ?_, ?_⟩
  · rintro rfl
    contradiction
  · rintro rfl
    contradiction

/-- One more digit is read after the others. -/
theorem readDigits_append (total : Nat) (text : List Char) (c : Char) :
    readDigits total (text ++ [c]) = (readDigits total text).bind fun number =>
      if c.isDigit then some (number * 10 + (c.toNat - '0'.toNat)) else none := by
  induction text generalizing total with
  | nil => rfl
  | cons first rest ih =>
    simp only [List.cons_append, readDigits]
    split
    · exact ih _
    · rfl

/-- A text that is not empty is read digit by digit. -/
theorem readNatural?_of_ne_nil (filled : text ≠ []) : readNatural? text = readDigits 0 text := by
  obtain ⟨first, rest, rfl⟩ := List.exists_cons_of_ne_nil filled
  rfl

/-- Exactly numerals are read, as the numbers they write. -/
theorem readNatural?_eq_some_iff : readNatural? text = some number ↔ Numeral text number := by
  constructor
  · intro read
    induction text using List.reverseRecOn generalizing number with
    | nil => contradiction
    | append_singleton front c ih =>
      rw [readNatural?_of_ne_nil (by simp), readDigits_append] at read
      obtain ⟨before, readBefore, last⟩ := Option.bind_eq_some_iff.1 read
      obtain ⟨digit, same⟩ := Option.ite_none_right_eq_some.1 last
      obtain rfl := Option.some.inj same
      by_cases filled : front = []
      · subst filled
        obtain rfl : 0 = before := Option.some.inj readBefore
        simpa using Numeral.digit digit
      · rw [← readNatural?_of_ne_nil filled] at readBefore
        exact .append (ih readBefore) digit
  · intro numeral
    induction numeral with
    | digit digit => simp [readNatural?, readDigits, digit]
    | append front digit ih =>
      obtain ⟨first, rest, same, _⟩ := front.exists_cons
      rw [readNatural?_of_ne_nil (by simp [same])] at ih
      rw [readNatural?_of_ne_nil (by simp), readDigits_append, ih]
      simp [digit]

/-! ### Signs -/

/-- Exactly numerals with at most a plus sign are read where no minus sign is allowed. -/
theorem readUnsigned?_eq_some_iff {greatest : Nat} :
    readUnsigned? greatest text = some number ↔ Unsigned text number ∧ number ≤ greatest := by
  have within : ∀ read : Option Nat, read.filter (· ≤ greatest) = some number ↔
      read = some number ∧ number ≤ greatest := by
    simp [Option.filter_eq_some_iff]
  unfold readUnsigned?
  rw [within]
  refine and_congr_left fun _ => ?_
  split
  · rename_i rest
    rw [readNatural?_eq_some_iff]
    refine ⟨.plus, fun unsigned => ?_⟩
    cases unsigned with
    | plus numeral => exact numeral
    | plain numeral =>
      obtain ⟨_, _, same, notPlus, _⟩ := numeral.exists_cons
      exact absurd (List.cons.inj same).1.symm notPlus
  · rename_i unsignedly
    rw [readNatural?_eq_some_iff]
    refine ⟨.plain, fun unsigned => ?_⟩
    cases unsigned with
    | plain numeral => exact numeral
    | plus => exact absurd rfl (unsignedly _)

/-- Exactly numerals with at most a sign are read, if their numbers are within the bounds. -/
theorem readSigned?_eq_some_iff {least greatest number : Int} :
    readSigned? least greatest text = some number ↔
      Signed text number ∧ least ≤ number ∧ number ≤ greatest := by
  have within : ∀ read : Option Int,
      (read.filter fun number => decide (least ≤ number) && decide (number ≤ greatest)) =
          some number ↔ read = some number ∧ least ≤ number ∧ number ≤ greatest := by
    simp [Option.filter_eq_some_iff]
  unfold readSigned?
  rw [within]
  refine and_congr_left fun _ => ?_
  split
  · simp only [Option.map_eq_some_iff, readNatural?_eq_some_iff]
    constructor
    · rintro ⟨natural, numeral, rfl⟩
      exact .plus numeral
    · intro signed
      cases signed with
      | plus numeral => exact ⟨_, numeral, rfl⟩
      | plain numeral =>
        obtain ⟨_, _, same, notPlus, _⟩ := numeral.exists_cons
        exact absurd (List.cons.inj same).1.symm notPlus
  · simp only [Option.map_eq_some_iff, Option.bind_eq_bind, Option.bind_eq_some_iff,
      Option.pure_def, Option.some.injEq, readNatural?_eq_some_iff]
    constructor
    · rintro ⟨_, ⟨natural, numeral, rfl⟩, rfl⟩
      exact .minus numeral
    · intro signed
      cases signed with
      | minus numeral => exact ⟨_, ⟨_, numeral, rfl⟩, rfl⟩
      | plain numeral =>
        obtain ⟨_, _, same, _, notMinus⟩ := numeral.exists_cons
        exact absurd (List.cons.inj same).1.symm notMinus
  · rename_i notPlus notMinus
    simp only [Option.map_eq_some_iff, readNatural?_eq_some_iff]
    constructor
    · rintro ⟨natural, numeral, rfl⟩
      exact .plain numeral
    · intro signed
      cases signed with
      | plain numeral => exact ⟨_, numeral, rfl⟩
      | plus => exact absurd rfl (notPlus _)
      | minus => exact absurd rfl (notMinus _)

/-! ### Blank space around a text -/

/-- A text with nothing but blank space around it. -/
def Padded (core text : List Char) : Prop :=
  ∃ before after, text = before ++ core ++ after ∧ (∀ c ∈ before, isBlank c = true) ∧
    ∀ c ∈ after, isBlank c = true

/-- What trimming takes off is blank space. -/
theorem padded_trim (text : List Char) : Padded (trim text) text := by
  have taken : ∀ list : List Char, ∀ c ∈ list.takeWhile isBlank, isBlank c = true :=
    fun list => List.all_eq_true.1 List.all_takeWhile
  have front : text = text.takeWhile isBlank ++ text.dropWhile isBlank :=
    List.takeWhile_append_dropWhile.symm
  -- The end is the start of the text read backwards.
  have back : (text.dropWhile isBlank) =
      trim text ++ ((text.dropWhile isBlank).reverse.takeWhile isBlank).reverse := by
    rw [trim, ← List.reverse_append, List.takeWhile_append_dropWhile, List.reverse_reverse]
  refine ⟨text.takeWhile isBlank, ((text.dropWhile isBlank).reverse.takeWhile isBlank).reverse,
    ?_, taken text, fun c mem => taken _ c (List.mem_reverse.1 mem)⟩
  rw [List.append_assoc, ← back]
  exact front

/-- A text without blank space is what trimming leaves exactly if blank space surrounds it. -/
theorem trim_eq_iff (solid : ∀ c ∈ core, isBlank c = false) :
    trim text = core ↔ Padded core text := by
  constructor
  · rintro rfl
    exact padded_trim text
  · rintro ⟨before, after, rfl, blankBefore, blankAfter⟩
    have kept : (core ++ after).reverse.dropWhile isBlank = core.reverse.dropWhile isBlank := by
      rw [List.reverse_append, List.dropWhile_append_of_pos]
      exact fun c mem => blankAfter c (List.mem_reverse.1 mem)
    have dropped : (before ++ core ++ after).dropWhile isBlank =
        (core ++ after).dropWhile isBlank := by
      rw [List.append_assoc, List.dropWhile_append_of_pos blankBefore]
    cases core with
    | nil =>
      have nothing : after.dropWhile isBlank = [] := by
        rw [← List.append_nil after, List.dropWhile_append_of_pos blankAfter, List.dropWhile_nil]
      rw [trim, dropped, List.nil_append, nothing]
      rfl
    | cons first rest =>
      have start : ((first :: rest) ++ after).dropWhile isBlank = (first :: rest) ++ after := by
        rw [List.cons_append, List.dropWhile_cons_of_neg (by simp [solid first List.mem_cons_self])]
      have whole := trim_of_no_blank solid
      rw [trim, List.dropWhile_cons_of_neg (by simp [solid first List.mem_cons_self])] at whole
      rw [trim, dropped, start, kept, whole]

/-- There is no blank space in a number without a minus sign. -/
theorem Unsigned.isBlank (unsigned : Unsigned text number) : ∀ c ∈ text, isBlank c = false := by
  cases unsigned with
  | plain numeral => exact fun c mem => isBlank_of_isDigit (numeral.isDigit c mem)
  | plus numeral =>
    exact List.forall_mem_cons.2
      ⟨by decide, fun c mem => isBlank_of_isDigit (numeral.isDigit c mem)⟩

/-- There is no blank space in a number. -/
theorem Signed.isBlank {number : Int} (signed : Signed text number) :
    ∀ c ∈ text, isBlank c = false := by
  cases signed with
  | plain numeral => exact fun c mem => isBlank_of_isDigit (numeral.isDigit c mem)
  | plus numeral | minus numeral =>
    exact List.forall_mem_cons.2
      ⟨by decide, fun c mem => isBlank_of_isDigit (numeral.isDigit c mem)⟩

/-- A number within bounds is read from a text exactly if the text is that number with nothing but
blank space around it. -/
theorem readSigned?_trim_eq_some_iff {least greatest number : Int} :
    readSigned? least greatest (trim text) = some number ↔
      (∃ core, Padded core text ∧ Signed core number) ∧ least ≤ number ∧ number ≤ greatest := by
  rw [readSigned?_eq_some_iff]
  refine and_congr_left fun _ => ?_
  constructor
  · exact fun signed => ⟨trim text, padded_trim text, signed⟩
  · rintro ⟨core, padded, signed⟩
    rw [(trim_eq_iff signed.isBlank).2 padded]
    exact signed

end Reflection.Text
