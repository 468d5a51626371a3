import Reflection.Text.Integer

/-!
# Decimal text

An integer that is written in decimal reads back as itself, within whatever bounds it is read, and
blank space taken off around it takes nothing of it away.
-/
namespace Reflection.Text

/-- A digit is not blank space. -/
theorem isBlank_of_isDigit {c : Char} (digit : c.isDigit = true) : isBlank c = false := by
  have bounds : 48 ≤ c.toNat ∧ c.toNat ≤ 57 := by
    simp only [Char.isDigit, ge_iff_le, Bool.and_eq_true, decide_eq_true_eq,
      UInt32.le_iff_toNat_le] at digit
    exact digit
  simp only [isBlank, Bool.or_eq_false_iff, Bool.and_eq_false_iff, decide_eq_false_iff_not,
    beq_eq_false_iff_ne]
  omega

/-- A text without blank space is not shortened. -/
theorem trim_of_no_blank {text : List Char} (solid : ∀ c ∈ text, isBlank c = false) :
    trim text = text := by
  have kept : ∀ list : List Char, (∀ c ∈ list, isBlank c = false) →
      list.dropWhile isBlank = list := by
    intro list solid
    cases list with
    | nil => rfl
    | cons first rest =>
      rw [List.dropWhile_cons_of_neg (by simp [solid first List.mem_cons_self])]
  rw [trim, kept text solid, kept _ fun c member => solid c (List.mem_reverse.1 member),
    List.reverse_reverse]

/-- Digits read as the number they write. -/
theorem readDigits_of_digits {digits : List Char} (all : ∀ c ∈ digits, c.isDigit = true)
    (total : Nat) : readDigits total digits = some (Nat.ofDigitChars 10 digits total) := by
  induction digits generalizing total with
  | nil => simp [readDigits]
  | cons first rest ih =>
    obtain ⟨head, tail⟩ := List.forall_mem_cons.1 all
    rw [readDigits, if_pos head, ih tail, Nat.ofDigitChars_cons, Nat.mul_comm]

/-- All characters of a natural number in decimal are digits. -/
theorem isDigit_of_mem_decimal {number : Nat} {c : Char}
    (member : c ∈ Nat.toDigits 10 number) : c.isDigit = true :=
  Nat.isDigit_of_mem_toDigits (by decide) (by decide) member

/-- A natural number in decimal starts with a digit. -/
theorem exists_cons_of_decimal (number : Nat) :
    ∃ first rest, Nat.toDigits 10 number = first :: rest ∧ first.isDigit = true := by
  obtain ⟨first, rest, same⟩ := List.exists_cons_of_ne_nil (Nat.toDigits_ne_nil (n := number)
    (b := 10))
  exact ⟨first, rest, same, isDigit_of_mem_decimal (same ▸ List.mem_cons_self)⟩

/-- A natural number in decimal reads back as itself. -/
theorem readNatural?_decimal (number : Nat) :
    readNatural? (Nat.toDigits 10 number) = some number := by
  obtain ⟨first, rest, same, _⟩ := exists_cons_of_decimal number
  have digits : ∀ sign ∈ Nat.toDigits 10 number, sign.isDigit = true :=
    fun _ => isDigit_of_mem_decimal
  have read := readDigits_of_digits digits 0
  rw [Nat.ofDigitChars_ten_toDigits] at read
  rw [same] at read ⊢
  exact read

/-- The characters of an integer: its decimal digits, behind a minus sign if it is negative. -/
theorem toList_toString (number : Int) :
    (toString number).toList =
      match number with
      | .ofNat natural => Nat.toDigits 10 natural
      | .negSucc less => '-' :: Nat.toDigits 10 (less + 1) := by
  cases number with
  | ofNat natural => exact Nat.toList_repr
  | negSucc less =>
    show ("-" ++ (less + 1).repr).toList = _
    rw [String.toList_append, Nat.toList_repr]
    rfl

/-- There is no blank space in an integer. -/
theorem isBlank_of_mem_toString {number : Int} {c : Char}
    (member : c ∈ (toString number).toList) : isBlank c = false := by
  rw [toList_toString] at member
  cases number with
  | ofNat natural => exact isBlank_of_isDigit (isDigit_of_mem_decimal member)
  | negSucc less =>
    rcases List.mem_cons.1 member with rfl | digit
    · decide
    · exact isBlank_of_isDigit (isDigit_of_mem_decimal digit)

/-- An integer in decimal reads back as itself exactly if it lies within the bounds. -/
theorem readSigned?_toString (least greatest number : Int) :
    readSigned? least greatest (toString number).toList =
      if least ≤ number ∧ number ≤ greatest then some number else none := by
  have inBounds : (some number).filter
      (fun number => decide (least ≤ number) && decide (number ≤ greatest)) =
        if least ≤ number ∧ number ≤ greatest then some number else none := by
    simp only [Option.filter, Bool.and_eq_true, decide_eq_true_eq]
  rw [← inBounds, toList_toString]
  cases number with
  | ofNat natural =>
    obtain ⟨first, rest, same, digit⟩ := exists_cons_of_decimal natural
    have read := readNatural?_decimal natural
    rw [same] at read
    -- A digit is no sign, so the text is read as it stands.
    have unsigned : first ≠ '+' ∧ first ≠ '-' := by
      constructor <;> rintro rfl <;> contradiction
    simp only [same, readSigned?]
    split
    · rename_i sign
      exact absurd (List.cons.inj sign).1 unsigned.1
    · rename_i sign
      exact absurd (List.cons.inj sign).1 unsigned.2
    · rw [read]
      rfl
  | negSucc less =>
    simp only [readSigned?, readNatural?_decimal]
    rfl

/-- An integer in decimal is read from its text whatever blank space is taken off around it. -/
theorem readSigned?_trim_toString (least greatest number : Int) :
    readSigned? least greatest (trim (toString number).toList) =
      if least ≤ number ∧ number ≤ greatest then some number else none := by
  rw [trim_of_no_blank fun _ => isBlank_of_mem_toString, readSigned?_toString]

end Reflection.Text
