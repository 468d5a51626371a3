import Reflection.Catalogue.Codecs
import Reflection.Catalogue.Types
import Reflection.Any.Copy
import Reflection.Proofs.Text.Numerals

/-!
# Which texts are versions

`Spells` says which texts stand for a version: two or three components with single dots between
them, each a number that fits 16 bits, with leading zeros or a plus sign if need be. `parse?` reads
exactly these and blank space around them. The text of a version is one of them, which is what makes
the conversion to text and the JSON form of versions reversible.
-/
namespace Reflection.Version

open Text (Unsigned Numeral Padded)

/-- The texts that stand for a version, up to blank space around them. A number below `2 ^ 16` is
what a component is; where the patch is left out it is zero. -/
inductive Spells : Version → List Char → Prop where
  | short {majorText minorText : List Char} {major minor : UInt16}
      (majorSpelled : Unsigned majorText major.toNat)
      (minorSpelled : Unsigned minorText minor.toNat) :
      Spells ⟨major, minor, 0⟩ (majorText ++ '.' :: minorText)
  | full {majorText minorText patchText : List Char} {major minor patch : UInt16}
      (majorSpelled : Unsigned majorText major.toNat)
      (minorSpelled : Unsigned minorText minor.toNat)
      (patchSpelled : Unsigned patchText patch.toNat) :
      Spells ⟨major, minor, patch⟩ (majorText ++ '.' :: (minorText ++ '.' :: patchText))

variable {text core : List Char} {version : Version}

/-! ### Components -/

/-- A component is a number of 16 bits without a minus sign. -/
theorem readComponent?_eq_some_iff {number : UInt16} :
    readComponent? text = some number ↔ Unsigned text number.toNat := by
  have fits : number.toNat ≤ 65535 := Nat.le_of_lt_succ number.toNat_lt
  rw [readComponent?, Option.map_eq_some_iff]
  constructor
  · rintro ⟨read, reads, rfl⟩
    obtain ⟨unsigned, within⟩ := Text.readUnsigned?_eq_some_iff.1 reads
    rw [UInt16.toNat_ofNat_of_lt' (Nat.lt_succ_of_le within)]
    exact unsigned
  · intro unsigned
    exact ⟨number.toNat, Text.readUnsigned?_eq_some_iff.2 ⟨unsigned, fits⟩, UInt16.ofNat_toNat⟩

/-- There is no dot in a component. -/
theorem dot_notMem_of_unsigned {number : Nat} (unsigned : Unsigned text number) : '.' ∉ text := by
  have digits : ∀ {text : List Char}, Numeral text number → '.' ∉ text := by
    intro text numeral dot
    exact absurd (numeral.isDigit '.' dot) (by decide)
  cases unsigned with
  | plain numeral => exact digits numeral
  | plus numeral => exact List.not_mem_cons_of_ne_of_not_mem (by decide) (digits numeral)

/-- A version is spelled without blank space. -/
theorem Spells.isBlank (spells : Spells version core) :
    ∀ c ∈ core, Text.isBlank c = false := by
  have dot : Text.isBlank '.' = false := by decide
  cases spells with
  | short majorSpelled minorSpelled =>
    exact List.forall_mem_append.2
      ⟨majorSpelled.isBlank, List.forall_mem_cons.2 ⟨dot, minorSpelled.isBlank⟩⟩
  | full majorSpelled minorSpelled patchSpelled =>
    exact List.forall_mem_append.2
      ⟨majorSpelled.isBlank, List.forall_mem_cons.2
        ⟨dot, List.forall_mem_append.2
          ⟨minorSpelled.isBlank, List.forall_mem_cons.2 ⟨dot, patchSpelled.isBlank⟩⟩⟩⟩

/-! ### The pieces between dots -/

/-- The pieces between dots are those of splitting at every dot. -/
theorem splitDots_eq_splitOn (text : List Char) : splitDots text = text.splitOn '.' := by
  induction text with
  | nil => rfl
  | cons c rest ih =>
    obtain ⟨piece, pieces, same⟩ := List.exists_cons_of_ne_nil (List.splitOn_ne_nil '.' rest)
    simp only [splitDots, ih, same]
    simp only [List.splitOn] at same ⊢
    rw [List.splitOnP_cons_eq_if_modifyHead, same]
    simp only [beq_iff_eq, List.modifyHead_cons]

/-- Pieces without dots are those between the dots of a text exactly if dots join them to it. -/
theorem splitDots_eq_iff {pieces : List (List Char)} (filled : pieces ≠ [])
    (plain : ∀ piece ∈ pieces, '.' ∉ piece) :
    splitDots text = pieces ↔ text = ['.'].intercalate pieces := by
  rw [splitDots_eq_splitOn]
  constructor
  · rintro rfl
    exact List.intercalate_splitOn '.' |>.symm
  · rintro rfl
    exact List.splitOn_intercalate '.' plain filled

/-- Two pieces joined by a dot. -/
theorem intercalate_pair (first second : List Char) :
    ['.'].intercalate [first, second] = first ++ '.' :: second := by
  simp [List.intercalate]

/-- Three pieces joined by dots. -/
theorem intercalate_triple (first second third : List Char) :
    ['.'].intercalate [first, second, third] = first ++ '.' :: (second ++ '.' :: third) := by
  simp [List.intercalate]

/-! ### Reading versions -/

/-- The version that two or three components make, if there are as many and all can be read. -/
def ofPieces? : List (List Char) → Option Version
  | [major, minor] => do
    some ⟨← readComponent? major, ← readComponent? minor, 0⟩
  | [major, minor, patch] => do
    some ⟨← readComponent? major, ← readComponent? minor, ← readComponent? patch⟩
  | _ => none

/-- A version is read from the pieces between dots. -/
theorem parse?_eq_ofPieces? (text : String) :
    parse? text = ofPieces? (splitDots (Text.trim text.toList)) := rfl

/-- What the pieces between the dots of a text make is what the text spells. -/
theorem ofPieces?_splitDots_eq_some_iff :
    ofPieces? (splitDots core) = some version ↔ Spells version core := by
  constructor
  · intro made
    have joined : ['.'].intercalate (splitDots core) = core := by
      rw [splitDots_eq_splitOn, List.intercalate_splitOn]
    rw [← joined]
    generalize splitDots core = pieces at made ⊢
    match pieces, made with
    | [majorText, minorText], made =>
      rw [intercalate_pair]
      simp only [ofPieces?, Option.bind_eq_bind, Option.bind_eq_some_iff,
        readComponent?_eq_some_iff, Option.some.injEq] at made
      obtain ⟨major, majorSpelled, minor, minorSpelled, rfl⟩ := made
      exact .short majorSpelled minorSpelled
    | [majorText, minorText, patchText], made =>
      rw [intercalate_triple]
      simp only [ofPieces?, Option.bind_eq_bind, Option.bind_eq_some_iff,
        readComponent?_eq_some_iff, Option.some.injEq] at made
      obtain ⟨major, majorSpelled, minor, minorSpelled, patch, patchSpelled, rfl⟩ := made
      exact .full majorSpelled minorSpelled patchSpelled
  · intro spells
    cases spells with
    | @short majorText minorText major minor majorSpelled minorSpelled =>
      have pieces : splitDots (majorText ++ '.' :: minorText) = [majorText, minorText] := by
        refine (splitDots_eq_iff (by simp) ?_).2 (intercalate_pair ..).symm
        simp [dot_notMem_of_unsigned majorSpelled, dot_notMem_of_unsigned minorSpelled]
      rw [pieces]
      simp [ofPieces?, readComponent?_eq_some_iff.2 majorSpelled,
        readComponent?_eq_some_iff.2 minorSpelled]
    | @full majorText minorText patchText major minor patch majorSpelled minorSpelled
        patchSpelled =>
      have pieces : splitDots (majorText ++ '.' :: (minorText ++ '.' :: patchText)) =
          [majorText, minorText, patchText] := by
        refine (splitDots_eq_iff (by simp) ?_).2 (intercalate_triple ..).symm
        simp [dot_notMem_of_unsigned majorSpelled, dot_notMem_of_unsigned minorSpelled,
          dot_notMem_of_unsigned patchSpelled]
      rw [pieces]
      simp [ofPieces?, readComponent?_eq_some_iff.2 majorSpelled,
        readComponent?_eq_some_iff.2 minorSpelled, readComponent?_eq_some_iff.2 patchSpelled]

/-- A version is read from a text exactly if the text spells it, with nothing but blank space
around it. -/
theorem parse?_eq_some_iff {text : String} :
    parse? text = some version ↔ ∃ core, Padded core text.toList ∧ Spells version core := by
  rw [parse?_eq_ofPieces?, ofPieces?_splitDots_eq_some_iff]
  constructor
  · exact fun spells => ⟨_, Text.padded_trim _, spells⟩
  · rintro ⟨core, padded, spells⟩
    rw [(Text.trim_eq_iff spells.isBlank).2 padded]
    exact spells

example : parse? " 1.+02\n" = some ⟨1, 2, 0⟩ := by decide

/-! ### The text of a version -/

/-- The text of a version spells it. -/
theorem spells_text (version : Version) : Spells version version.text.toList := by
  have component : ∀ number : UInt16,
      Unsigned (toString number.toNat).toList number.toNat := fun number => by
    have digits : (toString number.toNat).toList = Nat.toDigits 10 number.toNat :=
      Nat.toList_repr
    rw [digits]
    exact .plain (Text.readNatural?_eq_some_iff.1 (Text.readNatural?_decimal _))
  have whole : version.text.toList = (toString version.major.toNat).toList ++
      '.' :: ((toString version.minor.toNat).toList ++
        '.' :: (toString version.patch.toNat).toList) := by
    have dot : (toString ".").toList = ['.'] := rfl
    simp [text, String.toList_append, dot]
  rw [whole]
  exact .full (component _) (component _) (component _)

/-- The text of a version reads back as the version. -/
theorem parse?_text (version : Version) : parse? version.text = some version :=
  parse?_eq_some_iff.2 ⟨_, ⟨[], [], by simp, by simp, by simp⟩, spells_text version⟩

/-- A version is what its value stands for. -/
theorem toVersion_ofVersion (version : Version) :
    Catalogue.toVersion (Catalogue.ofVersion version) = version := by
  simp [Catalogue.toVersion, Catalogue.ofVersion, Value.field, Value.parts, Value.toInt]

/-- Exactly the texts that spell a version, with nothing but blank space around, are read, as that
version, and no other text is. The text of a version is read as the version itself, be it shown,
converted to or written as JSON. -/
theorem parse?_exact :
    (∀ text version, parse? text = some version ↔
      ∃ core, Padded core text.toList ∧ Spells version core) ∧
    (∀ text, parse? text = none ↔
      ¬ ∃ version core, Padded core text.toList ∧ Spells version core) ∧
    ∀ version : Version, parse? version.text = some version ∧
      (∀ access, ∃ text,
        ((Any.held access ⟨Catalogue.version, Catalogue.ofVersion version⟩).conv
          (.described Catalogue.allTypes) (some .string)).value = .new ⟨.string, .text text⟩ ∧
        parse? text = some version) ∧
      ∃ json, Catalogue.versionForm.write (Catalogue.ofVersion version) = some json ∧
        Catalogue.versionForm.read json = some (Catalogue.ofVersion version) := by
  refine ⟨fun _ _ => parse?_eq_some_iff, fun text => ?_, fun version =>
    ⟨parse?_text version, fun access => ?_, ?_⟩⟩
  · rw [Option.eq_none_iff_forall_ne_some]
    simp only [ne_eq, parse?_eq_some_iff, not_exists]
  · refine ⟨version.text, ?_, parse?_text version⟩
    have converted : ((Any.held access ⟨Catalogue.version, Catalogue.ofVersion version⟩).conv
        (.described Catalogue.allTypes) (some .string)).value =
          .new ⟨.string, .text (Catalogue.toVersion (Catalogue.ofVersion version)).text⟩ := rfl
    rw [converted, toVersion_ofVersion]
  · refine ⟨.string version.text, ?_, ?_⟩
    · rw [Catalogue.versionForm, Form.write, toVersion_ofVersion]
    · rw [Catalogue.versionForm, Form.read, parse?_text]
      rfl

end Reflection.Version
