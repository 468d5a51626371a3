import Reflection.Text.Integer

/-!
# Versions

A version has three components of 16 bits. Its order is that of the components packed into one
number. A version can stand in for a required one if it is not older and has the same major
component; before 1.0 the minor component must be the same too.
-/
namespace Reflection

/-- A version of a module. -/
structure Version where
  major : UInt16
  minor : UInt16
  patch : UInt16
  deriving DecidableEq, Repr

namespace Version

/-- The version of what gives none. -/
def initial : Version := ⟨0, 1, 0⟩

instance : Inhabited Version := ⟨initial⟩

/-- The version before all others. -/
def zero : Version := ⟨0, 0, 0⟩

/-- The components packed into one number, the patch lowest. -/
def toUInt64 (version : Version) : UInt64 :=
  (version.major.toUInt64 <<< 32) ||| (version.minor.toUInt64 <<< 16) ||| version.patch.toUInt64

/-- The order of versions. -/
def compare (left right : Version) : Ordering := Ord.compare left.toUInt64 right.toUInt64

/-- Whether a version can stand in for a required one. -/
def isCompatibleWith (version required : Version) : Bool :=
  if version.major = 0 ∧ required.major = 0 then
    version.minor = required.minor && required.patch ≤ version.patch
  else version.major = required.major && (version.compare required).isGE

/-- The text of a version. -/
def text (version : Version) : String :=
  s!"{version.major.toNat}.{version.minor.toNat}.{version.patch.toNat}"

/-- The debug form of a version. -/
def debug (version : Version) : String := s!"Version({version.text})"

/-- The pieces of a text between dots. -/
def splitDots : List Char → List (List Char)
  | [] => [[]]
  | c :: rest =>
    match splitDots rest with
    | [] => [[]]
    | piece :: pieces => if c = '.' then [] :: piece :: pieces else (c :: piece) :: pieces

/-- Read one component. -/
def readComponent? (text : List Char) : Option UInt16 :=
  (Text.readUnsigned? 65535 text).map UInt16.ofNat

/-- Read a version: two or three components between dots, with blanks around them ignored. A
missing patch is zero. -/
def parse? (text : String) : Option Version :=
  match splitDots (Text.trim text.toList) with
  | [major, minor] => do
    some ⟨← readComponent? major, ← readComponent? minor, 0⟩
  | [major, minor, patch] => do
    some ⟨← readComponent? major, ← readComponent? minor, ← readComponent? patch⟩
  | _ => none

/-- Why a text is no version. -/
def parseMessage (text : String) : String :=
  s!"invalid version '{text}', expected major.minor.patch"

end Version

end Reflection
