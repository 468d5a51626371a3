import Reflection.Catalogue.Describe
import Reflection.Version

/-!
# Settings

Structures that a program keeps in its configuration, versions as reflected values, and the
attribute that makes a type configurable.
-/
namespace Reflection.Catalogue

open Standard

/-- The size of a window. -/
def window : Ty := .named "Window"

/-- How sound is played. -/
def audio : Ty := .named "Audio"

/-- Versions. -/
def version : Ty := .named "void_core::Version"

/-- The attribute of configurable types. -/
def configType : Ty := .named "void_core::ConfigType"

/-- How an optional text shows. -/
def optionalText : Show := fun value =>
  match value.parts with
  | [] => .text "None"
  | inner :: _ => .tuple "Some" [plain inner]

/-- The windows, described. -/
def describeWindow : Description :=
  (ofFields "Window" ⟨8, 4⟩ [.u32, .u32]
    (showing comparable (record "Window" [("width", plain), ("height", plain)]))).hidden

/-- The settings of sound, described; by default it is silent and has no name. -/
def describeAudio : Description :=
  ((ofFields "Audio" ⟨32, 8⟩ [.float32, .bool, .option .string]
      (showing comparable
        (record "Audio" [("volume", single), ("muted", plain), ("name", optionalText)]))).hidden
    |>.default audio
      (.compound [.number (.zero .single false), .bool false, .compound []]))

/-- A version as a value. -/
def ofVersion (version : Version) : Value :=
  .compound [.integer version.major.toNat, .integer version.minor.toNat,
    .integer version.patch.toNat]

/-- The version a value stands for. -/
def toVersion (value : Value) : Version :=
  ⟨.ofNat (value.field 0).toInt.toNat, .ofNat (value.field 1).toInt.toNat,
    .ofNat (value.field 2).toInt.toNat⟩

/-- The versions, described. -/
def describeVersion : Description :=
  (ofFields "void_core::Version" ⟨6, 2⟩ [.u16, .u16, .u16]
      (showing ordered fun value => .text (toVersion value).debug)
    |>.default version (ofVersion .initial)
    |>.constructor (.function [.u16, .u16, .u16] version .compound)
    |>.conversion .string fun value => .text (toVersion value).text)

/-- The attribute of configurable types, described. -/
def describeConfigType : Description :=
  { ofFields "void_core::ConfigType" ⟨16, 8⟩ [] copyable with content := .token }

/-- The settings by their keys. -/
def settings : List (String × Description) :=
  [("Window", describeWindow), ("Audio", describeAudio),
    ("void_core::Version", describeVersion), ("void_core::ConfigType", describeConfigType)]

end Reflection.Catalogue
