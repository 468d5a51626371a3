import Reflection.Catalogue.Plain
import Reflection.Catalogue.Settings
import Reflection.Catalogue.Kinship
import Reflection.Config.Form
import Reflection.Config.Registry

/-!
# Configuration of catalogue types

How values of catalogue types are laid out in JSON, and the codecs an attribute can stand for: the
one that follows the form of a type, and three that show what happens when a codec is at odds with
its type.
-/
namespace Reflection.Catalogue

/-- How bodies are laid out. -/
def bodyForm : Form := .record [("mass", .number .single)]

/-- How versions are laid out: as their text. -/
def versionForm : Form :=
  .spelled (fun value => (toVersion value).text) fun text => (Version.parse? text).map ofVersion

/-- How the values of a type are laid out, for types that have a layout. -/
def form? : Ty → Option Form
  | .bool => some .bool
  | .string => some .text
  | .integer kind => some (.integer kind)
  | .float32 => some (.number .single)
  | .float64 => some (.number .double)
  | .vector item => (form? item).map .list
  | .named "Window" => some (.record [("width", .integer .u32), ("height", .integer .u32)])
  | .named "Audio" =>
    some (.record [("volume", .number .single), ("muted", .bool), ("name", .optional .text)])
  | .named "Body" => some bodyForm
  | .named "Vehicle" => some (.record [("id", .integer .u64), ("body", bodyForm)])
  | .named "void_core::Version" => some versionForm
  | _ => none

/-- A value, or a JSON error where there is none. -/
def orJsonError {α : Type} : Option α → Except ConfigError α
  | some value => .ok value
  | none => .error .json

/-- The codec that follows the form of a type. -/
def formCodec (type : Ty) : ConfigCodec where
  serialize types any := do
    let part ← (any.cast types type).mapError .reflection
    Fallible.ofExcept (orJsonError ((form? type).bind (·.write (any.read part.path))))
  deserialize json := do
    let value ← orJsonError ((form? type).bind (·.read json))
    .ok (.new ⟨type, value⟩)

/-- What a codec writes that does not look at its value. -/
def blindDocument : Json := .object [("lie", .bool true)]

/-- A codec that reads every document as the same integer, whatever its type. -/
def blindCodec : ConfigCodec where
  serialize _ _ := pure blindDocument
  deserialize _ := .ok (.new ⟨.i32, .integer 7⟩)

/-- A codec that reads every document as an empty any. -/
def emptyCodec : ConfigCodec where
  serialize _ _ := pure blindDocument
  deserialize _ := .ok .empty

/-- A codec that writes and reads nothing. -/
def refusingCodec : ConfigCodec where
  serialize types any := throw (.invalidDocument s!"refused to write '{any.typeName types}'")
  deserialize json := .error (.invalidDocument s!"refused to read {json.compact}")

/-- The codec an attribute stands for. -/
def codec : Value → ConfigCodec
  | .token "lie" _ => blindCodec
  | .token "empty" _ => emptyCodec
  | .token "refuse" _ => refusingCodec
  | .token _ type => formCodec type
  | _ => refusingCodec

/-- The attribute that makes a type configurable through the codec with an id. -/
def configAttribute (type : Ty) (id : String) : Typed := ⟨configType, .token id type⟩

/-- What makes a type of the catalogue configurable. -/
def configFormat : ConfigFormat := ⟨configType, codec⟩

end Reflection.Catalogue
