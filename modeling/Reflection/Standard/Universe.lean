import Reflection.Standard.Capabilities
import Reflection.Standard.Layout
import Reflection.Types

/-!
# Built-in types

The records and described members of all types, given a description of the named ones. Scalars
have a copy constructor, then one without arguments, and numbers convert to every numeric type.
Containers have a constructor without arguments only; what they can do follows from their parts.
-/
namespace Reflection.Standard

/-- What the values of a named type are made of. -/
inductive Content where
  /-- Parts of some types in order. -/
  | fields (types : List Ty)
  /-- An integer of a kind that satisfies a condition. -/
  | integer (kind : IntegerKind) (valid : Int → Bool)
  /-- No content but a name. -/
  | token

/-- What a named type is: its record, what its values are made of, and the members it is
described with. -/
structure Description where
  record : Record
  content : Content
  members : Members := {}

/-- The name of a type, given those of named types. -/
def typeName (named : String → String) : Ty → String
  | .unit => "()"
  | .bool => "bool"
  | .char => "char"
  | .integer kind => kind.name
  | .float32 => "f32"
  | .float64 => "f64"
  | .string => "String"
  | .str => "&str"
  | .named key => named key
  | .vector item => s!"Vec<{typeName named item}>"
  | .deque item => s!"VecDeque<{typeName named item}>"
  | .array item length => s!"[{typeName named item}; {length}]"
  | .option item => s!"Option<{typeName named item}>"
  | .hashSet item => s!"HashSet<{typeName named item}>"
  | .orderedSet item => s!"BTreeSet<{typeName named item}>"
  | .hashMap keys values => s!"HashMap<{typeName named keys}, {typeName named values}>"
  | .orderedMap keys values => s!"BTreeMap<{typeName named keys}, {typeName named values}>"
  | .tuple first rest => s!"({typeName named first}{fieldNames named rest})"
where
  /-- The names of further fields, each behind a comma. -/
  fieldNames (named : String → String) : Ty → String
    | .tuple first rest => s!", {typeName named first}{fieldNames named rest}"
    | _ => ""

/-- What is known of a type by its kind. -/
def kindFlags : Ty → Flags
  | .unit => { void := true }
  | .integer kind => if kind.signed then { signed := true } else { unsigned := true }
  | .float32 | .float64 => { floating := true }
  | _ => {}

/-- The range shape of a container. -/
def rangeShape : Ty → Option RangeShape
  | .vector item | .deque item | .array item _ =>
    some { item, category := .randomAccess }
  | .option item => some { item, category := .bidirectional }
  | .orderedSet item => some { item, category := .bidirectional, writable := false }
  | .hashSet item => some { item, category := .forward, writable := false }
  | _ => none

/-- The table shape of a container. -/
def tableShape : Ty → Option TableShape
  | .hashMap key value | .orderedMap key value => some { key, value }
  | _ => none

/-- The string shape of a type of text. -/
def stringShape : Ty → Option StringShape
  | .string => some {}
  | .str => some { writable := false }
  | _ => none

/-- The fields of a tuple, each at its position. -/
def tupleFields (type : Ty) : List Field :=
  type.fields.mapIdx fun position type => ⟨type, [position]⟩

/-- The value a type has by default, where it has one. -/
def defaultValue : Ty → Option Value
  | .unit => some .unit
  | .bool => some (.bool false)
  | .char => some (.char '\x00')
  | .integer _ => some (.integer 0)
  | .float32 => some (.number (.zero .single false))
  | .float64 => some (.number (.zero .double false))
  | .string | .str => some (.text "")
  | .vector _ | .deque _ | .option _ | .hashSet _ | .orderedSet _ | .hashMap _ _
  | .orderedMap _ _ => some (.compound [])
  | .named _ | .array _ _ | .tuple _ _ => none

/-- Whether a type is described with a constructor that copies. -/
def hasCopyConstructor : Ty → Bool
  | .unit | .bool | .char | .integer _ | .float32 | .float64 | .string | .str | .hashSet _
  | .orderedSet _ => true
  | _ => false

/-- The constructor without arguments. -/
def defaultConstructor (type : Ty) (value : Value) : Overload :=
  .function [] type fun _ => value

/-- The numeric types in the order in which numbers convert to them. -/
def numericTypes : List Ty := IntegerKind.all.map .integer ++ [.float32, .float64]

/-- A number as a number of another type: integers wrap, numbers that are no integers are cut and
clamped, and everything else is rounded. -/
def convertNumber (target : Ty) : Value → Value
  | .integer number =>
    match target with
    | .integer kind => .integer (kind.wrap number)
    | .float32 => .number (.ofInt .single number)
    | .float64 => .number (.ofInt .double number)
    | _ => .integer number
  | .number number =>
    match target with
    | .integer kind => .integer (number.toInteger kind)
    | .float32 => .number (number.convert .single)
    | .float64 => .number (number.convert .double)
    | _ => .number number
  | value => value

/-- The code point of a character. -/
def codePoint : Value → Value
  | .char sign => .integer sign.toNat
  | value => value

/-- The conversions a built-in type is described with. -/
def conversions : Ty → List Conversion
  | .integer _ | .float32 | .float64 =>
    numericTypes.map fun target => ⟨target, convertNumber target⟩
  | .char => [⟨.integer .u32, codePoint⟩]
  | .str => [⟨.string, id⟩]
  | _ => []

/-- The record of a type. -/
def record (named : String → Description) (type : Ty) : Record :=
  match type with
  | .named key => (named key).record
  | _ =>
    let layout := layout (fun key => (named key).record.layout) type
    { name := typeName (fun key => (named key).record.name) type
      layout
      flags := { kindFlags type with empty := layout.size == 0 }
      capabilities := capabilities (fun key => (named key).record.capabilities) type
      range := rangeShape type
      table := tableShape type
      fields := tupleFields type
      string := stringShape type }

/-- The members a type is described with. -/
def members (named : String → Description) (type : Ty) : Members :=
  match type with
  | .named key => (named key).members
  | _ =>
    { constructors :=
        (if hasCopyConstructor type then [.copyConstructor type] else []) ++
          (defaultValue type).toList.map (defaultConstructor type)
      conversions := conversions type }

/-- All types over a description of the named ones. -/
def universeOf (named : String → Description) : Universe := ⟨record named, members named⟩

end Reflection.Standard
