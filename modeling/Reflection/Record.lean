import Reflection.Document
import Reflection.Error
import Reflection.Value

/-!
# Type records

A record says what is fixed about a type: its name and layout, its flags, what can be done with
its values, and the shapes in which a value can be viewed. Shapes are data: a range is a sequence
of parts at some place inside the value, a table a sequence of entries, a tuple a list of places.
Const and mutable access to a shape therefore reach the same parts.
-/
namespace Reflection

/-- How much room a value takes and how it is aligned, in bytes. -/
structure Layout where
  size : Nat
  align : Nat
  deriving DecidableEq, Repr

/-- Whether an owned value is stored inline: at most three machine words, aligned like one. -/
def Layout.fitsInline (layout : Layout) : Bool := layout.size ≤ 24 && layout.align ≤ 8

/-- What a type is known to be. -/
structure Flags where
  /-- The type of the empty tuple. -/
  void : Bool := false
  /-- Values take no room. -/
  empty : Bool := false
  enum : Bool := false
  signed : Bool := false
  unsigned : Bool := false
  floating : Bool := false
  deriving DecidableEq, Repr

namespace Flags

/-- Each flag with its name and its bit. -/
def table (flags : Flags) : List (Bool × String × Nat) :=
  [(flags.void, "VOID", 1), (flags.empty, "EMPTY", 2), (flags.enum, "ENUM", 4),
    (flags.signed, "SIGNED", 8), (flags.unsigned, "UNSIGNED", 16),
    (flags.floating, "FLOATING", 32)]

/-- The flags as a sum of bits. -/
def bits (flags : Flags) : Nat :=
  (flags.table.map fun row => if row.1 then row.2.2 else 0).foldr (· + ·) 0

/-- The names of the flags that are set. -/
def names (flags : Flags) : List String :=
  flags.table.filterMap fun row => if row.1 then some row.2.1 else none

/-- Whether the type holds numbers. -/
def arithmetic (flags : Flags) : Bool := flags.signed || flags.unsigned || flags.floating

/-- The debug form of the flags. -/
def debug (flags : Flags) : String :=
  if flags.names.isEmpty then "TypeFlags(0x0)"
  else "TypeFlags(" ++ String.intercalate " | " flags.names ++ ")"

end Flags

/-- What can be done with values of a type. A capability that is absent is not supported. What tells
items of sets and keys of tables apart is not offered, but belongs to the type itself. -/
structure Capabilities where
  /-- Copy a value. -/
  clone : Option (Value → Value) := none
  /-- Whether two values are equal. -/
  eq : Option (Value → Value → Bool) := none
  /-- How two values compare, where they do. -/
  cmp : Option (Value → Value → Option Ordering) := none
  /-- The debug form of a value. -/
  debug : Option (Value → Document) := none
  /-- Whether two values are the same item of a set or the same key of a table. -/
  sameKey : Value → Value → Bool := fun left right => left = right
  /-- The order of items in a set and of keys in a table; undecided where the type has none. -/
  keyCmp : Value → Value → Option Ordering := cmp.getD fun _ _ => none

/-- In which ways a range can be walked. -/
inductive Category where
  | forward
  | bidirectional
  | randomAccess
  deriving DecidableEq, Repr

/-- The name of a category. -/
def Category.label : Category → String
  | .forward => "Forward"
  | .bidirectional => "Bidirectional"
  | .randomAccess => "RandomAccess"

/-- A sequence of items of one type inside a value. -/
structure RangeShape where
  item : Ty
  category : Category
  /-- Where the sequence lies. -/
  place : Path := []
  /-- Whether the length is known without walking. -/
  sized : Bool := true
  /-- Whether items may be borrowed mutably. -/
  writable : Bool := true
  deriving DecidableEq, Repr

namespace RangeShape

/-- Whether the range can be walked from its end. -/
def isBidirectional (shape : RangeShape) : Bool := shape.category != .forward

/-- Whether the range can be indexed. -/
def isRandomAccess (shape : RangeShape) : Bool := shape.category == .randomAccess

end RangeShape

/-- A table inside a value: entries of two parts, a key and a value. -/
structure TableShape where
  key : Ty
  value : Ty
  /-- Where the entries lie. -/
  place : Path := []
  /-- Whether values may be borrowed mutably. -/
  writable : Bool := true
  deriving DecidableEq, Repr

/-- A field of a tuple: its type and where it lies. -/
structure Field where
  type : Ty
  place : Path
  deriving DecidableEq, Repr

/-- Text inside a value. -/
structure StringShape where
  /-- Where the text lies. -/
  place : Path := []
  /-- Whether the text may be assigned. -/
  writable : Bool := true
  /-- The most bytes of text that may be assigned, if there is a bound. -/
  limit : Option Nat := none
  deriving DecidableEq, Repr

/-- Whether a shape takes a text. -/
def StringShape.takes (shape : StringShape) (text : String) : Bool :=
  shape.writable && match shape.limit with
    | some limit => text.utf8ByteSize ≤ limit
    | none => true

/-- How an enumeration relates to its underlying integers. -/
structure Enumeration where
  underlying : Ty
  /-- The underlying integer of a value. -/
  toUnderlying : Value → Value
  /-- The value of an integer, if there is one. -/
  fromInteger : Int → Option Value

/-- What is fixed about a type. -/
structure Record where
  name : String
  layout : Layout
  flags : Flags := {}
  capabilities : Capabilities := {}
  range : Option RangeShape := none
  table : Option TableShape := none
  /-- The fields of the tuple shape; a type without fields has no tuple shape. -/
  fields : List Field := []
  string : Option StringShape := none
  enumeration : Option Enumeration := none

namespace Record

/-- Whether the type has a tuple shape. -/
def hasTuple (record : Record) : Bool := !record.fields.isEmpty

/-- The debug form of a record. -/
def debug (record : Record) : Document :=
  .record "TypeData"
    [("name", .quoted record.name), ("size", .text (toString record.layout.size)),
      ("align", .text (toString record.layout.align)), ("flags", .text record.flags.debug)]

end Record

end Reflection
