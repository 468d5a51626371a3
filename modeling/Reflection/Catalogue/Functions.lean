import Reflection.Catalogue.Kinship
import Reflection.Catalogue.Plain
import Reflection.Integer

/-!
# Functions to register

Functions over types of the catalogue, each known by an id. All arithmetic on integers wraps.
Between them they take from none to five arguments, and receivers that are copied, borrowed const
or borrowed mutably.
-/
namespace Reflection.Catalogue

/-- A signed integer of 32 bits. -/
def int32 (number : Int) : Value := .integer (IntegerKind.i32.wrap number)

/-- An unsigned integer of 32 bits. -/
def nat32 (number : Int) : Value := .integer (IntegerKind.u32.wrap number)

/-- The point of two coordinates, each brought into range. -/
def wrappedPoint (x y : Int) : Value := .compound [int32 x, int32 y]

/-- The integers among some arguments, in order. -/
def integers (arguments : List Value) : List Int := arguments.map (·.toInt)

/-- The sum of the integers among some arguments. -/
def total (arguments : List Value) : Int := (integers arguments).foldr (· + ·) 0

/-- The texts among some arguments, with dashes between them. -/
def joinTexts (arguments : List Value) : Value :=
  .text (String.intercalate "-" (arguments.map (·.toText)))

/-- Integers as text with colons between them. -/
def colonText (numbers : List Int) : Value :=
  .text (String.intercalate ":" (numbers.map toString))

/-- The text of an argument as it is shown to a reader: texts and characters without quotes. -/
def displayed : Value → String
  | .text text => text
  | .char sign => String.singleton sign
  | value => (plain value).compact

/-- Functions of copied arguments. -/
def copyingFunctions : List (String × Overload) :=
  [("zero", .function [] .i32 fun _ => .integer 0),
    ("unit", .function [] .unit fun _ => .unit),
    ("neg", .function [.i32] .i32 fun arguments => int32 (-(total arguments))),
    ("add", .function [.i32, .i32] .i32 fun arguments => int32 (total arguments)),
    ("addf", .function [.float64, .float64] .float64 fun arguments =>
      let pair := Value.compound arguments
      .number ((pair.field 0).toNumber.add .double (pair.field 1).toNumber)),
    ("join2", .function [.string, .string] .string joinTexts),
    ("join3", .function [.string, .string, .string] .string joinTexts),
    ("sum4", .function [.i32, .i32, .i32, .i32] .i32 fun arguments =>
      int32 (total arguments)),
    ("mix4", .function [.u8, .string, .bool, .char] .string fun arguments =>
      .text (String.join (arguments.map displayed))),
    ("mass_of", .function [body] .float32 fun arguments => (arguments.headD .unit).field 0),
    ("weight_of", .function [node] .u32 fun arguments => (arguments.headD .unit).field 0)]

/-- Functions of a receiver that is borrowed const. -/
def readingFunctions : List (String × Overload) :=
  [("mass_ref", .shared body [] .float32 fun this _ => this.field 0),
    ("weight_ref", .shared node [] .u32 fun this _ => this.field 0),
    ("norm1", .shared point [] .i64 fun this _ =>
      .integer ((pointX this).natAbs + (pointY this).natAbs : Nat)),
    ("scale", .shared point [.i32] point fun this arguments =>
      let factor := total arguments
      wrappedPoint (pointX this * factor) (pointY this * factor)),
    ("dot", .shared point [.i32, .i32] .i32 fun this arguments =>
      let other := Value.compound arguments
      int32 (pointX this * pointX other + pointY this * pointY other)),
    ("ref3", .shared point [.i32, .i32, .i32] .string fun this arguments =>
      colonText (pointX this :: integers arguments)),
    ("ref4", .shared point [.i32, .i32, .i32, .i32] .string fun this arguments =>
      colonText (pointY this :: integers arguments)),
    ("strlen", .shared .string [] .usize fun this _ => .integer this.toText.utf8ByteSize)]

/-- Functions of a receiver that is borrowed mutably. -/
def writingFunctions : List (String × Overload) :=
  [("mass_set", .exclusive body [.float32] .unit fun _ arguments =>
      (.unit, .compound arguments)),
    ("weight_set", .exclusive node [.u32] .unit fun _ arguments =>
      (.unit, .compound arguments)),
    ("shift", .exclusive point [.i32, .i32] .unit fun this arguments =>
      let step := Value.compound arguments
      (.unit, wrappedPoint (pointX this + pointX step) (pointY this + pointY step))),
    ("mut3", .exclusive point [.i32, .i32, .i32] .i32 fun this arguments =>
      let sum := int32 (total arguments)
      (sum, .compound [sum, this.field 1])),
    ("mut4", .exclusive point [.i32, .i32, .i32, .i32] .i32 fun this arguments =>
      let sum := int32 (total arguments)
      (sum, .compound [this.field 0, sum])),
    ("clear", .exclusive counter [] .unit fun _ _ => (.unit, wrap (.integer 0))),
    ("bump", .exclusive counter [.u32] .u32 fun this arguments =>
      let count := nat32 ((this.field 0).toInt + total arguments)
      (count, wrap count)),
    ("push", .exclusive (.vector .i32) [.i32] .unit fun this arguments =>
      (.unit, .compound (this.parts ++ arguments))),
    ("incr", .exclusive .i32 [] .i32 fun this _ =>
      let next := int32 (this.toInt + 1)
      (next, next))]

/-- The function with an id. -/
def function? (id : String) : Option Overload :=
  (copyingFunctions ++ readingFunctions ++ writingFunctions).lookup id

end Reflection.Catalogue
