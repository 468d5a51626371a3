import Reflection.Catalogue.Functions

/-!
# Members to register

Properties, constructors, parents and conversions that can be registered on types of the
catalogue, each known by an id. Most of them belong to one type; a few fit every type.
-/
namespace Reflection.Catalogue

open Standard

/-- A property that is a field. -/
def fieldProperty (owner : Ty) (type : Ty) (position : Nat) (writable : Bool) : Property where
  owner
  type
  get := (·.field position)
  set := if writable then some fun value new => value.replace [position] new else none

/-- A property that is read only. -/
def readOnlyProperty (owner : Ty) (type : Ty) (get : Value → Value) : Property where
  owner
  type
  get

/-- The mass of the body of a vehicle, as a property of the vehicle. -/
def massProperty : Property where
  owner := vehicle
  type := .float32
  get value := (value.field 1).field 0
  set := some fun value new => value.replace [1, 0] new

/-- The property with an id on a type; some are writable only on request. -/
def property? (owner : Ty) (id : String) (writable : Bool) : Option Property :=
  match id with
  | "five" => some (readOnlyProperty owner .i32 fun _ => .integer 5)
  | "x" => some (fieldProperty point .i32 0 writable)
  | "y" => some (fieldProperty point .i32 1 writable)
  | "sum" => some (readOnlyProperty point .i32 fun value => int32 (pointX value + pointY value))
  | "m" => some (fieldProperty meters .float64 0 writable)
  | "mass" => some massProperty
  | "body" => some (fieldProperty vehicle body 1 true)
  | "id" => some (fieldProperty vehicle .u64 0 false)
  | "count" => some (fieldProperty counter .u32 0 writable)
  | _ => none

/-- A copy of a unique number that grows by a step. -/
def uniqueCopy (step : Int) (value : Value) : Value :=
  wrap (int32 ((value.field 0).toInt + step))

/-- Constructors by their ids. -/
def constructors : List (String × Overload) :=
  [("diag", .function [.i32] point fun arguments => .compound (arguments ++ arguments)),
    ("from_f", .function [.float64, .float64] point fun arguments =>
      .compound (arguments.map fun argument =>
        .integer (argument.toNumber.toInteger .i32))),
    ("swapped", .function [.i32, .i32] point fun arguments => .compound arguments.reverse),
    ("quad", .function [.i32, .i32, .i32, .i32] point fun arguments =>
      wrappedPoint (total (arguments.take 2)) (total (arguments.drop 2))),
    ("from_meters", .function [meters] celsius fun arguments =>
      wrap (.number (((arguments.headD .unit).field 0).toNumber.convert .single))),
    ("make", .function [] sealed fun _ => .unit),
    ("from_i32", .function [.i32] unique .compound),
    ("copy_mut", .exclusive unique [] unique fun this _ => (uniqueCopy 1000 this, this)),
    ("from_u32", .function [.u32] counter .compound),
    ("from_point", .shared point [.u32] counter fun this arguments =>
      wrap (nat32 (pointX this * total arguments)))]

/-- The constructor with an id on a type. -/
def constructor? (type : Ty) (id : String) : Option Overload :=
  match id with
  | "copy" =>
    some (.copyConstructor type (if type = unique then uniqueCopy 1 else fun value => value))
  | _ => constructors.lookup id

/-- The parent with an id on a type. -/
def parent? (type : Ty) (id : String) : Option Parent :=
  match id with
  | "self" => some ⟨type, []⟩
  | "x" => some ⟨.i32, [0]⟩
  | "y" => some ⟨.i32, [1]⟩
  | "body_again" => some ⟨body, [1]⟩
  | "body" => some ⟨body, [1, 1]⟩
  | "left_node" => some ⟨node, [0, 0]⟩
  | "count" => some ⟨.u32, [0]⟩
  | _ => none

/-- Conversions by their ids. -/
def conversions : List (String × Conversion) :=
  [("i64_7", ⟨.i64, fun _ => .integer 7⟩), ("i64_8", ⟨.i64, fun _ => .integer 8⟩),
    ("text", ⟨.string, fun _ => .text "text"⟩),
    ("string", ⟨.string, fun value =>
      .text (toString (pointX value) ++ "," ++ toString (pointY value))⟩),
    ("meters", ⟨meters, fun value => wrap (.number (.ofInt .double (pointX value)))⟩),
    ("i32", ⟨.i32, fun value => int32 (pointX value * pointY value)⟩)]

/-- The conversion with an id. -/
def conversion? (id : String) : Option Conversion := conversions.lookup id

end Reflection.Catalogue
