import Reflection.Catalogue.Describe

/-!
# Plain structures

Points, quantities and other structures without parents, among them some that lack one capability
or another.
-/
namespace Reflection.Catalogue

open Standard

/-- A point of the plane with integer coordinates. -/
def point : Ty := .named "Point"

/-- A second type that is registered under the name of points. -/
def homonym : Ty := .named "Point2"

/-- A length. -/
def meters : Ty := .named "Meters"

/-- A temperature. -/
def celsius : Ty := .named "Celsius"

/-- A type about which nothing is known. -/
def sealed : Ty := .named "Opaque"

/-- A number that is never copied. -/
def unique : Ty := .named "Unique"

/-- A number that is copied by a constructor only. -/
def handle : Ty := .named "Handle"

/-- A count. -/
def counter : Ty := .named "Counter"

/-- A line of documentation. -/
def doc : Ty := .named "Doc"

/-- A mark without content. -/
def tag : Ty := .named "Tag"

/-- A mark without content but with a wide alignment. -/
def wideTag : Ty := .named "Tag32"

/-- A structure too large to be stored inline. -/
def big : Ty := .named "Big"

/-- The point of two coordinates. -/
def pointOf (x y : Int) : Value := .compound [.integer x, .integer y]

/-- The first coordinate of a point. -/
def pointX (value : Value) : Int := (value.field 0).toInt

/-- The second coordinate of a point. -/
def pointY (value : Value) : Int := (value.field 1).toInt

/-- A structure of one part. -/
def wrap (part : Value) : Value := .compound [part]

/-- The points, described. -/
def describePoint : Description :=
  (ofFields "Point" ⟨8, 4⟩ [.i32, .i32]
      (showing comparable (record "Point" [("x", plain), ("y", plain)]))
    |>.default point (pointOf 0 0)
    |>.constructor (.function [.i32, .i32] point .compound))

/-- The namesakes of points, described. -/
def describeHomonym : Description :=
  let described :=
    ofFields "Point2" ⟨4, 4⟩ [.i32] (showing comparable (record "Point2" [("x", plain)]))
  { described with record := { described.record with name := "Point" } }

/-- The number zero. -/
def zeroNumber (format : Format) : Value := .number (.zero format false)

/-- The lengths, described. -/
def describeMeters : Description :=
  (ofFields "Meters" ⟨8, 8⟩ [.float64] (showing ordered (positional "Meters" [plain]))
    |>.default meters (wrap (zeroNumber .double))
    |>.conversion .float64 (·.field 0))

/-- The temperature at which Celsius starts, in kelvin. -/
def kelvinOffset : Number := .ofDecimal .double false 27315 (-2)

/-- The temperatures, described: made from degrees or from kelvin. -/
def describeCelsius : Description :=
  (ofFields "Celsius" ⟨4, 4⟩ [.float32] (showing comparable (positional "Celsius" [single]))
    |>.hidden
    |>.constructor (.function [.float32] celsius .compound)
    |>.constructor (.function [.float64] celsius fun arguments =>
      let kelvin := (Value.compound arguments).field 0
      wrap (.number ((kelvin.toNumber.sub .double kelvinOffset).convert .single))))

/-- The sealed type, described. -/
def describeSealed : Description := ofFields "Opaque" ⟨0, 1⟩ []

/-- A type that is described without a name and gets a qualified one. -/
def describeUnnamed : Description :=
  let described := (ofFields "Unnamed" ⟨2, 2⟩ [.u16]).hidden
  { described with record := { described.record with name := "oracle_driver::types::Unnamed" } }

/-- The unique numbers, described. -/
def describeUnique : Description := ofFields "Unique" ⟨4, 4⟩ [.i32]

/-- How much a handle grows when it is copied. -/
def handleStep : Int := 100

/-- The handles, described: copied by a constructor that gives another value. -/
def describeHandle : Description :=
  (ofFields "Handle" ⟨4, 4⟩ [.u32] (showing {} (positional "Handle" [plain]))
    |>.constructor (.copyConstructor handle fun value =>
      wrap (.integer (IntegerKind.u32.wrap ((value.field 0).toInt + handleStep)))))

/-- The counts, described. -/
def describeCounter : Description :=
  (ofFields "Counter" ⟨4, 4⟩ [.u32] (showing comparable (record "Counter" [("count", plain)]))
    |>.default counter (wrap (.integer 0))
    |>.function "peek" (.shared counter [] .u32 fun value _ => value.field 0))

/-- The lines of documentation, described. -/
def describeDoc : Description :=
  ofFields "Doc" ⟨24, 8⟩ [.string] (showing comparable (positional "Doc" [plain]))

/-- The marks, described. -/
def describeTag : Description :=
  ofFields "Tag" ⟨0, 1⟩ [] (showing comparable fun _ => .text "Tag")

/-- The wide marks, described. -/
def describeWideTag : Description := ofFields "Tag32" ⟨0, 32⟩ [] comparable

/-- The large structures, described. -/
def describeBig : Description :=
  ofFields "Big" ⟨64, 8⟩ [.array .u64 8]
    (showing ordered (record "Big" [("words", items plain)]))

/-- The plain structures by their keys. -/
def plainStructures : List (String × Description) :=
  [("Point", describePoint), ("Point2", describeHomonym), ("Meters", describeMeters),
    ("Celsius", describeCelsius), ("Opaque", describeSealed), ("Unnamed", describeUnnamed),
    ("Unique", describeUnique), ("Handle", describeHandle), ("Counter", describeCounter),
    ("Doc", describeDoc), ("Tag", describeTag), ("Tag32", describeWideTag),
    ("Big", describeBig)]

end Reflection.Catalogue
