import Reflection.View.Range

/-!
# Surveys of ranges

A survey takes a range of integers, increases every item that may be written by one, and then
reads the range in every way its category allows.
-/
namespace Reflection

/-- What a range gives from its end. -/
structure BackSurvey where
  /-- The items from the last to the first. -/
  items : List Int
  /-- The last item, if it may be written. -/
  last : Option Int
  deriving DecidableEq, Repr

/-- What a range gives by position. -/
structure IndexSurvey where
  read : List (Option Int)
  written : List (Option Int)
  deriving DecidableEq, Repr

/-- What a range of integers gives. -/
structure RangeSurvey where
  before : List Int
  writable : Bool
  after : List Int
  len : Option Nat
  back : Option BackSurvey
  index : Option IndexSurvey
  deriving DecidableEq, Repr

namespace RangeView

/-- The integer in a part. -/
def integerAt (view : RangeView) (part : Part) : Int := (view.target.read part.path).toInt

/-- The integers of a range in order. -/
def integers (view : RangeView) : List Int := (view.items false).map view.integerAt

/-- The range after every integer was increased by one, wrapping around. -/
def increased (view : RangeView) (kind : IntegerKind) : RangeView :=
  { view with
    target := (view.items true).foldl
      (fun target part =>
        target.put part.path (.integer (kind.wrap ((target.read part.path).toInt + 1))))
      view.target }

/-- The integer a part holds that was found, if any was. -/
def integerOf (view : RangeView) (found : Attempt Part) : Option Int :=
  match found.outcome with
  | .ok part => some (view.integerAt part)
  | .error _ => none

/-- The positions a survey reads. -/
def readPositions : List Nat := [0, 1, 9]

/-- The positions a survey writes. -/
def writtenPositions : List Nat := [0, 9]

/-- Survey a range of integers of a kind. -/
def survey (types : Types) (kind : IntegerKind) (view : RangeView) : RangeSurvey :=
  let changed := if view.shape.writable then view.increased kind else view
  let reversed := changed.iter.walk (List.replicate changed.count .back)
  let items := reversed.filterMap (·.map changed.integerAt)
  let last := if view.shape.writable then items.head? else none
  let read := readPositions.map fun position => changed.integerOf (changed.get types position)
  let written := writtenPositions.map fun position =>
    changed.integerOf (changed.getMut types position)
  { before := view.integers
    writable := view.shape.writable
    after := changed.integers
    len := changed.len
    back := if view.shape.isBidirectional then some ⟨items, last⟩ else none
    index := if view.shape.isRandomAccess then some ⟨read, written⟩ else none }

end RangeView

end Reflection
