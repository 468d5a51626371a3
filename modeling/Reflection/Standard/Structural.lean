import Reflection.Standard.Capabilities

/-!
# Structural comparison

Values that are compared part by part at every depth: scalars by what they are, compounds like
sequences. Two values are structurally equal when this finds no difference and leaves nothing
undecided.
-/
namespace Reflection.Standard

mutual

/-- The comparison of two values part by part. -/
def structuralCmp : Value → Value → Option Ordering
  | .compound left, .compound right => structuralCmpAll left right
  | left, right => scalarCmp left right

/-- The comparison of two lists of values, the first difference deciding. -/
def structuralCmpAll : List Value → List Value → Option Ordering
  | [], [] => some .eq
  | [], _ :: _ => some .lt
  | _ :: _, [] => some .gt
  | left :: leftRest, right :: rightRest =>
    match structuralCmp left right with
    | some .eq => structuralCmpAll leftRest rightRest
    | decided => decided

end

/-- Whether two values are equal part by part. -/
def structuralEq (left right : Value) : Bool := structuralCmp left right == some .eq

end Reflection.Standard
