import Reflection.Standard.Capabilities
import Reflection.Standard.Comparison

/-!
# Making containers

The value of a container from items in any order: ordered sets and tables put them into order, and
sets and tables keep one of several equal items or keys, the later one.
-/
namespace Reflection.Standard

/-- The order of the keys of tables. -/
def keyOrder : Comparison := fun left right => scalarCmp (key left) (key right)

/-- The value of a container made of some items. -/
def collect : Ty → List Value → Value
  | .hashSet _, items => .compound (distinct items)
  | .orderedSet _, items => .compound (ordered scalarCmp items)
  | .hashMap _ _, entries => .compound (distinctKeys entries)
  | .orderedMap _ _, entries => .compound (ordered keyOrder entries)
  | _, items => .compound items

end Reflection.Standard
