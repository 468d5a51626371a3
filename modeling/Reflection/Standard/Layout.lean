import Reflection.Record

/-!
# Layout of built-in types

Containers that keep their items elsewhere have a fixed size. Arrays, options and tuples are as
large as their parts need: the fields of a tuple are placed without gaps between them, and an
option needs room to say that it is empty only if its item leaves no value unused for that.
-/
namespace Reflection.Standard

/-- A size rounded up to a multiple of an alignment. -/
def roundUp (size align : Nat) : Nat := (size + align - 1) / align * align

/-- Whether some bit patterns of a type stand for no value, so that an option can use one. -/
def leavesRoom : Ty → Bool
  | .bool | .char | .string | .str => true
  | .vector _ | .deque _ | .hashSet _ | .hashMap _ _ => true
  | .array item length => length != 0 && leavesRoom item
  | .tuple first rest => leavesRoom first || leavesRoom rest
  | _ => false

/-- The layout of a type, and the room its parts take without padding at the end. -/
structure Extent where
  layout : Layout
  unpadded : Nat

/-- The layout of a type, given those of named types. -/
def extent (named : String → Layout) : Ty → Extent
  | .unit => ⟨⟨0, 1⟩, 0⟩
  | .bool => ⟨⟨1, 1⟩, 1⟩
  | .char | .float32 => ⟨⟨4, 4⟩, 4⟩
  | .integer kind => ⟨⟨kind.bits / 8, kind.bits / 8⟩, kind.bits / 8⟩
  | .float64 => ⟨⟨8, 8⟩, 8⟩
  | .str => ⟨⟨16, 8⟩, 16⟩
  | .string | .vector _ | .orderedSet _ | .orderedMap _ _ => ⟨⟨24, 8⟩, 24⟩
  | .deque _ => ⟨⟨32, 8⟩, 32⟩
  | .hashSet _ | .hashMap _ _ => ⟨⟨48, 8⟩, 48⟩
  | .named key => ⟨named key, (named key).size⟩
  | .array item length =>
    let inner := (extent named item).layout
    ⟨⟨length * inner.size, inner.align⟩, length * inner.size⟩
  | .option item =>
    let inner := (extent named item).layout
    let size := if leavesRoom item then inner.size else roundUp (inner.size + 1) inner.align
    ⟨⟨size, inner.align⟩, size⟩
  | .tuple first rest =>
    let inner := (extent named first).layout
    let others := extent named rest
    let align := max inner.align others.layout.align
    let unpadded := inner.size + others.unpadded
    ⟨⟨roundUp unpadded align, align⟩, unpadded⟩

/-- The layout of a type, given those of named types. -/
def layout (named : String → Layout) (type : Ty) : Layout := (extent named type).layout

end Reflection.Standard
