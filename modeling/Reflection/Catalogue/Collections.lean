import Reflection.Catalogue.Describe

/-!
# Collections with a shape

Structures that are viewed as a range, a table or text although they are none of the built-in
containers. Most of them allow no mutable access.
-/
namespace Reflection.Catalogue

open Standard

/-- A structure over some types that is seen through shapes only. -/
def shaped (key : String) (layout : Layout) (types : List Ty) (capabilities : Capabilities)
    (shape : Record → Record) : Description :=
  let described := (ofFields key layout types capabilities).hidden
  { described with record := shape described.record }

/-- Integers that are walked forward only, their number unknown. -/
def describeCountdown : Description :=
  shaped "Countdown" ⟨24, 8⟩ [.vector .i32] copyable fun record =>
    { record with
      range := some
        { item := .i32, category := .forward, place := [0], sized := false, writable := false } }

/-- Integers that are walked from both ends, their number unknown. -/
def describeRing : Description :=
  shaped "Ring" ⟨24, 8⟩ [.vector .i32] copyable fun record =>
    { record with
      range := some
        { item := .i32, category := .bidirectional, place := [0], sized := false,
          writable := false } }

/-- Integers that are indexed but never written, and a text. -/
def describeFrozen : Description :=
  shaped "Frozen" ⟨48, 8⟩ [.vector .i32, .string] copyable fun record =>
    { record with
      range := some { item := .i32, category := .randomAccess, place := [0], writable := false }
      string := some { place := [1], writable := false } }

/-- A table as a list of entries, in which the first entry of a key counts. -/
def describePairs : Description :=
  shaped "Pairs" ⟨24, 8⟩ [.vector (.tupleOf [.string, .i32])] copyable fun record =>
    { record with
      table := some { key := .string, value := .i32, place := [0], writable := false } }

/-- The most bytes a label takes. -/
def labelLimit : Nat := 8

/-- A text of bounded length. -/
def describeLabel : Description :=
  shaped "Label" ⟨24, 8⟩ [.string] (showing ordered (record "Label" [("text", plain)]))
    fun record => { record with string := some { place := [0], limit := some labelLimit } }

/-- The collections by their keys. -/
def collections : List (String × Description) :=
  [("Countdown", describeCountdown), ("Ring", describeRing), ("Frozen", describeFrozen),
    ("Pairs", describePairs), ("Label", describeLabel)]

end Reflection.Catalogue
