import Reflection.Integer

/-!
# Types

The types values can have: built-in scalars, containers over other types, tuples, and named
types whose meaning a description supplies. Two types are the same type exactly when they are
equal here, whatever names they print under.
-/
namespace Reflection

/-- A type of reflected values. -/
inductive Ty where
  /-- The type of the empty tuple, which also ends every tuple. -/
  | unit
  | bool
  | char
  | integer (kind : IntegerKind)
  | float32
  | float64
  /-- Owned text. -/
  | string
  /-- Borrowed text that is never written. -/
  | str
  /-- A type that a description defines, under its key. -/
  | named (key : String)
  | vector (item : Ty)
  | deque (item : Ty)
  | array (item : Ty) (length : Nat)
  | option (item : Ty)
  | hashSet (item : Ty)
  | orderedSet (item : Ty)
  | hashMap (key value : Ty)
  | orderedMap (key value : Ty)
  /-- A tuple: its first field, and the tuple of the others or `unit`. -/
  | tuple (first rest : Ty)
  deriving DecidableEq, Repr, Inhabited

namespace Ty

/-- Signed integers of 8 bits. -/
abbrev i8 : Ty := .integer .i8
/-- Signed integers of 32 bits. -/
abbrev i32 : Ty := .integer .i32
/-- Signed integers of 64 bits. -/
abbrev i64 : Ty := .integer .i64
/-- Unsigned integers of 8 bits. -/
abbrev u8 : Ty := .integer .u8
/-- Unsigned integers of 16 bits. -/
abbrev u16 : Ty := .integer .u16
/-- Unsigned integers of 32 bits. -/
abbrev u32 : Ty := .integer .u32
/-- Unsigned integers of 64 bits. -/
abbrev u64 : Ty := .integer .u64
/-- Unsigned integers as wide as a machine word. -/
abbrev usize : Ty := .integer .usize

/-- The tuple of some fields. -/
def tupleOf (fields : List Ty) : Ty := fields.foldr .tuple .unit

/-- The fields of a tuple, none for any other type. -/
def fields : Ty → List Ty
  | .tuple first rest => first :: rest.fields
  | _ => []

/-- A tuple has the fields it was made of. -/
@[simp] theorem fields_tupleOf (list : List Ty) : (tupleOf list).fields = list := by
  induction list with
  | nil => rfl
  | cons first rest ih => simpa [tupleOf, fields] using ih

end Ty

end Reflection
