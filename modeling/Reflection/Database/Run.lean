import Reflection.Chain

/-!
# Runs over one database

A database is changed by factories and by resets. A run is a list of these, all through one
database and each carried out on what the one before it left behind. A chain may be cut short at
any step and its factory closed there, so runs also lead to what a database holds while a factory
is open.
-/
namespace Reflection

/-- An operation through a database. -/
inductive DatabaseOperation where
  /-- Open a factory on a type, carry out a chain, and close the factory. -/
  | reflect (type : Ty) (chain : List ChainStep)
  | reset (name : String)

namespace Store

/-- Carry out one operation through a database. -/
def perform (store : Store) (database : String) : DatabaseOperation → Logged Store
  | .reflect type chain => do pure (← store.reflect database type chain).2
  | .reset name => do pure (← store.reset database name).2

/-- What a run of operations through a database leaves behind. -/
def after (store : Store) (database : String) : List DatabaseOperation → Store
  | [] => store
  | operation :: rest => (store.perform database operation).value.after database rest

end Store

end Reflection
