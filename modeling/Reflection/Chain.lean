import Reflection.Factory

/-!
# Chains

A chain is what happens while a factory is open: registrations, and on the way questions about
the type and resets through other databases. What it observes is collected as remarks.
-/
namespace Reflection

/-- One step while a factory is open. -/
inductive ChainStep where
  | register (link : Link)
  /-- Remark the name of the type. -/
  | info
  /-- Reset a name in another database, and remark whether it was registered there. -/
  | resetIn (database name : String)

/-- Something observed while a factory is open. -/
inductive Remark where
  | name (name : String)
  | flag (truth : Bool)
  deriving DecidableEq, Repr

namespace Store

/-- Carry out the steps of a chain on a factory over a database. Besides the remarks and the store,
the factory is returned as the steps have left it. -/
def runSteps (store : Store) (database : String) (factory : Factory) :
    List ChainStep → Logged ((List Remark × Factory) × Store)
  | [] => pure (([], factory), store)
  | .register link :: rest => do
    let (factory, scope) ← (store.scope database).apply factory link
    (store.setScope database scope).runSteps database factory rest
  | .info :: rest => do
    let ((remarks, last), after) ← store.runSteps database factory rest
    pure ((.name (store.types.name factory.type) :: remarks, last), after)
  | .resetIn other name :: rest => do
    let (existed, reset) ← store.reset other name
    let ((remarks, last), after) ← reset.runSteps database factory rest
    pure ((.flag existed :: remarks, last), after)

/-- Open a factory on a type, carry out a chain, and close the factory. -/
def reflect (store : Store) (database : String) (type : Ty) (chain : List ChainStep) :
    Logged (List Remark × Store) := do
  let (factory, scope) ← (store.scope database).reflect type
  let ((remarks, _), store) ← (store.setScope database scope).runSteps database factory chain
  Logged.mark "chain done"
  (store.scope database).finish factory
  pure (remarks, store)

end Store

end Reflection
