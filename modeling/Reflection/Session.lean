import Reflection.Config.Registry
import Reflection.Module.Registry
import Reflection.Slots

/-!
# Sessions

A session is everything that a run of operations acts on: slots, the store of types and databases,
a module registry for every database, and config registries by name. It starts with nothing
registered and every type as it is described.
-/
namespace Reflection

/-- The state of a run of operations. -/
structure Session where
  store : Store
  slots : Slots := .empty
  /-- Module registries by the names of their databases. -/
  modules : Dictionary ModuleRegistry := .empty
  configs : Dictionary ConfigRegistry := .empty

namespace Session

/-- The session in which nothing has happened. -/
def fresh (fixed : Universe) : Session where
  store := .fresh fixed

/-- What is known of all types. -/
def types (session : Session) : Types := session.store.types

/-- The module registry over a database. -/
def registry (session : Session) (database : String) : ModuleRegistry :=
  (session.modules.find? database).getD (.ofDatabase database)

/-- The module registry over a database together with the store. -/
def host (session : Session) (database : String) : ModuleHost :=
  ⟨session.registry database, session.store⟩

/-- The session after an operation on modules. -/
def setHost (session : Session) (host : ModuleHost) : Session :=
  { session with
    store := host.store
    modules := session.modules.insert host.registry.database host.registry }

/-- The config registry of a name, over a database if it is new. -/
def config (session : Session) (name database : String) : ConfigRegistry :=
  (session.configs.find? name).getD (.ofDatabase database)

/-- The session with another config registry of a name. -/
def setConfig (session : Session) (name : String) (registry : ConfigRegistry) : Session :=
  { session with configs := session.configs.insert name registry }

/-- The session with other slots. -/
def setSlots (session : Session) (slots : Slots) : Session := { session with slots }

/-- The session after a result was stored in a slot, if it is to be stored. -/
def storeInto (session : Session) (slot : Option String) (any : Any) : Session :=
  match slot with
  | some slot => session.setSlots (session.slots.keep slot any)
  | none => session

/-- Write an operand at a location: what is there afterwards. -/
def write (session : Session) (location : Location) (source : Operand) :
    Logged (Except Error Any × Session) := do
  let (answer, slots) ← session.slots.write session.types location source
  pure (answer, session.setSlots slots)

/-- Load a document into the config registry of a name, over a database if it is new: how many keys
it has. -/
def loadConfig (format : ConfigFormat) (session : Session) (name database : String)
    (document : Json) : Logged (Except ConfigError Nat × Session) := do
  let (answer, registry) ← (session.config name database).loadValue format session.store document
  pure (answer, session.setConfig name registry)

end Session

end Reflection
