import Reflection.Chain
import Reflection.Version

/-!
# Modules

A module is a unit that brings its own types: it registers them when it is loaded, and they leave
with it. It has a name, a version, other modules it depends on, and two hooks, which are lists of
actions. A module may behave differently from one run of its hooks to the next, so a hook is a
function of how earlier runs ended.
-/
namespace Reflection

/-- A module that is needed, at a version that is compatible with the one given. -/
structure Dependency where
  id : String
  version : Version
  deriving DecidableEq, Repr

/-- Where a module stands. -/
inductive ModuleStatus where
  | registered
  | loading
  | active
  | unloading
  | failed
  deriving DecidableEq, Repr

/-- The name of a status. -/
def ModuleStatus.label : ModuleStatus → String
  | .registered => "Registered"
  | .loading => "Loading"
  | .active => "Active"
  | .unloading => "Unloading"
  | .failed => "Failed"

/-- Why an operation on modules failed. -/
inductive ModuleError where
  | notFound (module : String)
  | alreadyRegistered (module : String)
  | missingDependency (module dependency : String)
  | versionMismatch (module dependency : String) (required found : Version)
  | inUse (module dependent : String)
  | invalidState (module : String) (status : ModuleStatus)
  /-- A hook failed, with its own message. -/
  | failed (module message : String)
  | reflection (error : Error)
  deriving DecidableEq, Repr

/-- The wording of an error. -/
def ModuleError.message : ModuleError → String
  | .notFound module => s!"Module not found: {module}"
  | .alreadyRegistered module => s!"Module already registered: {module}"
  | .missingDependency module dependency =>
    s!"Module '{module}' requires missing dependency '{dependency}'"
  | .versionMismatch module dependency required found =>
    s!"Module '{module}' requires '{dependency}' {required.text}, found {found.text}"
  | .inUse module dependent => s!"Module '{module}' is still required by '{dependent}'"
  | .invalidState module status => s!"Module '{module}' is {status.label}"
  | .failed module message => s!"Module '{module}' failed: {message}"
  | .reflection error => s!"Reflection error: {error.display}"

/-- One action of a hook. -/
inductive Action where
  /-- Register a type through the context of the module, with a chain of members. -/
  | reflect (type : Ty) (chain : List ChainStep)
  /-- Fail with a message. -/
  | fail (message : String)
  /-- Fail unless another module is active. -/
  | require (id : String)
  /-- Make a value of a registered type without arguments. -/
  | construct (name : String)
  /-- Ask whether a name is registered. -/
  | lookup (name : String)
  /-- Record the module and what it has registered so far. -/
  | trace

/-- How a run of a hook ended. -/
inductive Ending where
  | completed
  /-- The hook failed by its own decision. -/
  | failed
  /-- Something the hook needed was not there. -/
  | prevented
  deriving DecidableEq, Repr

/-- What a hook does, given how the module's earlier runs ended, the latest first. -/
abbrev Hook := List Ending → List Action

/-- A unit that brings its own types. -/
structure Module where
  id : String
  version : Version := .initial
  dependencies : List Dependency := []
  onLoad : Hook
  onUnload : Hook := fun _ => []
  /-- How the runs of the hooks ended, the latest first. -/
  history : List Ending := []

/-- What a registry knows of a module. -/
structure ModuleInfo where
  id : String
  version : Version
  dependencies : List Dependency
  status : ModuleStatus
  /-- The names of the types the module brought, in the order it registered them. -/
  types : List String
  deriving DecidableEq, Repr

/-- The debug form of the name of a module. -/
def ModuleInfo.idDebug (info : ModuleInfo) : String := s!"ModuleId({info.id})"

namespace Module

/-- What is known of a module that was just registered. -/
def info (module : Module) : ModuleInfo where
  id := module.id
  version := module.version
  dependencies := module.dependencies
  status := .registered
  types := []

end Module

/-- A line of a script: an action, or a failure that happens only while the module has failed
fewer times than a bound. -/
inductive ScriptLine where
  | act (action : Action)
  | failUntil (message : String) (times : Nat)

/-- The hook of a script. -/
def scriptHook (lines : List ScriptLine) : Hook := fun history =>
  lines.filterMap fun
    | .act action => some action
    | .failUntil message times =>
      if history.count .failed < times then some (.fail message) else none

end Reflection
