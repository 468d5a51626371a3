import Reflection.Module.Registry

/-!
# Runs of a module registry

A registry is only changed by operations on it. A run is a list of operations, each carried out on
what the one before it left behind, whether that one succeeded or not.
-/
namespace Reflection

/-- An operation on a module registry. -/
inductive ModuleOperation where
  | register (module : Module)
  | load (id : String)
  | unload (id : String)
  | unloadAll

namespace ModuleHost

/-- Carry out one operation. -/
def perform (host : ModuleHost) : ModuleOperation → Logged (ModuleOutcome × ModuleHost)
  | .register module => host.register module
  | .load id => host.load id
  | .unload id => host.unload id
  | .unloadAll => host.unloadAll

/-- What a run of operations leaves behind. -/
def after (host : ModuleHost) : List ModuleOperation → ModuleHost
  | [] => host
  | operation :: rest => (host.perform operation).value.2.after rest

end ModuleHost

end Reflection
