import ChainIndexer.Module

/-! The registry: the modules in use, in the order in which they are called. A module that fails
is reported and counted. It stops neither the other modules nor the block. -/
namespace ChainIndexer

structure Registry where
  modules : List Module
  deriving DecidableEq, Repr

namespace Registry

def names (r : Registry) : List String := r.modules.map Module.name

/-- Adds the modules of a list of names to those already there. The first name that is unknown, or
that is there already, is an error. -/
def extend (config : PruningConfig) : List Module → List String → Except Fault (List Module)
  | modules, [] => .ok modules
  | modules, name :: names =>
    match Module.ofName? config name with
    | none => .error (.because .badConfig s!"unknown module '{name}'")
    | some m =>
      if name ∈ modules.map Module.name then
        .error (.because .badConfig s!"module '{name}' registered twice")
      else extend config (modules ++ [m]) names

def ofConfig (config : Config) : Except Fault Registry := do
  return ⟨← extend config.pruning [] config.modules⟩

/-- Runs one handler and counts a failure after reporting it. -/
def isolate (report : Fault → LogLine) (handler : Attempt Unit) : Attempt Nat := do
  match ← handler.outcome with
  | .ok () => return 0
  | .error f => do
    Attempt.log (report f)
    return 1

/-- Runs the handlers of modules, in order. The result is the number of failures. -/
def dispatch (handler? : Module → Option (Attempt Unit)) (report : Module → Fault → LogLine) :
    List Module → Attempt Nat
  | [] => return 0
  | m :: ms => do
    let failures ← match handler? m with
      | some handler => isolate (fun f => report m (m.fault f)) handler
      | none => pure 0
    return failures + (← dispatch handler? report ms)

def dispatchGenesis (r : Registry) (doc : GenesisDoc) : Attempt Nat :=
  dispatch (fun m => m.genesisHandler?.map (· doc)) (fun m f => .genesisFailed m.name f) r.modules

def dispatchBlock (r : Registry) (data : BlockData) : Attempt Nat :=
  dispatch (fun m => m.blockHandler?.map (· data))
    (fun m f => .blockFailed m.name data.height f) r.modules

end Registry
end ChainIndexer
