import ScriptBench.Log.Logger
import ScriptBench.Run.Launch

namespace ScriptBench.Run

open Log (Entry Level Logger)

inductive Note where
  | runningScript (path : String)
  | launching (compiler script : String)
  | spawnFailed (compiler : String) (reason : Machine.SystemError)
  | spawned (pid : Nat)
  | killing (pid : Nat)
  | exited (pid : Nat) (code : Int)
  | launchFailed (execution : Nat) (reason : LaunchError)
  | finished (execution : Nat) (code : Int) (diagnostics : Nat)
  | submitted (execution : Nat)
  | cancellingPrevious (execution : Nat)
  | cancelling (execution : Nat)
  | endedWithoutOutcome
deriving DecidableEq, Repr

namespace Note

def level : Note → Level
  | .runningScript _ => .info
  | .spawnFailed .. | .launchFailed .. | .endedWithoutOutcome => .warn
  | _ => .debug

def message : Note → String
  | .runningScript _ => "running script"
  | .launching .. => "launching script"
  | .spawnFailed .. => "spawn failed"
  | .spawned _ => "spawned compiler"
  | .killing _ => "cancelling script"
  | .exited .. => "script exited"
  | .launchFailed .. => "launch failed"
  | .finished .. => "execution finished"
  | .submitted _ => "submitted script"
  | .cancellingPrevious _ => "cancelling previous execution"
  | .cancelling _ => "cancelling execution"
  | .endedWithoutOutcome => "execution ended without an outcome"

def logger (base : Logger) : Note → Logger
  | .runningScript _ => base
  | .launching .. | .spawnFailed .. | .spawned _ => base.component "supervisor"
  | .killing pid | .exited pid _ => (base.component "supervisor").withField "pid" (toString pid)
  | .launchFailed id _ | .finished id .. =>
    ((base.component "session").component "execution").withField "execution" (toString id)
  | .submitted _ | .cancellingPrevious _ | .cancelling _ | .endedWithoutOutcome =>
    base.component "session"

def fields : Note → List (String × String)
  | .runningScript path => [("path", path)]
  | .launching compiler script => [("compiler", compiler), ("script", script)]
  | .spawnFailed compiler reason => [("compiler", compiler), ("error", reason.message)]
  | .spawned pid => [("pid", toString pid)]
  | .killing _ => []
  | .exited _ code => [("exit_code", toString code)]
  | .launchFailed _ reason => [("error", reason.message)]
  | .finished _ code diagnostics =>
    [("exit_code", toString code), ("diagnostics", toString diagnostics)]
  | .submitted id | .cancellingPrevious id | .cancelling id => [("execution", toString id)]
  | .endedWithoutOutcome => []

def entryOf (base : Logger) (n : Note) : Option Entry :=
  (n.logger base).entryOf n.level n.message n.fields

end Note

end ScriptBench.Run
