import ScriptBench.Diagnostic.Extractor
import ScriptBench.Run.Note
import ScriptBench.Run.Job
import ScriptBench.Run.Sink

/-!
Three workers share a run: one reads the output, one reads the errors and gathers their positions,
one waits for the end of the job. They take turns in any order. The outcome comes when both readers
are done, so it is last and has the positions of all errors.
-/

namespace ScriptBench.Run

open Config (Runner)
open Diagnostic (Extractor Record)

/-- A turn of one worker, or the child ending by itself. A worker that has to wait lets its turn
pass. -/
inductive Turn where
  | childEnds
  | readsOutput
  | readsErrors
  | awaits
deriving DecidableEq, Repr

structure Execution (σ : Type) where
  id : Nat
  job : Job
  extractor : Extractor
  outputDone : Bool
  errorsDone : Bool
  outcome : Option Outcome
  sink : σ

namespace Execution

variable {σ : Type} [Sink σ]

def new (id : Nat) (extension : String) (job : Job) (sink : σ) : Execution σ :=
  ⟨id, job, .new extension, false, false, none, sink⟩

def readOutput (e : Execution σ) : Execution σ :=
  if e.outputDone then e
  else match e.job.nextLine .output with
    | (none, job) => { e with job, outputDone := true }
    | (some line, job) =>
      if job.cancelled then { e with job, outputDone := true }
      else { e with job, sink := offer e.sink (.output (.plain line)) }

def readErrors (e : Execution σ) : Execution σ :=
  if e.errorsDone then e
  else match e.job.nextLine .errors with
    | (none, job) => { e with job, errorsDone := true }
    | (some line, job) =>
      if job.cancelled then { e with job, errorsDone := true }
      else
        let (record, extractor) := e.extractor.read line
        { e with
          job
          extractor
          sink := match record with
            | some r => offer e.sink (.output r)
            | none => e.sink }

def await (e : Execution σ) : Execution σ :=
  match e.outcome, e.job.exitCode with
  | some _, _ => e
  | none, none => if e.job.child.isGone then { e with job := e.job.wait.2 } else e
  | none, some code =>
    if e.errorsDone && e.outputDone then
      let o : Outcome := ⟨code, e.extractor.positions, e.job.cancelled⟩
      { e with outcome := some o, sink := offer e.sink (.finished o) }
    else e

def step (e : Execution σ) : Turn → Execution σ
  | .childEnds => { e with job := e.job.ends }
  | .readsOutput => e.readOutput
  | .readsErrors => e.readErrors
  | .awaits => e.await

def run (e : Execution σ) (turns : List Turn) : Execution σ := turns.foldl step e

def cancel (e : Execution σ) : Execution σ := { e with job := e.job.cancel }

def isOver (e : Execution σ) : Bool := e.outcome.isSome

def turnsToEnd (e : Execution σ) : List Turn :=
  .childEnds :: (List.replicate (e.job.output.bound + 1) .readsOutput ++
    List.replicate (e.job.errors.bound + 1) .readsErrors ++ [.awaits, .awaits])

def complete (e : Execution σ) : Execution σ := e.run e.turnsToEnd

def notes (e : Execution σ) : List Note :=
  (match e.job.exitCode with
  | some code => [.exited e.job.pid code]
  | none => []) ++
  match e.outcome with
  | some o => [.finished e.id o.exitCode o.positions.size]
  | none => []

end Execution

inductive Started (σ : Type) where
  | running (execution : Execution σ)
  | failed (id : Nat) (reason : LaunchError) (sink : σ)

def reportFailure {σ : Type} [Sink σ] (sink : σ) (reason : LaunchError) : σ :=
  offer (offer sink (.output (Record.launchFailure reason.message))) (.finished .notRun)

namespace Started

variable {σ : Type} [Sink σ]

def start (id : Nat) (r : Runner) (h : Host) (text : String) (sink : σ) : Started σ :=
  match (launch r h text).1 with
  | .error reason => .failed id reason (reportFailure sink reason)
  | .ok l => .running (.new id r.extension (.ofLaunched h.pid l) sink)

def id : Started σ → Nat
  | .running e => e.id
  | .failed id .. => id

def job : Started σ → Option Job
  | .running e => some e.job
  | .failed .. => none

def sink : Started σ → σ
  | .running e => e.sink
  | .failed _ _ s => s

def complete : Started σ → Started σ
  | .running e => .running e.complete
  | s => s

def notes (r : Runner) (h : Host) : Started σ → List Note
  | .running e => [.launching r.compiler (scriptPath r h), .spawned h.pid] ++ e.notes
  | .failed id reason _ =>
    (match reason with
    | .spawn why => [.launching r.compiler (scriptPath r h), .spawnFailed r.compiler why]
    | .scriptFile .. => []) ++ [.launchFailed id reason]

end Started

end ScriptBench.Run
