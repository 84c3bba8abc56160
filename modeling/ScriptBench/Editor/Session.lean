import ScriptBench.Run.Job
import ScriptBench.Run.Sink

namespace ScriptBench.Editor

open Diagnostic (PositionSet Record)
open Run (Channel Event Outcome Job)

structure Live where
  id : Nat
  channel : Channel
  job : Option Job
deriving DecidableEq

structure Session where
  text : String
  positions : PositionSet
  records : List Record
  lastOutcome : Option Outcome
  live : Option Live
  nextId : Nat
deriving DecidableEq

namespace Session

def new : Session := ⟨"", .empty, [], none, none, 1⟩

def isRunning (s : Session) : Bool := s.live.isSome

def lastExitCode (s : Session) : Option Int := s.lastOutcome.map (·.exitCode)

def liveExitCode (s : Session) : Option Int := s.live.bind fun l => l.job.bind (·.exitCode)

def setText (s : Session) (text : String) : Session := { s with text, positions := .empty }

def submit (s : Session) (channel : Channel) (job : Option Job) : Nat × Session :=
  (s.nextId, { s with
    records := []
    lastOutcome := none
    live := some ⟨s.nextId, channel, job⟩
    nextId := s.nextId + 1 })

def cancel (s : Session) : Session :=
  { s with live := s.live.map fun l => { l with job := l.job.map Job.cancel } }

def apply (s : Session) : Event → Session
  | .output r => { s with records := s.records ++ [r] }
  | .finished o => { s with positions := o.positions, lastOutcome := some o, live := none }

def withChannel (s : Session) (channel : Channel) : Session :=
  { s with live := s.live.map fun l => { l with channel } }

def abandon (s : Session) : Event × Session :=
  (.finished .notRun, s.apply (.finished .notRun))

def nextEvent (s : Session) : Option Event × Session :=
  match s.live with
  | none => (none, s)
  | some l =>
    match l.channel.receive with
    | (.event e, channel) => (some e, (s.withChannel channel).apply e)
    | (.empty, _) => (none, s)
    | (.disconnected, _) => let (e, s) := s.abandon; (some e, s)

def pollUpTo : Nat → Session → List Event × Session
  | 0, s => ([], s)
  | n + 1, s =>
    match s.live with
    | none => ([], s)
    | some l =>
      match l.channel.receive with
      | (.event e, channel) =>
        let (more, s) := pollUpTo n ((s.withChannel channel).apply e)
        (e :: more, s)
      | (.empty, _) => ([], s)
      | (.disconnected, _) =>
        let (e, s) := s.abandon
        let (more, s) := pollUpTo n s
        (e :: more, s)

def waiting (s : Session) : Nat :=
  match s.live with
  | none => 0
  | some l => l.channel.waiting.length

def poll (s : Session) : List Event × Session := pollUpTo (s.waiting + 1) s

def finishWithin : Nat → Session → List Event × Session
  | 0, s => ([], s)
  | n + 1, s =>
    match s.nextEvent with
    | (none, s) => ([], s)
    | (some e, s) =>
      let (more, s) := finishWithin n s
      (e :: more, s)

def finish (s : Session) : List Event × Session := finishWithin (s.waiting + 1) s

end Session

end ScriptBench.Editor
