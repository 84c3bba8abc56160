import ScriptBench.Run.LineStream
import ScriptBench.Run.Launch
import ScriptBench.Run.Outcome

namespace ScriptBench.Run

open Machine (Files Place Transcript)

/-- The child: still there, with the wait status it will end with, or gone. -/
inductive Child where
  | running (ahead : Int)
  | gone (status : Int)
deriving DecidableEq, Repr

def Child.status : Child → Int
  | .running status | .gone status => status

def Child.isGone : Child → Bool
  | .running _ => false
  | .gone _ => true

inductive StreamName where
  | output
  | errors
deriving DecidableEq, Repr

structure Job where
  pid : Nat
  child : Child
  cancelled : Bool
  exitCode : Option Int
  output : LineStream
  errors : LineStream
  script : Option Place
  files : Files
deriving DecidableEq, Repr

namespace Job

def ofLaunched (pid : Nat) (l : Launched) : Job where
  pid
  child := if l.transcript.lingers then .running l.transcript.status else .gone l.transcript.status
  cancelled := false
  exitCode := none
  output := .ofBytes l.transcript.output
  errors := .ofBytes l.transcript.errors
  script := some l.script
  files := l.transcript.files

def ends (p : Job) : Job := { p with child := .gone p.child.status }

def killedStatus : Int := 9

def kills (p : Job) : Bool := p.exitCode.isNone && !p.child.isGone

def cancel (p : Job) : Job :=
  if p.kills then { p with cancelled := true, child := .gone killedStatus } else p

def removeScript (p : Job) : Job :=
  { p with
    script := none
    files := match p.script with
      | some place => p.files.remove place
      | none => p.files }

def wait (p : Job) : Int × Job :=
  match p.exitCode with
  | some code => (code, p)
  | none =>
    let code := (Ending.ofStatus p.child.status).exitCode
    (code, { p.ends.removeScript with exitCode := some code })

def stream (p : Job) : StreamName → LineStream
  | .output => p.output
  | .errors => p.errors

def withStream (p : Job) : StreamName → LineStream → Job
  | .output, s => { p with output := s }
  | .errors, s => { p with errors := s }

def nextLine (p : Job) (name : StreamName) : Option String × Job :=
  let (line, s) := (p.stream name).next p.cancelled
  (line, p.withStream name s)

def restLines (p : Job) (name : StreamName) : List String × Job :=
  let (lines, s) := (p.stream name).rest p.cancelled
  (lines, p.withStream name s)

end Job

end ScriptBench.Run
