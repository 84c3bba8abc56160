import ScriptBench.Diagnostic.Position

namespace ScriptBench.Run

open Diagnostic (PositionSet)

inductive Ending where
  | exited (code : Nat)
  | killed (signal : Nat)
  | stopped
deriving DecidableEq, Repr

def launchFailedCode : Int := -1

namespace Ending

/-- Reads a wait status: its low seven bits tell a signal or, if they are 0, that the code is in
the eight bits above the low byte. -/
def ofStatus (status : Int) : Ending :=
  let low := (status % 128).toNat
  if low = 0 then .exited (status / 256 % 256).toNat
  else if low = 127 then .stopped
  else .killed low

def exitCode : Ending → Int
  | .exited code => code
  | .killed signal => 128 + signal
  | .stopped => launchFailedCode

end Ending

structure Outcome where
  exitCode : Int
  positions : PositionSet
  cancelled : Bool
deriving DecidableEq

namespace Outcome

def isFailure (o : Outcome) : Bool := o.exitCode != 0

def statusLine (o : Outcome) : String := "Finished with code " ++ toString o.exitCode

def notRun : Outcome := ⟨launchFailedCode, .empty, false⟩

end Outcome

def processExitCode (code : Int) : Int := if code < 0 then 1 else min code 255

end ScriptBench.Run
