import ScriptBench.Config.Basic
import ScriptBench.Machine.Program

namespace ScriptBench.Run

open Config (Runner)
open Machine (Environment Files Place SystemError Transcript joinPath)

inductive LaunchError where
  | scriptFile (path : String) (reason : SystemError)
  | spawn (reason : SystemError)
deriving DecidableEq, Repr

def LaunchError.message : LaunchError → String
  | .scriptFile path reason =>
    "create script file: " ++ reason.message ++ " at path " ++ Text.quoted path
  | .spawn reason => reason.message

/-- Where scripts run: what is around them, the characters for the next fresh file name, the number
of the next process, and what comes of starting a program and of writing a file. -/
structure Host where
  environment : Environment
  fresh : String
  pid : Nat
  start : Environment → Nat → String → List String → Except SystemError Transcript
  /-- Behind how many bytes the writing of a new file breaks off, if it does, and why. -/
  breaksOff : Place → List UInt8 → Option (Nat × SystemError) := fun _ _ => none

def Host.ofEnvironment (e : Environment) (fresh : String) (pid : Nat) : Host where
  environment := e
  fresh
  pid
  start := Machine.start

def Host.files (h : Host) : Files := h.environment.files

def Host.withFiles (h : Host) (files : Files) : Host :=
  { h with environment := { h.environment with files } }

def scriptName (r : Runner) (fresh : String) : String :=
  r.tempPrefix ++ fresh ++ "." ++ r.extension

def scriptPath (r : Runner) (h : Host) : String :=
  let directory := r.tempDir.getD h.environment.tempDirectory
  joinPath h.environment.directory (joinPath directory (scriptName r h.fresh))

/-- The place of the script, which is a new one, and the files with the script added. A file that is
not written to its end is removed. -/
def writeScript (r : Runner) (h : Host) (text : String) : Except LaunchError Place × Files :=
  let path := scriptPath r h
  let bytes := Text.bytes text
  match h.files.locate h.environment.place path with
  | .error reason => (.error (.scriptFile path reason), h.files)
  | .ok place =>
    if (h.files.at? place).isSome then (.error (.scriptFile path .taken), h.files)
    else match h.breaksOff place bytes with
      | some (written, reason) =>
        let files := h.files.set place (.file (bytes.take written))
        (.error (.scriptFile path reason), files.remove place)
      | none => (.ok place, h.files.set place (.file bytes))

structure Launched where
  script : Place
  transcript : Transcript
deriving DecidableEq, Repr

/-- A compiler that was started always has both of its streams. -/
def launch (r : Runner) (h : Host) (text : String) : Except LaunchError Launched × Files :=
  match writeScript r h text with
  | (.error e, files) => (.error e, files)
  | (.ok place, files) =>
    match h.start { h.environment with files } h.pid r.compiler (r.args ++ [scriptPath r h]) with
    | .error reason => (.error (.spawn reason), files.remove place)
    | .ok transcript => (.ok ⟨place, transcript⟩, transcript.files)

end ScriptBench.Run
