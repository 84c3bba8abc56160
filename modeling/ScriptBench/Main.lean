import ScriptBench.Command.Run
import Std.Time

namespace ScriptBench.Command

def variableNames : List String :=
  ["HOME", "XDG_CONFIG_HOME", "NO_COLOR", "TMPDIR", "PATH", "PWD"]

def readVariables : IO (List (String × String)) := do
  let found ← variableNames.mapM fun name => do
    return (← IO.getEnv name).map (name, ·)
  return found.filterMap id

def candidates (e : Machine.Environment) (argv : List String) : List String :=
  argv ++ argv.filterMap (fun token => (cutValue token).2) ++ (Config.defaultPath? e).toList

def gather (e : Machine.Environment) (path : String) : IO Machine.Environment := do
  try
    let bytes ← IO.FS.readBinFile path
    let start := if Machine.isAbsolute path then [] else e.place
    let place := start ++ Machine.components path
    return { e with files := e.files.put place (.file bytes.toList) }
  catch _ => return e

def padded (width n : Nat) : String :=
  let digits := toString n
  String.ofList (List.replicate (width - digits.length) '0') ++ digits

def readClock : IO Log.Clock := do
  let now := Std.Time.DateTime.ofTimestampWithZone (← Std.Time.Timestamp.now) .UTC
  let two (n : Int) := padded 2 n.toNat
  let day := padded 4 now.year.toInt.toNat ++ "-" ++ two now.month.val ++ "-" ++ two now.day.val
  let time := two now.hour.val ++ ":" ++ two now.minute.val ++ ":" ++ two now.second.val
  return ⟨time, day ++ "T" ++ time ++ "." ++ padded 9 now.nanosecond.val.toNat ++ "+00:00"⟩

end ScriptBench.Command

open ScriptBench ScriptBench.Command in
def main (argv : List String) : IO UInt32 := do
  let directory := (← IO.currentDir).toString
  let bindings ← readVariables
  let files := Machine.Files.ofSystem.put (Machine.components directory) .directory
  let bare : Machine.Environment := ⟨bindings, files, directory⟩
  let environment ← (candidates bare argv).foldlM gather bare
  let now ← IO.monoNanosNow
  let fresh := padded 6 (now % 1000000)
  let host := Run.Host.ofEnvironment environment fresh (now % 30000 + 2)
  let report := run host (bare.lookup? "NO_COLOR").isSome argv
  let clock ← readClock
  IO.eprint (report.logText clock)
  IO.print report.output
  IO.eprint report.errors
  return UInt32.ofNat report.exitCode.toNat
