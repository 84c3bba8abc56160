import ScriptBench.Command.Args
import ScriptBench.Command.Styled
import ScriptBench.Config.Load
import ScriptBench.Editor.Workbench

namespace ScriptBench.Command

open Config (Settings)
open Editor (Workbench)
open Run (Event Host Outcome)

inductive SettingsError where
  | usage (e : UsageError)
  | load (e : Config.LoadError)
deriving DecidableEq, Repr

def given? (value : String) : Option String := if value.isEmpty then none else some value

def named {α : Type} (value : String) (below : α) (ofName? : String → Option α)
    (bad : String → UsageError) : Except SettingsError α :=
  match given? value with
  | none => .ok below
  | some name =>
    match ofName? name with
    | some a => .ok a
    | none => .error (.usage (bad name))

def settings (e : Machine.Environment) (args : Args) : Except SettingsError Settings := do
  let (below, _) ← (Config.load e (given? args.configFile)).mapError .load
  let runner := { below.runner with
    compiler := (given? args.compiler).getD below.runner.compiler
    extension := (given? args.extension).getD below.runner.extension }
  let logLevel ← named args.logLevel below.logLevel Log.Level.ofName? .badLogLevel
  let logFormat ← named args.logFormat below.logFormat Log.Format.ofName? .badLogFormat
  (Settings.validate { below with runner, logLevel, logFormat }).mapError fun f => .load (.invalid f)

structure Report where
  output : String
  errors : String
  exitCode : Int
  log : List Log.Entry
  logFormat : Log.Format
deriving DecidableEq, Repr

namespace Report

def usage (e : UsageError) : Report := ⟨"", e.text, 2, [], .console⟩

def refused (message : String) : Report := ⟨"", "Error: " ++ message ++ "\n", 1, [], .console⟩

def logText (r : Report) (clock : Log.Clock) : String :=
  String.join (r.log.map (·.render clock r.logFormat))

end Report

def endsInLineFeed (text : String) : Bool := text.toList.getLast? = some '\n'

def showSource (text : String) (spans : List Highlight.Span) (color : Bool) : String :=
  showSpans text spans color ++ if text.isEmpty || endsInLineFeed text then "" else "\n"

def showEvent (json : Bool) (source : String) : Event → String
  | .output r => (if json then (Run.recordValue r).render else showRecord r source) ++ "\n"
  | .finished _ => ""

def showEvents (json : Bool) (source : String) (events : List Event) : String :=
  String.join (events.map (showEvent json source))

def showOutcome (json color : Bool) (w : Workbench) (o : Outcome) : String :=
  if json then (Run.outcomeValue o).render ++ "\n"
  else o.statusLine ++ "\n\n" ++ showSource w.session.text w.styleMap color

def runSource (w : Workbench) (json color : Bool) (logger : Log.Logger) (path : String) : Report :=
  let (events, w) := w.submit.2.finish
  let entries := (Run.Note.runningScript path :: w.notes).filterMap (·.entryOf logger)
  let shown := showEvents json w.session.text events
  match (Run.outcomes events).getLast? with
  | none => ⟨shown, "Error: execution ended without an outcome\n", 1, entries, logger.format⟩
  | some o =>
    ⟨shown ++ showOutcome json color w o, "", Run.processExitCode o.exitCode, entries, logger.format⟩

def runWith (host : Host) (s : Settings) (args : Args) (color : Bool) : Report :=
  match host.environment.readText args.script with
  | .error reason => .refused ("read " ++ args.script ++ ": " ++ reason.message)
  | .ok source =>
    match Workbench.new s host with
    | .error f => .refused f.message
    | .ok w =>
      let w := w.setText source
      if args.highlightOnly then ⟨showSource source w.keywordSpans color, "", 0, [], .console⟩
      else
        let logger := (Log.Logger.new s.logLevel s.logFormat).component "cli"
        runSource w args.json color logger args.script

def run (host : Host) (noColorSet : Bool) (argv : List String) : Report :=
  match parse argv with
  | .error e => .usage e
  | .ok args =>
    if args.script.isEmpty then .usage .scriptMissing
    else
      match settings host.environment args with
      | .error (.usage e) => .usage e
      | .error (.load e) => .refused e.message
      | .ok s => runWith host s args (useColor noColorSet args.noColor)

end ScriptBench.Command
