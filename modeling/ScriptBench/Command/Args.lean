namespace ScriptBench.Command

structure Args where
  configFile : String
  compiler : String
  extension : String
  logLevel : String
  logFormat : String
  noColor : Bool
  highlightOnly : Bool
  json : Bool
  script : String
deriving DecidableEq, Repr

def Args.empty : Args := ⟨"", "", "", "", "", false, false, false, ""⟩

inductive ValueFlag where
  | config | compiler | ext | logLevel | logFormat
deriving DecidableEq, Repr

def ValueFlag.name : ValueFlag → String
  | .config => "--config"
  | .compiler => "--compiler"
  | .ext => "--ext"
  | .logLevel => "--log-level"
  | .logFormat => "--log-format"

def Args.setValue (a : Args) (value : String) : ValueFlag → Args
  | .config => { a with configFile := value }
  | .compiler => { a with compiler := value }
  | .ext => { a with extension := value }
  | .logLevel => { a with logLevel := value }
  | .logFormat => { a with logFormat := value }

inductive Switch where
  | noColor | highlightOnly | json
deriving DecidableEq, Repr

def Switch.name : Switch → String
  | .noColor => "--no-color"
  | .highlightOnly => "--highlight-only"
  | .json => "--json"

def Args.turnOn (a : Args) : Switch → Args
  | .noColor => { a with noColor := true }
  | .highlightOnly => { a with highlightOnly := true }
  | .json => { a with json := true }

inductive Flag where
  | value (flag : ValueFlag)
  | switch (switch : Switch)
  | help
deriving DecidableEq, Repr

def flagNames : List (String × Flag) :=
  ([.config, .compiler, .ext, .logLevel, .logFormat] : List ValueFlag).map
      (fun f => (f.name, Flag.value f)) ++
    ([.noColor, .highlightOnly, .json] : List Switch).map (fun s => (s.name, Flag.switch s)) ++
    [("-h", .help), ("--help", .help)]

inductive UsageError where
  | helpRequested
  | scriptMissing
  | scriptMissingAfterDashes
  | secondScript
  | valueMissing (flag : ValueFlag)
  | unknownFlag (name : String)
  | badLogLevel (name : String)
  | badLogFormat (name : String)
deriving DecidableEq, Repr

def UsageError.message? : UsageError → Option String
  | .helpRequested => none
  | .scriptMissing => some "script file is required"
  | .scriptMissingAfterDashes => some "script file is required after --"
  | .secondScript => some "only one script file may be given"
  | .valueMissing flag => some ("missing value for " ++ flag.name)
  | .unknownFlag name => some ("unknown flag: " ++ name)
  | .badLogLevel name => some ("invalid --log-level: " ++ name)
  | .badLogFormat name => some ("invalid --log-format: " ++ name)

def usage : String := String.join
  ["Usage: scriptpad [options] [--] <script-file>\n\n",
   "Options:\n",
   "  --config string         config file (default is $HOME/.config/scriptpad/config.yaml)\n",
   "  --compiler string       compiler executable (default kotlinc)\n",
   "  --ext string            script file extension (default kts)\n",
   "  --log-level string      override logging level (trace, debug, info, warn, error, off)\n",
   "  --log-format string     override logging format (json, console)\n",
   "  --no-color              mark highlights with [kw]/[err] instead of color\n",
   "  --highlight-only        print the highlighted source without running it\n",
   "  --json                  print records and the outcome as JSON lines\n"]

def UsageError.text (e : UsageError) : String :=
  match e.message? with
  | none => usage
  | some message => "Error: " ++ message ++ "\n\n" ++ usage

def cutValue (token : String) : String × Option String :=
  let cs := token.toList
  match cs.dropWhile (· != '=') with
  | [] => (token, none)
  | _ :: value => (String.ofList (cs.takeWhile (· != '=')), some (String.ofList value))

def isOperand (token : String) : Bool := token == "-" || token.toList.head? != some '-'

def Args.setScript (a : Args) (script : String) : Except UsageError Args :=
  if a.script.isEmpty then .ok { a with script := script } else .error .secondScript

def Args.parseFrom (a : Args) : List String → Except UsageError Args
  | [] => .ok a
  | token :: more =>
    if token = "--" then
      match more with
      | [] => .error .scriptMissingAfterDashes
      | [script] => a.setScript script
      | _ => .error .secondScript
    else if isOperand token then
      match a.setScript token with
      | .ok a => a.parseFrom more
      | .error e => .error e
    else
      let (name, inline?) := cutValue token
      match flagNames.lookup name with
      | none => .error (.unknownFlag name)
      | some .help => .error .helpRequested
      | some (.switch s) => (a.turnOn s).parseFrom more
      | some (.value flag) =>
        match inline?, more with
        | some value, more => (a.setValue value flag).parseFrom more
        | none, value :: more => (a.setValue value flag).parseFrom more
        | none, [] => .error (.valueMissing flag)

def parse (argv : List String) : Except UsageError Args := Args.empty.parseFrom argv

end ScriptBench.Command
