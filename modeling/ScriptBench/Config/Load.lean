import ScriptBench.Config.Document
import ScriptBench.Machine.Environment

namespace ScriptBench.Config

open Machine (Environment joinPath)

inductive LoadError where
  | unreadable (path : String) (reason : Machine.SystemError)
  | malformed (problem : Yaml.Problem)
  | invalid (fault : Fault)
deriving DecidableEq, Repr

def LoadError.message : LoadError → String
  | .unreadable path reason => "failed to load config file " ++ path ++ ": " ++ reason.message
  | .malformed problem => "parse config: " ++ problem.message
  | .invalid fault => fault.message

def parse (home : Option String) (text : String) : Except LoadError Settings :=
  if Text.isAllBlank text then .ok .default
  else
    match Yaml.Document.parse text >>= Layer.ofDocument with
    | .error p => .error (.malformed p)
    | .ok layer =>
      match layer.over home .default >>= Settings.validate with
      | .error f => .error (.invalid f)
      | .ok s => .ok s

def notBlank (s : String) : Bool := !Text.isAllBlank s

def defaultPath? (e : Environment) : Option String :=
  match (e.lookup? "XDG_CONFIG_HOME").filter notBlank with
  | some base => some (["scriptpad", "config.yaml"].foldl joinPath base)
  | none =>
    ((e.lookup? "HOME").filter notBlank).map
      ([".config", "scriptpad", "config.yaml"].foldl joinPath ·)

def load (e : Environment) (requested : Option String) :
    Except LoadError (Settings × Option String) :=
  let home := e.lookup? "HOME"
  let read (path : String) (text : String) := (parse home text).map (·, some path)
  match requested.bind given? with
  | some path =>
    match e.readText path with
    | .ok text => read path text
    | .error reason => .error (.unreadable path reason)
  | none =>
    match defaultPath? e with
    | none => .ok (.default, none)
    | some path =>
      match e.readText path with
      | .ok text => read path text
      | .error _ => .ok (.default, none)

end ScriptBench.Config
