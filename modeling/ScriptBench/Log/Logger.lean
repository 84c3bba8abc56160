import ScriptBench.Json.Value
import ScriptBench.Log.Level

namespace ScriptBench.Log

structure Entry where
  level : Level
  fields : List (String × String)
  message : String
deriving DecidableEq, Repr

structure Logger where
  level : Level
  format : Format
  fields : List (String × String)
deriving DecidableEq, Repr

namespace Logger

def new (level : Level) (format : Format) : Logger := ⟨level, format, []⟩

def withField (l : Logger) (key value : String) : Logger :=
  { l with fields := l.fields ++ [(key, value)] }

def component (l : Logger) (name : String) : Logger := l.withField "component" name

def entryOf (l : Logger) (level : Level) (message : String)
    (extra : List (String × String)) : Option Entry :=
  if l.level.passes level then some ⟨level, l.fields ++ extra, message⟩ else none

end Logger

def assign (key value : String) : List (String × String) → List (String × String)
  | [] => [(key, value)]
  | (k, v) :: rest =>
    if key < k then (key, value) :: (k, v) :: rest
    else if key = k then (key, value) :: rest
    else (k, v) :: assign key value rest

structure Clock where
  timeOfDay : String
  stamp : String
deriving DecidableEq, Repr

def Entry.assignments (e : Entry) (clock : Clock) : List (String × String) :=
  ("time", clock.stamp) :: ("level", e.level.name) :: e.fields ++ [("message", e.message)]

def Entry.object (e : Entry) (clock : Clock) : List (String × String) :=
  (e.assignments clock).foldl (fun o (k, v) => assign k v o) []

def Entry.render (e : Entry) (clock : Clock) : Format → String
  | .console =>
    let context := String.join (e.fields.map fun (k, v) => k ++ "=" ++ v ++ " ")
    clock.timeOfDay ++ " " ++ e.level.name ++ " " ++ context ++ e.message ++ "\n"
  | .json =>
    (Json.Value.object ((e.object clock).map fun (k, v) => (k, .string v))).render ++ "\n"

def Logger.write (l : Logger) (clock : Clock) (level : Level) (message : String)
    (extra : List (String × String)) : String :=
  ((l.entryOf level message extra).map (·.render clock l.format)).getD ""

end ScriptBench.Log
