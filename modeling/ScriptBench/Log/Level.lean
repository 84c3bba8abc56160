import ScriptBench.Text.Trim

namespace ScriptBench.Log

inductive Level where
  | trace | debug | info | warn | error | off
deriving DecidableEq, Repr

namespace Level

def rank : Level → Nat
  | .trace => 0
  | .debug => 1
  | .info => 2
  | .warn => 3
  | .error => 4
  | .off => 5

def name : Level → String
  | .trace => "TRACE"
  | .debug => "DEBUG"
  | .info => "INFO"
  | .warn => "WARN"
  | .error => "ERROR"
  | .off => "OFF"

/-- Whether a filter lets a message through; `off` passes nothing, as filter or as message. -/
def passes (filter message : Level) : Bool :=
  filter != .off && message != .off && filter.rank ≤ message.rank

end Level

inductive Format where
  | console | json
deriving DecidableEq, Repr

def Format.name : Format → String
  | .console => "console"
  | .json => "json"

def plainName (s : String) : String := Text.trim (String.ofList (s.toList.map Char.toLower))

def levelNames : List (String × Level) :=
  [("trace", .trace), ("debug", .debug), ("info", .info), ("warn", .warn), ("warning", .warn),
   ("error", .error), ("off", .off), ("none", .off)]

def formatNames : List (String × Format) :=
  [("console", .console), ("text", .console), ("json", .json)]

def Level.ofName? (s : String) : Option Level := levelNames.lookup (plainName s)

def Format.ofName? (s : String) : Option Format := formatNames.lookup (plainName s)

end ScriptBench.Log
