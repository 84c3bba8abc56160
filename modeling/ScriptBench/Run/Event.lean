import ScriptBench.Diagnostic.Record
import ScriptBench.Json.Value
import ScriptBench.Run.Outcome

namespace ScriptBench.Run

open Diagnostic (Record Position)

inductive Event where
  | output (record : Record)
  | finished (outcome : Outcome)
deriving DecidableEq

namespace Event

def record? : Event → Option Record
  | .output r => some r
  | .finished _ => none

def outcome? : Event → Option Outcome
  | .output _ => none
  | .finished o => some o

end Event

def records (events : List Event) : List Record := events.filterMap Event.record?

def outcomes (events : List Event) : List Outcome := events.filterMap Event.outcome?

open Json (Value)

def numberField (key : String) (n : Option Nat) : List (String × Value) :=
  n.toList.map fun (m : Nat) => (key, .number m)

def recordValue (r : Record) : Value :=
  .object ([("text", .string r.text), ("is_error", .bool r.isError)] ++
    numberField "line" r.line ++ numberField "column" r.column)

def positionValue (p : Position) : Value :=
  .object [("column", Json.ofOption (fun (n : Nat) => .number n) p.column),
    ("line", .number p.line)]

def outcomeValue (o : Outcome) : Value :=
  .object [("cancelled", .bool o.cancelled),
    ("diagnostics", .array (o.positions.toList.map positionValue)),
    ("exit_code", .number o.exitCode), ("status", .string o.statusLine)]

end ScriptBench.Run
