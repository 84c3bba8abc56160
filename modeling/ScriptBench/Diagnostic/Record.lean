import ScriptBench.Diagnostic.Position
import ScriptBench.Text.Lines

namespace ScriptBench.Diagnostic

structure Record where
  text : String
  isError : Bool
  line : Option Nat
  column : Option Nat
deriving DecidableEq, Repr

namespace Record

def plain (text : String) : Record := ⟨text, false, none, none⟩

def flagged (text : String) : Record := ⟨text, true, none, none⟩

def positioned (text : String) (p : Position) : Record := ⟨text, true, some p.line, p.column⟩

def launchFailure (reason : String) : Record := plain ("Failed to run script: " ++ reason)

def position (r : Record) : Option Position := r.line.map fun line => ⟨line, r.column⟩

end Record

/-- The offset of a line and column; a column past the line's end gives its end. -/
def offset? (text : String) (line column : Nat) : Option Nat :=
  (Text.line? text.toList line).map fun l => l.start + min (column - 1) l.chars.length

def Record.jump? (r : Record) (source : String) : Option Nat :=
  if r.isError then r.position.bind fun p => offset? source p.line (p.column.getD 1) else none

end ScriptBench.Diagnostic
