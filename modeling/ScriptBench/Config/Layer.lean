import ScriptBench.Config.Basic
import ScriptBench.Machine.Path

namespace ScriptBench.Config

structure Layer where
  compiler : String
  args : Option (List String)
  extension : String
  tempPrefix : String
  tempDir : String
  keywords : Option (List String)
  logLevel : String
  logFormat : String
deriving DecidableEq, Repr

def Layer.empty : Layer := ⟨"", none, "", "", "", none, "", ""⟩

def expandHome (home : Option String) (path : String) : Except Fault String :=
  match path.toList with
  | ['~'] => home.elim (.error .homeUnknown) .ok
  | '~' :: '/' :: rest =>
    home.elim (.error .homeUnknown) fun h => .ok (Machine.joinPath h (String.ofList rest))
  | _ => .ok path

def given? (s : String) : Option String :=
  if Text.isAllBlank s then none else some (Text.trim s)

def resolve {α : Type} (read : String → Except Fault α) (text : String) (below : α) :
    Except Fault α :=
  match given? text with
  | none => .ok below
  | some t => read t

def orFault {α : Type} (fault : Fault) : Option α → Except Fault α
  | none => .error fault
  | some a => .ok a

def Layer.over (l : Layer) (home : Option String) (s : Settings) : Except Fault Settings := do
  let compiler ← resolve (expandHome home) l.compiler s.runner.compiler
  let tempDir ← resolve (fun t => (expandHome home t).map some) l.tempDir s.runner.tempDir
  let logLevel ←
    resolve (fun t => orFault .levelUnknown (Log.Level.ofName? t)) l.logLevel s.logLevel
  let logFormat ←
    resolve (fun t => orFault .formatUnknown (Log.Format.ofName? t)) l.logFormat s.logFormat
  .ok {
    runner := {
      compiler
      args := l.args.getD s.runner.args
      extension := (given? l.extension).getD s.runner.extension
      tempPrefix := (given? l.tempPrefix).getD s.runner.tempPrefix
      tempDir }
    keywords := (l.keywords.map (·.map Text.trim)).getD s.keywords
    logLevel
    logFormat }

end ScriptBench.Config
