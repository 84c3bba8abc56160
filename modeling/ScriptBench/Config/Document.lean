import ScriptBench.Config.Layer
import ScriptBench.Yaml.Node

namespace ScriptBench.Config

open Yaml (Document Node Problem)

abbrev Decoded (α : Type) := Except Problem α

def resolved (d : Document) (n : Node) : Decoded Node :=
  match d.resolve n with
  | some n => .ok n
  | none => .error .unknownAnchor

def textOf (d : Document) (n : Node) : Decoded String := do
  match ← resolved d n with
  | .scalar _ _ text => .ok text
  | _ => .error .wrongKind

def entriesOf (d : Document) (n : Node) : Decoded (List (String × Node)) := do
  match ← resolved d n with
  | .scalar true _ "" => .ok []
  | .mapping entries => entries.mapM fun (k, v) => do return (← textOf d k, v)
  | _ => .error .wrongKind

def field? (entries : List (String × Node)) (key : String) : Decoded (Option Node) :=
  match entries.filter (·.1 == key) with
  | [] => .ok none
  | [(_, v)] => .ok (some v)
  | _ => .error .repeatedKey

def isNull (text : String) : Bool := ["~", "null", "Null", "NULL"].contains text

def nullTag : String := "tag:yaml.org,2002:null"

def listOf? (d : Document) (n : Node) : Decoded (Option (List String)) := do
  match ← resolved d n with
  | .sequence items => return some (← items.mapM (textOf d))
  | .scalar true none text =>
    if text.isEmpty || isNull text then return none else throw .wrongKind
  | .scalar true (some tag) text =>
    if tag = nullTag then (if isNull text then return none else throw .wrongKind)
    else if text.isEmpty then return some []
    else throw .wrongKind
  | _ => throw .wrongKind

def textField (d : Document) (entries : List (String × Node)) (key : String) : Decoded String := do
  match ← field? entries key with
  | none => return ""
  | some n => textOf d n

def listField (d : Document) (entries : List (String × Node)) (key : String) :
    Decoded (Option (List String)) := do
  match ← field? entries key with
  | none => return none
  | some n => listOf? d n

def sectionField (d : Document) (entries : List (String × Node)) (key : String) :
    Decoded (List (String × Node)) := do
  match ← field? entries key with
  | none => return []
  | some n => entriesOf d n

def Layer.ofDocument (d : Document) : Decoded Layer := do
  let top ← entriesOf d d.root
  let runner ← sectionField d top "runner"
  let highlight ← sectionField d top "highlight"
  let logging ← sectionField d top "logging"
  return {
    compiler := ← textField d runner "compiler"
    args := ← listField d runner "args"
    extension := ← textField d runner "script_extension"
    tempPrefix := ← textField d runner "temp_prefix"
    tempDir := ← textField d runner "temp_dir"
    keywords := ← listField d highlight "keywords"
    logLevel := ← textField d logging "level"
    logFormat := ← textField d logging "format" }

end ScriptBench.Config
