import ScriptBench.Diagnostic.Record
import ScriptBench.Highlight.Span

namespace ScriptBench.Command

open Highlight (Tag Span)

structure Style where
  sgr : String
  label : String
  opening : String
  closing : String
deriving DecidableEq, Repr

def style : Tag → Style
  | .keyword => ⟨"1;34", "bold-blue", "[kw]", "[/kw]"⟩
  | .error => ⟨"4;31", "underline-red", "[err]", "[/err]"⟩

def outerFirst (tags : List Tag) : List Tag :=
  tags.filter (· == .error) ++ tags.filter (· == .keyword)

def styleRun (text : String) (tags : List Tag) (color : Bool) : String :=
  if text.isEmpty || tags.isEmpty then text
  else if color then
    "\x1b[" ++ String.intercalate ";" (tags.map fun t => (style t).sgr) ++ "m" ++ text ++ "\x1b[0m"
  else
    let ordered := outerFirst tags
    String.join (ordered.map fun t => (style t).opening) ++ text ++
      String.join (ordered.reverse.map fun t => (style t).closing)

def showRuns (color : Bool) : List Span → List Char → String
  | [], cs => String.ofList cs
  | s :: rest, cs =>
    styleRun (String.ofList (cs.take s.length)) s.tags.toList color ++
      showRuns color rest (cs.drop s.length)

def showSpans (text : String) (spans : List Span) (color : Bool) : String :=
  showRuns color spans text.toList

def useColor (noColorSet noColorFlag : Bool) : Bool := !(noColorFlag || noColorSet)

def showRecord (r : Diagnostic.Record) (source : String) : String :=
  if r.isError then
    "! " ++ r.text ++ match r.line with
      | none => ""
      | some line => " [" ++ toString line ++ ":" ++ match r.jump? source with
        | none => "?]"
        | some offset => toString (r.column.getD 1) ++ " @" ++ toString offset ++ "]"
  else "  " ++ r.text

end ScriptBench.Command
