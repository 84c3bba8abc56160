import ScriptBench.Highlight.Keyword
import ScriptBench.Log.Level
import ScriptBench.Text.Quoted

namespace ScriptBench.Config

structure Runner where
  compiler : String
  args : List String
  extension : String
  tempPrefix : String
  tempDir : Option String
deriving DecidableEq, Repr

structure Settings where
  runner : Runner
  keywords : List String
  logLevel : Log.Level
  logFormat : Log.Format
deriving DecidableEq, Repr

def Runner.default : Runner := ⟨"kotlinc", ["-script"], "kts", "script", none⟩

def Settings.default : Settings := ⟨.default, Highlight.defaultKeywords, .warn, .console⟩

inductive Fault where
  | compilerMissing
  | extensionMissing
  | extensionNotBare (ext : String)
  | prefixWithSeparator
  | keywordEmpty (index : Nat)
  | keywordNotWord (index : Nat) (keyword : String)
  | homeUnknown
  | levelUnknown
  | formatUnknown
deriving DecidableEq, Repr

def Fault.reason : Fault → String
  | .compilerMissing => "runner.compiler is required"
  | .extensionMissing => "runner.script_extension is required"
  | .extensionNotBare ext =>
    "runner.script_extension must be a bare extension like \"kts\" (got " ++ Text.quoted ext ++ ")"
  | .prefixWithSeparator => "runner.temp_prefix must not contain path separators"
  | .keywordEmpty index => "highlight.keywords[" ++ toString index ++ "] is empty"
  | .keywordNotWord index keyword =>
    "highlight.keywords[" ++ toString index ++ "] must be a single word (got " ++
      Text.quoted keyword ++ ")"
  | .homeUnknown => "failed to resolve HOME"
  | .levelUnknown => "logging.level must be one of trace, debug, info, warn, error, off"
  | .formatUnknown => "logging.format must be one of console, json"

def Fault.message (f : Fault) : String := "invalid config: " ++ f.reason

def isSeparator (c : Char) : Bool := c == '/' || c == '\\'

def keywordFault? : Nat → List String → Option Fault
  | _, [] => none
  | index, k :: rest =>
    let word := Text.trimChars k.toList
    if word.isEmpty then some (.keywordEmpty index)
    else if word.all Text.isIdentifierPart then keywordFault? (index + 1) rest
    else some (.keywordNotWord index k)

def Runner.fault? (r : Runner) : Option Fault :=
  let ext := Text.trimChars r.extension.toList
  if Text.isAllBlank r.compiler then some .compilerMissing
  else if ext.isEmpty then some .extensionMissing
  else if ext.head? == some '.' || ext.any isSeparator then
    some (.extensionNotBare (String.ofList ext))
  else if r.tempPrefix.toList.any isSeparator then some .prefixWithSeparator
  else none

def Settings.fault? (s : Settings) : Option Fault :=
  s.runner.fault?.or (keywordFault? 0 s.keywords)

def Settings.validate (s : Settings) : Except Fault Settings :=
  match s.fault? with
  | some f => .error f
  | none => .ok s

end ScriptBench.Config
