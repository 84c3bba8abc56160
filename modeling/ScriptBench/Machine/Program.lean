import ScriptBench.Machine.Environment
import ScriptBench.Shell.Eval

namespace ScriptBench.Machine

structure Transcript where
  output : List UInt8
  errors : List UInt8
  status : Int
  lingers : Bool
  files : Files
deriving DecidableEq, Repr

def installed? (name : String) : Bool :=
  Shell.isShellName name || (Shell.tools.lookup name).isSome

def resolve (e : Environment) (program : String) : Except SystemError String :=
  if !program.toList.contains '/' then
    if installed? program then .ok program
    else if program == "." || program == ".." then .error .denied
    else if Files.longestName < program.utf8ByteSize then .error .nameTooLong
    else .error .notFound
  else
    match (Shell.nameOfProgram? program).filter installed? with
    | some name => .ok name
    | none =>
      match e.files.contentAt e.place program with
      | .ok _ => .error .denied
      | .error reason => .error reason

def initialState (e : Environment) (pid : Nat) : Shell.State where
  name := []
  params := []
  bindings := (("PWD", e.directory) :: e.bindings.filter (·.1 != "PWD")).map
    fun (name, value) => (name, ⟨some (Shell.ofText value), true, false⟩)
  functions := []
  documents := []
  traps := []
  options := .none
  status := 0
  outputStatus := 0
  line := 0
  building := none
  targets := [(0, .nothing), (1, .output), (2, .errors)]
  inputs := []
  writes := []
  depth := 0
  locals := none
  loops := 0
  directory := e.place
  files := e.files
  pid
  lastJob := none
  lingers := false

def runShell (e : Environment) (pid : Nat) (word : String) (args : List String) : Transcript :=
  let start := Shell.startShell Shell.run (Shell.ofText word) (args.map Shell.ofText)
  let (result, s) := (start.run).run (initialState e pid)
  let (status, lingers) : Int × Bool := match result with
    | .error (.killed n) => (n, s.lingers)
    | .error .spent => (s.status % 256 * 256, true)
    | _ => (s.status % 256 * 256, s.lingers)
  ⟨Shell.toBytes (s.written .output), Shell.toBytes (s.written .errors), status, lingers, s.files⟩

def runTool (e : Environment) (tool : Shell.ToolCall → Shell.ToolResult) (args : List String) :
    Transcript :=
  let r := tool ⟨args.map Shell.ofText, [], e.files, e.place⟩
  ⟨Shell.toBytes r.output, Shell.toBytes r.errors, r.status * 256, r.lingers, r.files⟩

def start (e : Environment) (pid : Nat) (program : String) (args : List String) :
    Except SystemError Transcript := do
  if (program :: args).any fun a => a.toList.contains '\x00' then throw .nulInArgument
  let name ← resolve e program
  match Shell.tools.lookup name with
  | some tool => pure (runTool e tool args)
  | none => pure (runShell e pid program args)

end ScriptBench.Machine
