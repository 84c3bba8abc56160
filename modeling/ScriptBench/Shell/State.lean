import ScriptBench.Machine.Files
import ScriptBench.Shell.Parser

/-!
All text is held byte by byte: a character stands for the byte of its number.
-/

namespace ScriptBench.Shell

open Machine (Files Place)

def ofText (s : String) : List Char := (Text.bytes s).map fun b => Char.ofNat b.toNat

def toBytes (cs : List Char) : List UInt8 := cs.map fun c => UInt8.ofNat c.toNat

inductive Target where
  | output
  | errors
  | nothing
  | file (place : Place)
  | capture (depth : Nat)
  | source (number : Nat)
deriving DecidableEq, Repr

structure Variable where
  value : Option (List Char)
  exported : Bool
  readOnly : Bool
deriving DecidableEq, Repr

structure Options where
  exitOnError : Bool
  unsetIsError : Bool
  traces : Bool
  noExpansion : Bool
  noExecution : Bool
  exportsAll : Bool
  echoesInput : Bool
deriving DecidableEq, Repr

def Options.none : Options := ⟨false, false, false, false, false, false, false⟩

def Options.letters (o : Options) : List Char :=
  [(o.unsetIsError, 'u'), (o.exportsAll, 'a'), (o.echoesInput, 'v'), (o.traces, 'x'),
    (o.noExecution, 'n'), (o.noExpansion, 'f'), (o.exitOnError, 'e')].filterMap
    fun (on, letter) => if on then some letter else .none

def Options.assign? (o : Options) (on : Bool) : Char → Option Options
  | 'e' => some { o with exitOnError := on }
  | 'u' => some { o with unsetIsError := on }
  | 'x' => some { o with traces := on }
  | 'f' => some { o with noExpansion := on }
  | 'n' => some { o with noExecution := on }
  | 'a' => some { o with exportsAll := on }
  | 'v' => some { o with echoesInput := on }
  | c => if "bmCIEVi".toList.contains c then some o else .none

def optionNames : List (String × Char) :=
  [("errexit", 'e'), ("nounset", 'u'), ("xtrace", 'x'), ("noglob", 'f'), ("noexec", 'n'),
    ("allexport", 'a'), ("verbose", 'v'), ("notify", 'b'), ("monitor", 'm'), ("noclobber", 'C')]

structure State where
  name : List Char
  params : List (List Char)
  bindings : List (String × Variable)
  functions : List (String × Command)
  documents : List (Nat × Word)
  traps : List (Nat × List Char)
  options : Options
  status : Nat
  outputStatus : Nat
  line : Nat
  building : Option (List Char)
  targets : List (Nat × Target)
  inputs : List (Nat × List Char)
  writes : List (Target × List Char)
  depth : Nat
  locals : Option (List (String × Option Variable))
  loops : Nat
  directory : Place
  files : Files
  pid : Nat
  lastJob : Option Nat
  lingers : Bool

inductive Flow where
  | leaves (levels : Nat)
  | continues (levels : Nat)
  | returned
  | exited
  | failed
  | killed (signal : Nat)
  | spent
deriving DecidableEq, Repr

abbrev Run (α : Type) := ExceptT Flow (StateM State) α

def attempt {α : Type} (x : Run α) : Run (Except Flow α) :=
  fun s => let (r, s) := x s; (.ok r, s)

def setStatus (n : Nat) : Run Unit := modify fun s => { s with status := n }

def Files.append (fs : Files) (p : Place) (cs : List Char) : Files :=
  match fs.at? p with
  | some (.file bytes) => fs.set p (.file (bytes ++ toBytes cs))
  | some .directory => fs
  | none => fs.set p (.file (toBytes cs))

def write (fd : Nat) (cs : List Char) : Run Bool := do
  match (← get).targets.lookup fd with
  | none | some (.source _) => return cs.isEmpty
  | some .nothing => return true
  | some (.file p) =>
    modify fun s => { s with files := Files.append s.files p cs }
    return true
  | some t =>
    modify fun s => { s with writes := (t, cs) :: s.writes }
    return true

def say (fd : Nat) (cs : List Char) : Run Unit := do
  let _ ← write fd cs

def complain (message : List Char) : Run Unit := do
  let s ← get
  let building := (s.building.map (· ++ ": ".toList)).getD []
  say 2 (s.name ++ ": ".toList ++ (toString s.line).toList ++ ": ".toList ++ building ++ message ++
    ['\n'])

def fail {α : Type} (message : List Char) : Run α := do
  complain message
  setStatus 2
  throw .failed

def variableNamed (name : String) : Run (Option Variable) := do
  return (← get).bindings.lookup name

def setEntry {α : Type} (name : String) (a : α) (entries : List (String × α)) :
    List (String × α) :=
  (name, a) :: entries.filter fun e => e.1 != name

def assign (name : String) (value : List Char) : Run Unit := do
  let s ← get
  let old := (s.bindings.lookup name).getD ⟨none, false, false⟩
  if old.readOnly then fail (name.toList ++ ": is read only".toList)
  let new := { old with value := some value, exported := old.exported || s.options.exportsAll }
  set { s with bindings := setEntry name new s.bindings }

def restoreVariable (name : String) (old : Option Variable) : Run Unit :=
  modify fun s => { s with bindings := match old with
    | some v => setEntry name v s.bindings
    | none => s.bindings.filter fun e => e.1 != name }

def fieldSeparators : Run (List Char) := do
  return ((← variableNamed "IFS").bind (·.value)).getD [' ', '\t', '\n']

def positional (s : State) (n : Nat) : Option (List Char) :=
  if n = 0 then some s.name else s.params[n - 1]?

def parameter (name : String) : Run (Option (List Char)) := do
  let s ← get
  match name with
  | "#" => return some (toString s.params.length).toList
  | "?" => return some (toString s.status).toList
  | "$" => return some (toString s.pid).toList
  | "!" => return s.lastJob.map fun n => (toString n).toList
  | "-" => return some s.options.letters
  | _ =>
    if name.toList.all Char.isDigit then return positional s (name.toNat?.getD 0)
    else return (s.bindings.lookup name).bind (·.value)

def State.written (s : State) (t : Target) : List Char :=
  s.writes.foldl (fun acc (u, cs) => if u = t then cs ++ acc else acc) []

def openInput (fd : Nat) (cs : List Char) : Run Unit :=
  modify fun s => { s with
    inputs := (s.inputs.length, cs) :: s.inputs
    targets := (fd, .source s.inputs.length) :: s.targets.filter fun t => t.1 != fd }

def setTarget (fd : Nat) (t : Option Target) : Run Unit :=
  modify fun s => { s with
    targets := (t.map (fd, ·)).toList ++ s.targets.filter fun t => t.1 != fd }

def takeInput : Run (List Char) := do
  let s ← get
  match s.targets.lookup 0 with
  | some (.source n) =>
    set { s with inputs := (n, []) :: s.inputs.filter fun i => i.1 != n }
    return (s.inputs.lookup n).getD []
  | some (.file p) =>
    match s.files.at? p with
    | some (.file bytes) => return bytes.map fun b => Char.ofNat b.toNat
    | _ => return []
  | _ => return []

def takeLine : Run (List Char × Bool) := do
  let s ← get
  match s.targets.lookup 0 with
  | some (.source n) =>
    let text := (s.inputs.lookup n).getD []
    let line := text.takeWhile (· != '\n')
    let rest := text.drop line.length
    set { s with inputs := (n, rest.tail) :: s.inputs.filter fun i => i.1 != n }
    return (line, !rest.isEmpty)
  | _ => return ([], false)

def inSubshell (act : Run Unit) : Run Unit := do
  let saved ← get
  modify fun s => { s with traps := s.traps.filter fun t => t.2.isEmpty, loops := 0 }
  let result ← attempt act
  modify fun s => { saved with
    writes := s.writes, files := s.files, inputs := s.inputs
    status := s.status % 256
    lingers := s.lingers }
  match result with
  | .error (.killed n) => throw (.killed n)
  | .error .spent => throw .spent
  | _ => pure ()

end ScriptBench.Shell
