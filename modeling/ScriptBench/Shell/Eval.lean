import ScriptBench.Shell.Builtin
import ScriptBench.Shell.Tool

/-!
`Eval` stands for running a command at a smaller depth; all that runs commands is written over it,
and `run` ties the knot with a bound on how deep commands nest. Loops have a bound of their own. A
script that reaches a bound counts as one that goes on.
-/

namespace ScriptBench.Shell

/-- Runs a command; the flag says that its failure is looked at and so is no reason to leave. -/
abbrev Eval := Bool → Command → Run Unit

def whenFailed (tested : Bool) : Run Unit := do
  let s ← get
  if s.options.exitOnError && !tested && s.status != 0 then throw .exited

def runSource (run : Eval) (tested : Bool) : Nat → Source → Run Unit
  | 0, _ => pure ()
  | n + 1, source =>
    match readCommand source with
    | .error e => do
      if (← get).options.echoesInput then say 2 source.rest
      modify fun s => { s with line := e.line }
      fail e.message.toList
    | .ok (none, _) => pure ()
    | .ok (some c, after) => do
      let s ← get
      if s.options.echoesInput then
        say 2 (source.rest.take (source.rest.length - after.rest.length))
      modify fun s => { s with documents := after.bodies ++ s.documents }
      run tested c
      runSource run tested n { after with bodies := [] }

def runText (run : Eval) (tested : Bool) (text : List Char) : Run Unit := do
  let count := (← get).documents.length
  runSource run tested (text.length + 1) { Source.ofText text 1 with hereCount := count }

def runTrap (run : Eval) (n : Nat) : Run Unit := do
  let s ← get
  match s.traps.lookup n with
  | none => pure ()
  | some action =>
    if n = 0 then modify fun s => { s with traps := s.traps.filter fun t => t.1 != 0 }
    runText run false action
    setStatus s.status

def withEnd (run : Eval) (act : Run Unit) : Run Unit := do
  let result ← attempt act
  match result with
  | .error (.killed n) => throw (.killed n)
  | .error .spent => throw .spent
  | _ => runTrap run 0

def capture (run : Eval) (body : Command) : Run (List Char) := do
  let before := (← get).status
  let depth := (← get).depth + 1
  inSubshell do
    modify fun s => { s with depth }
    setTarget 1 (some (.capture depth))
    withEnd run (run false body)
  let s ← get
  let text := s.written (.capture depth)
  set { s with
    writes := s.writes.filter fun w => w.1 != Target.capture depth
    outputStatus := s.status, status := before }
  return (text.reverse.dropWhile (· == '\n')).reverse

def openReason (create : Bool) (e : Machine.SystemError) : List Char :=
  (match e with
  | .notFound | .notDirectory => if create then "Directory nonexistent" else "No such file"
  | e => reason e).toList

def openFile (run : Eval) (fd : Nat) (kind : RedirectKind) (name : Word) : Run Unit := do
  let path ← expandText (capture run) name
  let s ← get
  let text := nameText path
  match kind with
  | .read =>
    if text == "/dev/null" then openInput fd []
    else match s.files.contentAt s.directory text with
      | .ok (.file bytes) => openInput fd (bytes.map fun b => Char.ofNat b.toNat)
      | .ok .directory => openInput fd []
      | .error e => fail ("cannot open ".toList ++ path ++ ": ".toList ++ openReason false e)
  | _ =>
    let cannot {α : Type} (e : Machine.SystemError) : Run α :=
      fail ("cannot create ".toList ++ path ++ ": ".toList ++ openReason true e)
    if text == "/dev/null" then setTarget fd (some .nothing)
    else if text == "/dev/stdout" then setTarget fd (s.targets.lookup 1)
    else if text == "/dev/stderr" then setTarget fd (s.targets.lookup 2)
    else match s.files.locate s.directory text with
      | .error e => cannot e
      | .ok p =>
        match s.files.at? p with
        | some .directory => cannot .isDirectory
        | old =>
          if old.isNone || kind == .write then
            modify fun s => { s with files := s.files.set p (.file []) }
          setTarget fd (some (.file p))

def redirect (run : Eval) : Redirection → Run Unit
  | .file fd kind name => openFile run fd kind name
  | .duplicate fd source => do
    let from_ ← expandText (capture run) source
    if from_ == ['-'] then setTarget fd none
    else if !from_.isEmpty && from_.all Char.isDigit then
      match (← get).targets.lookup (Arithmetic.digitsValue 10 from_) with
      | some t => setTarget fd (some t)
      | none => fail (from_ ++ ": Bad file descriptor".toList)
    else fail ("Syntax error: Bad fd number".toList)
  | .here fd number => do
    let w := ((← get).documents.lookup number).getD []
    openInput fd (plainChars (← expandParts (capture run) false false w))

def withRedirections (run : Eval) (rs : List Redirection) (failed act : Run Unit) : Run Unit := do
  let saved := (← get).targets
  match ← attempt (rs.forM (redirect run)) with
  | .error .failed =>
    modify fun s => { s with targets := saved }
    failed
  | .error f => throw f
  | .ok () =>
    let result ← attempt act
    modify fun s => { s with targets := saved }
    match result with
    | .ok () => pure ()
    | .error f => throw f

def expandAssignments (run : Eval) : List (String × Word) → Run (List (String × List Char))
  | [] => return []
  | (name, w) :: rest => do
    let value ← expandText (capture run) w
    assign name value
    return (name, value) :: (← expandAssignments run rest)

def withAssignments (run : Eval) (assignments : List (String × Word)) (act : Run Unit) :
    Run Unit := do
  let old := assignments.map fun (name, _) => name
  let saved ← old.mapM fun name => do return (name, ← variableNamed name)
  let _ ← expandAssignments run assignments
  saved.forM fun (name, _) => do
    match ← variableNamed name with
    | some v => restoreVariable name (some { v with exported := true })
    | none => pure ()
  let result ← attempt act
  saved.reverse.forM fun (name, v) => restoreVariable name v
  match result with
  | .ok () => pure ()
  | .error f => throw f

def callFunction (run : Eval) (tested : Bool) (body : Command) (args : List (List Char)) :
    Run Unit := do
  let saved ← get
  modify fun s => { s with params := args, locals := some [], loops := 0 }
  let result ← attempt (run tested body)
  ((← get).locals.getD []).forM fun (name, old) => restoreVariable name old
  modify fun s => { s with params := saved.params, locals := saved.locals, loops := saved.loops }
  match result with
  | .ok () | .error .returned => pure ()
  | .error f => throw f

def raise (run : Eval) (n : Nat) : Run Unit := do
  setStatus 0
  match (← get).traps.lookup n with
  | some action =>
    if n = 9 || n = 19 then throw (.killed n)
    else if action.isEmpty then pure () else runTrap run n
  | none =>
    if n = 0 || isIgnoredSignal n then pure ()
    else if isStopSignal n then throw .spent
    else throw (.killed n)

def killUsage : List Char :=
  ("Usage: kill [-s sigspec | -signum | -sigspec] [pid | job]... or\n" ++
    "kill -l [exitstatus]").toList

def signalEach (run : Eval) (n : Nat) : List (List Char) → Run Unit
  | [] => pure ()
  | p :: rest => do
    let digits := if p.head? == some '-' then p.tail else p
    let pid ← numberArgument digits
    if pid = 0 || pid = (← get).pid then raise run n
    else
      complain ("No such process\n".toList)
      setStatus 1
    signalEach run n rest

def kill (run : Eval) : Builtin := fun args => do
  match args with
  | [] | [['-', 's']] => fail killUsage
  | ['-', 'l'] :: _ =>
    (List.range signalCount).forM fun n =>
      say 1 ((if n = 0 then "0" else signalName n) ++ "\n").toList
    setStatus 0
  | ['-', 's'] :: name :: pids =>
    match signalNumber? name with
    | none => fail ("invalid signal number or name: ".toList ++ name)
    | some n => if pids.isEmpty then fail killUsage else signalEach run n pids
  | ['-', '-'] :: pids => signalEach run 15 pids
  | ('-' :: name) :: pids =>
    match signalNumber? name with
    | none => fail ("Illegal option -".toList ++ name.take 1)
    | some n => if pids.isEmpty then fail killUsage else signalEach run n pids
  | pids => signalEach run 15 pids

structure Invocation where
  options : Options
  command : Option (List Char)
  readsInput : Bool
  operands : List (List Char)

def Invocation.letter (i : Invocation) (on : Bool) : Char → Except (List Char) Invocation
  | 'c' => .ok { i with command := some [] }
  | 's' => .ok { i with readsInput := true }
  | c =>
    match i.options.assign? on c with
    | some options => .ok { i with options }
    | none => .error ("Illegal option -".toList ++ [c])

def Invocation.read (i : Invocation) : List (List Char) → Except (List Char) Invocation
  | ['-', '-'] :: rest => .ok { i with operands := rest }
  | ['-'] :: rest => .ok { i with operands := rest }
  | [sign, 'o'] :: name :: rest =>
    if sign == '-' || sign == '+' then
      match (optionNames.lookup (String.ofList name)).bind (i.options.assign? (sign == '-')) with
      | some options => Invocation.read { i with options } rest
      | none => .error ("Illegal option -o ".toList ++ name)
    else .ok { i with operands := [sign, 'o'] :: name :: rest }
  | (sign :: c :: cs) :: rest =>
    if sign == '-' || sign == '+' then
      match (c :: cs).foldlM (fun i c => i.letter (sign == '-') c) i with
      | .ok i => Invocation.read i rest
      | .error e => .error e
    else .ok { i with operands := (sign :: c :: cs) :: rest }
  | args => .ok { i with operands := args }

def startShell (run : Eval) (shell : List Char) (args : List (List Char)) : Run Unit := do
  modify fun s => { s with
    name := shell, params := [], functions := [], traps := [], options := .none, line := 0
    building := none, locals := none, loops := 0, status := 0
    bindings := s.bindings.filter fun v => v.2.exported }
  match Invocation.read ⟨.none, none, false, []⟩ args with
  | .error message => fail message
  | .ok i =>
    modify fun s => { s with options := i.options }
    match i.command, i.operands with
    | some _, [] => fail "-c requires an argument".toList
    | some _, text :: rest =>
      modify fun s => { s with name := rest.headD shell, params := rest.tail }
      withEnd run (runText run false text)
    | none, script :: rest =>
      if i.readsInput then
        modify fun s => { s with params := script :: rest }
        withEnd run (do runText run false (← takeInput))
      else
        let s ← get
        match s.files.contentAt s.directory (nameText script) with
        | .ok (.file bytes) =>
          modify fun s => { s with name := script, params := rest }
          withEnd run (runText run false (bytes.map fun b => Char.ofNat b.toNat))
        | .ok .directory => pure ()
        | .error e => fail ("cannot open ".toList ++ script ++ ": ".toList ++ openReason false e)
    | none, [] => withEnd run (do runText run false (← takeInput))

def isShellName (name : String) : Bool := name == "sh" || name == "dash"

def runTool (name : String) (tool : ToolCall → ToolResult) (args : List (List Char)) :
    Run Unit := do
  let input ← if name == "cat" then takeInput else pure []
  let s ← get
  let r := tool ⟨args, input, s.files, s.directory⟩
  set { s with files := r.files, status := r.status, lingers := s.lingers || r.lingers }
  say 1 r.output
  say 2 r.errors

def runInnerShell (run : Eval) (name : List Char) (args : List (List Char)) : Run Unit := do
  let s ← get
  let result ← attempt (inSubshell do
    modify fun s => { s with pid := s.pid + 1 }
    startShell run name args)
  match result with
  | .error (.killed n) =>
    modify fun now => { s with
      writes := now.writes, files := now.files, inputs := now.inputs, lingers := now.lingers }
    if n != 2 && n != 13 then say 2 ((signalDescription n).toList ++ ['\n'])
    setStatus (128 + n)
  | .error f => throw f
  | .ok () => pure ()

inductive Found where
  | tool (name : String) (run : ToolCall → ToolResult)
  | shell
  | absent
  | denied

def findProgram (s : State) (name : List Char) : Found :=
  let text := nameText name
  let known (n : String) : Found :=
    if isShellName n then .shell
    else match tools.lookup n with
      | some t => .tool n t
      | none => .absent
  if name.isEmpty then .denied
  else if !name.contains '/' then known text
  else match nameOfProgram? text with
    | some n => known n
    | none =>
      match s.files.contentAt s.directory text with
      | .ok _ => .denied
      | .error _ => .absent

def runProgram (run : Eval) (name : List Char) (args : List (List Char)) : Run Unit := do
  match findProgram (← get) name with
  | .tool n t => runTool n t args
  | .shell => runInnerShell run name args
  | .absent =>
    complain (name ++ ": not found".toList)
    setStatus 127
  | .denied =>
    complain (name ++ ": Permission denied".toList)
    setStatus (if name.isEmpty then 127 else 126)

def exec (run : Eval) : Builtin := fun args => do
  match args with
  | [] => setStatus 0
  | name :: rest =>
    match findProgram (← get) name with
    | .tool n t =>
      runTool n t rest
      modify fun s => { s with traps := [] }
    | .shell =>
      modify fun s => { s with building := none }
      startShell run name rest
    | .absent =>
      complain (name ++ ": not found".toList)
      setStatus 127
    | .denied =>
      complain (name ++ ": Permission denied".toList)
      setStatus 126
    throw .exited

def dot (run : Eval) (tested : Bool) : Builtin := fun args => do
  match args with
  | [] => setStatus 0
  | path :: _ =>
    let s ← get
    let text := nameText path
    match (if path.contains '/' then s.files.contentAt s.directory text else .error .notFound) with
    | .ok (.file bytes) =>
      setStatus 0
      let result ← attempt (runText run tested (bytes.map fun b => Char.ofNat b.toNat))
      match result with
      | .ok () | .error .returned => pure ()
      | .error f => throw f
    | .ok .directory => setStatus 0
    | .error .notFound =>
      if path.contains '/' then fail ("cannot open ".toList ++ path ++ ": No such file".toList)
      else fail (path ++ ": not found".toList)
    | .error e => fail ("cannot open ".toList ++ path ++ ": ".toList ++ openReason false e)

def builtin? (run : Eval) (tested : Bool) (name : String) : Option (Bool × Builtin) :=
  match specialBuiltins.lookup name with
  | some b => some (true, b)
  | none =>
    match regularBuiltins.lookup name with
    | some b => some (false, b)
    | none =>
      match name with
      | "eval" => some (true, fun args => do
          setStatus 0
          runText run tested (joinWith ' ' args))
      | "exec" => some (true, exec run)
      | "." => some (true, dot run tested)
      | "kill" => some (false, kill run)
      | _ => none

def callBuiltin (name : String) (special : Bool) (b : Builtin) (args : List (List Char)) :
    Run Unit := do
  let saved := (← get).building
  modify fun s => { s with building := some name.toList }
  let result ← attempt (b args)
  modify fun s => { s with building := saved }
  match result with
  | .ok () => pure ()
  | .error .failed => if special then throw .failed else pure ()
  | .error f => throw f

def whereIs (run : Eval) (name : List Char) : Run (Option (List Char)) := do
  let key := String.ofList name
  let s ← get
  if (builtin? run false key).isSome || key == "command" || (s.functions.lookup key).isSome ||
      reservedWords.contains key then return some name
  else match findProgram s name with
    | .tool .. | .shell => return some (if name.contains '/' then name else "/usr/bin/".toList ++ name)
    | _ => return none

def describe (run : Eval) : Builtin := fun args => do
  setStatus 0
  args.forM fun name => do
    let key := String.ofList name
    let s ← get
    let text ← if reservedWords.contains key then pure " is a shell keyword".toList
      else if (specialBuiltins.lookup key).isSome || ["eval", "exec", "."].contains key then
        pure " is a special shell builtin".toList
      else if (s.functions.lookup key).isSome then pure " is a shell function".toList
      else if (builtin? run false key).isSome || key == "command" || key == "type" then
        pure " is a shell builtin".toList
      else match ← whereIs run name with
        | some path => pure (" is ".toList ++ path)
        | none => do
          setStatus 127
          pure ": not found".toList
    say 1 (name ++ text ++ ['\n'])

mutual

def dispatch (run : Eval) (tested functions : Bool) :
    Nat → List Char → List (List Char) → Run Unit
  | 0, _, _ => throw .spent
  | n + 1, name, args => do
    let key := String.ofList name
    let s ← get
    match s.functions.lookup key, builtin? run tested key with
    | none, some (special, b) => callBuiltin key (special && functions) b args
    | some body, some (special, b) =>
      if special || !functions then callBuiltin key (special && functions) b args
      else callFunction run tested body args
    | some body, none =>
      if functions then callFunction run tested body args else runProgram run name args
    | none, none =>
      if key == "command" then commandBuiltin run tested n args
      else if key == "type" then callBuiltin key false (describe run) args
      else runProgram run name args

def commandBuiltin (run : Eval) (tested : Bool) : Nat → List (List Char) → Run Unit
  | 0, _ => throw .spent
  | n + 1, args => do
    match args with
    | [] => setStatus 0
    | ['-', 'v'] :: name :: _ =>
      match ← whereIs run name with
      | some path =>
        say 1 (path ++ ['\n'])
        setStatus 0
      | none => setStatus 127
    | ['-', 'p'] :: name :: rest => dispatch run tested false n name rest
    | ['-', '-'] :: name :: rest => dispatch run tested false n name rest
    | name :: rest => dispatch run tested false n name rest

end

def traceLine (assigned : List (String × List Char)) (fields : List (List Char)) : Run Unit := do
  if (← get).options.traces then
    let words := assigned.map (fun (n, v) => n.toList ++ '=' :: v) ++ fields
    let ps4 := ((← variableNamed "PS4").bind (·.value)).getD "+ ".toList
    say 2 (ps4 ++ joinWith ' ' words ++ ['\n'])

def runSimple (run : Eval) (tested : Bool) (line : Nat) (assignments : List (String × Word))
    (words : List Word) (rs : List Redirection) : Run Unit := do
  modify fun s => { s with line, outputStatus := 0 }
  let fields ← expandWords (capture run) words
  match fields with
  | [] =>
    let keepStatus : Run Unit := do setStatus (← get).outputStatus
    withRedirections run rs (pure ()) do
      let assigned ← expandAssignments run assignments
      if !assigned.isEmpty then traceLine assigned []
      keepStatus
  | name :: args =>
    let key := String.ofList name
    let special := (specialBuiltins.lookup key).isSome || ["eval", "exec", "."].contains key
    let failed : Run Unit := if special then throw .failed else pure ()
    let traced : Run Unit := do
      let s ← get
      let values := assignments.map fun (n, _) =>
        (n, ((s.bindings.lookup n).bind (·.value)).getD [])
      traceLine values fields
    let go : Run Unit := do
      traced
      dispatch run tested true (args.length + 2) name args
    let act : Run Unit :=
      if special then do
        let _ ← expandAssignments run assignments
        go
      else withAssignments run assignments go
    if key == "exec" && args.isEmpty then
      match ← attempt (rs.forM (redirect run)) with
      | .ok () => act
      | .error f => throw f
    else withRedirections run rs failed act
  whenFailed tested

def runPipeline (run : Eval) : List Command → Run Unit
  | [] => pure ()
  | [c] => inSubshell (withEnd run (run false c))
  | c :: d :: more => do
    let depth := (← get).depth + 1
    inSubshell do
      modify fun s => { s with depth }
      setTarget 1 (some (.capture depth))
      withEnd run (run false c)
    let s ← get
    let text := s.written (.capture depth)
    let targets := s.targets
    set { s with writes := s.writes.filter fun w => w.1 != Target.capture depth }
    openInput 0 text
    let result ← attempt (runPipeline run (d :: more))
    modify fun s => { s with targets }
    match result with
    | .ok () => pure ()
    | .error f => throw f

def afterRound (result : Except Flow Unit) : Run Bool := do
  match result with
  | .ok () | .error (.continues 1) | .error (.continues 0) => return true
  | .error (.leaves 1) | .error (.leaves 0) => return false
  | .error (.leaves (n + 2)) => throw (.leaves (n + 1))
  | .error (.continues (n + 2)) => throw (.continues (n + 1))
  | .error f => throw f

def roundBound : Nat := 100000

def runLoop (run : Eval) (tested untilTrue : Bool) (test body : Command) :
    Nat → Nat → Run Unit
  | 0, _ => throw .spent
  | n + 1, last => do
    let goesOn ← afterRound (← attempt (run true test))
    if !goesOn then setStatus 0
    else if ((← get).status == 0) == untilTrue then setStatus last
    else
      let goesOn ← afterRound (← attempt (run tested body))
      if goesOn then runLoop run tested untilTrue test body n (← get).status
      else setStatus 0

def runEach (run : Eval) (tested : Bool) (name : String) (body : Command) :
    List (List Char) → Run Unit
  | [] => pure ()
  | item :: rest => do
    assign name item
    let goesOn ← afterRound (← attempt (run tested body))
    if goesOn then runEach run tested name body rest else setStatus 0

def inLoop (act : Run Unit) : Run Unit := do
  let loops := (← get).loops
  modify fun s => { s with loops := loops + 1 }
  let result ← attempt act
  modify fun s => { s with loops }
  match result with
  | .ok () => pure ()
  | .error f => throw f

def runArms (run : Eval) (tested : Bool) (subject : List Char) :
    List (List Word × Command) → Run Unit
  | [] => setStatus 0
  | (patterns, body) :: more => do
    let found ← patterns.anyM fun w => do
      return matchesPattern (pattern (← expandPattern (capture run) w)) subject
    if found then
      setStatus 0
      run tested body
    else runArms run tested subject more

def runCommand (run : Eval) (tested : Bool) : Command → Run Unit
  | .nothing => pure ()
  | .simple line assignments words rs => runSimple run tested line assignments words rs
  | .pipeline parts => do
    runPipeline run parts
    whenFailed tested
  | .negated body => do
    run true body
    setStatus (if (← get).status = 0 then 1 else 0)
  | .both first second => do
    run true first
    if (← get).status = 0 then run tested second
  | .either first second => do
    run true first
    if (← get).status != 0 then run tested second
  | .sequence first second => do
    run tested first
    run tested second
  | .background body => do
    inSubshell do
      openInput 0 []
      withEnd run (run false body)
    modify fun s => { s with status := 0, lastJob := some (s.pid + 1) }
  | .subshell body => do
    inSubshell (withEnd run (run tested body))
    whenFailed tested
  | .branch test yes no => do
    run true test
    if (← get).status = 0 then run tested yes
    else
      setStatus 0
      run tested no
  | .loop untilTrue test body => inLoop (runLoop run tested untilTrue test body roundBound 0)
  | .each line name words body => do
    modify fun s => { s with line }
    let items ← match words with
      | some ws => expandWords (capture run) ws
      | none => do pure (← get).params
    setStatus 0
    inLoop (runEach run tested name body items)
  | .choose line word arms => do
    modify fun s => { s with line }
    let subject ← expandText (capture run) word
    runArms run tested subject arms
  | .redirected line body rs => do
    modify fun s => { s with line }
    withRedirections run rs (pure ()) (run tested body)
    whenFailed tested
  | .define name body => do
    modify fun s => { s with functions := setEntry name body s.functions, status := 0 }

def step (run : Eval) (tested : Bool) (c : Command) : Run Unit := do
  if !(← get).options.noExecution then runCommand run tested c

def depthBound : Nat := 2000

def runWithin : Nat → Eval
  | 0 => fun _ _ => throw .spent
  | n + 1 => step (runWithin n)

def run : Eval := runWithin depthBound

end ScriptBench.Shell
