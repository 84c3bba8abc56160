import ScriptBench.Shell.Condition
import ScriptBench.Shell.Expansion
import ScriptBench.Shell.Signal

namespace ScriptBench.Shell

abbrev Builtin := List (List Char) → Run Unit

def numberArgument (cs : List Char) : Run Nat := do
  if !cs.isEmpty && cs.all Char.isDigit then return Arithmetic.digitsValue 10 cs
  else fail ("Illegal number: ".toList ++ cs)

def echo : Builtin := fun args => do
  say 1 (echoText args)
  setStatus 0

def printf : Builtin := fun args => do
  let checked := args.head? == some ['-', '-']
  match (if checked then args.tail else args) with
  | [] => fail "usage: printf format [arg ...]".toList
  | format :: args =>
    match format with
    | '-' :: c :: _ => if !checked then fail ("Illegal option -".toList ++ [c])
    | _ => pure ()
    let p := printfText format args
    say 1 p.text
    p.complaints.forM complain
    match p.unknown with
    | some directive => fail (directive ++ ": invalid directive".toList)
    | none => setStatus (if p.complaints.isEmpty then 0 else 1)

def condition (needsClosing : Bool) : Builtin := fun args => do
  let s ← get
  let args ← if !needsClosing then pure args
    else if args.getLast? == some [']'] then pure args.dropLast
    else fail "missing ]".toList
  match Condition.evaluate s.files s.directory args with
  | .ok v => setStatus (if v then 0 else 1)
  | .error message => fail message

def nothing (status : Nat) : Builtin := fun _ => setStatus status

def leave : Builtin := fun args => do
  match args with
  | [] => pure ()
  | a :: _ => setStatus (← numberArgument a)
  throw .exited

def giveBack : Builtin := fun args => do
  match args with
  | [] => pure ()
  | a :: _ => setStatus (← numberArgument a)
  throw .returned

def loopControl (flow : Nat → Flow) : Builtin := fun args => do
  let levels ← match args with
    | [] => pure 1
    | a :: _ => numberArgument a
  if levels = 0 then fail ("Illegal number: 0".toList)
  setStatus 0
  let loops := (← get).loops
  if loops = 0 then pure () else throw (flow (min levels loops))

def shift : Builtin := fun args => do
  let n ← match args with
    | [] => pure 1
    | a :: _ => numberArgument a
  if (← get).params.length < n then fail "can't shift that many".toList
  modify fun s => { s with params := s.params.drop n, status := 0 }

def isNameText (cs : List Char) : Bool := isName cs

def nameAndValue (a : List Char) : List Char × Option (List Char) :=
  let name := a.takeWhile (· != '=')
  (name, if name.length < a.length then some (a.drop (name.length + 1)) else none)

def singleQuoted (cs : List Char) : List Char :=
  '\x27' :: cs.flatMap (fun c => if c == '\x27' then "'\"'\"'".toList else [c]) ++ ['\x27']

def listVariables (front : String) (keep : Variable → Bool) : Run Unit := do
  let entries := (← get).bindings.filter fun (_, v) => keep v
  let names := entries.foldl (fun sorted (n, _) => insertName n.toList sorted) []
  names.forM fun n => do
    match (← variableNamed (String.ofList n)).bind (·.value) with
    | some v => say 1 (front.toList ++ n ++ '=' :: singleQuoted v ++ ['\n'])
    | none => say 1 (front.toList ++ n ++ ['\n'])

def mark (word : String) (keep : Variable → Bool) (change : Variable → Variable) : Builtin :=
  fun args => do
    match args with
    | [] | [['-', 'p']] => listVariables (word ++ " ") keep
    | _ =>
      args.forM fun a => do
        let (name, value) := nameAndValue a
        if !isNameText name then fail (name ++ ": bad variable name".toList)
        let key := String.ofList name
        match value with
        | some v => assign key v
        | none => pure ()
        let old := (← variableNamed key).getD ⟨none, false, false⟩
        modify fun s => { s with bindings := setEntry key (change old) s.bindings }
    setStatus 0

def unset : Builtin := fun args => do
  let functions := args.head? == some ['-', 'f']
  let names := args.filter fun a => a.head? != some '-'
  names.forM fun a => do
    let name := String.ofList a
    if functions then
      modify fun s => { s with functions := s.functions.filter fun f => f.1 != name }
    else
      if ((← variableNamed name).map (·.readOnly)).getD false then
        fail (a ++ ": is read only".toList)
      restoreVariable name none
  setStatus 0

def declareLocal : Builtin := fun args => do
  match (← get).locals with
  | none => fail "not in a function".toList
  | some _ =>
    args.forM fun a => do
      let (name, value) := nameAndValue a
      let key := String.ofList name
      let old ← variableNamed key
      modify fun s => { s with locals := s.locals.map ((key, old) :: ·) }
      match value with
      | some v => assign key v
      | none => pure ()
    setStatus 0

def setOptions : Nat → List (List Char) → Run (Option (List (List Char)))
  | 0, _ => return none
  | n + 1, args => do
    match args with
    | [] => return none
    | ['-', '-'] :: rest => return some rest
    | [sign, 'o'] :: name :: rest =>
      if sign == '-' || sign == '+' then
        match optionNames.lookup (String.ofList name) with
        | some letter =>
          modify fun s => { s with options := (s.options.assign? (sign == '-') letter).getD s.options }
          setOptions n rest
        | none => fail ("Illegal option -o ".toList ++ name)
      else return some args
    | (sign :: letters) :: rest =>
      if (sign == '-' || sign == '+') && !letters.isEmpty then
        letters.forM fun letter => do
          match (← get).options.assign? (sign == '-') letter with
          | some options => modify fun s => { s with options }
          | none => fail ("Illegal option -".toList ++ [letter])
        setOptions n rest
      else return some args
    | _ => return some args

def setBuiltin : Builtin := fun args => do
  match args with
  | [] => listVariables "" fun v => v.value.isSome
  | _ =>
    match ← setOptions (args.length + 1) args with
    | some params => modify fun s => { s with params }
    | none => pure ()
  setStatus 0

def pathText (p : Machine.Place) : List Char := ofText ("/" ++ String.intercalate "/" p)

def changeDirectory : Builtin := fun args => do
  let s ← get
  let back := args.head? == some ['-']
  let target ← match args with
    | [] => pure (((← variableNamed "HOME").bind (·.value)).getD [])
    | a :: _ =>
      if back then pure (((← variableNamed "OLDPWD").bind (·.value)).getD (pathText s.directory))
      else pure a
  if target.isEmpty then setStatus 0
  else
    let name := String.ofList (Text.decode (toBytes target))
    match s.files.locate s.directory name with
    | .ok p =>
      if s.files.at? p == some .directory then
        assign "OLDPWD" (pathText s.directory)
        assign "PWD" (pathText p)
        modify fun s => { s with directory := p, status := 0 }
        if back then say 1 (pathText p ++ ['\n'])
      else fail ("can't cd to ".toList ++ target)
    | .error _ => fail ("can't cd to ".toList ++ target)

def printDirectory : Builtin := fun _ => do
  say 1 (pathText (← get).directory ++ ['\n'])
  setStatus 0

def readText (raw : Bool) : Nat → List Quotable → Run (List Quotable × Bool)
  | 0, acc => return (acc, false)
  | n + 1, acc => do
    let (line, complete) ← takeLine
    if raw then return (acc ++ line.map (·, false), complete)
    let rec unquote : List Char → List Quotable × Bool
      | ['\\'] => ([], true)
      | '\\' :: c :: rest =>
        let (more, joins) := unquote rest
        ((c, true) :: more, joins)
      | c :: rest =>
        let (more, joins) := unquote rest
        ((c, false) :: more, joins)
      | [] => ([], false)
    let (cs, joins) := unquote line
    if joins && complete then readText raw n (acc ++ cs)
    else return (acc ++ cs, complete)

def assignFields (separators : List Char) : List String → List Quotable → Run Unit
  | [], _ => pure ()
  | [name], cs =>
    let isSpace (q : Quotable) := !q.2 && separators.contains q.1 && isSpaceSeparator q.1
    let body := ((cs.dropWhile isSpace).reverse.dropWhile isSpace).reverse
    assign name (body.map Prod.fst)
  | name :: more, cs => do
    let isSeparator (q : Quotable) := !q.2 && separators.contains q.1
    let isSpace (q : Quotable) := isSeparator q && isSpaceSeparator q.1
    let body := cs.dropWhile isSpace
    let field := body.takeWhile fun q => !isSeparator q
    let rest := (body.drop field.length).dropWhile isSpace
    let endedBySpace := ((body.drop field.length).head?.map isSpace).getD false
    let rest := match rest with
      | q :: after => if isSeparator q && (endedBySpace || !isSpace q) then after else rest
      | [] => []
    assign name (field.map Prod.fst)
    assignFields separators more rest

def readBuiltin : Builtin := fun args => do
  let raw := args.head? == some ['-', 'r']
  let names := args.filter fun a => a.head? != some '-'
  if names.isEmpty then fail "arg count".toList
  let s ← get
  let inputLeft := match s.targets.lookup 0 with
    | some (.source n) => ((s.inputs.lookup n).getD []).length
    | _ => 0
  let (line, complete) ← readText raw (inputLeft + 2) []
  assignFields (← fieldSeparators) (names.map String.ofList) line
  setStatus (if complete then 0 else 1)

def listTraps : Run Unit := do
  (← get).traps.reverse.forM fun (n, action) =>
    say 1 ("trap -- ".toList ++ singleQuoted action ++ (" " ++ signalName n ++ "\n").toList)

def trap : Builtin := fun args => do
  setStatus 0
  let args := if args.head? == some ['-', '-'] then args.tail else args
  match args with
  | [] => listTraps
  | first :: rest =>
    let (action, names) := if rest.isEmpty || (signalNumber? first).isSome && first.all Char.isDigit
      then (none, args) else (if first == ['-'] then none else some first, rest)
    names.forM fun name => do
      match signalNumber? name with
      | none =>
        say 2 ("trap: ".toList ++ name ++ ": bad trap\n".toList)
        setStatus 1
      | some n =>
        let others := (← get).traps.filter fun t => t.1 != n
        modify fun s => { s with traps := (action.map (n, ·)).toList ++ others }

def umask : Builtin := fun args => do
  if args.isEmpty then say 1 "0022\n".toList
  setStatus 0

def specialBuiltins : List (String × Builtin) :=
  [(":", nothing 0), ("break", loopControl .leaves), ("continue", loopControl .continues),
    ("exit", leave), ("return", giveBack), ("set", setBuiltin), ("shift", shift),
    ("export", mark "export" (·.exported) fun v => { v with exported := true }),
    ("readonly", mark "readonly" (·.readOnly) fun v => { v with readOnly := true }),
    ("unset", unset), ("trap", trap), ("local", declareLocal), ("times", nothing 0)]

def regularBuiltins : List (String × Builtin) :=
  [("echo", echo), ("printf", printf), ("true", nothing 0), ("false", nothing 1),
    ("test", condition false), ("[", condition true), ("cd", changeDirectory),
    ("chdir", changeDirectory), ("pwd", printDirectory), ("read", readBuiltin),
    ("umask", umask), ("wait", nothing 0), ("hash", nothing 0),
    ("alias", nothing 0), ("jobs", nothing 0)]

end ScriptBench.Shell
