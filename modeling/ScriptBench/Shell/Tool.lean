import ScriptBench.Shell.Arithmetic
import ScriptBench.Shell.Printing
import ScriptBench.Shell.State

namespace ScriptBench.Shell

open Machine (Files Place SystemError)

structure ToolCall where
  args : List (List Char)
  input : List Char
  files : Files
  directory : Place

structure ToolResult where
  output : List Char
  errors : List Char
  status : Nat
  files : Files
  lingers : Bool

namespace ToolResult

def quiet (call : ToolCall) (status : Nat) : ToolResult := ⟨[], [], status, call.files, false⟩

def fails (call : ToolCall) (status : Nat) (message : String) : ToolResult :=
  ⟨[], ofText message, status, call.files, false⟩

end ToolResult

def nameText (cs : List Char) : String := String.ofList (Text.decode (toBytes cs))

def reason : SystemError → String
  | .notFound => "No such file or directory"
  | .denied => "Permission denied"
  | .notDirectory => "Not a directory"
  | .isDirectory => "Is a directory"
  | .nameTooLong => "File name too long"
  | _ => "Invalid argument"

def ToolCall.contents (call : ToolCall) (path : List Char) : Except SystemError (List Char) := do
  match ← call.files.contentAt call.directory (nameText path) with
  | .directory => throw .isDirectory
  | .file bytes => pure (bytes.map fun b => Char.ofNat b.toNat)

def options (args : List (List Char)) : List (Option Char × List Char) × List (List Char) :=
  let (front, rest) := args.span (· != ['-', '-'])
  let isOption (a : List Char) := a.head? == some '-' && a.length > 1
  let letters (a : List Char) : List (Option Char × List Char) :=
    if a.take 2 == ['-', '-'] then [(none, a)] else a.tail.map fun c => (some c, a)
  ((front.filter isOption).flatMap letters, front.filter (fun a => !isOption a) ++ rest.tail)

def unknownOption (program known : String) (given : List (Option Char × List Char)) :
    Option String :=
  (given.find? fun (o, _) => (o.map known.toList.contains) != some true).map fun (o, whole) =>
    program ++ ": " ++ (match o with
      | some c => "invalid option -- '" ++ String.ofList [c] ++ "'"
      | none => "unrecognized option '" ++ nameText whole ++ "'") ++
    "\nTry '" ++ program ++ " --help' for more information.\n"

def wholeLines (cs : List Char) : List (List Char) :=
  cs.foldr (fun c ls =>
    if c == '\n' then ['\n'] :: ls
    else match ls with
      | [] => [[c]]
      | l :: rest => (c :: l) :: rest) []

def caretForm (c : Char) : List Char :=
  let n := c.toNat
  let low (n : Nat) : List Char :=
    if n < 32 then ['^', Char.ofNat (n + 64)] else if n = 127 then ['^', '?'] else [Char.ofNat n]
  if n < 128 then low n else 'M' :: '-' :: low (n - 128)

structure Show where
  numbers : Bool
  numbersFilled : Bool
  squeezes : Bool
  marksEnds : Bool
  marksTabs : Bool
  marksControls : Bool

def Show.char (s : Show) (c : Char) : List Char :=
  if c == '\t' then if s.marksTabs then ['^', 'I'] else ['\t']
  else if c == '\n' then if s.marksEnds then ['$', '\n'] else ['\n']
  else if s.marksControls then caretForm c
  else [c]

def Show.lines (s : Show) : Nat → Bool → List (List Char) → List Char
  | _, _, [] => []
  | n, blankBefore, l :: rest =>
    let blank := l == ['\n']
    if s.squeezes && blank && blankBefore then s.lines n true rest
    else
      let numbered := if s.numbersFilled then !blank else s.numbers
      let digits := (toString n).toList
      let mark := if numbered then List.replicate (6 - digits.length) ' ' ++ digits ++ ['\t'] else []
      mark ++ l.flatMap s.char ++ s.lines (if numbered then n + 1 else n) blank rest

def cat (call : ToolCall) : ToolResult :=
  let (given, operands) := options call.args
  match unknownOption "cat" "AbeEnstTuv" given with
  | some message => .fails call 1 message
  | none =>
    let has (s : String) := given.any fun (o, _) => (o.map s.toList.contains) == some true
    let read (path : List Char) : List Char × List Char :=
      if path == ['-'] then (call.input, [])
      else match call.contents path with
        | .ok cs => (cs, [])
        | .error e => ([], "cat: ".toList ++ path ++ (": " ++ reason e ++ "\n").toList)
    let parts := (if operands.isEmpty then [['-']] else operands).map read
    let errors := parts.flatMap Prod.snd
    let text := parts.flatMap Prod.fst
    let s : Show := ⟨has "n", has "b", has "s", has "AeE", has "AtT", has "Aetv"⟩
    let text := if given.isEmpty then text else s.lines 1 false (wholeLines text)
    ⟨text, errors, if errors.isEmpty then 0 else 1, call.files, false⟩

def sleep (call : ToolCall) : ToolResult :=
  let isInterval (a : List Char) :=
    let digits := a.takeWhile fun c => c.isDigit || c == '.'
    !digits.isEmpty && (a.length == digits.length ||
      (a.length == digits.length + 1 && "smhd".toList.contains (a.getLastD ' ')))
  match call.args with
  | [] => .fails call 1 "sleep: missing operand\nTry 'sleep --help' for more information.\n"
  | _ =>
    match call.args.find? fun a => !isInterval a with
    | some a =>
      .fails call 1 ("sleep: invalid time interval '" ++ nameText a ++
        "'\nTry 'sleep --help' for more information.\n")
    | none => { ToolResult.quiet call 0 with
        lingers := call.args.any fun a => a.any fun c => c.isDigit && c != '0' }

def seq (call : ToolCall) : ToolResult :=
  let numbers := call.args.map fun a => (Arithmetic.signedNumberAt a).1
  let count (first step last : Int) : List Char :=
    if step = 0 then []
    else
      let n := ((last - first) / step + 1).toNat
      (List.range n).flatMap fun i => (toString (first + step * (i : Nat))).toList ++ ['\n']
  match numbers with
  | [last] => { ToolResult.quiet call 0 with output := count 1 1 last }
  | [first, last] => { ToolResult.quiet call 0 with output := count first 1 last }
  | [first, step, last] => { ToolResult.quiet call 0 with output := count first step last }
  | _ => .fails call 1 "seq: missing operand\nTry 'seq --help' for more information.\n"

def eachOperand (call : ToolCall) (operands : List (List Char))
    (change : Files → List Char → Except String Files) : ToolResult :=
  operands.foldl (fun r path =>
    match change r.files path with
    | .ok files => { r with files }
    | .error message => { r with errors := r.errors ++ ofText (message ++ "\n"), status := 1 })
    (.quiet call 0)

def rm (call : ToolCall) : ToolResult :=
  let (given, operands) := options call.args
  let has (s : String) := given.any fun (o, _) => (o.map s.toList.contains) == some true
  eachOperand call operands fun files path =>
    let why (e : SystemError) := "rm: cannot remove '" ++ nameText path ++ "': " ++ reason e
    match files.locate call.directory (nameText path) with
    | .error e => if has "f" then .ok files else .error (why e)
    | .ok p =>
      match files.at? p with
      | none => if has "f" then .ok files else .error (why .notFound)
      | some .directory =>
        if has "rR" then .ok ⟨files.entries.filter fun e => !p.isPrefixOf e.1⟩
        else .error (why .isDirectory)
      | some (.file _) => .ok (files.remove p)

def mkdir (call : ToolCall) : ToolResult :=
  let (given, operands) := options call.args
  let parents := given.any fun (o, _) => o == some 'p'
  eachOperand call operands fun files path =>
    let why (what : String) := "mkdir: cannot create directory '" ++ nameText path ++ "': " ++ what
    let name := nameText path
    if parents then
      let start := if Machine.isAbsolute name then [] else call.directory
      let p := start ++ Machine.components name
      .ok (if (files.at? p).isSome then files else files.put p .directory)
    else
      match files.locate call.directory name with
      | .error e => .error (why (reason e))
      | .ok p =>
        if (files.at? p).isSome then .error (why "File exists") else .ok (files.set p .directory)

def touch (call : ToolCall) : ToolResult :=
  let (_, operands) := options call.args
  eachOperand call operands fun files path =>
    match files.locate call.directory (nameText path) with
    | .error e => .error ("touch: cannot touch '" ++ nameText path ++ "': " ++ reason e)
    | .ok p => if (files.at? p).isSome then .ok files else .ok (files.set p (.file []))

def lastName (path : List Char) : List Char :=
  let back := path.reverse.dropWhile (· == '/')
  if back.isEmpty then path.take 1 else (back.takeWhile (· != '/')).reverse

def aboveName (path : List Char) : List Char :=
  let back := ((path.reverse.dropWhile (· == '/')).dropWhile (· != '/'))
  let above := (back.dropWhile (· == '/')).reverse
  if !above.isEmpty then above else if back.isEmpty && path.head? != some '/' then ['.'] else ['/']

def basename (call : ToolCall) : ToolResult :=
  match call.args with
  | [] => .fails call 1 "basename: missing operand\nTry 'basename --help' for more information.\n"
  | path :: more =>
    let name := lastName path
    let suffix := more.headD []
    let name := if suffix.isSuffixOf name && suffix != name then name.take (name.length - suffix.length)
      else name
    { ToolResult.quiet call 0 with output := name ++ ['\n'] }

def dirname (call : ToolCall) : ToolResult :=
  match call.args with
  | [] => .fails call 1 "dirname: missing operand\nTry 'dirname --help' for more information.\n"
  | paths => { ToolResult.quiet call 0 with output := paths.flatMap fun p => aboveName p ++ ['\n'] }

def echoTool (call : ToolCall) : ToolResult :=
  let text := match call.args with
    | ['-', 'n'] :: rest => joinWith ' ' rest
    | args => joinWith ' ' args ++ ['\n']
  { ToolResult.quiet call 0 with output := text }

def tools : List (String × (ToolCall → ToolResult)) :=
  [("cat", cat), ("echo", echoTool), ("true", (.quiet · 0)), ("false", (.quiet · 1)), ("sleep", sleep), ("seq", seq),
    ("rm", rm), ("mkdir", mkdir), ("touch", touch), ("basename", basename), ("dirname", dirname)]

def nameOfProgram? (path : String) : Option String :=
  (["/usr/bin/", "/bin/"].find? fun d => path.startsWith d).map fun d => (path.drop d.length).toString

end ScriptBench.Shell
