import ScriptBench.Shell.Arithmetic

namespace ScriptBench.Shell

def escapedChar? : Char → Option Char
  | 'a' => some '\x07'
  | 'b' => some '\x08'
  | 'e' => some '\x1b'
  | 'f' => some '\x0c'
  | 'n' => some '\n'
  | 'r' => some '\r'
  | 't' => some '\t'
  | 'v' => some '\x0b'
  | '\\' => some '\\'
  | _ => none

def isOctal (c : Char) : Bool := '0' ≤ c && c ≤ '7'

def octalChar (cs : List Char) : Char := Char.ofNat (Arithmetic.digitsValue 8 cs % 256)

def escapeAt (leadingZero : Bool) (cs : List Char) : List Char × List Char :=
  match cs with
  | [] => (['\\'], [])
  | c :: rest =>
    if isOctal c then
      let body := if leadingZero && c == '0' then rest else cs
      let digits := (body.take 3).takeWhile isOctal
      ([octalChar digits], body.drop digits.length)
    else match escapedChar? c with
      | some d => ([d], rest)
      | none => (['\\'], cs)

def unescape : Nat → List Char → List Char × Bool
  | 0, cs => (cs, false)
  | n + 1, cs =>
    match cs with
    | [] => ([], false)
    | '\\' :: 'c' :: _ => ([], true)
    | '\\' :: rest =>
      let (front, rest) := escapeAt true rest
      let (more, stop) := unescape n rest
      (front ++ more, stop)
    | c :: rest =>
      let (more, stop) := unescape n rest
      (c :: more, stop)

def joinWith (sep : Char) : List (List Char) → List Char
  | [] => []
  | [w] => w
  | w :: v :: more => w ++ sep :: joinWith sep (v :: more)

def echoText (args : List (List Char)) : List Char :=
  let (noNewline, args) := match args with
    | ['-', 'n'] :: rest => (true, rest)
    | _ => (false, args)
  let line := joinWith ' ' args
  let (text, stop) := unescape line.length line
  if stop || noNewline then text else text ++ ['\n']

structure Layout where
  left : Bool
  zero : Bool
  plus : Bool
  space : Bool
  alternate : Bool
  width : Nat
  precision : Option Nat
deriving DecidableEq, Repr

def Layout.pad (l : Layout) (cs : List Char) : List Char :=
  let fill := List.replicate (l.width - cs.length) ' '
  if l.left then cs ++ fill else fill ++ cs

def Layout.number (l : Layout) (mark digits : List Char) : List Char :=
  let digits := match l.precision with
    | some p => List.replicate (p - digits.length) '0' ++ digits
    | none => digits
  if l.zero && !l.left && l.precision.isNone then
    mark ++ List.replicate (l.width - mark.length - digits.length) '0' ++ digits
  else l.pad (mark ++ digits)

structure Printing where
  args : List (List Char)
  text : List Char
  complaints : List (List Char)
  stopped : Bool
  unknown : Option (List Char)
deriving DecidableEq, Repr

namespace Printing

def nextArg (p : Printing) : List Char × Printing :=
  (p.args.headD [], { p with args := p.args.tail })

def add (p : Printing) (cs : List Char) : Printing := { p with text := p.text ++ cs }

def nextNumber (p : Printing) : Int × Printing :=
  let (arg, p) := p.nextArg
  match arg with
  | [] => (0, p)
  | '\x27' :: c :: _ => (c.toNat, p)
  | '\x22' :: c :: _ => (c.toNat, p)
  | _ =>
    let (n, rest) := Arithmetic.signedNumberAt arg
    if rest.isEmpty then (n, p)
    else
      let why := if rest.length == arg.length then ": expected numeric value"
        else ": not completely converted"
      (n, { p with complaints := p.complaints ++ [arg ++ why.toList] })

def convert (l : Layout) (kind : Char) (p : Printing) : Option Printing :=
  let unsigned (base : Nat) (mark : List Char) (upper : Bool) :=
    let (n, p) := p.nextNumber
    let digits := Nat.toDigits base (n % Arithmetic.modulus).toNat
    let digits := if upper then digits.map Char.toUpper else digits
    some (p.add (l.number (if l.alternate then mark else []) digits))
  match kind with
  | 's' =>
    let (arg, p) := p.nextArg
    some (p.add (l.pad ((l.precision.map arg.take).getD arg)))
  | 'b' =>
    let (arg, p) := p.nextArg
    let (text, stop) := unescape arg.length arg
    some { p.add (l.pad ((l.precision.map text.take).getD text)) with stopped := stop }
  | 'c' =>
    let (arg, p) := p.nextArg
    some (p.add (l.pad (arg.take 1)))
  | 'd' | 'i' =>
    let (n, p) := p.nextNumber
    let mark := if n < 0 then ['-'] else if l.plus then ['+'] else if l.space then [' '] else []
    some (p.add (l.number mark (Nat.toDigits 10 n.natAbs)))
  | 'u' => unsigned 10 [] false
  | 'o' => unsigned 8 ['0'] false
  | 'x' => unsigned 16 ['0', 'x'] false
  | 'X' => unsigned 16 ['0', 'X'] true
  | _ => none

def widthAt (cs : List Char) (p : Printing) : Option Int × List Char × Printing :=
  match cs with
  | '*' :: rest =>
    let (n, p) := p.nextNumber
    (some n, rest, p)
  | _ =>
    let digits := cs.takeWhile Char.isDigit
    (if digits.isEmpty then none else some (Arithmetic.digitsValue 10 digits),
      cs.drop digits.length, p)

def conversion (cs : List Char) (p : Printing) : Option (List Char × Printing) :=
  let flags := cs.takeWhile "-+ #0".toList.contains
  let (width, rest, p) := widthAt (cs.drop flags.length) p
  let (precision, rest, p) := match rest with
    | '.' :: rest =>
      let (n, rest, p) := widthAt rest p
      (some (n.getD 0).toNat, rest, p)
    | _ => (none, rest, p)
  match rest with
  | [] => none
  | kind :: rest =>
    let width := width.getD 0
    let l : Layout :=
      ⟨flags.contains '-' || width < 0, flags.contains '0', flags.contains '+',
        flags.contains ' ', flags.contains '#', width.natAbs, precision⟩
    (convert l kind p).map fun p => (rest, p)

def pass : Nat → List Char → Printing → Printing
  | 0, _, p => p
  | n + 1, cs, p =>
    if p.stopped then p
    else match cs with
      | [] => p
      | '\\' :: rest =>
        let (front, rest) := escapeAt false rest
        pass n rest (p.add front)
      | '%' :: '%' :: rest => pass n rest (p.add ['%'])
      | '%' :: rest =>
        match conversion rest p with
        | some (rest, p) => pass n rest p
        | none =>
          let bad := rest.takeWhile "-+ #0123456789.*".toList.contains
          let directive := '%' :: bad ++ (rest.drop bad.length).take 1
          { p with stopped := true, unknown := some directive }
      | c :: rest => pass n rest (p.add [c])

def passes : Nat → List Char → Printing → Printing
  | 0, _, p => p
  | n + 1, format, p =>
    let q := pass (format.length + 1) format p
    if q.stopped || q.args.isEmpty || q.args.length == p.args.length then q
    else passes n format q

end Printing

def printfText (format : List Char) (args : List (List Char)) : Printing :=
  Printing.passes (args.length + 1) format ⟨args, [], [], false, none⟩

end ScriptBench.Shell
