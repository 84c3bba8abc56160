import ScriptBench.Shell.Arithmetic
import ScriptBench.Shell.State

namespace ScriptBench.Shell.Condition

open Machine (Files Place)

abbrev Arguments := List (List Char)

inductive Role where
  | unary | binary | or | and | not | opening | closing
deriving DecidableEq, Repr

def role? (cs : List Char) : Option Role :=
  let s := String.ofList cs
  if ["=", "!=", "<", ">", "-eq", "-ne", "-gt", "-ge", "-lt", "-le", "-nt", "-ot", "-ef"].contains s
  then some .binary
  else if s == "-o" then some .or
  else if s == "-a" then some .and
  else if s == "!" then some .not
  else if s == "(" then some .opening
  else if s == ")" then some .closing
  else match cs with
    | ['-', c] => if "rwxefdcbpugkstznhOGLS".toList.contains c then some .unary else none
    | _ => none

inductive Meaning where
  | ended
  | operand
  | operator (r : Role)
deriving DecidableEq, Repr

def meaning : Arguments → Meaning
  | [] => .ended
  | a :: rest =>
    match role? a with
    | none => .operand
    | some .unary =>
      match rest with
      | [] => .operand
      | [_] => .operator .unary
      | b :: _ :: _ => if role? b == some .binary then .operand else .operator .unary
    | some .opening => if rest.isEmpty then .operand else .operator .opening
    | some r => .operator r

def trimmedNumber? (cs : List Char) : Option Int :=
  let (n, rest) := match cs.dropWhile Arithmetic.blank with
    | '-' :: ds => (-(Arithmetic.digitsValue 10 (ds.takeWhile Char.isDigit) : Int), ds)
    | '+' :: ds => ((Arithmetic.digitsValue 10 (ds.takeWhile Char.isDigit) : Int), ds)
    | ds => ((Arithmetic.digitsValue 10 (ds.takeWhile Char.isDigit) : Int), ds)
  if rest.head?.any Char.isDigit && ((rest.dropWhile Char.isDigit).dropWhile Arithmetic.blank).isEmpty
  then some n else none

def number (cs : List Char) : Except (List Char) Int :=
  match trimmedNumber? cs with
  | some n =>
    if Arithmetic.least ≤ n && n ≤ Arithmetic.greatest then .ok n
    else .error ("Illegal number: ".toList ++ cs)
  | none => .error ("Illegal number: ".toList ++ cs)

def textBefore (a b : List Char) : Bool := String.ofList a < String.ofList b

def compare (op : String) (a b : List Char) : Except (List Char) Bool :=
  match op with
  | "=" => .ok (a == b)
  | "!=" => .ok (a != b)
  | "<" => .ok (textBefore a b)
  | ">" => .ok (textBefore b a)
  | "-nt" | "-ot" => .ok false
  | "-ef" => .ok (a == b)
  | _ => do
    let m ← number a
    let n ← number b
    pure (match op with
      | "-eq" => m == n
      | "-ne" => m != n
      | "-gt" => m > n
      | "-ge" => m ≥ n
      | "-lt" => m < n
      | _ => m ≤ n)

def holds (files : Files) (directory : Place) (op : Char) (a : List Char) : Bool :=
  match op with
  | 'z' => a.isEmpty
  | 'n' => !a.isEmpty
  | _ =>
    let name := String.ofList (Text.decode (toBytes a))
    match op, files.contentAt directory name with
    | 'd', .ok .directory | 'x', .ok .directory => true
    | 'e', .ok _ | 'r', .ok _ | 'w', .ok _ | 'O', .ok _ | 'G', .ok _ => true
    | 's', .ok .directory => true
    | 's', .ok (.file bytes) => !bytes.isEmpty
    | 'f', .ok (.file _) => true
    | _, _ => false

def wrong (a : List Char) (what : String) : List Char := a ++ ": ".toList ++ what.toList

inductive Rank where
  | either | both | single | primary

def read (files : Files) (directory : Place) :
    Nat → Rank → Arguments → Except (List Char) (Bool × Arguments)
  | 0, _, at_ => .ok (false, at_)
  | n + 1, .either, at_ => do
    let (v, at_) ← read files directory n .both at_
    if meaning at_.tail = .operator .or then
      let (w, at_) ← read files directory n .either at_.tail.tail
      pure (v || w, at_)
    else pure (v, at_)
  | n + 1, .both, at_ => do
    let (v, at_) ← read files directory n .single at_
    if meaning at_.tail = .operator .and then
      let (w, at_) ← read files directory n .both at_.tail.tail
      pure (v && w, at_)
    else pure (v, at_)
  | n + 1, .single, at_ =>
    if meaning at_ = .operator .not then do
      let (v, at_) ← read files directory n .single at_.tail
      pure (!v, at_)
    else read files directory n .primary at_
  | n + 1, .primary, at_ =>
    match at_, meaning at_ with
    | [], _ => .ok (false, [])
    | a :: rest, .operator .unary =>
      match rest with
      | [] => .error (wrong a "argument expected")
      | b :: _ => .ok (holds files directory (a.getLastD ' ') b, rest)
    | _ :: rest, .operator .opening =>
      if meaning rest = .operator .closing then .ok (false, rest)
      else do
        let (v, at_) ← read files directory n .either rest
        if meaning at_.tail = .operator .closing then pure (v, at_.tail)
        else throw "closing paren expected".toList
    | a :: op :: rest, _ =>
      if meaning (op :: rest) = .operator .binary then
        match rest with
        | [] => .error (wrong op "argument expected")
        | b :: _ => do pure (← compare (String.ofList op) a b, rest)
      else .ok (!a.isEmpty, at_)
    | [a], _ => .ok (!a.isEmpty, at_)

/-- Decides the arguments as a whole. Three with an operator in the middle, and three or four in
parentheses or after a negation, are read as just that. -/
def decideWithin (files : Files) (directory : Place) : Nat → Arguments → Except (List Char) Bool
  | 0, _ => .ok false
  | n + 1, args => do
    let whole (args : Arguments) := do
      let (v, at_) ← read files directory (4 * args.length + 8) .either args
      match at_ with
      | a :: _ :: _ => throw (wrong a "unexpected operator")
      | _ => pure v
    match args with
    | [] => pure false
    | [a, op, b] =>
      if role? op = some .binary then compare (String.ofList op) a b
      else if a == ['('] && b == [')'] then whole [op]
      else if a == ['!'] then return !(← decideWithin files directory n [op, b])
      else whole args
    | [a, b, c, d] =>
      if a == ['('] && d == [')'] then whole [b, c]
      else if a == ['!'] then return !(← decideWithin files directory n [b, c, d])
      else whole args
    | _ => whole args

def evaluate (files : Files) (directory : Place) (args : Arguments) : Except (List Char) Bool :=
  decideWithin files directory (args.length + 1) args

end ScriptBench.Shell.Condition
