import ScriptBench.Shell.Syntax

namespace ScriptBench.Shell.Arithmetic

def modulus : Nat := 18446744073709551616

def wrap (n : Int) : Int := Int.bmod n modulus

def greatest : Int := 9223372036854775807

def least : Int := -9223372036854775808

inductive Lexeme where
  | number (n : Int)
  | name (s : String)
  | operator (s : String)
  | unknown
deriving DecidableEq, Repr

def digitOf (c : Char) : Nat :=
  if c.isDigit then c.toNat - '0'.toNat
  else if 'a' ≤ c && c ≤ 'z' then c.toNat - 'a'.toNat + 10
  else if 'A' ≤ c && c ≤ 'Z' then c.toNat - 'A'.toNat + 10
  else 99

def digitsValue (base : Nat) (cs : List Char) : Nat := cs.foldl (fun n c => base * n + digitOf c) 0

def numberAt (cs : List Char) : Option (Int × List Char) :=
  let digits (base : Nat) (cs : List Char) :=
    let front := cs.takeWhile fun c => digitOf c < base
    (min (digitsValue base front : Int) greatest, cs.drop front.length)
  match cs with
  | '0' :: x :: d :: rest =>
    if (x == 'x' || x == 'X') && digitOf d < 16 then some (digits 16 (d :: rest))
    else some (digits 8 cs)
  | '0' :: _ => some (digits 8 cs)
  | c :: _ => if c.isDigit then some (digits 10 cs) else none
  | [] => none

def blank (c : Char) : Bool := " \t\n\r\x0b\x0c".toList.contains c

def signedNumberAt (cs : List Char) : Int × List Char :=
  let body := cs.dropWhile blank
  match body with
  | '-' :: rest => match numberAt rest with
    | some (n, rest) => (if n = greatest then least else -n, rest)
    | none => (0, cs)
  | '+' :: rest => (numberAt rest).getD (0, cs)
  | _ => (numberAt body).getD (0, cs)

def operators : List String :=
  ["<<=", ">>=", "<<", ">>", "<=", ">=", "==", "!=", "&&", "||", "+=", "-=", "*=", "/=", "%=",
   "&=", "^=", "|=", "=", "<", ">", "+", "-", "*", "/", "%", "&", "^", "|", "!", "~", "?", ":",
   "(", ")"]

def lexemes : Nat → List Char → List Lexeme
  | 0, _ => []
  | n + 1, cs =>
    match cs with
    | [] => []
    | c :: rest =>
      if blank c then lexemes n rest
      else match numberAt cs with
        | some (m, rest) => .number m :: lexemes n rest
        | none =>
          if isNameStart c then
            .name (String.ofList (cs.takeWhile isNameChar)) :: lexemes n (cs.dropWhile isNameChar)
          else match operators.find? fun o => o.toList.isPrefixOf cs with
            | some o => .operator o :: lexemes n (cs.drop o.length)
            | none => [.unknown]

abbrev Lookup := String → Except String Int

structure Calculation where
  rest : List Lexeme
  assigned : List (String × Int)

abbrev Calculate := StateT Calculation (Except String)

def rank : String → Option Nat
  | "||" => some 0
  | "&&" => some 1
  | "|" => some 2
  | "^" => some 3
  | "&" => some 4
  | "==" | "!=" => some 5
  | "<" | "<=" | ">" | ">=" => some 6
  | "<<" | ">>" => some 7
  | "+" | "-" => some 8
  | "*" | "/" | "%" => some 9
  | _ => none

def truth (b : Bool) : Int := if b then 1 else 0

def bits (f : Nat → Nat → Nat) (a b : Int) : Int :=
  wrap (f (a % modulus).toNat (b % modulus).toNat)

def apply (op : String) (a b : Int) : Except String Int :=
  match op with
  | "||" => .ok (truth (a != 0 || b != 0))
  | "&&" => .ok (truth (a != 0 && b != 0))
  | "|" => .ok (bits (· ||| ·) a b)
  | "^" => .ok (bits (· ^^^ ·) a b)
  | "&" => .ok (bits (· &&& ·) a b)
  | "==" => .ok (truth (a == b))
  | "!=" => .ok (truth (a != b))
  | "<" => .ok (truth (a < b))
  | "<=" => .ok (truth (a ≤ b))
  | ">" => .ok (truth (a > b))
  | ">=" => .ok (truth (a ≥ b))
  | "<<" => .ok (wrap (a * Nat.pow 2 (b % 64).toNat))
  | ">>" => .ok (Int.fdiv a (Nat.pow 2 (b % 64).toNat))
  | "+" => .ok (wrap (a + b))
  | "-" => .ok (wrap (a - b))
  | "*" => .ok (wrap (a * b))
  | _ =>
    if b = 0 then .error "division by zero"
    else if op = "/" then .ok (wrap (Int.tdiv a b))
    else .ok (Int.tmod a b)

def assignOperators : List String := ["=", "+=", "-=", "*=", "/=", "%=", "&=", "^=", "|=", "<<=", ">>="]

def peekOperator : Calculate (Option String) := do
  match (← get).rest with
  | .operator o :: _ => return some o
  | _ => return none

def advance : Calculate Unit := modify fun s => { s with rest := s.rest.tail }

def valueOf (lookup : Lookup) (skip : Bool) (name : String) : Calculate Int := do
  if skip then return 0
  match (← get).assigned.lookup name with
  | some n => return n
  | none => lookup name

inductive Level where
  | whole
  | binary (least : Nat)
  | unary
deriving DecidableEq, Repr

mutual

def value (lookup : Lookup) : Nat → Bool → Level → Calculate Int
  | 0, _, _ => throw "expecting primary"
  | n + 1, skip, .whole => do
    match (← get).rest with
    | .name x :: .operator o :: rest =>
      if assignOperators.contains o then
        modify fun s => { s with rest }
        let new ← value lookup n skip .whole
        if skip then return new
        let new ← if o = "=" then pure new
          else do apply (o.dropEnd 1).toString (← valueOf lookup skip x) new
        modify fun s => { s with assigned := (x, new) :: s.assigned }
        return new
      else conditional lookup n skip
    | _ => conditional lookup n skip
  | n + 1, skip, .binary least => do
    further lookup n skip least (← value lookup n skip .unary)
  | n + 1, skip, .unary => do
    match (← get).rest with
    | .operator "-" :: _ => advance; return wrap (-(← value lookup n skip .unary))
    | .operator "+" :: _ => advance; value lookup n skip .unary
    | .operator "!" :: _ => advance; return truth ((← value lookup n skip .unary) == 0)
    | .operator "~" :: _ => advance; return -(← value lookup n skip .unary) - 1
    | .operator "(" :: _ =>
      advance
      let v ← value lookup n skip .whole
      if (← peekOperator) == some ")" then
        advance
        return v
      else throw "expecting ')'"
    | .number m :: _ => advance; return m
    | .name x :: _ => advance; valueOf lookup skip x
    | _ => throw "expecting primary"

def conditional (lookup : Lookup) : Nat → Bool → Calculate Int
  | 0, _ => throw "expecting primary"
  | n + 1, skip => do
    let test ← value lookup n skip (.binary 0)
    if (← peekOperator) == some "?" then
      advance
      let yes ← value lookup n (skip || test == 0) .whole
      if (← peekOperator) != some ":" then throw "expecting ':'"
      advance
      let no ← conditional lookup n (skip || test != 0)
      return if test != 0 then yes else no
    else return test

def further (lookup : Lookup) : Nat → Bool → Nat → Int → Calculate Int
  | 0, _, _, left => return left
  | n + 1, skip, least, left => do
    match ← peekOperator with
    | none => return left
    | some o =>
      match rank o with
      | none => return left
      | some r =>
        if r < least then return left
        advance
        let skipRight := skip || (o == "&&" && left == 0) || (o == "||" && left != 0)
        let right ← value lookup n skipRight (.binary (r + 1))
        if skip then further lookup n skip least 0
        else further lookup n skip least (← apply o left right)

end

def evaluate (lookup : Lookup) (cs : List Char) : Except String (Int × List (String × Int)) := do
  let ls := lexemes (cs.length + 1) cs
  let (v, s) ← (value lookup (8 * ls.length + 16) false .whole).run ⟨ls, []⟩
  if s.rest.isEmpty then pure (v, s.assigned) else throw "expecting EOF"

end ScriptBench.Shell.Arithmetic
