import ScriptBench.Yaml.Problem

namespace ScriptBench.Yaml

def isSpace (c : Char) : Bool := c == ' ' || c == '\t'

def isBreak (c : Char) : Bool :=
  c == '\r' || c == '\n' || c == '\u0085' || c == '\u2028' || c == '\u2029'

def isGapAt : List Char → Bool
  | [] => true
  | c :: _ => isSpace c || isBreak c

def isNameChar (c : Char) : Bool := c.isAlphanum || c == '_' || c == '-'

def breakChar (c : Char) : Char := if c == '\u2028' || c == '\u2029' then c else '\n'

structure Cursor where
  rest : List Char
  index : Nat
  line : Nat
  column : Nat
deriving DecidableEq, Repr

namespace Cursor

def start (text : List Char) : Cursor := ⟨text, 0, 0, 0⟩

def skip (c : Cursor) : Cursor := ⟨c.rest.tail, c.index + 1, c.line, c.column + 1⟩

def skipMany : Nat → Cursor → Cursor
  | 0, c => c
  | n + 1, c => skipMany n c.skip

def skipBreak (c : Cursor) : Cursor :=
  match c.rest with
  | '\r' :: '\n' :: rest => ⟨rest, c.index + 2, c.line + 1, 0⟩
  | _ :: rest => ⟨rest, c.index + 1, c.line + 1, 0⟩
  | [] => c

def span (p : Char → Bool) (c : Cursor) : List Char × Cursor :=
  let front := c.rest.takeWhile p
  (front, ⟨c.rest.dropWhile p, c.index + front.length, c.line, c.column + front.length⟩)

def skipSpaces (c : Cursor) : Cursor := (c.span isSpace).2

def skipComment (c : Cursor) : Cursor :=
  if c.rest.head? = some '#' then (c.span fun x => !isBreak x).2 else c

def endLine? (c : Cursor) : Option Cursor :=
  let c := c.skipSpaces.skipComment
  match c.rest with
  | [] => some c
  | x :: _ => if isBreak x then some c.skipBreak else none

def atMarker (mark : Char) (c : Cursor) : Bool :=
  c.column == 0 && match c.rest with
    | x :: y :: z :: rest => x == mark && y == mark && z == mark && isGapAt rest
    | _ => false

def atDocumentMarker (c : Cursor) : Bool := c.atMarker '-' || c.atMarker '.'

end Cursor

end ScriptBench.Yaml
