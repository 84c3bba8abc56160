import ScriptBench.Yaml.Cursor

namespace ScriptBench.Yaml

/-- What lies between two stretches of a scalar: spaces, or breaks with whatever spaces around
them. An escaped break has no `first`. -/
inductive Gap where
  | spaces (reversed : List Char)
  | breaks (first : Option Char) (reversed : List Char)
deriving DecidableEq, Repr

namespace Gap

def none : Gap := .spaces []

def isNone (g : Gap) : Bool := g == .spaces []

def hasBreak : Gap → Bool
  | .spaces _ => false
  | .breaks _ _ => true

def addSpace (c : Char) : Gap → Gap
  | .spaces r => .spaces (c :: r)
  | g => g

def addBreak (c : Char) : Gap → Gap
  | .spaces _ => .breaks (some (breakChar c)) []
  | .breaks first r => .breaks first (breakChar c :: r)

def folded : Gap → List Char
  | .spaces r => r
  | .breaks (some '\n') [] => [' ']
  | .breaks (some '\n') r => r
  | .breaks first r => r ++ first.toList

end Gap

structure Scanned where
  text : String
  brokeLine : Bool
  cursor : Cursor
deriving DecidableEq, Repr

def ofReversed (r : List Char) : String := String.ofList r.reverse

def isFlowIndicator (c : Char) : Bool :=
  c == ',' || c == '[' || c == ']' || c == '\x7b' || c == '\x7d'

/-- A plain scalar ends before `: `, before ` #`, in flow collections before their indicators,
before a document marker, and where a line is indented less than `margin`. -/
def plainFrom (flow : Bool) (margin : Nat) (index line column : Nat) (done : List Char)
    (gap : Gap) : List Char → Except Problem Scanned
  | [] => .ok ⟨ofReversed done, gap.hasBreak, ⟨[], index, line, column⟩⟩
  | c :: cs =>
    let here : Cursor := ⟨c :: cs, index, line, column⟩
    if isSpace c then
      if gap.hasBreak && column < margin && c == '\t' then .error .misplacedTab
      else plainFrom flow margin (index + 1) line (column + 1) done (gap.addSpace c) cs
    else if isBreak c then
      if c == '\r' && cs.head? == some '\n' then
        plainFrom flow margin (index + 1) line column done gap cs
      else plainFrom flow margin (index + 1) (line + 1) 0 done (gap.addBreak c) cs
    else
      let stopped := Except.ok ⟨ofReversed done, gap.hasBreak, here⟩
      if !gap.isNone && ((!flow && column < margin) || here.atDocumentMarker || c == '#') then
        stopped
      else if flow && c == ':' && cs.head?.any (fun d => isFlowIndicator d || d == '?') then
        .error .misplacedIndicator
      else if (c == ':' && isGapAt cs) || (flow && isFlowIndicator c) then stopped
      else plainFrom flow margin (index + 1) line (column + 1) (c :: (gap.folded ++ done)) .none cs

def plainScalar (flow : Bool) (margin : Nat) (c : Cursor) : Except Problem Scanned :=
  plainFrom flow margin c.index c.line c.column [] .none c.rest

def hexValue? (c : Char) : Option Nat :=
  if c.isDigit then some (c.toNat - '0'.toNat)
  else if 'a' ≤ c ∧ c ≤ 'f' then some (c.toNat - 'a'.toNat + 10)
  else if 'A' ≤ c ∧ c ≤ 'F' then some (c.toNat - 'A'.toNat + 10)
  else none

def hexNumber? (cs : List Char) : Option Nat :=
  cs.foldlM (fun n c => (hexValue? c).map (16 * n + ·)) 0

def simpleEscapes : List (Char × Char) :=
  [('0', '\x00'), ('a', '\x07'), ('b', '\x08'), ('t', '\t'), ('\t', '\t'), ('n', '\n'),
   ('v', '\x0b'), ('f', '\x0c'), ('r', '\r'), ('e', '\x1b'), (' ', ' '), ('\x22', '\x22'),
   ('/', '/'), ('\\', '\\'), ('N', '\u0085'), ('_', '\u00a0'), ('L', '\u2028'), ('P', '\u2029')]

def hexEscapes : List (Char × Nat) := [('x', 2), ('u', 4), ('U', 8)]

def escape? : List Char → Option (Char × Nat)
  | [] => none
  | c :: cs =>
    match simpleEscapes.lookup c with
    | some x => some (x, 1)
    | none => do
      let width ← hexEscapes.lookup c
      let digits := cs.take width
      if digits.length < width then none
      else
        let n ← hexNumber? digits
        if n.isValidChar then some (Char.ofNat n, width + 1) else none

def singleQuote : Char := '\x27'

def doubleQuote : Char := '\x22'

def quotedFrom (single : Bool) (skipping : Nat) (index line column : Nat) (done : List Char)
    (gap : Gap) : List Char → Except Problem Scanned
  | [] => .error .unclosedQuote
  | c :: cs =>
    let here : Cursor := ⟨c :: cs, index, line, column⟩
    let quote := if single then singleQuote else doubleQuote
    if 0 < skipping then
      quotedFrom single (skipping - 1) (index + 1) line (column + 1) done gap cs
    else if here.atDocumentMarker then .error .unclosedQuote
    else if isSpace c then
      quotedFrom single 0 (index + 1) line (column + 1) done (gap.addSpace c) cs
    else if isBreak c then
      if c == '\r' && cs.head? == some '\n' then
        quotedFrom single 0 (index + 1) line column done gap cs
      else quotedFrom single 0 (index + 1) (line + 1) 0 done (gap.addBreak c) cs
    else
      let done := gap.folded ++ done
      if c == quote then
        if single && cs.head? == some quote then
          quotedFrom single 1 (index + 1) line (column + 1) (quote :: done) .none cs
        else .ok ⟨ofReversed done, false, ⟨cs, index + 1, line, column + 1⟩⟩
      else if !single && c == '\\' then
        if cs.head?.any isBreak then escapedBreak (index + 1) line done cs
        else match escape? cs with
          | none => .error .badEscape
          | some (x, width) =>
            quotedFrom single width (index + 1) line (column + 1) (x :: done) .none cs
      else quotedFrom single 0 (index + 1) line (column + 1) (c :: done) .none cs
where
  escapedBreak (index line : Nat) (done : List Char) : List Char → Except Problem Scanned
    | [] => .error .unclosedQuote
    | '\r' :: '\n' :: cs =>
      quotedFrom single 0 (index + 2) (line + 1) 0 done (.breaks Option.none []) cs
    | _ :: cs => quotedFrom single 0 (index + 1) (line + 1) 0 done (.breaks Option.none []) cs

def quotedScalar (single : Bool) (c : Cursor) : Except Problem Scanned :=
  let c := c.skip
  quotedFrom single 0 c.index c.line c.column [] .none c.rest

end ScriptBench.Yaml
