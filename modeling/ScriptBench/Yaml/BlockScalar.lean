import ScriptBench.Yaml.Scalar

namespace ScriptBench.Yaml

inductive Chomp where
  | strip | clip | keep
deriving DecidableEq, Repr

def chomp? : Char → Option Chomp
  | '+' => some .keep
  | '-' => some .strip
  | _ => none

def blockHeader (c : Cursor) : Except Problem (Chomp × Nat × Cursor) :=
  let increment (c : Cursor) : Except Problem (Nat × Cursor) :=
    match c.rest with
    | d :: _ =>
      if d == '0' then .error .badIndentation
      else if d.isDigit then .ok (d.toNat - '0'.toNat, c.skip)
      else .ok (0, c)
    | [] => .ok (0, c)
  match c.rest.head?.bind chomp? with
  | some chomp => (increment c.skip).map fun (n, c) => (chomp, n, c)
  | none => do
    let (n, c) ← increment c
    match c.rest.head?.bind chomp? with
    | some chomp => if n = 0 then .ok (.clip, 0, c) else .ok (chomp, n, c.skip)
    | none => .ok (.clip, n, c)

/-- The indentation and the empty lines before the next line of text. `widest` is the furthest
column that indentation reached; with `indent = 0` the indentation is still to be found. -/
structure Leading where
  breaks : List Char
  widest : Nat
  cursor : Cursor
deriving DecidableEq, Repr

def leadingFrom (indent widest index line column : Nat) (breaks : List Char) :
    List Char → Except Problem Leading
  | [] => .ok ⟨breaks, max widest column, ⟨[], index, line, column⟩⟩
  | c :: cs =>
    let within := indent == 0 || column < indent
    if within && c == ' ' then leadingFrom indent widest (index + 1) line (column + 1) breaks cs
    else if within && c == '\t' then .error .misplacedTab
    else if isBreak c then
      if c == '\r' && cs.head? == some '\n' then
        leadingFrom indent widest (index + 1) line column breaks cs
      else
        leadingFrom indent (max widest column) (index + 1) (line + 1) 0 (breakChar c :: breaks) cs
    else .ok ⟨breaks, max widest column, ⟨c :: cs, index, line, column⟩⟩

def leading (indent : Nat) (c : Cursor) : Except Problem Leading :=
  leadingFrom indent 0 c.index c.line c.column [] c.rest

structure BlockText where
  done : List Char
  lastBreak : List Char
  emptyLines : List Char
  afterSpace : Bool
deriving DecidableEq, Repr

/-- Adds the next line: between two lines of text that begin with no space a folded scalar has a
space in place of a line feed, or nothing if empty lines come in between. -/
def BlockText.add (folded : Bool) (t : BlockText) (line : List Char) : List Char :=
  let startsWithSpace := line.head?.any isSpace
  let joint :=
    if folded && t.lastBreak == ['\n'] && !t.afterSpace && !startsWithSpace then
      if t.emptyLines.isEmpty then [' '] else []
    else t.lastBreak
  line.reverse ++ t.emptyLines ++ joint ++ t.done

def blockLines (folded : Bool) (indent : Nat) :
    Nat → BlockText → Cursor → Except Problem (BlockText × Cursor)
  | 0, t, c => .ok (t, c)
  | fuel + 1, t, c =>
    if c.column != indent || c.rest.isEmpty then .ok (t, c)
    else do
      let (line, c) := c.span (!isBreak ·)
      let lastBreak := (c.rest.head?.map breakChar).toList
      let l ← leading indent (if c.rest.isEmpty then c else c.skipBreak)
      blockLines folded indent fuel ⟨t.add folded line, lastBreak, l.breaks, line.head?.any isSpace⟩
        l.cursor

def blockScalar (folded : Bool) (margin : Nat) (c : Cursor) : Except Problem Scanned := do
  let (chomp, increment, c) ← blockHeader c.skip
  match c.endLine? with
  | none => .error .unknownToken
  | some c =>
    let given := if increment = 0 then 0 else margin - 1 + increment
    let l ← leading given c
    let indent := if given = 0 then max l.widest (max margin 1) else given
    let (t, c) ← blockLines folded indent (c.rest.length + 1) ⟨[], [], l.breaks, false⟩ l.cursor
    let tail := match chomp with
      | .strip => []
      | .clip => t.lastBreak
      | .keep => t.emptyLines ++ t.lastBreak
    .ok ⟨ofReversed (tail ++ t.done), false, c⟩

end ScriptBench.Yaml
