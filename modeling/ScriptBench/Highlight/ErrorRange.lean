import ScriptBench.Diagnostic.Position
import ScriptBench.Text.CharClass
import ScriptBench.Text.Lines

namespace ScriptBench.Highlight

open Diagnostic (Position PositionSet)

structure ErrorRange where
  start : Nat
  stop : Nat
deriving DecidableEq, Repr

def ErrorRange.covers (r : ErrorRange) (i : Nat) : Prop := r.start ≤ i ∧ i < r.stop

def ErrorRange.le (a b : ErrorRange) : Bool :=
  a.start < b.start || (a.start == b.start && a.stop ≤ b.stop)

def identifierLength (cs : List Char) : Nat := (cs.takeWhile Text.isIdentifierPart).length

def columnRange (chars : List Char) (column : Nat) : ErrorRange :=
  let start := min (column - 1) (chars.length - 1)
  let stop := max column (start + 1)
  if (chars[start]?).any Text.isIdentifierPart then
    let stop := stop + identifierLength (chars.drop stop)
    ⟨start - identifierLength (chars.take start).reverse,
      if stop < chars.length then stop + 1 else stop⟩
  else ⟨start, stop⟩

def errorRange? (text : List Char) (p : Position) : Option ErrorRange :=
  match Text.line? text p.line with
  | none => none
  | some line =>
    if line.chars.isEmpty then none
    else match p.column with
      | none => some ⟨line.start, line.start + line.chars.length⟩
      | some column =>
        let r := columnRange line.chars column
        some ⟨line.start + r.start, line.start + r.stop⟩

def errorRanges (text : String) (positions : PositionSet) : List ErrorRange :=
  (positions.toList.filterMap (errorRange? text.toList)).mergeSort ErrorRange.le

end ScriptBench.Highlight
