import ScriptBench.Highlight.ErrorRange
import ScriptBench.Highlight.Span

namespace ScriptBench.Highlight

/-- The spans from `cursor` to `length` of ranges sorted by start; what lies behind the cursor is
already painted. -/
def errorSpansFrom (length : Nat) : Nat → List ErrorRange → List Span
  | cursor, [] => grow (length - cursor) .plain []
  | cursor, r :: rest =>
    let start := max (min r.start length) cursor
    let stop := min r.stop length
    grow (start - cursor) .plain <| grow (stop - start) .onlyError <|
      errorSpansFrom length (max start stop) rest

def errorSpans (ranges : List ErrorRange) (length : Nat) : List Span :=
  errorSpansFrom length 0 (ranges.mergeSort fun a b => a.start ≤ b.start)

def joined : List Span → List Span
  | [] => []
  | s :: rest => grow s.length s.tags (joined rest)

def overlay : List Span → List Span → List Span
  | [], top => joined top
  | base, [] => joined base
  | b :: base, t :: top =>
    if b.length < t.length then
      grow b.length (b.tags.union t.tags) (overlay base (⟨t.length - b.length, t.tags⟩ :: top))
    else if t.length < b.length then
      grow t.length (b.tags.union t.tags) (overlay (⟨b.length - t.length, b.tags⟩ :: base) top)
    else grow b.length (b.tags.union t.tags) (overlay base top)
termination_by base top => base.length + top.length

def merge (spans : List Span) (ranges : List ErrorRange) : List Span :=
  overlay spans (errorSpans ranges (totalLength spans))

end ScriptBench.Highlight
