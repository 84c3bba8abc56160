import ScriptBench.Highlight.Keyword
import ScriptBench.Highlight.Overlay

namespace ScriptBench.Highlight

def styleMap (keywords : List String) (text : String) (positions : Diagnostic.PositionSet) :
    List Span :=
  if positions.isEmpty then keywordSpans keywords text
  else merge (keywordSpans keywords text) (errorRanges text positions)

end ScriptBench.Highlight
