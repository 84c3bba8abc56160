import ScriptBench.Highlight.Span
import ScriptBench.Text.Trim

namespace ScriptBench.Highlight

def searchWords (keywords : List String) : List (List Char) :=
  (keywords.map fun k => Text.trimChars k.toList).filter fun k => !k.isEmpty

def standsAt (before : Option Char) (rest word : List Char) : Bool :=
  word.isPrefixOf rest && Text.boundary before rest.head? &&
    Text.boundary word.getLast? (rest.drop word.length).head?

def matchLength (words : List (List Char)) (before : Option Char) (rest : List Char) : Nat :=
  ((words.find? (standsAt before rest)).map List.length).getD 0

/-- For each character whether it belongs to a match; `left` of them still belong to the one
found before. -/
def keywordFlags (words : List (List Char)) : Option Char → Nat → List Char → List Bool
  | _, _, [] => []
  | before, left, c :: cs =>
    let left := if left = 0 then matchLength words before (c :: cs) else left
    (left != 0) :: keywordFlags words (some c) (left - 1) cs

def keywordSpans (keywords : List String) (text : String) : List Span :=
  runs ((keywordFlags (searchWords keywords) none 0 text.toList).map Tags.ofKeyword)

theorem length_keywordFlags (words : List (List Char)) (before : Option Char) (left : Nat)
    (cs : List Char) : (keywordFlags words before left cs).length = cs.length := by
  induction cs generalizing before left with
  | nil => rfl
  | cons c cs ih => simp [keywordFlags, ih]

def defaultKeywords : List String :=
  ["fun", "val", "var", "if", "for", "while", "class", "interface", "import", "print", "println",
   "throw"]

end ScriptBench.Highlight
