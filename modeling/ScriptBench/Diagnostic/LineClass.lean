import ScriptBench.Diagnostic.Position

namespace ScriptBench.Diagnostic

inductive LineClass where
  | positioned (line column : Nat) (message : String)
  | reference (line : Nat)
  | caret
  | plain
deriving DecidableEq, Repr

def after? : (mark text : List Char) → Option (List Char)
  | [], text => some text
  | _ :: _, [] => none
  | m :: mark, c :: text => if m = c then after? mark text else none

theorem after?_eq_some_iff {mark text rest : List Char} :
    after? mark text = some rest ↔ text = mark ++ rest := by
  induction mark generalizing text with
  | nil => simp [after?]
  | cons m mark ih =>
      cases text with
      | nil => simp [after?]
      | cons c text =>
          by_cases h : m = c
          · subst h
            simp [after?, ih]
          · have h' : ¬ c = m := fun e => h e.symm
            simp [after?, h, h']

def digits? (text : List Char) : Option (List Char × List Char) :=
  match text.takeWhile Char.isDigit with
  | [] => none
  | d :: ds => some (d :: ds, text.dropWhile Char.isDigit)

def value (digits : List Char) : Nat :=
  digits.foldl (fun n d => 10 * n + (d.toNat - '0'.toNat)) 0

def numberLimit : Nat := 18446744073709551616

def number? (digits : List Char) : Option Nat :=
  if value digits < numberLimit then some (value digits) else none

def extensionMark (ext : List Char) : List Char := '.' :: (ext ++ [':'])

def positionedTail? (ext : List Char) (text : List Char) :
    Option (List Char × List Char × List Char) := do
  let text ← after? (extensionMark ext) text
  let (line, text) ← digits? text
  let text ← after? [':'] text
  let (column, text) ← digits? text
  let message ← after? ": error: ".toList text
  if message.isEmpty || message.contains '\n' then none else some (line, column, message)

def referenceTail? (ext : List Char) (text : List Char) : Option (List Char) := do
  let text ← after? (extensionMark ext) text
  let (line, _) ← digits? text
  some line

/-- What `read` finds at the last place of the first line where it finds something. -/
def last? {α : Type} (read : List Char → Option α) : List Char → Option α
  | [] => read []
  | c :: cs => if c = '\n' then read (c :: cs) else (last? read cs).or (read (c :: cs))

def lastInLines? {α : Type} (read : List Char → Option α) (text : List Char) : Option α :=
  go (last? read text) text
where
  go (found : Option α) : List Char → Option α
    | [] => found
    | c :: cs => match found with
      | some a => some a
      | none => if c = '\n' then go (last? read cs) cs else go none cs

def positioned? (ext text : List Char) : Option LineClass := do
  let (line, column, message) ← last? (positionedTail? ext) text
  some (.positioned (← number? line) (← number? column) (String.ofList message))

def reference? (ext text : List Char) : Option LineClass := do
  let line ← lastInLines? (referenceTail? ext) text
  some (.reference (← number? line))

def isCaret (text : List Char) : Bool := !text.contains '\n' && text.getLast? == some '^'

def classify (ext line : String) : LineClass :=
  let ext := ext.toList
  let line := line.toList
  ((positioned? ext line).or (reference? ext line)).getD (if isCaret line then .caret else .plain)

end ScriptBench.Diagnostic
