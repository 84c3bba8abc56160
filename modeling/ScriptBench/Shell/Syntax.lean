namespace ScriptBench.Shell

inductive RedirectKind where
  | read | write | append | readWrite
deriving DecidableEq, Repr

mutual

inductive Part where
  | text (chars : List Char) (quoted : Bool)
  | parameter (name : String) (change : Change) (quoted : Bool)
  | arithmetic (expression : List Part) (quoted : Bool)
  | output (body : Command) (quoted : Bool)

/-- What becomes of a parameter's value: `-`, `=`, `?` and `+` look at whether it is set (with a
colon also whether it is empty), `%` and `#` take off an end. -/
inductive Change where
  | none
  | length
  | fallback (kind : Char) (colon : Bool) (word : List Part)
  | trim (kind : Char) (longest : Bool) (pattern : List Part)

inductive Redirection where
  | file (fd : Nat) (kind : RedirectKind) (name : List Part)
  | duplicate (fd : Nat) (source : List Part)
  | here (fd : Nat) (number : Nat)

inductive Command where
  | nothing
  | simple (line : Nat) (assignments : List (String × List Part)) (words : List (List Part))
      (redirections : List Redirection)
  | pipeline (parts : List Command)
  | negated (body : Command)
  | both (first second : Command)
  | either (first second : Command)
  | sequence (first second : Command)
  | background (body : Command)
  | subshell (body : Command)
  | branch (test yes no : Command)
  | loop (untilTrue : Bool) (test body : Command)
  | each (line : Nat) (name : String) (words : Option (List (List Part))) (body : Command)
  | choose (line : Nat) (word : List Part) (arms : List (List (List Part) × Command))
  | redirected (line : Nat) (body : Command) (redirections : List Redirection)
  | define (name : String) (body : Command)

end

instance : Inhabited Command := ⟨.nothing⟩

instance : Inhabited Part := ⟨.text [] false⟩

abbrev Word := List Part

def Part.isQuotedText : Part → Bool
  | .text _ quoted => quoted
  | _ => false

def plainText? : Word → Option (List Char)
  | [] => some []
  | .text cs _ :: rest => (plainText? rest).map (cs ++ ·)
  | _ => none

def isNameStart (c : Char) : Bool := c.isAlpha || c == '_'

def isNameChar (c : Char) : Bool := c.isAlphanum || c == '_'

def isName : List Char → Bool
  | [] => false
  | c :: cs => isNameStart c && cs.all isNameChar

inductive Token where
  | endOfFile
  | newline
  | operator (text : String)
  | reserved (text : String)
  | word (word : Word)
  | redirect (fd : Option Nat) (operator : String)

def Token.describe : Token → String
  | .endOfFile => "end of file"
  | .newline => "newline"
  | .operator text | .reserved text => "\x22" ++ text ++ "\x22"
  | .word _ => "word"
  | .redirect .. => "redirection"

def reservedWords : List String :=
  ["!", "case", "do", "done", "elif", "else", "esac", "fi", "for", "if", "in", "then", "until",
   "while", "\x7b", "\x7d"]

end ScriptBench.Shell
