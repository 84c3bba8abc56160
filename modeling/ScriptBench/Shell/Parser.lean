import ScriptBench.Shell.Syntax

namespace ScriptBench.Shell

structure SyntaxError where
  line : Nat
  message : String
deriving DecidableEq, Repr

structure PendingHere where
  number : Nat
  delimiter : List Char
  expands : Bool
  stripsTabs : Bool

structure Source where
  rest : List Char
  line : Nat
  pushed : Option Token
  pending : List PendingHere
  bodies : List (Nat × Word)
  hereCount : Nat

def Source.ofText (text : List Char) (line : Nat) : Source := ⟨text, line, none, [], [], 0⟩

abbrev Parser (α : Type) := StateT Source (Except SyntaxError) α

namespace Parser

def fail {α : Type} (message : String) : Parser α := fun s => .error ⟨s.line, message⟩

def unexpected {α : Type} (t : Token) : Parser α :=
  fail ("Syntax error: " ++ t.describe ++ " unexpected")

def expecting {α : Type} (t : Token) (wanted : Token) : Parser α :=
  fail ("Syntax error: " ++ t.describe ++ " unexpected (expecting " ++ wanted.describe ++ ")")

def peek : Parser (Option Char) := do return (← get).rest.head?

def take : Parser Unit :=
  modify fun s => { s with
    rest := s.rest.tail
    line := if s.rest.head? = some '\n' then s.line + 1 else s.line }

def setRest (rest : List Char) : Parser Unit := modify fun s => { s with rest }

def takeWhile (p : Char → Bool) : Parser (List Char) := do
  let rest := (← get).rest
  setRest (rest.dropWhile p)
  return rest.takeWhile p

inductive Stop where
  | word | doubleQuote | brace (quoted : Bool) | arithmetic (depth : Nat) | document
deriving DecidableEq, Repr

def Stop.quotes : Stop → Bool
  | .word | .brace false => false
  | _ => true

def endsWord (c : Char) : Bool := " \t\n;&|<>()".toList.contains c

def isOrdinary (c : Char) : Bool := c.isAlphanum || "_./:,+@%^[]".toList.contains c

def isSpecial (c : Char) : Bool := "@*#?-$!".toList.contains c

def addText (parts : List Part) (cs : List Char) (quoted : Bool) : List Part :=
  match parts with
  | .text ds q :: rest => if q == quoted then .text (ds ++ cs) q :: rest else .text cs quoted :: parts
  | _ => .text cs quoted :: parts

def backQuoted (quoted : Bool) : Nat → List Char → Parser (List Char)
  | 0, _ => fail "Syntax error: EOF in backquote substitution"
  | fuel + 1, acc => do
    match (← get).rest with
    | [] => fail "Syntax error: EOF in backquote substitution"
    | '\x60' :: _ =>
      take
      return acc.reverse
    | '\\' :: c :: _ =>
      take
      take
      if c == '\n' then backQuoted quoted fuel acc
      else if c == '\x60' || c == '\\' || c == '$' || (quoted && c == '\x22') then
        backQuoted quoted fuel (c :: acc)
      else backQuoted quoted fuel (c :: '\\' :: acc)
    | c :: _ =>
      take
      backQuoted quoted fuel (c :: acc)

def hereLines (h : PendingHere) : Nat → List Char → Parser (List Char)
  | 0, acc => return acc
  | fuel + 1, acc => do
    let rest := (← get).rest
    if rest.isEmpty then return acc
    let line := rest.takeWhile (· != '\n')
    let after := rest.dropWhile (· != '\n')
    let line := if h.stripsTabs then line.dropWhile (· == '\t') else line
    modify fun s => { s with rest := after.tail, line := if after.isEmpty then s.line else s.line + 1 }
    if line == h.delimiter then return acc
    hereLines h fuel (acc ++ line ++ (if after.isEmpty then [] else ['\n']))

def changeHead : Parser (Option (Char × Bool)) := do
  match (← get).rest with
  | ':' :: c :: rest =>
    if "-=?+".toList.contains c then
      setRest rest
      return some (c, true)
    else return none
  | c :: d :: rest =>
    if (c == '%' || c == '#') && d == c then
      setRest rest
      return some (c, true)
    else if "-=?+%#".toList.contains c then
      setRest (d :: rest)
      return some (c, false)
    else return none
  | [c] =>
    if "-=?+%#".toList.contains c then
      setRest []
      return some (c, false)
    else return none
  | [] => return none

def skipComment : Parser Unit := do
  let _ ← takeWhile (· != '\n')

def operator? : Nat → Parser (Option Token)
  | 0 => return some .endOfFile
  | fuel + 1 => do
    match (← get).rest with
    | [] => return some .endOfFile
    | '\\' :: '\n' :: _ =>
      take
      take
      operator? fuel
    | c :: rest =>
      if c == ' ' || c == '\t' then
        take
        operator? fuel
      else if c == '#' then
        skipComment
        operator? fuel
      else if c == '\n' then
        take
        return some .newline
      else if "&|;".toList.contains c then
        take
        if rest.head? = some c then
          take
          return some (.operator (String.ofList [c, c]))
        return some (.operator (String.ofList [c]))
      else if c == '(' || c == ')' then
        take
        return some (.operator (String.ofList [c]))
      else return none

def redirectOperator : Parser String := do
  match (← get).rest with
  | '<' :: '<' :: '-' :: rest => setRest rest; return "<<-"
  | '<' :: '<' :: rest => setRest rest; return "<<"
  | '<' :: '&' :: rest => setRest rest; return "<&"
  | '<' :: '>' :: rest => setRest rest; return "<>"
  | '<' :: rest => setRest rest; return "<"
  | '>' :: '>' :: rest => setRest rest; return ">>"
  | '>' :: '&' :: rest => setRest rest; return ">&"
  | '>' :: '|' :: rest => setRest rest; return ">"
  | _ => take; return ">"

def pushBack (t : Token) : Parser Unit := modify fun s => { s with pushed := some t }

def endsList : Token → Bool
  | .endOfFile => true
  | .operator t => t == ")" || t == ";;"
  | .reserved t => ["do", "done", "elif", "else", "esac", "fi", "then", "\x7d"].contains t
  | _ => false

def assignment? : Word → Option (String × Word)
  | .text cs false :: rest =>
    let name := cs.takeWhile (· != '=')
    if isName name && (cs.drop name.length).head? = some '=' then
      let value := cs.drop (name.length + 1)
      some (String.ofList name, if value.isEmpty then rest else .text value false :: rest)
    else none
  | _ => none

mutual

def parts : Nat → Stop → List Part → Parser (List Part)
  | 0, _, acc => return acc
  | fuel + 1, stop, acc => do
    let quoted := stop.quotes
    match (← get).rest with
    | [] =>
      match stop with
      | .word | .document => return acc
      | .doubleQuote => fail "Syntax error: Unterminated quoted string"
      | .brace true => fail "Syntax error: Unterminated quoted string"
      | .brace false => fail "Syntax error: Missing '\x7d'"
      | .arithmetic _ => fail "Syntax error: Missing '))'"
    | c :: rest =>
      if stop == .word && endsWord c then return acc
      else if stop == .doubleQuote && c == '\x22' then
        take
        return acc
      else if c == '\x7d' && (stop == .brace true || stop == .brace false) then
        take
        return acc
      else if c == '\\' then
        match rest with
        | [] =>
          take
          parts fuel stop (addText acc [c] true)
        | d :: _ =>
          take
          take
          if d == '\n' then parts fuel stop acc
          else if !quoted then parts fuel stop (addText acc [d] true)
          else if "$\x60\\".toList.contains d || (d == '\x22' && stop != .document)
              || (d == '\x7d' && stop == .brace true) then
            parts fuel stop (addText acc [d] true)
          else parts fuel stop (addText acc ['\\', d] true)
      else if c == '\x27' && !quoted then
        take
        let s ← get
        let inside := s.rest.takeWhile (· != '\x27')
        modify fun s => { s with line := s.line + inside.count '\n' }
        match s.rest.dropWhile (· != '\x27') with
        | [] => fail "Syntax error: Unterminated quoted string"
        | _ :: after =>
          setRest after
          parts fuel stop (addText acc inside true)
      else if c == '\x22' && (!quoted || stop == .brace true) then
        take
        let inside ← parts fuel .doubleQuote [.text [] true]
        parts fuel stop (inside ++ acc)
      else if c == '\x60' then
        take
        let s ← get
        let text ← backQuoted quoted (s.rest.length + 1) []
        let body ← nested fuel text s.line
        parts fuel stop (.output body quoted :: acc)
      else if c == '$' then
        take
        parts fuel stop (← dollar fuel quoted acc)
      else
        match stop with
        | .arithmetic depth =>
          take
          if c == '(' then parts fuel (.arithmetic (depth + 1)) (addText acc [c] true)
          else if c == ')' then
            match depth with
            | 0 =>
              if (← peek) == some ')' then
                take
                return acc
              else fail "Syntax error: Missing '))'"
            | depth + 1 => parts fuel (.arithmetic depth) (addText acc [c] true)
          else parts fuel stop (addText acc [c] true)
        | _ =>
          take
          let more ← takeWhile isOrdinary
          parts fuel stop (addText acc (c :: more) quoted)

def dollar : Nat → Bool → List Part → Parser (List Part)
  | 0, _, acc => return acc
  | fuel + 1, quoted, acc => do
    match (← get).rest with
    | '(' :: '(' :: rest =>
      setRest rest
      let inside ← parts fuel (.arithmetic 0) []
      return .arithmetic inside.reverse quoted :: acc
    | '(' :: rest =>
      setRest rest
      let saved := (← get).pushed
      modify fun s => { s with pushed := none }
      let body ← list fuel false true
      match ← token fuel false true with
      | .operator ")" =>
        modify fun s => { s with pushed := saved }
        return .output body quoted :: acc
      | t => expecting t (.operator ")")
    | '\x7b' :: rest =>
      setRest rest
      return (← braces fuel quoted) :: acc
    | c :: rest =>
      if isNameStart c then
        let name ← takeWhile isNameChar
        return .parameter (String.ofList name) .none quoted :: acc
      else if c.isDigit || isSpecial c then
        setRest rest
        return .parameter (String.ofList [c]) .none quoted :: acc
      else return addText acc ['$'] quoted
    | [] => return addText acc ['$'] quoted

def braces : Nat → Bool → Parser Part
  | 0, _ => fail "Syntax error: Missing '\x7d'"
  | fuel + 1, quoted => do
    let rest := (← get).rest
    let isLength := rest.head? == some '#' &&
      rest.tail.head?.any fun c => isNameChar c || (isSpecial c && rest[2]? == some '\x7d')
    if isLength then take
    let name ← match (← get).rest with
      | c :: rest =>
        if isNameStart c then takeWhile isNameChar
        else if c.isDigit then takeWhile Char.isDigit
        else if isSpecial c then do
          setRest rest
          pure [c]
        else pure []
      | [] => pure []
    let open_ := if quoted then "Syntax error: Unterminated quoted string"
      else "Syntax error: Missing '\x7d'"
    if name.isEmpty then
      if (← get).rest.isEmpty then fail open_
      else fail "Bad substitution"
    let name := String.ofList name
    if isLength then
      if (← peek) == some '\x7d' then
        take
        return .parameter name .length quoted
      else fail "Bad substitution"
    if (← peek) == some '\x7d' then
      take
      return .parameter name .none quoted
    match ← changeHead with
    | some (kind, flag) =>
      let trims := kind == '%' || kind == '#'
      let inside ← parts fuel (.brace (quoted && !trims)) []
      let change : Change :=
        if trims then .trim kind flag inside.reverse else .fallback kind flag inside.reverse
      return .parameter name change quoted
    | none =>
      if (← get).rest.isEmpty then fail open_
      else fail "Bad substitution"

def nested : Nat → List Char → Nat → Parser Command
  | 0, _, _ => return .nothing
  | fuel + 1, text, line => do
    let saved ← get
    set { Source.ofText text line with hereCount := saved.hereCount }
    let body ← list fuel false true
    match ← token fuel false true with
    | .endOfFile =>
      modify fun s => { saved with bodies := s.bodies ++ saved.bodies, hereCount := s.hereCount }
      return body
    | t => unexpected t

def token : Nat → (newlines keywords : Bool) → Parser Token
  | 0, _, _ => return .endOfFile
  | fuel + 1, newlines, keywords => do
    let s ← get
    let t ← match s.pushed with
      | some t => do
        set { s with pushed := none }
        pure t
      | none => do
        match ← operator? (s.rest.length + 1) with
        | some t =>
          match t with
          | .newline => hereDocuments fuel
          | _ => pure ()
          pure t
        | none =>
          let found := (← parts fuel .word []).reverse
          match (← get).rest with
          | c :: _ =>
            if c == '<' || c == '>' then
              match found with
              | [] => pure (.redirect none (← redirectOperator))
              | [.text [d] false] =>
                if d.isDigit then pure (.redirect (some (d.toNat - '0'.toNat)) (← redirectOperator))
                else pure (.word found)
              | _ => pure (.word found)
            else pure (.word found)
          | [] => pure (.word found)
    match t with
    | .newline => if newlines then token fuel newlines keywords else return t
    | .word [.text cs false] =>
      let text := String.ofList cs
      if keywords && reservedWords.contains text then return .reserved text else return t
    | _ => return t

def hereDocuments : Nat → Parser Unit
  | 0 => return
  | fuel + 1 => do
    match (← get).pending with
    | [] => return
    | h :: more =>
      modify fun s => { s with pending := more }
      let line := (← get).line
      let text ← hereLines h ((← get).rest.length + 1) []
      let word ←
        if h.expands then do
          let s ← get
          set { Source.ofText text line with hereCount := s.hereCount }
          let inside ← parts fuel .document []
          set s
          pure inside.reverse
        else pure [.text text true]
      modify fun s => { s with bodies := (h.number, word) :: s.bodies }
      hereDocuments fuel

def redirection : Nat → Option Nat → String → Parser Redirection
  | 0, _, _ => fail "Syntax error: redirection unexpected"
  | fuel + 1, fd, op => do
    let input := op.toList.head? == some '<'
    let fd := fd.getD (if input then 0 else 1)
    match ← token fuel false false with
    | .word w =>
      match op with
      | "<<" | "<<-" =>
        let s ← get
        let h : PendingHere :=
          ⟨s.hereCount, (plainText? w).getD [], !w.any Part.isQuotedText, op == "<<-"⟩
        set { s with hereCount := s.hereCount + 1, pending := s.pending ++ [h] }
        return .here fd h.number
      | "<&" | ">&" => return .duplicate fd w
      | "<" => return .file fd .read w
      | "<>" => return .file fd .readWrite w
      | ">>" => return .file fd .append w
      | _ => return .file fd .write w
    | t => unexpected t

/-- Commands up to a token that cannot go on: at the top a line end, inside a construct one of its
words. `mayBeEmpty` lets such a word come at once. -/
def list : Nat → (top mayBeEmpty : Bool) → Parser Command
  | 0, _, _ => return .nothing
  | fuel + 1, top, mayBeEmpty => do
    match ← token fuel (!top) true with
    | .newline => return .nothing
    | .endOfFile =>
      pushBack .endOfFile
      return .nothing
    | t =>
      pushBack t
      if mayBeEmpty && !top && endsList t then return .nothing
      let first ← andOr fuel
      let (first, sep) ← match ← token fuel false false with
        | .operator "&" => pure (Command.background first, Token.operator "&")
        | t => pure (first, t)
      match sep with
      | .endOfFile =>
        hereDocuments fuel
        pushBack .endOfFile
        return first
      | .newline | .operator "&" | .operator ";" =>
        match sep with
        | .newline => pushBack .newline
        | _ => pure ()
        match ← list fuel top true with
        | .nothing => return first
        | rest => return .sequence first rest
      | t =>
        if top then unexpected t
        pushBack t
        return first

def andOr : Nat → Parser Command
  | 0 => return .nothing
  | fuel + 1 => do
    andOrFrom fuel (← pipeline fuel false)

def andOrFrom : Nat → Command → Parser Command
  | 0, first => return first
  | fuel + 1, first => do
    match ← token fuel false false with
    | .operator "&&" => andOrFrom fuel (.both first (← pipeline fuel true))
    | .operator "||" => andOrFrom fuel (.either first (← pipeline fuel true))
    | t =>
      pushBack t
      return first

def pipeline : Nat → Bool → Parser Command
  | 0, _ => return .nothing
  | fuel + 1, newlines => do
    match ← token fuel newlines true with
    | .reserved "!" => return .negated (← piped fuel)
    | t =>
      pushBack t
      piped fuel

def piped : Nat → Parser Command
  | 0 => return .nothing
  | fuel + 1 => do
    let first ← command fuel false
    match ← pipes fuel with
    | [] => return first
    | more => return .pipeline (first :: more)

def pipes : Nat → Parser (List Command)
  | 0 => return []
  | fuel + 1 => do
    match ← token fuel false false with
    | .operator "|" =>
      let c ← command fuel true
      return c :: (← pipes fuel)
    | t =>
      pushBack t
      return []

def require : Nat → Token → Parser Unit
  | 0, _ => return
  | fuel + 1, wanted => do
    let t ← token fuel true true
    match t, wanted with
    | .reserved a, .reserved b => if a == b then return else expecting t wanted
    | .operator a, .operator b => if a == b then return else expecting t wanted
    | _, _ => expecting t wanted

def command : Nat → Bool → Parser Command
  | 0, _ => return .nothing
  | fuel + 1, newlines => do
    let line := (← get).line
    match ← token fuel newlines true with
    | .reserved "if" =>
      let c ← branches fuel
      require fuel (.reserved "fi")
      trailing fuel line c
    | .reserved "while" =>
      let test ← list fuel false false
      require fuel (.reserved "do")
      let body ← list fuel false false
      require fuel (.reserved "done")
      trailing fuel line (.loop false test body)
    | .reserved "until" =>
      let test ← list fuel false false
      require fuel (.reserved "do")
      let body ← list fuel false false
      require fuel (.reserved "done")
      trailing fuel line (.loop true test body)
    | .reserved "for" =>
      let name ← match ← token fuel false false with
        | .word [.text cs false] =>
          if isName cs then pure (String.ofList cs)
          else fail "Syntax error: Bad for loop variable"
        | _ => fail "Syntax error: Bad for loop variable"
      let words ← match ← token fuel true true with
        | .reserved "in" => do
          let ws ← words fuel
          match ← token fuel false false with
          | .newline | .operator ";" => pure (some ws)
          | t => unexpected t
        | .operator ";" => pure none
        | t => do
          pushBack t
          pure none
      require fuel (.reserved "do")
      let body ← list fuel false false
      require fuel (.reserved "done")
      trailing fuel line (.each line name words body)
    | .reserved "case" =>
      let word ← match ← token fuel false false with
        | .word w => pure w
        | t => expecting t (.word [])
      require fuel (.reserved "in")
      let arms ← arms fuel
      trailing fuel line (.choose line word arms)
    | .operator "(" =>
      let body ← list fuel false false
      require fuel (.operator ")")
      trailing fuel line (.subshell body)
    | .reserved "\x7b" =>
      let body ← list fuel false false
      require fuel (.reserved "\x7d")
      trailing fuel line body
    | .word w =>
      pushBack (.word w)
      simple fuel (← get).line [] [] []
    | .redirect fd op =>
      pushBack (.redirect fd op)
      simple fuel (← get).line [] [] []
    | t => unexpected t

def branches : Nat → Parser Command
  | 0 => return .nothing
  | fuel + 1 => do
    let test ← list fuel false false
    require fuel (.reserved "then")
    let yes ← list fuel false false
    match ← token fuel true true with
    | .reserved "elif" => return .branch test yes (← branches fuel)
    | .reserved "else" => return .branch test yes (← list fuel false false)
    | t =>
      pushBack t
      return .branch test yes .nothing

def words : Nat → Parser (List Word)
  | 0 => return []
  | fuel + 1 => do
    match ← token fuel false false with
    | .word w => return w :: (← words fuel)
    | t =>
      pushBack t
      return []

def arms : Nat → Parser (List (List Word × Command))
  | 0 => return []
  | fuel + 1 => do
    match ← token fuel true true with
    | .reserved "esac" => return []
    | t =>
      let first ← match t with
        | .operator "(" => token fuel false false
        | t => pure t
      let patterns ← patterns fuel first
      let body ← list fuel false true
      match ← token fuel true true with
      | .reserved "esac" => return [(patterns, body)]
      | .operator ";;" => return (patterns, body) :: (← arms fuel)
      | t => expecting t (.operator ";;")

def patterns : Nat → Token → Parser (List Word)
  | 0, _ => return []
  | fuel + 1, first => do
    let word ← match first with
      | .word w => pure w
      | .reserved r => pure [.text r.toList false]
      | .endOfFile => expecting .endOfFile (.operator ")")
      | _ => pure []
    match ← token fuel false false with
    | .operator "|" =>
      let next ← token fuel false false
      return word :: (← patterns fuel next)
    | .operator ")" => return [word]
    | t => expecting t (.operator ")")

def trailing : Nat → Nat → Command → Parser Command
  | 0, _, c => return c
  | fuel + 1, line, c => do
    match ← redirections fuel with
    | [] => return c
    | rs => return .redirected line c rs

def redirections : Nat → Parser (List Redirection)
  | 0 => return []
  | fuel + 1 => do
    match ← token fuel false true with
    | .redirect fd op =>
      let r ← redirection fuel fd op
      return r :: (← redirections fuel)
    | t =>
      pushBack t
      return []

def simple : Nat → Nat → List (String × Word) → List Word → List Redirection → Parser Command
  | 0, line, assignments, ws, rs => return .simple line assignments.reverse ws.reverse rs.reverse
  | fuel + 1, line, assignments, ws, rs => do
    match ← token fuel false false with
    | .word w =>
      match (if ws.isEmpty then assignment? w else none) with
      | some a => simple fuel line (a :: assignments) ws rs
      | none => simple fuel line assignments (w :: ws) rs
    | .redirect fd op =>
      let r ← redirection fuel fd op
      simple fuel line assignments ws (r :: rs)
    | .operator "(" =>
      match ws, assignments, rs with
      | [w], [], [] =>
        match ← token fuel false false with
        | .operator ")" =>
          match plainText? w with
          | some cs =>
            if isName cs then
              return .define (String.ofList cs) (← command fuel true)
            else fail "Syntax error: Bad function name"
          | none => fail "Syntax error: Bad function name"
        | t => expecting t (.operator ")")
      | _, _, _ =>
        pushBack (.operator "(")
        return .simple line assignments.reverse ws.reverse rs.reverse
    | t =>
      pushBack t
      return .simple line assignments.reverse ws.reverse rs.reverse

end

end Parser

def readCommand (s : Source) : Except SyntaxError (Option Command × Source) :=
  if s.rest.isEmpty then .ok (none, s)
  else
    match Parser.list (40 * (s.rest.length + 4)) true false { s with pushed := none } with
    | .ok (c, s) => .ok (some c, s)
    | .error e => .error e

end ScriptBench.Shell
