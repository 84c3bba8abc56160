import ScriptBench.Yaml.BlockScalar

/-!
That a scalar was a key is known only at the colon behind it, so the tokens of the key and of the
mapping that it opens are put in front of it then.
-/

namespace ScriptBench.Yaml

inductive Token where
  | version (major minor : Nat)
  | tagHandle (handle expansion : String)
  | documentStart
  | documentEnd
  | blockSequenceStart
  | blockMappingStart
  | blockEnd
  | flowSequenceStart
  | flowSequenceEnd
  | flowMappingStart
  | flowMappingEnd
  | blockEntry
  | flowEntry
  | key
  | value
  | repeated (name : String)
  | anchor (name : String)
  | tag (handle suffix : String)
  | scalar (plain : Bool) (text : String)
deriving DecidableEq, Repr

/-- The start of something that would be a key if a colon followed: its place among the tokens and
in the text. It is `required` to be one if it stands where the keys of a mapping stand. -/
structure KeyStart where
  token : Nat
  index : Nat
  line : Nat
  column : Nat
  required : Bool
deriving DecidableEq, Repr

/-- The scan of a text. `margin` is the number of columns before the parts of the innermost block
collection plus one, 0 outside all of them; `outer` holds those of the collections around it.
`keys` has a possible key for every open flow collection, innermost first, and one for the block
context at its end. -/
structure Scan where
  cursor : Cursor
  tokens : Array Token
  margin : Nat
  outer : List Nat
  keyAllowed : Bool
  keys : List (Option KeyStart)

abbrev Scanning := Except Problem Scan

namespace Scan

def start (text : List Char) : Scan := ⟨.start text, #[], 0, [], true, [none]⟩

def inFlow (s : Scan) : Bool := 1 < s.keys.length

def push (s : Scan) (t : Token) : Scan := { s with tokens := s.tokens.push t }

def insertAt (s : Scan) (place : Nat) (t : Token) : Scan :=
  { s with tokens := (s.tokens.toList.take place ++ t :: s.tokens.toList.drop place).toArray }

/-- Passes spaces, comments and line breaks. A tab does not count as indentation. A byte order mark
at the very start is passed too, and takes up a column. -/
def skipGapFrom (flow : Bool) (keyAllowed : Bool) (comment : Bool) (index line column : Nat) :
    List Char → Bool × Cursor
  | [] => (keyAllowed, ⟨[], index, line, column⟩)
  | c :: cs =>
    if isBreak c then
      if c == '\r' && cs.head? == some '\n' then
        skipGapFrom flow keyAllowed comment (index + 1) line column cs
      else skipGapFrom flow (keyAllowed || !flow) false (index + 1) (line + 1) 0 cs
    else if comment || c == '#' then
      skipGapFrom flow keyAllowed true (index + 1) line (column + 1) cs
    else if c == ' ' || (c == '\t' && (flow || !keyAllowed)) || (c == '\uFEFF' && index == 0) then
      skipGapFrom flow keyAllowed false (index + 1) line (column + 1) cs
    else (keyAllowed, ⟨c :: cs, index, line, column⟩)

def skipGap (s : Scan) : Scan :=
  let c := s.cursor
  let (keyAllowed, c) := skipGapFrom s.inFlow s.keyAllowed false c.index c.line c.column c.rest
  { s with keyAllowed, cursor := c }

/-- A key lies on one line and is at most 1024 characters long. -/
def KeyStart.isStale (k : KeyStart) (c : Cursor) : Bool :=
  k.line < c.line || k.index + 1024 < c.index

def dropStaleKeys (s : Scan) : Scanning :=
  if s.keys.any (·.any fun k => k.required && KeyStart.isStale k s.cursor) then
    .error .missingColon
  else .ok { s with keys := s.keys.map (·.filter fun k => !KeyStart.isStale k s.cursor) }

def dropKey (s : Scan) : Scanning :=
  match s.keys with
  | some k :: rest =>
    if k.required then .error .missingColon else .ok { s with keys := none :: rest }
  | _ => .ok s

def noteKey (s : Scan) : Scanning :=
  if s.keyAllowed then do
    let required := !s.inFlow && s.margin == s.cursor.column + 1
    let k : KeyStart :=
      ⟨s.tokens.size, s.cursor.index, s.cursor.line, s.cursor.column, required⟩
    let s ← s.dropKey
    .ok { s with keys := some k :: s.keys.tail }
  else .ok s

def closeBlocksFrom (limit : Nat) : List Nat → Nat → Array Token → Nat × List Nat × Array Token
  | [], margin, tokens =>
    if limit < margin then (0, [], tokens.push .blockEnd) else (margin, [], tokens)
  | m :: outer, margin, tokens =>
    if limit < margin then closeBlocksFrom limit outer m (tokens.push .blockEnd)
    else (margin, m :: outer, tokens)

def closeBlocks (s : Scan) (limit : Nat) : Scan :=
  if s.inFlow then s
  else
    let (margin, outer, tokens) := closeBlocksFrom limit s.outer s.margin s.tokens
    { s with margin, outer, tokens }

def openBlock (s : Scan) (column : Nat) (place : Nat) (t : Token) : Scan :=
  if s.inFlow || column < s.margin then s
  else { s.insertAt place t with margin := column + 1, outer := s.margin :: s.outer }

def allowKey (s : Scan) (b : Bool) : Scan := { s with keyAllowed := b }

def advance (s : Scan) (n : Nat) : Scan := { s with cursor := s.cursor.skipMany n }

def documentMarker (s : Scan) (t : Token) : Scanning := do
  let s ← (s.closeBlocks 0).dropKey
  .ok (((s.allowKey false).advance 3).push t)

def flowStart (s : Scan) (t : Token) : Scanning := do
  let s ← s.noteKey
  .ok ({ (s.allowKey true).advance 1 with keys := none :: s.keys }.push t)

def flowEnd (s : Scan) (t : Token) : Scanning := do
  let s ← s.dropKey
  let keys := if s.inFlow then s.keys.tail else s.keys
  .ok ({ (s.allowKey false).advance 1 with keys }.push t)

def flowEntry (s : Scan) : Scanning := do
  let s ← s.dropKey
  .ok (((s.allowKey true).advance 1).push .flowEntry)

def blockEntry (s : Scan) : Scanning :=
  if !s.inFlow && !s.keyAllowed then .error .misplacedIndicator
  else do
    let s := s.openBlock s.cursor.column s.tokens.size .blockSequenceStart
    let s ← s.dropKey
    .ok (((s.allowKey true).advance 1).push .blockEntry)

def explicitKey (s : Scan) : Scanning :=
  if !s.inFlow && !s.keyAllowed then .error .misplacedIndicator
  else do
    let s := s.openBlock s.cursor.column s.tokens.size .blockMappingStart
    let s ← s.dropKey
    .ok (((s.allowKey (!s.inFlow)).advance 1).push .key)

def colon (s : Scan) : Scanning :=
  match s.keys with
  | some k :: rest =>
    let s := (s.insertAt k.token .key).openBlock k.column k.token .blockMappingStart
    .ok (({ s with keys := none :: rest, keyAllowed := false }.advance 1).push .value)
  | _ =>
    if !s.inFlow && !s.keyAllowed then .error .misplacedIndicator
    else
      let s := s.openBlock s.cursor.column s.tokens.size .blockMappingStart
      .ok (((s.allowKey (!s.inFlow)).advance 1).push .value)

def endsName : List Char → Bool
  | [] => true
  | c :: _ => isSpace c || isBreak c || "?:,]\x7d%@\x60".toList.contains c

def name (s : Scan) (make : String → Token) : Scanning := do
  let s ← s.noteKey
  let (n, c) := s.cursor.skip.span isNameChar
  if n.isEmpty || !endsName c.rest then .error .badName
  else .ok ({ s.allowKey false with cursor := c }.push (make (String.ofList n)))

def scanned (s : Scan) (plain keyAllowed : Bool) (x : Scanned) : Scan :=
  { s with cursor := x.cursor, keyAllowed }.push (.scalar plain x.text)

def plain (s : Scan) : Scanning := do
  let s ← s.noteKey
  let x ← plainScalar s.inFlow s.margin s.cursor
  .ok (s.scanned true x.brokeLine x)

def quoted (s : Scan) (single : Bool) : Scanning := do
  let s ← s.noteKey
  let x ← quotedScalar single s.cursor
  .ok (s.scanned false false x)

def block (s : Scan) (folded : Bool) : Scanning := do
  let s ← s.dropKey
  let x ← blockScalar folded s.margin s.cursor
  .ok (s.scanned false true x)

def isTagChar (listed : Bool) (c : Char) : Bool :=
  isNameChar c || ";/?:@&=+$.%!~*\x27()".toList.contains c || (listed && ",[]".toList.contains c)

def tagEscapesOk (owed : Nat) : List Char → Bool
  | '%' :: a :: b :: rest =>
    match hexNumber? [a, b] with
    | none => false
    | some n =>
      if owed = 0 then
        if n < 0x80 then tagEscapesOk 0 rest
        else if n < 0xc0 then false
        else if n < 0xe0 then tagEscapesOk 1 rest
        else if n < 0xf0 then tagEscapesOk 2 rest
        else if n < 0xf8 then tagEscapesOk 3 rest
        else false
      else if 0x80 ≤ n ∧ n < 0xc0 then tagEscapesOk (owed - 1) rest else false
  | ['%', _] | ['%'] => false
  | [] => owed == 0
  | _ :: rest => owed == 0 && tagEscapesOk 0 rest

def tagChars (listed : Bool) (c : Cursor) : Except Problem (String × Cursor) :=
  let (text, c) := c.span (isTagChar listed)
  if tagEscapesOk 0 text then .ok (String.ofList text, c) else .error .badTag

def handle (c : Cursor) : String × Cursor :=
  let (n, c) := c.skip.span isNameChar
  if c.rest.head? = some '!' then (String.ofList ('!' :: n ++ ['!']), c.skip)
  else (String.ofList ('!' :: n), c)

def endTag (s : Scan) (handle suffix : String) (c : Cursor) : Scanning :=
  if isGapAt c.rest || (s.inFlow && c.rest.head? = some ',') then
    .ok ({ s.allowKey false with cursor := c }.push (.tag handle suffix))
  else .error .badTag

def tag (s : Scan) : Scanning := do
  let s ← s.noteKey
  if s.cursor.rest[1]? = some '<' then
    let (suffix, c) ← tagChars true (s.cursor.skipMany 2)
    if suffix.isEmpty || c.rest.head? ≠ some '>' then .error .badTag
    else s.endTag "" suffix c.skip
  else
    let (front, c) := handle s.cursor
    let (suffix, c) ← tagChars false c
    if front.length ≥ 2 && front.toList.getLast? = some '!' then
      if suffix.isEmpty then .error .badTag else s.endTag front suffix c
    else
      let suffix := String.ofList front.toList.tail ++ suffix
      if suffix.isEmpty then s.endTag "" "!" c else s.endTag "!" suffix c

def digits? (c : Cursor) : Option (Nat × Cursor) :=
  let (ds, c) := c.span Char.isDigit
  if ds.isEmpty || 9 < ds.length then none
  else some (ds.foldl (fun n d => 10 * n + (d.toNat - '0'.toNat)) 0, c)

def versionDirective? (c : Cursor) : Option (Token × Cursor) := do
  let (major, c) ← digits? c.skipSpaces
  if c.rest.head? ≠ some '.' then none
  else
    let (minor, c) ← digits? c.skip
    some (.version major minor, c)

def tagDirective? (c : Cursor) : Option (Token × Cursor) := do
  let c := c.skipSpaces
  if c.rest.head? ≠ some '!' then none
  else
    let (front, c) := handle c
    if front ≠ "!" && front.toList.getLast? ≠ some '!' then none
    else if !c.rest.head?.any isSpace then none
    else
      let (expansion, c) ← (tagChars true c.skipSpaces).toOption
      if expansion.isEmpty || !isGapAt c.rest then none else some (.tagHandle front expansion, c)

def directive (s : Scan) : Scanning := do
  let s ← (s.closeBlocks 0).dropKey
  let (n, c) := s.cursor.skip.span isNameChar
  let read : Option (Token × Cursor) :=
    if !isGapAt c.rest then none
    else if String.ofList n = "YAML" then versionDirective? c
    else if String.ofList n = "TAG" then tagDirective? c
    else none
  match read.bind fun (t, c) => c.endLine?.map (t, ·) with
  | none => .error .badDirective
  | some (t, c) => .ok ({ s.allowKey false with cursor := c }.push t)

def startsPlain (flow : Bool) (c : Char) (cs : List Char) : Bool :=
  !(isSpace c || "-?:,[]\x7b\x7d#&*!|>\x27\x22%@\x60".toList.contains c) ||
    (c == '-' && !cs.head?.any isSpace) || (!flow && (c == '?' || c == ':') && !isGapAt cs)

def token (s : Scan) (c : Char) (cs : List Char) : Scanning :=
  if c == '%' && s.cursor.column == 0 then s.directive
  else if s.cursor.atMarker '-' then s.documentMarker .documentStart
  else if s.cursor.atMarker '.' then s.documentMarker .documentEnd
  else if c == '[' then s.flowStart .flowSequenceStart
  else if c == '\x7b' then s.flowStart .flowMappingStart
  else if c == ']' then s.flowEnd .flowSequenceEnd
  else if c == '\x7d' then s.flowEnd .flowMappingEnd
  else if c == ',' then s.flowEntry
  else if c == '-' && isGapAt cs then s.blockEntry
  else if c == '?' && (s.inFlow || isGapAt cs) then s.explicitKey
  else if c == ':' && (s.inFlow || isGapAt cs) then s.colon
  else if c == '*' then s.name .repeated
  else if c == '&' then s.name .anchor
  else if c == '!' then s.tag
  else if c == '|' && !s.inFlow then s.block false
  else if c == '>' && !s.inFlow then s.block true
  else if c == singleQuote then s.quoted true
  else if c == doubleQuote then s.quoted false
  else if startsPlain s.inFlow c cs then s.plain
  else .error .unknownToken

def run : Nat → Scan → Except Problem (List Token)
  | 0, _ => .error .unknownToken
  | fuel + 1, s => do
    let s ← s.skipGap.dropStaleKeys
    let s := s.closeBlocks (s.cursor.column + 1)
    match s.cursor.rest with
    | [] =>
      let s ← (s.closeBlocks 0).dropKey
      .ok s.tokens.toList
    | c :: cs => run fuel (← s.token c cs)

end Scan

def isAllowed (c : Char) : Bool :=
  let n := c.toNat
  n == 0x9 || n == 0xa || n == 0xd || (0x20 ≤ n && n ≤ 0x7e) || n == 0x85 ||
    (0xa0 ≤ n && n ≤ 0xfffd) || 0x10000 ≤ n

def tokens (text : String) : Except Problem (List Token) :=
  let cs := text.toList
  if cs.all isAllowed then Scan.run (cs.length + 1) (.start cs) else .error .forbiddenCharacter

end ScriptBench.Yaml
