import ScriptBench.Shell.Pattern
import ScriptBench.Shell.Printing
import ScriptBench.Shell.State

namespace ScriptBench.Shell

inductive Glyph where
  | char (c : Char) (quoted splits : Bool)
  /-- Holds a field open that may have no characters. -/
  | keep
  /-- Parts the members of the list of all parameters. -/
  | fieldEnd
deriving DecidableEq, Repr

def glyphs (cs : List Char) (quoted splits : Bool) : List Glyph :=
  (if quoted then [.keep] else []) ++ cs.map (.char · quoted (splits && !quoted))

def Glyph.quotable? : Glyph → Option Quotable
  | .char c quoted _ => some (c, quoted)
  | .keep => none
  | .fieldEnd => some (' ', true)

def quotables (gs : List Glyph) : List Quotable := gs.filterMap Glyph.quotable?

def plainChars (gs : List Glyph) : List Char := (quotables gs).map Prod.fst

def asQuoted : Glyph → Glyph
  | .char c _ _ => .char c true false
  | g => g

def isSpaceSeparator (c : Char) : Bool := c == ' ' || c == '\t' || c == '\n'

structure Splitting where
  current : Option (List Quotable)
  afterSpace : Bool
  fields : List (List Quotable)

namespace Splitting

def close (s : Splitting) : Splitting :=
  match s.current with
  | some f => ⟨none, false, f.reverse :: s.fields⟩
  | none => { s with afterSpace := false }

def take (separators : List Char) (s : Splitting) : Glyph → Splitting
  | .keep => { s with current := some (s.current.getD []), afterSpace := false }
  | .fieldEnd => s.close
  | .char c quoted splits =>
    if splits && separators.contains c then
      if isSpaceSeparator c then
        if s.current.isSome then { s.close with afterSpace := true } else s
      else if s.current.isSome then s.close
      else if s.afterSpace then { s with afterSpace := false }
      else { s with fields := [] :: s.fields }
    else { s with current := some ((c, quoted) :: s.current.getD []), afterSpace := false }

end Splitting

def splitFields (separators : List Char) (gs : List Glyph) : List (List Quotable) :=
  (gs.foldl (Splitting.take separators) ⟨none, false, []⟩).close.fields.reverse

def expandTilde : Word → Run Word
  | .text ('~' :: cs) false :: rest => do
    if (cs.isEmpty && rest.isEmpty) || cs.head? == some '/' then
      match (← variableNamed "HOME").bind (·.value) with
      | some home => return .text home true :: .text cs false :: rest
      | none => return .text ('~' :: cs) false :: rest
    else return .text ('~' :: cs) false :: rest
  | w => return w

def numberOf (s : State) : Arithmetic.Lookup := fun name =>
  match (s.bindings.lookup name).bind (·.value) with
  | none => if s.options.unsetIsError then .error (name ++ ": parameter not set") else .ok 0
  | some cs =>
    let (n, rest) := Arithmetic.signedNumberAt cs
    if (rest.dropWhile Arithmetic.blank).isEmpty then .ok n
    else .error ("Illegal number: " ++ String.ofList cs)

def calculate (cs : List Char) : Run Int := do
  match Arithmetic.evaluate (numberOf (← get)) cs with
  | .ok (n, assigned) => do
    assigned.reverse.forM fun (name, n) => assign name (toString n).toList
    return n
  | .error message =>
    if message.startsWith "Illegal" || message.endsWith "not set" then fail message.toList
    else fail ("arithmetic expression: ".toList ++ message.toList ++ ": \x22".toList ++ cs ++ ['\x22'])

def parameterGlyphs (name : String) (quoted splits : Bool) : Run (Option (List Glyph)) := do
  let params := (← get).params
  match name, params with
  | "@", [] | "*", [] => return none
  | "@", _ =>
    return some ((params.map (glyphs · quoted splits)).intersperse [.fieldEnd]).flatten
  | "*", _ =>
    if quoted || !splits then
      let sep := (← fieldSeparators).take 1
      return some (glyphs (sep.intercalate params) quoted splits)
    else return some ((params.map (glyphs · quoted splits)).intersperse [.fieldEnd]).flatten
  | _, _ => return (← parameter name).map (glyphs · quoted splits)

def checkSet (name : String) : Run Unit := do
  if (← get).options.unsetIsError && name != "@" && name != "*" then
    fail (name.toList ++ ": parameter not set".toList)

variable (capture : Command → Run (List Char))

mutual

def expandPart (splits literalSplits : Bool) : Part → Run (List Glyph)
  | .text cs quoted => return glyphs cs quoted literalSplits
  | .arithmetic expression quoted => do
    let n ← calculate (plainChars (← expandParts false false expression))
    return glyphs (toString n).toList quoted splits
  | .output body quoted => do return glyphs (← capture body) quoted splits
  | .parameter name change quoted => do
    let value ← parameterGlyphs name quoted splits
    expandChange splits name quoted value change

def expandChange (splits : Bool) (name : String) (quoted : Bool) (value : Option (List Glyph)) :
    Change → Run (List Glyph)
  | .none => do
    match value with
    | some gs => return gs
    | none =>
      checkSet name
      return []
  | .length => do
    if value.isNone then checkSet name
    let count := (← get).params.length
    let n := if name == "@" || name == "*" then count
      else (plainChars (value.getD [])).length
    return glyphs (toString n).toList quoted splits
  | .fallback kind colon word => do
    let present := value.isSome && !(colon && (plainChars (value.getD [])).isEmpty)
    match kind with
    | '+' =>
      if present then
        return (← expandParts splits splits word).map (if quoted then asQuoted else id)
      else return []
    | '-' =>
      if present then return value.getD []
      else return (← expandParts splits splits word).map (if quoted then asQuoted else id)
    | '=' =>
      if present then return value.getD []
      else
        let new := plainChars (← expandParts splits splits word)
        assign name new
        return glyphs new quoted splits
    | _ =>
      if present then return value.getD []
      else
        let message := plainChars (← expandParts splits splits word)
        let message := if message.isEmpty then
            (if colon then "parameter not set or null" else "parameter not set").toList
          else message
        fail (name.toList ++ ": ".toList ++ message)
  | .trim kind longest word => do
    if value.isNone then checkSet name
    let p := pattern (quotables (← expandParts false false word))
    return glyphs (trimMatch (kind == '%') longest p (plainChars (value.getD []))) quoted splits

def expandParts (splits literalSplits : Bool) : List Part → Run (List Glyph)
  | [] => return []
  | p :: rest => do
    let front ← expandPart splits literalSplits p
    return front ++ (← expandParts splits literalSplits rest)

end

def namesAllParams : Part → Bool
  | .parameter "@" .none quoted => quoted
  | _ => false

def withoutEmptyList (params : List (List Char)) (w : Word) : Word :=
  if params.isEmpty && w.any namesAllParams then
    w.filter fun | .text [] true => false | _ => true
  else w

def expandText (w : Word) : Run (List Char) := do
  return plainChars (← expandParts capture false false (← expandTilde w))

def expandPattern (w : Word) : Run (List Quotable) := do
  return quotables (← expandParts capture false false (← expandTilde w))

def pathParts : List Quotable → List Quotable × List (List Quotable)
  | [] => ([], [])
  | (c, q) :: rest =>
    let (part, more) := pathParts rest
    if c == '/' then ([], part :: more) else ((c, q) :: part, more)

def insertName (n : List Char) : List (List Char) → List (List Char)
  | [] => [n]
  | m :: rest => if String.ofList n < String.ofList m then n :: m :: rest else m :: insertName n rest

def namesMatching (fs : Machine.Files) (d : Machine.Place) (part : List Quotable) :
    List (List Char) :=
  let p := pattern part
  let names := fs.entries.filterMap fun (place, _) =>
    match place.getLast? with
    | some name =>
      let cs := ofText name
      if place.dropLast == d && matchesPattern p cs &&
          (cs.head? != some '.' || (part.head?.map Prod.fst) == some '.') then some cs
      else none
    | none => none
  names.foldl (fun sorted n => insertName n sorted) []

def pathsMatching (fs : Machine.Files) : List (List Quotable) → List (Machine.Place × List Char) →
    List (List Char)
  | [], found => found.map Prod.snd
  | part :: more, found =>
    let sep := if more.isEmpty then [] else ['/']
    let next := found.flatMap fun (d, text) =>
      if part.isEmpty then [(d, text ++ sep)]
      else if hasWildcard part then
        (namesMatching fs d part).map fun n => (d ++ [String.ofList n], text ++ n ++ sep)
      else
        let n := part.map Prod.fst
        let place := d ++ [String.ofList n]
        if (fs.at? place).isSome then [(place, text ++ n ++ sep)] else []
    pathsMatching fs more next

def expandPaths (field : List Quotable) : Run (List (List Char)) := do
  let s ← get
  let literal := [field.map Prod.fst]
  if s.options.noExpansion || !hasWildcard field then return literal
  let (part, more) := pathParts field
  let start : Machine.Place := if (field.head?.map Prod.fst) == some '/' then [] else s.directory
  match pathsMatching s.files (part :: more) [(start, [])] with
  | [] => return literal
  | paths => return paths

def expandWord (w : Word) : Run (List (List Char)) := do
  let w := withoutEmptyList (← get).params w
  let gs ← expandParts capture true false (← expandTilde w)
  let fields := splitFields (← fieldSeparators) gs
  return (← fields.mapM expandPaths).flatten

def expandWords : List Word → Run (List (List Char))
  | [] => return []
  | w :: rest => do
    let fields ← expandWord capture w
    return fields ++ (← expandWords rest)

end ScriptBench.Shell
