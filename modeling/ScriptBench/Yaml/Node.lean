import ScriptBench.Yaml.Token

/-!
An anchored node gets a slot, numbered by how many names were anchored before; a name anchored again
gets the next free number, which a later name may then take over. An alias stands for the node that
was put into its slot last.
-/

namespace ScriptBench.Yaml

inductive Node where
  | scalar (plain : Bool) (tag : Option String) (text : String)
  | sequence (items : List Node)
  | mapping (entries : List (Node × Node))
  | repeated (slot : Nat)

def Node.nothing : Node := .scalar true none ""

/-- A tree whose aliases are slots; `slots` says which anchored node a slot holds. -/
structure Document where
  root : Node
  slots : List (Nat × Nat)
  anchored : List (Nat × Node)

def Document.resolve (d : Document) : Node → Option Node
  | .repeated slot => (d.slots.lookup slot).bind fun n => d.anchored.lookup n
  | node => some node

/-- The state of reading: the tokens to come, the tag handles of the document, and the anchors so
far: slots by name, the number of the node last put into each slot, and finished nodes by number.
-/
structure Reader where
  tokens : List Token
  handles : List (String × String)
  names : List (String × Nat)
  slots : List (Nat × Nat)
  anchored : List (Nat × Node)
  count : Nat

abbrev Reading (α : Type) := StateT Reader (Except Problem) α

namespace Reading

def fail {α : Type} (p : Problem) : Reading α := fun _ => .error p

def peek : Reading (Option Token) := fun r => .ok (r.tokens.head?, r)

def skip : Reading Unit := fun r => .ok ((), { r with tokens := r.tokens.tail })

def anchor (name : String) : Reading Nat := fun r =>
  let slot := (r.names.map Prod.fst).eraseDups.length
  .ok (r.count, { r with
    names := (name, slot) :: r.names
    slots := (slot, r.count) :: r.slots
    count := r.count + 1 })

def finish (number : Option Nat) (node : Node) : Reading Node := fun r =>
  .ok (node, match number with
    | none => r
    | some n => { r with anchored := (n, node) :: r.anchored })

def repeated (name : String) : Reading Node := do
  match (← get).names.lookup name with
  | some slot => return .repeated slot
  | none => fail .unknownAnchor

def fullTag (handle suffix : String) : Reading String := do
  if handle.isEmpty then return suffix
  match (← get).handles.lookup handle with
  | some expansion => return expansion ++ suffix
  | none => fail .badTag

def properties : Reading (Option String × Option String) := do
  match ← peek with
  | some (.anchor name) =>
    skip
    match ← peek with
    | some (.tag handle suffix) =>
      skip
      return (some name, some (← fullTag handle suffix))
    | _ => return (some name, none)
  | some (.tag handle suffix) =>
    skip
    match ← peek with
    | some (.anchor name) =>
      skip
      return (some name, some (← fullTag handle suffix))
    | _ => return (none, some (← fullTag handle suffix))
  | _ => return (none, none)

def endsEntry : Option Token → Bool
  | some .blockEntry | some .key | some .value | some .blockEnd => true
  | _ => false

def endsBlockPart : Option Token → Bool
  | some .key | some .value | some .blockEnd => true
  | _ => false

def endsBlockItem : Option Token → Bool
  | some .blockEntry | some .blockEnd => true
  | _ => false

def endsFlowPart (close : Token) : Option Token → Bool
  | some .flowEntry => true
  | t => t == some close

mutual

/-- A node. In a block context it may be a block collection, and if `dashes` is set also a
sequence whose dashes stand at the column of the mapping around it. -/
def node : Nat → (block dashes : Bool) → Reading Node
  | 0, _, _ => fail .missingNode
  | fuel + 1, block, dashes => do
    match ← peek with
    | some (.repeated name) =>
      skip
      repeated name
    | _ =>
      let (name, tag) ← properties
      let number ← name.mapM anchor
      match ← peek with
      | some .blockEntry =>
        if dashes then finish number (.sequence (← dashItems fuel))
        else if number.isSome || tag.isSome then finish number (.scalar true tag "")
        else fail .missingNode
      | some (.scalar plain text) =>
        skip
        finish number (.scalar plain (tag.filter (· ≠ "!")) text)
      | some .flowSequenceStart =>
        skip
        finish number (.sequence (← flowItems fuel true))
      | some .flowMappingStart =>
        skip
        finish number (.mapping (← flowEntries fuel true))
      | some .blockSequenceStart =>
        if block then
          skip
          finish number (.sequence (← blockItems fuel))
        else fail .missingNode
      | some .blockMappingStart =>
        if block then
          skip
          finish number (.mapping (← blockEntries fuel))
        else fail .missingNode
      | _ =>
        if number.isSome || tag.isSome then finish number (.scalar true tag "")
        else fail .missingNode

def blockItems : Nat → Reading (List Node)
  | 0 => fail .unclosedCollection
  | fuel + 1 => do
    match ← peek with
    | some .blockEntry =>
      skip
      let item ← if endsBlockItem (← peek) then pure .nothing else node fuel true false
      return item :: (← blockItems fuel)
    | some .blockEnd =>
      skip
      return []
    | _ => fail .unclosedCollection

def dashItems : Nat → Reading (List Node)
  | 0 => fail .unclosedCollection
  | fuel + 1 => do
    match ← peek with
    | some .blockEntry =>
      skip
      let item ← if endsEntry (← peek) then pure .nothing else node fuel true false
      return item :: (← dashItems fuel)
    | _ => return []

def blockEntries : Nat → Reading (List (Node × Node))
  | 0 => fail .unclosedCollection
  | fuel + 1 => do
    match ← peek with
    | some .key =>
      skip
      let key ← if endsBlockPart (← peek) then pure .nothing else node fuel true true
      let value ← match ← peek with
        | some .value =>
          skip
          if endsBlockPart (← peek) then pure .nothing else node fuel true true
        | _ => pure .nothing
      return (key, value) :: (← blockEntries fuel)
    | some .blockEnd =>
      skip
      return []
    | _ => fail .unclosedCollection

/-- The items of a flow sequence through its end. An item may be a single pair; a pair without a
key takes the token after its `?` with it. -/
def flowItems : Nat → Bool → Reading (List Node)
  | 0, _ => fail .unclosedCollection
  | fuel + 1, first => do
    if (← peek) == some .flowSequenceEnd then
      skip
      return []
    if !first then
      if (← peek) == some .flowEntry then skip else fail .unclosedCollection
    match ← peek with
    | some .flowSequenceEnd =>
      skip
      return []
    | some .key =>
      skip
      let next ← peek
      let key ←
        if next == some .value || endsFlowPart .flowSequenceEnd next then
          skip
          pure .nothing
        else node fuel false false
      let value ← match ← peek with
        | some .value =>
          skip
          if endsFlowPart .flowSequenceEnd (← peek) then pure .nothing else node fuel false false
        | _ => pure .nothing
      return .mapping [(key, value)] :: (← flowItems fuel false)
    | _ =>
      let item ← node fuel false false
      return item :: (← flowItems fuel false)

def flowEntries : Nat → Bool → Reading (List (Node × Node))
  | 0, _ => fail .unclosedCollection
  | fuel + 1, first => do
    if (← peek) == some .flowMappingEnd then
      skip
      return []
    if !first then
      if (← peek) == some .flowEntry then skip else fail .unclosedCollection
    match ← peek with
    | some .flowMappingEnd =>
      skip
      return []
    | some .key =>
      skip
      let next ← peek
      let key ←
        if next == some .value || endsFlowPart .flowMappingEnd next then pure .nothing
        else node fuel false false
      let value ← match ← peek with
        | some .value =>
          skip
          if endsFlowPart .flowMappingEnd (← peek) then pure .nothing else node fuel false false
        | _ => pure .nothing
      return (key, value) :: (← flowEntries fuel false)
    | _ =>
      let key ← node fuel false false
      return (key, .nothing) :: (← flowEntries fuel false)

end

def standardHandles : List (String × String) := [("!", "!"), ("!!", "tag:yaml.org,2002:")]

def directives (versioned : Bool) (handles : List (String × String)) :
    List Token → Except Problem (List (String × String) × List Token)
  | .version major minor :: rest =>
    if versioned || major ≠ 1 || (minor ≠ 1 && minor ≠ 2) then .error .badDirective
    else directives true handles rest
  | .tagHandle handle expansion :: rest =>
    if handles.any (·.1 == handle) then .error .badDirective
    else directives versioned (handles ++ [(handle, expansion)]) rest
  | rest => .ok (handles, rest)

def isDirective : Token → Bool
  | .version .. | .tagHandle .. => true
  | _ => false

def opening (tokens : List Token) :
    Except Problem (List (String × String) × List Token × Bool) :=
  match tokens with
  | [] => .ok ([], [], true)
  | t :: _ =>
    if isDirective t || t == .documentStart then do
      let (handles, rest) ← directives false [] tokens
      match rest with
      | .documentStart :: rest => .ok (handles, rest, true)
      | _ => .error .extraDocument
    else .ok ([], tokens, false)

def endsDocument : List Token → Bool
  | [] => true
  | t :: _ => isDirective t || t == .documentStart || t == .documentEnd

end Reading

def Document.parse (text : String) : Except Problem Document := do
  let (handles, rest, mayBeEmpty) ← Reading.opening (← tokens text)
  let reader : Reader := ⟨rest, handles ++ Reading.standardHandles, [], [], [], 0⟩
  let (root, reader) ←
    if mayBeEmpty && Reading.endsDocument rest then .ok (.nothing, reader)
    else (Reading.node (4 * rest.length + 4) true false).run reader
  if (reader.tokens.dropWhile (· == .documentEnd)).isEmpty then
    .ok ⟨root, reader.slots, reader.anchored⟩
  else .error .extraDocument

end ScriptBench.Yaml
