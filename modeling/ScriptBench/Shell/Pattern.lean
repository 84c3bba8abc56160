namespace ScriptBench.Shell

abbrev Quotable := Char × Bool

inductive PatternPart where
  | one (c : Char)
  | any
  | many
  | set (negated : Bool) (ranges : List (Char × Char))
deriving DecidableEq, Repr

def namedClass : String → List (Char × Char)
  | "alpha" => [('a', 'z'), ('A', 'Z')]
  | "digit" => [('0', '9')]
  | "alnum" => [('a', 'z'), ('A', 'Z'), ('0', '9')]
  | "upper" => [('A', 'Z')]
  | "lower" => [('a', 'z')]
  | "space" => [('\t', '\r'), (' ', ' ')]
  | "blank" => [('\t', '\t'), (' ', ' ')]
  | "punct" => [('!', '/'), (':', '@'), ('[', '\x60'), ('\x7b', '~')]
  | "xdigit" => [('a', 'f'), ('A', 'F'), ('0', '9')]
  | "cntrl" => [('\x00', '\x1f'), ('\x7f', '\x7f')]
  | "print" => [(' ', '~')]
  | "graph" => [('!', '~')]
  | _ => []

def setRanges : Nat → Bool → List Quotable → Option (List (Char × Char) × List Quotable)
  | 0, _, _ => none
  | _ + 1, _, [] => none
  | n + 1, first, (c, quoted) :: rest =>
    if c == ']' && !quoted && !first then some ([], rest)
    else if c == '[' && !quoted && rest.head? == some (':', false) then
      let word := (rest.tail.map Prod.fst).takeWhile (· != ':')
      match rest.drop (1 + word.length) with
      | (':', _) :: (']', _) :: after =>
        (setRanges n false after).map fun (more, rest) =>
          (namedClass (String.ofList word) ++ more, rest)
      | _ => (setRanges n false rest).map fun (more, rest) => ((c, c) :: more, rest)
    else
      match rest with
      | ('-', false) :: (d, dQuoted) :: after =>
        if d == ']' && !dQuoted then
          (setRanges n false rest).map fun (more, rest) => ((c, c) :: more, rest)
        else (setRanges n false after).map fun (more, rest) => ((c, d) :: more, rest)
      | _ => (setRanges n false rest).map fun (more, rest) => ((c, c) :: more, rest)

def patternFrom : Nat → List Quotable → List PatternPart
  | 0, _ => []
  | _ + 1, [] => []
  | n + 1, (c, quoted) :: rest =>
    if quoted then .one c :: patternFrom n rest
    else if c == '*' then .many :: patternFrom n rest
    else if c == '?' then .any :: patternFrom n rest
    else if c == '[' then
      let negated := rest.head? == some ('!', false) || rest.head? == some ('^', false)
      match setRanges (rest.length + 1) true (if negated then rest.tail else rest) with
      | some (ranges, after) => .set negated ranges :: patternFrom n after
      | none => .one c :: patternFrom n rest
    else .one c :: patternFrom n rest

def pattern (cs : List Quotable) : List PatternPart := patternFrom cs.length cs

def suffixes : List Char → List (List Char)
  | [] => [[]]
  | c :: cs => (c :: cs) :: suffixes cs

def PatternPart.admits (c : Char) : PatternPart → Bool
  | .one d => c == d
  | .any | .many => true
  | .set negated ranges => (ranges.any fun (low, high) => low ≤ c && c ≤ high) != negated

def matchesPattern : List PatternPart → List Char → Bool
  | [], cs => cs.isEmpty
  | .many :: ps, cs => (suffixes cs).any (matchesPattern ps)
  | _ :: _, [] => false
  | p :: ps, c :: cs => p.admits c && matchesPattern ps cs

def trimMatch (fromBack longest : Bool) (p : List PatternPart) (cs : List Char) : List Char :=
  let lengths := List.range (cs.length + 1)
  if fromBack then
    let starts := if longest then lengths else lengths.reverse
    match starts.find? fun n => matchesPattern p (cs.drop n) with
    | some n => cs.take n
    | none => cs
  else
    let stops := if longest then lengths.reverse else lengths
    match stops.find? fun n => matchesPattern p (cs.take n) with
    | some n => cs.drop n
    | none => cs

def hasWildcard (cs : List Quotable) : Bool :=
  cs.any fun (c, quoted) => !quoted && "*?[".toList.contains c

end ScriptBench.Shell
