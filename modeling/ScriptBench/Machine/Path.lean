namespace ScriptBench.Machine

def isAbsolute (path : String) : Bool := path.toList.head? == some '/'

def joinPath (base path : String) : String :=
  if isAbsolute path then path
  else if base.isEmpty || base.toList.getLast? = some '/' then base ++ path
  else base ++ "/" ++ path

def piecesOf : List Char → List Char × List (List Char)
  | [] => ([], [])
  | c :: cs =>
    let (piece, more) := piecesOf cs
    if c = '/' then ([], piece :: more) else (c :: piece, more)

def pieces (path : String) : List String :=
  let (piece, more) := piecesOf path.toList
  (piece :: more).map String.ofList

def components (path : String) : List String := (pieces path).filter fun p => !p.isEmpty

end ScriptBench.Machine
