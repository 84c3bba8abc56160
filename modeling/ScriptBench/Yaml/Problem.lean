namespace ScriptBench.Yaml

inductive Problem where
  | forbiddenCharacter
  | unknownToken
  | misplacedIndicator
  | missingColon
  | badDirective
  | badName
  | badTag
  | badEscape
  | unclosedQuote
  | misplacedTab
  | badIndentation
  | missingNode
  | unclosedCollection
  | unknownAnchor
  | extraDocument
  | wrongKind
  | repeatedKey
deriving DecidableEq, Repr

def Problem.message : Problem → String
  | .forbiddenCharacter => "control characters are not allowed"
  | .unknownToken => "no token starts with this character"
  | .misplacedIndicator => "an indicator is not allowed here"
  | .missingColon => "a key lacks its colon"
  | .badDirective => "a directive cannot be read"
  | .badName => "an anchor or alias has no proper name"
  | .badTag => "a tag cannot be read"
  | .badEscape => "an escape sequence cannot be read"
  | .unclosedQuote => "a quoted scalar does not end"
  | .misplacedTab => "a tab stands where indentation is expected"
  | .badIndentation => "an indentation indicator cannot be zero"
  | .missingNode => "a node is missing"
  | .unclosedCollection => "a collection does not go on as expected"
  | .unknownAnchor => "an alias has no anchor"
  | .extraDocument => "more than one document"
  | .wrongKind => "a node has the wrong kind"
  | .repeatedKey => "a key is given twice"

end ScriptBench.Yaml
