import CodeSurvey.Yaml.Cursor

/-!
# Faults of YAML texts

What is wrong with a text, where, and what was being read at the time.
-/

namespace CodeSurvey.Yaml

inductive Problem where
  | controlCharacter
  -- tokens
  | noToken
  | missingColon
  | sequenceEntryNotAllowed
  | mappingKeyNotAllowed
  | mappingValueNotAllowed
  | unexpectedColon
  | tabViolatesIndentation
  | tabForIndentation
  | zeroIndentation
  | expectedCommentOrBreak
  | unexpectedDocumentMark
  | unexpectedEnd
  | unknownEscape
  | expectedHexadecimal
  | invalidEscapeCode
  | expectedAlphanumeric
  -- tags and directives
  | expectedExclamation
  | expectedAngle
  | expectedSpaceOrBreak
  | expectedSpace
  | expectedUri
  | expectedUriEscape
  | wrongLeadingOctet
  | wrongTrailingOctet
  | unknownDirective
  | missingDirectiveName
  | nonAlphabetical
  | expectedDigitOrDot
  | longVersion
  | missingVersion
  -- structure
  | duplicateVersion
  | incompatibleVersion
  | duplicateTag
  | expectedDocumentStart
  | undefinedTagHandle
  | expectedNodeContent
  | expectedHyphen
  | expectedKey
  | expectedCommaOrBracket
  | expectedCommaOrBrace
deriving DecidableEq, Inhabited

def Problem.message : Problem → String
  | controlCharacter => "control characters are not allowed"
  | noToken => "found character that cannot start any token"
  | missingColon => "could not find expected ':'"
  | sequenceEntryNotAllowed => "block sequence entries are not allowed in this context"
  | mappingKeyNotAllowed => "mapping keys are not allowed in this context"
  | mappingValueNotAllowed => "mapping values are not allowed in this context"
  | unexpectedColon => "found unexpected ':'"
  | tabViolatesIndentation => "found a tab character that violates indentation"
  | tabForIndentation => "found a tab character where an indentation space is expected"
  | zeroIndentation => "found an indentation indicator equal to 0"
  | expectedCommentOrBreak => "did not find expected comment or line break"
  | unexpectedDocumentMark => "found unexpected document indicator"
  | unexpectedEnd => "found unexpected end of stream"
  | unknownEscape => "found unknown escape character"
  | expectedHexadecimal => "did not find expected hexdecimal number"
  | invalidEscapeCode => "found invalid Unicode character escape code"
  | expectedAlphanumeric => "did not find expected alphabetic or numeric character"
  | expectedExclamation => "did not find expected '!'"
  | expectedAngle => "did not find the expected '>'"
  | expectedSpaceOrBreak => "did not find expected whitespace or line break"
  | expectedSpace => "did not find expected whitespace"
  | expectedUri => "did not find expected tag URI"
  | expectedUriEscape => "did not find URI escaped octet"
  | wrongLeadingOctet => "found an incorrect leading UTF-8 octet"
  | wrongTrailingOctet => "found an incorrect trailing UTF-8 octet"
  | unknownDirective => "found unknown directive name"
  | missingDirectiveName => "could not find expected directive name"
  | nonAlphabetical => "found unexpected non-alphabetical character"
  | expectedDigitOrDot => "did not find expected digit or '.' character"
  | longVersion => "found extremely long version number"
  | missingVersion => "did not find expected version number"
  | duplicateVersion => "found duplicate %YAML directive"
  | incompatibleVersion => "found incompatible YAML document"
  | duplicateTag => "found duplicate %TAG directive"
  | expectedDocumentStart => "did not find expected <document start>"
  | undefinedTagHandle => "found undefined tag handle"
  | expectedNodeContent => "did not find expected node content"
  | expectedHyphen => "did not find expected '-' indicator"
  | expectedKey => "did not find expected key"
  | expectedCommaOrBracket => "did not find expected ',' or ']'"
  | expectedCommaOrBrace => "did not find expected ',' or '\x7d'"

inductive Activity where
  | scanToken
  | scanSimpleKey
  | scanPlain
  | scanQuoted
  | parseQuoted
  | scanBlock
  | scanAnchor
  | scanAlias
  | scanTag
  | parseTag
  | scanDirective
  | scanVersion
  | scanTagDirective
  | parseTagDirective
  | parseTagHandle
  | parseNode
  | parseBlockNode
  | parseFlowNode
  | parseBlockCollection
  | parseBlockMapping
  | parseFlowSequence
  | parseFlowMapping
deriving DecidableEq, Inhabited

def Activity.message : Activity → String
  | scanToken => "while scanning for the next token"
  | scanSimpleKey => "while scanning a simple key"
  | scanPlain => "while scanning a plain scalar"
  | scanQuoted => "while scanning a quoted scalar"
  | parseQuoted => "while parsing a quoted scalar"
  | scanBlock => "while scanning a block scalar"
  | scanAnchor => "while scanning an anchor"
  | scanAlias => "while scanning an alias"
  | scanTag => "while scanning a tag"
  | parseTag => "while parsing a tag"
  | scanDirective => "while scanning a directive"
  | scanVersion => "while scanning a %YAML directive"
  | scanTagDirective => "while scanning a %TAG directive"
  | parseTagDirective => "while parsing a %TAG directive"
  | parseTagHandle => "while parsing a tag directive"
  | parseNode => "while parsing a node"
  | parseBlockNode => "while parsing a block node"
  | parseFlowNode => "while parsing a flow node"
  | parseBlockCollection => "while parsing a block collection"
  | parseBlockMapping => "while parsing a block mapping"
  | parseFlowSequence => "while parsing a flow sequence"
  | parseFlowMapping => "while parsing a flow mapping"

structure Fault where
  problem : Problem
  mark : Mark
  /-- The number of bytes before the fault, where it was found without reading lines. -/
  offset : Nat
  /-- What was being read, and where it started. -/
  context : Option (Activity × Mark)
deriving DecidableEq, Inhabited

namespace Fault

def found (problem : Problem) (mark : Mark) : Fault := ⟨problem, mark, 0, none⟩

def within (activity : Activity) (start : Mark) (problem : Problem) (mark : Mark) : Fault :=
  ⟨problem, mark, 0, some (activity, start)⟩

def placeText (f : Fault) : String :=
  if f.mark.isShown then " at " ++ f.mark.message
  else if f.offset ≠ 0 then " at position " ++ toString f.offset
  else ""

def contextText (f : Fault) : String :=
  match f.context with
  | none => ""
  | some (activity, start) =>
    let isElsewhere := start.line ≠ f.mark.line ∨ start.column ≠ f.mark.column
    ", " ++ activity.message ++
      if start.isShown ∧ isElsewhere then " at " ++ start.message else ""

def message (f : Fault) : String := f.problem.message ++ f.placeText ++ f.contextText

end Fault
end CodeSurvey.Yaml
