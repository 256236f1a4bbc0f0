import CodeSurvey.Yaml.TokenStream

/-!
# Events

What the tokens of a text say one after the other: documents, and the starts and ends of their
nodes. Where a node is left out there is an empty plain scalar.
-/

namespace CodeSurvey.Yaml

structure Properties where
  anchor : Option (List Char)
  tag : Option (List Char)
deriving Inhabited

inductive EventKind where
  | streamStart
  | streamEnd
  | documentStart
  | documentEnd
  | alias (name : List Char)
  | scalar (properties : Properties) (style : ScalarStyle) (text : List Char)
  | sequenceStart (properties : Properties)
  | sequenceEnd
  | mappingStart (properties : Properties)
  | mappingEnd
deriving Inhabited

structure Event where
  kind : EventKind
  mark : Mark
deriving Inhabited

inductive Expectation where
  | streamStart
  | implicitDocument
  | document
  | documentContent
  | documentEnd
  | blockNode
  | blockSequence (isFirst : Bool)
  | indentlessSequence
  | blockMappingKey (isFirst : Bool)
  | blockMappingValue
  | flowSequence (isFirst : Bool)
  | flowPairKey
  | flowPairValue
  | flowPairEnd
  | flowMappingKey (isFirst : Bool)
  | flowMappingValue
  | flowMappingNoValue
  | nothing
deriving DecidableEq, Inhabited

structure EventStream where
  tokens : TokenStream
  next : Expectation
  /-- What is expected after the nodes that are open, the innermost first. -/
  later : List Expectation
  /-- Where the collections that are open started. -/
  marks : List Mark
  /-- The handles of tags and what they stand for. -/
  handles : List (List Char × List Char)
deriving Inhabited

namespace EventStream

def start (text : List Char) : EventStream := ⟨.start text, .streamStart, [], [], []⟩

abbrev Step (α : Type) := StateT EventStream (Except Fault) α

def peek : Step Token := fun s => do
  let (token, tokens) ← s.tokens.peek
  return (token, { s with tokens := tokens })

def advance : Step Unit := modify fun s => { s with tokens := s.tokens.advance }

def fail {α : Type} (fault : Fault) : Step α := fun _ => .error fault

def expect (e : Expectation) : Step Unit := modify fun s => { s with next := e }

def expectLater (e : Expectation) : Step Unit := modify fun s => { s with later := e :: s.later }

def resume : Step Unit :=
  modify fun s => { s with next := s.later.headD .nothing, later := s.later.drop 1 }

def openAt (m : Mark) : Step Unit := modify fun s => { s with marks := m :: s.marks }

def close : Step Unit := do
  resume
  modify fun s => { s with marks := s.marks.drop 1 }

def failInside {α : Type} (activity : Activity) (problem : Problem) (t : Token) : Step α := do
  let s ← get
  fail (.within activity (s.marks.headD .start) problem t.start)

def emptyScalar (m : Mark) : Event := ⟨.scalar ⟨none, none⟩ .plain [], m⟩

/-! ## Documents -/

def isDirective : TokenKind → Bool
  | .versionDirective .. | .tagDirective .. => true
  | _ => false

def defaultHandles : List (List Char × List Char) :=
  [(['!'], ['!']), (['!', '!'], "tag:yaml.org,2002:".toList)]

def addHandle (handle head : List Char) (m : Mark) : Step Unit := do
  let s ← get
  if (s.handles.lookup handle).isSome then fail (.found .duplicateTag m)
  set { s with handles := s.handles ++ [(handle, head)] }

def readDirectives : Nat → Bool → Step Unit
  | 0, _ => pure ()
  | budget + 1, hasVersion => do
    let t ← peek
    match t.kind with
    | .versionDirective major minor =>
      if hasVersion then fail (.found .duplicateVersion t.start)
      if major ≠ 1 ∨ (minor ≠ 1 ∧ minor ≠ 2) then fail (.found .incompatibleVersion t.start)
      advance
      readDirectives budget true
    | .tagDirective handle head =>
      addHandle handle head t.start
      advance
      readDirectives budget hasVersion
    | _ => pure ()

def allDirectives : Step Unit := do
  let s ← get
  readDirectives (s.tokens.size + 1) false
  modify fun s => { s with handles := s.handles ++ defaultHandles }

def skipDocumentEnds : Nat → Step Unit
  | 0 => pure ()
  | budget + 1 => do
    let t ← peek
    if t.kind = .documentEnd then
      advance
      skipDocumentEnds budget

/-- Whether a document can start at a token without saying so. -/
def startsImplicitly (k : TokenKind) : Bool :=
  !isDirective k && k ≠ .documentStart && k ≠ .streamEnd

def readDocumentStart (implicit : Bool) : Step Event := do
  let s ← get
  if !implicit then skipDocumentEnds (s.tokens.size + 1)
  let t ← peek
  if implicit && startsImplicitly t.kind then
    allDirectives
    expectLater .documentEnd
    expect .blockNode
    return ⟨.documentStart, t.start⟩
  if t.kind = .streamEnd then
    expect .nothing
    return ⟨.streamEnd, t.start⟩
  allDirectives
  let dashes ← peek
  if dashes.kind ≠ .documentStart then fail (.found .expectedDocumentStart dashes.start)
  expectLater .documentEnd
  expect .documentContent
  advance
  return ⟨.documentStart, t.start⟩

def readDocumentEnd : Step Event := do
  let t ← peek
  if t.kind = .documentEnd then advance
  modify fun s => { s with handles := [], next := .document }
  return ⟨.documentEnd, t.start⟩

/-! ## Nodes -/

/-- The anchor and the tag before a node, with the place of the tag, in either order. -/
def readProperties : Step (Option (List Char) × Option (List Char × List Char × Mark)) := do
  let t ← peek
  match t.kind with
  | .anchor name =>
    advance
    let u ← peek
    match u.kind with
    | .tag handle suffix =>
      advance
      return (some name, some (handle, suffix, u.start))
    | _ => return (some name, none)
  | .tag handle suffix =>
    advance
    let u ← peek
    match u.kind with
    | .anchor name =>
      advance
      return (some name, some (handle, suffix, t.start))
    | _ => return (none, some (handle, suffix, t.start))
  | _ => return (none, none)

def resolveTag (start : Mark) (tag : List Char × List Char × Mark) : Step (List Char) := do
  let (handle, suffix, m) := tag
  if handle.isEmpty then return suffix
  let s ← get
  match s.handles.lookup handle with
  | some head => return head ++ suffix
  | none => fail (.within .parseNode start .undefinedTagHandle m)

def startCollection (kind : EventKind) (start : Mark) (e : Expectation) : Step Event := do
  expect e
  return ⟨kind, start⟩

/-- Read a node or the start of a collection. Blocks may be refused, and sequences without
indentation allowed. -/
def readNode (block indentless : Bool) : Step Event := do
  let first ← peek
  match first.kind with
  | .alias name =>
    resume
    advance
    return ⟨.alias name, first.start⟩
  | _ =>
    let start := first.start
    let (anchor, rawTag) ← readProperties
    let t ← peek
    let tag ← match rawTag with
      | some tag => some <$> resolveTag start tag
      | none => pure none
    let properties : Properties := ⟨anchor, tag⟩
    match t.kind with
    | .blockEntry =>
      if indentless then
        return ← startCollection (.sequenceStart properties) start .indentlessSequence
    | .scalar style text =>
      let tag := if tag = some ['!'] then none else tag
      resume
      advance
      return ⟨.scalar ⟨anchor, tag⟩ style text, start⟩
    | .flowSequenceStart =>
      return ← startCollection (.sequenceStart properties) start (.flowSequence true)
    | .flowMappingStart =>
      return ← startCollection (.mappingStart properties) start (.flowMappingKey true)
    | .blockSequenceStart =>
      if block then return ← startCollection (.sequenceStart properties) start (.blockSequence true)
    | .blockMappingStart =>
      if block then
        return ← startCollection (.mappingStart properties) start (.blockMappingKey true)
    | _ => pure ()
    if anchor.isSome || tag.isSome then
      resume
      return ⟨.scalar properties .plain [], start⟩
    fail (.within (if block then .parseBlockNode else .parseFlowNode) start .expectedNodeContent
      t.start)

def readDocumentContent : Step Event := do
  let t ← peek
  if isDirective t.kind || t.kind = .documentStart || t.kind = .documentEnd ||
      t.kind = .streamEnd then
    resume
    return emptyScalar t.start
  readNode true false

/-! ## Collections -/

def enter (isFirst : Bool) : Step Unit := do
  if isFirst then
    let t ← peek
    openAt t.start
    advance

def readNodeUnless (absent : List TokenKind) (after : Expectation) (block indentless : Bool)
    (emptyAt : Token → Mark) : Step Event := do
  let t ← peek
  if absent.contains t.kind then
    expect after
    return emptyScalar (emptyAt t)
  expectLater after
  readNode block indentless

def readBlockSequence (isFirst : Bool) : Step Event := do
  enter isFirst
  let t ← peek
  match t.kind with
  | .blockEntry =>
    advance
    readNodeUnless [.blockEntry, .blockEnd] (.blockSequence false) true false fun _ => t.stop
  | .blockEnd =>
    close
    advance
    return ⟨.sequenceEnd, t.start⟩
  | _ => failInside .parseBlockCollection .expectedHyphen t

def readIndentlessSequence : Step Event := do
  let t ← peek
  if t.kind = .blockEntry then
    advance
    readNodeUnless [.blockEntry, .key, .value, .blockEnd] .indentlessSequence true false
      fun _ => t.stop
  else
    resume
    return ⟨.sequenceEnd, t.start⟩

def readBlockKey (isFirst : Bool) : Step Event := do
  enter isFirst
  let t ← peek
  match t.kind with
  | .key =>
    advance
    readNodeUnless [.key, .value, .blockEnd] .blockMappingValue true true fun _ => t.stop
  | .blockEnd =>
    close
    advance
    return ⟨.mappingEnd, t.start⟩
  | _ => failInside .parseBlockMapping .expectedKey t

def readBlockValue : Step Event := do
  let t ← peek
  if t.kind = .value then
    advance
    readNodeUnless [.key, .value, .blockEnd] (.blockMappingKey false) true true fun _ => t.stop
  else
    expect (.blockMappingKey false)
    return emptyScalar t.start

def endFlow (kind : EventKind) (t : Token) : Step Event := do
  close
  advance
  return ⟨kind, t.start⟩

def readComma (isFirst : Bool) (activity : Activity) (problem : Problem) : Step Unit := do
  if !isFirst then
    let t ← peek
    if t.kind ≠ .flowEntry then failInside activity problem t
    advance

def readFlowSequence (isFirst : Bool) : Step Event := do
  enter isFirst
  let t ← peek
  if t.kind = .flowSequenceEnd then return ← endFlow .sequenceEnd t
  readComma isFirst .parseFlowSequence .expectedCommaOrBracket
  let t ← peek
  if t.kind = .key then
    expect .flowPairKey
    advance
    return ⟨.mappingStart ⟨none, none⟩, t.start⟩
  if t.kind = .flowSequenceEnd then return ← endFlow .sequenceEnd t
  expectLater (.flowSequence false)
  readNode false false

/-- Read the key of a pair that stands in a sequence. Whatever shows that there is none is passed
over. -/
def readPairKey : Step Event := do
  let t ← peek
  if [TokenKind.value, .flowEntry, .flowSequenceEnd].contains t.kind then
    advance
    expect .flowPairValue
    return emptyScalar t.stop
  expectLater .flowPairValue
  readNode false false

def readPairValue : Step Event := do
  let t ← peek
  if t.kind = .value then
    advance
    readNodeUnless [.flowEntry, .flowSequenceEnd] .flowPairEnd false false Token.start
  else
    expect .flowPairEnd
    return emptyScalar t.start

def readPairEnd : Step Event := do
  let t ← peek
  expect (.flowSequence false)
  return ⟨.mappingEnd, t.start⟩

def readFlowKey (isFirst : Bool) : Step Event := do
  enter isFirst
  let t ← peek
  if t.kind = .flowMappingEnd then return ← endFlow .mappingEnd t
  readComma isFirst .parseFlowMapping .expectedCommaOrBrace
  let t ← peek
  if t.kind = .key then
    advance
    return ← readNodeUnless [.value, .flowEntry, .flowMappingEnd] .flowMappingValue false false
      Token.start
  if t.kind = .flowMappingEnd then return ← endFlow .mappingEnd t
  expectLater .flowMappingNoValue
  readNode false false

def readFlowValue : Step Event := do
  let t ← peek
  if t.kind = .value then
    advance
    readNodeUnless [.flowEntry, .flowMappingEnd] (.flowMappingKey false) false false Token.start
  else
    expect (.flowMappingKey false)
    return emptyScalar t.start

/-! ## Running -/

def readStreamStart : Step Event := do
  let t ← peek
  expect .implicitDocument
  advance
  return ⟨.streamStart, t.start⟩

def readEvent : Step Event := do
  let s ← get
  match s.next with
  | .streamStart => readStreamStart
  | .implicitDocument => readDocumentStart true
  | .document => readDocumentStart false
  | .documentContent => readDocumentContent
  | .documentEnd => readDocumentEnd
  | .blockNode => readNode true false
  | .blockSequence isFirst => readBlockSequence isFirst
  | .indentlessSequence => readIndentlessSequence
  | .blockMappingKey isFirst => readBlockKey isFirst
  | .blockMappingValue => readBlockValue
  | .flowSequence isFirst => readFlowSequence isFirst
  | .flowPairKey => readPairKey
  | .flowPairValue => readPairValue
  | .flowPairEnd => readPairEnd
  | .flowMappingKey isFirst => readFlowKey isFirst
  | .flowMappingValue => readFlowValue
  | .flowMappingNoValue => do
    let t ← peek
    expect (.flowMappingKey false)
    return emptyScalar t.start
  | .nothing => return ⟨.streamEnd, s.tokens.mark⟩

end EventStream
end CodeSurvey.Yaml
