import MailStore.Yaml.Scanner

/-!
# Parsing YAML into events

The parser reads the scanner's tokens and gives the events of a YAML stream: the stream and
its documents, scalars, aliases, and the starts and ends of sequences and mappings. It is
the state machine of the reference parser: a current state, a stack of states to return
to, and a stack of the positions where open collections started, which failures point at.

Empty nodes become empty plain scalars: a key without a value, a value without a key, an
entry `-` with nothing after it. A node is a scalar, a flow or block collection, or an
alias, optionally after an anchor and a tag; anything else where a node must stand is the
failure "did not find expected node content".
-/

namespace MailStore

namespace Yaml

/-- What an event is. -/
inductive EventKind where
  | streamStart
  | streamEnd
  | documentStart
  | documentEnd
  /-- A reference to an anchored node. -/
  | aliasOf (anchor : String)
  /-- A scalar with its anchor, tag (empty when none), text and style. -/
  | scalar (anchor tag text : String) (style : ScalarStyle)
  /-- The start of a sequence with its anchor and tag; `flow` for `[…]`. -/
  | sequenceStart (anchor tag : String) (flow : Bool)
  | sequenceEnd
  /-- The start of a mapping with its anchor and tag; `flow` for `{…}`. -/
  | mappingStart (anchor tag : String) (flow : Bool)
  | mappingEnd
deriving DecidableEq, Repr, Inhabited

/-- An event and where it starts and ends. -/
structure Event where
  /-- What it is. -/
  kind : EventKind
  /-- Where it starts. -/
  start : Mark
  /-- Where it ends. -/
  stop : Mark
deriving Repr, Inhabited

/-- The states of the parser. -/
inductive ParseState where
  | streamStart | implicitDocumentStart | documentStart | documentContent | documentEnd
  | blockNode | blockNodeOrIndentlessSequence | flowNode
  | blockSequenceFirstEntry | blockSequenceEntry | indentlessSequenceEntry
  | blockMappingFirstKey | blockMappingKey | blockMappingValue
  | flowSequenceFirstEntry | flowSequenceEntry | flowSequenceEntryMappingKey
  | flowSequenceEntryMappingValue | flowSequenceEntryMappingEnd
  | flowMappingFirstKey | flowMappingKey | flowMappingValue | flowMappingEmptyValue
  | finished
deriving DecidableEq, Repr, Inhabited

/-- The parser: the scanner, the state, the states to return to, where the open collections
started, and the tag handles in force. -/
structure Parser where
  /-- The scanner. -/
  scanner : Scanner
  /-- The current state. -/
  state : ParseState
  /-- The states to return to, innermost first. -/
  states : List ParseState
  /-- Where the open collections started, innermost first. -/
  marks : List Mark
  /-- The tag handles and their prefixes. -/
  tagDirectives : List (String × String)
deriving Inhabited

/-- Parsing steps. -/
abbrev ParseM := StateT Parser (Except Problem)

namespace Parser

/-- A parser at the start of a text. -/
def start (text : String) : Parser := ⟨Scanner.start text, .streamStart, [], [], []⟩

/-- The tag handles every document knows. -/
def defaultTagDirectives : List (String × String) := [("!", "!"), ("!!", "tag:yaml.org,2002:")]

/-- Runs a scanner step. -/
def scan {α : Type} (x : ScanM α) : ParseM α := do
  let p ← get
  match x.run p.scanner with
  | .ok (a, sc) =>
    set { p with scanner := sc }
    pure a
  | .error e => throw e

/-- The next token. -/
def peek : ParseM Token := scan Scanner.peekToken

/-- Moves past the next token. -/
def skipToken : ParseM Unit := scan Scanner.skipToken

/-- Fails as the parser does, with the position of the problem. -/
def fail {α : Type} (problem : String) (m : Mark) : ParseM α := throw ⟨.parser, ⟨0, 0, 0⟩, problem, m⟩

/-- Fails as the parser does, reading what started at `context`. -/
def failIn {α : Type} (context : Mark) (problem : String) (m : Mark) : ParseM α :=
  throw ⟨.parser, context, problem, m⟩

/-- Returns to the state on top of the stack. -/
def popState : ParseM Unit :=
  modify fun p => match p.states with
    | s :: rest => { p with state := s, states := rest }
    | [] => { p with state := .finished }

/-- Remembers a state to return to. -/
def pushState (s : ParseState) : ParseM Unit := modify fun p => { p with states := s :: p.states }

/-- Remembers where a collection started. -/
def pushMark (m : Mark) : ParseM Unit := modify fun p => { p with marks := m :: p.marks }

/-- Forgets where the innermost collection started, giving it. -/
def popMark : ParseM Mark := do
  let p ← get
  match p.marks with
  | m :: rest =>
    set { p with marks := rest }
    pure m
  | [] => pure ⟨0, 0, 0⟩

/-- Sets the next state. -/
def goto (s : ParseState) : ParseM Unit := modify fun p => { p with state := s }

/-- An empty plain scalar at a position. -/
def emptyScalar (m : Mark) : Event := ⟨.scalar "" "" "" .plain, m, m⟩

/-- Whether a token is a `%YAML` or a `%TAG` directive. -/
def isDirective : TokenKind → Bool
  | .versionDirective _ _ => true
  | .tagDirective _ _ => true
  | _ => false

/-- Reads the directives before a document; the default tag handles are added. -/
def processDirectives (fuel : Nat) : ParseM Unit := do
  let rec go : Nat → Bool → ParseM Unit
    | 0, _ => pure ()
    | n + 1, sawVersion => do
      let t ← peek
      match t.kind with
      | .versionDirective major minor =>
        if sawVersion then fail "found duplicate %YAML directive" t.start
        if major ≠ 1 ∨ (minor ≠ 1 ∧ minor ≠ 2) then fail "found incompatible YAML document" t.start
        skipToken
        go n true
      | .tagDirective handle pre =>
        if ((← get).tagDirectives.lookup handle).isSome then
          fail "found duplicate %TAG directive" t.start
        modify fun p => { p with tagDirectives := p.tagDirectives ++ [(handle, pre)] }
        skipToken
        go n sawVersion
      | _ => pure ()
  go fuel false
  modify fun p => { p with tagDirectives := p.tagDirectives ++
    defaultTagDirectives.filter fun (h, _) => (p.tagDirectives.lookup h).isNone }

/-- The stream start. -/
def parseStreamStart : ParseM Event := do
  let t ← peek
  if t.kind ≠ .streamStart then fail "did not find expected <stream-start>" t.start
  goto .implicitDocumentStart
  skipToken
  pure ⟨.streamStart, t.start, t.stop⟩

/-- A document start, implicit or explicit, or the stream end. -/
def parseDocumentStart (implicit : Bool) (fuel : Nat) : ParseM Event := do
  let mut t ← peek
  if !implicit then
    for _ in List.range fuel do
      if t.kind = .documentEnd then
        skipToken
        t ← peek
  if implicit ∧ !isDirective t.kind ∧ t.kind ≠ .documentStart ∧ t.kind ≠ .streamEnd then
    processDirectives fuel
    pushState .documentEnd
    goto .blockNode
    pure ⟨.documentStart, t.start, t.stop⟩
  else if t.kind ≠ .streamEnd then
    let startMark := t.start
    processDirectives fuel
    let marker ← peek
    if marker.kind ≠ .documentStart then fail "did not find expected <document start>" marker.start
    pushState .documentEnd
    goto .documentContent
    skipToken
    pure ⟨.documentStart, startMark, marker.stop⟩
  else
    goto .finished
    skipToken
    pure ⟨.streamEnd, t.start, t.stop⟩

/-- The end of a document, explicit or not. -/
def parseDocumentEnd : ParseM Event := do
  let t ← peek
  let stop ← if t.kind = .documentEnd then do
      skipToken
      pure t.stop
    else pure t.start
  modify fun p => { p with tagDirectives := [] }
  goto .documentStart
  pure ⟨.documentEnd, t.start, stop⟩

/-- A node: an alias, or a scalar or collection after an optional anchor and tag. -/
def parseNode (block indentless : Bool) : ParseM Event := do
  let t ← peek
  if let .aliasOf name := t.kind then
    popState
    skipToken
    return ⟨.aliasOf name, t.start, t.stop⟩
  let mut startMark := t.start
  let mut stopMark := t.start
  let mut anchor := ""
  let mut tagged : Option (String × String × Mark) := none
  let mut t := t
  if let .anchor name := t.kind then
    anchor := name
    stopMark := t.stop
    skipToken
    t ← peek
    if let .tag h s := t.kind then
      tagged := some (h, s, t.start)
      stopMark := t.stop
      skipToken
      t ← peek
  else if let .tag h s := t.kind then
    tagged := some (h, s, t.start)
    stopMark := t.stop
    skipToken
    t ← peek
    if let .anchor name := t.kind then
      anchor := name
      stopMark := t.stop
      skipToken
      t ← peek
  let tag ← match tagged with
    | none => pure ""
    | some (handle, suffix, tagMark) =>
      if handle.isEmpty then pure suffix
      else match (← get).tagDirectives.lookup handle with
        | some pre => pure (pre ++ suffix)
        | none => failIn startMark "found undefined tag handle" tagMark
  if indentless ∧ t.kind = .blockEntry then
    goto .indentlessSequenceEntry
    return ⟨.sequenceStart anchor tag false, startMark, t.stop⟩
  match t.kind with
  | .scalar text style =>
    popState
    skipToken
    pure ⟨.scalar anchor tag text style, startMark, t.stop⟩
  | .flowSequenceStart =>
    goto .flowSequenceFirstEntry
    pure ⟨.sequenceStart anchor tag true, startMark, t.stop⟩
  | .flowMappingStart =>
    goto .flowMappingFirstKey
    pure ⟨.mappingStart anchor tag true, startMark, t.stop⟩
  | .blockSequenceStart =>
    if block then
      goto .blockSequenceFirstEntry
      pure ⟨.sequenceStart anchor tag false, startMark, t.stop⟩
    else
      if !anchor.isEmpty ∨ !tag.isEmpty then
        popState
        pure ⟨.scalar anchor tag "" .plain, startMark, stopMark⟩
      else failIn startMark "did not find expected node content" t.start
  | .blockMappingStart =>
    if block then
      goto .blockMappingFirstKey
      pure ⟨.mappingStart anchor tag false, startMark, t.stop⟩
    else
      if !anchor.isEmpty ∨ !tag.isEmpty then
        popState
        pure ⟨.scalar anchor tag "" .plain, startMark, stopMark⟩
      else failIn startMark "did not find expected node content" t.start
  | _ =>
    if !anchor.isEmpty ∨ !tag.isEmpty then
      popState
      pure ⟨.scalar anchor tag "" .plain, startMark, stopMark⟩
    else
      failIn startMark "did not find expected node content" t.start

/-- An entry of a block sequence, or its end. -/
def parseBlockSequenceEntry (first : Bool) : ParseM Event := do
  if first then
    pushMark (← peek).start
    skipToken
  let t ← peek
  if t.kind = .blockEntry then
    let m := t.stop
    skipToken
    let t ← peek
    if t.kind ≠ .blockEntry ∧ t.kind ≠ .blockEnd then
      pushState .blockSequenceEntry
      parseNode true false
    else
      goto .blockSequenceEntry
      pure (emptyScalar m)
  else if t.kind = .blockEnd then
    popState
    discard popMark
    skipToken
    pure ⟨.sequenceEnd, t.start, t.stop⟩
  else
    let context ← popMark
    failIn context "did not find expected '-' indicator" t.start

/-- An entry of a sequence without indentation under a mapping key, or its end. -/
def parseIndentlessSequenceEntry : ParseM Event := do
  let t ← peek
  if t.kind = .blockEntry then
    let m := t.stop
    skipToken
    let t ← peek
    if t.kind ≠ .blockEntry ∧ t.kind ≠ .key ∧ t.kind ≠ .value ∧ t.kind ≠ .blockEnd then
      pushState .indentlessSequenceEntry
      parseNode true false
    else
      goto .indentlessSequenceEntry
      pure (emptyScalar m)
  else
    popState
    pure ⟨.sequenceEnd, t.start, t.start⟩

/-- A key of a block mapping, or its end. -/
def parseBlockMappingKey (first : Bool) : ParseM Event := do
  if first then
    pushMark (← peek).start
    skipToken
  let t ← peek
  if t.kind = .key then
    let m := t.stop
    skipToken
    let t ← peek
    if t.kind ≠ .key ∧ t.kind ≠ .value ∧ t.kind ≠ .blockEnd then
      pushState .blockMappingValue
      parseNode true true
    else
      goto .blockMappingValue
      pure (emptyScalar m)
  else if t.kind = .blockEnd then
    popState
    discard popMark
    skipToken
    pure ⟨.mappingEnd, t.start, t.stop⟩
  else
    let context ← popMark
    failIn context "did not find expected key" t.start

/-- A value of a block mapping. -/
def parseBlockMappingValue : ParseM Event := do
  let t ← peek
  if t.kind = .value then
    let m := t.stop
    skipToken
    let t ← peek
    if t.kind ≠ .key ∧ t.kind ≠ .value ∧ t.kind ≠ .blockEnd then
      pushState .blockMappingKey
      parseNode true true
    else
      goto .blockMappingKey
      pure (emptyScalar m)
  else
    goto .blockMappingKey
    pure (emptyScalar t.start)

/-- An entry of a flow sequence, or its end. -/
def parseFlowSequenceEntry (first : Bool) : ParseM Event := do
  if first then
    pushMark (← peek).start
    skipToken
  let mut t ← peek
  if t.kind ≠ .flowSequenceEnd then
    if !first then
      if t.kind = .flowEntry then
        skipToken
        t ← peek
      else
        let context ← popMark
        return ← failIn context "did not find expected ',' or ']'" t.start
    if t.kind = .key then
      goto .flowSequenceEntryMappingKey
      skipToken
      return ⟨.mappingStart "" "" true, t.start, t.stop⟩
    else if t.kind ≠ .flowSequenceEnd then
      pushState .flowSequenceEntry
      return ← parseNode false false
  popState
  discard popMark
  skipToken
  pure ⟨.sequenceEnd, t.start, t.stop⟩

/-- The key of a one-pair mapping inside a flow sequence. -/
def parseFlowSequenceEntryMappingKey : ParseM Event := do
  let t ← peek
  if t.kind ≠ .value ∧ t.kind ≠ .flowEntry ∧ t.kind ≠ .flowSequenceEnd then
    pushState .flowSequenceEntryMappingValue
    parseNode false false
  else
    let m := t.stop
    skipToken
    goto .flowSequenceEntryMappingValue
    pure (emptyScalar m)

/-- The value of a one-pair mapping inside a flow sequence. -/
def parseFlowSequenceEntryMappingValue : ParseM Event := do
  let t ← peek
  if t.kind = .value then
    skipToken
    let t ← peek
    if t.kind ≠ .flowEntry ∧ t.kind ≠ .flowSequenceEnd then
      pushState .flowSequenceEntryMappingEnd
      return ← parseNode false false
    goto .flowSequenceEntryMappingEnd
    return emptyScalar t.start
  goto .flowSequenceEntryMappingEnd
  pure (emptyScalar t.start)

/-- The end of a one-pair mapping inside a flow sequence. -/
def parseFlowSequenceEntryMappingEnd : ParseM Event := do
  let t ← peek
  goto .flowSequenceEntry
  pure ⟨.mappingEnd, t.start, t.start⟩

/-- A key of a flow mapping, or its end. -/
def parseFlowMappingKey (first : Bool) : ParseM Event := do
  if first then
    pushMark (← peek).start
    skipToken
  let mut t ← peek
  if t.kind ≠ .flowMappingEnd then
    if !first then
      if t.kind = .flowEntry then
        skipToken
        t ← peek
      else
        let context ← popMark
        return ← failIn context "did not find expected ',' or '\x7d'" t.start
    if t.kind = .key then
      skipToken
      let after ← peek
      if after.kind ≠ .value ∧ after.kind ≠ .flowEntry ∧ after.kind ≠ .flowMappingEnd then
        pushState .flowMappingValue
        return ← parseNode false false
      goto .flowMappingValue
      return emptyScalar after.start
    else if t.kind ≠ .flowMappingEnd then
      pushState .flowMappingEmptyValue
      return ← parseNode false false
  popState
  discard popMark
  skipToken
  pure ⟨.mappingEnd, t.start, t.stop⟩

/-- A value of a flow mapping; `empty` when the key stood alone. -/
def parseFlowMappingValue (empty : Bool) : ParseM Event := do
  let t ← peek
  if empty then
    goto .flowMappingKey
    return emptyScalar t.start
  if t.kind = .value then
    skipToken
    let t ← peek
    if t.kind ≠ .flowEntry ∧ t.kind ≠ .flowMappingEnd then
      pushState .flowMappingKey
      return ← parseNode false false
    goto .flowMappingKey
    return emptyScalar t.start
  goto .flowMappingKey
  pure (emptyScalar t.start)

/-- The next event; none after the stream end. -/
def next : ParseM (Option Event) := do
  let p ← get
  let fuel := p.scanner.input.size + 2
  match p.state with
  | .finished => pure none
  | .streamStart => some <$> parseStreamStart
  | .implicitDocumentStart => some <$> parseDocumentStart true fuel
  | .documentStart => some <$> parseDocumentStart false fuel
  | .documentContent =>
    let t ← peek
    if isDirective t.kind = true ∨ t.kind = .documentStart ∨ t.kind = .documentEnd ∨
        t.kind = .streamEnd then
      popState
      pure (some (emptyScalar t.start))
    else some <$> parseNode true false
  | .documentEnd => some <$> parseDocumentEnd
  | .blockNode => some <$> parseNode true false
  | .blockNodeOrIndentlessSequence => some <$> parseNode true true
  | .flowNode => some <$> parseNode false false
  | .blockSequenceFirstEntry => some <$> parseBlockSequenceEntry true
  | .blockSequenceEntry => some <$> parseBlockSequenceEntry false
  | .indentlessSequenceEntry => some <$> parseIndentlessSequenceEntry
  | .blockMappingFirstKey => some <$> parseBlockMappingKey true
  | .blockMappingKey => some <$> parseBlockMappingKey false
  | .blockMappingValue => some <$> parseBlockMappingValue
  | .flowSequenceFirstEntry => some <$> parseFlowSequenceEntry true
  | .flowSequenceEntry => some <$> parseFlowSequenceEntry false
  | .flowSequenceEntryMappingKey => some <$> parseFlowSequenceEntryMappingKey
  | .flowSequenceEntryMappingValue => some <$> parseFlowSequenceEntryMappingValue
  | .flowSequenceEntryMappingEnd => some <$> parseFlowSequenceEntryMappingEnd
  | .flowMappingFirstKey => some <$> parseFlowMappingKey true
  | .flowMappingKey => some <$> parseFlowMappingKey false
  | .flowMappingValue => some <$> parseFlowMappingValue false
  | .flowMappingEmptyValue => some <$> parseFlowMappingValue true

end Parser

end Yaml

end MailStore
