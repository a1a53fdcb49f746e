/-!
# Scanning YAML

The scanner turns YAML text into tokens: the indicators of block and flow collections, keys
and values, scalars in their five styles, anchors, aliases, tags, document markers and
directives. It follows the reference scanner of the YAML 1.1 library family, so that a
text is read, and refused, the way configuration files are read elsewhere.

Block structure comes from indentation. The scanner keeps a stack of indentation columns:
a line that starts further right than the current column opens a block collection (the
start token is put where the collection began), and a line that starts further left closes
collections with block-end tokens.

A scalar or a flow collection may turn out to be a mapping key only when the `:` after it
is seen. Such a *simple key* is remembered with the number of the token it would precede;
when the `:` comes, a key token is inserted before it (and a block mapping opened when
needed). A simple key must end on its own line and within 1024 characters; a key that
starts a line at the current indentation must be one.

Tokens are produced on demand: the reader of the tokens asks for the next one, and the
scanner reads ahead until at least three tokens are queued and the first of them can no
longer become a key.

Failures carry the position the problem was found at and the position of what the scanner
was reading then, as the error texts of the library show them.
-/

namespace MailStore

namespace Yaml

/-- A position in the text: the number of characters before it, and its zero-based line and
column. -/
structure Mark where
  /-- Characters before the position. -/
  index : Nat
  /-- The line, from zero. -/
  line : Nat
  /-- The column, from zero. -/
  column : Nat
deriving DecidableEq, Repr, Inhabited

/-- How a scalar is written. -/
inductive ScalarStyle where
  | plain | singleQuoted | doubleQuoted | literal | folded
deriving DecidableEq, Repr, Inhabited

/-- What a token is. -/
inductive TokenKind where
  | streamStart
  | streamEnd
  /-- `%YAML major.minor`. -/
  | versionDirective (major minor : Nat)
  /-- `%TAG handle prefix`. -/
  | tagDirective (handle pre : String)
  | documentStart
  | documentEnd
  | blockSequenceStart
  | blockMappingStart
  | blockEnd
  | flowSequenceStart
  | flowSequenceEnd
  | flowMappingStart
  | flowMappingEnd
  | blockEntry
  | flowEntry
  | key
  | value
  /-- `*name`. -/
  | aliasOf (name : String)
  /-- `&name`. -/
  | anchor (name : String)
  /-- `!handle!suffix`, `!suffix` or `!<uri>`. -/
  | tag (handle suffix : String)
  /-- A scalar's text and style. -/
  | scalar (text : String) (style : ScalarStyle)
deriving DecidableEq, Repr, Inhabited

/-- A token and where it starts and ends. -/
structure Token where
  /-- What it is. -/
  kind : TokenKind
  /-- Where it starts. -/
  start : Mark
  /-- Where it ends. -/
  stop : Mark
deriving Repr, Inhabited

/-- Where a failure was found. Scanner failures show their line one later than parser
failures do, as the library counts them. -/
inductive Stage where
  | reader | scanner | parser
deriving DecidableEq, Repr, Inhabited

/-- A failure to read YAML: what was being read and where it started, what went wrong and
where. -/
structure Problem where
  /-- The stage that failed. -/
  stage : Stage
  /-- Where the construct being read started (the zero position when none). -/
  contextMark : Mark
  /-- What went wrong. -/
  problem : String
  /-- Where it went wrong. -/
  problemMark : Mark
deriving Repr, Inhabited

/-- The text of a failure: `line N: ` in front when the position is past the first line. -/
def Problem.text (p : Problem) : String :=
  let bump := if p.stage = .scanner then 1 else 0
  let line :=
    if p.contextMark.line ≠ 0 then p.contextMark.line + bump
    else if p.problemMark.line ≠ 0 then p.problemMark.line + bump
    else 0
  (if line ≠ 0 then "line " ++ toString line ++ ": " else "") ++ p.problem

/-- A possible simple key: whether it is still possible, whether it must be a key, the
number of the token it would precede, and where it starts. -/
structure SimpleKey where
  /-- Whether it can still be a key. -/
  possible : Bool
  /-- Whether it must be a key. -/
  required : Bool
  /-- The number of its first token. -/
  tokenNumber : Nat
  /-- Where it starts. -/
  mark : Mark
deriving Repr, Inhabited

/-- The state of the scanner. Tokens are never dropped: the token numbered `n` is at index
`n`, and `head` is the number of tokens handed out. -/
structure Scanner where
  /-- The text. -/
  input : Array Char
  /-- The current position. -/
  mark : Mark
  /-- The tokens made so far. -/
  tokens : Array Token
  /-- The number of tokens handed out. -/
  head : Nat
  /-- Whether the stream start was made. -/
  streamStartProduced : Bool
  /-- Whether the stream end was handed out. -/
  streamEndProduced : Bool
  /-- The current indentation column; `-1` outside any block collection. -/
  indent : Int
  /-- The enclosing indentation columns, innermost first. -/
  indents : List Int
  /-- Whether a simple key may start here. -/
  simpleKeyAllowed : Bool
  /-- The possible simple key of each flow level, the outermost first. -/
  simpleKeys : Array SimpleKey
  /-- The possible simple keys by the number of their first token. -/
  keysByToken : List (Nat × Nat)
  /-- The depth of flow collections. -/
  flowLevel : Nat
  /-- Whether the head token is known to be final. -/
  tokenAvailable : Bool
deriving Inhabited

/-- Scanning steps. -/
abbrev ScanM := StateT Scanner (Except Problem)

namespace Scanner

/-- A scanner at the start of a text. -/
def start (text : String) : Scanner :=
  ⟨text.toList.toArray, ⟨0, 0, 0⟩, #[], 0, false, false, -1, [], false, #[], [], 0, false⟩

/-! ### Characters -/

/-- The end of the text reads as this character. -/
def nul : Char := Char.ofNat 0

/-- Whether a character is a space or a tab. -/
def isBlank (c : Char) : Bool := c = ' ' ∨ c = '\t'

/-- Whether a character breaks a line. -/
def isBreak (c : Char) : Bool :=
  c = '\r' ∨ c = '\n' ∨ c.toNat = 0x85 ∨ c.toNat = 0x2028 ∨ c.toNat = 0x2029

/-- Whether a character breaks a line or ends the text. -/
def isBreakZ (c : Char) : Bool := isBreak c ∨ c = nul

/-- Whether a character is blank, breaks a line or ends the text. -/
def isBlankZ (c : Char) : Bool := isBlank c ∨ isBreakZ c

/-- Whether a character may be part of an anchor name or a tag handle. -/
def isAlpha (c : Char) : Bool := c.isAlphanum ∨ c = '_' ∨ c = '-'

/-- Whether a character is a hexadecimal digit. -/
def isHex (c : Char) : Bool := c.isDigit ∨ ('a' ≤ c ∧ c ≤ 'f') ∨ ('A' ≤ c ∧ c ≤ 'F')

/-- The value of a hexadecimal digit. -/
def hexValue (c : Char) : Nat :=
  if c.isDigit then c.toNat - 48 else if 'a' ≤ c ∧ c ≤ 'f' then c.toNat - 87 else c.toNat - 55

/-- The character `k` places ahead. -/
def peekAt (k : Nat) : ScanM Char := do
  let s ← get
  pure (s.input[s.mark.index + k]?.getD nul)

/-- The current character. -/
def cur : ScanM Char := peekAt 0

/-- Moves past one character on the line. -/
def skip : ScanM Unit :=
  modify fun s => { s with mark := ⟨s.mark.index + 1, s.mark.line, s.mark.column + 1⟩ }

/-- Moves past a line break. -/
def skipLine : ScanM Unit := do
  let c ← cur
  let d ← peekAt 1
  if c = '\r' ∧ d = '\n' then
    modify fun s => { s with mark := ⟨s.mark.index + 2, s.mark.line + 1, 0⟩ }
  else if isBreak c then
    modify fun s => { s with mark := ⟨s.mark.index + 1, s.mark.line + 1, 0⟩ }

/-- Moves past the current character, keeping it. -/
def read (acc : String) : ScanM String := do
  let c ← cur
  skip
  pure (acc.push c)

/-- Moves past a line break, keeping it as a line feed (the line and paragraph separators
are kept as they are). -/
def readLine (acc : String) : ScanM String := do
  let c ← cur
  let d ← peekAt 1
  if c = '\r' ∧ d = '\n' then
    modify fun s => { s with mark := ⟨s.mark.index + 2, s.mark.line + 1, 0⟩ }
    pure (acc.push '\n')
  else if c = '\r' ∨ c = '\n' ∨ c.toNat = 0x85 then
    modify fun s => { s with mark := ⟨s.mark.index + 1, s.mark.line + 1, 0⟩ }
    pure (acc.push '\n')
  else if c.toNat = 0x2028 ∨ c.toNat = 0x2029 then
    modify fun s => { s with mark := ⟨s.mark.index + 1, s.mark.line + 1, 0⟩ }
    pure (acc.push c)
  else pure acc

/-- Fails as the scanner does: reading what started at `context`, found `problem` here. -/
def fail {α : Type} (context : Mark) (problem : String) : ScanM α := do
  throw ⟨.scanner, context, problem, (← get).mark⟩

/-- A bound on the steps of any loop over the text. -/
def fuel : ScanM Nat := do return (← get).input.size + 2

/-- Moves past characters while they satisfy a test. -/
def skipWhile (p : Char → Bool) : Nat → ScanM Unit
  | 0 => pure ()
  | n + 1 => do
    if p (← cur) then
      skip
      skipWhile p n

/-- Keeps characters while they satisfy a test. -/
def readWhile (p : Char → Bool) : Nat → String → ScanM String
  | 0, acc => pure acc
  | n + 1, acc => do
    if p (← cur) then readWhile p n (← read acc) else pure acc

/-! ### The token queue -/

/-- Puts a token at a number, moving later tokens back. -/
def insertToken (number : Nat) (t : Token) : ScanM Unit :=
  modify fun s => { s with tokens := (s.tokens.toList.take number ++ t :: s.tokens.toList.drop number).toArray }

/-- Adds a token at the end of the queue. -/
def appendToken (t : Token) : ScanM Unit := modify fun s => { s with tokens := s.tokens.push t }

/-- The number the next appended token gets. -/
def nextNumber : ScanM Nat := do return (← get).tokens.size

/-! ### Simple keys -/

/-- The simple key of the current flow level. -/
def topKey : ScanM SimpleKey := do
  let s ← get
  pure (s.simpleKeys.back?.getD default)

/-- Replaces the simple key of the current flow level. -/
def setTopKey (k : SimpleKey) : ScanM Unit :=
  modify fun s => { s with simpleKeys := s.simpleKeys.pop.push k }

/-- Forgets the entry of a token number among the possible keys. -/
def forgetKey (n : Nat) : ScanM Unit :=
  modify fun s => { s with keysByToken := s.keysByToken.filter (·.1 ≠ n) }

/-- Whether a saved key can still be a key here: it must be on this line and within 1024
characters. A required key that can no longer be one is a failure. -/
def keyValid (k : SimpleKey) : ScanM Bool := do
  if !k.possible then return false
  let m := (← get).mark
  if k.mark.line < m.line ∨ k.mark.index + 1024 < m.index then
    if k.required then fail k.mark "could not find expected ':'"
    return false
  return true

/-- The validity check that also marks a key impossible, on the key at a stack index. -/
def checkKeyAt (i : Nat) : ScanM Bool := do
  let s ← get
  match s.simpleKeys[i]? with
  | none => pure false
  | some k =>
    let ok ← keyValid k
    if k.possible ∧ !ok then
      modify fun s => { s with simpleKeys := s.simpleKeys.modify i fun k => { k with possible := false } }
    pure ok

/-- Drops the possible key of the current flow level; fails when it was required. -/
def removeSimpleKey : ScanM Unit := do
  let k ← topKey
  if k.possible then
    if k.required then
      throw ⟨.scanner, k.mark, "could not find expected ':'", (← get).mark⟩
    setTopKey { k with possible := false }
    forgetKey k.tokenNumber

/-- Remembers that the next token may start a simple key. -/
def saveSimpleKey : ScanM Unit := do
  let s ← get
  let required := s.flowLevel = 0 ∧ s.indent = (s.mark.column : Int)
  if s.simpleKeyAllowed then
    let k : SimpleKey := ⟨true, required, s.tokens.size, s.mark⟩
    removeSimpleKey
    setTopKey k
    modify fun s =>
      let keys := (k.tokenNumber, s.simpleKeys.size - 1) :: s.keysByToken.filter (·.1 ≠ k.tokenNumber)
      { s with keysByToken := keys }

/-- Enters a flow collection. -/
def increaseFlowLevel : ScanM Unit := do
  let s ← get
  set { s with simpleKeys := s.simpleKeys.push ⟨false, false, 0, s.mark⟩, flowLevel := s.flowLevel + 1 }
  if s.flowLevel + 1 > 10000 then
    fail s.mark "exceeded max depth of 10000"

/-- Leaves a flow collection. -/
def decreaseFlowLevel : ScanM Unit := do
  let s ← get
  if s.flowLevel > 0 then
    let k := s.simpleKeys.back?.getD default
    forgetKey k.tokenNumber
    modify fun s => { s with flowLevel := s.flowLevel - 1, simpleKeys := s.simpleKeys.pop }

/-! ### Indentation -/

/-- Opens a block collection when a column is deeper than the current indentation: the
start token goes at the given token number (or at the end). -/
def rollIndent (column : Int) (number : Option Nat) (kind : TokenKind) (m : Mark) : ScanM Unit := do
  let s ← get
  if s.flowLevel > 0 then return
  if s.indent < column then
    set { s with indents := s.indent :: s.indents, indent := column }
    let t : Token := ⟨kind, m, m⟩
    match number with
    | some n => insertToken n t
    | none => appendToken t

/-- Closes the block collections deeper than a column. -/
def unrollIndent (column : Int) (scanMark : Mark) : Nat → ScanM Unit
  | 0 => pure ()
  | n + 1 => do
    let s ← get
    if s.flowLevel > 0 then return
    if s.indent > column then
      let m : Mark := ⟨scanMark.index - 1, scanMark.line, scanMark.column⟩
      appendToken ⟨.blockEnd, m, m⟩
      match s.indents with
      | i :: rest => modify fun s => { s with indent := i, indents := rest }
      | [] => modify fun s => { s with indent := -1 }
      unrollIndent column scanMark n

/-! ### Whitespace and comments -/

/-- Moves to the start of the next token past blanks, comments and line breaks; tabs count
as blanks in flow collections and where no simple key may start. -/
def scanToNextToken : Nat → ScanM Unit
  | 0 => pure ()
  | n + 1 => do
    if (← get).mark.column = 0 ∧ (← cur).toNat = 0xFEFF then skip
    let s ← get
    let f ← fuel
    skipWhile (fun c => c = ' ' ∨ ((s.flowLevel > 0 ∨ !s.simpleKeyAllowed) ∧ c = '\t')) f
    if (← cur) = '#' then skipWhile (fun c => !isBreakZ c) f
    if isBreak (← cur) then
      skipLine
      if (← get).flowLevel = 0 then modify fun s => { s with simpleKeyAllowed := true }
      scanToNextToken n

/-! ### Stream, documents and directives -/

/-- The stream start. -/
def fetchStreamStart : ScanM Unit := do
  let s ← get
  let keys : Array SimpleKey := #[⟨false, false, 0, s.mark⟩]
  set { s with indent := -1, simpleKeys := keys, keysByToken := [], simpleKeyAllowed := true,
                streamStartProduced := true }
  appendToken ⟨.streamStart, s.mark, s.mark⟩

/-- The stream end, closing every block collection. -/
def fetchStreamEnd : ScanM Unit := do
  let s ← get
  if s.mark.column ≠ 0 then
    set { s with mark := ⟨s.mark.index, s.mark.line + 1, 0⟩ }
  let f ← fuel
  unrollIndent (-1) (← get).mark f
  removeSimpleKey
  modify fun s => { s with simpleKeyAllowed := false }
  let m := (← get).mark
  appendToken ⟨.streamEnd, m, m⟩

/-- A document start or end marker. -/
def fetchDocumentIndicator (kind : TokenKind) : ScanM Unit := do
  let f ← fuel
  unrollIndent (-1) (← get).mark f
  removeSimpleKey
  modify fun s => { s with simpleKeyAllowed := false }
  let m := (← get).mark
  skip; skip; skip
  appendToken ⟨kind, m, (← get).mark⟩

/-- The decimal number of a version directive. -/
def versionNumber (startMark : Mark) : ScanM Nat := do
  let digits ← readWhile Char.isDigit 10 ""
  if digits.isEmpty then fail startMark "did not find expected version number"
  pure (digits.foldl (fun n c => 10 * n + (c.toNat - 48)) 0)

/-- A `%YAML` or `%TAG` directive. -/
def fetchDirective : ScanM Unit := do
  let f ← fuel
  unrollIndent (-1) (← get).mark f
  removeSimpleKey
  modify fun s => { s with simpleKeyAllowed := false }
  let startMark := (← get).mark
  skip
  let name ← readWhile isAlpha f ""
  if name.isEmpty then fail startMark "could not find expected directive name"
  if !isBlankZ (← cur) then fail startMark "found unexpected non-alphabetical character"
  let kind ← match name with
    | "YAML" => do
      skipWhile isBlank f
      let major ← versionNumber startMark
      if (← cur) ≠ '.' then fail startMark "did not find expected digit or '.' character"
      skip
      let minor ← versionNumber startMark
      pure (TokenKind.versionDirective major minor)
    | "TAG" => do
      skipWhile isBlank f
      let handle ← readWhile (fun c => !isBlankZ c) f ""
      if handle.isEmpty ∨ handle.front ≠ '!' then fail startMark "did not find expected '!'"
      if !isBlank (← cur) then fail startMark "did not find expected whitespace"
      skipWhile isBlank f
      let pre ← readWhile (fun c => !isBlankZ c) f ""
      if pre.isEmpty then fail startMark "did not find expected tag URI"
      pure (TokenKind.tagDirective handle pre)
    | _ => fail startMark "found unknown directive name"
  let stopMark := (← get).mark
  skipWhile isBlank f
  if (← cur) = '#' then skipWhile (fun c => !isBreakZ c) f
  if !isBreakZ (← cur) then fail startMark "did not find expected comment or line break"
  if isBreak (← cur) then skipLine
  appendToken ⟨kind, startMark, stopMark⟩

/-! ### Indicators -/

/-- `[` or `{`. -/
def fetchFlowCollectionStart (kind : TokenKind) : ScanM Unit := do
  saveSimpleKey
  increaseFlowLevel
  modify fun s => { s with simpleKeyAllowed := true }
  let m := (← get).mark
  skip
  appendToken ⟨kind, m, (← get).mark⟩

/-- `]` or `}`. -/
def fetchFlowCollectionEnd (kind : TokenKind) : ScanM Unit := do
  removeSimpleKey
  decreaseFlowLevel
  modify fun s => { s with simpleKeyAllowed := false }
  let m := (← get).mark
  skip
  appendToken ⟨kind, m, (← get).mark⟩

/-- `,` in a flow collection. -/
def fetchFlowEntry : ScanM Unit := do
  removeSimpleKey
  modify fun s => { s with simpleKeyAllowed := true }
  let m := (← get).mark
  skip
  appendToken ⟨.flowEntry, m, (← get).mark⟩

/-- `-` starting a block sequence entry. -/
def fetchBlockEntry : ScanM Unit := do
  let s ← get
  if s.flowLevel = 0 then
    if !s.simpleKeyAllowed then
      throw ⟨.scanner, s.mark, "block sequence entries are not allowed in this context", s.mark⟩
    rollIndent s.mark.column none .blockSequenceStart s.mark
  removeSimpleKey
  modify fun s => { s with simpleKeyAllowed := true }
  let m := (← get).mark
  skip
  appendToken ⟨.blockEntry, m, (← get).mark⟩

/-- `?` starting a complex key. -/
def fetchKey : ScanM Unit := do
  let s ← get
  if s.flowLevel = 0 then
    if !s.simpleKeyAllowed then
      throw ⟨.scanner, s.mark, "mapping keys are not allowed in this context", s.mark⟩
    rollIndent s.mark.column none .blockMappingStart s.mark
  removeSimpleKey
  modify fun s => { s with simpleKeyAllowed := s.flowLevel = 0 }
  let m := (← get).mark
  skip
  appendToken ⟨.key, m, (← get).mark⟩

/-- `:` after a key: a simple key before it becomes a key. -/
def fetchValue : ScanM Unit := do
  let k ← topKey
  let i := (← get).simpleKeys.size - 1
  let valid ← checkKeyAt i
  if valid then
    insertToken k.tokenNumber ⟨.key, k.mark, k.mark⟩
    rollIndent k.mark.column (some k.tokenNumber) .blockMappingStart k.mark
    let k' ← topKey
    setTopKey { k' with possible := false }
    forgetKey k.tokenNumber
    modify fun s => { s with simpleKeyAllowed := false }
  else
    let s ← get
    if s.flowLevel = 0 then
      if !s.simpleKeyAllowed then
        throw ⟨.scanner, s.mark, "mapping values are not allowed in this context", s.mark⟩
      rollIndent s.mark.column none .blockMappingStart s.mark
    modify fun s => { s with simpleKeyAllowed := s.flowLevel = 0 }
  let m := (← get).mark
  skip
  appendToken ⟨.value, m, (← get).mark⟩

/-- An anchor `&name` or an alias `*name`. -/
def fetchAnchor (isAlias : Bool) : ScanM Unit := do
  saveSimpleKey
  modify fun s => { s with simpleKeyAllowed := false }
  let startMark := (← get).mark
  skip
  let name ← readWhile isAlpha (← fuel) ""
  let stopMark := (← get).mark
  let c ← cur
  if name.isEmpty ∨ !(isBlankZ c ∨ c = '?' ∨ c = ':' ∨ c = ',' ∨ c = ']' ∨ c = '}' ∨ c = '%' ∨
      c = '@' ∨ c.toNat = 96) then
    fail startMark "did not find expected alphabetic or numeric character"
  appendToken ⟨if isAlias then .aliasOf name else .anchor name, startMark, stopMark⟩

/-- Whether a character may be part of a tag; a verbatim tag `!<…>` may also hold `,`, `[`
and `]`. -/
def isTagChar (verbatim : Bool) (c : Char) : Bool :=
  isAlpha c ∨ ";/?:@&=+$.%!~*'()".toList.contains c ∨ (verbatim ∧ ",[]".toList.contains c)

/-- A tag. -/
def fetchTag : ScanM Unit := do
  saveSimpleKey
  modify fun s => { s with simpleKeyAllowed := false }
  let startMark := (← get).mark
  let f ← fuel
  let (handle, suffix) ← do
    if (← peekAt 1) = '<' then
      skip; skip
      let uri ← readWhile (fun c => isTagChar true c ∧ c ≠ '>') f ""
      if uri.isEmpty then fail startMark "did not find expected tag URI"
      if (← cur) ≠ '>' then fail startMark "did not find the expected '>'"
      skip
      pure ("", uri)
    else
      skip
      let name ← readWhile isAlpha f ""
      if (← cur) = '!' then
        skip
        let suffix ← readWhile (isTagChar false) f ""
        if suffix.isEmpty then fail startMark "did not find expected tag URI"
        pure ("!" ++ name ++ "!", suffix)
      else
        let rest ← readWhile (isTagChar false) f ""
        let suffix := name ++ rest
        if suffix.isEmpty then pure ("", "!") else pure ("!", suffix)
  let c ← cur
  if !isBlankZ c then
    if (← get).flowLevel = 0 ∨ c ≠ ',' then
      fail startMark "did not find expected whitespace or line break"
  appendToken ⟨.tag handle suffix, startMark, (← get).mark⟩

/-! ### Scalars -/

/-- Joins the line breaks between two pieces of a folded scalar: one break becomes a space,
more breaks are kept but the first. -/
def fold (s leadingBreak trailingBreaks : String) : String :=
  if leadingBreak.front = '\n' then
    if trailingBreaks.isEmpty then s.push ' ' else s ++ trailingBreaks
  else s ++ leadingBreak ++ trailingBreaks

/-- Moves past the indentation spaces of a block scalar line: all of them while the
indentation is not known, otherwise up to the indentation. -/
def indentSpaces (indent : Nat) : Nat → ScanM Unit
  | 0 => pure ()
  | k + 1 => do
    if (indent = 0 ∨ (← get).mark.column < indent) ∧ (← cur) = ' ' then
      skip
      indentSpaces indent k

/-- Moves past indentation and empty lines in a block scalar, keeping the breaks; settles the
indentation from the deepest empty line when it is not known yet. Gives the indentation,
the breaks and where the last break ended. -/
def blockScalarBreaks (startMark : Mark) (indent : Nat) (breaks : String) (stopMark : Mark) :
    Nat → Nat → ScanM (Nat × String × Mark)
  | 0, _ => pure (indent, breaks, stopMark)
  | n + 1, maxIndent => do
    indentSpaces indent (← fuel)
    let col := (← get).mark.column
    let maxIndent := max maxIndent col
    if (indent = 0 ∨ col < indent) ∧ (← cur) = '\t' then
      fail startMark "found a tab character where an indentation space is expected"
    if !isBreak (← cur) then
      let outer := (← get).indent
      let indent := if indent = 0 then max (max maxIndent (Int.toNat (outer + 1))) 1 else indent
      pure (indent, breaks, stopMark)
    else
      let breaks ← readLine breaks
      blockScalarBreaks startMark indent breaks (← get).mark n maxIndent

/-- A literal (`|`) or folded (`>`) block scalar. -/
def scanBlockScalar (literal : Bool) : ScanM Token := do
  let startMark := (← get).mark
  let f ← fuel
  skip
  let mut chomping : Int := 0
  let mut increment : Nat := 0
  let c ← cur
  if c = '+' ∨ c = '-' then
    chomping := if c = '+' then 1 else -1
    skip
    let d ← cur
    if d.isDigit then
      if d = '0' then fail startMark "found an indentation indicator equal to 0"
      increment := d.toNat - 48
      skip
  else if c.isDigit then
    if c = '0' then fail startMark "found an indentation indicator equal to 0"
    increment := c.toNat - 48
    skip
    let d ← cur
    if d = '+' ∨ d = '-' then
      chomping := if d = '+' then 1 else -1
      skip
  skipWhile isBlank f
  if (← cur) = '#' then skipWhile (fun c => !isBreakZ c) f
  if !isBreakZ (← cur) then fail startMark "did not find expected comment or line break"
  if isBreak (← cur) then skipLine
  let stopMark := (← get).mark
  let parentIndent := (← get).indent
  let indent : Nat :=
    if increment > 0 then
      if parentIndent ≥ 0 then parentIndent.toNat + increment else increment
    else 0
  let (indent, trailing, stopMark) ← blockScalarBreaks startMark indent "" stopMark f 0
  let rec lines : Nat → String → String → String → Bool → Mark → ScanM (String × String × String × Mark)
    | 0, s, lb, tb, _, m => pure (s, lb, tb, m)
    | k + 1, s, lb, tb, leadingBlank, m => do
      if (← get).mark.column ≠ indent ∨ (← cur) = nul then return (s, lb, tb, m)
      let trailingBlank := isBlank (← cur)
      let s :=
        if !literal ∧ !leadingBlank ∧ !trailingBlank ∧ lb.front = '\n' ∧ !lb.isEmpty then
          if tb.isEmpty then s.push ' ' else s
        else s ++ lb
      let s := s ++ tb
      let leadingBlank := isBlank (← cur)
      let s ← readWhile (fun c => !isBreakZ c) f s
      let lb ← readLine ""
      let (_, tb, m) ← blockScalarBreaks startMark indent "" (← get).mark f 0
      lines k s lb tb leadingBlank m
  let (s, leadingBreak, trailingBreaks, stopMark) ← lines f "" "" trailing false stopMark
  let s := if chomping ≠ -1 then s ++ leadingBreak else s
  let s := if chomping = 1 then s ++ trailingBreaks else s
  pure ⟨.scalar s (if literal then .literal else .folded), startMark, stopMark⟩

/-- Whether a document marker (`---` or `...` and a blank) starts here at column zero. -/
def atDocumentMarker : ScanM Bool := do
  if (← get).mark.column ≠ 0 then return false
  let a ← peekAt 0
  let b ← peekAt 1
  let c ← peekAt 2
  let d ← peekAt 3
  pure (((a = '-' ∧ b = '-' ∧ c = '-') ∨ (a = '.' ∧ b = '.' ∧ c = '.')) ∧ isBlankZ d)

/-- The character of a Unicode code point, as an escape writes it. -/
def escapeCode (startMark : Mark) (digits : Nat) : ScanM Char := do
  let mut value := 0
  for k in List.range digits do
    let c ← peekAt k
    if !isHex c then fail startMark "did not find expected hexdecimal number"
    value := 16 * value + hexValue c
  if (0xD800 ≤ value ∧ value ≤ 0xDFFF) ∨ value > 0x10FFFF then
    fail startMark "found invalid Unicode character escape code"
  for _ in List.range digits do skip
  pure (Char.ofNat value)

/-- The character a one-letter escape stands for. -/
def escapeChar (c : Char) : Option Char :=
  match c with
  | '0' => some (Char.ofNat 0)
  | 'a' => some (Char.ofNat 7)
  | 'b' => some (Char.ofNat 8)
  | 't' => some '\t'
  | '\t' => some '\t'
  | 'n' => some '\n'
  | 'v' => some (Char.ofNat 11)
  | 'f' => some (Char.ofNat 12)
  | 'r' => some '\r'
  | 'e' => some (Char.ofNat 27)
  | ' ' => some ' '
  | '"' => some '"'
  | '\'' => some '\''
  | '\\' => some '\\'
  | 'N' => some (Char.ofNat 0x85)
  | '_' => some (Char.ofNat 0xA0)
  | 'L' => some (Char.ofNat 0x2028)
  | 'P' => some (Char.ofNat 0x2029)
  | _ => none

/-- The characters of a quoted scalar up to a blank or its closing quote; gives whether it
stopped at an escaped line break. -/
def quotedRun (single : Bool) (startMark : Mark) : Nat → String → ScanM (String × Bool)
  | 0, s => pure (s, false)
  | n + 1, s => do
    let c ← cur
    if isBlankZ c then return (s, false)
    let d ← peekAt 1
    if single ∧ c = '\'' ∧ d = '\'' then
      skip; skip
      quotedRun single startMark n (s.push '\'')
    else if single ∧ c = '\'' then pure (s, false)
    else if !single ∧ c = '"' then pure (s, false)
    else if !single ∧ c = '\\' ∧ isBreak d then
      skip
      skipLine
      pure (s, true)
    else if !single ∧ c = '\\' then
      let codeLength := if d = 'x' then 2 else if d = 'u' then 4 else if d = 'U' then 8 else 0
      if codeLength > 0 then
        skip; skip
        let ch ← escapeCode startMark codeLength
        quotedRun single startMark n (s.push ch)
      else
        match escapeChar d with
        | some ch =>
          skip; skip
          quotedRun single startMark n (s.push ch)
        | none => throw ⟨.scanner, startMark, "found unknown escape character", (← get).mark⟩
    else quotedRun single startMark n (← read s)

/-- The blanks and line breaks after a run of a quoted or plain scalar: the blanks kept
when no break follows, the first break and the further breaks. -/
structure Gap where
  /-- Blanks before any break. -/
  whitespaces : String
  /-- The first line break. -/
  leadingBreak : String
  /-- The further line breaks. -/
  trailingBreaks : String
  /-- Whether a line break was seen. -/
  leadingBlanks : Bool

/-- Reads the blanks and breaks of a quoted scalar. -/
def quotedGap : Nat → Gap → ScanM Gap
  | 0, g => pure g
  | n + 1, g => do
    let c ← cur
    if isBlank c then
      if !g.leadingBlanks then quotedGap n { g with whitespaces := ← read g.whitespaces }
      else
        skip
        quotedGap n g
    else if isBreak c then
      if !g.leadingBlanks then
        quotedGap n { g with whitespaces := "", leadingBreak := ← readLine g.leadingBreak, leadingBlanks := true }
      else quotedGap n { g with trailingBreaks := ← readLine g.trailingBreaks }
    else pure g

/-- A single- or double-quoted scalar. -/
def scanFlowScalar (single : Bool) : ScanM Token := do
  let startMark := (← get).mark
  skip
  let f ← fuel
  let rec go : Nat → String → ScanM String
    | 0, s => pure s
    | n + 1, s => do
      if ← atDocumentMarker then
        throw ⟨.scanner, startMark, "found unexpected document indicator", (← get).mark⟩
      if (← cur) = nul then
        throw ⟨.scanner, startMark, "found unexpected end of stream", (← get).mark⟩
      let (s, escapedBreak) ← quotedRun single startMark f s
      let c ← cur
      if (single ∧ c = '\'') ∨ (!single ∧ c = '"') then return s
      let g ← quotedGap f ⟨"", "", "", escapedBreak⟩
      let s :=
        if g.leadingBlanks then
          if !g.leadingBreak.isEmpty ∧ g.leadingBreak.front = '\n' then
            if g.trailingBreaks.isEmpty then s.push ' ' else s ++ g.trailingBreaks
          else s ++ g.leadingBreak ++ g.trailingBreaks
        else s ++ g.whitespaces
      go n s
  let s ← go f ""
  skip
  pure ⟨.scalar s (if single then .singleQuoted else .doubleQuoted), startMark, (← get).mark⟩

/-- Whether a plain scalar ends before this character. -/
def endsPlain (flow : Bool) : ScanM Bool := do
  let c ← cur
  let d ← peekAt 1
  pure ((c = ':' ∧ isBlankZ d) ∨ (flow ∧ (c = ',' ∨ c = '?' ∨ c = '[' ∨ c = ']' ∨ c = '{' ∨ c = '}')))

/-- A plain scalar. -/
def scanPlainScalar : ScanM Token := do
  let startMark := (← get).mark
  let indent := (← get).indent + 1
  let f ← fuel
  let rec run : Nat → String → Gap → Mark → ScanM (String × Gap × Mark)
    | 0, s, g, m => pure (s, g, m)
    | n + 1, s, g, m => do
      if isBlankZ (← cur) then return (s, g, m)
      if ← endsPlain ((← get).flowLevel > 0) then return (s, g, m)
      let (s, g) :=
        if g.leadingBlanks then
          (fold s g.leadingBreak g.trailingBreaks, { g with leadingBreak := "", trailingBreaks := "", leadingBlanks := false })
        else if !g.whitespaces.isEmpty then (s ++ g.whitespaces, { g with whitespaces := "" })
        else (s, g)
      let s ← read s
      run n s g (← get).mark
  let rec gap : Nat → Gap → ScanM Gap
    | 0, g => pure g
    | n + 1, g => do
      let c ← cur
      if isBlank c then
        if g.leadingBlanks ∧ ((← get).mark.column : Int) < indent ∧ c = '\t' then
          fail startMark "found a tab character that violates indentation"
        if !g.leadingBlanks then gap n { g with whitespaces := ← read g.whitespaces }
        else
          skip
          gap n g
      else if isBreak c then
        if !g.leadingBlanks then
          gap n { g with whitespaces := "", leadingBreak := ← readLine g.leadingBreak, leadingBlanks := true }
        else gap n { g with trailingBreaks := ← readLine g.trailingBreaks }
      else pure g
  let rec go : Nat → String → Gap → Mark → ScanM (String × Gap × Mark)
    | 0, s, g, m => pure (s, g, m)
    | n + 1, s, g, m => do
      if ← atDocumentMarker then return (s, g, m)
      if (← cur) = '#' then return (s, g, m)
      let (s, g, m) ← run f s g m
      let c ← cur
      if !(isBlank c ∨ isBreak c) then return (s, g, m)
      let g ← gap f g
      if (← get).flowLevel = 0 ∧ ((← get).mark.column : Int) < indent then return (s, g, m)
      go n s g m
  let (s, g, stopMark) ← go f "" ⟨"", "", "", false⟩ startMark
  if g.leadingBlanks then modify fun st => { st with simpleKeyAllowed := true }
  pure ⟨.scalar s .plain, startMark, stopMark⟩

/-- A block scalar. -/
def fetchBlockScalar (literal : Bool) : ScanM Unit := do
  removeSimpleKey
  modify fun s => { s with simpleKeyAllowed := true }
  appendToken (← scanBlockScalar literal)

/-- A quoted scalar. -/
def fetchFlowScalar (single : Bool) : ScanM Unit := do
  saveSimpleKey
  modify fun s => { s with simpleKeyAllowed := false }
  appendToken (← scanFlowScalar single)

/-- A plain scalar. -/
def fetchPlainScalar : ScanM Unit := do
  saveSimpleKey
  modify fun s => { s with simpleKeyAllowed := false }
  appendToken (← scanPlainScalar)

/-! ### The dispatcher -/

/-- Whether a character cannot start a plain scalar on its own. -/
def isIndicator (c : Char) : Bool := "-?:,[]\x7b\x7d#&*!|>'\"%@".toList.contains c ∨ c.toNat = 96

/-- Scans the next token. -/
def fetchNextToken : ScanM Unit := do
  let s ← get
  if !s.streamStartProduced then return ← fetchStreamStart
  let scanMark := s.mark
  scanToNextToken (← fuel)
  unrollIndent (← get).mark.column scanMark (← fuel)
  let c ← cur
  let s ← get
  let col0 := s.mark.column = 0
  if c = nul then return ← fetchStreamEnd
  if col0 ∧ c = '%' then return ← fetchDirective
  let d ← peekAt 1
  let e ← peekAt 2
  let f ← peekAt 3
  if col0 ∧ c = '-' ∧ d = '-' ∧ e = '-' ∧ isBlankZ f then return ← fetchDocumentIndicator .documentStart
  if col0 ∧ c = '.' ∧ d = '.' ∧ e = '.' ∧ isBlankZ f then return ← fetchDocumentIndicator .documentEnd
  let flow := s.flowLevel > 0
  if c = '[' then return ← fetchFlowCollectionStart .flowSequenceStart
  if c = '{' then return ← fetchFlowCollectionStart .flowMappingStart
  if c = ']' then return ← fetchFlowCollectionEnd .flowSequenceEnd
  if c = '}' then return ← fetchFlowCollectionEnd .flowMappingEnd
  if c = ',' then return ← fetchFlowEntry
  if c = '-' ∧ isBlankZ d then return ← fetchBlockEntry
  if c = '?' ∧ (flow ∨ isBlankZ d) then return ← fetchKey
  if c = ':' ∧ (flow ∨ isBlankZ d) then return ← fetchValue
  if c = '*' then return ← fetchAnchor true
  if c = '&' then return ← fetchAnchor false
  if c = '!' then return ← fetchTag
  if c = '|' ∧ !flow then return ← fetchBlockScalar true
  if c = '>' ∧ !flow then return ← fetchBlockScalar false
  if c = '\'' then return ← fetchFlowScalar true
  if c = '"' then return ← fetchFlowScalar false
  if !(isBlankZ c ∨ isIndicator c) ∨ (c = '-' ∧ !isBlank d) ∨
      (!flow ∧ (c = '?' ∨ c = ':') ∧ !isBlankZ d) then
    return ← fetchPlainScalar
  throw ⟨.scanner, s.mark, "found character that cannot start any token", s.mark⟩

/-- Scans until the head token is final: at least three tokens are queued and the head
cannot become a key any more. -/
def fetchMoreTokens : Nat → ScanM Unit
  | 0 => pure ()
  | n + 1 => do
    let s ← get
    if s.head + 2 < s.tokens.size then
      match s.keysByToken.lookup s.head with
      | none => return
      | some i =>
        if !(← checkKeyAt i) then return
    fetchNextToken
    fetchMoreTokens n

/-- The head token. -/
def peekToken : ScanM Token := do
  let s ← get
  if !s.tokenAvailable then
    fetchMoreTokens (4 * s.input.size + 16)
    modify fun s => { s with tokenAvailable := true }
  let s ← get
  match s.tokens[s.head]? with
  | some t => pure t
  | none => pure ⟨.streamEnd, s.mark, s.mark⟩

/-- Hands out the head token. -/
def skipToken : ScanM Unit := do
  let s ← get
  let isEnd := match s.tokens[s.head]? with
    | some t => t.kind = .streamEnd
    | none => true
  set { s with tokenAvailable := false, head := s.head + 1, streamEndProduced := isEnd }

end Scanner

/-- The characters a YAML text may hold: tab, line feed, carriage return, the printable
ASCII characters, the next-line character and the printable ranges above. -/
def allowedChar (c : Char) : Bool :=
  let n := c.toNat
  n = 0x09 ∨ n = 0x0A ∨ n = 0x0D ∨ (0x20 ≤ n ∧ n ≤ 0x7E) ∨ n = 0x85 ∨ (0xA0 ≤ n ∧ n ≤ 0xD7FF) ∨
    (0xE000 ≤ n ∧ n ≤ 0xFFFD) ∨ 0x10000 ≤ n

theorem problem_text_first_line (c p : Mark) (s : String) (hc : c.line = 0) (hp : p.line = 0) :
    (Problem.mk .parser c s p).text = s := by
  simp [Problem.text, hc, hp]

end Yaml

end MailStore
