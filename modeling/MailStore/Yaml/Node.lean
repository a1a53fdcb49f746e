import MailStore.Yaml.Parser
import MailStore.Yaml.Scalar

/-!
# YAML documents as trees

The first document of a YAML stream, composed from its events into a tree of nodes:
scalars, sequences, mappings and aliases. Each node keeps its tag and the line it starts on
(counted from one). A scalar's tag is its explicit tag in short form, `!!str` for a quoted
or block scalar, `!!merge` for a plain `<<`, and otherwise the tag its text resolves to. A
sequence is `!!seq` and a mapping `!!map` unless tagged.

An anchored node is numbered when it starts, and an alias refers to the number of the
latest node with its anchor at that point; the nodes are kept by number beside the tree.
An alias to an anchor not yet seen is the failure `unknown anchor 'a' referenced`. An
alias inside the node it names is allowed here and refused when the tree is read.

Composing reads events up to the end of the first document, so a syntax error after it is
never seen.

## Main definitions

* `Yaml.Node`: the tree.
* `Yaml.Document.ofText`: the first document of a text, or the failure's message.
-/

namespace MailStore

namespace Yaml

/-- A node of a YAML document. -/
inductive Node where
  /-- A scalar: its tag, text and style, and its line. -/
  | scalar (tag text : String) (style : ScalarStyle) (line : Nat)
  /-- A sequence: its tag, items and line. -/
  | sequence (tag : String) (items : List Node) (line : Nat)
  /-- A mapping: its tag, pairs of key and value, and line. -/
  | mapping (tag : String) (pairs : List (Node × Node)) (line : Nat)
  /-- An alias: the anchor's name, the number of the node it names, and its line. -/
  | aliasOf (name : String) (target : Nat) (line : Nat)
deriving Inhabited

namespace Node

/-- The line a node starts on, from one. -/
def line : Node → Nat
  | .scalar _ _ _ l | .sequence _ _ l | .mapping _ _ l | .aliasOf _ _ l => l

/-- A node's tag; an alias has none. -/
def tag : Node → String
  | .scalar t _ _ _ | .sequence t _ _ | .mapping t _ _ => t
  | .aliasOf _ _ _ => ""

/-- A node's text: a scalar's text, an alias's anchor name, empty for collections. -/
def text : Node → String
  | .scalar _ t _ _ => t
  | .aliasOf n _ _ => n
  | _ => ""

/-- The kind of a node, as a number: scalar, sequence, mapping, alias. -/
def kind : Node → Nat
  | .scalar .. => 0
  | .sequence .. => 1
  | .mapping .. => 2
  | .aliasOf .. => 3

/-- Whether a node is a scalar that is text by its tag or its quoting. -/
def isIndicatedString : Node → Bool
  | .scalar tag _ style _ =>
    shortTag tag = strTag ∨
      ((tag = "" ∨ tag = "!") ∧ style ≠ .plain)
  | _ => false

/-- Whether a node is the merge key `<<`. -/
def isMerge : Node → Bool
  | .scalar tag text _ _ => text = "<<" ∧ (tag = "" ∨ tag = "!" ∨ shortTag tag = mergeTag)
  | _ => false

end Node

/-- The first document of a stream: its root, and the anchored nodes by number. -/
structure Document where
  /-- The root node. -/
  root : Node
  /-- The anchored nodes, by number. -/
  anchored : List (Nat × Node)
deriving Inhabited

namespace Document

/-- The events of a text up to the end of its first document, and the failure that stopped
the parser early, if one did. -/
def events (text : String) : List Event × Option Problem :=
  let rec go : Nat → Parser → List Event → List Event × Option Problem
    | 0, _, acc => (acc.reverse, none)
    | n + 1, p, acc =>
      match Parser.next.run p with
      | .error e => (acc.reverse, some e)
      | .ok (none, _) => (acc.reverse, none)
      | .ok (some ev, p') =>
        if ev.kind = .documentEnd ∨ ev.kind = .streamEnd then ((ev :: acc).reverse, none)
        else go n p' (ev :: acc)
  let text := if text.isEmpty then "\n" else text
  go (8 * text.length + 64) (Parser.start text) []

/-- The state of composing: the events left, the failure behind them, the anchors in force
with the numbers of their nodes, the next number, and the anchored nodes made. -/
structure Composer where
  /-- The events not yet read. -/
  pending : List Event
  /-- Why the events stop, if they stop early. -/
  failure : Option Problem
  /-- Anchor names and the numbers of their nodes, latest first. -/
  anchors : List (String × Nat)
  /-- The number of the next anchored node. -/
  nextId : Nat
  /-- The anchored nodes made, by number. -/
  anchored : List (Nat × Node)

/-- Composing steps; a failure is the message after `yaml: `. -/
abbrev ComposeM := StateT Composer (Except String)

/-- The next event, without reading it. -/
def peek : ComposeM Event := do
  let c ← get
  match c.pending with
  | ev :: _ => pure ev
  | [] => match c.failure with
    | some p => throw p.text
    | none => throw "attempted to go past the end of stream; corrupted value?"

/-- Reads the next event. -/
def take : ComposeM Event := do
  let ev ← peek
  modify fun c => { c with pending := c.pending.drop 1 }
  pure ev

/-- Numbers an anchored node (nothing for an empty anchor). -/
def register (anchor : String) : ComposeM (Option Nat) := do
  if anchor.isEmpty then return none
  let c ← get
  set { c with anchors := (anchor, c.nextId) :: c.anchors, nextId := c.nextId + 1 }
  pure (some c.nextId)

/-- Keeps an anchored node under its number. -/
def keep (id : Option Nat) (n : Node) : ComposeM Unit :=
  match id with
  | some i => modify fun c => { c with anchored := (i, n) :: c.anchored }
  | none => pure ()

/-- A collection's tag: its explicit tag in short form, or the default. -/
def collectionTag (tag default : String) : String :=
  if tag ≠ "" ∧ tag ≠ "!" then shortTag tag else default

/-- A scalar's tag: its explicit tag in short form; `!!str` when quoted or a block; `!!merge`
for a plain `<<`; otherwise what its text resolves to. -/
def scalarTag (tag text : String) (style : ScalarStyle) : String :=
  if tag ≠ "" ∧ tag ≠ "!" then shortTag tag
  else if style ≠ .plain then strTag
  else if text = "<<" then mergeTag
  else ((Scalar.resolve "" text).toOption.map Prod.fst).getD strTag

mutual

/-- Composes the node that starts at the next event. -/
def node : Nat → ComposeM Node
  | 0 => throw "document nests too deeply"
  | fuel + 1 => do
    let ev ← take
    let line := ev.start.line + 1
    match ev.kind with
    | .scalar anchor tag text style =>
      let id ← register anchor
      let n := Node.scalar (scalarTag tag text style) text style line
      keep id n
      pure n
    | .aliasOf name =>
      match (← get).anchors.lookup name with
      | some i => pure (Node.aliasOf name i line)
      | none => throw ("unknown anchor '" ++ name ++ "' referenced")
    | .sequenceStart anchor tag _ =>
      let id ← register anchor
      let items ← sequenceItems fuel
      let n := Node.sequence (collectionTag tag seqTag) items line
      keep id n
      pure n
    | .mappingStart anchor tag _ =>
      let id ← register anchor
      let pairs ← mappingPairs fuel
      let n := Node.mapping (collectionTag tag mapTag) pairs line
      keep id n
      pure n
    | _ => throw "did not find expected node content"

/-- Composes a sequence's items up to its end. -/
def sequenceItems : Nat → ComposeM (List Node)
  | 0 => throw "document nests too deeply"
  | fuel + 1 => do
    let ev ← peek
    if ev.kind = .sequenceEnd then
      discard take
      pure []
    else
      let item ← node fuel
      let rest ← sequenceItems fuel
      pure (item :: rest)

/-- Composes a mapping's pairs up to its end. -/
def mappingPairs : Nat → ComposeM (List (Node × Node))
  | 0 => throw "document nests too deeply"
  | fuel + 1 => do
    let ev ← peek
    if ev.kind = .mappingEnd then
      discard take
      pure []
    else
      let key ← node fuel
      let value ← node fuel
      let rest ← mappingPairs fuel
      pure ((key, value) :: rest)

end

/-- Expects an event of a kind. -/
def expect (kind : EventKind) : ComposeM Unit := do
  let ev ← take
  if ev.kind = .streamEnd ∧ kind ≠ .streamEnd then
    throw "attempted to go past the end of stream; corrupted value?"

/-- The first document of a text: none for a stream without documents, otherwise its tree,
or the failure's message (after `yaml: `). -/
def ofText (text : String) : Except String (Option Document) :=
  let (evs, failure) := events text
  let run : ComposeM (Option Node) := do
    expect .streamStart
    let ev ← peek
    if ev.kind = .streamEnd then return none
    expect .documentStart
    let root ← node (evs.length + 1)
    expect .documentEnd
    pure (some root)
  match run.run ⟨evs, failure, [], 0, []⟩ with
  | .error e => .error e
  | .ok (none, _) => .ok none
  | .ok (some root, c) => .ok (some ⟨root, c.anchored⟩)

end Document

end Yaml

end MailStore
