import MailStore.Console.Scripted
import MailStore.Entity.Basic

/-!
# A store world in memory

The console drives the entity layer against a world of stores held in memory: stores, each
with an optional top folder, and folders holding folders and messages. Objects are known by
text ids whose UTF-8 bytes are their entry ids.

An object's properties are computed on every fetch: its entry id, its parent's entry id
(for folders and messages below another folder), the entry id of a store's top folder, and
whether a folder has child folders; the object's own properties override those with the
same property id, and the list is ordered by property id. Every fetch passes through the
inline limit, as for a single object in memory.

Tables are always current: the stores of the world, a folder's child folders, a folder's
messages. A read takes the rows in list order, ignores sorting, and applies the window
(skip clamped to the rows, then a positive take). Every read is recorded. Subscriptions are
kept per table; the world calls their listeners only between steps.

Each call counts under `call:target` (the target is the text of the object or table) and
takes the faults queued for it; besides `fail`, `short` and `long`, a read honours
`short_row` (every row loses its last column) and `notify` (the table's listeners are called
after the step).
-/

namespace MailStore

namespace Console

/-- The kinds of objects in the world. -/
inductive NodeKind where
  | store | folder | message
deriving DecidableEq, Repr, Inhabited

/-- A property an object was given, with the size its stream reports, if set. -/
structure OwnProp where
  /-- The property. -/
  raw : RawProp
  /-- The size a stream of it reports instead of its length. -/
  streamSize : Option Nat

/-- An object of the world. -/
structure Node where
  /-- Its kind. -/
  kind : NodeKind
  /-- Its id as text. -/
  label : String
  /-- The store it belongs to. -/
  home : Nat
  /-- The folder it hangs below. -/
  parent : Option Nat
  /-- Its own properties. -/
  props : List OwnProp
  /-- Its child folders, in order. -/
  folders : List Nat
  /-- Its messages, in order. -/
  messages : List Nat
  /-- A store's top folder. -/
  root : Option Nat
  /-- A store's receive folder. -/
  receive : Option Bytes
  /-- A store's named properties. -/
  registry : NameRegistry

/-- The entry id of an object. -/
def Node.id (n : Node) : Bytes := n.label.toUTF8.toList

/-- A table of the world. -/
inductive WorldTable where
  /-- The stores. -/
  | stores
  /-- The child folders of a folder. -/
  | hierarchy (n : Nat)
  /-- The messages of a folder. -/
  | contents (n : Nat)
deriving DecidableEq, Repr, Inhabited

namespace WorldTable

/-- The handle of a table. -/
def handle : WorldTable → Nat
  | .stores => 0
  | .hierarchy n => 2 * n + 1
  | .contents n => 2 * n + 2

/-- The table of a handle. -/
def ofHandle (h : Nat) : WorldTable :=
  if h = 0 then .stores
  else if h % 2 = 1 then .hierarchy ((h - 1) / 2)
  else .contents ((h - 2) / 2)

theorem ofHandle_handle (t : WorldTable) : ofHandle t.handle = t := by
  cases t with
  | stores => rfl
  | hierarchy n =>
    have h1 : (2 * n + 1) % 2 = 1 := by omega
    simp [ofHandle, handle, h1]
  | contents n =>
    have h1 : (2 * n + 2) % 2 = 0 := by omega
    simp [ofHandle, handle, h1]

end WorldTable

/-- A subscription to a table. -/
structure WorldSub where
  /-- The table's key. -/
  table : String
  /-- Whom to call. -/
  listener : Listener
  /-- Whether it was not ended yet. -/
  live : Bool

/-- The world: its objects, its stores in order, the inline limit, the subscriptions, and
what the current step read and asked to notify. -/
structure World where
  /-- Every object made, detached ones included. -/
  nodes : Array Node
  /-- The stores, in order. -/
  stores : List Nat
  /-- The longest value fetched in bulk. -/
  limit : Int
  /-- The subscriptions, by handle. -/
  subs : Array WorldSub
  /-- The reads of the current step. -/
  reads : List Json
  /-- Tables whose listeners are to be called after the current step. -/
  pending : List String

namespace World

/-- An object. -/
def node (w : World) (n : Nat) : Option Node := w.nodes[n]?

/-- The text of an object. -/
def label (w : World) (n : Nat) : String := ((w.node n).map Node.label).getD ""

/-- The objects below an object, itself first; at most `fuel` levels deep. -/
def subtree (w : World) : Nat → Nat → List Nat
  | 0, _ => []
  | fuel + 1, n =>
    match w.node n with
    | some node => n :: (node.messages ++ node.folders.flatMap (subtree w fuel))
    | none => []

/-- The folders and messages of a store. -/
def storeObjects (w : World) (s : Nat) : List Nat :=
  match (w.node s).bind Node.root with
  | some r => w.subtree (w.nodes.size + 1) r
  | none => []

/-- Every object in the world. -/
def attached (w : World) : List Nat :=
  w.stores.flatMap fun s => s :: w.storeObjects s

/-- The object in the world with a text id. -/
def find? (w : World) (label : String) : Option Nat :=
  w.attached.find? fun n => w.label n = label

/-- The properties of an object, computed now. -/
def props (w : World) (n : Nat) : List RawProp :=
  match w.node n with
  | none => []
  | some node =>
    let parent := match node.parent.bind w.node with
      | some p => [⟨Tag.parentEntryId, p.id⟩]
      | none => []
    let root := match node.kind, node.root.bind w.node with
      | .store, some r => [⟨Tag.ipmSubtree, r.id⟩]
      | _, _ => []
    let subfolders := match node.kind with
      | .folder => [⟨Tag.subfolders, Bytes.ofNatLE 2 (if node.folders.isEmpty then 0 else 1)⟩]
      | _ => []
    let computed : List RawProp := [⟨Tag.entryId, node.id⟩] ++ parent ++ root ++ subfolders
    let own := node.props.map OwnProp.raw
    let kept := computed.filter fun c => own.all fun p => p.tag.id ≠ c.tag.id
    (kept ++ own).mergeSort fun a b => a.tag.id ≤ b.tag.id

/-- The key of a table. -/
def tableKey (w : World) : WorldTable → String
  | .stores => "stores"
  | .hierarchy n => "hierarchy:" ++ w.label n
  | .contents n => "contents:" ++ w.label n

/-- The objects a table lists. -/
def tableRows (w : World) : WorldTable → List Nat
  | .stores => w.stores
  | .hierarchy n => ((w.node n).map Node.folders).getD []
  | .contents n => ((w.node n).map Node.messages).getD []

/-- The rows in a window: skip clamped to the rows, then a positive take. -/
def window {α : Type} (rows : List α) (d : Directives) : List α := d.window rows

/-- Changes an object. -/
def modifyNode (w : World) (n : Nat) (f : Node → Node) : World :=
  { w with nodes := w.nodes.modify n f }

/-- Adds an object and gives its number. -/
def addNode (w : World) (node : Node) : World × Nat :=
  ({ w with nodes := w.nodes.push node }, w.nodes.size)

/-- Detaches an object from the world, with everything below it. -/
def detach (w : World) (n : Nat) : World :=
  let w := { w with stores := w.stores.filter (· ≠ n) }
  let w := { w with nodes := w.nodes.map fun node =>
    { node with folders := node.folders.filter (· ≠ n), messages := node.messages.filter (· ≠ n),
                root := if node.root = some n then none else node.root } }
  w

end World

/-! ### Reading specs -/

/-- Sets a property, replacing one with the same property id. -/
def OwnProp.upsert (ps : List OwnProp) (p : OwnProp) : List OwnProp :=
  if ps.any (·.raw.tag.id = p.raw.tag.id) then
    ps.map fun q => if q.raw.tag.id = p.raw.tag.id then p else q
  else ps ++ [p]

/-- A property given in a spec: a raw property and the size its stream reports. -/
def ownPropOf (j : Json) : Except Failure OwnProp := do
  let raw ← rawPropOf j
  let size ← match field? j "stream_size" with
    | some s => match numberText? s with
      | some t => pure (some (← IntLiteral.readUnsigned t 64))
      | none => throw (badRequest "stream_size: number expected")
    | none => pure none
  pure ⟨raw, size⟩

/-- A text property of a spec, when the field is given. -/
def textProp (j : Json) (key : String) (t : Tag) : Except Failure (List OwnProp) := do
  match field? j key with
  | some (.string s) => pure [⟨⟨t, Utf16.encode s⟩, none⟩]
  | some _ => throw (badRequest (key ++ ": string expected"))
  | none => pure []

/-- The properties of a spec: name, class and subject, then the explicit ones. -/
def specProps (j : Json) : Except Failure (List OwnProp) := do
  let named := (← textProp j "name" Tag.displayName) ++ (← textProp j "class" Tag.containerClass) ++
    (← textProp j "subject" Tag.subject)
  let own ← (← listField j "props").mapM ownPropOf
  pure ((named ++ own).foldl OwnProp.upsert [])

/-- An object made from a spec. -/
def nodeOf (kind : NodeKind) (home : Nat) (parent : Option Nat) (j : Json) : Except Failure Node := do
  pure ⟨kind, ← strField j "id", home, parent, ← specProps j, [], [], none, none, []⟩

/-- Adds a message below a folder. -/
def World.addMessage (w : World) (parent : Nat) (j : Json) : Except Failure World := do
  let home := ((w.node parent).map Node.home).getD parent
  let (w, n) := w.addNode (← nodeOf .message home (some parent) j)
  pure (w.modifyNode parent fun p => { p with messages := p.messages ++ [n] })

/-- Adds a folder with everything below it, from a spec at most `fuel` levels deep; gives
the world and the folder. -/
def World.addFolderSpec (home : Nat) (parent : Option Nat) : Nat → World → Json → Except Failure (World × Nat)
  | 0, _, _ => .error (badRequest "folder specs nest too deep")
  | fuel + 1, w, j => do
    let (w, n) := w.addNode (← nodeOf .folder home parent j)
    let w ← (← listField j "folders").foldlM (fun w c => do
      let (w, c) ← World.addFolderSpec home (some n) fuel w c
      pure (w.modifyNode n fun p => { p with folders := p.folders ++ [c] })) w
    let w ← (← listField j "messages").foldlM (fun w m => w.addMessage n m) w
    pure (w, n)

/-- How deep folder specs may nest. -/
def specDepth : Nat := 10000

/-- Adds a folder below a folder, from a spec. -/
def World.addFolder (w : World) (parent : Nat) (j : Json) : Except Failure World := do
  let home := ((w.node parent).map Node.home).getD parent
  let (w, n) ← World.addFolderSpec home (some parent) specDepth w j
  pure (w.modifyNode parent fun p => { p with folders := p.folders ++ [n] })

/-- Adds a store from a spec. -/
def World.addStore (w : World) (j : Json) : Except Failure World := do
  let n := w.nodes.size
  let base ← nodeOf .store n none j
  let registry ← NameRegistry.ofJson (← listField j "names")
  let receive := match field? j "receive_folder" with
    | some (.string s) => some s.bytes
    | _ => none
  let (w, _) := w.addNode { base with registry := registry, receive := receive }
  let w := { w with stores := w.stores ++ [n] }
  match field? j "root" with
  | some r =>
    let (w, root) ← World.addFolderSpec n none specDepth w r
    pure (w.modifyNode n fun s => { s with root := some root })
  | none => pure w

/-- A world of the given stores. -/
def World.ofSpecs (limit : Int) (stores : List Json) : Except Failure World :=
  stores.foldlM World.addStore ⟨#[], [], limit, #[], [], []⟩

/-! ### The world as a driver -/

/-- A script state that holds a world. -/
class WorldHost (σ : Type) extends Rigged σ where
  /-- The world of a state. -/
  world : σ → World
  /-- The state with another world. -/
  setWorld : σ → World → σ

namespace WorldDriver

variable {σ : Type} [WorldHost σ]

/-- The world. -/
def world : ScriptM σ World := do return WorldHost.world (← get)

/-- Changes the world. -/
def modifyWorld (f : World → World) : ScriptM σ Unit :=
  modify fun s => WorldHost.setWorld s (f (WorldHost.world s))

/-- The text of an entry id, as calls name their target. -/
def idText (id : Bytes) : String := (Text.mk id).toString

/-- The object a handle names. -/
def nodeAt (h : Nat) : ScriptM σ Node := do
  match (← world).node h with
  | some n => pure n
  | none => throw (Failure.other "no such object")

/-- The registry of the store an object belongs to. -/
def registryOf (h : Nat) : ScriptM σ NameRegistry := do
  let n ← nodeAt h
  pure (← nodeAt n.home).registry

/-- The resolver of the store an object belongs to. -/
def resolverOf (h : Nat) : ScriptM σ (NameResolver (ScriptM σ)) := do
  let n ← nodeAt h
  let store ← nodeAt n.home
  pure (Script.registryResolver (registryOf h) (some store.label) false fun _ _ => pure ())

/-- Opens an object of a store by entry id, of the wanted kind. -/
def openObject (call : String) (kind : NodeKind) (kindName otherName : String) (h : Nat)
    (id : Bytes) : ScriptM σ Nat := do
  discard (Script.enter (Script.Call.on call (some (idText id))))
  let w ← world
  match (w.storeObjects h).find? fun n => ((w.node n).map Node.id) = some id with
  | some n =>
    if ((w.node n).map Node.kind) = some kind then pure n
    else throw (Failure.because .wrongType (Bytes.toHex id ++ " is a " ++ otherName))
  | none => throw (Failure.because .noEntry (kindName ++ " " ++ Bytes.toHex id))

/-- A read as the answers record it. -/
def readRecord (key : String) (req : ReadRequest) : Json :=
  let sort (o : SortOrder) := Json.object [("tag", tag o.tag), ("descending", .bool o.descending)]
  .object [("table", .str key), ("columns", .array (req.columns.map tag)),
    ("sorts", .array (req.sorts.map sort)), ("skip", .int req.directives.skip),
    ("take", .int req.directives.take), ("order_by", .array (req.directives.orderBy.map sort))]

/-- The world as a store driver. -/
def driver : Driver (ScriptM σ) where
  storesTable := do
    discard (Script.enter ⟨"stores_table", "stores_table ", ["stores_table:", "stores_table"]⟩)
    pure WorldTable.stores.handle
  openStore id := do
    discard (Script.enter (Script.Call.on "open_store" (some (idText id))))
    let w ← world
    match w.stores.find? fun n => ((w.node n).map Node.id) = some id with
    | some n => pure n
    | none => throw (Failure.because .noEntry ("store " ++ Bytes.toHex id))
  getProps h tags := do
    let n ← nodeAt h
    let kind ← Script.enter (Script.Call.on "get_props" (some n.label))
    let w ← world
    let props := w.props h
    let reply := match tags with
      | none => props.map fun p => project props w.limit p.tag
      | some ts => ts.map (project props w.limit)
    pure (reshape kind ⟨Tag.null, []⟩ reply)
  openStream h t := do
    let n ← nodeAt h
    discard (Script.enter (Script.Call.on "open_stream" (some n.label)))
    let w ← world
    match (w.props h).find? fun p => p.tag.id = t.id with
    | none => throw (Failure.because .noEntry ("property " ++ t.toText))
    | some p =>
      let size := ((n.props.find? fun q => q.raw.tag.id = t.id).bind OwnProp.streamSize).getD p.data.length
      Script.openStream p.data size false
  streams := Script.streams
  idsOfNames h names := do (← resolverOf h).idsOfNames names
  namesOfIds h tags := do (← resolverOf h).namesOfIds tags
  openFolder h id := openObject "open_folder" .folder "folder" "message" h id
  openMessage h id := openObject "open_message" .message "message" "folder" h id
  receiveFolder h := do
    let n ← nodeAt h
    discard (Script.enter (Script.Call.on "receive_folder" (some n.label)))
    pure (n.receive.getD [])
  hierarchyTable h := do
    let n ← nodeAt h
    discard (Script.enter (Script.Call.on "hierarchy_table" (some n.label)))
    pure (WorldTable.hierarchy h).handle
  contentsTable h := do
    let n ← nodeAt h
    discard (Script.enter (Script.Call.on "contents_table" (some n.label)))
    pure (WorldTable.contents h).handle
  read t req := do
    let table := WorldTable.ofHandle t
    let key := (← world).tableKey table
    modifyWorld fun w => { w with reads := w.reads ++ [readRecord key req] }
    let kind ← Script.enter (Script.Call.on "read" (some key))
    if kind = some "notify" then modifyWorld fun w => { w with pending := w.pending ++ [key] }
    let w ← world
    let rows := (World.window (w.tableRows table) req.directives).map fun n =>
      let props := w.props n
      req.columns.map (project props w.limit)
    pure (if kind = some "short_row" then rows.map List.dropLast else rows)
  subscribe t l := do
    let key := (← world).tableKey (WorldTable.ofHandle t)
    discard (Script.enter (Script.Call.on "subscribe" (some key)))
    let w ← world
    modifyWorld fun w => { w with subs := w.subs.push ⟨key, l, true⟩ }
    pure w.subs.size
  unsubscribe s := do
    let key := (((← world).subs[s]?).map WorldSub.table).getD ""
    discard (Script.enter (Script.Call.on "unsubscribe" (some key)))
    match (← world).subs[s]? with
    | some sub =>
      if sub.live then modifyWorld fun w => { w with subs := w.subs.modify s fun x => { x with live := false } }
      else throw (Failure.other "already unsubscribed")
    | none => throw (Failure.other "already unsubscribed")

end WorldDriver

end Console

end MailStore
