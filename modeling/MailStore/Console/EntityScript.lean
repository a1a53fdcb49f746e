import MailStore.Console.World
import MailStore.Console.PropertyScript
import MailStore.Entity.Query
import MailStore.Mcp.Server

/-!
# Scripts over entities

An `entity` request builds a world of stores, opens one session over it, and runs steps
against the session: navigation (`stores`, `root_folders`, `items`, …), property fetches,
cache clearing, changes to the world, notifications, and faults. Every step's answer shows
the calls the world received (`calls`), the counters that grew (`metrics`), and the table
reads (`reads`, only when there were some).

Entities are shown with a number (`ref`) that tells live objects apart: the same object
always shows the same number, numbers are given in the order objects are first shown, and
none is given twice. Letting go of the stores (`gc`) forgets their numbers, so a store
shown again gets a new one.

Entities can be kept under a name (`hold`) and used later (`held`), even after their store
is gone.
-/

namespace MailStore

namespace Console

/-- An entity as the numbering knows it; a forgotten store keeps its place. -/
inductive EntityKey where
  | store (r : StoreRef)
  | folder (f : FolderRef)
  | item (i : ItemRef)
  | conversation (c : ConversationRef)
  | forgotten (n : Nat)
deriving DecidableEq, Repr, Inhabited

/-- An entity kept under a name. -/
inductive HeldEntity where
  | folder (f : FolderRef)
  | item (i : ItemRef)
  | conversation (c : ConversationRef)

/-- The state of an entity script: the world, the rig, the session, the numbers given to
entities and to cache entries, and the entities kept under names. -/
structure EntityBench where
  /-- The stores in memory. -/
  world : World
  /-- Faults, call counts and streams. -/
  rig : Rig
  /-- The session. -/
  entities : Entities
  /-- Entities in the order they were shown. -/
  refs : RefTable EntityKey
  /-- Name-cache entries, by store and serial, in the order they were shown. -/
  nameRefs : RefTable (Nat × Nat)
  /-- Entities kept under names. -/
  held : List (String × HeldEntity)

instance : WorldHost EntityBench where
  rig := EntityBench.rig
  setRig s r := { s with rig := r }
  world := EntityBench.world
  setWorld s w := { s with world := w }

instance : EntityHost EntityBench := ⟨EntityBench.entities, fun s e => { s with entities := e }⟩

namespace EntityBench

/-- The world as the session's store. -/
def driver : Driver (EntityM EntityBench) := WorldDriver.driver

/-! ### Showing entities -/

/-- The number of an entity. -/
def number (k : EntityKey) : ScriptM EntityBench Json := do
  let s ← get
  let (n, refs) := s.refs.number k
  set { s with refs := refs }
  pure (Json.nat n)

/-- Bytes in hexadecimal. -/
def hex (b : Bytes) : Json := .str (Bytes.toHex b)

/-- A time, or `null`. -/
def time (t : Option Instant) : Json := Json.opt (fun t => .str t.rfc3339) t

/-- The zero time, `0001-01-01T00:00:00Z`. -/
def zeroTime : Instant := Instant.normalize (-62135596800) 0

/-- A store. -/
def showStore (r : StoreRef) : ScriptM EntityBench Json := do
  let ref ← number (.store r)
  let s ← Entities.store r
  pure (.object [("ref", ref), ("id", hex s.id), ("name", .string s.name)])

/-- A folder. -/
def showFolder (f : FolderRef) : ScriptM EntityBench Json := do
  let ref ← number (.folder f)
  let fs ← Entities.folder f
  let row := fs.columns
  pure (.object [("ref", ref), ("id", hex fs.id), ("parent_id", hex fs.parentId),
    ("name", .string (Row.text row 2)), ("class", .string (Row.text row 3)),
    ("count", .int (Row.long row 4)), ("unread", .int (Row.long row 5)),
    ("has_subfolders", .bool (Row.flag row 6)), ("modified", time (Row.time? row 7))])

/-- An item. -/
def showItem (i : ItemRef) : ScriptM EntityBench Json := do
  let ref ← number (.item i)
  let s ← Entities.item i
  let row := s.columns
  pure (.object [("ref", ref), ("id", hex s.id), ("parent_id", hex s.parentId),
    ("subject", .string (Row.text row 2)), ("sender", .string (Row.text row 3)),
    ("to", .string (Row.text row 4)), ("cc", .string (Row.text row 5)),
    ("preview", .string (Row.text row 9)), ("read", .bool (Row.long row 6 % 2 = 1)),
    ("received", time (Row.time? row 7)), ("modified", time (Row.time? row 8)),
    ("conversation_id", hex (Row.binary row 10))])

/-- A conversation. -/
def showConversation (c : ConversationRef) : ScriptM EntityBench Json := do
  let ref ← number (.conversation c)
  let s ← Entities.conversation c
  pure (.object [("ref", ref), ("id", hex s.id), ("topic", .string s.topic),
    ("item_ids", .array (s.itemIds.map hex)), ("received", .str (s.received.getD zeroTime).rfc3339)])

/-- A folder, or `null`. -/
def showFolder? : Option FolderRef → ScriptM EntityBench Json
  | some f => showFolder f
  | none => pure .null

/-- Shows resolved tags, numbering the cache entries of a store. -/
def showResolved (r : StoreRef) (rs : List ResolvedTag) : ScriptM EntityBench Json := do
  let s ← get
  let (j, refs) := resolvedTags (fun serial t => t.number (r.idx, serial)) rs s.nameRefs
  set { s with nameRefs := refs }
  pure j

/-! ### Reading steps -/

/-- The entry id of a text id. -/
def idOf (s : String) : Bytes := s.toUTF8.toList

/-- An entry-id field, empty when absent. -/
def idField (req : Json) (key : String) : ScriptM EntityBench Bytes := do
  return idOf (← Script.read (strField req key))

/-- The explicit ids of a step, or none when `ids` is absent. -/
def idsArg (req : Json) : ScriptM EntityBench (Option (List Bytes)) := do
  match field? req "ids" with
  | none => pure none
  | some (.array xs) => some <$> xs.mapM fun j => match j with
    | .string t => pure t.bytes
    | _ => throw (badRequest "ids: strings expected")
  | some _ => throw (badRequest "ids: list expected")

/-- A sort order `{"tag", "descending"}`. -/
def sortOf (j : Json) : Except Failure SortOrder := do
  let t ← match field? j "tag" with
    | some tj => tagOf tj
    | none => pure Tag.null
  pure ⟨t, ← boolField j "descending"⟩

/-- The directives of a step; none when `dirs` is absent. -/
def dirsArg (req : Json) : ScriptM EntityBench Directives := do
  match field? req "dirs" with
  | none => pure Directives.none
  | some d => Script.read do
    let order ← (← listField d "order_by").mapM sortOf
    pure ⟨order, ← intField d "skip", ← intField d "take"⟩

/-- The store a step names. -/
def storeArg (req : Json) : ScriptM EntityBench StoreRef := do
  let id ← Script.read (strField req "store")
  match ← Entities.lookupStore driver (idOf id) with
  | some r => pure r
  | none => throw ⟨.unknownName, "no store " ++ Quote.string id⟩

/-- The folder a step names, opened through its store; absent is the IPM subtree. -/
def folderArg (r : StoreRef) (req : Json) : ScriptM EntityBench FolderRef := do
  r.openFolder driver (← idField req "folder")

/-- The item a step names, opened through its store. -/
def itemArg (r : StoreRef) (req : Json) : ScriptM EntityBench ItemRef := do
  r.openItem driver (← idField req "item")

/-- A special folder given by name or number, as its number. -/
def kindOf (j : Json) : Except Failure Int :=
  match j with
  | .string t => (SpecialFolder.parse t.toString).map fun k => (k.index : Int)
  | other => intOf other

/-- Fetched properties, shown with the stream handling the step asks for. -/
def showProperties (req : Json) (props : List Property) : ScriptM EntityBench Json := do
  let (reads, closeFirst, closeAfter) ← Script.read (streamHandling req)
  pure (.array (← props.mapM (showProperty reads closeFirst closeAfter)))

/-- Decoded columns. -/
def showColumns (props : List Property) : ScriptM EntityBench Json := do
  pure (.array (← props.mapM (showProperty 0 false false)))

/-! ### Entities kept under names -/

/-- Runs a call on a folder kept under a name. -/
def heldFolder (f : FolderRef) (call : String) (req : Json) : ScriptM EntityBench Json := do
  match call with
  | "store" => showStore (← f.store)
  | "columns" => showColumns (← f.columns driver)
  | "properties" => showProperties req (← f.properties driver (← Script.read (columnsOf req)))
  | "sub_folders" =>
    let fs ← f.subFolders driver (← idsArg req) (← dirsArg req)
    pure (.array (← fs.mapM showFolder))
  | "lookup_sub_folder" => showFolder? (← f.lookupSubFolder driver (← idField req "id"))
  | "items" =>
    let is ← f.items driver (← idsArg req) (← dirsArg req)
    pure (.array (← is.mapM showItem))
  | "lookup_item" =>
    match ← f.lookupItem driver (← idField req "id") with
    | some i => showItem i
    | none => pure .null
  | "conversations" =>
    let cs ← f.conversations driver (← idsArg req) (← dirsArg req)
    pure (.array (← cs.mapM showConversation))
  | "lookup_conversation" =>
    match ← f.lookupConversation driver (← idField req "id") with
    | some c => showConversation c
    | none => pure .null
  | "parent" => showFolder? (← f.parentFolder driver)
  | "special" => pure (Json.opt (fun k => .str k.name) (← f.specialFolder driver .stored))
  | "close" =>
    match ← FolderRef.close driver f with
    | some e => throw e
    | none => pure .null
  | "render" => showFolder f
  | other => throw (badRequest ("unknown call " ++ Quote.string other))

/-- Runs a call on an item kept under a name. -/
def heldItem (i : ItemRef) (call : String) (req : Json) : ScriptM EntityBench Json := do
  match call with
  | "columns" => showColumns (← i.columns driver)
  | "properties" => showProperties req (← i.properties driver (← Script.read (columnsOf req)))
  | "body" => pure (value (some (.string (← i.body driver))))
  | "parent" => showFolder (← i.parentFolder driver)
  | "render" => showItem i
  | other => throw (badRequest ("unknown call " ++ Quote.string other))

/-- Runs a call on a conversation kept under a name. -/
def heldConversation (c : ConversationRef) (call : String) : ScriptM EntityBench Json := do
  match call with
  | "items" => pure (.array (← (← c.items driver).mapM showItem))
  | "render" => showConversation c
  | other => throw (badRequest ("unknown call " ++ Quote.string other))

/-- Keeps an entity under a name and shows it. -/
def hold (req : Json) : ScriptM EntityBench Json := do
  let name ← Script.read (strField req "as")
  let kind ← Script.read (strField req "kind")
  let r ← storeArg req
  let (entity, shown) ← match kind with
    | "folder" =>
      let f ← folderArg r req
      pure (HeldEntity.folder f, ← showFolder f)
    | "item" =>
      let i ← itemArg r req
      pure (HeldEntity.item i, ← showItem i)
    | "conversation" =>
      let f ← folderArg r req
      let id ← Script.read (strField req "id")
      match ← f.lookupConversation driver (idOf id) with
      | some c => pure (HeldEntity.conversation c, ← showConversation c)
      | none => throw ⟨.unknownName, "no conversation " ++ Quote.string id⟩
    | other => throw (badRequest ("unknown kind " ++ Quote.string other))
  modify fun s => { s with held := (s.held.filter (·.1 ≠ name)) ++ [(name, entity)] }
  pure shown

/-- Runs a call on an entity kept under a name. -/
def heldCall (req : Json) : ScriptM EntityBench Json := do
  let name ← Script.read (strField req "name")
  let call ← Script.read (strField req "call")
  match (← get).held.lookup name with
  | some (.folder f) => heldFolder f call req
  | some (.item i) => heldItem i call req
  | some (.conversation c) => heldConversation c call
  | none => throw ⟨.unknownName, "no held " ++ Quote.string name⟩

/-! ### Changing the world -/

/-- Changes the world, or fails as a malformed request. -/
def changeWorld (f : World → Except Failure World) : ScriptM EntityBench Json := do
  let w ← Script.read (f (← get).world)
  modify fun s => { s with world := w }
  pure .null

/-- The object a step names by text id. -/
def worldObject (w : World) (label : String) : Except Failure Nat :=
  match w.find? label with
  | some n => .ok n
  | none => .error (badRequest ("no object " ++ Quote.string label ++ " in the world"))

/-- Sets properties of an object, replacing those with the same property id. -/
def setProps (w : World) (req : Json) : Except Failure World := do
  let n ← worldObject w (← strField req "id")
  let props ← (← listField req "props").mapM ownPropOf
  pure (w.modifyNode n fun node => { node with props := props.foldl OwnProp.upsert node.props })

/-- Sets or clears a store's receive folder. -/
def setReceive (w : World) (req : Json) : Except Failure World := do
  let n ← worldObject w (← strField req "store")
  let receive := match field? req "folder" with
    | some (.string t) => some t.bytes
    | _ => none
  pure (w.modifyNode n fun node => { node with receive := receive })

/-- Adds a named property to a store's registry. -/
def registerName (w : World) (req : Json) : Except Failure World := do
  let n ← worldObject w (← strField req "store")
  let name ← NameBench.nameOf req
  let id ← natField req "id" 16
  pure (w.modifyNode n fun node => { node with registry := node.registry ++ [(name, id.toUInt16)] })

/-- The number of live subscriptions of each table, tables without any left out. -/
def liveSubs (w : World) : Json :=
  let keys := (w.subs.toList.filter WorldSub.live).map WorldSub.table
  let distinct := keys.foldl (fun acc k => if acc.contains k then acc else acc ++ [k]) []
  Json.sortedObject (distinct.map fun k => (k, Json.nat (keys.count k)))

/-- Calls every live listener of a table; gives how many were called. -/
def fire (key : String) : ScriptM EntityBench Nat := do
  let subs := ((← get).world.subs.toList.filter fun s => s.live ∧ s.table = key)
  subs.forM fun s => Entities.deliver (σ := EntityBench) s.listener
  pure subs.length

/-- Lets go of what nothing holds: stores the session released stop being there, and the
numbers of every store are forgotten. -/
def collect : ScriptM EntityBench Unit :=
  modify fun s =>
    { s with entities := s.entities.collect,
             refs := s.refs.zipIdx.map fun (k, i) => match k with
               | .store _ => .forgotten i
               | k => k }

/-! ### Steps -/

/-- Runs one step. -/
def step (req : Json) : ScriptM EntityBench Json := do
  let d := driver
  let what ← Script.read (strField req "do")
  match what with
  | "stores" =>
    let rs ← Entities.stores d (← idsArg req) (← dirsArg req)
    pure (.array (← rs.mapM showStore))
  | "lookup_store" =>
    match ← Entities.lookupStore d (← idField req "id") with
    | some r => showStore r
    | none => pure .null
  | "root_id" => pure (hex (← (← storeArg req).rootId d))
  | "store_columns" => showColumns (← (← storeArg req).columns d)
  | "special_ids" =>
    let ids ← (← storeArg req).specialIds d
    pure (.array (ids.map fun (k, id) => .object [("kind", .str k.name), ("id", hex id)]))
  | "special_folders" =>
    let r ← storeArg req
    let kinds ← Script.read ((← Script.read (listField req "kinds")).mapM kindOf)
    pure (.array (← (← r.specialFolders d kinds).mapM showFolder))
  | "lookup_special" =>
    let r ← storeArg req
    let kind ← Script.read (kindOf ((field? req "kind").getD (.number "0")))
    showFolder? (← r.lookupSpecialFolder d kind)
  | "root_folders" =>
    let r ← storeArg req
    pure (.array (← (← r.rootFolders d (← idsArg req) (← dirsArg req)).mapM showFolder))
  | "lookup_root_folder" =>
    let r ← storeArg req
    showFolder? (← r.lookupRootFolder d (← idField req "id"))
  | "open_folder" =>
    let r ← storeArg req
    showFolder (← folderArg r req)
  | "open_item" =>
    let r ← storeArg req
    showItem (← itemArg r req)
  | "sub_folders" | "lookup_sub_folder" | "items" | "lookup_item" | "conversations"
  | "lookup_conversation" =>
    let r ← storeArg req
    let f ← folderArg r req
    heldFolder f what req
  | "conversation_items" =>
    let r ← storeArg req
    let f ← folderArg r req
    match ← f.lookupConversation d (← idField req "id") with
    | some c => pure (.array (← (← c.items d).mapM showItem))
    | none => pure .null
  | "folder_properties" =>
    let r ← storeArg req
    let f ← folderArg r req
    showProperties req (← f.properties d (← Script.read (columnsOf req)))
  | "item_properties" =>
    let r ← storeArg req
    let i ← itemArg r req
    showProperties req (← i.properties d (← Script.read (columnsOf req)))
  | "folder_columns" =>
    let r ← storeArg req
    showColumns (← (← folderArg r req).columns d)
  | "item_columns" =>
    let r ← storeArg req
    showColumns (← (← itemArg r req).columns d)
  | "body" =>
    let r ← storeArg req
    let i ← itemArg r req
    pure (value (some (.string (← i.body d))))
  | "folder_parent" =>
    let r ← storeArg req
    showFolder? (← (← folderArg r req).parentFolder d)
  | "item_parent" =>
    let r ← storeArg req
    showFolder (← (← itemArg r req).parentFolder d)
  | "folder_special" =>
    let r ← storeArg req
    let k ← (← folderArg r req).specialFolder d .stored
    pure (Json.opt (fun k => .str k.name) k)
  | "hierarchy" =>
    let r ← storeArg req
    let fs ← r.folderHierarchy d (← idField req "folder") (← Script.read (boolField req "only_children"))
    pure (.array (← fs.mapM showFolder))
  | "resolve_named" =>
    let r ← storeArg req
    let ids ← Script.read ((← Script.read (listField req "ids")).mapM propertyIdOf)
    showResolved r (← r.resolveNamed d ids)
  | "resolve_ids" =>
    let r ← storeArg req
    let tags ← Script.read ((← Script.read (listField req "tags")).mapM tagOf)
    showResolved r (← r.resolveIds d tags)
  | "cached_names" =>
    let r ← storeArg req
    pure (.array (((← Entities.store r).names.names .stored).map namedId))
  | "clear_caches" =>
    Entities.clearCaches d
    pure .null
  | "store_clear_caches" =>
    (← storeArg req).clearCaches d
    pure .null
  | "close" =>
    match ← Entities.close d with
    | some e => throw e
    | none => pure .null
  | "subs" => pure (liveSubs (← get).world)
  | "fire" => pure (Json.nat (← fire (← Script.read (strField req "table"))))
  | "fault" =>
    let callName ← Script.read (strField req "call")
    let kind ← Script.read (strField req "kind")
    let kind := if kind.isEmpty then "fail" else kind
    let times ← match field? req "times" with
      | some j => Script.read (intOf j)
      | none => pure 1
    let key := match field? req "target" with
      | some (.string t) => callName ++ ":" ++ t.toString
      | _ => callName
    Script.modifyRig fun r => { r with faults := r.faults.push key kind times.toNat }
    pure .null
  | "add_store" => changeWorld fun w => do w.addStore ((field? req "spec").getD (.object []))
  | "add_folder" => changeWorld fun w => do
    let parent ← worldObject w (← strField req "parent")
    w.addFolder parent ((field? req "spec").getD (.object []))
  | "add_message" => changeWorld fun w => do
    let parent ← worldObject w (← strField req "parent")
    w.addMessage parent ((field? req "spec").getD (.object []))
  | "remove" => changeWorld fun w => do
    let n ← worldObject w (← strField req "id")
    pure (w.detach n)
  | "set_props" => changeWorld fun w => setProps w req
  | "set_receive" => changeWorld fun w => setReceive w req
  | "register_name" => changeWorld fun w => registerName w req
  | "hold" => hold req
  | "held" => heldCall req
  | "gc" =>
    collect
    pure .null
  | "tool" =>
    let name ← Script.read (strField req "name")
    let args := match field? req "args" with
      | some (.object ms) => Json.object ms
      | _ => .object []
    match ← (Registry.ofDriver d []).call d name args with
    | .ok j => pure j
    | .error e => throw (Failure.other ("failed to encode result: " ++ e))
  | "mcp" =>
    let lines ← Script.read (listField req "lines")
    let text := "\n".intercalate (lines.map fun l => match l with
      | .string t => t.toString
      | other => other.render)
    let (responses, stop) ← Mcp.serve d (Registry.ofDriver d []) "test" text
    pure (.object [("responses", if responses.isEmpty then .null else .array responses),
      ("serve_error", Json.opt Json.str stop.error?)])
  | other => throw (badRequest ("unknown step " ++ Quote.string other))

/-- Calls the listeners of the tables that reads asked to notify. -/
def notifyPending : ScriptM EntityBench Unit := do
  let pending := (← get).world.pending
  modify fun s => { s with world := { s.world with pending := [] } }
  pending.forM fun key => discard (fire key)

/-- Runs a step and then the notifications it caused. -/
def run (req : Json) : ScriptM EntityBench Json := do
  modify fun s => { s with world := { s.world with reads := [], pending := [] } }
  tryFinally (step req) (tryCatch notifyPending fun _ => pure ())

/-- The calls, counters and reads of a step. -/
def extra (before after : EntityBench) : List (String × Json) :=
  [("calls", Script.callChanges before after),
   ("metrics", tallyChanges before.entities.metrics after.entities.metrics)] ++
  (if after.world.reads.isEmpty then [] else [("reads", .array after.world.reads)])

end EntityBench

/-- The answer to an `entity` request. -/
def entityRequest (req : Json) : Except Failure Json := do
  let limit ← match field? req "inline_limit" with
    | some j => intOf j
    | none => pure 64
  let world ← World.ofSpecs limit (← listField req "stores")
  let steps ← listField req "steps"
  let start : EntityBench := ⟨world, Rig.empty, Entities.empty, [], [], []⟩
  pure (.array (Script.answerSteps EntityBench.run EntityBench.extra steps start).1)

end Console

end MailStore
