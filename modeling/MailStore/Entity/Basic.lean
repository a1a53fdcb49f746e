import MailStore.Table.Read
import MailStore.Prop.Fetch
import MailStore.Tally
import MailStore.Folder.Special

/-!
# Entities over a property store

A session with a property store is seen as a tree of entities: the stores of the session,
the folders of a store, the items of a folder, and the conversations that group a folder's
items. Each entity keeps the row the store gave for it and loads its children lazily, as
a `Collection` that is either not loaded or loaded in full under one set of directives.

Entities are values in a heap (`Entities`) and are known by references into it, one kind
of reference per kind of entity. A reference stands for one live object: two answers that
give the same reference give the same entity, and identity caches make sure that a store
has at most one live folder and one live item per entry id.

The store itself is reached through a `Driver`, a record of the operations a store offers
(open an object, fetch properties, read and watch a table). Handles of the driver's
objects, tables and subscriptions are numbers that only the driver interprets.

A table that an entity reads is watched: the entity subscribes once, before its first read,
with a `Listener` that names the collection to drop when the table changes. The driver calls
listeners back between operations, never inside one.

Every step the entities take against the store, and every answer a collection gives from
memory or from the store, is counted in the entities' `metrics`, under the names of the
counters the service exports.
-/

namespace MailStore

/-! ### References -/

/-- A store of the session, by its place in the heap. -/
structure StoreRef where
  /-- The place in the heap. -/
  idx : Nat
deriving DecidableEq, Repr, Inhabited

/-- A folder, by its place in the heap. -/
structure FolderRef where
  /-- The place in the heap. -/
  idx : Nat
deriving DecidableEq, Repr, Inhabited

/-- An item, by its place in the heap. -/
structure ItemRef where
  /-- The place in the heap. -/
  idx : Nat
deriving DecidableEq, Repr, Inhabited

/-- A conversation, by its place in the heap. -/
structure ConversationRef where
  /-- The place in the heap. -/
  idx : Nat
deriving DecidableEq, Repr, Inhabited

/-! ### Collections -/

/-- The lazily loaded child lists, named as the counters name them. -/
inductive CollectionKind where
  | stores | rootFolders | subFolders | items | conversations
deriving DecidableEq, Repr, Inhabited

/-- The name of a kind of collection. -/
def CollectionKind.name : CollectionKind → String
  | .stores => "stores"
  | .rootFolders => "root_folders"
  | .subFolders => "sub_folders"
  | .items => "items"
  | .conversations => "conversations"

/-- A child list that is either not loaded, or loaded in full under some directives, and
the subscription that watches its table. Each member comes with its key; looking a key up
finds the last member with that key. -/
structure Collection (α : Type) where
  /-- Whether the list is loaded. -/
  loaded : Bool
  /-- The directives the list was loaded under. -/
  dirs : Directives
  /-- The members with their keys, in table order. -/
  entries : List (Bytes × α)
  /-- The subscription to the table, once there is one. -/
  sub : Option Nat

namespace Collection

variable {α : Type}

/-- A list that was never loaded or watched. -/
def empty : Collection α := ⟨false, Directives.none, [], none⟩

/-- The members, in table order. -/
def members (c : Collection α) : List α := c.entries.map Prod.snd

/-- The same list not loaded; the subscription is kept. -/
def reset (c : Collection α) : Collection α := { c with loaded := false, dirs := Directives.none, entries := [] }

/-- The member with a key: the last one, and nothing while the list is not loaded. -/
def lookup (c : Collection α) (key : Bytes) : Option α :=
  if c.loaded then ((c.entries.reverse.find? fun e => e.1 = key).map Prod.snd) else none

theorem lookup_reset (c : Collection α) (key : Bytes) : c.reset.lookup key = none := by
  simp [reset, lookup]

theorem reset_sub (c : Collection α) : c.reset.sub = c.sub := rfl

end Collection

/-- Whom a table notification is for: the collection it invalidates. -/
inductive Listener where
  /-- The session's list of stores. -/
  | stores
  /-- A store's folders below its IPM subtree. -/
  | rootFolders (s : StoreRef)
  /-- A folder's child folders. -/
  | subFolders (f : FolderRef)
  /-- A folder's items. -/
  | items (f : FolderRef)
  /-- A folder's conversations. -/
  | conversations (f : FolderRef)
deriving DecidableEq, Repr, Inhabited

/-! ### Entities -/

/-- What a store keeps once it is open: its handle, the entry id and handle of its IPM
subtree, and the special-folder properties of the store, the subtree and the inbox. -/
structure OpenStore where
  /-- The store's handle. -/
  handle : Nat
  /-- The entry id of the IPM subtree. -/
  rootId : Bytes
  /-- The handle of the IPM subtree. -/
  ipmSubtree : Nat
  /-- The store's special-folder entry ids, as fetched. -/
  storeProps : List RawProp
  /-- The special-folder entry ids on the IPM subtree, as fetched. -/
  ipmProps : List RawProp
  /-- The entry id of the inbox, empty without one. -/
  inboxId : Bytes
  /-- The special-folder entry ids on the inbox, if there is an inbox. -/
  inboxProps : Option (List RawProp)

/-- A message store of the session. -/
structure StoreState where
  /-- The entry id. -/
  id : Bytes
  /-- The display name. -/
  name : Text
  /-- The row the stores table gave. -/
  columns : List RawProp
  /-- The store's named-property cache. -/
  names : NameCache
  /-- The open store, once opened. -/
  opened : Option OpenStore
  /-- The special folders, once collected. -/
  special : Option (List (SpecialFolder × Bytes))
  /-- The folders below the IPM subtree. -/
  rootFolders : Collection FolderRef
  /-- The live folder of each entry id, in the order they were made. -/
  folders : List (Bytes × FolderRef)
  /-- The live item of each entry id, in the order they were made. -/
  items : List (Bytes × ItemRef)
  /-- Whether nothing holds the store any more, so that it is gone. -/
  released : Bool

/-- A folder of a store. -/
structure FolderState where
  /-- The store, held weakly. -/
  store : StoreRef
  /-- The entry id. -/
  id : Bytes
  /-- The entry id of the parent folder. -/
  parentId : Bytes
  /-- The folder's row. -/
  columns : List RawProp
  /-- The folder's handle, once opened. -/
  handle : Option Nat
  /-- The child folders. -/
  subFolders : Collection FolderRef
  /-- The items. -/
  items : Collection ItemRef
  /-- The items grouped by conversation. -/
  conversations : Collection ConversationRef

/-- A message of a store. -/
structure ItemState where
  /-- The store, held weakly. -/
  store : StoreRef
  /-- The entry id. -/
  id : Bytes
  /-- The entry id of the folder holding the item. -/
  parentId : Bytes
  /-- The item's row. -/
  columns : List RawProp
  /-- The message's handle, once opened. -/
  handle : Option Nat

/-- The items of a folder that share a conversation id; an item without one is a
conversation of its own, known by the item's entry id. -/
structure ConversationState where
  /-- The store, held weakly. -/
  store : StoreRef
  /-- The conversation id, or the entry id of its only item. -/
  id : Bytes
  /-- The topic of its first item. -/
  topic : Text
  /-- The entry ids of its items, in table order. -/
  itemIds : List Bytes
  /-- The delivery time of its first item, if that item had one. -/
  received : Option Instant

/-- Every entity of one session: the list of stores and the store of each entry id, the
heaps, and the counters. -/
structure Entities where
  /-- The session's stores. -/
  storeList : Collection StoreRef
  /-- The live store of each entry id, in the order they were made. -/
  storeById : List (Bytes × StoreRef)
  /-- Whether the session was closed. -/
  closed : Bool
  /-- The stores. -/
  storeHeap : Array StoreState
  /-- The folders. -/
  folderHeap : Array FolderState
  /-- The items. -/
  itemHeap : Array ItemState
  /-- The conversations. -/
  conversationHeap : Array ConversationState
  /-- The counters. -/
  metrics : Tally

/-- A session with no entity yet. -/
def Entities.empty : Entities := ⟨Collection.empty, [], false, #[], #[], #[], #[], []⟩

/-- A state that holds a session's entities. -/
class EntityHost (σ : Type) where
  /-- The entities of a state. -/
  entities : σ → Entities
  /-- The state with other entities. -/
  setEntities : σ → Entities → σ

/-- Operations on entities over a state `σ`: they fail with a failure, and what they did to
the state stays when they fail. -/
abbrev EntityM (σ : Type) := ExceptT Failure (StateM σ)

/-! ### Counters -/

namespace Metric

/-- A call into the store, by operation. -/
def storeCall (op : String) : String := "store_calls_total\x7bop=" ++ op ++ "\x7d"

/-- A collection request answered from memory. -/
def hit (k : CollectionKind) : String :=
  "collection_requests_total\x7bcollection=" ++ k.name ++ ",result=hit\x7d"

/-- A collection request that read the store. -/
def load (k : CollectionKind) : String :=
  "collection_requests_total\x7bcollection=" ++ k.name ++ ",result=load\x7d"

/-- A loaded collection dropped, for a reason: `directives`, `notification` or `clear`. -/
def invalidated (k : CollectionKind) (reason : String) : String :=
  "collection_invalidations_total\x7bcollection=" ++ k.name ++ ",reason=" ++ reason ++ "\x7d"

/-- Named-property lookups by outcome: `hit` or `miss`. -/
def nameLookups (outcome : String) : String := "name_lookups_total\x7bresult=" ++ outcome ++ "\x7d"

/-- Properties opened as streams after a bulk fetch. -/
def streamFallbacks : String := "stream_fallbacks_total"

end Metric

/-! ### The driver -/

/-- The operations of a store, with numbers as handles.

* `storesTable` opens the table of the session's stores; `openStore` opens a store by
  entry id.
* `getProps`, `openStream`, `idsOfNames` and `namesOfIds` act on any open object;
  `streams` serves the streams opened.
* `openFolder`, `openMessage` and `receiveFolder` act on an open store: the last gives the
  entry id of the inbox, empty without one.
* `hierarchyTable` and `contentsTable` open a folder's tables of child folders and items.
* `read` reads a table; `subscribe` registers a listener with a table and gives the
  subscription, which `unsubscribe` ends. -/
structure Driver (m : Type → Type) where
  /-- Opens the table of stores. -/
  storesTable : m Nat
  /-- Opens a store. -/
  openStore : Bytes → m Nat
  /-- Fetches properties of an object: one per tag, or all of them. -/
  getProps : Nat → Option (List Tag) → m (List RawProp)
  /-- Opens a property of an object as a stream. -/
  openStream : Nat → Tag → m Nat
  /-- The streams opened. -/
  streams : StreamStore m
  /-- The tags of names, on an object. -/
  idsOfNames : Nat → List NamedId → m (List Tag)
  /-- The names of tags, on an object. -/
  namesOfIds : Nat → List Tag → m (List (Option NamedId))
  /-- Opens a folder of a store. -/
  openFolder : Nat → Bytes → m Nat
  /-- Opens a message of a store. -/
  openMessage : Nat → Bytes → m Nat
  /-- The entry id of a store's inbox. -/
  receiveFolder : Nat → m Bytes
  /-- Opens a folder's table of child folders. -/
  hierarchyTable : Nat → m Nat
  /-- Opens a folder's table of items. -/
  contentsTable : Nat → m Nat
  /-- Reads a table. -/
  read : Nat → ReadRequest → m (List (List RawProp))
  /-- Watches a table. -/
  subscribe : Nat → Listener → m Nat
  /-- Ends a subscription. -/
  unsubscribe : Nat → m Unit

namespace Driver

variable {m : Type → Type}

/-- An open object as a source of properties. -/
def object (d : Driver m) (h : Nat) : PropObject m := ⟨d.getProps h, d.openStream h⟩

/-- An open object as the resolver of a name cache, with lookups reported to `observe`. -/
def resolver (d : Driver m) (h : Nat) (observe : Nat → Nat → m Unit) : NameResolver m :=
  ⟨d.idsOfNames h, d.namesOfIds h, observe⟩

end Driver

/-! ### Access to the heap -/

namespace Entities

variable {σ : Type} [EntityHost σ]

/-- The entities. -/
def current : EntityM σ Entities := do return EntityHost.entities (← get)

/-- Changes the entities. -/
def modify (f : Entities → Entities) : EntityM σ Unit :=
  MonadState.modifyGet fun s => ((), EntityHost.setEntities s (f (EntityHost.entities s)))

/-- Counts one event. -/
def count (name : String) : EntityM σ Unit := modify fun e => { e with metrics := e.metrics.bump name 1 }

/-- Counts `n` events. -/
def countBy (name : String) (n : Nat) : EntityM σ Unit :=
  modify fun e => { e with metrics := e.metrics.bump name n }

/-- A reference that points nowhere: a broken invariant of the heap. -/
def dangling {α : Type} (what : String) : EntityM σ α :=
  throw (Failure.other ("dangling reference to a " ++ what))

/-- A store. -/
def store (r : StoreRef) : EntityM σ StoreState := do
  match (← current).storeHeap[r.idx]? with
  | some s => pure s
  | none => dangling "store"

/-- Changes a store. -/
def modifyStore (r : StoreRef) (f : StoreState → StoreState) : EntityM σ Unit :=
  modify fun e => { e with storeHeap := e.storeHeap.modify r.idx f }

/-- A folder. -/
def folder (r : FolderRef) : EntityM σ FolderState := do
  match (← current).folderHeap[r.idx]? with
  | some s => pure s
  | none => dangling "folder"

/-- Changes a folder. -/
def modifyFolder (r : FolderRef) (f : FolderState → FolderState) : EntityM σ Unit :=
  modify fun e => { e with folderHeap := e.folderHeap.modify r.idx f }

/-- An item. -/
def item (r : ItemRef) : EntityM σ ItemState := do
  match (← current).itemHeap[r.idx]? with
  | some s => pure s
  | none => dangling "item"

/-- Changes an item. -/
def modifyItem (r : ItemRef) (f : ItemState → ItemState) : EntityM σ Unit :=
  modify fun e => { e with itemHeap := e.itemHeap.modify r.idx f }

/-- A conversation. -/
def conversation (r : ConversationRef) : EntityM σ ConversationState := do
  match (← current).conversationHeap[r.idx]? with
  | some s => pure s
  | none => dangling "conversation"

/-- Adds a store to the heap. -/
def addStore (s : StoreState) : EntityM σ StoreRef := do
  let e ← current
  modify fun e => { e with storeHeap := e.storeHeap.push s }
  pure ⟨e.storeHeap.size⟩

/-- Adds a folder to the heap. -/
def addFolder (s : FolderState) : EntityM σ FolderRef := do
  let e ← current
  modify fun e => { e with folderHeap := e.folderHeap.push s }
  pure ⟨e.folderHeap.size⟩

/-- Adds an item to the heap. -/
def addItem (s : ItemState) : EntityM σ ItemRef := do
  let e ← current
  modify fun e => { e with itemHeap := e.itemHeap.push s }
  pure ⟨e.itemHeap.size⟩

/-- Adds a conversation to the heap. -/
def addConversation (s : ConversationState) : EntityM σ ConversationRef := do
  let e ← current
  modify fun e => { e with conversationHeap := e.conversationHeap.push s }
  pure ⟨e.conversationHeap.size⟩

end Entities

/-- Runs a store operation, putting what the caller was doing in front of a failure. -/
def wrapping {σ α : Type} (context : String) (x : EntityM σ α) : EntityM σ α :=
  tryCatch x fun f => throw (f.wrap context)

end MailStore
