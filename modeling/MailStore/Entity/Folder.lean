import MailStore.Entity.Store

/-!
# Folders

A folder holds its store weakly: once the store is gone, everything that needs the store
fails with `store has been released`. The folder's handle is opened on first use, unless
the folder came from opening it by id.

A folder has three lazy collections over two tables: its child folders (the hierarchy
table), its items and its conversations (both over the contents table). Conversations are
built anew on each load: the items in table order, grouped by conversation id, each group
placed, named and timed by its first item.

The folder hierarchy below a folder is walked breadth first, descending only into folders
that report child folders.
-/

namespace MailStore

namespace FolderRef

variable {σ : Type} [EntityHost σ] (d : Driver (EntityM σ))

/-- The folder's store, unless it is gone. -/
def owner (f : FolderRef) : EntityM σ StoreRef := do
  let r := (← Entities.folder f).store
  if (← Entities.store r).released then throw (Failure.bare .storeReleased)
  pure r

/-- The folder's store and handle, opening the folder on first use. -/
def ensureOpen (f : FolderRef) : EntityM σ (StoreRef × Nat) := do
  let r ← owner f
  let fs ← Entities.folder f
  if let some h := fs.handle then return (r, h)
  let o ← r.ensureOpen d
  Entities.count (Metric.storeCall "open_folder")
  let h ← wrapping ("failed to open folder " ++ Bytes.toHex fs.id) (d.openFolder o.handle fs.id)
  Entities.modifyFolder f fun s => { s with handle := some h }
  pure (r, h)

/-! ### Child folders -/

/-- Reads the child folders. -/
def readSubFolders (f : FolderRef) (dirs : Directives) (watch : Nat → EntityM σ Unit) :
    EntityM σ (List (Bytes × FolderRef)) := do
  let (r, h) ← ensureOpen d f
  Entities.count (Metric.storeCall "hierarchy_table")
  let t ← wrapping "failed to open hierarchy table" (d.hierarchyTable h)
  watch t
  Entities.count (Metric.storeCall "table_read")
  let rows ← wrapping "failed to read hierarchy table" (d.read t ⟨Columns.folder, Columns.byName, dirs⟩)
  rows.mapM fun row => do pure (Row.binary row 0, ← r.cacheFolder row none)

/-- The child folders under some directives. -/
def loadSubFolders (f : FolderRef) (dirs : Directives) : EntityM σ (List FolderRef) := do
  discard (owner f)
  f.subSlot.load .subFolders dirs (readSubFolders d f) (f.subSlot.watch d .subFolders (.subFolders f))

/-- The child folders, or exactly those with the given ids. -/
def subFolders (f : FolderRef) (ids : Option (List Bytes)) (dirs : Directives) :
    EntityM σ (List FolderRef) := do
  let all ← loadSubFolders d f dirs
  match ids with
  | none => pure all
  | some ids => MonadExcept.ofExcept ((← f.subSlot.get).pick "folder" ids)

/-- The child folder with an id, under the directives of the last load. -/
def lookupSubFolder (f : FolderRef) (id : Bytes) : EntityM σ (Option FolderRef) := do
  discard (loadSubFolders d f (← f.subSlot.get).dirs)
  return (← f.subSlot.get).lookup id

/-! ### Items -/

/-- The store and the contents table of the folder. -/
def contentsTable (f : FolderRef) : EntityM σ (StoreRef × Nat) := do
  let (r, h) ← ensureOpen d f
  Entities.count (Metric.storeCall "contents_table")
  let t ← wrapping "failed to open contents table" (d.contentsTable h)
  pure (r, t)

/-- Reads the items. -/
def readItems (f : FolderRef) (dirs : Directives) (watch : Nat → EntityM σ Unit) :
    EntityM σ (List (Bytes × ItemRef)) := do
  let (r, t) ← contentsTable d f
  watch t
  Entities.count (Metric.storeCall "table_read")
  let rows ← wrapping "failed to read contents table" (d.read t ⟨Columns.item, Columns.newestFirst, dirs⟩)
  rows.mapM fun row => do pure (Row.binary row 0, ← r.cacheItem row none)

/-- The items under some directives. -/
def loadItems (f : FolderRef) (dirs : Directives) : EntityM σ (List ItemRef) := do
  discard (owner f)
  f.itemSlot.load .items dirs (readItems d f) (f.itemSlot.watch d .items (.items f))

/-- The items, or exactly those with the given ids. -/
def items (f : FolderRef) (ids : Option (List Bytes)) (dirs : Directives) :
    EntityM σ (List ItemRef) := do
  let all ← loadItems d f dirs
  match ids with
  | none => pure all
  | some ids => MonadExcept.ofExcept ((← f.itemSlot.get).pick "item" ids)

/-- The item with an id, under the directives of the last load. -/
def lookupItem (f : FolderRef) (id : Bytes) : EntityM σ (Option ItemRef) := do
  discard (loadItems d f (← f.itemSlot.get).dirs)
  return (← f.itemSlot.get).lookup id

/-! ### Conversations -/

/-- Folds rows of the contents table, in table order, into conversations: the first row
of each conversation id makes the conversation, every row adds its item. -/
def groupRows (store : StoreRef) : List (List RawProp) → List ConversationState → List ConversationState
  | [], acc => acc
  | row :: rest, acc =>
    let itemId := Row.binary row 0
    let id := Row.binary row 1
    let id := if id.isEmpty then itemId else id
    let acc :=
      if acc.any (·.id = id) then
        acc.map fun c => if c.id = id then { c with itemIds := c.itemIds ++ [itemId] } else c
      else acc ++ [⟨store, id, Row.text row 2, [itemId], Row.time? row 3⟩]
    groupRows store rest acc

/-- Reads the conversations, made anew. -/
def readConversations (f : FolderRef) (dirs : Directives) (watch : Nat → EntityM σ Unit) :
    EntityM σ (List (Bytes × ConversationRef)) := do
  let (_, t) ← contentsTable d f
  watch t
  Entities.count (Metric.storeCall "table_read")
  let rows ← wrapping "failed to read contents table"
    (d.read t ⟨Columns.conversation, Columns.newestFirst, dirs⟩)
  let store := (← Entities.folder f).store
  (groupRows store rows []).mapM fun c => do pure (c.id, ← Entities.addConversation c)

/-- The conversations under some directives. -/
def loadConversations (f : FolderRef) (dirs : Directives) : EntityM σ (List ConversationRef) := do
  discard (owner f)
  f.conversationSlot.load .conversations dirs (readConversations d f)
    (f.conversationSlot.watch d .conversations (.conversations f))

/-- The conversations, or exactly those with the given ids. -/
def conversations (f : FolderRef) (ids : Option (List Bytes)) (dirs : Directives) :
    EntityM σ (List ConversationRef) := do
  let all ← loadConversations d f dirs
  match ids with
  | none => pure all
  | some ids => MonadExcept.ofExcept ((← f.conversationSlot.get).pick "conversation" ids)

/-- The conversation with an id, under the directives of the last load. -/
def lookupConversation (f : FolderRef) (id : Bytes) : EntityM σ (Option ConversationRef) := do
  discard (loadConversations d f (← f.conversationSlot.get).dirs)
  return (← f.conversationSlot.get).lookup id

/-! ### The folder itself -/

/-- The folder's store. -/
def store (f : FolderRef) : EntityM σ StoreRef := owner f

/-- The extra columns of the folder's row. -/
def columns (f : FolderRef) : EntityM σ (List Property) := do
  let r ← owner f
  r.decodeColumns d (← Entities.folder f).columns Columns.folderNamed

/-- Fetches properties of the folder; no columns fetch every property. -/
def properties (f : FolderRef) (cols : List Column) : EntityM σ (List Property) := do
  let (r, h) ← ensureOpen d f
  r.properties d h cols

/-- The parent folder; nothing for the IPM subtree or a folder without a parent. -/
def parentFolder (f : FolderRef) : EntityM σ (Option FolderRef) := do
  let r ← owner f
  let root ← r.rootId d
  let fs ← Entities.folder f
  if fs.parentId.isEmpty ∨ fs.id = root then return none
  return some (← r.openFolder d fs.parentId)

/-- The special folder this folder is, if any, the first that `order` visits. -/
def specialFolder (order : MapOrder (SpecialFolder × Bytes)) (f : FolderRef) :
    EntityM σ (Option SpecialFolder) := do
  let r ← owner f
  r.specialFolderOf d order (← Entities.folder f).id

/-- Whether the folder's row says it has child folders. -/
def hasSubfolders (fs : FolderState) : Bool := Row.flag fs.columns 6

/-- Walks the queue of folders breadth first, gathering the children of each and queueing
those that have children of their own when `deep` is set; at most `fuel` folders are
visited. -/
def walk (deep : Bool) : Nat → List FolderRef → List FolderRef → EntityM σ (List FolderRef)
  | 0, _, acc => pure acc
  | _ + 1, [], acc => pure acc
  | fuel + 1, next :: queue, acc => do
    let children ← subFolders d next none Directives.none
    let mut more := []
    for c in children do
      if deep ∧ hasSubfolders (← Entities.folder c) then more := more ++ [c]
    walk deep fuel (queue ++ more) (acc ++ children)

end FolderRef

/-- The most folders a walk of the hierarchy visits. -/
def hierarchyLimit : Nat := 100000

/-- The folders below a parent, breadth first; the empty id starts at the IPM subtree.
With `onlyChildren` only the parent's own children are given. -/
def StoreRef.folderHierarchy {σ : Type} [EntityHost σ] (d : Driver (EntityM σ)) (r : StoreRef)
    (parentId : Bytes) (onlyChildren : Bool) : EntityM σ (List FolderRef) := do
  let top ← r.openFolder d parentId
  FolderRef.walk d (!onlyChildren) hierarchyLimit [top] []

end MailStore
