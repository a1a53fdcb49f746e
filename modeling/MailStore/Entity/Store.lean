import MailStore.Entity.Collection
import MailStore.Entity.Columns

/-!
# Stores

A store is opened once, on first use, and what opening finds is kept only when every step
succeeded: the store's handle, the IPM subtree (the top of the folder tree) opened by the
entry id the store names, the special-folder ids on the store and the subtree, and, when
the store has a receive folder, the inbox and its special-folder ids. A failure to ask for
the receive folder means there is no inbox.

The special folders are then collected from those properties, first found first kept: the
store's own, then the inbox (which is also the `INBOX`), then the IPM subtree. Only binary
properties count.

A store keeps one live folder and one live item per entry id. Opening a folder or an item
that is live gives it again without asking the store; clearing the caches forgets them all,
releases the folders' subscriptions, and drops the root folder list that refers to them.

Property fetches on any object of a store resolve names through the store's cache, and
count how many properties came back as streams.
-/

namespace MailStore

namespace StoreRef

variable {σ : Type} [EntityHost σ] (d : Driver (EntityM σ))

/-- Reports name lookups to the counters. -/
def observe (hits misses : Nat) : EntityM σ Unit := do
  Entities.countBy (Metric.nameLookups "hit") hits
  Entities.countBy (Metric.nameLookups "miss") misses

/-- The special-folder ids on a folder. -/
def specialFolderProps (h : Nat) : EntityM σ (List RawProp) := do
  let props ← wrapping "failed to get special folder properties"
    (d.getProps h (some SpecialFolder.folderTags))
  unless props.length = SpecialFolder.folderTags.length do
    throw (Failure.inconsistent ("folder returned " ++ toString props.length ++ " of " ++
      toString SpecialFolder.folderTags.length ++ " properties"))
  pure props

/-- The receive folder's entry id, or nothing when asking for it fails. -/
def receiveFolder? (h : Nat) : EntityM σ (Option Bytes) :=
  tryCatch (do pure (some (← d.receiveFolder h))) fun _ => pure none

/-- The inbox's entry id and special-folder ids, when the store names a receive folder. -/
def openInbox (h : Nat) : EntityM σ (Bytes × Option (List RawProp)) := do
  match ← receiveFolder? d h with
  | some id =>
    if id.isEmpty then return ([], none)
    Entities.count (Metric.storeCall "open_folder")
    let inbox ← wrapping "failed to open inbox" (d.openFolder h id)
    let props ← specialFolderProps d inbox
    pure (id, some props)
  | none => pure ([], none)

/-- The open store, opening it on first use. -/
def ensureOpen (r : StoreRef) : EntityM σ OpenStore := do
  let s ← Entities.store r
  if let some o := s.opened then return o
  Entities.count (Metric.storeCall "open_store")
  let h ← wrapping ("failed to open store " ++ Bytes.toHex s.id) (d.openStore s.id)
  Entities.count (Metric.storeCall "get_props")
  let props ← wrapping "failed to get store properties" (d.getProps h (some SpecialFolder.storeTags))
  unless props.length = SpecialFolder.storeTags.length do
    throw (Failure.inconsistent ("store returned " ++ toString props.length ++ " of " ++
      toString SpecialFolder.storeTags.length ++ " properties"))
  let rootId ← match props.head? with
    | some p =>
      if p.tag = Tag.ipmSubtree then pure p.data
      else throw (Failure.inconsistent ("store " ++ Bytes.toHex s.id ++ " has no IPM subtree"))
    | none => throw (Failure.inconsistent ("store " ++ Bytes.toHex s.id ++ " has no IPM subtree"))
  Entities.count (Metric.storeCall "open_folder")
  let ipm ← wrapping "failed to open IPM subtree" (d.openFolder h rootId)
  let ipmProps ← specialFolderProps d ipm
  let (inboxId, inboxProps) ← openInbox d h
  let o : OpenStore := ⟨h, rootId, ipm, props, ipmProps, inboxId, inboxProps⟩
  Entities.modifyStore r fun s => { s with opened := some o }
  pure o

/-- The entry id of the IPM subtree. -/
def rootId (r : StoreRef) : EntityM σ Bytes := do return (← ensureOpen d r).rootId

/-- The store's resolver of names. -/
def resolver (o : OpenStore) : NameResolver (EntityM σ) := d.resolver o.handle observe

/-- Keeps the store's name cache. -/
def keepNames (r : StoreRef) (c : NameCache) : EntityM σ Unit :=
  Entities.modifyStore r fun s => { s with names := c }

/-! ### Special folders -/

/-- Adds the special folders that binary properties name, in order, keeping those known. -/
def fillSpecial (acc : List (SpecialFolder × Bytes)) (kinds : List SpecialFolder)
    (props : List RawProp) : List (SpecialFolder × Bytes) :=
  (kinds.zip props).foldl (fun acc (k, p) =>
    if p.tag.type = PropType.binary ∧ (acc.lookup k).isNone then acc ++ [(k, p.data)] else acc) acc

/-- The special folders of an open store: the store's own, then the inbox and its ids,
then the IPM subtree's ids. -/
def collectSpecial (o : OpenStore) : List (SpecialFolder × Bytes) :=
  let found := fillSpecial [] SpecialFolder.storeKinds o.storeProps
  let found := match o.inboxProps with
    | some props => fillSpecial (found ++ [(.inbox, o.inboxId)]) SpecialFolder.folderKinds props
    | none => found
  fillSpecial found SpecialFolder.folderKinds o.ipmProps

/-- The entry id of each special folder the store has, in the folders' numeric order. -/
def specialIds (r : StoreRef) : EntityM σ (List (SpecialFolder × Bytes)) := do
  let found ← match (← Entities.store r).special with
    | some found => pure found
    | none => do
      let found := collectSpecial (← ensureOpen d r)
      Entities.modifyStore r fun s => { s with special := some found }
      pure found
  pure (SpecialFolder.all.filterMap fun k => (found.lookup k).map (k, ·))

/-- The special folder an entry id names, the first that `order` visits: two special folders
may share an entry id. -/
def specialFolderOf (order : MapOrder (SpecialFolder × Bytes)) (r : StoreRef) (id : Bytes) :
    EntityM σ (Option SpecialFolder) := do
  return ((order.visit (← specialIds d r)).find? fun e => e.2 = id).map Prod.fst

/-! ### Identity caches -/

/-- The live folder of a row's entry id, made from the row when there is none. -/
def cacheFolder (r : StoreRef) (row : List RawProp) (handle : Option Nat) :
    EntityM σ FolderRef := do
  let id := Row.binary row 0
  if let some f := (← Entities.store r).folders.lookup id then return f
  let f ← Entities.addFolder
    ⟨r, id, Row.binary row 1, row, handle, Collection.empty, Collection.empty, Collection.empty⟩
  Entities.modifyStore r fun s => { s with folders := s.folders ++ [(id, f)] }
  pure f

/-- The live item of a row's entry id, made from the row when there is none. -/
def cacheItem (r : StoreRef) (row : List RawProp) (handle : Option Nat) : EntityM σ ItemRef := do
  let id := Row.binary row 0
  if let some i := (← Entities.store r).items.lookup id then return i
  let i ← Entities.addItem ⟨r, id, Row.binary row 1, row, handle⟩
  Entities.modifyStore r fun s => { s with items := s.items ++ [(id, i)] }
  pure i

/-- The folder with an entry id; the empty id opens the IPM subtree. -/
def openFolder (r : StoreRef) (id : Bytes) : EntityM σ FolderRef := do
  let o ← ensureOpen d r
  let id := if id.isEmpty then o.rootId else id
  if let some f := (← Entities.store r).folders.lookup id then return f
  Entities.count (Metric.storeCall "open_folder")
  let h ← wrapping ("failed to open folder " ++ Bytes.toHex id) (d.openFolder o.handle id)
  Entities.count (Metric.storeCall "get_props")
  let row ← wrapping "failed to get folder properties" (d.getProps h (some Columns.folder))
  unless row.length = Columns.folder.length do
    throw (Failure.inconsistent ("folder returned " ++ toString row.length ++ " of " ++
      toString Columns.folder.length ++ " columns"))
  cacheFolder r row (some h)

/-- The item with an entry id. A live item is given without opening the store. -/
def openItem (r : StoreRef) (id : Bytes) : EntityM σ ItemRef := do
  if let some i := (← Entities.store r).items.lookup id then return i
  let o ← ensureOpen d r
  Entities.count (Metric.storeCall "open_message")
  let h ← wrapping ("failed to open item " ++ Bytes.toHex id) (d.openMessage o.handle id)
  Entities.count (Metric.storeCall "get_props")
  let row ← wrapping "failed to get item properties" (d.getProps h (some Columns.item))
  unless row.length = Columns.item.length do
    throw (Failure.inconsistent ("item returned " ++ toString row.length ++ " of " ++
      toString Columns.item.length ++ " columns"))
  cacheItem r row (some h)

/-- Opens the special folders of the given numbers, in order; a number the store has no
folder for fails as not found. -/
def specialFolders (r : StoreRef) (kinds : List Int) : EntityM σ (List FolderRef) := do
  let ids ← specialIds d r
  kinds.mapM fun n =>
    match (SpecialFolder.ofIndex? n).bind (fun k => ids.lookup k) with
    | some id => openFolder d r id
    | none => throw (Failure.because .notFound ("special folder " ++ SpecialFolder.nameOfIndex n))

/-- The special folder of a number, or nothing when the store has none. -/
def lookupSpecialFolder (r : StoreRef) (n : Int) : EntityM σ (Option FolderRef) := do
  let ids ← specialIds d r
  match (SpecialFolder.ofIndex? n).bind (fun k => ids.lookup k) with
  | some id => return some (← openFolder d r id)
  | none => return none

/-! ### Properties and names -/

/-- Decodes the columns of a row past the first `named`, which are read by name. -/
def decodeColumns (r : StoreRef) (row : List RawProp) (named : Nat) :
    EntityM σ (List Property) := do
  unless row.length ≥ named do
    throw (Failure.inconsistent ("row has " ++ toString row.length ++
      " columns, want at least " ++ toString named))
  let o ← ensureOpen d r
  Fetch.decodeAll (resolver d o) (← Entities.store r).names (keepNames r) (row.drop named)

/-- The extra columns of the store's row. -/
def columns (r : StoreRef) : EntityM σ (List Property) := do
  decodeColumns d r (← Entities.store r).columns Columns.storeNamed

/-- Whether a property came back as a stream. -/
def isStream (p : Property) : Bool :=
  match p.value with
  | some (.stream _) => true
  | _ => false

/-- Fetches properties of an object of the store, names resolved through the store. -/
def properties (r : StoreRef) (h : Nat) (cols : List Column) : EntityM σ (List Property) := do
  let o ← ensureOpen d r
  let props ← Fetch.getProperties (d.object h) d.streams (resolver d o)
    (← Entities.store r).names (keepNames r) cols
  let streams := props.countP isStream
  if streams > 0 then Entities.countBy Metric.streamFallbacks streams
  pure props

/-- Resolves identifiers to tags through the store's cache. -/
def resolveNamed (r : StoreRef) (ids : List PropertyId) : EntityM σ (List ResolvedTag) := do
  let o ← ensureOpen d r
  let (rs, c) ← (← Entities.store r).names.resolveNamed (resolver d o) ids
  keepNames r c
  pure rs

/-- Resolves tags to identifiers through the store's cache. -/
def resolveIds (r : StoreRef) (tags : List Tag) : EntityM σ (List ResolvedTag) := do
  let o ← ensureOpen d r
  let (rs, c) ← (← Entities.store r).names.resolveIds (resolver d o) tags
  keepNames r c
  pure rs

/-! ### Root folders -/

/-- Reads the folders below the IPM subtree. -/
def readRootFolders (r : StoreRef) (dirs : Directives) (watch : Nat → EntityM σ Unit) :
    EntityM σ (List (Bytes × FolderRef)) := do
  let o ← ensureOpen d r
  Entities.count (Metric.storeCall "hierarchy_table")
  let t ← wrapping "failed to open root hierarchy table" (d.hierarchyTable o.ipmSubtree)
  watch t
  Entities.count (Metric.storeCall "table_read")
  let rows ← wrapping "failed to read root hierarchy table"
    (d.read t ⟨Columns.folder, Columns.byName, dirs⟩)
  rows.mapM fun row => do pure (Row.binary row 0, ← cacheFolder r row none)

/-- The folders below the IPM subtree under some directives. -/
def loadRootFolders (r : StoreRef) (dirs : Directives) : EntityM σ (List FolderRef) :=
  r.rootSlot.load .rootFolders dirs (readRootFolders d r)
    (r.rootSlot.watch d .rootFolders (.rootFolders r))

/-- The folders below the IPM subtree, or exactly those with the given ids. -/
def rootFolders (r : StoreRef) (ids : Option (List Bytes)) (dirs : Directives) :
    EntityM σ (List FolderRef) := do
  let all ← loadRootFolders d r dirs
  match ids with
  | none => pure all
  | some ids => MonadExcept.ofExcept ((← r.rootSlot.get).pick "root folder" ids)

/-- The folder below the IPM subtree with an id, under the directives of the last load. -/
def lookupRootFolder (r : StoreRef) (id : Bytes) : EntityM σ (Option FolderRef) := do
  discard (loadRootFolders d r (← r.rootSlot.get).dirs)
  return (← r.rootSlot.get).lookup id

end StoreRef

/-- Releases a folder's subscriptions; gives the first failure. -/
def FolderRef.close {σ : Type} [EntityHost σ] (d : Driver (EntityM σ)) (f : FolderRef) :
    EntityM σ (Option Failure) := do
  let a ← f.subSlot.release d
  let b ← f.itemSlot.release d
  let c ← f.conversationSlot.release d
  pure (a <|> b <|> c)

namespace StoreRef

variable {σ : Type} [EntityHost σ] (d : Driver (EntityM σ))

/-- Forgets the live folders and items and the root folder list, and releases the
subscriptions of the folders forgotten; their failures are ignored. -/
def clearCaches (r : StoreRef) : EntityM σ Unit := do
  let s ← Entities.store r
  Entities.modifyStore r fun s => { s with folders := [], items := [] }
  if s.rootFolders.loaded then
    r.rootSlot.modify Collection.reset
    Entities.count (Metric.invalidated .rootFolders "clear")
  s.folders.forM fun (_, f) => discard (FolderRef.close d f)

/-- Clears the caches and releases the root folder list's subscription. -/
def close (r : StoreRef) : EntityM σ (Option Failure) := do
  clearCaches d r
  r.rootSlot.release d

end StoreRef

end MailStore
