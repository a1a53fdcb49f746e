import MailStore.Db.Service

/-!
# Writing to a property database

The writes an importer makes: creating stores (each with its IPM subtree folder), folders
and messages; setting properties of an entry; deleting an entry with everything below it;
naming a store's inbox; registering named properties; and the finders an importer uses to
avoid writing an object twice.

Every property write also stamps the entry's last-modification time. Properties that the
database computes (entry ids, content counts, whether a folder has subfolders) cannot be
set, nor can properties of the error or unspecified type. Integer and boolean payloads are
mirrored into a number that unread counts filter on.

Each write tells the watches of the tables that show the entry what happened: a new folder
is a row added to its parent's child folders and a row changed in its grandparent's, a new
message a row added to its folder's messages and a row changed in the folder's parent's
child folders, and so on.
-/

namespace MailStore

/-- A property to store: a tag and its payload. No payload stores null, which the database
refuses. -/
structure PropWrite where
  /-- The tag. -/
  tag : Tag
  /-- The payload, if any. -/
  data : Option Bytes
deriving DecidableEq, Repr, Inhabited

namespace PropWrite

/-- A raw property to store. -/
def ofRaw (p : RawProp) : PropWrite := ⟨p.tag, some p.data⟩

/-- A text property. -/
def text (t : Tag) (s : String) : PropWrite := ⟨t.withType PropType.unicode, some (Utf16.encodeString s)⟩

/-- The number an integer or boolean payload is mirrored into. -/
def numeric (p : PropWrite) : Option Int :=
  match p.data with
  | none => none
  | some d =>
    match Codec.decode ⟨p.tag, d⟩ with
    | .ok (some (.int n)) => some n.toInt
    | .ok (some (.bool b)) => some (if b then 1 else 0)
    | _ => none

end PropWrite

/-- The property ids the database computes. -/
def computedIds : List UInt16 :=
  [Tag.entryId.id, Tag.parentEntryId.id, Tag.contentCount.id, Tag.contentUnread.id,
    Tag.subfolders.id]

/-- The name of a store's IPM subtree folder. -/
def rootFolderName : String := "Top of Information Store"

/-- The provider name stores carry. -/
def providerName : String := "SQLite property store"

namespace PropertyDb

open DbM

/-- The table keys whose rows show an entry: the stores for a store object, a folder's
parent's child folders, a message's folder's messages and its folder's parent's child
folders. -/
def containers (e : Db.EntryRow) (grandparent : Bytes) : List String :=
  if e.kind = Db.EntryKind.store then [storesKey]
  else if e.kind = Db.EntryKind.folder then
    if e.parent.isEmpty then [] else [hierarchyKey e.parent]
  else contentsKey e.parent :: (if grandparent.isEmpty then [] else [hierarchyKey grandparent])

/-- The parent of a message's folder; empty for other entries. -/
def grandparent (e : Db.EntryRow) : DbM Bytes := do
  if e.kind ≠ Db.EntryKind.message ∨ e.parent.isEmpty then return []
  pure (← entry e.parent).parent

/-- The payload of a property as a parameter: null when there is none. -/
def payloadParam (p : PropWrite) : Sql.Value :=
  match p.data with
  | some d => .blob d
  | none => .null

/-- Stores properties of an entry and stamps its modification time. -/
def upsertProps (id : Bytes) (props : List PropWrite) : DbM Unit := do
  let stamp := PropWrite.ofRaw ⟨Tag.lastModified, Bytes.ofNatLE 8 (← get).clock.toFileTime.toNat⟩
  for p in props ++ [stamp] do
    if computedIds.contains p.tag.id then
      throw (Failure.other ("property " ++ p.tag.toText ++ " is computed and cannot be set"))
    if p.tag.type = PropType.error ∨ p.tag.type = PropType.unspecified then
      throw (Failure.other ("property " ++ p.tag.toText ++ " has no storable type"))
    exec ("failed to upsert property " ++ p.tag.toText) Db.Query.upsertProp
      [idParam id, .integer p.tag.id.toNat, .integer p.tag.type.code.toNat, payloadParam p,
        match p.numeric with
        | some n => .integer n
        | none => .null]

/-- Inserts an entry. -/
def insertEntry (id store parent : Bytes) (kind : Db.EntryKind) : DbM Unit :=
  exec ("failed to insert " ++ Db.EntryKind.name kind) Db.Query.insertEntry
    [idParam id, idParam store, nullableParam parent, .integer kind]

/-- Creates a store and its IPM subtree; gives both ids. The two ids are taken even when
the store cannot be created. -/
def createStore (name : String) : DbM (Bytes × Bytes) := do
  let storeId ← newId
  let rootId ← newId
  transaction do
    let ctx := "failed to count stores"
    let rows ← perform ctx Db.Query.countStores []
    let count ← match firstRow rows with
      | some row => column ctx rows row 0 (Db.readInt "int" 64)
      | none => throw (failure ctx noRowsText)
    exec "failed to insert store" Db.Query.insertStore [idParam storeId, textParam name, idParam rootId]
    insertEntry storeId storeId [] Db.EntryKind.store
    insertEntry rootId storeId [] Db.EntryKind.folder
    upsertProps storeId [PropWrite.text Tag.displayName name,
      PropWrite.text Tag.providerName providerName,
      ⟨Tag.defaultStore, some (Bytes.ofNatLE 2 (if count = 0 then 1 else 0))⟩,
      ⟨Tag.ipmSubtree, some rootId⟩]
    upsertProps rootId [PropWrite.text Tag.displayName rootFolderName]
  publish .rowAdded storeId [storesKey]
  pure (storeId, rootId)

/-- The parent of a new entry, which must be a folder. -/
def folderParent (parentId : Bytes) : DbM Db.EntryRow := do
  let parent ← entry parentId
  if parent.kind ≠ Db.EntryKind.folder then
    throw (Failure.because .wrongType ("parent " ++ Bytes.toHex parentId ++ " is a " ++
      Db.EntryKind.name parent.kind))
  pure parent

/-- Creates a folder below a folder, with a container class unless it is empty. -/
def createFolder (parentId : Bytes) (name containerClass : String) : DbM Bytes := do
  let parent ← folderParent parentId
  let id ← newId
  let props := [PropWrite.text Tag.displayName name] ++
    (if containerClass.isEmpty then [] else [PropWrite.text Tag.containerClass containerClass])
  transaction do
    insertEntry id parent.store parentId Db.EntryKind.folder
    upsertProps id props
  publish .rowAdded id [hierarchyKey parentId]
  if !parent.parent.isEmpty then publish .rowModified parentId [hierarchyKey parent.parent]
  pure id

/-- Creates a message in a folder. -/
def createMessage (folderId : Bytes) (props : List PropWrite) : DbM Bytes := do
  let parent ← folderParent folderId
  let id ← newId
  transaction do
    insertEntry id parent.store folderId Db.EntryKind.message
    upsertProps id props
  publish .rowAdded id [contentsKey folderId]
  if !parent.parent.isEmpty then publish .rowModified folderId [hierarchyKey parent.parent]
  pure id

/-- Sets properties of an entry. -/
def setProps (id : Bytes) (props : List PropWrite) : DbM Unit := do
  let e ← entry id
  let gp ← grandparent e
  transaction (upsertProps id props)
  publish .rowModified id (containers e gp)

/-- Deletes an entry and everything below it; deleting a store object deletes the store. -/
def deleteEntry (id : Bytes) : DbM Unit := do
  let e ← entry id
  let gp ← grandparent e
  let st := if e.kind = Db.EntryKind.store then Db.Query.deleteStore else Db.Query.deleteEntry
  exec ("failed to delete " ++ Db.EntryKind.name e.kind) st [idParam id]
  let mut keys := containers e gp
  if e.kind = Db.EntryKind.folder ∧ !e.parent.isEmpty then
    match ← (tryCatch (do pure (some (← entry e.parent))) fun _ => pure none) with
    | some p => if !p.parent.isEmpty then keys := keys ++ [hierarchyKey p.parent]
    | none => pure ()
  publish .rowDeleted id keys

/-- Makes a folder the inbox of its store. -/
def setReceiveFolder (folderId : Bytes) : DbM Unit := do
  let e ← entry folderId
  if e.kind ≠ Db.EntryKind.folder then
    throw (Failure.because .wrongType (Bytes.toHex folderId ++ " is a " ++ Db.EntryKind.name e.kind))
  exec "failed to set receive folder" Db.Query.setReceiveFolder [idParam folderId, idParam e.store]

/-- The numeric name of a named id as stored: zero for string names. -/
def lidOf (n : NamedId) : Int := if n.kind = NamedId.kindId then n.lid.toInt else 0

/-- The string name of a named id as stored: empty for numeric names. -/
def nameOf (n : NamedId) : String := if n.kind = NamedId.kindString then n.name else ""

/-- The parameters of a look-up of a name in a store. -/
def nameParams (store : Bytes) (n : NamedId) : List Sql.Value :=
  [idParam store, .blob n.propSet.toBytes, .integer n.kind.toNat, .integer (lidOf n),
    textParam (nameOf n)]

/-- The property id registered for a name in a store, if any. -/
def registered (store : Bytes) (n : NamedId) : DbM (Option Int) := do
  let ctx := "failed to look up named property"
  let rows ← perform ctx Db.Query.namedId (nameParams store n)
  match firstRow rows with
  | some row => some <$> column ctx rows row 0 (Db.readInt "int" 64)
  | none => pure none

/-- The tag of a registered property id. -/
def registeredTag (id : Int) : Tag := Tag.make PropType.unspecified (id % 65536).toNat.toUInt16

/-- The tags of names in a store, registering names that have none yet with the next id
of the named range; all or none of the names are registered. -/
def registerNames (store : Bytes) (names : List NamedId) : DbM (List Tag) :=
  transaction do
    names.mapM fun n => do
      match ← registered store n with
      | some id => pure (registeredTag id)
      | none =>
        let ctx := "failed to allocate named property id"
        let rows ← perform ctx Db.Query.nextNamedId [.integer 0x7FFF, idParam store]
        let id ← match firstRow rows with
          | some row => column ctx rows row 0 (Db.readInt "int" 64)
          | none => throw (failure ctx noRowsText)
        if id > 0xFFFE then
          throw (Failure.other ("named property range of store " ++ Bytes.toHex store ++
            " is exhausted"))
        exec ("failed to register named property " ++ n.toText) Db.Query.insertName
          [idParam store, .integer id, .blob n.propSet.toBytes, .integer n.kind.toNat,
            .integer (lidOf n), textParam (nameOf n)]
        pure (registeredTag id)

/-- The store and IPM subtree ids of the store with a name. -/
def findStore (name : String) : DbM (Bytes × Bytes) := do
  let ctx := "failed to find store"
  let rows ← perform ctx Db.Query.findStore [textParam name]
  match firstRow rows with
  | some row =>
    let storeId ← column ctx rows row 0 fun v => .ok (Db.readBytes v)
    let rootId ← column ctx rows row 1 fun v => .ok (Db.readBytes v)
    pure (storeId, rootId)
  | none => throw (Failure.because .noEntry ("store " ++ name))

/-- The first child of a kind of a folder whose property with an id has exactly a
payload. -/
def childWith (ctx : String) (parent : Bytes) (kind : Db.EntryKind) (propId : Nat)
    (value : Bytes) : DbM (Option Bytes) := do
  let rows ← perform ctx Db.Query.findChild
    [.integer propId, idParam parent, .integer kind, .blob value]
  match firstRow rows with
  | some row => some <$> column ctx rows row 0 fun v => .ok (Db.readBytes v)
  | none => pure none

/-- The child folder of a folder with a display name. -/
def findChildFolder (parent : Bytes) (name : String) : DbM Bytes := do
  match ← childWith "failed to find folder" parent Db.EntryKind.folder Tag.displayName.id.toNat
      (Utf16.encodeString name) with
  | some id => pure id
  | none => throw (Failure.because .noEntry ("folder " ++ name))

/-- The message of a folder whose property with a tag's id has exactly a payload. -/
def findMessage (folder : Bytes) (tag : Tag) (value : Bytes) : DbM Bytes := do
  match ← childWith "failed to find message" folder Db.EntryKind.message tag.id.toNat value with
  | some id => pure id
  | none => throw (Failure.because .noEntry ("message with " ++ tag.toText))

end PropertyDb

end MailStore
