import MailStore.Db.Writer
import MailStore.Table.Read
import MailStore.Text.Collation

/-!
# Reading a property database

An entry's properties are those stored for it and those the database computes: its entry
id, its parent's id when it has a parent, and for a folder the number of its messages, of
its unread messages (those whose flags property is missing or has the read bit clear) and
whether it has child folders.

A property is read in the type the caller asks for: the stored type, or the type of the
stored value when the caller asks for none, or the other string type when one string type
is stored and the other asked for. Anything else reads as "not found", and a bulk read
reports a value longer than the inline limit as "not enough memory" instead; a stream
reads the whole value.

A table lists the store objects, or the child folders or messages of a folder, in creation
order. Reading it projects the columns, sorts the rows by the sort orders (the directives'
when they give any) in a stable sort where absent values come first and text compares by
the case-insensitive collation, then cuts the directives' window.
-/

namespace MailStore

namespace PropertyDb

open DbM

/-- Puts a property in place of the one with its id, or adds it. -/
def putProp (ps : List RawProp) (p : RawProp) : List RawProp :=
  if ps.any fun q => q.tag.id = p.tag.id then ps.map fun q => if q.tag.id = p.tag.id then p else q
  else ps ++ [p]

/-- An integer property as the database computes it. -/
def intProp (t : Tag) (n : Int) : RawProp :=
  match Codec.encode t.id (some (.int (Int.toInt64 n))) with
  | .ok p => p
  | .error _ => ⟨t, []⟩

/-- Every stored and computed property of an entry. -/
def loadProps (e : Db.EntryRow) : DbM (List RawProp) := do
  let rows ← perform "failed to query properties" Db.Query.props [idParam e.id]
  let mut props : List RawProp := []
  for row in rows.rows do
    let ctx := "failed to scan property"
    let id ← column ctx rows row 0 (Db.readInt "int" 64)
    let typ ← column ctx rows row 1 (Db.readInt "int" 64)
    let value := Db.readBytes (row.getD 2 .null)
    props := putProp props
      ⟨Tag.make ⟨(typ % 65536).toNat.toUInt16⟩ (id % 65536).toNat.toUInt16, value⟩
  let withIds := putProp props ⟨Tag.entryId, e.id⟩
  let withParent := if e.parent.isEmpty then withIds else putProp withIds ⟨Tag.parentEntryId, e.parent⟩
  if e.kind ≠ Db.EntryKind.folder then return withParent
  let ctx := "failed to count folder contents"
  let counts ← perform ctx Db.Query.folderCounts
    [idParam e.id, .integer Db.EntryKind.message, .integer Tag.messageFlags.id.toNat, .integer 1,
      .integer Db.EntryKind.folder]
  let some row := firstRow counts | throw (failure ctx noRowsText)
  let count ← column ctx counts row 0 (Db.readInt "int64" 64)
  let unread ← column ctx counts row 1 (Db.readInt "int64" 64)
  let subfolders ← column ctx counts row 2 (Db.readInt "int64" 64)
  pure (putProp (putProp (putProp withParent (intProp Tag.contentCount count))
    (intProp Tag.contentUnread unread))
    ⟨Tag.subfolders, Bytes.ofNatLE 2 (if subfolders > 0 then 1 else 0)⟩)

/-- A stored property in another type: none except between the two string types. -/
def coerce (stored : RawProp) (want : PropType) : Option RawProp :=
  let have_ := stored.tag.type
  if want = PropType.unspecified ∨ want = have_ then some stored
  else if have_ = PropType.unicode ∧ want = PropType.string8 then
    match Utf16.decode stored.data with
    | .ok t => some ⟨Tag.make want stored.tag.id, t.bytes⟩
    | .error _ => none
  else if have_ = PropType.string8 ∧ want = PropType.unicode then
    some ⟨Tag.make want stored.tag.id, Utf16.encode ⟨stored.data⟩⟩
  else none

/-- The property for a tag in the tag's type, or an error property; with `inline` a value
longer than `limit` is reported as too large. -/
def project (props : List RawProp) (limit : Nat) (t : Tag) (inline : Bool) : RawProp :=
  match props.find? fun p => p.tag.id = t.id with
  | none => RawProp.errorProp t.id ErrorCode.notFound
  | some stored =>
    match coerce stored t.type with
    | none => RawProp.errorProp t.id ErrorCode.notFound
    | some v =>
      if inline ∧ v.data.length > limit then RawProp.errorProp t.id ErrorCode.notEnoughMemory
      else v

/-- The properties of an entry for tags, or all of them sorted by id. -/
def getProps (e : Db.EntryRow) (tags : Option (List Tag)) : DbM (List RawProp) := do
  let props ← loadProps e
  let limit := (← get).maxInline
  match tags with
  | none =>
    pure ((props.map fun p => project props limit p.tag true).mergeSort
      fun a b => a.tag.id ≤ b.tag.id)
  | some ts => pure (ts.map fun t => project props limit t true)

/-- The whole value of one property of an entry. -/
def openStream (e : Db.EntryRow) (t : Tag) : DbM Bytes := do
  let props ← loadProps e
  let p := project props 0 t false
  match p.errorCode? with
  | some code =>
    throw (Failure.because .noEntry ("property " ++ t.toText ++ " (error 0x" ++
      Tag.hexUpper 8 code.toNat ++ ")"))
  | none => pure p.data

/-- The tags of names in a store: the error tag for a name not registered. -/
def idsFromNames (store : Bytes) (names : List NamedId) : DbM (List Tag) :=
  names.mapM fun n => do
    match ← registered store n with
    | some id => pure (registeredTag id)
    | none => pure (Tag.make PropType.error 0)

/-- The names of tags in a store: none for a tag not registered. -/
def namesFromIds (store : Bytes) (tags : List Tag) : DbM (List (Option NamedId)) :=
  tags.mapM fun t => do
    let ctx := "failed to look up property name"
    let rows ← perform ctx Db.Query.nameOfId [idParam store, .integer t.id.toNat]
    match firstRow rows with
    | none => pure none
    | some row =>
      let propSet := Db.readBytes (row.getD 0 .null)
      let kind ← column ctx rows row 1 (Db.readUnsigned "uint32" 32)
      let lid ← column ctx rows row 2 (Db.readInt "int32" 32)
      let name ← column ctx rows row 3 Db.readString
      pure (some ⟨(Guid.ofBytes? ((propSet ++ List.replicate 16 0).take 16)).getD Guid.nil,
        kind.toUInt32, Int.toInt32 lid, name⟩)

/-- The inbox of a store; empty when it has none. -/
def receiveFolder (store : Bytes) : DbM Bytes := do
  let ctx := "failed to get receive folder"
  let rows ← perform ctx Db.Query.receiveFolder [idParam store]
  match firstRow rows with
  | some row => column ctx rows row 0 fun v => .ok (Db.readBytes v)
  | none => throw (failure ctx noRowsText)

/-- The store object with an id. -/
def openStore (id : Bytes) : DbM Db.EntryRow := do
  let e ← entry id
  if e.kind ≠ Db.EntryKind.store then
    throw (Failure.because .wrongType (Bytes.toHex id ++ " is a " ++ Db.EntryKind.name e.kind))
  pure e

/-- An entry of a store, which must be of a kind. -/
def openChild (store : Db.EntryRow) (id : Bytes) (kind : Db.EntryKind) : DbM Db.EntryRow := do
  let e ← entry id
  if e.store ≠ store.id then
    throw (Failure.because .noEntry (Bytes.toHex id ++ " belongs to another store"))
  if e.kind ≠ kind then
    throw (Failure.because .wrongType (Bytes.toHex id ++ " is a " ++ Db.EntryKind.name e.kind))
  pure e

end PropertyDb

/-- A table of a property database: the store objects, or the child folders or the
messages of a folder. -/
inductive DbTable where
  /-- The store objects. -/
  | stores
  /-- The child folders of a folder. -/
  | hierarchy (parent : Bytes)
  /-- The messages of a folder. -/
  | contents (parent : Bytes)
deriving DecidableEq, Repr, Inhabited

namespace DbTable

/-- The key watches of the table go by. -/
def key : DbTable → String
  | .stores => storesKey
  | .hierarchy p => hierarchyKey p
  | .contents p => contentsKey p

/-- The entries of the table, in creation order. -/
def entries (t : DbTable) : DbM (List Db.EntryRow) := do
  let (st, params) : Sql.Stmt × List Sql.Value := match t with
    | .stores => (Db.Query.storeRows, [.integer Db.EntryKind.store])
    | .hierarchy p => (Db.Query.childRows, [DbM.idParam p, .integer Db.EntryKind.folder])
    | .contents p => (Db.Query.childRows, [DbM.idParam p, .integer Db.EntryKind.message])
  let rows ← DbM.perform "failed to query table" st params
  rows.rows.mapM fun row => do
    let ctx := "failed to scan table row"
    let id ← DbM.column ctx rows row 0 fun v => .ok (Db.readBytes v)
    let store ← DbM.column ctx rows row 1 fun v => .ok (Db.readBytes v)
    let parent ← DbM.column ctx rows row 2 fun v => .ok (Db.readBytes v)
    let kind ← DbM.column ctx rows row 3 (Db.readInt "int" 64)
    pure ⟨id, store, parent, kind⟩

/-- The order of two sort keys: absent first, values of one kind by their own order (text
by the collation), values of different kinds by the names of their kinds. -/
def keyOrder : Option Value → Option Value → Ordering
  | none, none => .eq
  | none, some _ => .lt
  | some _, none => .gt
  | some a, some b =>
    match a, b with
    | .int x, .int y => compare x.toInt y.toInt
    | .bool x, .bool y => compare x.toNat y.toNat
    | .string x, .string y => Collation.compare x.toString y.toString
    | .dateTime x, .dateTime y => Instant.compare x y
    | .guid x, .guid y => Sql.bytesOrder x.toBytes y.toBytes
    | .binary x, .binary y => Sql.bytesOrder x y
    | x, y => Sql.bytesOrder x.kind.name.toUTF8.toList y.kind.name.toUTF8.toList

/-- The order of two rows by their keys under sort orders. -/
def rowOrder : List SortOrder → List (Option Value) → List (Option Value) → Ordering
  | s :: ss, a :: as, b :: bs =>
    let o := keyOrder a b
    let o := if s.descending then o.swap else o
    if o = .eq then rowOrder ss as bs else o
  | _, _, _ => .eq

/-- Reads the table: projected columns, sorted stably, windowed. -/
def read (t : DbTable) (req : ReadRequest) : DbM (List (List RawProp)) := do
  let es ← t.entries
  let sorts := if req.directives.orderBy.isEmpty then req.sorts else req.directives.orderBy
  let limit := (← get).maxInline
  let rows ← es.mapM fun e => do
    let props ← PropertyDb.loadProps e
    let cols := req.columns.map fun c => PropertyDb.project props limit c true
    let keys := sorts.map fun s =>
      match Codec.decode (PropertyDb.project props limit s.tag false) with
      | .ok v => v
      | .error _ => none
    pure (cols, keys)
  let sorted := if sorts.isEmpty then rows
    else rows.mergeSort fun a b => rowOrder sorts a.2 b.2 != .gt
  pure (req.directives.window (sorted.map Prod.fst))

end DbTable

end MailStore
