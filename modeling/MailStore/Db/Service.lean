import MailStore.Db.Schema
import MailStore.Db.Scan
import MailStore.Prop.Codec
import MailStore.Prop.Named

/-!
# An open property database

An open database is its connection (with foreign keys enforced), whether it was closed,
the source of the entry ids it hands out, the time it stamps writes with, the size above
which bulk reads leave a value out, and the watches on its tables with what was delivered
to them.

Entry ids are version 4 UUIDs made from a counter: the `k`-th id is the 16 bytes of an
8-byte prefix and `k` in 8 big-endian bytes, with the version nibble set to 4 and the
variant bits to `10`.

Operations run in `DbM`: each runs the store's statements on the connection and fails
with a `Failure` whose message puts what the operation was doing in front of the
database's wording (`failed to get entry: SQL logic error: …`). A transaction undoes its
writes when it fails, but the ids it took stay taken. Once closed, every call fails with
`sql: database is closed`.
-/

namespace MailStore

/-- Where entry ids come from: a prefix and the number of the next id. -/
structure IdSource where
  /-- The first eight bytes, as a number. -/
  pre : Nat
  /-- The number of the next id. -/
  next : Nat
deriving DecidableEq, Repr, Inhabited

namespace IdSource

/-- The id with a number. -/
def idOf (pre k : Nat) : Bytes :=
  let raw := Bytes.ofNatBE 8 pre ++ Bytes.ofNatBE 8 k
  raw.mapIdx fun i b =>
    if i = 6 then (b &&& 0x0F) ||| 0x40
    else if i = 8 then (b &&& 0x3F) ||| 0x80
    else b

/-- Takes the next id. -/
def take (s : IdSource) : Bytes × IdSource := (idOf s.pre s.next, { s with next := s.next + 1 })

theorem idOf_length (pre k : Nat) : (idOf pre k).length = 16 := by
  simp [idOf, Bytes.ofNatBE, Bytes.length_ofNatLE]

end IdSource

/-- What changed in a table. -/
inductive NoticeKind where
  /-- The table as a whole. -/
  | modified
  /-- A row was added. -/
  | rowAdded
  /-- A row was deleted. -/
  | rowDeleted
  /-- A row changed. -/
  | rowModified
deriving DecidableEq, Repr, Inhabited

/-- The name of a kind of notice. -/
def NoticeKind.name : NoticeKind → String
  | .modified => "modified"
  | .rowAdded => "row_added"
  | .rowDeleted => "row_deleted"
  | .rowModified => "row_modified"

/-- A change notice: what changed, and the entry it concerns. -/
structure Notice where
  /-- What changed. -/
  kind : NoticeKind
  /-- The entry concerned. -/
  entry : Bytes
deriving DecidableEq, Repr, Inhabited

/-- A watch on a table, known by the table's key. -/
structure Watch where
  /-- The key of the table. -/
  key : String
  /-- Whether it still receives notices. -/
  live : Bool
deriving DecidableEq, Repr, Inhabited

/-- The watches of a database and the notices delivered to them, in delivery order. -/
structure Notifier where
  /-- The watches, by number. -/
  watches : List Watch
  /-- The notices delivered, each with the number of its watch. -/
  delivered : List (Nat × Notice)
  /-- Whether delivery has stopped for good. -/
  closed : Bool
deriving Inhabited

namespace Notifier

/-- No watches. -/
def empty : Notifier := ⟨[], [], false⟩

/-- Delivers a notice to every live watch of each table key, unless delivery stopped. -/
def publish (n : Notifier) (notice : Notice) (keys : List String) : Notifier :=
  if n.closed then n
  else
    let fresh := keys.flatMap fun key =>
      (n.watches.zipIdx.filter fun (w, _) => w.live ∧ w.key = key).map fun (_, i) => (i, notice)
    { n with delivered := n.delivered ++ fresh }

/-- Adds a watch on a table; gives its number. -/
def watch (n : Notifier) (key : String) : Nat × Notifier :=
  (n.watches.length, { n with watches := n.watches ++ [⟨key, true⟩] })

/-- Ends a watch. -/
def unwatch (n : Notifier) (i : Nat) : Notifier :=
  { n with watches := n.watches.modify i fun w => { w with live := false } }

end Notifier

/-- The key of the table of stores. -/
def storesKey : String := "stores"

/-- The key of the child folders of a folder. -/
def hierarchyKey (parent : Bytes) : String := "hierarchy:" ++ Bytes.toHex parent

/-- The key of the messages of a folder. -/
def contentsKey (parent : Bytes) : String := "contents:" ++ Bytes.toHex parent

/-- An open property database. -/
structure PropertyDb where
  /-- The connection the store runs its statements on. -/
  conn : Sql.Connection
  /-- Whether the database was closed. -/
  closed : Bool
  /-- Where new entry ids come from. -/
  ids : IdSource
  /-- The time writes are stamped with. -/
  clock : Instant
  /-- The largest value a bulk read returns. -/
  maxInline : Nat
  /-- Watches and delivered notices. -/
  notifier : Notifier
deriving Inhabited

/-- The default largest value of a bulk read: 32 KiB. -/
def PropertyDb.defaultMaxInline : Nat := 32 * 1024

/-- A database opened on an existing one with an id prefix, a clock and an inline limit
(zero for the default). -/
def PropertyDb.openOn (conn : Sql.Connection) (pre : Nat) (clock : Instant) (maxInline : Nat) :
    PropertyDb :=
  ⟨conn, false, ⟨pre, 1⟩, clock,
    if maxInline = 0 then PropertyDb.defaultMaxInline else maxInline, Notifier.empty⟩

/-- A fresh database with an id prefix, a clock and an inline limit (zero for the
default). -/
def PropertyDb.create (pre : Nat) (clock : Instant) (maxInline : Nat) : PropertyDb :=
  PropertyDb.openOn (Db.openConnection Sql.Database.empty).1 pre clock maxInline

/-- The rows and schema of a database. -/
def PropertyDb.data (p : PropertyDb) : Sql.Database := p.conn.db

/-- Operations on an open database. -/
abbrev DbM := ExceptT Failure (StateM PropertyDb)

namespace DbM

/-- What a call on a closed database fails with. -/
def closedText : String := "sql: database is closed"

/-- What a read of one row fails with when there is none. -/
def noRowsText : String := "sql: no rows in result set"

/-- A database failure with what the operation was doing. -/
def failure (context : String) (message : String) : Failure :=
  Failure.other (context ++ ": " ++ message)

/-- Runs one of the store's statements with parameters: the rows it gives. -/
def perform (context : String) (st : Sql.Stmt) (params : List Sql.Value) : DbM Sql.Rows := do
  let s ← get
  if s.closed then throw (failure context closedText)
  let (c, r) := s.conn.execute params.toArray st
  set { s with conn := c }
  match r with
  | .ok rows => pure rows
  | .error f => throw (failure context f.text)

/-- Runs one of the store's statements for its effect. -/
def exec (context : String) (st : Sql.Stmt) (params : List Sql.Value) : DbM Unit :=
  discard (perform context st params)

/-- Reads column `i` of a row of a result into a place. -/
def column {α : Type} (context : String) (rows : Sql.Rows) (row : Array Sql.Value) (i : Nat)
    (read : Sql.Value → Except String α) : DbM α :=
  match read (row.getD i .null) with
  | .ok a => pure a
  | .error why => throw (failure context (Db.scanError i (rows.columns.getD i default).name why))

/-- The first row of a result, if any. -/
def firstRow (rows : Sql.Rows) : Option (Array Sql.Value) := rows.rows.head?

/-- An entry id as a parameter. -/
def idParam (b : Bytes) : Sql.Value := .blob b

/-- An entry id that may be absent as a parameter: null when empty. -/
def nullableParam (b : Bytes) : Sql.Value := if b.isEmpty then .null else .blob b

/-- Text as a parameter. -/
def textParam (s : String) : Sql.Value := .text (Text.ofString s)

/-- Takes the next entry id. -/
def newId : DbM Bytes := do
  let s ← get
  let (id, ids) := s.ids.take
  set { s with ids := ids }
  pure id

/-- Runs writes as one transaction: when one fails, none of them stays. -/
def transaction {α : Type} (x : DbM α) : DbM α := do
  let s ← get
  if s.closed then throw (failure "failed to begin transaction" closedText)
  let before := s.conn
  tryCatch x fun f => do
    modify fun s => { s with conn := before }
    throw f

/-- Delivers a notice to the watches of the given tables. -/
def publish (kind : NoticeKind) (entry : Bytes) (keys : List String) : DbM Unit :=
  modify fun s => { s with notifier := s.notifier.publish ⟨kind, entry⟩ keys }

/-- The entry with an id. -/
def entry (id : Bytes) : DbM Db.EntryRow := do
  let ctx := "failed to get entry"
  let rows ← perform ctx Db.Query.entry [idParam id]
  match firstRow rows with
  | none => throw (Failure.because .noEntry (Bytes.toHex id))
  | some row =>
    let store ← column ctx rows row 0 fun v => .ok (Db.readBytes v)
    let parent ← column ctx rows row 1 fun v => .ok (Db.readBytes v)
    let kind ← column ctx rows row 2 (Db.readInt "int" 64)
    pure ⟨id, store, parent, kind⟩

end DbM

end MailStore
