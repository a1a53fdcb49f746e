import MailStore.Sql.Syntax

/-!
# Schema and rows of a database

A database holds tables, indexes, triggers and views. A table has columns (each with its
declared type, the affinity that type gives it, whether null is refused, a default and a
collation), check constraints, foreign keys, and rows; every row has an integer row id, and
a table lists its rows by row id. A column declared `INTEGER PRIMARY KEY` is the row id
under another name.

An index lists columns of one table; a unique index refuses two rows with the same values
in all its columns when none of them is null. The primary key and every `UNIQUE` constraint
of a table come with a unique index of their own, named after the table.

Indexes and triggers are kept newest first, which is the order in which the database checks
the unique indexes of a table and fires the triggers of a change. Tables and views are kept
in the order they were made.

Names of tables, columns, indexes, triggers and views are matched without regard to the
case of ASCII letters; a table may be named with the schema `main` in front.

## Failures

A failing statement reports a result code and a message; the text shown for it is the
code's description, the message when it says more, and the code
(`constraint failed: NOT NULL constraint failed: props.value (1299)`). A failure also says
what becomes of the statement's changes: undone (`abort`), kept (`fail`), undone with the
whole transaction (`rollback`), or, raised by a trigger, that the row at hand is skipped
(`ignore`).
-/

namespace MailStore

namespace Sql

/-- Why a statement failed. -/
structure Fault where
  /-- The result code: `1` for errors of the statement itself, `19` and the extended codes
  above it for broken constraints, `20` for a value of the wrong type. -/
  code : Nat
  /-- The message. -/
  message : String
  /-- What becomes of the statement's changes. -/
  action : RaiseKind
deriving Inhabited, Repr

namespace Fault

/-- An error of the statement itself. -/
def logic (message : String) : Fault := ⟨1, message, .abort⟩

/-- A value of the wrong type where an integer is required. -/
def mismatch : Fault := ⟨20, "datatype mismatch", .abort⟩

/-- A broken `NOT NULL` constraint. -/
def notNull (table column : String) (action : RaiseKind) : Fault :=
  ⟨1299, "NOT NULL constraint failed: " ++ table ++ "." ++ column, action⟩

/-- A broken unique index; `primary` for a primary key. -/
def unique (table : String) (columns : List String) (primary : Bool) (action : RaiseKind) :
    Fault :=
  ⟨if primary then 1555 else 2067,
    "UNIQUE constraint failed: " ++ ", ".intercalate (columns.map fun c => table ++ "." ++ c),
    action⟩

/-- A broken check constraint. -/
def check (name : String) (action : RaiseKind) : Fault :=
  ⟨275, "CHECK constraint failed: " ++ name, action⟩

/-- A foreign key left dangling at the end of a statement. -/
def foreignKey : Fault := ⟨787, "FOREIGN KEY constraint failed", .abort⟩

/-- A trigger stopping the statement. -/
def raised (kind : RaiseKind) (message : String) : Fault := ⟨1811, message, kind⟩

/-- The description of a result code, by its primary part. -/
def describe (code : Nat) : String :=
  match code % 256 with
  | 1 => "SQL logic error"
  | 5 => "database is locked"
  | 11 => "database disk image is malformed"
  | 13 => "database or disk is full"
  | 14 => "unable to open database file"
  | 18 => "string or blob too big"
  | 19 => "constraint failed"
  | 20 => "datatype mismatch"
  | 21 => "bad parameter or other API misuse"
  | 25 => "column index out of range"
  | _ => "unknown error"

/-- The text of a failure: the code's description, the message when it differs from it,
and the code. -/
def text (f : Fault) : String :=
  let d := describe f.code
  (if f.message = d then d else d ++ ": " ++ f.message) ++ " (" ++ toString f.code ++ ")"

end Fault

/-- Whether two names are the same, ASCII letters compared without case. -/
def sameName (a b : String) : Bool := a.toLower == b.toLower

/-- A name without the schema `main` in front. -/
def bareName (n : String) : String :=
  if (n.take 5).toString.toLower == "main." then (n.drop 5).toString else n

/-- Whether a name is one of the names of the row id. -/
def isRowidName (n : String) : Bool :=
  ["rowid", "oid", "_rowid_"].contains n.toLower

/-- A column of a table. -/
structure Column where
  /-- The name. -/
  name : String
  /-- The declared type, as written. -/
  type : String
  /-- The affinity the type gives. -/
  affinity : Affinity
  /-- Whether null is refused. -/
  notNull : Bool
  /-- The default, when one is declared. -/
  default : Option Expr
  /-- How text in the column compares. -/
  collation : Collation
deriving Inhabited

/-- A foreign key of a table: its columns refer to columns of a parent table. -/
structure ForeignKey where
  /-- The referring columns. -/
  columns : List String
  /-- The parent table. -/
  parent : String
  /-- The columns referred to; empty for the parent's primary key. -/
  parentColumns : List String
  /-- What deleting a parent row does. -/
  onDelete : KeyAction
  /-- What changing a parent key does. -/
  onUpdate : KeyAction
deriving Inhabited

/-- A row: its row id and its values, one per column. -/
structure Row where
  /-- The row id. -/
  rowid : Int
  /-- The values by column. -/
  values : Array Value
deriving Inhabited

/-- The value of a column of a row; null past the end. -/
def Row.get (r : Row) (i : Nat) : Value := r.values.getD i .null

/-- A table. -/
structure Table where
  /-- The name. -/
  name : String
  /-- The columns in order. -/
  columns : Array Column
  /-- The column that is the row id under another name. -/
  rowidAlias : Option Nat
  /-- The check constraints, in the order declared. -/
  checks : List Check
  /-- The foreign keys, in the order declared. -/
  foreignKeys : List ForeignKey
  /-- The rows, by row id. -/
  rows : List Row
deriving Inhabited

/-- Where an index comes from. -/
inductive IndexOrigin where
  /-- `CREATE INDEX`. -/
  | created
  /-- A `UNIQUE` constraint. -/
  | uniqueConstraint
  /-- The primary key. -/
  | primaryKey
deriving DecidableEq, Repr, Inhabited

/-- An index on columns of a table. -/
structure Index where
  /-- The name. -/
  name : String
  /-- The table. -/
  table : String
  /-- The columns, in order. -/
  columns : List String
  /-- Whether two rows may not share a key. -/
  unique : Bool
  /-- Where it comes from. -/
  origin : IndexOrigin
deriving Inhabited

/-- A trigger: what it watches, when it acts, its condition and its statements. -/
structure Trigger where
  /-- The name. -/
  name : String
  /-- The table watched. -/
  table : String
  /-- Before or after the change. -/
  time : TriggerTime
  /-- The change watched. -/
  event : TriggerEvent
  /-- The condition, when given. -/
  condition : Option Expr
  /-- The statements. -/
  body : List Stmt
deriving Inhabited

/-- A view: a named query. -/
structure View where
  /-- The name. -/
  name : String
  /-- The query. -/
  query : Select
deriving Inhabited

/-- A database. -/
structure Database where
  /-- The tables, oldest first. -/
  tables : List Table
  /-- The indexes, newest first. -/
  indexes : List Index
  /-- The triggers, newest first. -/
  triggers : List Trigger
  /-- The views, oldest first. -/
  views : List View
deriving Inhabited

namespace Table

/-- The position of a column. -/
def columnIndex? (t : Table) (name : String) : Option Nat :=
  t.columns.toList.findIdx? fun c => sameName c.name name

/-- The names of the columns. -/
def columnNames (t : Table) : List String := t.columns.toList.map Column.name

/-- The row with a row id. -/
def row? (t : Table) (rowid : Int) : Option Row := t.rows.find? fun r => r.rowid = rowid

/-- The row id a new row gets: one more than the largest, or one for an empty table. -/
def nextRowid (t : Table) : Int := (t.rows.foldl (fun m r => max m r.rowid) 0) + 1

/-- Rows by row id with a row put in its place, replacing one with its row id. -/
def placeRow (r : Row) : List Row → List Row
  | [] => [r]
  | x :: xs =>
    if x.rowid = r.rowid then r :: xs
    else if r.rowid < x.rowid then r :: x :: xs
    else x :: placeRow r xs

/-- The table with a row put in its place. -/
def putRow (t : Table) (r : Row) : Table := { t with rows := placeRow r t.rows }

/-- The table without the row with a row id. -/
def dropRow (t : Table) (rowid : Int) : Table :=
  { t with rows := t.rows.filter fun r => r.rowid ≠ rowid }

end Table

namespace Database

/-- A database with nothing in it. -/
def empty : Database := ⟨[], [], [], []⟩

/-- The table with a name. -/
def table? (db : Database) (name : String) : Option Table :=
  db.tables.find? fun t => sameName t.name (bareName name)

/-- The view with a name. -/
def view? (db : Database) (name : String) : Option View :=
  db.views.find? fun v => sameName v.name (bareName name)

/-- The index with a name. -/
def index? (db : Database) (name : String) : Option Index :=
  db.indexes.find? fun i => sameName i.name (bareName name)

/-- The trigger with a name. -/
def trigger? (db : Database) (name : String) : Option Trigger :=
  db.triggers.find? fun t => sameName t.name (bareName name)

/-- The indexes of a table, newest first. -/
def indexesOf (db : Database) (table : String) : List Index :=
  db.indexes.filter fun i => sameName i.table table

/-- The unique indexes of a table, newest first. -/
def uniqueIndexesOf (db : Database) (table : String) : List Index :=
  (db.indexesOf table).filter Index.unique

/-- The triggers of a table, newest first. -/
def triggersOf (db : Database) (table : String) : List Trigger :=
  db.triggers.filter fun t => sameName t.table table

/-- The database with a table replaced by one of its name. -/
def putTable (db : Database) (t : Table) : Database :=
  { db with tables := db.tables.map fun x => if sameName x.name t.name then t else x }

/-- The foreign keys of every table, oldest first, each with its table's name. -/
def foreignKeys (db : Database) : List (String × ForeignKey) :=
  db.tables.flatMap fun t => t.foreignKeys.map fun k => (t.name, k)

/-- The foreign keys that refer to a table, newest first, each with its table's name. -/
def referencesTo (db : Database) (parent : String) : List (String × ForeignKey) :=
  (db.foreignKeys.filter fun (_, k) => sameName k.parent parent).reverse

/-- The primary key columns of a table: those of its primary key index, or the row id
column. -/
def primaryKeyOf (db : Database) (t : Table) : List String :=
  match (db.indexesOf t.name).find? fun i => i.origin = .primaryKey with
  | some i => i.columns
  | none => match t.rowidAlias with
    | some c => [(t.columns.getD c default).name]
    | none => []

end Database

theorem placeRow_nil (r : Row) : Table.placeRow r [] = [r] := rfl

end Sql

end MailStore
