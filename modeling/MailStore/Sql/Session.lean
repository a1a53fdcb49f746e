import MailStore.Sql.Define
import MailStore.Sql.Parse

/-!
# Connections

A connection runs statements on a database one at a time. A statement is read, checked
against the schema, and run; what it does is kept or undone as a whole:

* a statement that fails with `ABORT` (the default) leaves the database as it was before
  it;
* one that fails with `FAIL` keeps the changes it made before failing;
* one that fails with `ROLLBACK` undoes the whole open transaction and ends it;
* a statement that leaves a foreign key dangling fails at its end, undone, when the
  connection enforces foreign keys.

Outside `BEGIN … COMMIT` every statement is its own transaction. `PRAGMA foreign_keys`
switches enforcement, except inside a transaction where it does nothing.
-/

namespace MailStore

namespace Sql

/-- A connection: its database, whether it enforces foreign keys, and the database as it
was when the open transaction began. -/
structure Connection where
  /-- The database. -/
  db : Database
  /-- Whether foreign keys are enforced. -/
  foreignKeys : Bool
  /-- The database before the open transaction, when one is open. -/
  began : Option Database
deriving Inhabited

/-- The answer of a statement that gives no rows. -/
def noRows : Rows := ⟨[], []⟩

/-- The time the database reads as now. -/
def clock : String := "2026-01-01 00:00:00"

namespace Connection

/-- A connection to a database, outside any transaction. -/
def connect (db : Database) (foreignKeys : Bool) : Connection := ⟨db, foreignKeys, none⟩

/-- The end of a statement that changed rows: what it did is kept, or undone as its
failure says. -/
def finish (c : Connection) (r : Except Fault Unit) (after : Run) : Connection × Except Fault Rows :=
  let dangling := c.foreignKeys && after.pending > 0
  match r with
  | .ok () =>
    if dangling then (c, .error Fault.foreignKey) else ({ c with db := after.db }, .ok noRows)
  | .error f =>
    match f.action with
    | .fail =>
      if dangling then (c, .error Fault.foreignKey) else ({ c with db := after.db }, .error f)
    | .rollback => ({ c with db := c.began.getD c.db, began := none }, .error f)
    | _ => (c, .error f)

/-- The end of a schema statement. -/
def reshape (c : Connection) (r : Except Fault Database) : Connection × Except Fault Rows :=
  match r with
  | .ok db => ({ c with db := db }, .ok noRows)
  | .error f => (c, .error f)

/-- Runs row changes on the connection's database. -/
def change (c : Connection) (params : Array Value) (x : Setting → RunM Unit) :
    Connection × Except Fault Rows :=
  let (r, after) := ((x ⟨c.foreignKeys, params, clock⟩).run).run ⟨c.db, 0⟩
  c.finish r after

/-- Whether a pragma's value turns a switch on. -/
def switchedOn (v : Expr) : Bool :=
  match v with
  | .literal (.integer n) => n ≠ 0
  | .literal (.text t) => ["on", "yes", "true", "1"].contains (Text.toString t).toLower
  | .literal (.real x) => x != 0
  | _ => false

/-- Drops a table; when foreign keys are enforced and other tables refer to it, its rows
are deleted first, without triggers, and the drop fails if that leaves a reference
dangling. -/
def dropTable (c : Connection) (ifExists : Bool) (name : String) : Connection × Except Fault Rows :=
  match c.db.table? name with
  | some t =>
    if c.foreignKeys && !(c.db.referencesTo t.name).isEmpty then
      let (c', r) := c.change #[] fun s => do
        for row in t.rows do
          deleteRow triggerFuel s Frame.top t.name row true
      match r with
      | .ok _ => c'.reshape (dropObject c'.db .table ifExists name)
      | .error f => (c', .error f)
    else c.reshape (dropObject c.db .table ifExists name)
  | none => c.reshape (dropObject c.db .table ifExists name)

/-- Runs one statement with parameters: the connection after it, and the rows it answers
or why it failed. -/
def execute (c : Connection) (params : Array Value) (st : Stmt) : Connection × Except Fault Rows :=
  let ck : Checking := ⟨c.db, c.foreignKeys, false⟩
  match st with
  | .select q =>
    match checkStatement ck st with
    | .error e => (c, .error e)
    | .ok () => (c, query evalFuel ⟨c.db, params, clock⟩ Scope.empty q)
  | .insert _ _ _ _ _ | .update _ _ _ _ | .delete _ _ =>
    match checkStatement ck st with
    | .error e => (c, .error e)
    | .ok () => c.change params fun s => runStmt triggerFuel s Frame.top st
  | .createTable ine n cols cons => c.reshape (createTable c.db ine n cols cons)
  | .createTableAs ine n q =>
    match alreadyExists c.db (bareName n) with
    | some msg => if ine then (c, .ok noRows) else (c, .error (Fault.logic msg))
    | none =>
      match checkStatement ck (.select q) with
      | .error e => (c, .error e)
      | .ok () =>
        match query evalFuel ⟨c.db, params, clock⟩ Scope.empty q with
        | .error e => (c, .error e)
        | .ok res =>
          let cols : Array Column := res.columns.toArray.map fun ci =>
            let ty := match ci.affinity with
              | some .integer => "INT"
              | some .text => "TEXT"
              | some .real => "REAL"
              | some .numeric => "NUM"
              | _ => ""
            ⟨ci.name, ty, Affinity.ofType ty, false, none, .binary⟩
          let rows := (res.rows.zip (List.range res.rows.length)).map fun (r, i) =>
            (⟨i + 1, r⟩ : Row)
          let t : Table := ⟨bareName n, cols, none, [], [], rows⟩
          ({ c with db := { c.db with tables := c.db.tables ++ [t] } }, .ok noRows)
  | .createIndex u ine n t cols => c.reshape (createIndex c.db u ine n t cols)
  | .createTrigger ine n time ev t cond body => c.reshape (createTrigger c.db ine n time ev t cond body)
  | .createView ine n q => c.reshape (createView c.db ine n q)
  | .drop .table ie n => c.dropTable ie n
  | .drop kind ie n => c.reshape (dropObject c.db kind ie n)
  | .renameTable t n => c.reshape (renameTable c.db t n)
  | .renameColumn t o n => c.reshape (renameColumn c.db t o n)
  | .addColumn t col => c.reshape (addColumn c.db c.foreignKeys t col)
  | .dropColumn t col => c.reshape (dropColumn c.db t col)
  | .transaction w =>
    if w = "BEGIN" then
      if c.began.isSome then (c, .error (Fault.logic "cannot start a transaction within a transaction"))
      else ({ c with began := some c.db }, .ok noRows)
    else if w = "COMMIT" then
      if c.began.isNone then (c, .error (Fault.logic "cannot commit - no transaction is active"))
      else ({ c with began := none }, .ok noRows)
    else if w = "ROLLBACK" then
      match c.began with
      | some db => ({ c with db := db, began := none }, .ok noRows)
      | none => (c, .error (Fault.logic "cannot rollback - no transaction is active"))
    else if w = "SAVEPOINT" then
      if c.began.isSome then (c, .ok noRows) else ({ c with began := some c.db }, .ok noRows)
    else ({ c with began := none }, .ok noRows)
  | .pragma name value =>
    if (bareName name).toLower = "foreign_keys" then
      match value with
      | some v =>
        if c.began.isSome then (c, .ok noRows)
        else ({ c with foreignKeys := switchedOn v }, .ok noRows)
      | none =>
        (c, .ok ⟨[⟨"foreign_keys", none, none⟩], [#[.integer (if c.foreignKeys then 1 else 0)]]⟩)
    else (c, .ok noRows)
  | .other _ => (c, .ok noRows)

/-- Runs the statements of a text in order, stopping at the first that cannot be read or
fails; the connection after them and that failure, if any. -/
def runScript (c : Connection) (text : String) : Connection × Option Fault :=
  let rec go : List (Except ParseError (Stmt × Nat)) → Connection → Connection × Option Fault
    | [], c => (c, none)
    | .error e :: _, c => (c, some (Fault.logic e.text))
    | .ok (st, _) :: rest, c =>
      match c.execute #[] st with
      | (c', .error f) => (c', some f)
      | (c', .ok _) => go rest c'
  go (parseScript text) c

/-- Runs one statement of a text with parameters. -/
def run (c : Connection) (text : String) (params : Array Value) : Connection × Except Fault Rows :=
  match parseStatement text with
  | .error e => (c, .error (Fault.logic e.text))
  | .ok (st, _) => c.execute params st

end Connection

theorem Connection.connect_outside (db : Database) (fk : Bool) :
    (Connection.connect db fk).began = none := rfl

end Sql

end MailStore
