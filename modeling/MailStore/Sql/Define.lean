import MailStore.Sql.Check

/-!
# Schema statements

Creating and dropping tables, indexes, triggers and views, and altering tables. Each
statement either changes the schema or fails without changing anything, with the
database's own message.

A table gets a unique index for its primary key (unless the key is a single column
declared `INTEGER`, which is then the row id) and for each `UNIQUE` constraint, named
`sqlite_autoindex_<table>_<n>`. Renaming a table carries its indexes, its triggers and the
foreign keys that refer to it along; renaming a column carries the indexes, foreign keys
and trigger column lists that name it. A column added to a table gives the rows already
there its default.
-/

namespace MailStore

namespace Sql

/-- Whether a name is reserved for the database's own objects. -/
def isInternalName (n : String) : Bool := (n.take 7).toString.toLower == "sqlite_"

/-- The collation a column declares. -/
def collationNamed : Option String → Except Fault Collation
  | none => .ok .binary
  | some n =>
    match Collation.ofName? n with
    | some c => .ok c
    | none => .error (Fault.logic ("no such collation sequence: " ++ n))

/-- Whether an expression has a value without reading any row: no column, parameter or
query in it, looking at most `fuel` levels deep. -/
def isConstantExpr : Nat → Expr → Bool
  | 0, _ => false
  | f + 1, e =>
    match e with
    | .column _ _ _ | .param _ | .exists _ | .scalar _ | .inQuery _ _ _ | .raise _ _ => false
    | _ => e.children.all (isConstantExpr f)

/-- A default that is null or none at all. -/
def isNullDefault : Option Expr → Bool
  | none => true
  | some (.literal .null) => true
  | _ => false

/-- The failure of a name already taken by a table or a view. -/
def alreadyExists (db : Database) (n : String) : Option String :=
  match db.table? n, db.view? n with
  | some _, _ => some ("table " ++ n ++ " already exists")
  | none, some _ => some ("view " ++ n ++ " already exists")
  | none, none => none

/-- A column of a table from its declaration. -/
def columnOf (spec : ColumnSpec) : Except Fault Column := do
  let coll ← collationNamed spec.collation
  pure ⟨spec.name, spec.type, Affinity.ofType spec.type, spec.notNull, spec.default, coll⟩

/-- The foreign key a column's `REFERENCES` clause declares. -/
def columnReference (spec : ColumnSpec) (r : Reference) : Except Fault ForeignKey :=
  if r.columns.length > 1 then
    .error (Fault.logic ("foreign key on " ++ spec.name ++
      " should reference only one column of table " ++ r.table))
  else .ok ⟨[spec.name], r.table, r.columns, r.onDelete, r.onUpdate⟩

/-- What a table's declaration adds up to while it is read: its columns, the columns of
its primary key, its unique keys in order, its checks and its foreign keys. -/
structure TableDraft where
  /-- The columns. -/
  columns : Array Column
  /-- The primary key, once declared. -/
  primaryKey : Option (List String)
  /-- The keys needing a unique index, in order, each marked when it is the primary key. -/
  keys : List (List String × Bool)
  /-- The check constraints. -/
  checks : List Check
  /-- The foreign keys. -/
  foreignKeys : List ForeignKey

/-- Declares the primary key of a draft. -/
def TableDraft.withPrimaryKey (d : TableDraft) (name : String) (cols : List String) :
    Except Fault TableDraft :=
  if d.primaryKey.isSome then
    .error (Fault.logic ("table \"" ++ name ++ "\" has more than one primary key"))
  else .ok { d with primaryKey := some cols, keys := d.keys ++ [(cols, true)] }

/-- Whether a primary key makes a column the row id: a single column declared `INTEGER`. -/
def rowidColumn (cols : Array Column) (pk : Option (List String)) : Option Nat :=
  match pk with
  | some [c] =>
    match cols.toList.findIdx? fun col => sameName col.name c with
    | some i => if (cols.getD i default).type.toUpper == "INTEGER" then some i else none
    | none => none
  | _ => none

/-- The indexes a table's keys need, oldest first, skipping a key already indexed. -/
def keyIndexes (table : String) (keys : List (List String × Bool)) (rowid : Option String) :
    List Index :=
  keys.foldl (fun acc (cols, primary) =>
    let isRowid := primary && match rowid, cols with
      | some r, [c] => sameName r c
      | _, _ => false
    if isRowid then acc
    else if acc.any fun i => i.columns.length = cols.length &&
        (i.columns.zip cols).all fun (a, b) => sameName a b then acc
    else acc ++ [⟨"sqlite_autoindex_" ++ table ++ "_" ++ toString (acc.length + 1), table, cols, true,
      if primary then .primaryKey else .uniqueConstraint⟩]) []

/-- Creates a table. -/
def createTable (db : Database) (ifNotExists : Bool) (name : String) (specs : List ColumnSpec)
    (cons : List TableConstraint) : Except Fault Database := do
  let n := bareName name
  if isInternalName n then throw (Fault.logic ("object name reserved for internal use: " ++ n))
  match alreadyExists db n with
  | some msg => if ifNotExists then return db else throw (Fault.logic msg)
  | none => pure ()
  if (db.index? n).isSome then throw (Fault.logic ("there is already an index named " ++ n))
  let mut d : TableDraft := ⟨#[], none, [], [], []⟩
  for spec in specs do
    if d.columns.any fun c => sameName c.name spec.name then
      throw (Fault.logic ("duplicate column name: " ++ spec.name))
    match spec.default with
    | some e =>
      if !isConstantExpr 64 e then
        throw (Fault.logic ("default value of column [" ++ spec.name ++ "] is not constant"))
    | none => pure ()
    let col ← columnOf spec
    d := { d with columns := d.columns.push col }
    if spec.primaryKey then d ← d.withPrimaryKey n [spec.name]
    if spec.unique then d := { d with keys := d.keys ++ [([spec.name], false)] }
    d := { d with checks := d.checks ++ spec.checks }
    match spec.reference with
    | some r => d := { d with foreignKeys := d.foreignKeys ++ [← columnReference spec r] }
    | none => pure ()
  for c in cons do
    match c with
    | .primaryKey cols =>
      for col in cols do
        if !(d.columns.any fun x => sameName x.name col) then
          throw (Fault.logic ("no such column: " ++ col))
      d ← d.withPrimaryKey n cols
    | .unique cols =>
      for col in cols do
        if !(d.columns.any fun x => sameName x.name col) then
          throw (Fault.logic ("no such column: " ++ col))
      d := { d with keys := d.keys ++ [(cols, false)] }
    | .check ch => d := { d with checks := d.checks ++ [ch] }
    | .foreignKey cols r =>
      if !r.columns.isEmpty ∧ r.columns.length ≠ cols.length then
        throw (Fault.logic
          "number of columns in foreign key does not match the number of columns in the referenced table")
      for col in cols do
        if !(d.columns.any fun x => sameName x.name col) then
          throw (Fault.logic ("unknown column \"" ++ col ++ "\" in foreign key definition"))
      d := { d with foreignKeys := d.foreignKeys ++ [⟨cols, r.table, r.columns, r.onDelete, r.onUpdate⟩] }
  let rowid := rowidColumn d.columns d.primaryKey
  let rowidName := rowid.map fun i => (d.columns.getD i default).name
  let t : Table := ⟨n, d.columns, rowid, d.checks, d.foreignKeys, []⟩
  let idxs := keyIndexes n d.keys rowidName
  pure { db with tables := db.tables ++ [t], indexes := idxs.reverse ++ db.indexes }

/-- Creates an index on columns of a table, refusing it when it is unique and two rows
already share a key. -/
def createIndex (db : Database) (unique ifNotExists : Bool) (name table : String)
    (cols : List String) : Except Fault Database := do
  let t ← match db.table? table with
    | some t => pure t
    | none =>
      if (db.view? table).isSome then throw (Fault.logic "views may not be indexed")
      else throw (Fault.logic ("no such table: main." ++ bareName table))
  if isInternalName t.name then throw (Fault.logic ("table " ++ t.name ++ " may not be indexed"))
  let n := bareName name
  if isInternalName n then throw (Fault.logic ("object name reserved for internal use: " ++ n))
  if (db.table? n).isSome ∨ (db.view? n).isSome then
    throw (Fault.logic ("there is already a table named " ++ n))
  if (db.index? n).isSome then
    if ifNotExists then return db
    throw (Fault.logic ("index " ++ n ++ " already exists"))
  for c in cols do
    if !t.hasColumn c then throw (Fault.logic ("no such column: " ++ c))
  let idx : Index := ⟨n, t.name, cols, unique, .created⟩
  if unique then
    for r in t.rows do
      if (clashing t idx r.values (some r.rowid)).isSome then
        throw (Fault.unique t.name cols false .abort)
  pure { db with indexes := idx :: db.indexes }

/-- Creates a trigger. -/
def createTrigger (db : Database) (ifNotExists : Bool) (name : String) (time : TriggerTime)
    (event : TriggerEvent) (table : String) (condition : Option Expr) (body : List Stmt) :
    Except Fault Database := do
  let onView := (db.table? table).isNone ∧ (db.view? table).isSome
  if (db.table? table).isNone ∧ !onView then
    throw (Fault.logic ("no such table: main." ++ bareName table))
  let n := bareName name
  if isInternalName n then throw (Fault.logic ("object name reserved for internal use: " ++ n))
  if (db.trigger? n).isSome then
    if ifNotExists then return db
    throw (Fault.logic ("trigger " ++ n ++ " already exists"))
  let target := match db.table? table with
    | some t => t.name
    | none => (db.view? table).elim (bareName table) View.name
  if isInternalName target then throw (Fault.logic "cannot create trigger on system table")
  if onView ∧ time ≠ .insteadOf then
    throw (Fault.logic ("cannot create " ++ (if time = .before then "BEFORE" else "AFTER") ++
      " trigger on view: " ++ bareName table))
  if !onView ∧ time = .insteadOf then
    throw (Fault.logic ("cannot create INSTEAD OF trigger on table: " ++ bareName table))
  pure { db with triggers := ⟨n, target, time, event, condition, body⟩ :: db.triggers }

/-- Creates a view. -/
def createView (db : Database) (ifNotExists : Bool) (name : String) (q : Select) :
    Except Fault Database := do
  let n := bareName name
  if isInternalName n then throw (Fault.logic ("object name reserved for internal use: " ++ n))
  match alreadyExists db n with
  | some msg => if ifNotExists then return db else throw (Fault.logic msg)
  | none => pure ()
  if (db.index? n).isSome then throw (Fault.logic ("there is already an index named " ++ n))
  pure { db with views := db.views ++ [⟨n, q⟩] }

/-- The database without a table, its indexes and its triggers. -/
def Database.withoutTable (db : Database) (n : String) : Database :=
  { db with
    tables := db.tables.filter fun t => !sameName t.name n
    indexes := db.indexes.filter fun i => !sameName i.table n
    triggers := db.triggers.filter fun t => !sameName t.table n }

/-- Drops a table, index, trigger or view. -/
def dropObject (db : Database) (kind : SchemaKind) (ifExists : Bool) (name : String) :
    Except Fault Database := do
  match kind with
  | .table =>
    match db.table? name, db.view? name with
    | some t, _ =>
      if isInternalName t.name then throw (Fault.logic ("table " ++ t.name ++ " may not be dropped"))
      pure (db.withoutTable t.name)
    | none, some v => throw (Fault.logic ("use DROP VIEW to delete view " ++ v.name))
    | none, none => if ifExists then pure db else throw (Fault.logic ("no such table: " ++ name))
  | .view =>
    match db.view? name, db.table? name with
    | some v, _ =>
      pure { db with
        views := db.views.filter fun x => !sameName x.name v.name
        triggers := db.triggers.filter fun t => !sameName t.table v.name }
    | none, some t => throw (Fault.logic ("use DROP TABLE to delete table " ++ t.name))
    | none, none => if ifExists then pure db else throw (Fault.logic ("no such view: " ++ name))
  | .index =>
    match db.index? name with
    | some i =>
      if i.origin ≠ .created then
        throw (Fault.logic "index associated with UNIQUE or PRIMARY KEY constraint cannot be dropped")
      pure { db with indexes := db.indexes.filter fun x => !sameName x.name i.name }
    | none => if ifExists then pure db else throw (Fault.logic ("no such index: " ++ name))
  | .trigger =>
    match db.trigger? name with
    | some tr => pure { db with triggers := db.triggers.filter fun x => !sameName x.name tr.name }
    | none => if ifExists then pure db else throw (Fault.logic ("no such trigger: " ++ name))

/-- The table a statement alters, refusing views and the database's own tables. -/
def alterable (db : Database) (name : String) (onView : String → String) : Except Fault Table :=
  match db.table? name with
  | some t =>
    if isInternalName t.name then .error (Fault.logic ("table " ++ t.name ++ " may not be altered"))
    else .ok t
  | none =>
    match db.view? name with
    | some v => .error (Fault.logic (onView v.name))
    | none => .error (Fault.logic ("no such table: " ++ name))

/-- The name of an index after its table is renamed. -/
def renamedIndex (old new : String) (i : Index) : Index :=
  if sameName i.table old then
    let name := if i.origin = .created then i.name
      else "sqlite_autoindex_" ++ new ++ (i.name.drop ("sqlite_autoindex_".length + old.length)).toString
    { i with name := name, table := new }
  else i

/-- Renames a table. -/
def renameTable (db : Database) (table new : String) : Except Fault Database := do
  let t ← match db.table? table with
    | some t => pure t
    | none =>
      match db.view? table with
      | some v => pure (⟨v.name, #[], none, [], [], []⟩ : Table)
      | none => throw (Fault.logic ("no such table: " ++ table))
  let n := bareName new
  if (db.table? n).isSome ∨ (db.view? n).isSome ∨ (db.index? n).isSome then
    throw (Fault.logic ("there is already another table or index with this name: " ++ n))
  if isInternalName t.name then throw (Fault.logic ("table " ++ t.name ++ " may not be altered"))
  if isInternalName n then throw (Fault.logic ("object name reserved for internal use: " ++ n))
  if (db.table? table).isNone then throw (Fault.logic ("view " ++ t.name ++ " may not be altered"))
  let old := t.name
  let fixKey := fun (k : ForeignKey) => if sameName k.parent old then { k with parent := n } else k
  pure { db with
    tables := db.tables.map fun x =>
      let x := if sameName x.name old then { x with name := n } else x
      { x with foreignKeys := x.foreignKeys.map fixKey }
    indexes := db.indexes.map (renamedIndex old n)
    triggers := db.triggers.map fun tr => if sameName tr.table old then { tr with table := n } else tr }

/-- A name replaced by another where it matches. -/
def renameIn (old new : String) (names : List String) : List String :=
  names.map fun c => if sameName c old then new else c

/-- Renames a column of a table. -/
def renameColumn (db : Database) (table old new : String) : Except Fault Database := do
  let t ← alterable db table fun v => "cannot rename columns of view \"" ++ v ++ "\""
  let some i := t.columnIndex? old | throw (Fault.logic ("no such column: \"" ++ old ++ "\""))
  if (t.columns.toList.zip (List.range t.columns.size)).any fun (c, j) => j ≠ i ∧ sameName c.name new then
    throw (Fault.logic ("error in table " ++ t.name ++ " after rename: duplicate column name: " ++ new))
  let cols := t.columns.modify i fun c => { c with name := new }
  let fixOwn := fun (k : ForeignKey) => { k with columns := renameIn old new k.columns }
  let fixParent := fun (k : ForeignKey) =>
    if sameName k.parent t.name then { k with parentColumns := renameIn old new k.parentColumns } else k
  pure { db with
    tables := db.tables.map fun x =>
      let x := if sameName x.name t.name then
        { x with columns := cols, foreignKeys := x.foreignKeys.map fixOwn } else x
      { x with foreignKeys := x.foreignKeys.map fixParent }
    indexes := db.indexes.map fun idx =>
      if sameName idx.table t.name then { idx with columns := renameIn old new idx.columns } else idx
    triggers := db.triggers.map fun tr =>
      if sameName tr.table t.name then
        match tr.event with
        | .update cs => { tr with event := .update (renameIn old new cs) }
        | _ => tr
      else tr }

/-- Adds a column to a table; the rows there take its default. -/
def addColumn (db : Database) (foreignKeys : Bool) (table : String) (spec : ColumnSpec) :
    Except Fault Database := do
  let t ← match db.table? table with
    | some t =>
      if isInternalName t.name then throw (Fault.logic ("table " ++ t.name ++ " may not be altered"))
      pure t
    | none =>
      if (db.view? table).isSome then throw (Fault.logic "Cannot add a column to a view")
      throw (Fault.logic ("no such table: " ++ table))
  if (t.columnIndex? spec.name).isSome then
    throw (Fault.logic ("duplicate column name: " ++ spec.name))
  if spec.primaryKey then throw (Fault.logic "Cannot add a PRIMARY KEY column")
  if spec.unique then throw (Fault.logic "Cannot add a UNIQUE column")
  let col ← columnOf spec
  let hasRows := !t.rows.isEmpty
  let nullDefault := isNullDefault spec.default
  if hasRows then
    if foreignKeys ∧ spec.reference.isSome ∧ !nullDefault then
      throw (Fault.logic "Cannot add a REFERENCES column with non-NULL default value")
    if spec.notNull ∧ nullDefault then
      throw (Fault.logic "Cannot add a NOT NULL column with default value NULL")
    match spec.default with
    | some e =>
      let isNow := match e with
        | .now _ => true
        | _ => false
      if !isConstantExpr 64 e || isNow then
        throw (Fault.logic "Cannot add a column with non-constant default")
    | none => pure ()
  let fill ← match spec.default with
    | some e =>
      if hasRows then do
        let v ← eval evalFuel ⟨db, #[], ""⟩ Scope.empty e
        pure (v.withAffinity col.affinity)
      else pure .null
    | none => pure .null
  let keys := match spec.reference with
    | some r => [⟨[spec.name], r.table, r.columns, r.onDelete, r.onUpdate⟩]
    | none => []
  let t' : Table := { t with
    columns := t.columns.push col
    checks := t.checks ++ spec.checks
    foreignKeys := t.foreignKeys ++ keys
    rows := t.rows.map fun r => { r with values := r.values.push fill } }
  pure (db.putTable t')

/-- Drops a column of a table. -/
def dropColumn (db : Database) (table col : String) : Except Fault Database := do
  let t ← alterable db table fun v => "cannot drop column from view \"" ++ v ++ "\""
  let some i := t.columnIndex? col | throw (Fault.logic ("no such column: \"" ++ col ++ "\""))
  let name := (t.columns.getD i default).name
  let keys := (db.indexesOf t.name).filter fun idx => idx.origin ≠ .created
  if t.rowidAlias = some i ∨ keys.any (fun idx => idx.origin = .primaryKey ∧ idx.columns.any (sameName name)) then
    throw (Fault.logic ("cannot drop PRIMARY KEY column: \"" ++ name ++ "\""))
  if keys.any fun idx => idx.origin = .uniqueConstraint ∧ idx.columns.length = 1 ∧
      idx.columns.any (sameName name) then
    throw (Fault.logic ("cannot drop UNIQUE column: \"" ++ name ++ "\""))
  if t.columns.size ≤ 1 then
    throw (Fault.logic ("cannot drop column \"" ++ name ++ "\": no other columns exist"))
  for idx in (db.indexesOf t.name).reverse do
    if idx.columns.any (sameName name) then
      throw (Fault.logic ("error in index " ++ idx.name ++ " after drop column: no such column: " ++ name))
  if t.foreignKeys.any fun k => k.columns.any (sameName name) then
    throw (Fault.logic ("error in table " ++ t.name ++ " after drop column: unknown column \"" ++
      name ++ "\" in foreign key definition"))
  let keep := fun {α : Type} (xs : Array α) =>
    ((xs.toList.zip (List.range xs.size)).filter fun (_, j) => j ≠ i).map Prod.fst |>.toArray
  let rowid := t.rowidAlias.map fun r => if r > i then r - 1 else r
  let t' : Table := { t with
    columns := keep t.columns
    rowidAlias := rowid
    rows := t.rows.map fun r => { r with values := keep r.values } }
  pure (db.putTable t')

theorem isNullDefault_none : isNullDefault none = true := rfl

end Sql

end MailStore
