import MailStore.Sql.Eval

/-!
# Changing rows

Insertions, updates and deletions, row by row, with the checks and the side effects the
database attaches to each row:

* an insertion converts the values by the columns' affinities and fills defaults, runs the
  `BEFORE INSERT` triggers, checks `NOT NULL` in column order, the check constraints, and
  the unique indexes (the target of an upsert first, then newest first), checks foreign
  keys, stores the row and runs the `AFTER INSERT` triggers;
* an update does the same with the update triggers, checking only what the changed
  columns touch, and carries a change of a parent key to the rows that refer to it;
* a deletion runs the `BEFORE DELETE` triggers, counts the references to the row, removes
  it, carries the removal to the rows that refer to it (deleting them too for `ON DELETE
  CASCADE`, with their own triggers), and runs the `AFTER DELETE` triggers.

A broken constraint is settled by the statement's conflict resolution: the statement
fails (`ABORT`, `FAIL`, `ROLLBACK`), the row is skipped (`IGNORE`), or the rows in the way
are removed (`REPLACE`). An upsert turns a clash on its target into an update of the row
there.

Triggers fire newest first, and a trigger does not fire again while it runs. A trigger
stops everything with `RAISE(ABORT|FAIL|ROLLBACK, …)`, or skips the row at hand with
`RAISE(IGNORE)`.

Foreign keys are enforced only when the connection turns them on. A row referring to a
missing parent adds one to a count of dangling references, and deleting such a row takes
one away; the statement fails at its end when the count is above zero. Deleting a parent
row adds one for each row still referring to it.
-/

namespace MailStore

namespace Sql

/-- The state of a running statement: the database and the count of dangling
references. -/
structure Run where
  /-- The database. -/
  db : Database
  /-- Dangling foreign key references made by the statement. -/
  pending : Int
deriving Inhabited

/-- A running statement. -/
abbrev RunM := ExceptT Fault (StateM Run)

/-- How statements run on a connection: whether foreign keys are enforced, the
parameters, and the current time. -/
structure Setting where
  /-- Whether foreign keys are enforced. -/
  foreignKeys : Bool
  /-- The parameters. -/
  params : Array Value
  /-- The current time as text. -/
  now : String
deriving Inhabited

/-- Where a statement runs: the triggers running around it, the `NEW` and `OLD` rows it
sees, whether it is part of a trigger, and the conflict resolution that overrides its
own. -/
structure Frame where
  /-- The triggers running, innermost first. -/
  active : List String
  /-- The rows `NEW` and `OLD`. -/
  pseudo : List Slot
  /-- Whether the statement is part of a trigger. -/
  inTrigger : Bool
  /-- The conflict resolution of the statement that fired the trigger, when it gave one. -/
  conflict : Option Conflict
deriving Inhabited

/-- The frame of a statement of its own. -/
def Frame.top : Frame := ⟨[], [], false, none⟩

/-- The context expressions are evaluated in. -/
def Setting.context (s : Setting) (db : Database) : Context := ⟨db, s.params, s.now⟩

/-- The scope of a statement's expressions in a frame, with the sources given. -/
def Frame.scope (fr : Frame) (slots : List Slot) : Scope :=
  ⟨if slots.isEmpty then [] else [slots], fr.pseudo, [], none, fr.inTrigger⟩

/-- What becomes of a statement's changes when a constraint breaks under a resolution. -/
def Conflict.action : Conflict → RaiseKind
  | .fail => .fail
  | .rollback => .rollback
  | _ => .abort

/-! ### Reading the state -/

/-- The database now. -/
def currentDb : RunM Database := do return (← get).db

/-- The table with a name now. -/
def tableNamed (name : String) : RunM Table := do
  match (← currentDb).table? name with
  | some t => pure t
  | none => throw (Fault.logic ("no such table: " ++ name))

/-- Replaces a table. -/
def storeTable (t : Table) : RunM Unit :=
  modify fun s => { s with db := s.db.putTable t }

/-- Changes the count of dangling references. -/
def addPending (n : Int) : RunM Unit := modify fun s => { s with pending := s.pending + n }

/-- Runs an evaluation. -/
def liftEval {α : Type} (x : Except Fault α) : RunM α :=
  match x with
  | .ok a => pure a
  | .error e => throw e

/-! ### Values of rows -/

/-- A row's values converted by the affinities of the table's columns. -/
def withAffinities (t : Table) (vals : Array Value) : Array Value :=
  (List.range t.columns.size).toArray.map fun i =>
    (vals.getD i .null).withAffinity (t.columns.getD i default).affinity

/-- The value of a column's default, converted by its affinity. -/
def defaultValue (s : Setting) (db : Database) (c : Column) : Except Fault Value :=
  match c.default with
  | some e => do
    let v ← eval evalFuel (s.context db) Scope.empty e
    pure (v.withAffinity c.affinity)
  | none => pure .null

/-- The values of columns of a row with their collations; none when one is null. -/
def keyValues (t : Table) (cols : List String) (vals : Array Value) :
    Option (List (Value × Collation)) :=
  cols.mapM fun c =>
    match t.columnIndex? c with
    | some i =>
      let v := vals.getD i .null
      if v.isNull then none else some (v, (t.columns.getD i default).collation)
    | none => none

/-- Whether a row has a key. -/
def rowHasKey (t : Table) (cols : List String) (key : List (Value × Collation)) (r : Row) : Bool :=
  match keyValues t cols r.values with
  | some k => (k.zip key).all fun ((a, _), (b, coll)) => Value.order coll a b == .eq
  | none => false

/-- The first row other than one that repeats a key of an index. -/
def clashing (t : Table) (idx : Index) (vals : Array Value) (self : Option Int) : Option Row :=
  match keyValues t idx.columns vals with
  | some key => t.rows.find? fun r => some r.rowid ≠ self && rowHasKey t idx.columns key r
  | none => none

/-- The columns of a parent table a foreign key refers to: those it names, or the
parent's primary key. -/
def parentColumns (db : Database) (parent : Table) (fk : ForeignKey) : List String :=
  if fk.parentColumns.isEmpty then db.primaryKeyOf parent else fk.parentColumns

/-- The values of the referring columns of a row, when none is null. -/
def childKey (child : Table) (fk : ForeignKey) (vals : Array Value) : Option (List Value) :=
  fk.columns.mapM fun c =>
    match child.columnIndex? c with
    | some i => let v := vals.getD i .null; if v.isNull then none else some v
    | none => none

/-- Whether a parent row has a key, compared by the parent columns' affinities and
collations. -/
def parentMatches (parent : Table) (cols : List String) (key : List Value) (r : Row) : Bool :=
  (cols.zip key).all fun (c, v) =>
    match parent.columnIndex? c with
    | some i =>
      let col := parent.columns.getD i default
      let pv := if parent.rowidAlias = some i then Value.integer r.rowid else r.get i
      Value.order col.collation pv (v.withAffinity col.affinity) == .eq
    | none => isRowidName c && Value.order .binary (.integer r.rowid) v == .eq

/-- Whether a parent row exists for a key. -/
def parentExists (db : Database) (fk : ForeignKey) (key : List Value) : Bool :=
  match db.table? fk.parent with
  | some p => p.rows.any (parentMatches p (parentColumns db p fk) key)
  | none => false

/-- The values of a parent row's key for a foreign key. -/
def parentKey (db : Database) (parent : Table) (fk : ForeignKey) (vals : Array Value) (rowid : Int) :
    Option (List Value) :=
  (parentColumns db parent fk).mapM fun c =>
    match parent.columnIndex? c with
    | some i =>
      let v := if parent.rowidAlias = some i then Value.integer rowid else vals.getD i .null
      if v.isNull then none else some v
    | none => if isRowidName c then some (.integer rowid) else none

/-- The rows of a child table that refer to a parent key, leaving out one row. -/
def referringRows (db : Database) (childName : String) (fk : ForeignKey) (parent : Table)
    (key : List Value) (skip : Option Int) : List Row :=
  match db.table? childName with
  | some child =>
    let pcols := parentColumns db parent fk
    child.rows.filter fun r =>
      some r.rowid ≠ skip &&
      match childKey child fk r.values with
      | some ck => ((ck.zip key).zip pcols).all fun ((c, k), pc) =>
        match parent.columnIndex? pc with
        | some i =>
          let col := parent.columns.getD i default
          Value.order col.collation (c.withAffinity col.affinity) k == .eq
        | none => Value.order .binary c k == .eq
      | none => false
  | none => []

/-- The triggers of a table that a change fires at a time, newest first, leaving out those
running. -/
def firing (db : Database) (table : String) (time : TriggerTime) (event : TriggerEvent)
    (active : List String) : List Trigger :=
  (db.triggersOf table).filter fun tr =>
    tr.time = time && !active.any (sameName tr.name) &&
    match tr.event, event with
    | .insert, .insert => true
    | .delete, .delete => true
    | .update watched, .update changed =>
      watched.isEmpty || watched.any fun w => changed.any (sameName w)
    | _, _ => false

/-- The `NEW` and `OLD` rows of a trigger on a table. -/
def pseudoRows (t : Table) (old new : Option Row) : List Slot :=
  (match new with
    | some r => [Slot.ofTable "new" t (some r)]
    | none => []) ++
  (match old with
    | some r => [Slot.ofTable "old" t (some r)]
    | none => [])

/-- Whether a fault is a trigger's `RAISE(IGNORE)`. -/
def Fault.isIgnore (f : Fault) : Bool := f.action == .ignore

/-- The rows of a table that a condition picks, in reading order. -/
def pickedRows (s : Setting) (fr : Frame) (db : Database) (t : Table) (slotName : String)
    (filter : Option Expr) : Except Fault (List Row) := do
  let terms := match filter with
    | some w => conjuncts 64 w
    | none => []
  let rows := scanRows db t slotName terms
  match filter with
  | none => pure rows
  | some w => rows.filterM fun r => do
    let v ← eval evalFuel (s.context db) (fr.scope [Slot.ofTable slotName t (some r)]) w
    pure (v.truth == some true)

/-- The values an assignment gives its columns: the one value, or the values of a row. -/
def assigned (s : Setting) (db : Database) (sc : Scope) (cols : List String) (e : Expr) :
    Except Fault (List Value) :=
  if cols.length = 1 then do pure [← eval evalFuel (s.context db) sc e]
  else rowValues evalFuel (s.context db) sc e

/-- A row's values with assignments made; the indexes of the columns changed. -/
def applySets (t : Table) (vals : Array Value) (sets : List (List String × List Value)) :
    Array Value × List Nat :=
  sets.foldl (fun (acc, changed) (cols, vs) =>
    (cols.zip vs).foldl (fun (acc, changed) (c, v) =>
      match t.columnIndex? c with
      | some i => (acc.setIfInBounds i v, if changed.contains i then changed else changed ++ [i])
      | none => (acc, changed)) (acc, changed)) (vals, [])

/-! ### Row changes -/

mutual

/-- Runs a statement that reads or changes rows. -/
def runStmt : Nat → Setting → Frame → Stmt → RunM Unit
  | 0, _, _, _ => throw (Fault.logic "too many levels of trigger recursion")
  | f + 1, s, fr, st =>
    match st with
    | .select q => do
      let db ← currentDb
      discard (liftEval (query evalFuel (s.context db) (fr.scope []) q))
    | .insert conflict table cols source upserts => do
      let conflict := fr.conflict.getD conflict
      let t ← tableNamed table
      let db ← currentDb
      let rows ← match source with
        | .values rows => liftEval (rows.mapM fun r => r.mapM (eval evalFuel (s.context db) (fr.scope [])))
        | .query q => do
          let res ← liftEval (query evalFuel (s.context db) (fr.scope []) q)
          pure (res.rows.map Array.toList)
        | .defaults => pure [[]]
      let multi := rows.length > 1 || (match source with
        | .query _ => true
        | _ => false) || !(db.triggersOf t.name).isEmpty
      for r in rows do
        let t ← tableNamed table
        let db ← currentDb
        let positions := match cols with
          | some cs => cs.map fun c => t.columnIndex? c
          | none => (List.range t.columns.size).map some
        let given := positions.zip r
        let vals ← (List.range t.columns.size).mapM fun i =>
          match given.find? fun (p, _) => p = some i with
          | some (_, v) => pure v
          | none => liftEval (defaultValue s db (t.columns.getD i default))
        insertRow f s fr conflict table vals.toArray upserts multi
    | .update conflict table sets filter => do
      let conflict := fr.conflict.getD conflict
      let t ← tableNamed table
      let db ← currentDb
      let name := bareName table
      let picked ← liftEval (pickedRows s fr db t name filter)
      for old in picked do
        let t ← tableNamed table
        match t.row? old.rowid with
        | some cur => do
          let db ← currentDb
          let sc := fr.scope [Slot.ofTable name t (some cur)]
          let values ← liftEval (sets.mapM fun (cols, e) => do
            pure (cols, ← assigned s db sc cols e))
          let (vals, changed) := applySets t cur.values values
          updateRow f s fr conflict table cur vals changed
        | none => pure ()
    | .delete table filter => do
      let t ← tableNamed table
      let db ← currentDb
      let picked ← liftEval (pickedRows s fr db t (bareName table) filter)
      for old in picked do
        let t ← tableNamed table
        match t.row? old.rowid with
        | some cur => deleteRow f s fr table cur false
        | none => pure ()
    | _ => pure ()

/-- Inserts one row of values, before conversion, into a table. -/
def insertRow : Nat → Setting → Frame → Conflict → String → Array Value → List Upsert → Bool →
    RunM Unit
  | 0, _, _, _, _, _, _, _ => throw (Fault.logic "too many levels of trigger recursion")
  | f + 1, s, fr, conflict, table, given, upserts, multi => do
    let t ← tableNamed table
    let vals := withAffinities t given
    let rowid ← match t.rowidAlias with
      | some i => match vals.getD i .null with
        | .null => pure t.nextRowid
        | .integer n => pure n
        | _ => throw Fault.mismatch
      | none => pure t.nextRowid
    let vals := match t.rowidAlias with
      | some i => vals.setIfInBounds i (.integer rowid)
      | none => vals
    let row : Row := ⟨rowid, vals⟩
    if !(← fire f s fr t.name .before .insert none (some row)) then return
    let t ← tableNamed table
    let db ← currentDb
    let action := conflict.action
    -- required columns, in column order
    let mut vals := vals
    for i in List.range t.columns.size do
      let c := t.columns.getD i default
      if c.notNull && (vals.getD i .null).isNull then
        match conflict with
        | .ignore => return
        | .replace =>
          let d ← liftEval (defaultValue s db c)
          if d.isNull then throw (Fault.notNull t.name c.name .abort)
          vals := vals.setIfInBounds i d
        | _ => throw (Fault.notNull t.name c.name action)
    let row : Row := ⟨rowid, vals⟩
    -- check constraints
    for ch in t.checks do
      let v ← liftEval (eval evalFuel (s.context db) (fr.scope [Slot.ofTable t.name t (some row)])
        ch.condition)
      if v.truth = some false then
        if conflict = .ignore then return
        throw (Fault.check ((ch.name).getD ch.text) (if conflict = .replace then .abort else action))
    -- the row id, then the unique indexes, an upsert's target first
    if (t.row? rowid).isSome then
      match conflict with
      | .ignore => return
      | .replace =>
        match t.row? rowid with
        | some other => deleteRow f s fr table other true
        | none => pure ()
      | _ =>
        let col := match t.rowidAlias with
          | some i => (t.columns.getD i default).name
          | none => "rowid"
        throw (Fault.unique t.name [col] true action)
    let targets := db.uniqueIndexesOf t.name
    let covers := fun (u : Upsert) (idx : Index) =>
      u.target.isEmpty ||
        (u.target.length = idx.columns.length && u.target.all fun c => idx.columns.any (sameName c))
    let first := targets.filter fun idx => upserts.any fun u => !u.target.isEmpty && covers u idx
    let ordered := first ++ targets.filter fun idx => !first.any fun x => x.name == idx.name
    for idx in ordered do
      let t ← tableNamed table
      match clashing t idx row.values none with
      | some other =>
        match upserts.find? fun u => covers u idx with
        | some u =>
          match u.action with
          | .nothing => return
          | .update sets filter =>
            let db ← currentDb
            let excluded := Slot.ofTable "excluded" t (some row)
            let sc : Scope := ⟨[[Slot.ofTable t.name t (some other)]], excluded :: fr.pseudo, [], none,
              fr.inTrigger⟩
            let go ← match filter with
              | some w => do pure ((← liftEval (eval evalFuel (s.context db) sc w)).truth == some true)
              | none => pure true
            if go then
              let values ← liftEval (sets.mapM fun (cols, e) => do
                pure (cols, ← assigned s db sc cols e))
              let (newVals, changed) := applySets t other.values values
              updateRow f s fr .abort table other newVals changed
            return
        | none =>
          match conflict with
          | .ignore => return
          | .replace => deleteRow f s fr table other true
          | _ => throw (Fault.unique t.name idx.columns (idx.origin = .primaryKey) action)
      | none => pure ()
    -- foreign keys
    let db ← currentDb
    let t ← tableNamed table
    if s.foreignKeys then
      for fk in t.foreignKeys.reverse do
        match childKey t fk row.values with
        | some key =>
          if !parentExists db fk key then
            let selfRef := sameName fk.parent t.name &&
              parentMatches t (parentColumns db t fk) key row
            if !selfRef then addPending 1
        | none => pure ()
      if multi || fr.inTrigger then
        for (childName, fk) in db.referencesTo t.name do
          match parentKey db t fk row.values row.rowid with
          | some key => addPending (-(referringRows db childName fk t key none).length)
          | none => pure ()
    storeTable (t.putRow row)
    discard (fire f s fr t.name .after .insert none (some row))

/-- Updates a row of a table to values, before conversion, with the indexes of the columns
the statement sets. -/
def updateRow : Nat → Setting → Frame → Conflict → String → Row → Array Value → List Nat →
    RunM Unit
  | 0, _, _, _, _, _, _, _ => throw (Fault.logic "too many levels of trigger recursion")
  | f + 1, s, fr, conflict, table, old, given, changed => do
    let t ← tableNamed table
    let vals := withAffinities t given
    let rowid ← match t.rowidAlias with
      | some i =>
        if changed.contains i then
          match vals.getD i .null with
          | .integer n => pure n
          | _ => throw Fault.mismatch
        else pure old.rowid
      | none => pure old.rowid
    let changedNames := changed.map fun i => (t.columns.getD i default).name
    let row : Row := ⟨rowid, vals⟩
    if !(← fire f s fr t.name .before (.update changedNames) (some old) (some row)) then return
    let t ← tableNamed table
    let some cur := t.row? old.rowid | return
    -- columns not set take their values now
    let vals := (List.range t.columns.size).toArray.map fun i =>
      if changed.contains i then vals.getD i .null else cur.get i
    let db ← currentDb
    let action := conflict.action
    let mut vals := vals
    for i in changed do
      let c := t.columns.getD i default
      if c.notNull && (vals.getD i .null).isNull then
        match conflict with
        | .ignore => return
        | .replace =>
          let d ← liftEval (defaultValue s db c)
          if d.isNull then throw (Fault.notNull t.name c.name .abort)
          vals := vals.setIfInBounds i d
        | _ => throw (Fault.notNull t.name c.name action)
    let row : Row := ⟨rowid, vals⟩
    for ch in t.checks do
      let v ← liftEval (eval evalFuel (s.context db) (fr.scope [Slot.ofTable t.name t (some row)])
        ch.condition)
      if v.truth = some false then
        if conflict = .ignore then return
        throw (Fault.check ((ch.name).getD ch.text) (if conflict = .replace then .abort else action))
    if rowid ≠ old.rowid ∧ (t.row? rowid).isSome then
      match conflict with
      | .ignore => return
      | .replace =>
        match t.row? rowid with
        | some other => deleteRow f s fr table other true
        | none => pure ()
      | _ =>
        let col := match t.rowidAlias with
          | some i => (t.columns.getD i default).name
          | none => "rowid"
        throw (Fault.unique t.name [col] true action)
    for idx in db.uniqueIndexesOf t.name do
      if idx.columns.any fun c => changedNames.any (sameName c) then
        let t ← tableNamed table
        match clashing t idx row.values (some old.rowid) with
        | some other =>
          match conflict with
          | .ignore => return
          | .replace => deleteRow f s fr table other true
          | _ => throw (Fault.unique t.name idx.columns (idx.origin = .primaryKey) action)
        | none => pure ()
    let db ← currentDb
    let t ← tableNamed table
    let keyChanged := fun (cols : List String) => cols.any fun c => changedNames.any (sameName c)
    if s.foreignKeys then
      for fk in t.foreignKeys.reverse do
        if keyChanged fk.columns || sameName fk.parent t.name then
          match childKey t fk cur.values with
          | some key => if !parentExists db fk key then addPending (-1)
          | none => pure ()
          match childKey t fk row.values with
          | some key =>
            if !parentExists db fk key then
              let selfRef := sameName fk.parent t.name &&
                parentMatches t (parentColumns db t fk) key row
              if !selfRef then addPending 1
          | none => pure ()
      for (childName, fk) in db.referencesTo t.name do
        if keyChanged (parentColumns db t fk) then
          match parentKey db t fk cur.values cur.rowid with
          | some key =>
            addPending (referringRows db childName fk t key
              (if sameName childName t.name then some cur.rowid else none)).length
          | none => pure ()
          match parentKey db t fk row.values row.rowid with
          | some key => addPending (-(referringRows db childName fk t key none).length)
          | none => pure ()
    let t := if rowid ≠ old.rowid then t.dropRow old.rowid else t
    storeTable (t.putRow row)
    if s.foreignKeys then
      let db ← currentDb
      for (childName, fk) in db.referencesTo t.name do
        if keyChanged (parentColumns db t fk) then
          parentChanged f s fr childName fk t cur (some row)
    discard (fire f s fr t.name .after (.update changedNames) (some old) (some row))

/-- Deletes a row of a table; `quiet` for a row removed to make way for another, which
fires no triggers. -/
def deleteRow : Nat → Setting → Frame → String → Row → Bool → RunM Unit
  | 0, _, _, _, _, _ => throw (Fault.logic "too many levels of trigger recursion")
  | f + 1, s, fr, table, old, quiet => do
    let t ← tableNamed table
    if !quiet then
      if !(← fire f s fr t.name .before .delete (some old) none) then return
    let t ← tableNamed table
    let some cur := t.row? old.rowid | return
    let db ← currentDb
    if s.foreignKeys then
      for fk in t.foreignKeys.reverse do
        match childKey t fk cur.values with
        | some key => if !parentExists db fk key then addPending (-1)
        | none => pure ()
      for (childName, fk) in db.referencesTo t.name do
        match parentKey db t fk cur.values cur.rowid with
        | some key =>
          addPending (referringRows db childName fk t key
            (if sameName childName t.name then some cur.rowid else none)).length
        | none => pure ()
    storeTable (t.dropRow cur.rowid)
    if s.foreignKeys then
      let db ← currentDb
      for (childName, fk) in db.referencesTo t.name do
        parentChanged f s fr childName fk t cur none
    if !quiet then
      discard (fire f s fr t.name .after .delete (some old) none)

/-- Carries the deletion of a parent row, or the change of its key, to the rows of a child
table that refer to it, as the foreign key's action says. -/
def parentChanged : Nat → Setting → Frame → String → ForeignKey → Table → Row → Option Row →
    RunM Unit
  | 0, _, _, _, _, _, _, _ => throw (Fault.logic "too many levels of trigger recursion")
  | f + 1, s, fr, childName, fk, parent, old, new => do
    let db ← currentDb
    let action := match new with
      | some _ => fk.onUpdate
      | none => fk.onDelete
    let some key := parentKey db parent fk old.values old.rowid | return
    let children := referringRows db childName fk parent key none
    let inner := { fr with inTrigger := true, conflict := none }
    match action with
    | .noAction => pure ()
    | .restrict =>
      if !children.isEmpty then throw (Fault.raised .abort "FOREIGN KEY constraint failed")
    | .cascade =>
      match new with
      | none =>
        for r in children do
          let c ← tableNamed childName
          match c.row? r.rowid with
          | some cur => deleteRow f s inner childName cur false
          | none => pure ()
      | some nr =>
        let newKey := (parentKey db parent fk nr.values nr.rowid).getD []
        for r in children do
          let c ← tableNamed childName
          match c.row? r.rowid with
          | some cur =>
            let (vals, changed) := applySets c cur.values [(fk.columns, newKey)]
            updateRow f s inner .abort childName cur vals changed
          | none => pure ()
    | .setNull =>
      for r in children do
        let c ← tableNamed childName
        match c.row? r.rowid with
        | some cur =>
          let (vals, changed) := applySets c cur.values [(fk.columns, fk.columns.map fun _ => .null)]
          updateRow f s inner .abort childName cur vals changed
        | none => pure ()
    | .setDefault =>
      for r in children do
        let c ← tableNamed childName
        let db ← currentDb
        match c.row? r.rowid with
        | some cur =>
          let defaults ← fk.columns.mapM fun col =>
            match c.columnIndex? col with
            | some i => liftEval (defaultValue s db (c.columns.getD i default))
            | none => pure .null
          let (vals, changed) := applySets c cur.values [(fk.columns, defaults)]
          updateRow f s inner .abort childName cur vals changed
        | none => pure ()

/-- Fires the triggers of a change of a row; false when one of them skipped the row. -/
def fire : Nat → Setting → Frame → String → TriggerTime → TriggerEvent → Option Row →
    Option Row → RunM Bool
  | 0, _, _, _, _, _, _, _ => throw (Fault.logic "too many levels of trigger recursion")
  | f + 1, s, fr, table, time, event, old, new => do
    let db ← currentDb
    let t ← tableNamed table
    let pseudo := pseudoRows t old new
    let mut proceed := true
    for tr in firing db table time event fr.active do
      if proceed then
        let inner : Frame := ⟨tr.name :: fr.active, pseudo, true, fr.conflict⟩
        let db ← currentDb
        let holds ← match tr.condition with
          | some c => do
            let v ← liftEval (eval evalFuel (s.context db) (inner.scope []) c)
            pure (v.truth == some true)
          | none => pure true
        if holds then
          let ran ← tryCatch (do
              for st in tr.body do
                runStmt f s inner st
              pure true) fun e => if e.isIgnore then pure false else throw e
          if !ran then proceed := false
    pure proceed

end

/-- The depth of triggers allowed. -/
def triggerFuel : Nat := 1000

theorem Frame.top_scope : Frame.top.scope [] = Scope.empty := rfl

end Sql

end MailStore
