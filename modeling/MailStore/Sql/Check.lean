import MailStore.Sql.Write

/-!
# Checking a statement before it runs

A statement is checked against the schema before any row is read, so that a misspelt
table or column is reported even when no row would reach it. The check goes in a fixed
order, and the first problem found is the one reported.

For a query, every table named anywhere in it is looked up first, the rightmost part of a
compound query first and, in each part, the sources before the queries nested in its
expressions. Then the names in its expressions are resolved: the `LIMIT`, the queries in
`FROM`, the result columns, `HAVING`, `WHERE` (with the join conditions after it),
`ORDER BY` and `GROUP BY`.

An insertion, update or deletion is checked like the database compiles it: its table,
its columns, its values, the triggers it may fire (each trigger once), the foreign keys
it touches and the statements their actions run. Inside a trigger or a view, a missing
table is named with its schema (`no such table: main.props`).

Within one expression, a problem with a function call (an unknown name, a wrong number of
arguments, an aggregate where none is allowed) does not stop the check: a later problem
in the same expression replaces it. A name that resolves to nothing stops the check at
once.
-/

namespace MailStore

namespace Sql

/-- Where aggregate functions may stand. -/
inductive AggregateRule where
  /-- Allowed. -/
  | allowed
  /-- Not allowed here. -/
  | misuse
  /-- Not allowed in `GROUP BY`. -/
  | groupBy
deriving DecidableEq, Inhabited

/-- What a check reads: the database, whether foreign keys are enforced, and whether the
statement is part of a trigger or a view. -/
structure Checking where
  /-- The database. -/
  db : Database
  /-- Whether foreign keys are enforced. -/
  foreignKeys : Bool
  /-- Whether the statement belongs to a trigger or a view. -/
  inSchema : Bool
deriving Inhabited

/-- What a check keeps: the trigger programs already checked, and a problem found with a
function call in the expression at hand. -/
structure CheckState where
  /-- The triggers and foreign key actions already checked. -/
  visited : List String
  /-- A problem waiting for the end of the expression. -/
  pending : Option Fault
deriving Inhabited

/-- A check. -/
abbrev CheckM := StateT CheckState (Except Fault)

/-- Stops the check with a problem. -/
def refuse {α : Type} (msg : String) : CheckM α := throw (Fault.logic msg)

/-- Notes a problem and goes on. -/
def note (msg : String) : CheckM Unit :=
  modify fun s => { s with pending := some (Fault.logic msg) }

/-- Reports the problem noted in an expression, if any. -/
def settle : CheckM Unit := do
  match (← get).pending with
  | some f =>
    modify fun s => { s with pending := none }
    throw f
  | none => pure ()

/-- Marks a trigger program as checked; false when it was already. -/
def firstVisit (key : String) : CheckM Bool := do
  let s ← get
  if s.visited.contains key then return false
  set { s with visited := key :: s.visited }
  return true

/-- A number with its English ordinal suffix: `1st`, `2nd`, `3rd`, `4th`, `11th`. -/
def ordinal (n : Nat) : String :=
  let x := n % 10
  let suffix := if x ≥ 4 ∨ (n / 10) % 10 = 1 then "th"
    else match x with
      | 1 => "st"
      | 2 => "nd"
      | 3 => "rd"
      | _ => "th"
  toString n ++ suffix

/-- The failure for a missing table, named as the statement names it. -/
def missingTable (ck : Checking) (name : String) : String :=
  if ck.inSchema ∧ bareName name = name then "no such table: main." ++ name
  else "no such table: " ++ name

/-- The context of evaluation a check uses to learn the columns of queries. -/
def Checking.context (ck : Checking) : Context := ⟨ck.db, #[], ""⟩

/-- The columns a query gives, as far as they can be learnt. -/
def Checking.width (ck : Checking) (sc : Scope) (q : Select) : Nat :=
  match queryColumns evalFuel ck.context sc.inner q with
  | .ok cols => cols.length
  | .error _ => 1

/-- The number of values an operand stands for. -/
def Checking.operandWidth (ck : Checking) (sc : Scope) : Expr → Nat
  | .row items => items.length
  | .scalar q => ck.width sc q
  | _ => 1

/-- The message for a compound query whose parts give different numbers of columns. -/
def compoundMismatch : CompoundOp → String
  | .unionAll => "SELECTs to the left and right of UNION ALL do not have the same number of result columns"
  | .union => "SELECTs to the left and right of UNION do not have the same number of result columns"
  | .intersect => "SELECTs to the left and right of INTERSECT do not have the same number of result columns"
  | .except => "SELECTs to the left and right of EXCEPT do not have the same number of result columns"

/-- The aliases of result columns. -/
def aliasesOf (cols : List ResultColumn) : List (String × Expr) :=
  cols.filterMap fun c => match c with
    | .expr e (some a) _ => some (a, e)
    | _ => none

/-- Whether the result columns of a query call an aggregate. -/
def callsAggregate (cols : List ResultColumn) : Bool :=
  cols.any fun c => match c with
    | .expr e _ _ => hasAggregate 64 e
    | _ => false

/-- The join conditions of sources, `USING` columns as equalities, in order. -/
def joinConditions (sources : List Source) : List Expr :=
  sources.flatMap fun src => match src with
    | .table name asName _ on cols =>
      let n := asName.getD (bareName name)
      cols.map (fun c => Expr.binary .eq (.column none c false) (.column (some n) c false)) ++ on.toList
    | .query _ asName _ on cols =>
      let n := asName.getD ""
      cols.map (fun c => Expr.binary .eq (.column none c false) (.column (some n) c false)) ++ on.toList

/-- The expressions inside a query part, in the order the database walks them. -/
def coreExprs : SelectCore → List Expr
  | .values rows => rows.flatten
  | .select _ cols sources filter groupBy having =>
    cols.filterMap (fun c => match c with
      | .expr e _ _ => some e
      | _ => none) ++ filter.toList ++ joinConditions sources ++ groupBy ++ having.toList

/-- A column of a table, or one of the names of its row id. -/
def Table.hasColumn (t : Table) (c : String) : Bool :=
  (t.columnIndex? c).isSome || isRowidName c

/-- Whether the parent key a foreign key refers to is the parent's row id or a unique
index of it. -/
def parentKeyFound (db : Database) (parent : Table) (fk : ForeignKey) : Bool :=
  let n := fk.columns.length
  let ipk := parent.rowidAlias.map fun i => (parent.columns.getD i default).name
  let viaRowid := n == 1 && match ipk with
    | some c => fk.parentColumns.isEmpty || fk.parentColumns.any (sameName c)
    | none => false
  viaRowid || (db.uniqueIndexesOf parent.name).any fun idx =>
    idx.columns.length == n &&
      if fk.parentColumns.isEmpty then idx.origin == .primaryKey
      else idx.columns.all fun c => fk.parentColumns.any (sameName c)

/-- The failure for a foreign key whose parent key is not unique. -/
def keyMismatch (child : String) (fk : ForeignKey) : String :=
  "foreign key mismatch - \"" ++ child ++ "\" referencing \"" ++ fk.parent ++ "\""

/-- The frame of a statement as a check sees it: the `NEW` and `OLD` rows and whether it
is part of a trigger. -/
structure CheckFrame where
  /-- The rows `NEW` and `OLD`, without values. -/
  pseudo : List Slot
  /-- Whether the statement is part of a trigger. -/
  inTrigger : Bool
deriving Inhabited

/-- The scope of a statement of a frame, with sources. -/
def CheckFrame.scope (fr : CheckFrame) (slots : List Slot) : Scope :=
  ⟨[slots], fr.pseudo, [], none, fr.inTrigger⟩

mutual

/-- Checks an expression and its parts. -/
def checkExpr : Nat → Checking → Scope → AggregateRule → Expr → CheckM Unit
  | 0, _, _, _, _ => throw depthFault
  | f + 1, ck, sc, agg, e =>
    match e with
    | .literal _ | .param _ | .now _ => pure ()
    | .column t n q =>
      match resolve sc t n q with
      | .ok _ => pure ()
      | .error err => throw err
    | .raise _ _ =>
      if sc.inTrigger then pure () else refuse "RAISE() may only be used within a trigger-program"
    | .call name _ args star => do
      let n := args.length
      let isAgg := isAggregateCall name n || (star && name.toLower == "count")
      match takesArgs name n with
      | none => note ("no such function: " ++ name)
      | some false => note ("wrong number of arguments to function " ++ name ++ "()")
      | some true =>
        if isAgg then
          match agg with
          | .allowed => pure ()
          | .misuse => note ("misuse of aggregate function " ++ name ++ "()")
          | .groupBy => note "aggregate functions are not allowed in the GROUP BY clause"
      for a in args do
        checkExpr f ck sc (if isAgg then .misuse else agg) a
    | .exists q => checkSelect f ck sc.inner q
    | .scalar q => do
      checkSelect f ck sc.inner q
      let w := ck.width sc q
      if w ≠ 1 then refuse ("sub-select returns " ++ toString w ++ " columns - expected 1")
    | .inQuery a q _ => do
      let wa := ck.operandWidth sc a
      checkOperand f ck sc agg a
      checkSelect f ck sc.inner q
      let wq := ck.width sc q
      if wa ≠ wq then refuse ("sub-select returns " ++ toString wq ++ " columns - expected " ++
        toString wa)
    | .binary op a b =>
      if op.isComparison then do
        if ck.operandWidth sc a ≠ ck.operandWidth sc b then note "row value misused"
        checkOperand f ck sc agg a
        checkOperand f ck sc agg b
      else do
        checkExpr f ck sc agg a
        checkExpr f ck sc agg b
    | .between a lo hi _ => do
      let w := ck.operandWidth sc a
      if ck.operandWidth sc lo ≠ w ∨ ck.operandWidth sc hi ≠ w then note "row value misused"
      checkOperand f ck sc agg a
      checkOperand f ck sc agg lo
      checkOperand f ck sc agg hi
    | .row _ => refuse "row value misused"
    | .collate a name => do
      checkExpr f ck sc agg a
      if (Collation.ofName? name).isNone then refuse ("no such collation sequence: " ++ name)
    | _ => do
      for c in e.children do
        checkExpr f ck sc agg c

/-- Checks an operand of a comparison, which may be a row. -/
def checkOperand : Nat → Checking → Scope → AggregateRule → Expr → CheckM Unit
  | 0, _, _, _, _ => throw depthFault
  | f + 1, ck, sc, agg, e =>
    match e with
    | .row items => do
      for i in items do
        checkExpr f ck sc agg i
    | .scalar q => checkSelect f ck sc.inner q
    | _ => checkExpr f ck sc agg e

/-- Checks a whole expression: a problem noted in it is reported at its end. -/
def checkWhole : Nat → Checking → Scope → AggregateRule → Expr → CheckM Unit
  | 0, _, _, _, _ => throw depthFault
  | f + 1, ck, sc, agg, e => do
    checkExpr f ck sc agg e
    settle

/-- Checks a query: its tables, then its names. -/
def checkSelect : Nat → Checking → Scope → Select → CheckM Unit
  | 0, _, _, _ => throw depthFault
  | f + 1, ck, sc, q => do
    expandSelect f ck q
    resolveSelect f ck sc q

/-- Looks up the tables of a query, rightmost part first. -/
def expandSelect : Nat → Checking → Select → CheckM Unit
  | 0, _, _ => throw depthFault
  | f + 1, ck, .mk core compounds orderBy limit offset => do
    let extra := orderBy.map (fun (.mk t _ _) => t) ++ limit.toList ++ offset.toList
    match (core :: compounds.map Prod.snd).reverse with
    | last :: rest => do
      expandCore f ck last extra
      for c in rest do
        expandCore f ck c []
    | [] => pure ()

/-- Looks up the tables of a part of a query: its sources, then those of the queries in
its expressions. -/
def expandCore : Nat → Checking → SelectCore → List Expr → CheckM Unit
  | 0, _, _, _ => throw depthFault
  | f + 1, ck, core, extra => do
    match core with
    | .values _ => pure ()
    | .select _ cols sources _ _ _ => do
      let mut seen : List (String × List String) := []
      for src in sources do
        match src with
        | .table name asName _ _ usingCols => do
          let shown := asName.getD (bareName name)
          match ck.db.table? name with
          | some t =>
            for c in usingCols do
              if (t.columnIndex? c).isNone ∨ !(seen.any fun (_, cs) => cs.any (sameName c)) then
                refuse ("cannot join using column " ++ c ++ " - column not present in both tables")
            seen := seen ++ [(shown, t.columnNames)]
          | none =>
            match ck.db.view? name with
            | some v => do
              expandSelect f { ck with inSchema := true } v.query
              let cols := match queryColumns evalFuel ck.context Scope.empty v.query with
                | .ok cs => cs.map ColumnInfo.name
                | .error _ => []
              seen := seen ++ [(shown, cols)]
            | none => refuse (missingTable ck name)
        | .query q asName _ _ _ => do
          expandSelect f ck q
          let cols := match queryColumns evalFuel ck.context Scope.empty q with
            | .ok cs => cs.map ColumnInfo.name
            | .error _ => []
          seen := seen ++ [(asName.getD "", cols)]
      for c in cols do
        match c with
        | .tableStar t =>
          if !(seen.any fun (n, _) => sameName n t) then refuse ("no such table: " ++ t)
        | .star => if sources.isEmpty then refuse "no tables specified"
        | _ => pure ()
    for e in coreExprs core ++ extra do
      expandExpr f ck e

/-- Looks up the tables of the queries inside an expression. -/
def expandExpr : Nat → Checking → Expr → CheckM Unit
  | 0, _, _ => throw depthFault
  | f + 1, ck, e =>
    match e with
    | .exists q | .scalar q => expandSelect f ck q
    | .inQuery a q _ => do
      expandExpr f ck a
      expandSelect f ck q
    | _ => do
      for c in e.children do
        expandExpr f ck c

/-- Resolves the names of a query, rightmost part first. -/
def resolveSelect : Nat → Checking → Scope → Select → CheckM Unit
  | 0, _, _, _ => throw depthFault
  | f + 1, ck, sc, .mk core compounds orderBy limit offset => do
    let bare : Scope := { Scope.empty with pseudo := sc.pseudo, inTrigger := sc.inTrigger }
    for l in limit.toList ++ offset.toList do
      checkWhole f ck bare .misuse l
    let cores := core :: compounds.map Prod.snd
    let n := cores.length
    let widths := cores.map fun c => ck.width sc (Select.ofCore c)
    for i in (List.range n).reverse do
      let c := cores.getD i default
      resolveCore f ck sc c (if n = 1 then orderBy else [])
      if i + 1 < n ∧ widths.getD i 0 ≠ widths.getD (i + 1) 0 then
        match c, compounds.getD i (.unionAll, default) with
        | .values _, _ => refuse "all VALUES must have the same number of terms"
        | _, (op, _) => refuse (compoundMismatch op)
    if n > 1 then
      let width := widths.getD 0 0
      let names := match core with
        | .select _ cols _ _ _ _ => aliasesOf cols |>.map Prod.fst
        | .values _ => []
      let results := cores.flatMap fun c => match c with
        | .select _ cols _ _ _ _ => cols.filterMap fun rc => match rc with
          | .expr e _ _ => some e
          | _ => none
        | .values _ => []
      for (term, k) in orderBy.zip (List.range orderBy.length) do
        let .mk t _ _ := term
        match t with
        | .literal (.integer m) =>
          if m < 1 ∨ m > width then
            refuse (ordinal (k + 1) ++ " ORDER BY term out of range - should be between 1 and " ++
              toString width)
        | .column none c _ =>
          let named := names.any (sameName c) || results.any fun r => match r with
            | .column _ rc _ => sameName rc c
            | _ => false
          if !named then
            refuse (ordinal (k + 1) ++ " ORDER BY term does not match any column in the result set")
        | .column (some q) c _ =>
          let named := results.any fun r => match r with
            | .column (some rq) rc _ => sameName rq q && sameName rc c
            | _ => false
          if !named then
            refuse (ordinal (k + 1) ++ " ORDER BY term does not match any column in the result set")
        | _ =>
          refuse (ordinal (k + 1) ++ " ORDER BY term does not match any column in the result set")

/-- Resolves the names of a part of a query. -/
def resolveCore : Nat → Checking → Scope → SelectCore → List OrderTerm → CheckM Unit
  | 0, _, _, _, _ => throw depthFault
  | f + 1, ck, sc, core, orderBy => do
    match core with
    | .values rows => do
      let w := ((rows.head?).map List.length).getD 0
      if rows.any fun r => r.length ≠ w then refuse "all VALUES must have the same number of terms"
      let vsc : Scope := { sc with levels := [] :: sc.levels, aliases := [], group := none }
      for e in rows.flatten do
        checkWhole f ck vsc .allowed e
    | .select _ cols sources filter groupBy having => do
      for src in sources do
        match src with
        | .query q _ _ _ _ => resolveSelect f ck sc q
        | .table name _ _ _ _ =>
          match ck.db.table? name, ck.db.view? name with
          | none, some v => resolveSelect f { ck with inSchema := true } Scope.empty v.query
          | _, _ => pure ()
      let shape ← match sourceShapes evalFuel ck.context sc sources with
        | .ok s => pure s
        | .error err => throw err
      let csc : Scope := { sc with levels := shape :: sc.levels, aliases := [], group := none }
      for c in cols do
        match c with
        | .expr e _ _ => checkWhole f ck csc .allowed e
        | _ => pure ()
      let isAgg := !groupBy.isEmpty || callsAggregate cols
      let asc : Scope := { csc with aliases := aliasesOf cols }
      match having with
      | some h => do
        if !isAgg then refuse "HAVING clause on a non-aggregate query"
        checkWhole f ck asc .allowed h
      | none => pure ()
      for w in filter.toList ++ joinConditions sources do
        checkWhole f ck asc (if isAgg then .allowed else .misuse) w
      let osc : Scope := { asc with levels := [shape] }
      let width := ck.width sc (Select.ofCore core)
      for (term, k) in orderBy.zip (List.range orderBy.length) do
        let .mk t _ _ := term
        match t with
        | .column none c _ =>
          if !(aliasesOf cols).any (fun (a, _) => sameName a c) then
            checkWhole f ck osc .allowed t
        | .literal (.integer m) =>
          if m < 1 ∨ m > width then
            refuse (ordinal (k + 1) ++ " ORDER BY term out of range - should be between 1 and " ++
              toString width)
        | _ => checkWhole f ck osc .allowed t
      for (g, k) in groupBy.zip (List.range groupBy.length) do
        match g with
        | .literal (.integer m) =>
          if m < 1 ∨ m > width then
            refuse (ordinal (k + 1) ++ " GROUP BY term out of range - should be between 1 and " ++
              toString width)
        | _ => checkWhole f ck osc .groupBy g

/-- Checks a statement that reads or changes rows. -/
def checkStmt : Nat → Checking → CheckFrame → Stmt → CheckM Unit
  | 0, _, _, _ => throw depthFault
  | f + 1, ck, fr, st =>
    match st with
    | .select q => checkSelect f ck (fr.scope []) q
    | .insert _ table cols source upserts => do
      let t ← locate f ck table
      match cols with
      | some cs =>
        for c in cs do
          if !t.hasColumn c then
            refuse ("table " ++ table ++ " has no column named " ++ c)
      | none => pure ()
      let bare := fr.scope []
      let given ← match source with
        | .values [row] => do
          for e in row do
            checkWhole f ck { bare with levels := [] } .misuse e
          pure (some row.length)
        | .values rows => do
          checkSelect f ck bare (Select.ofCore (.values rows))
          pure (((rows.head?).map List.length))
        | .query q => do
          checkSelect f ck bare q
          pure (some (ck.width bare q))
        | .defaults => pure none
      match given, cols with
      | some m, none =>
        if m ≠ t.columns.size then
          refuse ("table " ++ table ++ " has " ++ toString t.columns.size ++ " columns but " ++
            toString m ++ " values were supplied")
      | some m, some cs =>
        if m ≠ cs.length then
          refuse (toString m ++ " values for " ++ toString cs.length ++ " columns")
      | none, _ => pure ()
      for u in upserts do
        if !u.target.isEmpty then
          for c in u.target do
            if !t.hasColumn c then refuse ("no such column: " ++ c)
          let ipk := t.rowidAlias.map fun i => (t.columns.getD i default).name
          let onRowid := u.target.length = 1 ∧ (ipk.any fun c => u.target.any (sameName c))
          let onIndex := (ck.db.uniqueIndexesOf t.name).any fun idx =>
            idx.columns.length = u.target.length ∧ idx.columns.all fun c => u.target.any (sameName c)
          if !(onRowid ∨ onIndex) then
            refuse "ON CONFLICT clause does not match any PRIMARY KEY or UNIQUE constraint"
      checkTriggers f ck t .insert [.before]
      for u in upserts do
        match u.action with
        | .update sets filter =>
          checkUpdate f ck fr table sets filter [Slot.ofTable "excluded" t none]
        | .nothing => pure ()
      if ck.foreignKeys then
        childKeys f ck t (fun _ => true)
        if fr.inTrigger || (match source with
            | .values [_] => false
            | .defaults => false
            | _ => true) || !(ck.db.triggersOf t.name).isEmpty then
          parentKeys f ck t (fun _ => true)
      checkTriggers f ck t .insert [.after]
    | .update _ table sets filter => checkUpdate f ck fr table sets filter []
    | .delete table filter => do
      let t ← locate f ck table
      let sc := fr.scope [Slot.ofTable (bareName table) t none]
      match filter with
      | some w => checkWhole f ck sc .misuse w
      | none => pure ()
      checkDeleteEffects f ck t
    | _ => pure ()

/-- Finds the table a statement changes. -/
def locate : Nat → Checking → String → CheckM Table
  | 0, _, _ => throw depthFault
  | _ + 1, ck, name =>
    match ck.db.table? name with
    | some t => pure t
    | none =>
      match ck.db.view? name with
      | some _ => refuse ("cannot modify " ++ bareName name ++ " because it is a view")
      | none => refuse (missingTable ck name)

/-- Checks an update of a table, with `excluded` when it is an upsert's. -/
def checkUpdate : Nat → Checking → CheckFrame → String → List (List String × Expr) →
    Option Expr → List Slot → CheckM Unit
  | 0, _, _, _, _, _, _ => throw depthFault
  | f + 1, ck, fr, table, sets, filter, excluded => do
    let t ← locate f ck table
    let sc : Scope := ⟨[[Slot.ofTable (bareName table) t none]], excluded ++ fr.pseudo, [], none,
      fr.inTrigger⟩
    for (cs, e) in sets do
      if cs.length > 1 then
        let w := ck.operandWidth sc e
        if w ≠ cs.length then
          refuse (toString cs.length ++ " columns assigned " ++ toString w ++ " values")
        match e with
        | .row items =>
          for (c, i) in cs.zip items do
            checkWhole f ck sc .misuse i
            if !t.hasColumn c then refuse ("no such column: " ++ c)
        | _ => do
          checkOperand f ck sc .misuse e
          settle
          for c in cs do
            if !t.hasColumn c then refuse ("no such column: " ++ c)
      else do
        checkWhole f ck sc .misuse e
        for c in cs do
          if !t.hasColumn c then refuse ("no such column: " ++ c)
    match filter with
    | some w => checkWhole f ck sc .misuse w
    | none => pure ()
    let changed := sets.flatMap Prod.fst
    let touches := fun (cols : List String) => cols.any fun c => changed.any (sameName c)
    checkTriggers f ck t (.update changed) [.before, .after]
    if ck.foreignKeys then
      childKeys f ck t fun fk => touches fk.columns || sameName fk.parent t.name
      parentKeys f ck t fun fk => touches (parentColumns ck.db t fk)
      keyActions f ck t true fun fk => touches (parentColumns ck.db t fk)

/-- Checks what deleting rows of a table brings about: its triggers, its foreign keys and
their actions. -/
def checkDeleteEffects : Nat → Checking → Table → CheckM Unit
  | 0, _, _ => throw depthFault
  | f + 1, ck, t => do
    checkTriggers f ck t .delete [.before, .after]
    if ck.foreignKeys then
      childKeys f ck t (fun _ => true)
      parentKeys f ck t (fun _ => true)
      keyActions f ck t false (fun _ => true)

/-- Checks the triggers of a table a change fires at some times, newest first, each once. -/
def checkTriggers : Nat → Checking → Table → TriggerEvent → List TriggerTime → CheckM Unit
  | 0, _, _, _, _ => throw depthFault
  | f + 1, ck, t, event, times => do
    let chosen := (firing ck.db t.name .before event []).filter (fun _ => times.contains .before) ++
      (firing ck.db t.name .after event []).filter (fun _ => times.contains .after)
    for tr in ck.db.triggersOf t.name do
      if chosen.any fun c => c.name == tr.name then
        if ← firstVisit ("trigger " ++ tr.name) then
          let pseudo := match event with
            | .insert => [Slot.ofTable "new" t none]
            | .delete => [Slot.ofTable "old" t none]
            | .update _ => [Slot.ofTable "new" t none, Slot.ofTable "old" t none]
          let fr : CheckFrame := ⟨pseudo, true⟩
          let inner := { ck with inSchema := true }
          match tr.condition with
          | some c => checkWhole f inner (fr.scope []) .misuse c
          | none => pure ()
          for st in tr.body do
            checkStmt f inner fr st

/-- Checks the foreign keys of a table as a child: the parent tables and their keys. -/
def childKeys : Nat → Checking → Table → (ForeignKey → Bool) → CheckM Unit
  | 0, _, _, _ => throw depthFault
  | _ + 1, ck, t, pick => do
    for fk in t.foreignKeys.reverse do
      if pick fk then
        match ck.db.table? fk.parent with
        | some p => if !parentKeyFound ck.db p fk then refuse (keyMismatch t.name fk)
        | none => refuse ("no such table: main." ++ bareName fk.parent)

/-- Checks the foreign keys that refer to a table: its keys they refer to. -/
def parentKeys : Nat → Checking → Table → (ForeignKey → Bool) → CheckM Unit
  | 0, _, _, _ => throw depthFault
  | _ + 1, ck, t, pick => do
    for (child, fk) in ck.db.referencesTo t.name do
      if pick fk then
        if !parentKeyFound ck.db t fk then refuse (keyMismatch child fk)

/-- Checks the statements the actions of the foreign keys referring to a table run. -/
def keyActions : Nat → Checking → Table → Bool → (ForeignKey → Bool) → CheckM Unit
  | 0, _, _, _, _ => throw depthFault
  | f + 1, ck, t, onUpdate, pick => do
    for ((child, fk), k) in (ck.db.referencesTo t.name).zip (List.range 1000) do
      let action := if onUpdate then fk.onUpdate else fk.onDelete
      if pick fk ∧ action ≠ .noAction then
        if !parentKeyFound ck.db t fk then refuse (keyMismatch child fk)
        if ← firstVisit ("action " ++ child ++ " " ++ toString k ++ " " ++ toString onUpdate) then
          match ck.db.table? child with
          | some c =>
            let inner := { ck with inSchema := true }
            match action with
            | .cascade =>
              if onUpdate then
                checkUpdate f inner ⟨[], true⟩ child
                  (fk.columns.map fun col => ([col], Expr.literal .null)) none []
              else checkDeleteEffects f inner c
            | .setNull | .setDefault =>
              checkUpdate f inner ⟨[], true⟩ child
                (fk.columns.map fun col => ([col], Expr.literal .null)) none []
            | _ => pure ()
          | none => pure ()

end

/-- Checks a statement of its own. -/
def checkStatement (ck : Checking) (st : Stmt) : Except Fault Unit :=
  match (checkStmt evalFuel ck ⟨[], false⟩ st).run ⟨[], none⟩ with
  | .ok _ => .ok ()
  | .error e => .error e

theorem ordinal_one : ordinal 1 = "1st" := by decide

end Sql

end MailStore
