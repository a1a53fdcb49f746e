import MailStore.Sql.Function

/-!
# Evaluating expressions and queries

An expression is evaluated in a scope: the rows bound by the sources of the query it
belongs to and of the queries around it (innermost first), the `NEW` and `OLD` rows of
the trigger it runs in (and the `excluded` row of an upsert), the result columns of its
query, which `WHERE`, `GROUP BY`, `HAVING` and `ORDER BY` may name, and, in a grouped
query, the rows of the group that aggregates run over.

A name is looked up the way the database does: among the sources of the innermost query
first (two matches there are ambiguous), then a qualified name among `NEW`, `OLD` and
`excluded`, then an unqualified one among the result columns, then in the queries around
it. A name in double quotes that names nothing is the text of its name.

A comparison applies an affinity to both its operands (see `comparisonAffinity`): that of
a column operand, so `prop_id = '55'` compares numbers. Its collation is the first of: an
explicit `COLLATE` on the left, on the right, the collation of a left column, of a right
column.

A query binds its sources in a nested loop, in order, each extending the rows of the ones
before it (a `LEFT JOIN` with a row of nulls when nothing matches), keeps the rows its
condition holds for, groups them when it aggregates, and projects, sorts and cuts them. A
table is read in row id order, or, when the condition fixes the leading columns of one of
its indexes, in the order of that index, as the database reads it.
-/

namespace MailStore

namespace Sql

/-- A column of a source of rows as expressions see it. -/
structure ColumnInfo where
  /-- The name. -/
  name : String
  /-- The affinity; none for an expression without one. -/
  affinity : Option Affinity
  /-- The collation, when it has one. -/
  collation : Option Collation
deriving Inhabited

/-- A source of rows in scope: the name it is known by, its columns, whether it has row
ids, and the row bound now (none for the null row of an outer join, or while a statement
is checked). -/
structure Slot where
  /-- The name it is known by. -/
  name : String
  /-- The columns. -/
  columns : List ColumnInfo
  /-- Whether its rows have row ids. -/
  hasRowid : Bool
  /-- The row bound. -/
  row : Option Row
deriving Inhabited

/-- What the expressions of a query can see. -/
structure Scope where
  /-- The sources of the queries, innermost first, each with its row. -/
  levels : List (List Slot)
  /-- The rows `NEW`, `OLD` and `excluded`. -/
  pseudo : List Slot
  /-- The result columns of the innermost query by name. -/
  aliases : List (String × Expr)
  /-- The rows of the group, when the innermost query aggregates. -/
  group : Option (List (List Slot))
  /-- Whether the expression runs in a trigger. -/
  inTrigger : Bool
deriving Inhabited

/-- A scope with nothing in it. -/
def Scope.empty : Scope := ⟨[], [], [], none, false⟩

/-- The scope of a query inside a query: the same rows around it, nothing of its own
yet. -/
def Scope.inner (sc : Scope) : Scope := { sc with aliases := [], group := none }

/-- What evaluation reads: the database, the values of the parameters, and the current
time as text. -/
structure Context where
  /-- The database. -/
  db : Database
  /-- The parameters, from the first. -/
  params : Array Value
  /-- The current time, `YYYY-MM-DD HH:MM:SS`. -/
  now : String
deriving Inhabited

/-- The outcome of a query: the names and kinds of its columns and its rows. -/
structure Rows where
  /-- The columns. -/
  columns : List ColumnInfo
  /-- The rows. -/
  rows : List (Array Value)
deriving Inhabited

/-- The failure when expressions nest too deeply. -/
def depthFault : Fault := Fault.logic "Expression tree is too large (maximum depth 1000)"

/-! ### Names -/

/-- What a name in an expression stands for. -/
inductive Ref where
  /-- A column of a bound row: its value and its kind. -/
  | cell (v : Value) (info : ColumnInfo)
  /-- A result column of the query. -/
  | aliased (e : Expr)
  /-- Text: a name in double quotes that names nothing. -/
  | text (s : String)

/-- The columns of a table as a source shows them. -/
def tableColumns (t : Table) : List ColumnInfo :=
  t.columns.toList.map fun c => ⟨c.name, some c.affinity, some c.collation⟩

/-- A table as a source, with a row or none. -/
def Slot.ofTable (name : String) (t : Table) (row : Option Row) : Slot :=
  ⟨name, tableColumns t, true, row⟩

/-- The slot with no row bound. -/
def Slot.cleared (s : Slot) : Slot := { s with row := none }

/-- The column of a slot with a name, if it has one. -/
def Slot.find? (s : Slot) (col : String) : Option Ref :=
  match s.columns.findIdx? (fun c => sameName c.name col) with
  | some i => some (.cell ((s.row.map fun r => r.get i).getD .null) (s.columns.getD i default))
  | none => none

/-- The row id of a slot, if its rows have them. -/
def Slot.rowid? (s : Slot) : Option Ref :=
  if s.hasRowid then
    some (.cell ((s.row.map fun r => Value.integer r.rowid).getD .null) ⟨"rowid", some .integer, none⟩)
  else none

/-- A column of a slot, or its row id by one of the row id's names. -/
def Slot.lookup (s : Slot) (col : String) : Option Ref :=
  (s.find? col).orElse fun _ => if isRowidName col then s.rowid? else none

/-- The references a name makes among the sources of one query. -/
def levelMatches (slots : List Slot) (tbl : Option String) (col : String) : List Ref :=
  match tbl with
  | some t => (slots.filter fun s => sameName s.name t).filterMap fun s => s.lookup col
  | none =>
    let direct := slots.filterMap fun s => s.find? col
    if direct.isEmpty ∧ isRowidName col then
      match slots with
      | [s] => s.rowid?.toList
      | _ => []
    else direct

/-- The first level of sources where a name is found. -/
def outerMatch (tbl : Option String) (col : String) (written : String) :
    List (List Slot) → Option (Except Fault Ref)
  | [] => none
  | level :: rest =>
    match levelMatches level tbl col with
    | [r] => some (.ok r)
    | [] => outerMatch tbl col written rest
    | _ => some (.error (Fault.logic ("ambiguous column name: " ++ written)))

/-- What a column reference stands for in a scope. -/
def resolve (sc : Scope) (tbl : Option String) (col : String) (quoted : Bool) : Except Fault Ref :=
  let written := match tbl with
    | some t => t ++ "." ++ col
    | none => col
  let missing : Except Fault Ref :=
    if tbl.isNone ∧ quoted then .ok (.text col)
    else .error (Fault.logic ("no such column: " ++ written))
  let fallback : Option Ref :=
    match tbl with
    | some t => (sc.pseudo.find? fun s => sameName s.name t).bind fun s => s.lookup col
    | none => (sc.aliases.find? fun (a, _) => sameName a col).map fun (_, e) => Ref.aliased e
  match sc.levels with
  | [] => match fallback with
    | some r => .ok r
    | none => missing
  | level :: rest =>
    match levelMatches level tbl col with
    | [r] => .ok r
    | [] =>
      match fallback with
      | some r => .ok r
      | none => (outerMatch tbl col written rest).getD missing
    | _ => .error (Fault.logic ("ambiguous column name: " ++ written))

/-! ### Pieces of expressions -/

/-- The expressions directly inside an expression, not counting queries. -/
def Expr.children : Expr → List Expr
  | .unary _ a => [a]
  | .binary _ a b => [a, b]
  | .isNull a _ => [a]
  | .between a b c _ => [a, b, c]
  | .inList a items _ => a :: items
  | .inQuery a _ _ => [a]
  | .pattern _ a b c _ => [a, b] ++ c.toList
  | .cases o bs e => o.toList ++ bs.flatMap (fun (x, y) => [x, y]) ++ e.toList
  | .cast a _ => [a]
  | .collate a _ => [a]
  | .call _ _ args _ => args
  | .row items => items
  | _ => []

/-- Whether an expression calls an aggregate outside the queries inside it, looking at
most `fuel` levels deep. -/
def hasAggregate : Nat → Expr → Bool
  | 0, _ => false
  | f + 1, e =>
    match e with
    | .call n _ args star => (star && n.toLower == "count") || isAggregateCall n args.length ||
        args.any (hasAggregate f)
    | _ => e.children.any (hasAggregate f)

/-- The terms of a condition joined by `AND`. -/
def conjuncts : Nat → Expr → List Expr
  | 0, e => [e]
  | f + 1, .binary .and a b => conjuncts f a ++ conjuncts f b
  | _, e => [e]

/-- The collation a comparison of two operands uses: an explicit one on the left, on the
right, a column's on the left, on the right, else bytewise. -/
def pickCollation (a b : Option (Collation × Bool)) : Collation :=
  match a, b with
  | some (c, true), _ => c
  | _, some (c, true) => c
  | some (c, false), _ => c
  | _, some (c, false) => c
  | none, none => .binary

/-- A value converted to a declared type. -/
def castTo (ty : String) (v : Value) : Value :=
  match v with
  | .null => .null
  | _ =>
    match Affinity.ofType ty with
    | .blob => .blob ((v.toBytes?).getD [])
    | .text => .text ((v.toText?).getD Text.empty)
    | .numeric => v.toNumeric
    | .integer => .integer v.toInt
    | .real => .real v.toReal

/-- The current date, time or timestamp. -/
def nowValue (now : String) (which : String) : Value :=
  if which = "CURRENT_DATE" then .ofString (now.take 10).toString
  else if which = "CURRENT_TIME" then .ofString (now.drop 11).toString
  else .ofString now

/-- The first value of a row, or null. -/
def firstOf (row : Array Value) : Value := row.getD 0 .null

/-! ### Reading tables in index order -/

/-- The column of a table that an operand of an equality names. -/
def eqColumn (slotName : String) (t : Table) : Expr → Option String
  | .column (some q) n _ => if sameName q slotName && (t.columnIndex? n).isSome then some n else none
  | .column none n _ => if (t.columnIndex? n).isSome then some n else none
  | _ => none

/-- Whether an operand of an equality can be known before the table is read: a constant,
a parameter, or a column of another source. -/
def isProbe (slotName : String) : Expr → Bool
  | .literal _ => true
  | .param _ => true
  | .now _ => true
  | .column (some q) _ _ => !sameName q slotName
  | _ => false

/-- The columns of a table that the terms of a condition fix by equality. -/
def fixedColumns (slotName : String) (t : Table) (terms : List Expr) : List String :=
  terms.filterMap fun e =>
    match e with
    | .binary .eq a b | .binary .is a b =>
      match eqColumn slotName t a, eqColumn slotName t b with
      | some c, none => if isProbe slotName b then some c else none
      | none, some c => if isProbe slotName a then some c else none
      | _, _ => none
    | _ => none

/-- How many leading columns of an index are fixed. -/
def leadingFixed (fixed : List String) (idx : Index) : Nat :=
  (idx.columns.takeWhile fun c => fixed.any (sameName c)).length

/-- The index a table is read through: the one with the most leading columns fixed, the
newest among equals; none when no index has a fixed leading column. -/
def chooseIndex (fixed : List String) (indexes : List Index) : Option Index :=
  indexes.foldl (fun best idx =>
    let n := leadingFixed fixed idx
    if n = 0 then best
    else match best with
      | some b => if leadingFixed fixed b < n then some idx else best
      | none => some idx) none

/-- The order of two rows by the columns of an index, then by row id. -/
def indexOrder (t : Table) (cols : List String) (a b : Row) : Ordering :=
  let rec go : List String → Ordering
    | [] => compare a.rowid b.rowid
    | c :: cs =>
      match t.columnIndex? c with
      | some i =>
        let coll := (t.columns.getD i default).collation
        match Value.order coll (a.get i) (b.get i) with
        | .eq => go cs
        | o => o
      | none => go cs
  go cols

/-- The rows of a table in the order the database reads them under a condition's terms. -/
def scanRows (db : Database) (t : Table) (slotName : String) (terms : List Expr) : List Row :=
  let fixed := fixedColumns slotName t terms
  if t.rowidAlias.any (fun i => fixed.any (sameName (t.columns.getD i default).name)) then t.rows
  else
    match chooseIndex fixed (db.indexesOf t.name) with
    | some idx => t.rows.mergeSort fun a b => indexOrder t idx.columns a b != .gt
    | none => t.rows

/-! ### Helpers of queries -/

/-- The values of a slot's columns: its row's, or nulls. -/
def slotValues (s : Slot) : List Value :=
  match s.row with
  | some r => (List.range s.columns.length).map r.get
  | none => s.columns.map fun _ => Value.null

/-- The order of two rows by sort keys, each term ascending or descending with nulls first
or last. -/
def sortKeys (terms : List OrderTerm) (colls : List Collation) : List Value → List Value → Ordering
  | a :: as, b :: bs =>
    let (desc, nullsFirst) := match terms.head? with
      | some (.mk _ d n) => (d, n)
      | none => (false, none)
    let coll := colls.headD .binary
    let base := Value.order coll a b
    let o := match a, b, nullsFirst with
      | .null, .null, _ => Ordering.eq
      | .null, _, some nf => if nf then .lt else .gt
      | _, .null, some nf => if nf then .gt else .lt
      | _, _, _ => if desc then base.swap else base
    if o = .eq then sortKeys terms.tail colls.tail as bs else o
  | _, _ => .eq

/-- Rows with equal keys, next to each other, gathered into groups. -/
def groupAdjacent (rows : List (List Slot × List Value)) : List (List (List Slot)) :=
  let step := fun (acc : List (List Value × List (List Slot))) (x : List Slot × List Value) =>
    match acc with
    | (k, g) :: rest => if sameRow k x.2 then (k, g ++ [x.1]) :: rest else (x.2, [x.1]) :: acc
    | [] => [(x.2, [x.1])]
  ((rows.foldl step []).reverse).map Prod.snd

/-- Rows without repeats, the first of each kept. -/
def distinctRows (rows : List (Array Value × List Value)) : List (Array Value × List Value) :=
  (rows.foldl (fun acc r => if acc.any fun x => sameRow x.1.toList r.1.toList then acc else r :: acc)
    []).reverse

/-- Rows in order of all their values. -/
def sortedRows (rows : List (Array Value)) : List (Array Value) :=
  rows.mergeSort fun a b => sortKeys [] [] a.toList b.toList != .gt

/-- Rows without repeats. -/
def uniqueRows (rows : List (Array Value)) : List (Array Value) :=
  (rows.foldl (fun acc r => if acc.any fun x => sameRow x.toList r.toList then acc else r :: acc)
    []).reverse

/-- Two queries' rows combined by a compound operator: all of both, or without repeats and
in order, their common rows, or the rows of the first not in the second. -/
def combineRows (op : CompoundOp) (a b : List (Array Value)) : List (Array Value) :=
  match op with
  | .unionAll => a ++ b
  | .union => sortedRows (uniqueRows (a ++ b))
  | .intersect => sortedRows (uniqueRows (a.filter fun r => b.any fun x => sameRow x.toList r.toList))
  | .except => sortedRows (uniqueRows (a.filter fun r => !b.any fun x => sameRow x.toList r.toList))

/-! ### Evaluation -/

mutual

/-- The value of an expression. -/
def eval : Nat → Context → Scope → Expr → Except Fault Value
  | 0, _, _, _ => .error depthFault
  | f + 1, cx, sc, e =>
    match e with
    | .literal v => .ok v
    | .param n => .ok (cx.params.getD (n - 1) .null)
    | .column t n q => do
      match ← resolve sc t n q with
      | .cell v _ => pure v
      | .aliased a => eval f cx { sc with aliases := [] } a
      | .text s => pure (.ofString s)
    | .unary op a => do
      let v ← eval f cx sc a
      match op with
      | .negate => pure (arith .sub (.integer 0) v)
      | .plus => pure v
      | .not => pure (ofTruth (v.truth.map (!·)))
      | .bitNot => pure (bitNot v)
    | .binary op a b =>
      match op with
      | .and => do
        let x ← eval f cx sc a
        if x.truth = some false then pure (ofBool false)
        else
          let y ← eval f cx sc b
          pure (ofTruth (and3 x.truth y.truth))
      | .or => do
        let x ← eval f cx sc a
        if x.truth = some true then pure (ofBool true)
        else
          let y ← eval f cx sc b
          pure (ofTruth (or3 x.truth y.truth))
      | .add => do pure (arith .add (← eval f cx sc a) (← eval f cx sc b))
      | .sub => do pure (arith .sub (← eval f cx sc a) (← eval f cx sc b))
      | .mul => do pure (arith .mul (← eval f cx sc a) (← eval f cx sc b))
      | .div => do pure (arith .div (← eval f cx sc a) (← eval f cx sc b))
      | .rem => do pure (arith .rem (← eval f cx sc a) (← eval f cx sc b))
      | .concat => do pure (concat (← eval f cx sc a) (← eval f cx sc b))
      | .bitAnd => do pure (bitAnd (← eval f cx sc a) (← eval f cx sc b))
      | .bitOr => do pure (bitOr (← eval f cx sc a) (← eval f cx sc b))
      | .shiftLeft => do pure (shift true (← eval f cx sc a) (← eval f cx sc b))
      | .shiftRight => do pure (shift false (← eval f cx sc a) (← eval f cx sc b))
      | _ => compareExprs f cx sc op a b
    | .isNull a neg => do
      let v ← eval f cx sc a
      pure (ofBool (v.isNull != neg))
    | .between a lo hi neg => do
      let v ← eval f cx sc a
      let l ← eval f cx sc lo
      let h ← eval f cx sc hi
      let aa := affinityOf f cx sc a
      let ca := collationOf f cx sc a
      let c1 := (compareUnder (comparisonAffinity aa (affinityOf f cx sc lo))
        (pickCollation ca (collationOf f cx sc lo)) v l).map (holds .ge)
      let c2 := (compareUnder (comparisonAffinity aa (affinityOf f cx sc hi))
        (pickCollation ca (collationOf f cx sc hi)) v h).map (holds .le)
      let r := and3 c1 c2
      pure (ofTruth (if neg then r.map (!·) else r))
    | .inList a items neg => do
      let x ← eval f cx sc a
      if items.isEmpty then pure (ofBool neg)
      else if x.isNull then pure .null
      else
        let aff := affinityOf f cx sc a
        let coll := pickCollation (collationOf f cx sc a) none
        let vs ← items.mapM (eval f cx sc)
        let r : Option Bool := if vs.any fun v => compareUnder aff coll x v == some .eq then some true
          else if vs.any Value.isNull then none else some false
        pure (ofTruth (if neg then r.map (!·) else r))
    | .inQuery a q neg => do
      let xs ← rowValues f cx sc a
      let res ← query f cx sc.inner q
      if res.rows.isEmpty then pure (ofBool neg)
      else if xs.any Value.isNull && xs.length = 1 then pure .null
      else
        let affs := (xs.zip (List.range xs.length)).map fun (_, i) =>
          comparisonAffinity ((res.columns.getD i default).affinity)
            (affinityOf f cx sc (match a with
              | .row items => items.getD i (.literal .null)
              | other => other))
        let coll := pickCollation (collationOf f cx sc a)
          (((res.columns.head?).bind ColumnInfo.collation).map fun c => (c, false))
        let matchRow := fun (row : Array Value) =>
          let pairs := (xs.zip affs).zip (List.range xs.length)
          let cmps := pairs.map fun ((x, aff), i) => compareUnder aff coll x (row.getD i .null)
          if cmps.all (· == some .eq) then some true
          else if cmps.any (fun c => c.isSome && c != some .eq) then some false
          else none
        let results := res.rows.map matchRow
        let r : Option Bool := if results.any (· == some true) then some true
          else if results.any (·.isNone) then none else some false
        pure (ofTruth (if neg then r.map (!·) else r))
    | .pattern op a pat esc neg => do
      let x ← eval f cx sc a
      let p ← eval f cx sc pat
      let escV ← match esc with
        | some ee => some <$> eval f cx sc ee
        | none => pure none
      match x.toText?, p.toText? with
      | some xt, some pt =>
        let escChar ← match escV with
          | some v => match v.toText? with
            | some et => match et.chars with
              | [c] => pure (some c)
              | _ => throw (Fault.logic "ESCAPE expression must be a single character")
            | none => pure none
          | none => pure none
        if escV.any Value.isNull then pure .null
        else
          let r := match op with
            | .like => likeMatch escChar pt.chars xt.chars
            | .glob => globMatch pt.chars xt.chars
          pure (ofBool (r != neg))
      | _, _ => pure .null
    | .cases operand branches fallback => do
      match operand with
      | some base =>
        let bv ← eval f cx sc base
        let ba := affinityOf f cx sc base
        let bc := collationOf f cx sc base
        let hit ← branches.findM? fun (w, _) => do
          let wv ← eval f cx sc w
          pure (compareUnder (comparisonAffinity ba (affinityOf f cx sc w))
            (pickCollation bc (collationOf f cx sc w)) bv wv == some .eq)
        match hit with
        | some (_, r) => eval f cx sc r
        | none => match fallback with
          | some d => eval f cx sc d
          | none => pure .null
      | none =>
        let hit ← branches.findM? fun (w, _) => do
          pure ((← eval f cx sc w).truth = some true)
        match hit with
        | some (_, r) => eval f cx sc r
        | none => match fallback with
          | some d => eval f cx sc d
          | none => pure .null
    | .cast a ty => do pure (castTo ty (← eval f cx sc a))
    | .collate a _ => eval f cx sc a
    | .call name distinct args star =>
      let lname := name.toLower
      if (star && lname == "count") || isAggregateCall lname args.length then
        match sc.group with
        | some rows => do
          let inner := fun (r : List Slot) =>
            { sc with levels := r :: sc.levels.drop 1, group := none }
          let argRows ← rows.mapM fun r => args.mapM (eval f cx (inner r))
          if lname == "count" ∧ args.isEmpty then pure (.integer rows.length)
          else
            let coll := pickCollation ((args.head?).bind (collationOf f cx sc)) none
            let sep := ((argRows.getLast?).bind fun vs => vs[1]?).getD (Value.ofString ",")
            aggregate lname coll distinct rows.length (argRows.map fun vs => vs.headD .null) sep
        | none => throw (Fault.logic ("misuse of aggregate function " ++ name ++ "()"))
      else if lname == "coalesce" ∨ lname == "ifnull" then do
        let found ← args.foldlM (fun acc x => do
          match acc with
          | .null => eval f cx sc x
          | v => pure v) Value.null
        pure found
      else if lname == "iif" then do
        let c ← eval f cx sc (args.headD (.literal .null))
        if c.truth = some true then eval f cx sc (args.getD 1 (.literal .null))
        else eval f cx sc (args.getD 2 (.literal .null))
      else do
        let vs ← args.mapM (eval f cx sc)
        let coll := pickCollation ((args.head?).bind (collationOf f cx sc)) none
        scalar name coll vs
    | .exists q => do
      let res ← query f cx sc.inner q
      pure (ofBool !res.rows.isEmpty)
    | .scalar q => do
      let res ← query f cx sc.inner q
      pure ((res.rows.head?.map firstOf).getD .null)
    | .row _ => .error (Fault.logic "row value misused")
    | .raise kind msg => .error (Fault.raised kind msg)
    | .now which => .ok (nowValue cx.now which)

/-- The values of an operand that may be a row: the items of a row, the first row of a
query, or the one value of anything else. -/
def rowValues : Nat → Context → Scope → Expr → Except Fault (List Value)
  | 0, _, _, _ => .error depthFault
  | f + 1, cx, sc, e =>
    match e with
    | .row items => items.mapM (eval f cx sc)
    | .scalar q => do
      let res ← query f cx sc.inner q
      match res.rows.head? with
      | some row => pure row.toList
      | none => pure (res.columns.map fun _ => Value.null)
    | _ => do pure [← eval f cx sc e]

/-- A comparison of two operands, of rows element by element. -/
def compareExprs : Nat → Context → Scope → BinaryOp → Expr → Expr → Except Fault Value
  | 0, _, _, _, _, _ => .error depthFault
  | f + 1, cx, sc, op, a, b => do
    let xs ← rowValues f cx sc a
    let ys ← rowValues f cx sc b
    if xs.length ≠ ys.length then throw (Fault.logic "row value misused")
    let partsOf := fun (e : Expr) (i : Nat) => match e with
      | .row items => items.getD i (.literal .null)
      | other => other
    let cmps := ((xs.zip ys).zip (List.range xs.length)).map fun ((x, y), i) =>
      let pa := partsOf a i
      let pb := partsOf b i
      let aff := comparisonAffinity (affinityOf f cx sc pa) (affinityOf f cx sc pb)
      let coll := pickCollation (collationOf f cx sc pa) (collationOf f cx sc pb)
      (x, y, compareUnder aff coll x y)
    if op = .is ∨ op = .isNot then
      let same := cmps.all fun (x, y, c) => (x.isNull && y.isNull) || c == some .eq
      pure (ofBool (same == (op = .is)))
    else if op = .eq ∨ op = .ne then
      let r : Option Bool :=
        if cmps.any fun (_, _, c) => c.isSome && c != some .eq then some false
        else if cmps.all fun (_, _, c) => c == some .eq then some true
        else none
      pure (ofTruth (if op = .ne then r.map (!·) else r))
    else
      let rec lexi : List (Value × Value × Option Ordering) → Option Bool
        | [] => some (op = .le ∨ op = .ge)
        | (_, _, none) :: _ => none
        | (_, _, some .eq) :: rest => lexi rest
        | (_, _, some o) :: _ => some (holds op o)
      pure (ofTruth (lexi cmps))

/-- The affinity of an expression: a column's, a cast's type's, the first column of a
query's; none for anything else. -/
def affinityOf : Nat → Context → Scope → Expr → Option Affinity
  | 0, _, _, _ => none
  | f + 1, cx, sc, e =>
    match e with
    | .column t n q =>
      match resolve sc t n q with
      | .ok (.cell _ info) => info.affinity
      | .ok (.aliased a) => affinityOf f cx { sc with aliases := [] } a
      | _ => none
    | .cast _ ty => some (Affinity.ofType ty)
    | .collate a _ => affinityOf f cx sc a
    | .scalar q =>
      match queryColumns f cx sc.inner q with
      | .ok (c :: _) => c.affinity
      | _ => none
    | .row (a :: _) => affinityOf f cx sc a
    | _ => none

/-- The collation of an expression, and whether it is given explicitly. -/
def collationOf : Nat → Context → Scope → Expr → Option (Collation × Bool)
  | 0, _, _, _ => none
  | f + 1, cx, sc, e =>
    match e with
    | .collate _ n => some ((Collation.ofName? n).getD .binary, true)
    | .column t n q =>
      match resolve sc t n q with
      | .ok (.cell _ info) => info.collation.map fun c => (c, false)
      | .ok (.aliased a) => collationOf f cx { sc with aliases := [] } a
      | _ => none
    | _ => none

/-- The rows of a query. -/
def query : Nat → Context → Scope → Select → Except Fault Rows
  | 0, _, _, _ => .error depthFault
  | f + 1, cx, sc, .mk core compounds orderBy limit offset => do
    let cols ← coreColumns f cx sc core
    let lim ← match limit with
      | some l => some <$> windowBound f cx sc l
      | none => pure none
    let off ← match offset with
      | some o => windowBound f cx sc o
      | none => pure 0
    let rows ← if compounds.isEmpty then do
        let rs ← coreRows f cx sc core orderBy
        let colls := orderBy.map fun (.mk t _ _) =>
          pickCollation (collationOf f cx sc t) none
        let sorted := if orderBy.isEmpty then rs
          else rs.mergeSort fun x y => sortKeys orderBy colls x.2 y.2 != .gt
        pure (sorted.map Prod.fst)
      else do
        let first ← coreRows f cx sc core []
        let combined ← compounds.foldlM (fun acc (cop, c) => do
          let more ← coreRows f cx sc c []
          pure (combineRows cop acc (more.map Prod.fst))) (first.map Prod.fst)
        let keyed ← combined.mapM fun row => do
          let ks ← orderBy.mapM fun (.mk t _ _) => compoundKey cols row t
          pure (row, ks)
        let colls := orderBy.map fun (.mk t _ _) =>
          pickCollation (collationOf f cx sc t) none
        let sorted := if orderBy.isEmpty then keyed
          else keyed.mergeSort fun x y => sortKeys orderBy colls x.2 y.2 != .gt
        pure (sorted.map Prod.fst)
    let window := rows.drop off
    pure ⟨cols, match lim with
      | some n => window.take n
      | none => window⟩

/-- The rows of a core of a query, each with the values of its sort keys. -/
def coreRows : Nat → Context → Scope → SelectCore → List OrderTerm →
    Except Fault (List (Array Value × List Value))
  | 0, _, _, _, _ => .error depthFault
  | f + 1, cx, sc, .values rows, _ =>
    rows.mapM fun r => do pure ((← r.mapM (eval f cx sc)).toArray, [])
  | f + 1, cx, sc, .select distinct cols sources filter groupBy having, orderBy => do
    let terms := match filter with
      | some w => conjuncts 64 w
      | none => []
    let combos ← bindSources f cx sc sources terms
    let shape := (← sourceShapes f cx sc sources)
    let aliases := cols.filterMap fun c => match c with
      | .expr e (some a) _ => some (a, e)
      | _ => none
    let rowScope := fun (combo : List Slot) =>
      ({ sc with levels := combo :: sc.levels, aliases := aliases, group := none } : Scope)
    let kept ← combos.filterM fun combo => match filter with
      | some w => do pure ((← eval f cx (rowScope combo) w).truth == some true)
      | none => pure true
    let aggregates := !groupBy.isEmpty || cols.any (fun c => match c with
        | .expr e _ _ => hasAggregate 64 e
        | _ => false) ||
      having.any (hasAggregate 64) || orderBy.any (fun (.mk t _ _) => hasAggregate 64 t)
    let out ← if aggregates then do
        let groups ← if groupBy.isEmpty then pure [kept] else do
          let keyed ← kept.mapM fun combo => do
            pure (combo, ← groupBy.mapM (eval f cx (rowScope combo)))
          let sorted := keyed.mergeSort fun x y => sortKeys [] [] x.2 y.2 != .gt
          pure (groupAdjacent sorted)
        let rows ← groups.mapM fun g => do
          let current := (g.getLast?).getD (shape.map Slot.cleared)
          let gsc := { rowScope current with group := some g }
          let keep ← match having with
            | some h => do pure ((← eval f cx gsc h).truth == some true)
            | none => pure true
          if keep then do
            let vals ← project f cx gsc cols current
            let ks ← orderKeys f cx gsc cols vals orderBy
            pure [(vals, ks)]
          else pure []
        pure rows.flatten
      else
        kept.mapM fun combo => do
          let vals ← project f cx (rowScope combo) cols combo
          let ks ← orderKeys f cx (rowScope combo) cols vals orderBy
          pure (vals, ks)
    pure (if distinct then distinctRows out else out)

/-- The values of the result columns for a row of sources. -/
def project : Nat → Context → Scope → List ResultColumn → List Slot → Except Fault (Array Value)
  | 0, _, _, _, _ => .error depthFault
  | f + 1, cx, sc, cols, combo => do
    let parts ← cols.mapM fun c => match c with
      | .star => pure (combo.flatMap slotValues)
      | .tableStar t => match combo.find? fun s => sameName s.name t with
        | some s => pure (slotValues s)
        | none => throw (Fault.logic ("no such table: " ++ t))
      | .expr e _ _ => do pure [← eval f cx sc e]
    pure parts.flatten.toArray

/-- The values of the sort keys of a row: a number names a result column, a result
column's name names it, anything else is evaluated. -/
def orderKeys : Nat → Context → Scope → List ResultColumn → Array Value → List OrderTerm →
    Except Fault (List Value)
  | 0, _, _, _, _, _ => .error depthFault
  | f + 1, cx, sc, cols, vals, terms =>
    terms.mapM fun (.mk t _ _) =>
      match t with
      | .literal (.integer k) =>
        if 1 ≤ k ∧ k ≤ vals.size then pure (vals.getD (k.toNat - 1) .null)
        else throw (Fault.logic ("ORDER BY term out of range - should be between 1 and " ++
          toString vals.size))
      | .column none n _ =>
        match (cols.zip (List.range cols.length)).find? fun (c, _) => match c with
          | .expr _ (some a) _ => sameName a n
          | _ => false with
        | some (_, i) => pure (vals.getD i .null)
        | none => eval f cx sc t
      | _ => eval f cx sc t

/-- The rows of the sources of a query, each a list of bound slots, joined in order. -/
def bindSources : Nat → Context → Scope → List Source → List Expr →
    Except Fault (List (List Slot))
  | 0, _, _, _, _ => .error depthFault
  | f + 1, cx, sc, sources, terms =>
    sources.foldlM (fun combos src => do
      let (slot, rows, kind, on) ← sourceRows f cx sc src terms
      let parts ← combos.mapM fun combo => do
        let joined ← rows.filterMapM fun r => do
          let c := combo ++ [{ slot with row := some r }]
          match on with
          | some cond =>
            let v ← eval f cx ({ sc with levels := c :: sc.levels, aliases := [], group := none }) cond
            pure (if v.truth = some true then some c else none)
          | none => pure (some c)
        if joined.isEmpty ∧ kind = .left then pure [combo ++ [slot.cleared]] else pure joined
      pure parts.flatten) [[]]

/-- A source's slot, its rows in reading order, how it joins and its join condition. -/
def sourceRows : Nat → Context → Scope → Source → List Expr →
    Except Fault (Slot × List Row × JoinKind × Option Expr)
  | 0, _, _, _, _ => .error depthFault
  | f + 1, cx, sc, src, terms =>
    let usingCond := fun (name : String) (cols : List String) (on : Option Expr) =>
      let eqs := cols.map fun c => Expr.binary .eq (.column none c false) (.column (some name) c false)
      (eqs ++ on.toList).foldl (fun acc e => match acc with
        | some a => some (Expr.binary .and a e)
        | none => some e) none
    match src with
    | .table name asName kind on usingCols =>
      let slotName := asName.getD (bareName name)
      let allTerms := terms ++ ((on.map (conjuncts 64)).getD [])
      match cx.db.table? name with
      | some t =>
        .ok (Slot.ofTable slotName t none, scanRows cx.db t slotName allTerms, kind,
          usingCond slotName usingCols on)
      | none =>
        match cx.db.view? name with
        | some v => do
          let res ← query f cx Scope.empty v.query
          let rows := (res.rows.zip (List.range res.rows.length)).map fun (r, i) => (⟨i + 1, r⟩ : Row)
          pure (⟨slotName, res.columns, false, none⟩, rows, kind, usingCond slotName usingCols on)
        | none => .error (Fault.logic ("no such table: " ++ name))
    | .query q asName kind on usingCols => do
      let res ← query f cx sc.inner q
      let slotName := asName.getD ""
      let rows := (res.rows.zip (List.range res.rows.length)).map fun (r, i) => (⟨i + 1, r⟩ : Row)
      pure (⟨slotName, res.columns, false, none⟩, rows, kind, usingCond slotName usingCols on)

/-- The slots of the sources of a query, without rows. -/
def sourceShapes : Nat → Context → Scope → List Source → Except Fault (List Slot)
  | 0, _, _, _ => .error depthFault
  | f + 1, cx, sc, sources =>
    sources.mapM fun src => match src with
      | .table name asName _ _ _ =>
        let slotName := asName.getD (bareName name)
        match cx.db.table? name with
        | some t => .ok (Slot.ofTable slotName t none)
        | none => match cx.db.view? name with
          | some v => do
            let cols ← queryColumns f cx Scope.empty v.query
            pure ⟨slotName, cols, false, none⟩
          | none => .error (Fault.logic ("no such table: " ++ name))
      | .query q asName _ _ _ => do
        let cols ← queryColumns f cx sc.inner q
        pure ⟨asName.getD "", cols, false, none⟩

/-- The result columns of a query: their names, affinities and collations. -/
def queryColumns : Nat → Context → Scope → Select → Except Fault (List ColumnInfo)
  | 0, _, _, _ => .error depthFault
  | f + 1, cx, sc, .mk core _ _ _ _ => coreColumns f cx sc core

/-- The result columns of a core of a query. -/
def coreColumns : Nat → Context → Scope → SelectCore → Except Fault (List ColumnInfo)
  | 0, _, _, _ => .error depthFault
  | _ + 1, _, _, .values rows =>
    .ok (((rows.head?).getD []).zip (List.range ((rows.head?).getD []).length) |>.map
      fun (_, i) => ⟨"column" ++ toString (i + 1), none, none⟩)
  | f + 1, cx, sc, .select _ cols sources _ _ _ => do
    let shape ← sourceShapes f cx sc sources
    let csc : Scope := { sc with levels := shape :: sc.levels, aliases := [], group := none }
    let parts ← cols.mapM fun c => match c with
      | .star => pure (shape.flatMap Slot.columns)
      | .tableStar t => match shape.find? fun s => sameName s.name t with
        | some s => pure s.columns
        | none => throw (Fault.logic ("no such table: " ++ t))
      | .expr e asName text =>
        let name := match asName with
          | some a => a
          | none => match e with
            | .column t n q => match resolve csc t n q with
              | .ok (.cell _ info) => info.name
              | _ => text
            | _ => text
        pure [⟨name, affinityOf f cx csc e, (collationOf f cx csc e).map Prod.fst⟩]
    pure parts.flatten

/-- The sort key of a row of a compound query: a result column by number or name. -/
def compoundKey (cols : List ColumnInfo) (row : Array Value) (t : Expr) : Except Fault Value :=
  match t with
  | .literal (.integer k) =>
    if 1 ≤ k ∧ k ≤ row.size then .ok (row.getD (k.toNat - 1) .null)
    else .error (Fault.logic ("ORDER BY term out of range - should be between 1 and " ++
      toString row.size))
  | .column _ n _ =>
    match (cols.zip (List.range cols.length)).find? fun (c, _) => sameName c.name n with
    | some (_, i) => .ok (row.getD i .null)
    | none => .error (Fault.logic "ORDER BY term does not match any column in the result set")
  | _ => .error (Fault.logic "ORDER BY term does not match any column in the result set")

/-- The value of a `LIMIT` or `OFFSET`: an integer; a negative limit is none. -/
def windowBound : Nat → Context → Scope → Expr → Except Fault Nat
  | 0, _, _, _ => .error depthFault
  | f + 1, cx, sc, e => do
    let v ← eval f cx Scope.empty e
    let _ := sc
    match v.toNumeric with
    | .integer n => pure (if n < 0 then 1000000000000 else n.toNat)
    | .real x =>
      let i := Real.truncate x
      if Real.sameAsInt x i then pure (if i < 0 then 1000000000000 else i.toNat)
      else throw Fault.mismatch
    | _ => throw Fault.mismatch

end

/-- The depth of evaluation allowed: as deep as the database lets expressions nest. -/
def evalFuel : Nat := 1000

theorem resolve_empty_quoted (c : String) :
    resolve Scope.empty none c true = .ok (.text c) := by
  simp [resolve, Scope.empty]

end Sql

end MailStore
