import MailStore.Sql.Value

/-!
# Statements of the database language

The abstract syntax of the statements the database runs: queries (with joins, grouping,
ordering and limits, and compound queries), the three kinds of row change (insertion with
an optional conflict clause, update and deletion), and the schema statements (creating and
dropping tables, indexes, views and triggers, and altering tables).

Names of tables, columns, indexes and triggers are kept as written; the database matches
them without regard to ASCII case. A table may be written with its schema (`main.props`),
kept as one name with the dot.
-/

namespace MailStore

namespace Sql

/-- A unary operator. -/
inductive UnaryOp where
  /-- Arithmetic negation. -/
  | negate
  /-- The identity on numbers. -/
  | plus
  /-- Logical negation. -/
  | not
  /-- Bitwise complement. -/
  | bitNot
deriving DecidableEq, Repr, Inhabited

/-- A binary operator. -/
inductive BinaryOp where
  | or | and
  | eq | ne | lt | le | gt | ge
  /-- Equality in which null equals null. -/
  | is
  /-- The negation of `is`. -/
  | isNot
  | bitAnd | bitOr | shiftLeft | shiftRight
  | add | sub | mul | div | rem
  /-- Concatenation of text. -/
  | concat
deriving DecidableEq, Repr, Inhabited

namespace BinaryOp

/-- Whether an operator compares its operands. -/
def isComparison : BinaryOp → Bool
  | .eq | .ne | .lt | .le | .gt | .ge | .is | .isNot => true
  | _ => false

end BinaryOp

/-- How a trigger stops a statement. -/
inductive RaiseKind where
  /-- Skips the row. -/
  | ignore
  /-- Fails the statement and undoes the transaction. -/
  | rollback
  /-- Fails the statement. -/
  | abort
  /-- Fails the statement, keeping what it did before. -/
  | fail
deriving DecidableEq, Repr, Inhabited

/-- The kind of a join. -/
inductive JoinKind where
  /-- Rows of both sides that match. -/
  | inner
  /-- Every row of the left side, with the matching rows of the right or nulls. -/
  | left
deriving DecidableEq, Repr, Inhabited

/-- How compound queries combine their rows. -/
inductive CompoundOp where
  | unionAll | union | intersect | except
deriving DecidableEq, Repr, Inhabited

/-- Whether a pattern match is case-insensitive with `%` and `_`, or case-sensitive with
`*` and `?`. -/
inductive MatchOp where
  | like | glob
deriving DecidableEq, Repr, Inhabited

mutual

/-- An expression. -/
inductive Expr where
  /-- A constant. -/
  | literal (v : Value)
  /-- The parameter with a number (from one). -/
  | param (n : Nat)
  /-- A column, of a table or alias when given; `quoted` when written in double quotes,
  which makes it text when no column has the name. -/
  | column (table : Option String) (name : String) (quoted : Bool)
  /-- A unary operation. -/
  | unary (op : UnaryOp) (e : Expr)
  /-- A binary operation. -/
  | binary (op : BinaryOp) (a b : Expr)
  /-- Whether a value is null, or not. -/
  | isNull (e : Expr) (negated : Bool)
  /-- Whether a value lies between two bounds, or not. -/
  | between (e lo hi : Expr) (negated : Bool)
  /-- Membership in a list. -/
  | inList (e : Expr) (items : List Expr) (negated : Bool)
  /-- Membership in the rows of a query. -/
  | inQuery (e : Expr) (q : Select) (negated : Bool)
  /-- A pattern match, with an optional escape character. -/
  | pattern (op : MatchOp) (e pat : Expr) (escape : Option Expr) (negated : Bool)
  /-- A case expression: an optional operand, the branches and the fallback. -/
  | cases (operand : Option Expr) (branches : List (Expr × Expr)) (fallback : Option Expr)
  /-- A conversion to a declared type. -/
  | cast (e : Expr) (type : String)
  /-- A value compared with a named collation. -/
  | collate (e : Expr) (name : String)
  /-- A function call; `star` for `count(*)`. -/
  | call (name : String) (distinct : Bool) (args : List Expr) (star : Bool)
  /-- Whether a query has a row. -/
  | exists (q : Select)
  /-- The first value of the first row of a query. -/
  | scalar (q : Select)
  /-- A row of values. -/
  | row (items : List Expr)
  /-- Stops the trigger program. -/
  | raise (kind : RaiseKind) (message : String)
  /-- The current date, time or timestamp. -/
  | now (which : String)

/-- A query: a core, compound parts, the ordering and the window. -/
inductive Select where
  | mk (core : SelectCore) (compounds : List (CompoundOp × SelectCore)) (orderBy : List OrderTerm)
    (limit offset : Option Expr)

/-- The core of a query: a selection or a list of rows. -/
inductive SelectCore where
  /-- Rows of sources, filtered, grouped and projected. -/
  | select (distinct : Bool) (columns : List ResultColumn) (sources : List Source)
    (filter : Option Expr) (groupBy : List Expr) (having : Option Expr)
  /-- Literal rows. -/
  | values (rows : List (List Expr))

/-- A column of a query's result. -/
inductive ResultColumn where
  /-- Every column of every source. -/
  | star
  /-- Every column of a source. -/
  | tableStar (table : String)
  /-- An expression, with its alias and its text as written. -/
  | expr (e : Expr) (asName : Option String) (text : String)

/-- A source of rows in a query and how it joins the sources before it. -/
inductive Source where
  /-- A table, with an alias. -/
  | table (name : String) (asName : Option String) (join : JoinKind) (on : Option Expr)
    (usingCols : List String)
  /-- A query, with an alias. -/
  | query (q : Select) (asName : Option String) (join : JoinKind) (on : Option Expr)
    (usingCols : List String)

/-- A term of an ordering. -/
inductive OrderTerm where
  | mk (e : Expr) (descending : Bool) (nullsFirst : Option Bool)

end

instance : Inhabited Expr := ⟨.literal .null⟩

instance : Inhabited SelectCore := ⟨.values []⟩

instance : Inhabited Select := ⟨.mk (.values []) [] [] none none⟩

namespace Select

/-- A query of one core. -/
def ofCore (c : SelectCore) : Select := .mk c [] [] none none

/-- The core of a query. -/
def core : Select → SelectCore
  | .mk c _ _ _ _ => c

end Select

/-- What a statement does when a row breaks a unique or not-null rule. -/
inductive Conflict where
  | abort | fail | ignore | replace | rollback
deriving DecidableEq, Repr, Inhabited

/-- What a foreign key does to the rows referring to a deleted or changed row. -/
inductive KeyAction where
  /-- Nothing; the statement fails at its end if references are left dangling. -/
  | noAction
  /-- The statement fails at once. -/
  | restrict
  /-- The referring rows go too, or change with it. -/
  | cascade
  /-- The referring columns become null. -/
  | setNull
  /-- The referring columns take their defaults. -/
  | setDefault
deriving DecidableEq, Repr, Inhabited

/-- A foreign key: the referring columns and the table and columns referred to. -/
structure Reference where
  /-- The table referred to. -/
  table : String
  /-- The columns referred to; empty for the table's primary key. -/
  columns : List String
  /-- What deleting a referred row does. -/
  onDelete : KeyAction
  /-- What changing a referred key does. -/
  onUpdate : KeyAction
deriving Inhabited

/-- A check constraint: its name when given, its condition, and the condition's text as
written, which a failure names when the constraint has no name. -/
structure Check where
  /-- The name. -/
  name : Option String
  /-- The condition. -/
  condition : Expr
  /-- The condition as written. -/
  text : String
deriving Inhabited

/-- A column as a table is created with it. -/
structure ColumnSpec where
  /-- The name. -/
  name : String
  /-- The declared type, as written. -/
  type : String
  /-- Whether null is refused. -/
  notNull : Bool
  /-- Whether the column alone is the primary key. -/
  primaryKey : Bool
  /-- Whether the column alone is unique. -/
  unique : Bool
  /-- The default value. -/
  default : Option Expr
  /-- The collation of the column. -/
  collation : Option String
  /-- A foreign key of the column alone. -/
  reference : Option Reference
  /-- Check constraints of the column. -/
  checks : List Check
deriving Inhabited

/-- A constraint of a table as a whole. -/
inductive TableConstraint where
  /-- The primary key. -/
  | primaryKey (columns : List String)
  /-- A unique key. -/
  | unique (columns : List String)
  /-- A check. -/
  | check (c : Check)
  /-- A foreign key. -/
  | foreignKey (columns : List String) (ref : Reference)
deriving Inhabited

/-- When a trigger acts. -/
inductive TriggerTime where
  | before | after | insteadOf
deriving DecidableEq, Repr, Inhabited

/-- The change a trigger watches. -/
inductive TriggerEvent where
  | insert
  | delete
  /-- Updates; of the listed columns only when the list is not empty. -/
  | update (columns : List String)
deriving DecidableEq, Repr, Inhabited

/-- What an insertion does when it breaks the unique key of a conflict target. -/
inductive UpsertAction where
  /-- Leaves the row that is there. -/
  | nothing
  /-- Updates the row that is there. -/
  | update (sets : List (List String × Expr)) (filter : Option Expr)
deriving Inhabited

/-- A conflict clause of an insertion. -/
structure Upsert where
  /-- The columns of the unique key; none for any key. -/
  target : List String
  /-- What to do. -/
  action : UpsertAction
deriving Inhabited

/-- The rows an insertion inserts. -/
inductive InsertSource where
  /-- Literal rows. -/
  | values (rows : List (List Expr))
  /-- The rows of a query. -/
  | query (q : Select)
  /-- One row of defaults. -/
  | defaults
deriving Inhabited

/-- A kind of schema object. -/
inductive SchemaKind where
  | table | index | trigger | view
deriving DecidableEq, Repr, Inhabited

namespace SchemaKind

/-- The name of a kind as messages write it. -/
def name : SchemaKind → String
  | .table => "table"
  | .index => "index"
  | .trigger => "trigger"
  | .view => "view"

end SchemaKind

/-- A statement. -/
inductive Stmt where
  /-- A query. -/
  | select (q : Select)
  /-- An insertion into a table, of the listed columns or all of them. -/
  | insert (conflict : Conflict) (table : String) (columns : Option (List String))
    (source : InsertSource) (upserts : List Upsert)
  /-- An update of the rows a condition picks. -/
  | update (conflict : Conflict) (table : String) (sets : List (List String × Expr))
    (filter : Option Expr)
  /-- A deletion of the rows a condition picks. -/
  | delete (table : String) (filter : Option Expr)
  /-- Creates a table. -/
  | createTable (ifNotExists : Bool) (name : String) (columns : List ColumnSpec)
    (constraints : List TableConstraint)
  /-- Creates a table from a query's rows. -/
  | createTableAs (ifNotExists : Bool) (name : String) (q : Select)
  /-- Creates an index on columns of a table. -/
  | createIndex (unique ifNotExists : Bool) (name table : String) (columns : List String)
  /-- Creates a trigger. -/
  | createTrigger (ifNotExists : Bool) (name : String) (time : TriggerTime)
    (event : TriggerEvent) (table : String) (condition : Option Expr) (body : List Stmt)
  /-- Creates a view. -/
  | createView (ifNotExists : Bool) (name : String) (q : Select)
  /-- Drops a schema object. -/
  | drop (kind : SchemaKind) (ifExists : Bool) (name : String)
  /-- Renames a table. -/
  | renameTable (table new : String)
  /-- Renames a column. -/
  | renameColumn (table old new : String)
  /-- Adds a column. -/
  | addColumn (table : String) (col : ColumnSpec)
  /-- Drops a column. -/
  | dropColumn (table col : String)
  /-- Starts, ends or undoes a transaction; the connections here commit each statement. -/
  | transaction (word : String)
  /-- Reads or sets a setting of the connection. -/
  | pragma (name : String) (value : Option Expr)
  /-- A statement without effect on the rows, such as `VACUUM`. -/
  | other (word : String)
deriving Inhabited

end Sql

end MailStore
