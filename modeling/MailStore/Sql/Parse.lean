import MailStore.Sql.Syntax
import MailStore.Sql.Lex

/-!
# Reading statements

A recursive-descent reader of the statements the database runs. Expressions bind as the
database binds them, loosest first: `OR`; `AND`; `NOT`; equality and membership (`=`,
`!=`, `IS`, `IN`, `LIKE`, `GLOB`, `BETWEEN`, `ISNULL`, `NOTNULL`); order (`<`, `<=`, `>`,
`>=`); bitwise (`&`, `|`, `<<`, `>>`); `+` and `-`; `*`, `/` and `%`; `||`; `COLLATE`; and
the prefix operators `-`, `+` and `~`.

A text holds statements separated by semicolons. Each is read in turn, so a statement that
cannot be read stops the text there while those before it stand. A statement fails to read
with `near "X": syntax error` at the first token that cannot continue it, with
`incomplete input` when the text ends first, and with `unrecognized token: "X"` when it
reaches an illegal token. Parameters are numbered as the database numbers them: `?NNN` is
number `NNN`, a bare `?` is one more than the largest number so far, and a named parameter
takes the next number the first time it appears.
-/

namespace MailStore

namespace Sql

/-- Why a statement cannot be read. -/
inductive ParseError where
  /-- A token that cannot continue the statement. -/
  | near (text : String)
  /-- The text ended inside the statement. -/
  | incomplete
  /-- A token that is not one. -/
  | unrecognized (text : String)
  /-- Another reason, in the database's words. -/
  | message (text : String)
deriving DecidableEq, Repr, Inhabited

namespace ParseError

/-- The database's message for a reading failure. -/
def text : ParseError → String
  | .near t => "near \"" ++ t ++ "\": syntax error"
  | .incomplete => "incomplete input"
  | .unrecognized t => "unrecognized token: \"" ++ t ++ "\""
  | .message m => m

end ParseError

/-- The state of reading a statement: the tokens left, where the last token read ends, and
the parameters numbered so far. -/
structure Reading where
  /-- The tokens not yet read. -/
  tokens : List Token
  /-- The position after the last token read. -/
  lastStop : Nat
  /-- The largest parameter number so far. -/
  maxParam : Nat
  /-- The numbers of named parameters. -/
  named : List (String × Nat)
  /-- The statement text. -/
  source : List Char
deriving Inhabited

/-- Reading a statement. -/
abbrev Parser := StateT Reading (Except ParseError)

namespace Parser

/-- The words that cannot be names without quotes. -/
def reserved : List String :=
  ["ADD", "ALL", "ALTER", "AND", "AS", "AUTOINCREMENT", "BETWEEN", "CASE", "CHECK", "COLLATE",
   "COMMIT", "CONSTRAINT", "CREATE", "DEFAULT", "DEFERRABLE", "DELETE", "DISTINCT", "DROP",
   "ELSE", "ESCAPE", "EXCEPT", "EXISTS", "FOREIGN", "FROM", "GROUP", "HAVING", "IN", "INDEX",
   "INSERT", "INTERSECT", "INTO", "IS", "ISNULL", "JOIN", "LIMIT", "NOT", "NOTHING", "NOTNULL",
   "NULL", "ON", "OR", "ORDER", "PRIMARY", "REFERENCES", "RETURNING", "ROLLBACK", "SELECT",
   "SET", "TABLE", "THEN", "TO", "TRANSACTION", "UNION", "UNIQUE", "UPDATE", "USING", "VALUES",
   "WHEN", "WHERE", "WINDOW", "CURRENT_DATE", "CURRENT_TIME", "CURRENT_TIMESTAMP"]

/-- The failure at the next token: near it, or the text ended. -/
def fail {α : Type} : Parser α := do
  match (← get).tokens with
  | t :: _ =>
    if t.kind == .illegal then throw (.unrecognized t.text)
    else if t.isOp ";" then throw (.near ";")
    else throw (.near t.text)
  | [] => throw .incomplete

/-- The next token without reading it; none at the end of the statement. An illegal token
fails here. -/
def peek : Parser (Option Token) := do
  match (← get).tokens with
  | t :: _ =>
    if t.kind == .illegal then throw (.unrecognized t.text)
    else if t.isOp ";" then pure none
    else pure (some t)
  | [] => pure none

/-- The token after the next one. -/
def peek2 : Parser (Option Token) := do
  match (← get).tokens with
  | _ :: t :: _ => if t.isOp ";" ∨ t.kind == .illegal then pure none else pure (some t)
  | _ => pure none

/-- Reads the next token. -/
def advance : Parser Token := do
  match ← peek with
  | some t =>
    modify fun s => { s with tokens := s.tokens.drop 1, lastStop := t.stop }
    pure t
  | none => fail

/-- Whether the next token is a keyword. -/
def atWord (k : String) : Parser Bool := do
  match ← peek with
  | some t => pure (t.isWord k)
  | none => pure false

/-- Whether the next token is an operator. -/
def atOp (o : String) : Parser Bool := do
  match ← peek with
  | some t => pure (t.isOp o)
  | none => pure false

/-- Reads a keyword that must come next. -/
def word (k : String) : Parser Unit := do
  if ← atWord k then discard advance else fail

/-- Reads an operator that must come next. -/
def op (o : String) : Parser Unit := do
  if ← atOp o then discard advance else fail

/-- Reads the semicolon that ends a statement of a trigger's body. -/
def semicolon : Parser Unit := do
  match (← get).tokens with
  | t :: rest =>
    if t.isOp ";" then modify fun s => { s with tokens := rest, lastStop := t.stop }
    else fail
  | [] => fail

/-- Reads a keyword when it comes next. -/
def optWord (k : String) : Parser Bool := do
  if ← atWord k then
    discard advance
    pure true
  else pure false

/-- Reads an operator when it comes next. -/
def optOp (o : String) : Parser Bool := do
  if ← atOp o then
    discard advance
    pure true
  else pure false

/-- Reads keywords that must come next. -/
def words : List String → Parser Unit
  | [] => pure ()
  | k :: ks => do
    word k
    words ks

/-- Whether a token can be a name. -/
def isName (t : Token) : Bool :=
  match t.kind with
  | .word => !reserved.contains t.text.toUpper
  | .quoted | .bracketed | .string => true
  | _ => false

/-- Reads a name. -/
def name : Parser String := do
  match ← peek with
  | some t => if isName t then do discard advance; pure t.value else fail
  | none => fail

/-- Reads a name that may carry its schema (`main.props`), kept as one name. -/
def qualifiedName : Parser String := do
  let n ← name
  if ← atOp "." then
    discard advance
    let m ← name
    pure (n ++ "." ++ m)
  else pure n

/-- Names separated by commas, at most `fuel` of them. -/
def nameList : Nat → Parser (List String)
  | 0 => fail
  | fuel + 1 => do
    let n ← name
    if ← optOp "," then pure (n :: (← nameList fuel)) else pure [n]

/-- Names in parentheses, each optionally followed by a collation and a direction. -/
def indexedNames (fuel : Nat) : Parser (List String) := do
  op "("
  let rec loop : Nat → Parser (List String)
    | 0 => fail
    | f + 1 => do
      let n ← name
      if ← optWord "COLLATE" then discard name
      discard (optWord "ASC")
      discard (optWord "DESC")
      if ← optOp "," then pure (n :: (← loop f)) else pure [n]
  let ns ← loop fuel
  op ")"
  pure ns

/-- The text between two positions of the statement. -/
def span (start stop : Nat) : Parser String := do
  let s ← get
  pure (String.ofList ((s.source.drop start).take (stop - start)))

/-- The number of a parameter token. -/
def paramNumber (t : Token) : Parser Nat := do
  let s ← get
  if t.text = "?" then
    let n := s.maxParam + 1
    set { s with maxParam := n }
    pure n
  else if t.text.startsWith "?" then
    let n := (t.text.drop 1).toString.toNat!
    if n = 0 ∨ n > 32766 then
      throw (.message ("variable number must be between ?1 and ?32766"))
    set { s with maxParam := max s.maxParam n }
    pure n
  else
    match s.named.lookup t.text with
    | some n => pure n
    | none =>
      let n := s.maxParam + 1
      set { s with maxParam := n, named := (t.text, n) :: s.named }
      pure n

/-- The value of a hexadecimal digit. -/
def hexDigitValue (c : Char) : Nat :=
  if c.isDigit then c.toNat - 48
  else if 'a' ≤ c ∧ c ≤ 'f' then c.toNat - 87
  else c.toNat - 55

/-- The value of an integer literal: decimal that fits 64 bits, or the double of a larger
one; hexadecimal of up to 16 significant digits as a 64-bit pattern. -/
def integerLiteral (text : String) : Except ParseError Value :=
  if text.startsWith "0x" ∨ text.startsWith "0X" then
    let digits := (text.toList.drop 2).dropWhile (· = '0')
    if digits.length > 16 then .error (.message ("hex literal too big: " ++ text))
    else
      let v := digits.foldl (fun n c => 16 * n + hexDigitValue c) 0
      .ok (.integer (if v ≥ Nat.pow 2 63 then (v : Int) - Int.pow 2 64 else v))
  else
    let n := readNumeral (Text.ofString text).bytes
    let v : Int := n.mantissa
    if fits v then .ok (.integer v) else .ok (.real n.toReal)

/-- The value of a decimal literal with a fraction or an exponent. -/
def floatLiteral (text : String) : Value := .real (readNumeral (Text.ofString text).bytes).toReal

/-- The bytes of a byte literal's digits. -/
def blobLiteral (digits : String) : Bytes :=
  let rec pairs : List Char → Bytes
    | a :: b :: rest => (16 * hexDigitValue a + hexDigitValue b).toUInt8 :: pairs rest
    | _ => []
  pairs digits.toList

/-- Reads a type name: words, with an optional size in parentheses. -/
def typeName (fuel : Nat) : Parser String := do
  let stops := ["CONSTRAINT", "PRIMARY", "NOT", "NULL", "UNIQUE", "CHECK", "DEFAULT",
    "COLLATE", "REFERENCES", "GENERATED", "AS"]
  let rec ws : Nat → Parser (List String)
    | 0 => pure []
    | f + 1 => do
      match ← peek with
      | some t =>
        if (t.kind == .word ∨ t.kind == .quoted ∨ t.kind == .string) ∧
            !stops.contains t.text.toUpper then do
          discard advance
          pure (t.value :: (← ws f))
        else pure []
      | none => pure []
  let parts ← ws fuel
  if parts.isEmpty then return ""
  let base := " ".intercalate parts
  if ← atOp "(" then
    let start := (← get).lastStop
    discard advance
    let rec upTo : Nat → Parser Unit
      | 0 => fail
      | f + 1 => do
        let t ← advance
        if t.isOp ")" then pure () else upTo f
    upTo fuel
    let stop := (← get).lastStop
    let size ← span start stop
    pure (base ++ size.trimAsciiStart.toString)
  else pure base

/-- Reads a conflict clause, `ON CONFLICT` and a resolution, when one comes next. -/
def conflictClause : Parser Unit := do
  if (← atWord "ON") then
    match ← peek2 with
    | some t =>
      if t.isWord "CONFLICT" then
        discard advance
        discard advance
        discard name
    | none => pure ()

/-- The action a foreign key takes. -/
def keyAction : Parser KeyAction := do
  if ← optWord "SET" then
    if ← optWord "NULL" then pure .setNull else do word "DEFAULT"; pure .setDefault
  else if ← optWord "CASCADE" then pure .cascade
  else if ← optWord "RESTRICT" then pure .restrict
  else do
    word "NO"
    word "ACTION"
    pure .noAction

/-- Reads the clauses of a foreign key after `REFERENCES`. -/
def reference (fuel : Nat) : Parser Reference := do
  let table ← name
  let cols ← if ← atOp "(" then indexedNames fuel else pure []
  let rec clauses : Nat → Reference → Parser Reference
    | 0, r => pure r
    | f + 1, r => do
      if ← atWord "ON" then
        discard advance
        if ← optWord "DELETE" then
          let a ← keyAction
          clauses f { r with onDelete := a }
        else do
          word "UPDATE"
          let a ← keyAction
          clauses f { r with onUpdate := a }
      else if ← optWord "MATCH" then
        discard name
        clauses f r
      else if ← atWord "NOT" then
        match ← peek2 with
        | some t =>
          if t.isWord "DEFERRABLE" then
            discard advance
            discard advance
            if ← optWord "INITIALLY" then discard advance
            clauses f r
          else pure r
        | none => pure r
      else if ← optWord "DEFERRABLE" then
        if ← optWord "INITIALLY" then discard advance
        clauses f r
      else pure r
  clauses fuel ⟨table, cols, .noAction, .noAction⟩

/-- The words that end a source's alias: joins and index hints. -/
def aliasStops : List String :=
  ["LEFT", "RIGHT", "FULL", "INNER", "CROSS", "NATURAL", "OUTER", "INDEXED"]

/-- Whether a token can be an alias written without `AS`. -/
def isAlias (t : Token) : Bool := isName t && !aliasStops.contains t.text.toUpper

/-- Whether the next token starts a query. -/
def atQuery : Parser Bool := do
  pure ((← atWord "SELECT") || (← atWord "VALUES") || (← atWord "WITH"))

/-- The alias of a source, with or without `AS`. -/
def sourceAlias : Parser (Option String) := do
  if ← optWord "AS" then pure (some (← name))
  else
    match ← peek with
    | some t =>
      if isAlias t then
        discard advance
        pure (some t.value)
      else pure none
    | none => pure none

mutual

/-- An expression: terms joined by `OR`. -/
def expr : Nat → Parser Expr
  | 0 => fail
  | f + 1 => do orRest f (← andExpr f)

/-- The `OR` terms after the first. -/
def orRest : Nat → Expr → Parser Expr
  | 0, _ => fail
  | f + 1, a => do
    if ← optWord "OR" then orRest f (.binary .or a (← andExpr f)) else pure a

/-- Terms joined by `AND`. -/
def andExpr : Nat → Parser Expr
  | 0 => fail
  | f + 1 => do andRest f (← notExpr f)

/-- The `AND` terms after the first. -/
def andRest : Nat → Expr → Parser Expr
  | 0, _ => fail
  | f + 1, a => do
    if ← optWord "AND" then andRest f (.binary .and a (← notExpr f)) else pure a

/-- A negation, or an equality-level term. -/
def notExpr : Nat → Parser Expr
  | 0 => fail
  | f + 1 => do
    if ← optWord "NOT" then pure (.unary .not (← notExpr f)) else eqExpr f

/-- Equality and membership. -/
def eqExpr : Nat → Parser Expr
  | 0 => fail
  | f + 1 => do eqRest f (← cmpExpr f)

/-- The equality-level operators after a term. -/
def eqRest : Nat → Expr → Parser Expr
  | 0, _ => fail
  | f + 1, a => do
    match ← peek with
    | none => pure a
    | some t =>
      if t.isOp "=" then
        discard advance
        eqRest f (.binary .eq a (← cmpExpr f))
      else if t.isOp "!=" then
        discard advance
        eqRest f (.binary .ne a (← cmpExpr f))
      else if t.isWord "IS" then
        discard advance
        let negated ← optWord "NOT"
        if ← optWord "DISTINCT" then
          word "FROM"
          let b ← cmpExpr f
          eqRest f (.binary (if negated then .is else .isNot) a b)
        else
          let b ← cmpExpr f
          eqRest f (.binary (if negated then .isNot else .is) a b)
      else if t.isWord "ISNULL" then
        discard advance
        eqRest f (.isNull a false)
      else if t.isWord "NOTNULL" then
        discard advance
        eqRest f (.isNull a true)
      else if t.isWord "NOT" then
        match ← peek2 with
        | some u =>
          if u.isWord "NULL" then
            discard advance
            discard advance
            eqRest f (.isNull a true)
          else if u.isWord "IN" ∨ u.isWord "LIKE" ∨ u.isWord "GLOB" ∨ u.isWord "BETWEEN" then
            discard advance
            eqRest f (← membership f a true)
          else pure a
        | none => pure a
      else if t.isWord "IN" ∨ t.isWord "LIKE" ∨ t.isWord "GLOB" ∨ t.isWord "BETWEEN" then
        eqRest f (← membership f a false)
      else pure a

/-- `IN`, `LIKE`, `GLOB` or `BETWEEN` after a term, its `NOT` already read. -/
def membership : Nat → Expr → Bool → Parser Expr
  | 0, _, _ => fail
  | f + 1, a, negated => do
    let t ← advance
    if t.isWord "IN" then
      if ← optOp "(" then
        if ← optOp ")" then pure (.inList a [] negated)
        else if ← atQuery then
          let q ← select f
          op ")"
          pure (.inQuery a q negated)
        else
          let items ← exprList f
          op ")"
          pure (.inList a items negated)
      else
        let table ← qualifiedName
        pure (.inQuery a (Select.ofCore (.select false [.star] [.table table none .inner none []]
          none [] none)) negated)
    else if t.isWord "BETWEEN" then
      let lo ← cmpExpr f
      word "AND"
      let hi ← cmpExpr f
      pure (.between a lo hi negated)
    else
      let kind := if t.isWord "GLOB" then MatchOp.glob else MatchOp.like
      let pat ← cmpExpr f
      let esc ← if ← optWord "ESCAPE" then some <$> cmpExpr f else pure none
      pure (.pattern kind a pat esc negated)

/-- Order comparisons. -/
def cmpExpr : Nat → Parser Expr
  | 0 => fail
  | f + 1 => do cmpRest f (← bitExpr f)

/-- The order comparisons after a term. -/
def cmpRest : Nat → Expr → Parser Expr
  | 0, _ => fail
  | f + 1, a => do
    match ← peek with
    | some t =>
      let found := [("<", BinaryOp.lt), ("<=", .le), (">", .gt), (">=", .ge)].find? fun (o, _) =>
        t.isOp o
      match found with
      | some (_, o) =>
        discard advance
        cmpRest f (.binary o a (← bitExpr f))
      | none => pure a
    | none => pure a

/-- Bitwise operations. -/
def bitExpr : Nat → Parser Expr
  | 0 => fail
  | f + 1 => do bitRest f (← addExpr f)

/-- The bitwise operations after a term. -/
def bitRest : Nat → Expr → Parser Expr
  | 0, _ => fail
  | f + 1, a => do
    match ← peek with
    | some t =>
      let found := [("&", BinaryOp.bitAnd), ("|", .bitOr), ("<<", .shiftLeft),
        (">>", .shiftRight)].find? fun (o, _) => t.isOp o
      match found with
      | some (_, o) =>
        discard advance
        bitRest f (.binary o a (← addExpr f))
      | none => pure a
    | none => pure a

/-- Sums and differences. -/
def addExpr : Nat → Parser Expr
  | 0 => fail
  | f + 1 => do addRest f (← mulExpr f)

/-- The sums and differences after a term. -/
def addRest : Nat → Expr → Parser Expr
  | 0, _ => fail
  | f + 1, a => do
    if ← optOp "+" then addRest f (.binary .add a (← mulExpr f))
    else if ← optOp "-" then addRest f (.binary .sub a (← mulExpr f))
    else pure a

/-- Products, quotients and remainders. -/
def mulExpr : Nat → Parser Expr
  | 0 => fail
  | f + 1 => do mulRest f (← catExpr f)

/-- The products, quotients and remainders after a term. -/
def mulRest : Nat → Expr → Parser Expr
  | 0, _ => fail
  | f + 1, a => do
    if ← optOp "*" then mulRest f (.binary .mul a (← catExpr f))
    else if ← optOp "/" then mulRest f (.binary .div a (← catExpr f))
    else if ← optOp "%" then mulRest f (.binary .rem a (← catExpr f))
    else pure a

/-- Concatenations. -/
def catExpr : Nat → Parser Expr
  | 0 => fail
  | f + 1 => do catRest f (← collateExpr f)

/-- The concatenations after a term. -/
def catRest : Nat → Expr → Parser Expr
  | 0, _ => fail
  | f + 1, a => do
    if ← optOp "||" then catRest f (.binary .concat a (← collateExpr f)) else pure a

/-- A term with collations. -/
def collateExpr : Nat → Parser Expr
  | 0 => fail
  | f + 1 => do collateRest f (← unaryExpr f)

/-- The collations after a term. -/
def collateRest : Nat → Expr → Parser Expr
  | 0, _ => fail
  | f + 1, a => do
    if ← optWord "COLLATE" then collateRest f (.collate a (← name)) else pure a

/-- A term with prefix operators. -/
def unaryExpr : Nat → Parser Expr
  | 0 => fail
  | f + 1 => do
    if ← optOp "-" then
      match ← peek with
      | some t =>
        if t.kind == .integer ∧ t.text = "9223372036854775808" then
          discard advance
          pure (.literal (.integer minInt))
        else pure (.unary .negate (← unaryExpr f))
      | none => pure (.unary .negate (← unaryExpr f))
    else if ← optOp "+" then pure (.unary .plus (← unaryExpr f))
    else if ← optOp "~" then pure (.unary .bitNot (← unaryExpr f))
    else primary f

/-- A primary term: a literal, a parameter, a column, a call, a parenthesized expression, a
row, a query, a cast, a case, `EXISTS`, `RAISE` or the current time. -/
def primary : Nat → Parser Expr
  | 0 => fail
  | f + 1 => do
    let some t ← peek | fail
    match t.kind with
    | .integer =>
      discard advance
      match integerLiteral t.text with
      | .ok v => pure (.literal v)
      | .error e => throw e
    | .float =>
      discard advance
      pure (.literal (floatLiteral t.text))
    | .string =>
      discard advance
      pure (.literal (.ofString t.value))
    | .blob =>
      discard advance
      pure (.literal (.blob (blobLiteral t.value)))
    | .variable =>
      discard advance
      pure (.param (← paramNumber t))
    | .op =>
      if t.isOp "(" then
        discard advance
        if ← atQuery then
          let q ← select f
          op ")"
          pure (.scalar q)
        else
          let items ← exprList f
          op ")"
          match items with
          | [e] => pure e
          | _ => pure (.row items)
      else fail
    | .quoted | .bracketed =>
      discard advance
      columnOrCall f t
    | .word =>
      let k := t.text.toUpper
      if k = "NULL" then
        discard advance
        pure (.literal .null)
      else if k = "CURRENT_TIMESTAMP" ∨ k = "CURRENT_DATE" ∨ k = "CURRENT_TIME" then
        discard advance
        pure (.now k)
      else if k = "CAST" then
        discard advance
        op "("
        let e ← expr f
        word "AS"
        let ty ← typeName (f + 1)
        op ")"
        pure (.cast e ty)
      else if k = "CASE" then
        discard advance
        let operand ← if ← atWord "WHEN" then pure none else some <$> expr f
        let branches ← caseBranches f
        let fallback ← if ← optWord "ELSE" then some <$> expr f else pure none
        word "END"
        pure (.cases operand branches fallback)
      else if k = "EXISTS" then
        discard advance
        op "("
        let q ← select f
        op ")"
        pure (.exists q)
      else if k = "RAISE" then
        discard advance
        op "("
        if ← optWord "IGNORE" then
          op ")"
          pure (.raise .ignore "")
        else
          let kind ← if ← optWord "ROLLBACK" then pure RaiseKind.rollback
            else if ← optWord "ABORT" then pure RaiseKind.abort
            else do word "FAIL"; pure RaiseKind.fail
          op ","
          let some m ← peek | fail
          if m.kind != .string then fail
          discard advance
          op ")"
          pure (.raise kind m.value)
      else if isName t then
        discard advance
        columnOrCall f t
      else fail
    | _ => fail

/-- A column, a qualified column or a function call after its first name. -/
def columnOrCall : Nat → Token → Parser Expr
  | 0, _ => fail
  | f + 1, t => do
    if ← atOp "(" then
      discard advance
      if ← optOp "*" then
        op ")"
        pure (.call t.value false [] true)
      else if ← optOp ")" then pure (.call t.value false [] false)
      else
        let distinct ← optWord "DISTINCT"
        if !distinct then discard (optWord "ALL")
        let args ← exprList f
        op ")"
        pure (.call t.value distinct args false)
    else if ← atOp "." then
      discard advance
      let c ← name
      if ← atOp "." then
        discard advance
        let d ← name
        pure (.column (some c) d false)
      else pure (.column (some t.value) c false)
    else pure (.column none t.value (t.kind == .quoted))

/-- Expressions separated by commas. -/
def exprList : Nat → Parser (List Expr)
  | 0 => fail
  | f + 1 => do
    let e ← expr f
    if ← optOp "," then pure (e :: (← exprList f)) else pure [e]

/-- The `WHEN … THEN …` branches of a case. -/
def caseBranches : Nat → Parser (List (Expr × Expr))
  | 0 => fail
  | f + 1 => do
    word "WHEN"
    let c ← expr f
    word "THEN"
    let v ← expr f
    if ← atWord "WHEN" then pure ((c, v) :: (← caseBranches f)) else pure [(c, v)]

/-- A query. -/
def select : Nat → Parser Select
  | 0 => fail
  | f + 1 => do
    let core ← selectCore f
    let compounds ← compoundRest f
    let orderBy ← if ← optWord "ORDER" then do word "BY"; orderTerms f else pure []
    let (limit, offset) ← if ← optWord "LIMIT" then do
        let a ← expr f
        if ← optWord "OFFSET" then pure (some a, some (← expr f))
        else if ← optOp "," then pure (some (← expr f), some a)
        else pure (some a, none)
      else pure (none, none)
    pure (.mk core compounds orderBy limit offset)

/-- The compound parts of a query after its first core. -/
def compoundRest : Nat → Parser (List (CompoundOp × SelectCore))
  | 0 => fail
  | f + 1 => do
    let opKind ← if ← optWord "UNION" then
        if ← optWord "ALL" then pure (some CompoundOp.unionAll) else pure (some CompoundOp.union)
      else if ← optWord "INTERSECT" then pure (some CompoundOp.intersect)
      else if ← optWord "EXCEPT" then pure (some CompoundOp.except)
      else pure none
    match opKind with
    | some o =>
      let c ← selectCore f
      pure ((o, c) :: (← compoundRest f))
    | none => pure []

/-- The core of a query: a selection or literal rows. -/
def selectCore : Nat → Parser SelectCore
  | 0 => fail
  | f + 1 => do
    if ← optWord "VALUES" then
      pure (.values (← valueRows f))
    else
      word "SELECT"
      let distinct ← optWord "DISTINCT"
      if !distinct then discard (optWord "ALL")
      let columns ← resultColumns f
      let sources ← if ← optWord "FROM" then sourceList f else pure []
      let filter ← if ← optWord "WHERE" then some <$> expr f else pure none
      let groupBy ← if ← optWord "GROUP" then do word "BY"; exprList f else pure []
      let having ← if ← optWord "HAVING" then some <$> expr f else pure none
      pure (.select distinct columns sources filter groupBy having)

/-- Rows of values in parentheses, separated by commas. -/
def valueRows : Nat → Parser (List (List Expr))
  | 0 => fail
  | f + 1 => do
    op "("
    let row ← exprList f
    op ")"
    if ← optOp "," then pure (row :: (← valueRows f)) else pure [row]

/-- The result columns of a selection. -/
def resultColumns : Nat → Parser (List ResultColumn)
  | 0 => fail
  | f + 1 => do
    let col ← if ← optOp "*" then pure ResultColumn.star
      else
        let t? ← peek
        let t2? ← peek2
        match t?, t2? with
        | some t, some u =>
          if isName t ∧ u.isOp "." then
            match (← get).tokens with
            | _ :: _ :: v :: _ =>
              if v.isOp "*" then
                discard advance
                discard advance
                discard advance
                pure (ResultColumn.tableStar t.value)
              else resultExpr f
            | _ => resultExpr f
          else resultExpr f
        | _, _ => resultExpr f
    if ← optOp "," then pure (col :: (← resultColumns f)) else pure [col]

/-- A result column that is an expression, with its alias and text. -/
def resultExpr : Nat → Parser ResultColumn
  | 0 => fail
  | f + 1 => do
    let some first ← peek | fail
    let e ← expr f
    let stop := (← get).lastStop
    let text ← span first.start stop
    if ← optWord "AS" then pure (.expr e (some (← name)) text)
    else
      match ← peek with
      | some t =>
        if isAlias t then
          discard advance
          pure (.expr e (some t.value) text)
        else pure (.expr e none text)
      | none => pure (.expr e none text)

/-- The sources of a selection and their joins. -/
def sourceList : Nat → Parser (List Source)
  | 0 => fail
  | f + 1 => do
    let first ← source f .inner
    pure (first :: (← joins f))

/-- The joins after the first source. -/
def joins : Nat → Parser (List Source)
  | 0 => fail
  | f + 1 => do
    if ← optOp "," then
      let s ← source f .inner
      pure (s :: (← joins f))
    else
      discard (optWord "NATURAL")
      let kind ← if ← optWord "LEFT" then do discard (optWord "OUTER"); pure (some JoinKind.left)
        else if ← optWord "INNER" then pure (some JoinKind.inner)
        else if ← optWord "CROSS" then pure (some JoinKind.inner)
        else if ← atWord "JOIN" then pure (some JoinKind.inner)
        else pure none
      match kind with
      | some k =>
        word "JOIN"
        let s ← source f k
        pure (s :: (← joins f))
      | none => pure []

/-- One source with its alias and join condition. -/
def source : Nat → JoinKind → Parser Source
  | 0, _ => fail
  | f + 1, kind => do
    if ← optOp "(" then
      let q ← select f
      op ")"
      let asName ← sourceAlias
      let (on, usingCols) ← joinCondition f
      pure (.query q asName kind on usingCols)
    else
      let table ← qualifiedName
      let asName ← sourceAlias
      if ← optWord "INDEXED" then
        word "BY"
        discard name
      else if ← atWord "NOT" then
        discard advance
        word "INDEXED"
      let (on, usingCols) ← joinCondition f
      pure (.table table asName kind on usingCols)

/-- The `ON` or `USING` clause of a join. -/
def joinCondition : Nat → Parser (Option Expr × List String)
  | 0 => fail
  | f + 1 => do
    if ← optWord "ON" then pure (some (← expr f), [])
    else if ← optWord "USING" then
      op "("
      let cols ← nameList f
      op ")"
      pure (none, cols)
    else pure (none, [])

/-- The terms of an ordering. -/
def orderTerms : Nat → Parser (List OrderTerm)
  | 0 => fail
  | f + 1 => do
    let e ← expr f
    let desc ← if ← optWord "DESC" then pure true else do discard (optWord "ASC"); pure false
    let nulls ← if ← optWord "NULLS" then
        if ← optWord "FIRST" then pure (some true) else do word "LAST"; pure (some false)
      else pure none
    let t := OrderTerm.mk e desc nulls
    if ← optOp "," then pure (t :: (← orderTerms f)) else pure [t]

end

/-! ### Statements -/

/-- A conflict resolution after `OR`. -/
def conflictWord : Parser Conflict := do
  if ← optWord "ROLLBACK" then pure .rollback
  else if ← optWord "ABORT" then pure .abort
  else if ← optWord "FAIL" then pure .fail
  else if ← optWord "IGNORE" then pure .ignore
  else do word "REPLACE"; pure .replace

/-- Assignments `column = value` (or a row of columns and a value) separated by commas. -/
def assignments : Nat → Parser (List (List String × Expr))
  | 0 => fail
  | f + 1 => do
    let cols ← if ← optOp "(" then do
        let ns ← nameList f
        op ")"
        pure ns
      else pure [← name]
    op "="
    let e ← expr f
    if ← optOp "," then pure ((cols, e) :: (← assignments f)) else pure [(cols, e)]

/-- The conflict clauses of an insertion, at most `fuel` of them. -/
def upserts : Nat → Parser (List Upsert)
  | 0 => pure []
  | f + 1 => do
    if !(← atWord "ON") then return []
    discard advance
    word "CONFLICT"
    let target ← if ← atOp "(" then indexedNames f else pure []
    if target.length > 0 ∧ (← optWord "WHERE") then discard (expr f)
    word "DO"
    let action ← if ← optWord "NOTHING" then pure UpsertAction.nothing
      else do
        word "UPDATE"
        word "SET"
        let sets ← assignments f
        let filter ← if ← optWord "WHERE" then some <$> expr f else pure none
        pure (UpsertAction.update sets filter)
    pure (⟨target, action⟩ :: (← upserts f))

/-- An insertion after `INSERT [OR …]` or `REPLACE`. -/
def insertBody (f : Nat) (conflict : Conflict) : Parser Stmt := do
  word "INTO"
  let table ← qualifiedName
  if ← optWord "AS" then discard name
  let cols ← if ← atOp "(" then do
      discard advance
      let ns ← nameList f
      op ")"
      pure (some ns)
    else pure none
  let source ← if ← optWord "DEFAULT" then do word "VALUES"; pure InsertSource.defaults
    else if ← atWord "VALUES" then
      discard advance
      pure (InsertSource.values (← valueRows f))
    else pure (InsertSource.query (← select f))
  let ups ← upserts f
  pure (.insert conflict table cols source ups)

/-- An update after `UPDATE`. -/
def updateBody (f : Nat) : Parser Stmt := do
  let conflict ← if ← optWord "OR" then conflictWord else pure .abort
  let table ← qualifiedName
  if ← optWord "AS" then discard name
  if ← optWord "INDEXED" then
    word "BY"
    discard name
  word "SET"
  let sets ← assignments f
  let filter ← if ← optWord "WHERE" then some <$> expr f else pure none
  pure (.update conflict table sets filter)

/-- A deletion after `DELETE`. -/
def deleteBody (f : Nat) : Parser Stmt := do
  word "FROM"
  let table ← qualifiedName
  if ← optWord "AS" then discard name
  if ← optWord "INDEXED" then
    word "BY"
    discard name
  let filter ← if ← optWord "WHERE" then some <$> expr f else pure none
  pure (.delete table filter)

/-- The default of a column: a signed number, a literal, an expression in parentheses, a
current time, or a bare name taken as text. -/
def defaultValue (f : Nat) : Parser Expr := do
  if ← optOp "(" then
    let e ← expr f
    op ")"
    pure e
  else if ← optOp "-" then pure (.unary .negate (← primary f))
  else if ← optOp "+" then primary f
  else
    match ← peek with
    | some t =>
      if t.kind == .word ∧ isName t ∧ t.text.toUpper != "TRUE" ∧ t.text.toUpper != "FALSE" then
        discard advance
        pure (.literal (.ofString t.value))
      else primary f
    | none => fail

/-- A check constraint's condition in parentheses, with its text as written. -/
def checkBody (f : Nat) (cname : Option String) : Parser Check := do
  op "("
  let start := (← get).lastStop
  let e ← expr f
  let r ← get
  let stop := match r.tokens with
    | t :: _ => t.start
    | [] => r.lastStop
  op ")"
  let text ← span start stop
  let trimmed := ((text.toList.dropWhile Char.isWhitespace).reverse.dropWhile Char.isWhitespace).reverse
  pure ⟨cname, e, String.ofList trimmed⟩

/-- The constraints of a column, at most `fuel` of them. -/
def columnConstraints : Nat → ColumnSpec → Parser ColumnSpec
  | 0, c => pure c
  | f + 1, c => do
    let cname ← if ← optWord "CONSTRAINT" then some <$> name else pure none
    if ← optWord "PRIMARY" then
      word "KEY"
      discard (optWord "ASC")
      discard (optWord "DESC")
      conflictClause
      discard (optWord "AUTOINCREMENT")
      columnConstraints f { c with primaryKey := true }
    else if ← optWord "NOT" then
      word "NULL"
      conflictClause
      columnConstraints f { c with notNull := true }
    else if ← optWord "NULL" then
      conflictClause
      columnConstraints f c
    else if ← optWord "UNIQUE" then
      conflictClause
      columnConstraints f { c with unique := true }
    else if ← optWord "CHECK" then
      let ch ← checkBody f cname
      columnConstraints f { c with checks := c.checks ++ [ch] }
    else if ← optWord "DEFAULT" then
      columnConstraints f { c with default := some (← defaultValue f) }
    else if ← optWord "COLLATE" then
      columnConstraints f { c with collation := some (← name) }
    else if ← optWord "REFERENCES" then
      columnConstraints f { c with reference := some (← reference f) }
    else if (← atWord "GENERATED") ∨ (← atWord "AS") then
      throw (.message "generated columns are not supported")
    else pure c

/-- A column definition. -/
def columnSpec (f : Nat) : Parser ColumnSpec := do
  let n ← name
  let ty ← typeName f
  columnConstraints f ⟨n, ty, false, false, false, none, none, none, []⟩

/-- Whether the next token starts a table constraint. -/
def atTableConstraint : Parser Bool := do
  pure ((← atWord "CONSTRAINT") || (← atWord "PRIMARY") || (← atWord "UNIQUE") ||
    (← atWord "CHECK") || (← atWord "FOREIGN"))

/-- A table constraint. -/
def tableConstraint (f : Nat) : Parser TableConstraint := do
  let cname ← if ← optWord "CONSTRAINT" then some <$> name else pure none
  if ← optWord "PRIMARY" then
    word "KEY"
    let cols ← indexedNames f
    conflictClause
    pure (.primaryKey cols)
  else if ← optWord "UNIQUE" then
    let cols ← indexedNames f
    conflictClause
    pure (.unique cols)
  else if ← optWord "CHECK" then pure (.check (← checkBody f cname))
  else
    word "FOREIGN"
    word "KEY"
    op "("
    let cols ← nameList f
    op ")"
    word "REFERENCES"
    pure (.foreignKey cols (← reference f))

/-- The columns and constraints of a table, at most `fuel` of them. -/
def tableItems : Nat → Parser (List ColumnSpec × List TableConstraint)
  | 0 => fail
  | f + 1 => do
    if ← atTableConstraint then
      let c ← tableConstraint f
      if ← optOp "," then
        let (cols, cons) ← tableItems f
        pure (cols, c :: cons)
      else pure ([], [c])
    else
      let col ← columnSpec f
      if ← optOp "," then
        let (cols, cons) ← tableItems f
        pure (col :: cols, cons)
      else pure ([col], [])

/-- Whether the next words are `IF NOT EXISTS`. -/
def ifNotExists : Parser Bool := do
  if ← atWord "IF" then
    words ["IF", "NOT", "EXISTS"]
    pure true
  else pure false

/-- Whether the next words are `IF EXISTS`. -/
def ifExists : Parser Bool := do
  if ← atWord "IF" then
    words ["IF", "EXISTS"]
    pure true
  else pure false

/-- A statement of a trigger's body. -/
def triggerStatement (f : Nat) : Parser Stmt := do
  if ← optWord "INSERT" then
    let conflict ← if ← optWord "OR" then conflictWord else pure .abort
    insertBody f conflict
  else if ← optWord "REPLACE" then insertBody f .replace
  else if ← optWord "UPDATE" then updateBody f
  else if ← optWord "DELETE" then deleteBody f
  else pure (.select (← select f))

/-- The statements of a trigger's body up to `END`, at most `fuel` of them. -/
def triggerBody : Nat → Parser (List Stmt)
  | 0 => fail
  | f + 1 => do
    let st ← triggerStatement f
    semicolon
    if ← optWord "END" then pure [st] else pure (st :: (← triggerBody f))

/-- A trigger after `CREATE TRIGGER`. -/
def triggerBodyStmt (f : Nat) : Parser Stmt := do
  let ine ← ifNotExists
  let n ← qualifiedName
  let time ← if ← optWord "BEFORE" then pure TriggerTime.before
    else if ← optWord "AFTER" then pure TriggerTime.after
    else if ← optWord "INSTEAD" then do word "OF"; pure TriggerTime.insteadOf
    else pure TriggerTime.before
  let event ← if ← optWord "INSERT" then pure TriggerEvent.insert
    else if ← optWord "DELETE" then pure TriggerEvent.delete
    else do
      word "UPDATE"
      if ← optWord "OF" then pure (TriggerEvent.update (← nameList f))
      else pure (TriggerEvent.update [])
  word "ON"
  let table ← qualifiedName
  if ← optWord "FOR" then
    word "EACH"
    word "ROW"
  let condition ← if ← optWord "WHEN" then some <$> expr f else pure none
  word "BEGIN"
  let body ← triggerBody f
  pure (.createTrigger ine n time event table condition body)

/-- A statement after `CREATE`. -/
def createBody (f : Nat) : Parser Stmt := do
  discard (optWord "TEMP")
  discard (optWord "TEMPORARY")
  let unique ← optWord "UNIQUE"
  if ← optWord "TABLE" then
    let ine ← ifNotExists
    let n ← qualifiedName
    if ← optWord "AS" then pure (.createTableAs ine n (← select f))
    else
      op "("
      let (cols, cons) ← tableItems f
      op ")"
      let rec options : Nat → Parser Unit
        | 0 => pure ()
        | g + 1 => do
          if ← optWord "WITHOUT" then
            discard name
            if ← optOp "," then options g
          else if ← optWord "STRICT" then
            if ← optOp "," then options g
      options f
      pure (.createTable ine n cols cons)
  else if ← optWord "INDEX" then
    let ine ← ifNotExists
    let n ← qualifiedName
    word "ON"
    let table ← name
    let cols ← indexedNames f
    if ← optWord "WHERE" then discard (expr f)
    pure (.createIndex unique ine n table cols)
  else if unique then fail
  else if ← optWord "TRIGGER" then triggerBodyStmt f
  else if ← optWord "VIEW" then
    let ine ← ifNotExists
    let n ← qualifiedName
    if ← atOp "(" then
      discard advance
      discard (nameList f)
      op ")"
    word "AS"
    pure (.createView ine n (← select f))
  else fail

/-- A statement after `ALTER`. -/
def alterBody (f : Nat) : Parser Stmt := do
  word "TABLE"
  let table ← qualifiedName
  if ← optWord "RENAME" then
    if ← optWord "TO" then pure (.renameTable table (← name))
    else
      discard (optWord "COLUMN")
      let old ← name
      word "TO"
      pure (.renameColumn table old (← name))
  else if ← optWord "ADD" then
    discard (optWord "COLUMN")
    pure (.addColumn table (← columnSpec f))
  else
    word "DROP"
    discard (optWord "COLUMN")
    pure (.dropColumn table (← name))

/-- The value of a setting after `=` or in parentheses. -/
def pragmaValue (f : Nat) : Parser Expr := do
  match ← peek with
  | some t =>
    if t.kind == .word ∨ t.kind == .quoted then
      discard advance
      pure (.literal (.ofString t.value))
    else if t.isOp "-" then
      discard advance
      pure (.unary .negate (← primary f))
    else if t.isOp "+" then
      discard advance
      primary f
    else primary f
  | none => fail

/-- One statement. -/
def statement (f : Nat) : Parser Stmt := do
  let some t ← peek | fail
  let k := t.text.toUpper
  if t.kind != .word then
    if t.isOp "(" then pure (.select (← select f)) else fail
  else if k = "SELECT" ∨ k = "VALUES" ∨ k = "WITH" then pure (.select (← select f))
  else if k = "INSERT" then
    discard advance
    let conflict ← if ← optWord "OR" then conflictWord else pure .abort
    insertBody f conflict
  else if k = "REPLACE" then
    discard advance
    insertBody f .replace
  else if k = "UPDATE" then
    discard advance
    updateBody f
  else if k = "DELETE" then
    discard advance
    deleteBody f
  else if k = "CREATE" then
    discard advance
    createBody f
  else if k = "DROP" then
    discard advance
    let kind ← if ← optWord "TABLE" then pure SchemaKind.table
      else if ← optWord "INDEX" then pure SchemaKind.index
      else if ← optWord "TRIGGER" then pure SchemaKind.trigger
      else do word "VIEW"; pure SchemaKind.view
    let ie ← ifExists
    pure (.drop kind ie (← qualifiedName))
  else if k = "ALTER" then
    discard advance
    alterBody f
  else if k = "BEGIN" then
    discard advance
    discard (optWord "DEFERRED" <||> optWord "IMMEDIATE" <||> optWord "EXCLUSIVE")
    if ← optWord "TRANSACTION" then
      if (← peek).isSome then discard name
    pure (.transaction "BEGIN")
  else if k = "COMMIT" ∨ k = "END" then
    discard advance
    discard (optWord "TRANSACTION")
    pure (.transaction "COMMIT")
  else if k = "ROLLBACK" then
    discard advance
    discard (optWord "TRANSACTION")
    if ← optWord "TO" then
      discard (optWord "SAVEPOINT")
      discard name
    pure (.transaction "ROLLBACK")
  else if k = "SAVEPOINT" then
    discard advance
    discard name
    pure (.transaction "SAVEPOINT")
  else if k = "RELEASE" then
    discard advance
    discard (optWord "SAVEPOINT")
    discard name
    pure (.transaction "RELEASE")
  else if k = "PRAGMA" then
    discard advance
    let n ← qualifiedName
    if ← optOp "=" then pure (.pragma n (some (← pragmaValue f)))
    else if ← optOp "(" then
      let v ← pragmaValue f
      op ")"
      pure (.pragma n (some v))
    else pure (.pragma n none)
  else if k = "VACUUM" ∨ k = "ANALYZE" ∨ k = "REINDEX" then
    discard advance
    if (← peek).isSome then discard qualifiedName
    pure (.other k)
  else if k = "EXPLAIN" then
    discard advance
    if ← optWord "QUERY" then word "PLAN"
    discard (statement' f)
    pure (.other k)
  else fail
where
  /-- The statement after `EXPLAIN`, read and set aside. -/
  statement' (f : Nat) : Parser Stmt := do
    let some t ← peek | fail
    if t.isWord "SELECT" ∨ t.isWord "VALUES" then pure (.select (← select f))
    else if ← optWord "INSERT" then
      let conflict ← if ← optWord "OR" then conflictWord else pure .abort
      insertBody f conflict
    else if ← optWord "UPDATE" then updateBody f
    else if ← optWord "DELETE" then deleteBody f
    else fail

end Parser

/-- The statements of a text in order, each with its number of parameters; a statement
that cannot be read ends the list with why. -/
def parseScript (text : String) : List (Except ParseError (Stmt × Nat)) :=
  let source := text.toList
  let rec go : Nat → List Token → List (Except ParseError (Stmt × Nat))
    | 0, _ => []
    | _, [] => []
    | fuel + 1, t :: rest =>
      if t.isOp ";" then go fuel rest
      else
        let start : Reading := ⟨t :: rest, t.start, 0, [], source⟩
        let steps := 64 * ((t :: rest).length + 1)
        match (Parser.statement steps).run start with
        | .error e => [.error e]
        | .ok (st, r) =>
          match r.tokens with
          | [] => [.ok (st, r.maxParam)]
          | u :: more =>
            if u.isOp ";" then .ok (st, r.maxParam) :: go fuel more
            else if u.kind == .illegal then [.error (.unrecognized u.text)]
            else [.error (.near u.text)]
  let ts := tokenize text
  go (ts.length + 1) ts

/-- The one statement of a text, with its number of parameters. -/
def parseStatement (text : String) : Except ParseError (Stmt × Nat) :=
  match parseScript text with
  | [r] => r
  | r :: _ => r
  | [] => .error .incomplete

end Sql

end MailStore
