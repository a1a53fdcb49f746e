import MailStore.Sql.Value

/-!
# Tokens of the database language

A statement text is read as a sequence of tokens: names (bare, or quoted in double
quotes, brackets or backquotes), string literals in single quotes (a doubled quote stands
for one), byte literals `X'hex'`, numbers (decimal with an optional fraction and exponent,
or hexadecimal after `0x`), parameters (`?`, `?NNN`, `:name`, `@name`, `$name`), and
operators. Blanks and comments (`-- to the end of the line` and `/* … */`, which an end
of text also closes) separate tokens.

A character that starts no token, a quoted token without its closing quote, a byte literal
with an odd number of digits or a non-digit, and a number run into a name are *illegal*
tokens: the statement fails with `unrecognized token: "…"` when reading reaches them, so a
statement before them still runs.

Every token keeps where it stands in the text, so that a query can name its result
columns by the text of their expressions.
-/

namespace MailStore

namespace Sql

/-- The kind of a token. -/
inductive TokenKind where
  /-- A bare name or keyword. -/
  | word
  /-- A name in double quotes or backquotes (text when no column has it). -/
  | quoted
  /-- A name in brackets. -/
  | bracketed
  /-- A string literal. -/
  | string
  /-- A byte literal. -/
  | blob
  /-- An integer literal, decimal or hexadecimal. -/
  | integer
  /-- A decimal literal with a fraction or exponent. -/
  | float
  /-- A parameter. -/
  | variable
  /-- An operator or punctuation. -/
  | op
  /-- Text that starts no token. -/
  | illegal
deriving DecidableEq, Repr, Inhabited

/-- A token: its kind, its text as written, what it stands for (a name without quotes, a
literal's text, an operator), and where it starts and ends in the statement text. -/
structure Token where
  /-- The kind. -/
  kind : TokenKind
  /-- The text as written. -/
  text : String
  /-- What the token stands for. -/
  value : String
  /-- The position of its first character. -/
  start : Nat
  /-- The position after its last character. -/
  stop : Nat
deriving Repr, Inhabited

namespace Token

/-- Whether a token is a given keyword (matched without regard to case). -/
def isWord (t : Token) (k : String) : Bool := t.kind == .word && t.text.toUpper == k

/-- Whether a token is a given operator. -/
def isOp (t : Token) (o : String) : Bool := t.kind == .op && t.value == o

end Token

namespace Lex

/-- Whether a character may continue a name: letters, digits, `_`, `$` and every
character outside ASCII. -/
def isNameChar (c : Char) : Bool := c.isAlphanum || c = '_' || c = '$' || c.toNat ≥ 0x80

/-- Whether a character may start a name. -/
def isNameStart (c : Char) : Bool := c.isAlpha || c = '_' || c.toNat ≥ 0x80

/-- Whether a character is a blank between tokens. -/
def isBlank (c : Char) : Bool := c = ' ' ∨ c = '\t' ∨ c = '\n' ∨ c = '\x0c' ∨ c = '\r'

/-- Whether a character is a hexadecimal digit. -/
def isHex (c : Char) : Bool := c.isDigit || ('a' ≤ c ∧ c ≤ 'f') || ('A' ≤ c ∧ c ≤ 'F')

/-- The text up to a closing delimiter, a doubled delimiter standing for one; gives the
text, how many characters were used (closing delimiter included), or `none` when the
delimiter never closes. -/
def quotedBody (close : Char) (doubling : Bool) : List Char → List Char → Nat →
    Option (String × Nat)
  | [], _, _ => none
  | c :: rest, acc, used =>
    if c = close then
      match rest with
      | d :: more =>
        if doubling ∧ d = close then quotedBody close doubling more (c :: acc) (used + 2)
        else some (String.ofList acc.reverse, used + 1)
      | [] => some (String.ofList acc.reverse, used + 1)
    else quotedBody close doubling rest (c :: acc) (used + 1)

/-- The length of a number's text at the head of the characters, and whether it has a
fraction or an exponent. -/
def numberLength (cs : List Char) : Nat × Bool :=
  let intLen := (cs.takeWhile Char.isDigit).length
  let rest := cs.drop intLen
  let (fracLen, point, rest) := match rest with
    | '.' :: more => (1 + (more.takeWhile Char.isDigit).length, true,
        more.dropWhile Char.isDigit)
    | _ => (0, false, rest)
  let expLen := match rest with
    | e :: s :: d :: _ =>
      if (e = 'e' ∨ e = 'E') ∧ (s = '+' ∨ s = '-') ∧ d.isDigit then
        2 + ((rest.drop 2).takeWhile Char.isDigit).length
      else if (e = 'e' ∨ e = 'E') ∧ s.isDigit then 1 + ((rest.drop 1).takeWhile Char.isDigit).length
      else 0
    | e :: d :: _ =>
      if (e = 'e' ∨ e = 'E') ∧ d.isDigit then 1 + ((rest.drop 1).takeWhile Char.isDigit).length
      else 0
    | _ => 0
  (intLen + fracLen + expLen, point || expLen > 0)

/-- The length of the rest of a block comment: up to and including its closing `*/`, or
to the end of the text. -/
def commentLength : Nat → List Char → Nat
  | 0, _ => 0
  | _, [] => 0
  | _ + 1, '*' :: '/' :: _ => 2
  | fuel + 1, _ :: more => 1 + commentLength fuel more

/-- The two-character operators. -/
def twoCharOps : List String := ["==", "!=", "<>", "<=", ">=", "<<", ">>", "||", "->"]

/-- The one-character operators. -/
def oneCharOps : List Char := ['(', ')', ';', '+', '-', '*', '/', '%', '=', '<', '>', ',', '&',
  '~', '|', '.']

/-- The tokens of a text from a position, at most `fuel` of them. -/
def tokens : Nat → List Char → Nat → List Token
  | 0, _, _ => []
  | _, [], _ => []
  | fuel + 1, c :: rest, pos =>
    let cs := c :: rest
    let emit := fun (kind : TokenKind) (len : Nat) (value : String) =>
      let text := String.ofList (cs.take len)
      ⟨kind, text, value, pos, pos + len⟩ :: tokens fuel (cs.drop len) (pos + len)
    if isBlank c then tokens fuel rest (pos + 1)
    else if c = '-' ∧ rest.head? = some '-' then
      let len := (cs.takeWhile (· ≠ '\n')).length
      tokens fuel (cs.drop len) (pos + len)
    else if c = '/' ∧ rest.head? = some '*' then
      let len := 2 + commentLength (rest.length + 1) (rest.drop 1)
      tokens fuel (cs.drop len) (pos + len)
    else if (c = 'x' ∨ c = 'X') ∧ rest.head? = some '\'' then
      match quotedBody '\'' false (rest.drop 1) [] 0 with
      | some (body, used) =>
        let len := 2 + used
        if body.length % 2 = 0 ∧ body.all isHex then emit .blob len body
        else emit .illegal len body
      | none => emit .illegal cs.length ""
    else if isNameStart c then
      let len := (cs.takeWhile isNameChar).length
      emit .word len (String.ofList (cs.take len))
    else if c = '\'' then
      match quotedBody '\'' true rest [] 0 with
      | some (body, used) => emit .string (1 + used) body
      | none => emit .illegal cs.length ""
    else if c = '"' ∨ c.toNat = 96 then
      match quotedBody c true rest [] 0 with
      | some (body, used) => emit .quoted (1 + used) body
      | none => emit .illegal cs.length ""
    else if c = '[' then
      match quotedBody ']' false rest [] 0 with
      | some (body, used) => emit .bracketed (1 + used) body
      | none => emit .illegal cs.length ""
    else if c.isDigit ∨ (c = '.' ∧ (rest.head?.map Char.isDigit).getD false) then
      if c = '0' ∧ (rest.head? = some 'x' ∨ rest.head? = some 'X') ∧
          ((rest.drop 1).head?.map isHex).getD false then
        let len := 2 + ((rest.drop 1).takeWhile isHex).length
        let more := ((cs.drop len).takeWhile isNameChar).length
        if more > 0 then emit .illegal (len + more) ""
        else emit .integer len (String.ofList (cs.take len))
      else
        let (len, isFloat) := numberLength cs
        let more := ((cs.drop len).takeWhile isNameChar).length
        if more > 0 then emit .illegal (len + more) ""
        else emit (if isFloat then .float else .integer) len (String.ofList (cs.take len))
    else if c = '?' then
      let len := 1 + (rest.takeWhile Char.isDigit).length
      emit .variable len (String.ofList (cs.take len))
    else if c = ':' ∨ c = '@' ∨ c = '$' ∨ c = '#' then
      let len := 1 + (rest.takeWhile isNameChar).length
      if len = 1 then emit .illegal 1 "" else emit .variable len (String.ofList (cs.take len))
    else
      let two := String.ofList (cs.take 2)
      if twoCharOps.contains two then
        emit .op 2 (if two = "==" then "=" else if two = "<>" then "!=" else two)
      else if oneCharOps.contains c then emit .op 1 (String.singleton c)
      else emit .illegal 1 ""

end Lex

/-- The tokens of a statement text. -/
def tokenize (s : String) : List Token :=
  let cs := s.toList
  Lex.tokens (cs.length + 1) cs 0

end Sql

end MailStore
