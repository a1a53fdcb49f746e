import MailStore.Text.Quote
import MailStore.Failure

/-!
# Integer literals

Numbers given as text are integer literals with an optional base prefix: `0x` for
hexadecimal, `0o` or a bare leading `0` for octal, `0b` for binary, decimal otherwise, the
prefix letter in either case. Underscores may separate digits of a literal that is read
with its base taken from the prefix, but only between digits or right after a prefix.

Reading checks the digits from the left and stops at the first that does not fit: a value
that grows past the bit width is out of range at once, even when an invalid character
follows. A signed literal takes a `+` or `-` first and must fit in the signed range.
Failures are worded `strconv.ParseUint: parsing "…": invalid syntax` (or `value out of
range`), naming the reader and quoting the whole text.
-/

namespace MailStore

namespace IntLiteral

/-- Why a literal was refused. -/
inductive Problem where
  /-- A character that is no digit of the base, or an empty literal. -/
  | malformed
  /-- A value past the bit width. -/
  | range
deriving DecidableEq, Repr

/-- The wording of a problem. -/
def Problem.text : Problem → String
  | .malformed => "invalid syntax"
  | .range => "value out of range"

/-- The message of a refused literal, naming the reader function. -/
def message (reader : String) (s : String) (p : Problem) : String :=
  "strconv." ++ reader ++ ": parsing " ++ Quote.string s ++ ": " ++ p.text

/-- Lowercases an ASCII letter. -/
def lower (c : Char) : Char := if 'A' ≤ c ∧ c ≤ 'Z' then Char.ofNat (c.toNat + 32) else c

/-- The base a literal's prefix selects, and the digits after the prefix. -/
def splitBase (cs : List Char) : Nat × List Char :=
  match cs with
  | '0' :: p :: rest =>
    if rest.length ≥ 1 ∧ lower p = 'b' then (2, rest)
    else if rest.length ≥ 1 ∧ lower p = 'o' then (8, rest)
    else if rest.length ≥ 1 ∧ lower p = 'x' then (16, rest)
    else (8, p :: rest)
  | ['0'] => (8, [])
  | _ => (10, cs)

/-- The value of a character as a digit of any base up to 36. -/
def digitValue (c : Char) : Option Nat :=
  if '0' ≤ c ∧ c ≤ '9' then some (c.toNat - 48)
  else if 'a' ≤ lower c ∧ lower c ≤ 'z' then some ((lower c).toNat - 87)
  else none

/-- Whether a character is a digit of the literal: a decimal digit, or a letter `a` to `f`
in a hexadecimal one. -/
def isLiteralDigit (hex : Bool) (c : Char) : Bool :=
  ('0' ≤ c ∧ c ≤ '9') || (hex && 'a' ≤ lower c && lower c ≤ 'f')

/-- Scans for a misplaced underscore; `saw` is what came last: `^` the start, `0` a digit
or base prefix, `_` an underscore, `!` anything else. -/
def underscoresOkFrom (hex : Bool) : Char → List Char → Bool
  | saw, [] => saw ≠ '_'
  | saw, c :: more =>
    if isLiteralDigit hex c then underscoresOkFrom hex '0' more
    else if c = '_' then saw = '0' && underscoresOkFrom hex '_' more
    else if saw = '_' then false
    else underscoresOkFrom hex '!' more

/-- Whether the underscores of a literal stand only between digits, or between a base
prefix and a digit. -/
def underscoresOk (cs : List Char) : Bool :=
  let cs := match cs with
    | c :: rest => if c = '-' ∨ c = '+' then rest else cs
    | [] => []
  match cs with
  | '0' :: p :: more =>
    if lower p = 'b' ∨ lower p = 'o' ∨ lower p = 'x' then underscoresOkFrom (lower p = 'x') '0' more
    else underscoresOkFrom false '^' cs
  | _ => underscoresOkFrom false '^' cs

/-- Accumulates digits from the left, refusing the first that does not fit the base and
stopping as soon as the value passes `max`. -/
def accumulate (base max : Nat) (underscores : Bool) : Nat → List Char → Except Problem (Nat × Bool)
  | n, [] => .ok (n, false)
  | n, c :: rest =>
    if c = '_' ∧ underscores then
      (accumulate base max underscores n rest).map fun (v, _) => (v, true)
    else
      match digitValue c with
      | none => .error .malformed
      | some d =>
        if d ≥ base then .error .malformed
        else
          let n' := n * base + d
          if n' > max then .error .range
          else accumulate base max underscores n' rest

/-- Reads an unsigned literal of at most `bits` bits. -/
def parseUnsigned (s : String) (bits : Nat) : Except Problem Nat := do
  let cs := s.toList
  if cs.isEmpty then throw .malformed
  let (base, digits) := splitBase cs
  let (n, sawUnderscore) ← accumulate base (Nat.pow 2 bits - 1) true 0 digits
  if sawUnderscore ∧ ¬ underscoresOk cs then throw .malformed
  pure n

/-- Reads a signed literal of at most `bits` bits, two's complement range. -/
def parseSigned (s : String) (bits : Nat) : Except Problem Int := do
  let cs := s.toList
  if cs.isEmpty then throw .malformed
  let (neg, body) := match cs with
    | '+' :: rest => (false, rest)
    | '-' :: rest => (true, rest)
    | _ => (false, cs)
  let un ← match parseUnsigned (String.ofList body) bits with
    | .ok n => pure n
    | .error .range => pure (Nat.pow 2 bits - 1)
    | .error .malformed => throw .malformed
  let cutoff := Nat.pow 2 (bits - 1)
  if ¬neg ∧ un ≥ cutoff then throw .range
  if neg ∧ un > cutoff then throw .range
  pure (if neg then -(un : Int) else un)

/-- Reads a decimal integer with an optional sign and no underscores, as a count of items
is given. -/
def parseDecimal? (s : String) : Option Int :=
  let cs := s.toList
  let (neg, body) := match cs with
    | '+' :: rest => (false, rest)
    | '-' :: rest => (true, rest)
    | _ => (false, cs)
  if body.isEmpty ∨ ¬ body.all Char.isDigit then none
  else
    let n : Nat := body.foldl (fun n c => 10 * n + (c.toNat - 48)) 0
    if neg then (if n ≤ Nat.pow 2 63 then some (-(n : Int)) else none)
    else if n < Nat.pow 2 63 then some n else none

/-- Reads an unsigned literal, failing with the reader's message. -/
def readUnsigned (s : String) (bits : Nat) : Except Failure Nat :=
  match parseUnsigned s bits with
  | .ok n => .ok n
  | .error p => .error (Failure.other (message "ParseUint" s p))

/-- Reads a signed literal, failing with the reader's message. -/
def readSigned (s : String) (bits : Nat) : Except Failure Int :=
  match parseSigned s bits with
  | .ok n => .ok n
  | .error p => .error (Failure.other (message "ParseInt" s p))

end IntLiteral

end MailStore
