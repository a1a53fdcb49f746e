import MailStore.Sql.Value
import MailStore.Text.Quote

/-!
# Reading columns into typed places

The store reads the columns of its queries into byte strings, integers of a width and
strings, the way its database layer converts them:

* a byte string takes a blob or the bytes of a text as they are, an integer in decimal, a
  real in its shortest general form, and null as nothing;
* an integer place takes the value's text parsed as a decimal with an optional sign, and
  refuses null, text that is not such a decimal (`invalid syntax`) and a number that does
  not fit (`value out of range`);
* a string place takes the value's text and refuses null.

A refusal names the type the value arrived as, its text and the place:
`converting driver.Value type string ("abc") to a int: invalid syntax`. A read that fails
on a column says which: `sql: Scan error on column index 2, name "kind": …`.
-/

namespace MailStore

namespace Db

/-- The type a value arrives as from the database layer. -/
def arrivalType : Sql.Value → String
  | .null => "<nil>"
  | .integer _ => "int64"
  | .real _ => "float64"
  | .text _ => "string"
  | .blob _ => "[]uint8"

/-- A real in its shortest general form: `3.5`, `1e+20`, `+Inf`. -/
def realText (x : Float) : String :=
  if x != x then "NaN"
  else if x.isInf then (if x > 0 then "+Inf" else "-Inf")
  else Binary64.formatGeneral x

/-- The bytes of a value read as text; null has none. -/
def valueBytes : Sql.Value → Bytes
  | .null => []
  | .integer n => (toString n).toUTF8.toList
  | .real x => (realText x).toUTF8.toList
  | .text t => t.bytes
  | .blob b => b

/-- Reads a value into a byte string. -/
def readBytes (v : Sql.Value) : Bytes := valueBytes v

/-- The value of decimal digits that must fit `bits` bits without sign: each byte is
checked in turn, a byte that is not a digit being `invalid syntax` and a prefix too large
being `value out of range`. -/
def parseDigits (bits : Nat) : Nat → Bytes → Except String Nat
  | n, [] => .ok n
  | n, b :: rest =>
    if b < 48 ∨ b > 57 then .error "invalid syntax"
    else
      let m := 10 * n + (b.toNat - 48)
      if m ≥ Nat.pow 2 bits then .error "value out of range" else parseDigits bits m rest

/-- Parses an unsigned decimal that fits `bits` bits. -/
def parseUnsigned (bits : Nat) (s : Bytes) : Except String Nat :=
  if s.isEmpty then .error "invalid syntax" else parseDigits bits 0 s

/-- Parses a decimal with an optional sign that fits `bits` bits as a signed number. -/
def parseSigned (bits : Nat) (s : Bytes) : Except String Int :=
  if s.isEmpty then .error "invalid syntax"
  else
    let (neg, digits) := match s with
      | 43 :: rest => (false, rest)
      | 45 :: rest => (true, rest)
      | _ => (false, s)
    match parseUnsigned bits digits with
    | .error "invalid syntax" => .error "invalid syntax"
    | .error _ => .error "value out of range"
    | .ok u =>
      let cutoff := Nat.pow 2 (bits - 1)
      if !neg ∧ u ≥ cutoff then .error "value out of range"
      else if neg ∧ u > cutoff then .error "value out of range"
      else .ok (if neg then -(u : Int) else u)

/-- The refusal of a value for a place of a type. -/
def refusal (v : Sql.Value) (place why : String) : String :=
  "converting driver.Value type " ++ arrivalType v ++ " (" ++ Quote.text ⟨valueBytes v⟩ ++
    ") to a " ++ place ++ ": " ++ why

/-- Reads a value into a signed integer place of `bits` bits named `place`. -/
def readInt (place : String) (bits : Nat) (v : Sql.Value) : Except String Int :=
  match v with
  | .null => .error ("converting NULL to " ++ place ++ " is unsupported")
  | _ =>
    match parseSigned bits (valueBytes v) with
    | .ok n => .ok n
    | .error why => .error (refusal v place why)

/-- Reads a value into an unsigned integer place of `bits` bits named `place`. -/
def readUnsigned (place : String) (bits : Nat) (v : Sql.Value) : Except String Nat :=
  match v with
  | .null => .error ("converting NULL to " ++ place ++ " is unsupported")
  | _ =>
    match parseUnsigned bits (valueBytes v) with
    | .ok n => .ok n
    | .error why => .error (refusal v place why)

/-- Reads a value into a string place. -/
def readString (v : Sql.Value) : Except String String :=
  match v with
  | .null => .error "converting NULL to string is unsupported"
  | _ => .ok (Text.toString ⟨valueBytes v⟩)

/-- The failure of reading a column. -/
def scanError (index : Nat) (column why : String) : String :=
  "sql: Scan error on column index " ++ toString index ++ ", name " ++ Quote.string column ++
    ": " ++ why

theorem parseSigned_empty (bits : Nat) : parseSigned bits [] = .error "invalid syntax" := rfl

end Db

end MailStore
