import MailStore.Text.Utf8
import MailStore.Number.Binary64

/-!
# Values of the database

A cell of the property database holds one of five storage classes: null, a signed 64-bit
integer, a double, text (UTF-8 bytes, which need not be well formed) or a byte string.
This module gives their order, how text reads as a number, how numbers are written as
text, and the column affinities that convert a value as it is stored.

## Reading text as a number

Text reads as a number the way the database's own reader does: after leading blanks an
optional sign, digits with an optional decimal point, and an optional exponent. The text
*is* a number when nothing but blanks follows; otherwise its longest numeric prefix is
what arithmetic sees, and no prefix at all reads as zero. A number without a decimal point
or exponent that fits 64 bits is an integer; anything else is a double, correctly rounded.

## Writing a double as text

A double is written with fifteen significant digits, the last rounded half up, trailing
zeros dropped but at least one digit after the point (`10.0`, `0.5`); exponents below -4
or above 14 are written in scientific notation with a two-digit exponent at least
(`1.0e+15`, `1.5e-05`).

## Affinity

A column's declared type gives it an affinity: a type naming `INT` is integer; one naming
`CHAR`, `CLOB` or `TEXT` is text; one naming `BLOB` or no type at all is blob (no
conversion); one naming `REAL`, `FLOA` or `DOUB` is real; anything else is numeric. A
numeric, integer or real column stores text that is a number as that number, and a double
that is an integer as the integer; a text column stores numbers as their text.
-/

namespace MailStore

namespace Sql

/-- The smallest 64-bit signed integer. -/
def minInt : Int := -(Int.pow 2 63)

/-- The largest 64-bit signed integer. -/
def maxInt : Int := Int.pow 2 63 - 1

/-- Whether an integer fits 64 bits. -/
def fits (n : Int) : Bool := minInt ≤ n ∧ n ≤ maxInt

/-- A value of the database. -/
inductive Value where
  /-- No value. -/
  | null
  /-- A signed 64-bit integer. -/
  | integer (n : Int)
  /-- A double. -/
  | real (x : Float)
  /-- Text. -/
  | text (t : Text)
  /-- A byte string. -/
  | blob (b : Bytes)
deriving Inhabited, Repr

namespace Value

/-- Text from a string. -/
def ofString (s : String) : Value := .text (Text.ofString s)

/-- Whether a value is null. -/
def isNull : Value → Bool
  | .null => true
  | _ => false

/-- The name of a value's storage class. -/
def typeName : Value → String
  | .null => "null"
  | .integer _ => "integer"
  | .real _ => "real"
  | .text _ => "text"
  | .blob _ => "blob"

/-- The rank of a storage class in the order of values: null, numbers, text, bytes. -/
def rank : Value → Nat
  | .null => 0
  | .integer _ => 1
  | .real _ => 1
  | .text _ => 2
  | .blob _ => 3

end Value

/-! ### Doubles -/

namespace Real

/-- A double as an exact fraction `num / den` with its sign, for a finite double. -/
def exact (x : Float) : Int × Nat :=
  let (neg, m, e) := Binary64.decompose x
  let (a, b) := Binary64.pow2 e
  ((if neg then -((m * a : Nat) : Int) else ((m * a : Nat) : Int)), b)

/-- Whether a double is not a number. -/
def isNaN (x : Float) : Bool := x != x

/-- Whether a double is infinite. -/
def isInf (x : Float) : Bool := Binary64.isSpecial x && !isNaN x

/-- The order of an integer and a finite or infinite double, exactly. -/
def compareInt (i : Int) (x : Float) : Ordering :=
  if isInf x then (if x > 0 then .lt else .gt)
  else
    let (num, den) := exact x
    Ord.compare (i * den) num

/-- A double truncated toward zero to an integer, saturating at the 64-bit bounds. -/
def truncate (x : Float) : Int :=
  if isNaN x then 0
  else if isInf x then (if x > 0 then maxInt else minInt)
  else
    let (num, den) := exact x
    let q := num.tdiv den
    if q < minInt then minInt else if q > maxInt then maxInt else q

/-- Whether a double holds exactly an integer of magnitude below `2^51`, the test for
treating a computed double as that integer. -/
def sameAsInt (x : Float) (i : Int) : Bool :=
  x == 0 || (compareInt i x == .eq && -(Int.pow 2 51) ≤ i && i < Int.pow 2 51)

/-- The double nearest an integer. -/
def ofInt (i : Int) : Float :=
  match Binary64.ofDecimal? (i < 0) i.natAbs 0 with
  | some x => x
  | none => if i < 0 then -1.0 / 0.0 else 1.0 / 0.0

/-- The decimal digits of a positive exact fraction rounded half up to `n` significant
digits, with the decimal exponent of the leading digit. -/
def roundedDigits (num den : Nat) (n : Nat) : List Nat × Int :=
  -- the exponent `k` of the leading digit: `10^k ≤ num/den < 10^(k+1)`
  let guess : Int := (num.log2 : Int) - den.log2
  let k0 : Int := guess * 30103 / 100000
  let atLeast : Int → Bool := fun k =>
    let (pn, pd) := Binary64.pow10 k
    pn * den ≤ num * pd
  let k := if atLeast (k0 + 1) then k0 + 1 else if atLeast k0 then k0 else k0 - 1
  let k := if atLeast (k + 1) then k + 1 else k
  let k := if atLeast k then k else k - 1
  -- `num/den / 10^(k - n + 1)` rounded half up
  let (pn, pd) := Binary64.pow10 (k - n + 1)
  let scaledNum := num * pd
  let scaledDen := den * pn
  let q := scaledNum / scaledDen
  let q := if 2 * (scaledNum % scaledDen) ≥ scaledDen then q + 1 else q
  let (q, k) := if q ≥ Nat.pow 10 n then (q / 10, k + 1) else (q, k)
  let ds := (Nat.toDigits 10 q).map fun c => c.toNat - 48
  ((ds.reverse.dropWhile (· == 0)).reverse, k)

/-- A double written as text with fifteen significant digits. -/
def text (x : Float) : String :=
  if isNaN x then ""
  else if isInf x then (if x > 0 then "Inf" else "-Inf")
  else
    let (neg, m, e) := Binary64.decompose x
    if m = 0 then "0.0"
    else
      let sign := if neg then "-" else ""
      let (a, b) := Binary64.pow2 e
      let (ds, k) := roundedDigits (m * a) b 15
      let digits := Binary64.digitChars ds
      if k < -4 ∨ k > 14 then
        let mant := match digits with
          | [] => "0.0"
          | [d] => String.ofList [d, '.', '0']
          | d :: rest => String.ofList (d :: '.' :: rest)
        let x := k.natAbs
        let expText := (if x < 10 then "0" else "") ++ toString x
        sign ++ mant ++ "e" ++ (if k < 0 then "-" else "+") ++ expText
      else if k < 0 then
        sign ++ String.ofList ('0' :: '.' :: List.replicate (k.natAbs - 1) '0' ++ digits)
      else
        let whole := k.toNat + 1
        let intPart := digits.take whole ++ List.replicate (whole - digits.length) '0'
        let frac := digits.drop whole
        sign ++ String.ofList intPart ++ "." ++ (if frac.isEmpty then "0" else String.ofList frac)

end Real

/-! ### Reading text as a number -/

/-- Whether a byte is a blank that numbers may be surrounded by. -/
def isBlank (b : UInt8) : Bool := b == 32 || b == 9 || b == 10 || b == 11 || b == 12 || b == 13

/-- Whether a byte is a decimal digit. -/
def isDigitByte (b : UInt8) : Bool := 48 ≤ b && b ≤ 57

/-- The numeric prefix of a text, as the database's reader takes it apart. -/
structure Numeral where
  /-- Whether a minus sign leads. -/
  negative : Bool
  /-- The digits before and after the decimal point, as one number. -/
  mantissa : Nat
  /-- The power of ten the mantissa is scaled by. -/
  scale : Int
  /-- How many digits the mantissa has. -/
  digitCount : Nat
  /-- One, plus one for a decimal point, plus one for an exponent mark. -/
  form : Nat
  /-- Whether an exponent mark, when there is one, is followed by digits. -/
  exponentValid : Bool
  /-- Whether only blanks follow what was read. -/
  atEnd : Bool
deriving Repr, Inhabited

/-- The value of digits. -/
def digitsValue (ds : Bytes) : Nat := ds.foldl (fun n d => 10 * n + (d.toNat - 48)) 0

/-- Reads the numeric prefix of a text. -/
def readNumeral (bs : Bytes) : Numeral :=
  let bs := bs.dropWhile isBlank
  let (negative, bs) := match bs with
    | 45 :: rest => (true, rest)
    | 43 :: rest => (false, rest)
    | _ => (false, bs)
  let intDigits := bs.takeWhile isDigitByte
  let bs := bs.dropWhile isDigitByte
  let (fracDigits, point, bs) := match bs with
    | 46 :: rest => (rest.takeWhile isDigitByte, true, rest.dropWhile isDigitByte)
    | _ => ([], false, bs)
  let (expValue, mark, valid, bs) : Int × Bool × Bool × Bytes :=
    match bs with
    | e :: rest =>
      if e == 101 || e == 69 then
        let (eneg, rest) := match rest with
          | 45 :: r => (true, r)
          | 43 :: r => (false, r)
          | _ => (false, rest)
        let eds := rest.takeWhile isDigitByte
        let v := digitsValue eds
        ((if eneg then -(v : Int) else v), true, !eds.isEmpty, rest.dropWhile isDigitByte)
      else (0, false, true, bs)
    | [] => (0, false, true, [])
  ⟨negative, digitsValue (intDigits ++ fracDigits), expValue - fracDigits.length,
    intDigits.length + fracDigits.length, 1 + (if point then 1 else 0) + (if mark then 1 else 0),
    valid, (bs.dropWhile isBlank).isEmpty⟩

/-- The verdict on a text read as a number: `1` for a whole integer literal, `2` or `3`
for a whole decimal literal, `-1` for a decimal prefix, `0` otherwise. -/
def Numeral.verdict (n : Numeral) : Int :=
  if n.atEnd ∧ n.digitCount > 0 ∧ n.exponentValid then n.form
  else if n.form ≥ 2 ∧ (n.form = 3 ∨ n.exponentValid) ∧ n.digitCount > 0 then -1
  else 0

/-- The double a numeral reads as; past the largest double it is infinite. -/
def Numeral.toReal (n : Numeral) : Float :=
  match Binary64.ofDecimal? n.negative n.mantissa n.scale with
  | some x => x
  | none => if n.negative then -1.0 / 0.0 else 1.0 / 0.0

/-- The integer prefix of a text: after blanks, a sign and digits, saturating at the 64-bit
bounds, with whether it fits (`0`), has other text after it (`1`), has no digits (`-1`)
or overflows (`2`). -/
def integerPrefix (bs : Bytes) : Int × Int :=
  let bs := bs.dropWhile isBlank
  let (negative, bs) := match bs with
    | 45 :: rest => (true, rest)
    | 43 :: rest => (false, rest)
    | _ => (false, bs)
  let ds := bs.takeWhile isDigitByte
  let v := digitsValue ds
  let i : Int := if negative then -(v : Int) else v
  let after := bs.dropWhile isDigitByte
  if ds.isEmpty then (0, -1)
  else if i < minInt then (minInt, 2)
  else if i > maxInt then (maxInt, 2)
  else (i, if (after.dropWhile isBlank).isEmpty then 0 else 1)

namespace Value

/-- A number as arithmetic sees a text: the integer of its integer prefix when its numeric
prefix is no decimal literal, or when that prefix's double is an integer, otherwise the
double of its numeric prefix. -/
def numberOfText (bs : Bytes) : Value :=
  let n := readNumeral bs
  let x := n.toReal
  let (ip, status) := integerPrefix bs
  if (n.verdict = 0 ∨ n.verdict = 1) ∧ status ≤ 1 then .integer ip
  else
    let i := Real.truncate x
    if Real.sameAsInt x i then .integer i else .real x

/-- A value as a number for arithmetic: null stays null, text and bytes read as numbers. -/
def toNumeric : Value → Value
  | .null => .null
  | .integer n => .integer n
  | .real x => .real x
  | .text t => numberOfText t.bytes
  | .blob b => numberOfText b

/-- A value as a 64-bit integer: doubles truncated, text and bytes by their integer
prefix, null as zero. -/
def toInt : Value → Int
  | .null => 0
  | .integer n => n
  | .real x => Real.truncate x
  | .text t => (integerPrefix t.bytes).1
  | .blob b => (integerPrefix b).1

/-- A value as a double: text and bytes by their numeric prefix, null as zero. -/
def toReal : Value → Float
  | .null => 0
  | .integer n => Real.ofInt n
  | .real x => x
  | .text t => (readNumeral t.bytes).toReal
  | .blob b => (readNumeral b).toReal

/-- The text of a value: numbers written out, bytes taken as text; null has none. -/
def toText? : Value → Option Text
  | .null => none
  | .integer n => some (Text.ofString (toString n))
  | .real x => some (Text.ofString (Real.text x))
  | .text t => some t
  | .blob b => some ⟨b⟩

/-- The bytes of a value: text as its bytes, numbers as their text; null has none. -/
def toBytes? (v : Value) : Option Bytes := (toText? v).map Text.bytes

/-- Whether a value counts as true: a non-zero number; text and bytes by their numeric
prefix; null is neither true nor false. -/
def truth : Value → Option Bool
  | .null => none
  | .integer n => some (n ≠ 0)
  | v => some (v.toReal != 0)

end Value

/-! ### Affinity -/

/-- The affinity of a column: how values are converted as they are stored. -/
inductive Affinity where
  /-- No conversion. -/
  | blob
  /-- Numbers become text. -/
  | text
  /-- Text that is a number becomes the number; integral doubles become integers. -/
  | numeric
  /-- As numeric. -/
  | integer
  /-- As numeric, keeping doubles. -/
  | real
deriving DecidableEq, Repr, Inhabited

namespace Affinity

/-- Whether an affinity converts text to numbers. -/
def isNumeric : Affinity → Bool
  | .numeric | .integer | .real => true
  | _ => false

/-- The affinity of a declared type. -/
def ofType (declared : String) : Affinity :=
  let t := declared.toUpper
  if (t.splitOn "INT").length > 1 then .integer
  else if (t.splitOn "CHAR").length > 1 ∨ (t.splitOn "CLOB").length > 1 ∨
      (t.splitOn "TEXT").length > 1 then .text
  else if (t.splitOn "BLOB").length > 1 ∨ t.toList.all Char.isWhitespace then .blob
  else if (t.splitOn "REAL").length > 1 ∨ (t.splitOn "FLOA").length > 1 ∨
      (t.splitOn "DOUB").length > 1 then .real
  else .numeric

end Affinity

namespace Value

/-- Text that is a number as that number: an integer when it is an integer literal that
fits, otherwise the double, made an integer when `forceInt` is set and the double is one.
Other text is unchanged. -/
def numericText (t : Text) (forceInt : Bool) : Value :=
  let n := readNumeral t.bytes
  let v := n.verdict
  if v ≤ 0 then .text t
  else
    let x := n.toReal
    let i := Real.truncate x
    let (ip, status) := integerPrefix t.bytes
    if v = 1 ∧ Real.sameAsInt x i then .integer i
    else if v = 1 ∧ status = 0 then .integer ip
    else if forceInt ∧ Real.compareInt i x = .eq ∧ minInt < i ∧ i < maxInt then .integer i
    else .real x

/-- A value converted by an affinity as it is stored. -/
def withAffinity (v : Value) : Affinity → Value
  | .blob => v
  | .text =>
    match v with
    | .integer _ | .real _ => match v.toText? with
      | some t => .text t
      | none => v
    | _ => v
  | aff =>
    match v with
    | .text t => numericText t true
    | .real x =>
      let i := Real.truncate x
      if aff ≠ .real ∧ Real.compareInt i x = .eq ∧ minInt < i ∧ i < maxInt then .integer i
      else .real x
    | _ => v

end Value

/-! ### Order -/

/-- How text is compared: bytewise, or with ASCII letters folded to lower case. -/
inductive Collation where
  /-- Bytewise. -/
  | binary
  /-- Bytewise after folding ASCII capitals. -/
  | nocase
  /-- Bytewise, ignoring trailing spaces. -/
  | rtrim
deriving DecidableEq, Repr, Inhabited

namespace Collation

/-- The collation of a name, if the database knows it. -/
def ofName? (s : String) : Option Collation :=
  match s.toUpper with
  | "BINARY" => some .binary
  | "NOCASE" => some .nocase
  | "RTRIM" => some .rtrim
  | _ => none

/-- A byte folded to lower case when it is an ASCII capital. -/
def foldByte (b : UInt8) : UInt8 := if 65 ≤ b && b ≤ 90 then b + 32 else b

/-- The bytes a collation compares. -/
def key (c : Collation) (bs : Bytes) : Bytes :=
  match c with
  | .binary => bs
  | .nocase => bs.map foldByte
  | .rtrim => (bs.reverse.dropWhile (· == 32)).reverse

end Collation

/-- Byte strings in order: bytewise, a prefix first. -/
def bytesOrder : Bytes → Bytes → Ordering
  | [], [] => .eq
  | [], _ :: _ => .lt
  | _ :: _, [] => .gt
  | a :: as, b :: bs => if a < b then .lt else if b < a then .gt else bytesOrder as bs

namespace Value

/-- The order of two values: null first, then numbers by value, then text by the
collation, then bytes. -/
def order (coll : Collation) (a b : Value) : Ordering :=
  match a, b with
  | .null, .null => .eq
  | .integer x, .integer y => Ord.compare x y
  | .integer x, .real y => Real.compareInt x y
  | .real x, .integer y => (Real.compareInt y x).swap
  | .real x, .real y => if x < y then .lt else if y < x then .gt else .eq
  | .text x, .text y => bytesOrder (coll.key x.bytes) (coll.key y.bytes)
  | .blob x, .blob y => bytesOrder x y
  | _, _ => Ord.compare a.rank b.rank

/-- Whether two values are the same as a unique key sees them (null is never the same). -/
def same (coll : Collation) (a b : Value) : Bool :=
  !a.isNull && !b.isNull && order coll a b == .eq

end Value

theorem bytesOrder_self (b : Bytes) : bytesOrder b b = .eq := by
  induction b with
  | nil => rfl
  | cons a as ih => simp [bytesOrder, ih]

theorem fits_zero : fits 0 = true := by decide

end Sql

end MailStore
