/-!
# Byte strings

Entry ids and property payloads are byte strings. This module names them, writes them as
lowercase hexadecimal text, reads that text back (refusing odd lengths and characters
that are no hexadecimal digit, with the wording the tools report), and reads and writes
the little-endian words that fixed-width property payloads are made of.
-/

namespace MailStore

/-- A byte string, such as an entry id or a property payload. -/
abbrev Bytes := List UInt8

namespace Bytes

/-! ### Hexadecimal text -/

/-- The lowercase hexadecimal digit of a value below sixteen. -/
def hexDigit (n : Nat) : Char :=
  if n < 10 then Char.ofNat (48 + n) else Char.ofNat (87 + n)

/-- The uppercase hexadecimal digit of a value below sixteen. -/
def hexDigitUpper (n : Nat) : Char :=
  if n < 10 then Char.ofNat (48 + n) else Char.ofNat (55 + n)

/-- Two lowercase hexadecimal digits per byte, the high nibble first. -/
def toHex (b : Bytes) : String :=
  String.ofList (b.flatMap fun x => [hexDigit (x.toNat / 16), hexDigit (x.toNat % 16)])

/-- The value of a hexadecimal digit in either case. -/
def hexValue? (c : UInt8) : Option UInt8 :=
  if 48 ≤ c ∧ c ≤ 57 then some (c - 48)
  else if 97 ≤ c ∧ c ≤ 102 then some (c - 87)
  else if 65 ≤ c ∧ c ≤ 70 then some (c - 55)
  else none

/-- Why hexadecimal text does not denote bytes. -/
inductive HexError where
  /-- A character that is no hexadecimal digit, given as the byte that holds it. -/
  | invalidByte (b : UInt8)
  /-- Well-formed digits of an odd count. -/
  | oddLength
deriving DecidableEq, Repr

/-- Whether a code point up to `0xFF` prints as itself: the visible Latin-1 characters and
the space, but no control character, no-break space or soft hyphen. -/
def latinPrintable (n : Nat) : Bool :=
  (32 ≤ n ∧ n ≤ 126) || (161 ≤ n ∧ n ≤ 255 ∧ n ≠ 173)

/-- `U+` and four uppercase hexadecimal digits of a code point below `0x10000`. -/
def codePointText (n : Nat) : String :=
  "U+" ++ String.ofList [hexDigitUpper (n / 4096 % 16), hexDigitUpper (n / 256 % 16),
    hexDigitUpper (n / 16 % 16), hexDigitUpper (n % 16)]

/-- The message of a hexadecimal error. An invalid byte is named by its code point and,
when it is printable, by itself in quotes. -/
def HexError.message : HexError → String
  | .invalidByte b =>
    let n := b.toNat
    let shown := if latinPrintable n then " '" ++ String.singleton (Char.ofNat n) ++ "'" else ""
    "encoding/hex: invalid byte: " ++ codePointText n ++ shown
  | .oddLength => "encoding/hex: odd length hex string"

/-- Reads pairs of hexadecimal digits. A bad digit is reported before an odd length, and
of a pair the first digit is checked first. -/
def ofHexBytes : List UInt8 → Except HexError Bytes
  | [] => .ok []
  | [c] => match hexValue? c with
    | some _ => .error .oddLength
    | none => .error (.invalidByte c)
  | c :: d :: rest => match hexValue? c, hexValue? d with
    | some hi, some lo => (ofHexBytes rest).map fun r => (hi * 16 + lo) :: r
    | none, _ => .error (.invalidByte c)
    | some _, none => .error (.invalidByte d)

/-- Reads hexadecimal text, digits in either case. -/
def ofHex (s : String) : Except HexError Bytes :=
  ofHexBytes s.toUTF8.toList

/-! ### Little-endian words -/

/-- The number whose little-endian bytes are `b`. -/
def toNatLE : Bytes → Nat
  | [] => 0
  | x :: rest => x.toNat + 256 * toNatLE rest

/-- The `width` low bytes of `n`, least significant first. -/
def ofNatLE : Nat → Nat → Bytes
  | 0, _ => []
  | width + 1, n => UInt8.ofNat (n % 256) :: ofNatLE width (n / 256)

/-- The `width` bytes of `n`, most significant first. -/
def ofNatBE (width n : Nat) : Bytes :=
  (ofNatLE width n).reverse

theorem length_ofNatLE (width n : Nat) : (ofNatLE width n).length = width := by
  induction width generalizing n with
  | zero => rfl
  | succ w ih => simp [ofNatLE, ih]

theorem toHex_nil : toHex [] = "" := rfl

end Bytes

end MailStore
