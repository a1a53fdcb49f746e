import MailStore.Bytes
import MailStore.Text.Quote

/-!
# GUIDs

A GUID is sixteen bytes. Its text here takes the bytes in their stored order, two
lowercase digits each, grouped 4-2-2-2-6 by dashes: no byte of the first three groups is
swapped. Reading accepts that form in either case, the same between braces, after a
`urn:uuid:` prefix in any case, or the 32 digits without dashes.
-/

namespace MailStore

/-- A GUID as its sixteen bytes, kept as two 64-bit words in byte order. -/
structure Guid where
  /-- The first eight bytes, the first byte most significant. -/
  hi : UInt64
  /-- The last eight bytes, the first of them most significant. -/
  lo : UInt64
deriving DecidableEq, Hashable, Ord, Inhabited, Repr

namespace Guid

/-- The number of a big-endian byte string. -/
def natBE (b : Bytes) : Nat := b.foldl (fun n x => 256 * n + x.toNat) 0

/-- The sixteen bytes, in order. -/
def toBytes (g : Guid) : Bytes :=
  Bytes.ofNatBE 8 g.hi.toNat ++ Bytes.ofNatBE 8 g.lo.toNat

/-- The GUID of exactly sixteen bytes. -/
def ofBytes? (b : Bytes) : Option Guid :=
  if b.length = 16 then
    some ⟨(natBE (b.take 8)).toUInt64, (natBE (b.drop 8)).toUInt64⟩
  else none

/-- The all-zero GUID. -/
def nil : Guid := ⟨0, 0⟩

theorem length_toBytes (g : Guid) : g.toBytes.length = 16 := by
  simp [toBytes, Bytes.ofNatBE, Bytes.length_ofNatLE]

/-- The text form: lowercase digits grouped 8-4-4-4-12 by dashes. -/
def toText (g : Guid) : String :=
  let h := (Bytes.toHex g.toBytes).toList
  String.ofList (h.take 8 ++ ['-'] ++ (h.drop 8).take 4 ++ ['-'] ++ (h.drop 12).take 4 ++
    ['-'] ++ (h.drop 16).take 4 ++ ['-'] ++ h.drop 20)

/-- Why text is not a GUID. -/
inductive ParseError where
  /-- A length that fits none of the accepted forms, in bytes. -/
  | badLength (n : Nat)
  /-- A 45-byte text that does not start with `urn:uuid:`; the first nine bytes. -/
  | badPrefix (head : Bytes)
  /-- A misplaced dash or a character that is no hexadecimal digit. -/
  | badFormat
deriving DecidableEq, Repr

/-- The wording of a parse error. -/
def ParseError.message : ParseError → String
  | .badLength n => "invalid UUID length: " ++ toString n
  | .badPrefix head => "invalid urn prefix: " ++ Quote.text ⟨head⟩
  | .badFormat => "invalid UUID format"

/-- The value of two hexadecimal digits. -/
def pairValue? (a b : UInt8) : Option UInt8 := do
  let hi ← Bytes.hexValue? a
  let lo ← Bytes.hexValue? b
  some (hi * 16 + lo)

/-- Reads consecutive pairs of hexadecimal digits. -/
def pairs? : List UInt8 → Option Bytes
  | [] => some []
  | a :: b :: rest => do
    let x ← pairValue? a b
    let r ← pairs? rest
    some (x :: r)
  | [_] => none

/-- The bytes of the dashed form: 36 characters with dashes after 8, 12, 16 and 20 digits. -/
def dashed? (s : List UInt8) : Option Bytes :=
  if s[8]? = some 45 ∧ s[13]? = some 45 ∧ s[18]? = some 45 ∧ s[23]? = some 45 then
    pairs? (s.take 8 ++ (s.drop 9).take 4 ++ (s.drop 14).take 4 ++ (s.drop 19).take 4 ++
      (s.drop 24).take 12)
  else none

/-- Lowercases an ASCII letter byte. -/
def lowerByte (b : UInt8) : UInt8 := if 65 ≤ b ∧ b ≤ 90 then b + 32 else b

/-- Reads the text of a GUID in any accepted form. -/
def parse (s : String) : Except ParseError Guid :=
  let b := s.toUTF8.toList
  let fromBytes : Option Bytes → Except ParseError Guid := fun r =>
    match r.bind ofBytes? with
    | some g => .ok g
    | none => .error .badFormat
  match b.length with
  | 36 => fromBytes (dashed? b)
  | 45 =>
    if (b.take 9).map lowerByte = "urn:uuid:".toUTF8.toList then fromBytes (dashed? (b.drop 9))
    else .error (.badPrefix (b.take 9))
  | 38 => fromBytes (dashed? (b.drop 1))
  | 32 => fromBytes (pairs? b)
  | n => .error (.badLength n)

end Guid

end MailStore
