import MailStore.Bytes

/-!
# Text that may not be UTF-8

A string property of the narrow type keeps whatever bytes the store holds, so text in this
library is a byte string meant as UTF-8 but not promised to be. `Text` is that byte
string. Reading its characters follows the strict UTF-8 table: a byte that does not start
a well-formed sequence (an overlong form, a surrogate, a code point past `U+10FFFF`, a cut
sequence) stands for one replacement character `U+FFFD` and reading goes on at the next
byte.
-/

namespace MailStore

/-- Text as a property carries it: bytes meant as UTF-8 that need not be well formed. -/
structure Text where
  /-- The bytes of the text. -/
  bytes : Bytes
deriving DecidableEq, Inhabited, Hashable, Ord, Repr

namespace Text

/-! ### Reading one character -/

/-- Whether a byte continues a multi-byte sequence (`10xxxxxx`). -/
def isCont (b : UInt8) : Bool := 0x80 ≤ b && b ≤ 0xBF

/-- The character of a code point, which must be a scalar value. -/
def scalar (n : Nat) : Char := Char.ofNat n

/-- The character at the head of a byte string and how many bytes past the first it
uses, when the head is a well-formed UTF-8 sequence. The range of the second byte
excludes overlong forms, surrogates and code points past `U+10FFFF`. -/
def decodeHead : Bytes → Option (Char × Fin 4)
  | [] => none
  | b0 :: r0 =>
    if b0 < 0x80 then some (scalar b0.toNat, 0)
    else if 0xC2 ≤ b0 ∧ b0 ≤ 0xDF then
      match r0 with
      | b1 :: _ =>
        if isCont b1 then some (scalar ((b0.toNat % 32) * 64 + b1.toNat % 64), 1)
        else none
      | [] => none
    else if 0xE0 ≤ b0 ∧ b0 ≤ 0xEF then
      match r0 with
      | b1 :: b2 :: _ =>
        let lo : UInt8 := if b0 = 0xE0 then 0xA0 else 0x80
        let hi : UInt8 := if b0 = 0xED then 0x9F else 0xBF
        if lo ≤ b1 ∧ b1 ≤ hi ∧ isCont b2 then
          some (scalar ((b0.toNat % 16) * 4096 + (b1.toNat % 64) * 64 + b2.toNat % 64), 2)
        else none
      | _ => none
    else if 0xF0 ≤ b0 ∧ b0 ≤ 0xF4 then
      match r0 with
      | b1 :: b2 :: b3 :: _ =>
        let lo : UInt8 := if b0 = 0xF0 then 0x90 else 0x80
        let hi : UInt8 := if b0 = 0xF4 then 0x8F else 0xBF
        if lo ≤ b1 ∧ b1 ≤ hi ∧ isCont b2 ∧ isCont b3 then
          some (scalar ((b0.toNat % 8) * 262144 + (b1.toNat % 64) * 4096
            + (b2.toNat % 64) * 64 + b3.toNat % 64), 3)
        else none
      | _ => none
    else none

/-- The characters of a byte string read as UTF-8, one replacement character for each
byte that starts no well-formed sequence. -/
def runes : Bytes → List Char
  | [] => []
  | x :: rest =>
    match decodeHead (x :: rest) with
    | some (c, w) => c :: runes (rest.drop w.val)
    | none => '\uFFFD' :: runes rest
termination_by b => b.length
decreasing_by all_goals simp only [List.length_drop, List.length_cons]; omega

/-- Whether a byte string is well-formed UTF-8 throughout. -/
def validBytes : Bytes → Bool
  | [] => true
  | x :: rest =>
    match decodeHead (x :: rest) with
    | some (_, w) => validBytes (rest.drop w.val)
    | none => false
termination_by b => b.length
decreasing_by simp only [List.length_drop, List.length_cons]; omega

/-! ### Text -/

/-- The UTF-8 bytes of a string. -/
def ofString (s : String) : Text := ⟨s.toUTF8.toList⟩

/-- The empty text. -/
def empty : Text := ⟨[]⟩

/-- Whether the text is well-formed UTF-8. -/
def isValid (t : Text) : Bool := validBytes t.bytes

/-- The characters of the text, a replacement character for each ill-formed byte. -/
def chars (t : Text) : List Char := runes t.bytes

/-- The text as a string, a replacement character for each ill-formed byte. -/
def toString (t : Text) : String := String.ofList t.chars

/-- Whether the text has no bytes. -/
def isEmpty (t : Text) : Bool := t.bytes.isEmpty

/-- The text of the concatenated bytes. -/
def append (a b : Text) : Text := ⟨a.bytes ++ b.bytes⟩

instance : Append Text := ⟨append⟩

/-- Drops trailing zero bytes, the terminator a narrow string may carry. -/
def trimNul (b : Bytes) : Bytes :=
  (b.reverse.dropWhile (· == 0)).reverse

theorem ofString_bytes (s : String) : (ofString s).bytes = s.toUTF8.toList := rfl

end Text

end MailStore
