import MailStore.Failure
import MailStore.Text.Utf8

/-!
# UTF-16 text

Wide string properties hold UTF-16 code units, least significant byte first, with no byte
order mark added or removed. Reading drops every trailing zero unit (a terminator, or
several), pairs each high surrogate with a following low surrogate, and gives a
replacement character `U+FFFD` for a surrogate that is not so paired; a low surrogate
followed by another low surrogate is taken as one ill-formed pair. Writing turns each
character into one unit or a surrogate pair; an ill-formed byte of the text is written as
`U+FFFD`.
-/

namespace MailStore

namespace Utf16

/-- Whether a unit is a low (trailing) surrogate. -/
def isLow (u : UInt16) : Bool := 0xDC00 ≤ u && u ≤ 0xDFFF

/-- Whether a unit is any surrogate. -/
def isSurrogate (u : UInt16) : Bool := 0xD800 ≤ u && u ≤ 0xDFFF

/-- The characters of a list of code units. A surrogate followed by a low surrogate takes
both units and gives their character when the first is a high surrogate, else `U+FFFD`;
any other surrogate gives `U+FFFD` alone. -/
def decodeUnits : List UInt16 → List Char
  | [] => []
  | [u] => [if isSurrogate u then '�' else Char.ofNat u.toNat]
  | u :: v :: rest =>
    if isSurrogate u then
      if isLow v then
        (if u ≤ 0xDBFF then
          Char.ofNat (0x10000 + (u.toNat - 0xD800) * 0x400 + (v.toNat - 0xDC00))
        else '�') :: decodeUnits rest
      else '�' :: decodeUnits (v :: rest)
    else Char.ofNat u.toNat :: decodeUnits (v :: rest)

/-- The code units of a character: one below `U+10000`, else a surrogate pair. -/
def encodeChar (c : Char) : List UInt16 :=
  let n := c.toNat
  if n < 0x10000 then [n.toUInt16]
  else
    let m := n - 0x10000
    [(0xD800 + m / 0x400).toUInt16, (0xDC00 + m % 0x400).toUInt16]

/-- The little-endian units of a byte string of even length. -/
def unitsOf : Bytes → List UInt16
  | lo :: hi :: rest => (lo.toUInt16 ||| (hi.toUInt16 <<< 8)) :: unitsOf rest
  | _ => []

/-- The little-endian bytes of a list of units. -/
def bytesOf (us : List UInt16) : Bytes :=
  us.flatMap fun (u : UInt16) => [u.toUInt8, (u >>> 8).toUInt8]

/-- Drops every trailing zero unit. -/
def trimNul (us : List UInt16) : List UInt16 :=
  (us.reverse.dropWhile (· == 0)).reverse

/-- The text of a UTF-16 payload, or a failure for an odd number of bytes. -/
def decode (b : Bytes) : Except Failure Text :=
  if b.length % 2 = 0 then
    .ok (Text.ofString (String.ofList (decodeUnits (trimNul (unitsOf b)))))
  else
    .error (Failure.inconsistent ("odd UTF-16 payload length " ++ toString b.length))

/-- The UTF-16 payload of a text, with no terminator. -/
def encode (t : Text) : Bytes :=
  bytesOf (t.chars.flatMap encodeChar)

/-- The UTF-16 payload of a string. -/
def encodeString (s : String) : Bytes :=
  bytesOf (s.toList.flatMap encodeChar)

theorem length_bytesOf (us : List UInt16) : (bytesOf us).length = 2 * us.length := by
  induction us with
  | nil => rfl
  | cons u rest ih => simp [bytesOf] at *; omega

end Utf16

end MailStore
