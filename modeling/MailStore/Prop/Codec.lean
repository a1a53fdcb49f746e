import MailStore.Prop.Tag
import MailStore.Prop.Value
import MailStore.Text.Utf16
import MailStore.Time.FileTime
import MailStore.Failure

/-!
# The value codec

A raw property is a tag and its little-endian payload. Decoding dispatches on the wire
type: the integer types and booleans, GUIDs and FILETIMEs need a payload of their exact
width and fail as a broken store contract otherwise; narrow text keeps its bytes less
trailing zero bytes; wide text is read as UTF-16 and fails on an odd length; bytes are
kept; every other type decodes to no value. Encoding goes the other way and picks the
wire type from the value: 32-bit integers when the value fits, 64-bit otherwise, wide
text for strings.
-/

namespace MailStore

/-- A property as a store returns it: a tag and its wire payload. -/
structure RawProp where
  /-- The tag, whose type says how to read the payload. -/
  tag : Tag
  /-- The little-endian payload. -/
  data : Bytes
deriving DecidableEq, Inhabited, Repr

namespace RawProp

/-- The error code of an error property with a four-byte payload. -/
def errorCode? (p : RawProp) : Option UInt32 :=
  if p.tag.type = PropType.error ∧ p.data.length = 4 then
    some (Bytes.toNatLE p.data).toUInt32
  else none

/-- An error property carrying a code in place of a value. -/
def errorProp (id : UInt16) (code : UInt32) : RawProp :=
  ⟨Tag.make PropType.error id, Bytes.ofNatLE 4 code.toNat⟩

end RawProp

namespace Codec

/-- The signed number of `bits` bits whose two's complement is `n`. -/
def signed (bits n : Nat) : Int :=
  if n < Nat.pow 2 (bits - 1) then n else (n : Int) - Int.pow 2 bits

/-- Fails unless the payload has `n` bytes. -/
def expectLength (p : RawProp) (n : Nat) : Except Failure Unit :=
  if p.data.length = n then .ok ()
  else .error (Failure.inconsistent ("tag " ++ p.tag.toText ++ " has " ++
    toString p.data.length ++ " payload bytes, want " ++ toString n))

/-- Reads a raw property as a value. -/
def decode (p : RawProp) : Except Failure (Option Value) :=
  let t := p.tag.type
  if t = PropType.i2 then do
    expectLength p 2
    pure (some (.int (Int.toInt64 (signed 16 (Bytes.toNatLE p.data)))))
  else if t = PropType.long then do
    expectLength p 4
    pure (some (.int (Int.toInt64 (signed 32 (Bytes.toNatLE p.data)))))
  else if t = PropType.i8 then do
    expectLength p 8
    pure (some (.int (Int.toInt64 (signed 64 (Bytes.toNatLE p.data)))))
  else if t = PropType.boolean then do
    expectLength p 2
    pure (some (.bool (Bytes.toNatLE p.data != 0)))
  else if t = PropType.string8 then
    pure (some (.string ⟨Text.trimNul p.data⟩))
  else if t = PropType.unicode then do
    let s ← Utf16.decode p.data
    pure (some (.string s))
  else if t = PropType.clsid then do
    expectLength p 16
    pure ((Guid.ofBytes? p.data).map .guid)
  else if t = PropType.sysTime then do
    expectLength p 8
    pure (some (.dateTime (Instant.ofFileTime (Bytes.toNatLE p.data).toUInt64)))
  else if t = PropType.binary then
    pure (some (.binary p.data))
  else pure none

/-- Whether an integer fits in 32 signed bits. -/
def fitsLong (n : Int64) : Bool := -2147483648 ≤ n.toInt && n.toInt < 2147483648

/-- The raw property of a value under a property id. Streams and the absent value have no
wire form. -/
def encode (id : UInt16) : Option Value → Except Failure RawProp
  | some (.int n) =>
    if fitsLong n then
      .ok ⟨Tag.make PropType.long id, Bytes.ofNatLE 4 (n.toInt % Int.pow 2 32).toNat⟩
    else .ok ⟨Tag.make PropType.i8 id, Bytes.ofNatLE 8 n.toUInt64.toNat⟩
  | some (.bool b) => .ok ⟨Tag.make PropType.boolean id, Bytes.ofNatLE 2 (if b then 1 else 0)⟩
  | some (.string s) => .ok ⟨Tag.make PropType.unicode id, Utf16.encode s⟩
  | some (.guid g) => .ok ⟨Tag.make PropType.clsid id, g.toBytes⟩
  | some (.dateTime t) => .ok ⟨Tag.make PropType.sysTime id, Bytes.ofNatLE 8 t.toFileTime.toNat⟩
  | some (.binary b) => .ok ⟨Tag.make PropType.binary id, b⟩
  | some (.stream _) => .error (Failure.other "cannot encode value of type *mapi.StreamValue")
  | none => .error (Failure.other "cannot encode value of type <nil>")

end Codec

end MailStore
