import MailStore.Bytes

/-!
# Property tags

A property tag is a 32-bit word: the property id in the high sixteen bits and the wire
type in the low sixteen. Ids from `0x8000` up are named properties, whose meaning each
store assigns through its name registry. A tag is written `0x` and eight uppercase
hexadecimal digits.
-/

namespace MailStore

/-- The wire type of a property, the low sixteen bits of its tag. -/
structure PropType where
  /-- The type code. -/
  code : UInt16
deriving DecidableEq, Hashable, Ord, Inhabited, Repr

namespace PropType

/-- No type: a request for whatever type is stored. -/
def unspecified : PropType := ⟨0x0000⟩
/-- The null type. -/
def null : PropType := ⟨0x0001⟩
/-- A signed 16-bit integer. -/
def i2 : PropType := ⟨0x0002⟩
/-- A signed 32-bit integer. -/
def long : PropType := ⟨0x0003⟩
/-- An error code in place of a value. -/
def error : PropType := ⟨0x000A⟩
/-- A boolean in 16 bits. -/
def boolean : PropType := ⟨0x000B⟩
/-- A signed 64-bit integer. -/
def i8 : PropType := ⟨0x0014⟩
/-- Narrow text of any bytes. -/
def string8 : PropType := ⟨0x001E⟩
/-- UTF-16 text. -/
def unicode : PropType := ⟨0x001F⟩
/-- A FILETIME. -/
def sysTime : PropType := ⟨0x0040⟩
/-- A GUID. -/
def clsid : PropType := ⟨0x0048⟩
/-- Bytes. -/
def binary : PropType := ⟨0x0102⟩

end PropType

/-- A property tag: the property id in the high half, the wire type in the low half. -/
structure Tag where
  /-- The 32-bit word. -/
  code : UInt32
deriving DecidableEq, Hashable, Ord, Inhabited, Repr

namespace Tag

/-- The tag of a property id with a wire type. -/
def make (type : PropType) (id : UInt16) : Tag :=
  ⟨(id.toUInt32 <<< 16) ||| type.code.toUInt32⟩

/-- The property id. -/
def id (t : Tag) : UInt16 := (t.code >>> 16).toUInt16

/-- The wire type. -/
def type (t : Tag) : PropType := ⟨t.code.toUInt16⟩

/-- The same property id with another wire type. -/
def withType (t : Tag) (type : PropType) : Tag := make type t.id

/-- The zero tag, which stands for no property. -/
def null : Tag := ⟨0⟩

/-- Property ids from `0x8000` up belong to named properties. -/
def namedThreshold : UInt16 := 0x8000

/-- Whether the id is in the named range. -/
def isNamed (t : Tag) : Bool := t.id ≥ namedThreshold

/-- A tag made from a type and an id has that id. -/
@[simp]
theorem id_make (type : PropType) (id : UInt16) : (make type id).id = id := by
  simp only [make, Tag.id]
  apply UInt16.eq_of_toBitVec_eq
  ext i hi
  have hlow : ¬ 16 + i < 16 := by omega
  have hword : 16 + i < 32 := by omega
  have hwide : i < 32 := by omega
  simp [hi, hlow, hword, hwide]

/-- A tag made from a type and an id has that type. -/
@[simp]
theorem type_make (type : PropType) (id : UInt16) : (make type id).type = type := by
  simp only [make, Tag.type]
  congr 1
  apply UInt16.eq_of_toBitVec_eq
  ext i hi
  simp

/-- `width` uppercase hexadecimal digits of `n`. -/
def hexUpper (width n : Nat) : String :=
  String.ofList
    ((List.range width).reverse.map fun i => Bytes.hexDigitUpper (n / Nat.pow 16 i % 16))

/-- `0x` and eight uppercase hexadecimal digits. -/
def toText (t : Tag) : String := "0x" ++ hexUpper 8 t.code.toNat

/-! ### Well-known tags -/

/-- The entry id of an object. -/
def entryId : Tag := ⟨0x0FFF0102⟩
/-- The entry id of an object's parent folder. -/
def parentEntryId : Tag := ⟨0x0E090102⟩
/-- The display name. -/
def displayName : Tag := ⟨0x3001001F⟩
/-- The subject of a message. -/
def subject : Tag := ⟨0x0037001F⟩
/-- The subject without reply and forward prefixes. -/
def conversationTopic : Tag := ⟨0x0070001F⟩
/-- The id that groups a conversation. -/
def conversationId : Tag := ⟨0x30130102⟩
/-- The sender's display name. -/
def senderName : Tag := ⟨0x0C1A001F⟩
/-- The sender's address. -/
def senderEmail : Tag := ⟨0x0C1F001F⟩
/-- The carbon-copy recipients as shown. -/
def displayCc : Tag := ⟨0x0E03001F⟩
/-- The recipients as shown. -/
def displayTo : Tag := ⟨0x0E04001F⟩
/-- When a message arrived. -/
def deliveryTime : Tag := ⟨0x0E060040⟩
/-- The message flags; bit 0 means read. -/
def messageFlags : Tag := ⟨0x0E070003⟩
/-- The plain-text body. -/
def body : Tag := ⟨0x1000001F⟩
/-- The HTML body, as bytes. -/
def html : Tag := ⟨0x10130102⟩
/-- The internet message id. -/
def internetMessageId : Tag := ⟨0x1035001F⟩
/-- When the object last changed. -/
def lastModified : Tag := ⟨0x30080040⟩
/-- A short preview of the body. -/
def preview : Tag := ⟨0x3FD9001F⟩
/-- How many messages a folder holds. -/
def contentCount : Tag := ⟨0x36020003⟩
/-- How many of them are unread. -/
def contentUnread : Tag := ⟨0x36030003⟩
/-- Whether a folder has child folders. -/
def subfolders : Tag := ⟨0x360A000B⟩
/-- The kind of items a folder holds. -/
def containerClass : Tag := ⟨0x3613001F⟩
/-- Whether a store is the default one. -/
def defaultStore : Tag := ⟨0x3400000B⟩
/-- The name of the store's provider. -/
def providerName : Tag := ⟨0x3D13001F⟩
/-- The entry id of the top folder of the store's folder tree. -/
def ipmSubtree : Tag := ⟨0x35E00102⟩
/-- The entry id of the outbox. -/
def ipmOutbox : Tag := ⟨0x35E20102⟩
/-- The entry id of the deleted items folder. -/
def ipmWastebasket : Tag := ⟨0x35E30102⟩
/-- The entry id of the sent items folder. -/
def ipmSentMail : Tag := ⟨0x35E40102⟩
/-- The entry id of the calendar. -/
def ipmAppointment : Tag := ⟨0x36D00102⟩
/-- The entry id of the contacts folder. -/
def ipmContact : Tag := ⟨0x36D10102⟩
/-- The entry id of the tasks folder. -/
def ipmTask : Tag := ⟨0x36D40102⟩
/-- The entry id of the archive folder. -/
def ipmArchive : Tag := ⟨0x35FF0102⟩
/-- The entry id of the drafts folder. -/
def ipmDrafts : Tag := ⟨0x36D70102⟩

end Tag

/-! ### Error codes a store puts in place of a value -/

namespace ErrorCode

/-- The property does not exist, or not in the requested type. -/
def notFound : UInt32 := 0x8004010F

/-- The value is too large for a bulk read; it has to be streamed. -/
def notEnoughMemory : UInt32 := 0x8007000E

end ErrorCode

/-- Bit 0 of the message flags: the message has been read. -/
def messageFlagRead : Nat := 1

end MailStore
