import MailStore.Prop.Tag
import MailStore.Guid
import MailStore.Text.Quote

/-!
# Named property identifiers

A named property is addressed by a property set (a GUID), a kind, and either a numeric
local id (kind 0) or a string name (kind 1). Kinds other than 0 and 1 are carried along
and compare like names. Identifiers are ordered by the bytes of the property set, then the
kind, then the local id for kind 0 and the name, bytewise, otherwise; equality compares all
four fields, so two identifiers may be equal in that order and still differ.

A property id is either such a named identifier or a plain 32-bit number.
-/

namespace MailStore

/-- A named property identifier. -/
structure NamedId where
  /-- The property set. -/
  propSet : Guid
  /-- 0 for a numeric local id, 1 for a string name. -/
  kind : UInt32
  /-- The numeric local id, meaningful for kind 0. -/
  lid : Int32
  /-- The string name, meaningful for other kinds. -/
  name : String
deriving DecidableEq, Hashable, Inhabited, Repr

namespace NamedId

/-- The kind of identifiers with a numeric local id. -/
def kindId : UInt32 := 0

/-- The kind of identifiers with a string name. -/
def kindString : UInt32 := 1

/-- An identifier with a numeric local id. -/
def ofLid (propSet : Guid) (lid : Int32) : NamedId := ⟨propSet, kindId, lid, ""⟩

/-- An identifier with a string name. -/
def ofName (propSet : Guid) (name : String) : NamedId := ⟨propSet, kindString, 0, name⟩

/-- The order of identifiers: property set bytes, kind, then local id or name. -/
def compare (a b : NamedId) : Ordering :=
  match Ord.compare a.propSet b.propSet with
  | .eq =>
    match Ord.compare a.kind b.kind with
    | .eq =>
      if a.kind = kindId then Ord.compare a.lid.toInt b.lid.toInt
      else Ord.compare a.name.toUTF8.toList b.name.toUTF8.toList
    | o => o
  | o => o

/-- `0x` and the uppercase hexadecimal digits of a signed number, the sign after `0x`. -/
def signedHex (n : Int) : String :=
  let digits := if n.natAbs = 0 then "0" else
    String.ofList (Nat.toDigits 16 n.natAbs |>.map Char.toUpper)
  if n < 0 then "0x-" ++ digits else "0x" ++ digits

/-- The text of an identifier: the property set in braces, a colon, and the quoted name
for kind 1 or the local id in hexadecimal otherwise. -/
def toText (n : NamedId) : String :=
  let set := "\x7b" ++ n.propSet.toText ++ "\x7d:"
  if n.kind = kindString then set ++ Quote.string n.name
  else set ++ signedHex n.lid.toInt

/-- The public strings property set. -/
def psPublicStrings : Guid := ⟨0x0002032900000000, 0xC000000000000046⟩

/-- The internet headers property set. -/
def psInternetHeaders : Guid := ⟨0x0002038600000000, 0xC000000000000046⟩

/-- The common property set. -/
def psCommon : Guid := ⟨0x0006200800000000, 0xC000000000000046⟩

end NamedId

/-- A property id: a plain number or a named identifier. -/
inductive PropertyId where
  /-- A well-known numeric id. -/
  | numeric (n : UInt32)
  /-- A named identifier. -/
  | named (n : NamedId)
deriving DecidableEq, Inhabited, Repr

namespace PropertyId

/-- `0x` and at least four uppercase hexadecimal digits of a number. -/
def hexAtLeast4 (n : Nat) : String :=
  let d := String.ofList (Nat.toDigits 16 n |>.map Char.toUpper)
  "0x" ++ String.ofList (List.replicate (4 - d.length) '0') ++ d

/-- The text of a property id. -/
def toText : PropertyId → String
  | .numeric n => hexAtLeast4 n.toNat
  | .named n => n.toText

end PropertyId

/-- A tag as resolved from a property id, with the cached name it came from. The tag is
zero when resolution failed. -/
structure ResolvedTag where
  /-- The tag; zero for an id that could not be resolved. -/
  tag : Tag
  /-- The name of the cache entry that gave the tag, with the entry's number. -/
  name : Option (Nat × NamedId)
deriving DecidableEq, Inhabited, Repr

namespace ResolvedTag

/-- Whether resolution failed. -/
def absent (r : ResolvedTag) : Bool := r.tag = Tag.null

/-- The property id the tag stands for: its name if it has one, else its numeric id. -/
def propertyId (r : ResolvedTag) : PropertyId :=
  match r.name with
  | some (_, n) => .named n
  | none => .numeric r.tag.id.toUInt32

end ResolvedTag

end MailStore
