import MailStore.Text.Utf8
import MailStore.Guid
import MailStore.Time.Instant

/-!
# Property values

A decoded property value is an integer (64-bit), a boolean, text, a GUID, an instant,
bytes, or a stream that has not been read yet. A stream value names an open property
stream by a handle, so two stream values are the same stream exactly when their handles
agree; copying a stream value copies the handle, and every copy reads the same stream.
A property with no value (an unknown wire type, an error code, an unresolved id) is
`none` of `Option Value`.
-/

namespace MailStore

/-- How the bytes of a stream are read once fetched. -/
inductive StreamEncoding where
  /-- As bytes. -/
  | binary
  /-- As UTF-16 text. -/
  | utf16
  /-- As UTF-8 text. -/
  | utf8
  /-- No known encoding; read as bytes. -/
  | unknown
deriving DecidableEq, Repr, Inhabited

namespace StreamEncoding

/-- The encoding with a numeric code: 1, 2 and 3 are bytes, UTF-16 and UTF-8. -/
def ofCode (n : Int) : StreamEncoding :=
  if n = 1 then .binary else if n = 2 then .utf16 else if n = 3 then .utf8 else .unknown

/-- The name of an encoding. -/
def name : StreamEncoding → String
  | .binary => "binary"
  | .utf16 => "utf16"
  | .utf8 => "utf8"
  | .unknown => "unknown"

end StreamEncoding

/-- A stream that has been opened and not read: its handle and encoding. -/
structure StreamRef where
  /-- Which open stream. -/
  handle : Nat
  /-- How to read its bytes. -/
  encoding : StreamEncoding
deriving DecidableEq, Repr, Inhabited

/-- The kinds of values, in their numeric order. -/
inductive ValueKind where
  | integer | boolean | string | guid | dateTime | binary | stream
deriving DecidableEq, Repr, Inhabited

namespace ValueKind

/-- The name of a kind. -/
def name : ValueKind → String
  | .integer => "integer"
  | .boolean => "boolean"
  | .string => "string"
  | .guid => "guid"
  | .dateTime => "datetime"
  | .binary => "binary"
  | .stream => "stream"

/-- The kind with a numeric code, 0 to 6. -/
def ofCode? (n : Int) : Option ValueKind :=
  match n with
  | 0 => some .integer
  | 1 => some .boolean
  | 2 => some .string
  | 3 => some .guid
  | 4 => some .dateTime
  | 5 => some .binary
  | 6 => some .stream
  | _ => none

/-- The name of a numeric kind code; `unknown` outside 0 to 6. -/
def nameOfCode (n : Int) : String :=
  match ofCode? n with
  | some k => k.name
  | none => "unknown"

end ValueKind

/-- A decoded property value. -/
inductive Value where
  /-- A signed integer of any of the integer wire types. -/
  | int (n : Int64)
  /-- A boolean. -/
  | bool (b : Bool)
  /-- Text, of either string wire type. -/
  | string (t : Text)
  /-- A GUID. -/
  | guid (g : Guid)
  /-- An instant. -/
  | dateTime (t : Instant)
  /-- Bytes. -/
  | binary (b : Bytes)
  /-- A stream not read yet. -/
  | stream (s : StreamRef)
deriving DecidableEq, Inhabited

namespace Value

/-- The kind of a value. -/
def kind : Value → ValueKind
  | .int _ => .integer
  | .bool _ => .boolean
  | .string _ => .string
  | .guid _ => .guid
  | .dateTime _ => .dateTime
  | .binary _ => .binary
  | .stream _ => .stream

/-- Text of a string. -/
def ofString (s : String) : Value := .string (Text.ofString s)

/-- Two values are equal as the model compares them: instants by the moment they denote,
everything else by content, streams by identity. -/
def same (a b : Value) : Bool := decide (a = b)

end Value

end MailStore
