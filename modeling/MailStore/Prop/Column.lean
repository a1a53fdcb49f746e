import MailStore.Prop.Named
import MailStore.Prop.Value
import MailStore.Failure

/-!
# Columns

A caller asks for a property as a column: a property id and the type of value expected.
The six column types map onto the wire types of a fetch (integer to 32-bit integers,
string to wide text, and so on); a column type outside them is a broken contract. When a
value is too large to fetch in bulk it is streamed, as bytes for binary columns, as UTF-16
for string columns, and with no known encoding otherwise.
-/

namespace MailStore

/-- A column type, by its number; 0 to 5 are the known types. -/
structure ColumnType where
  /-- The type number. -/
  index : Int
deriving DecidableEq, Inhabited, Repr

namespace ColumnType

/-- Integers. -/
def integer : ColumnType := ⟨0⟩
/-- Booleans. -/
def boolean : ColumnType := ⟨1⟩
/-- Text. -/
def string : ColumnType := ⟨2⟩
/-- GUIDs. -/
def guid : ColumnType := ⟨3⟩
/-- Instants. -/
def dateTime : ColumnType := ⟨4⟩
/-- Bytes. -/
def binary : ColumnType := ⟨5⟩

/-- The wire type fetched for a column type. -/
def wireType (c : ColumnType) : Except Failure PropType :=
  match c.index with
  | 0 => .ok PropType.long
  | 1 => .ok PropType.boolean
  | 2 => .ok PropType.unicode
  | 3 => .ok PropType.clsid
  | 4 => .ok PropType.sysTime
  | 5 => .ok PropType.binary
  | n => .error (Failure.inconsistent ("column type " ++ toString n))

/-- How a streamed value of the column type is read. -/
def streamEncoding (c : ColumnType) : StreamEncoding :=
  if c.index = 5 then .binary else if c.index = 2 then .utf16 else .unknown

/-- The column type of a lowercase name. -/
def parse (s : String) : Except Failure ColumnType :=
  match s with
  | "integer" | "int" => .ok integer
  | "boolean" | "bool" => .ok boolean
  | "string" => .ok string
  | "guid" => .ok guid
  | "datetime" | "time" => .ok dateTime
  | "binary" => .ok binary
  | _ => .error (Failure.other ("unknown column type: " ++ s))

end ColumnType

/-- A requested property: its id and the type of value expected. -/
structure Column where
  /-- The property id. -/
  id : PropertyId
  /-- The expected type. -/
  type : ColumnType
deriving DecidableEq, Inhabited, Repr

/-- A fetched property: its id and its value, if it has one. -/
structure Property where
  /-- The property id, as requested. -/
  id : PropertyId
  /-- The value; `none` when the property has none. -/
  value : Option Value
deriving DecidableEq, Inhabited

end MailStore
