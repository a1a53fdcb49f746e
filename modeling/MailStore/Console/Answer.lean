import MailStore.Json.Basic
import MailStore.Prop.Codec
import MailStore.Prop.Column
import MailStore.Failure

/-!
# Console answers

The console answers each request with a JSON object: `{"result": …}` on success, and
`{"error": kind, "message": …}` on failure, where the kind names the failure's cause in
snake case (`inconsistent`, `driver_not_found`, …; a failure known only by its message is
`error`). This module also fixes how values, properties and identifiers are shown.
-/

namespace MailStore

namespace Console

/-- The kind of a failure as the console names it. -/
def kindName : Cause → String
  | .badRequest => "bad_input"
  | .unknownName => "no_such"
  | .inconsistent => "inconsistent"
  | .streamTooLarge => "stream_too_large"
  | .streamClosed => "stream_closed"
  | .notFound => "not_found"
  | .storeReleased => "store_released"
  | .noEntry => "driver_not_found"
  | .wrongType => "wrong_type"
  | .unknownAccount => "unknown_account"
  | .injected => "injected"
  | .other => "error"

/-- A successful answer. -/
def ok (j : Json) : Json := .object [("result", j)]

/-- A failed answer. -/
def failed (f : Failure) : Json :=
  .object [("error", .str (kindName f.cause)), ("message", .str f.message)]

/-- The answer of an outcome. -/
def answer : Except Failure Json → Json
  | .ok j => ok j
  | .error f => failed f

/-- A malformed request. -/
def badRequest (message : String) : Failure := ⟨.badRequest, message⟩

/-! ### Values -/

/-- A value as the console shows it: its kind and its value (text that is not UTF-8 as
`value_hex`, instants in RFC 3339, bytes in hexadecimal, a stream by its encoding). -/
def value : Option Value → Json
  | none => .null
  | some (.int n) => .object [("kind", .str "integer"), ("value", .int n.toInt)]
  | some (.bool b) => .object [("kind", .str "boolean"), ("value", .bool b)]
  | some (.string t) =>
    if t.isValid then .object [("kind", .str "string"), ("value", .string t)]
    else .object [("kind", .str "string"), ("value_hex", .str (Bytes.toHex t.bytes))]
  | some (.guid g) => .object [("kind", .str "guid"), ("value", .str g.toText)]
  | some (.dateTime t) => .object [("kind", .str "datetime"), ("value", .str t.rfc3339)]
  | some (.binary b) => .object [("kind", .str "binary"), ("value", .str (Bytes.toHex b))]
  | some (.stream s) => .object [("kind", .str "stream"), ("encoding", .str s.encoding.name)]

/-- A tag as `0x` and eight uppercase digits. -/
def tag (t : Tag) : Json := .str t.toText

/-- A raw property: its tag and its payload in hexadecimal. -/
def rawProp (p : RawProp) : Json :=
  .object [("tag", tag p.tag), ("data", .str (Bytes.toHex p.data))]

/-- A named identifier with all four fields. -/
def namedId (n : NamedId) : Json :=
  .object [("propset", .str n.propSet.toText), ("kind", .nat n.kind.toNat),
    ("lid", .int n.lid.toInt), ("name", .str n.name)]

/-- A property id with its text. -/
def propertyId : PropertyId → Json
  | .numeric n => .object [("num", .nat n.toNat), ("str", .str (PropertyId.toText (.numeric n)))]
  | .named n => .object [("named", namedId n), ("str", .str (PropertyId.toText (.named n)))]

end Console

end MailStore
