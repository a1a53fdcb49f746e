import MailStore.Console.Answer
import MailStore.Number.IntLiteral
import MailStore.Time.Instant

/-!
# Reading console requests

Requests are JSON objects. A missing or `null` field takes its zero value. Numbers are JSON
numbers or strings in integer-literal syntax (`"0x0037001F"`, `"-5"`), read with the base
their prefix gives; bytes are hexadecimal strings. Values, raw properties, named
identifiers and property ids have the shapes the answers use.
-/

namespace MailStore

namespace Console

/-- A field of a request; `null` counts as absent. -/
def field? (req : Json) (key : String) : Option Json :=
  match req.get? key with
  | some .null => none
  | other => other

/-- The text of a number field, as written or given as a string. -/
def numberText? : Json → Option String
  | .number t => some t
  | .string t => some t.toString
  | _ => none

/-- A signed integer field, zero when absent. -/
def intField (req : Json) (key : String) : Except Failure Int :=
  match field? req key with
  | none => .ok 0
  | some j =>
    match numberText? j with
    | some t => IntLiteral.readSigned t 64
    | none => .error (badRequest (key ++ ": number expected"))

/-- An unsigned integer field of at most `bits` bits, zero when absent. -/
def natField (req : Json) (key : String) (bits : Nat) : Except Failure Nat :=
  match field? req key with
  | none => .ok 0
  | some j =>
    match numberText? j with
    | some t => IntLiteral.readUnsigned t bits
    | none => .error (badRequest (key ++ ": number expected"))

/-- How the console names the shape of a value it cannot use: `<nil>` for `null`, and the
names of the decoded shapes otherwise. -/
def shapeName : Json → String
  | .null => "<nil>"
  | .bool _ => "bool"
  | .number _ => "json.Number"
  | .string _ => "string"
  | .array _ => "[]interface \x7b\x7d"
  | .object _ => "map[string]interface \x7b\x7d"

mutual
/-- A value written plainly, as messages quote a value they refuse: the text of a string,
the digits of a number, `<nil>` for `null`, lists in brackets with spaces between the
elements, and objects as `map[` with their members sorted by name. -/
def plainText : Json → String
  | .null => "<nil>"
  | .bool b => toString b
  | .number t => t
  | .string t => t.toString
  | .array xs => "[" ++ " ".intercalate (plainItems xs) ++ "]"
  | .object ms =>
    let sorted := (plainMembers ms).mergeSort fun a b => decide (a.1.toUTF8.toList ≤ b.1.toUTF8.toList)
    "map[" ++ " ".intercalate (sorted.map fun (k, v) => k ++ ":" ++ v) ++ "]"

/-- Elements written plainly. -/
def plainItems : List Json → List String
  | [] => []
  | x :: rest => plainText x :: plainItems rest

/-- Members with their values written plainly. -/
def plainMembers : List (String × Json) → List (String × String)
  | [] => []
  | (k, v) :: rest => (k, plainText v) :: plainMembers rest
end

/-- An integer given as a JSON value: a number or integer-literal text. -/
def intOf (j : Json) : Except Failure Int :=
  match numberText? j with
  | some t => IntLiteral.readSigned t 64
  | none => .error (badRequest ("expected an integer, got " ++ shapeName j))

/-- The text of a string value; empty for any other value. -/
def stringOr : Json → String
  | .string t => t.toString
  | _ => ""

/-- The string of a field, empty when it is absent or no string. -/
def textOr (req : Json) (key : String) : String :=
  stringOr ((req.get? key).getD .null)

/-- A string field, empty when absent. -/
def strField (req : Json) (key : String) : Except Failure String :=
  match field? req key with
  | none => .ok ""
  | some (.string t) => .ok t.toString
  | some _ => .error (badRequest (key ++ ": string expected"))

/-- A boolean field, false when absent. -/
def boolField (req : Json) (key : String) : Except Failure Bool :=
  match field? req key with
  | none => .ok false
  | some (.bool b) => .ok b
  | some _ => .error (badRequest (key ++ ": boolean expected"))

/-- Bytes given in hexadecimal. -/
def hexOf (key : String) (j : Json) : Except Failure Bytes :=
  match j with
  | .string t =>
    match Bytes.ofHex t.toString with
    | .ok b => .ok b
    | .error _ => .error (badRequest (key ++ ": invalid hex"))
  | _ => .error (badRequest (key ++ ": invalid hex"))

/-- A hexadecimal field, empty when absent. -/
def hexField (req : Json) (key : String) : Except Failure Bytes :=
  match field? req key with
  | none => .ok []
  | some j => hexOf key j

/-- A list field, empty when absent. -/
def listField (req : Json) (key : String) : Except Failure (List Json) :=
  match field? req key with
  | none => .ok []
  | some (.array xs) => .ok xs
  | some _ => .error (badRequest (key ++ ": list expected"))

/-- A tag given as a number or integer-literal text of at most 32 bits; anything else is
refused with the value as given. -/
def tagOf (j : Json) : Except Failure Tag :=
  match numberText? j with
  | some t =>
    match IntLiteral.readUnsigned t 32 with
    | .ok n => .ok ⟨n.toUInt32⟩
    | .error _ => .error (badRequest ("invalid tag " ++ t))
  | none => .error (badRequest ("invalid tag " ++ plainText j))

/-- An unsigned integer of at most `bits` bits given as a JSON value. -/
def natOf (j : Json) (bits : Nat) : Except Failure Nat :=
  match numberText? j with
  | some t => IntLiteral.readUnsigned t bits
  | none => .error (badRequest ("expected an integer, got " ++ shapeName j))

/-! ### Values -/

/-- A GUID given as text in any accepted form. -/
def guidOf (s : String) : Except Failure Guid :=
  match Guid.parse s with
  | .ok g => .ok g
  | .error _ => .error (badRequest ("invalid guid " ++ Quote.string s))

/-- Bytes of a member that has to be hexadecimal text, refused with `message` otherwise. -/
def hexMember (j : Json) (key message : String) : Except Failure Bytes :=
  match j.get? key with
  | some (.string t) =>
    match Bytes.ofHex t.toString with
    | .ok b => .ok b
    | .error _ => .error (badRequest message)
  | _ => .error (badRequest message)

/-- A value in the answers' shape, from an object. The member `kind` names the kind (a
kind that is not a string is the empty name); an integer takes a number or integer-literal
text, a string takes `value_hex` when that is a string and `value` otherwise, a GUID and an
instant take the text of `value` (empty when it is no string), bytes take hexadecimal text.
A stream value is given the handle `handle`. -/
def valueOf (handle : Nat) (j : Json) : Except Failure Value := do
  match textOr j "kind" with
  | "integer" => pure (.int (Int.toInt64 (← intOf ((j.get? "value").getD .null))))
  | "boolean" =>
    match j.get? "value" with
    | some (.bool b) => pure (.bool b)
    | _ => throw (badRequest "boolean value expected")
  | "string" =>
    match j.get? "value_hex" with
    | some (.string _) => pure (.string ⟨← hexMember j "value_hex" "value_hex must be a hex string"⟩)
    | _ =>
      match j.get? "value" with
      | some (.string t) => pure (.string t)
      | _ => throw (badRequest "string value expected")
  | "guid" => pure (.guid (← guidOf (textOr j "value")))
  | "datetime" =>
    let s := textOr j "value"
    match Instant.parseRfc3339? s with
    | some t => pure (.dateTime t)
    | none => throw (badRequest ("invalid datetime " ++ Quote.string s))
  | "binary" => pure (.binary (← hexMember j "value" "value must be a hex string"))
  | "stream" =>
    let e ← intField j "encoding"
    pure (.stream ⟨handle, StreamEncoding.ofCode e⟩)
  | other => throw (badRequest ("unknown value kind " ++ Quote.string other))

/-- A raw property: a tag with hexadecimal data, or a tag with a value object that is encoded
under the tag's property id, replacing the tag's type. -/
def rawPropOf (j : Json) : Except Failure RawProp := do
  let t ← match field? j "tag" with
    | some tj => tagOf tj
    | none => pure Tag.null
  match j.get? "value" with
  | some (.object ms) =>
    let value ← valueOf 0 (.object ms)
    Codec.encode t.id (some value)
  | _ => pure ⟨t, ← hexField j "data"⟩

/-- A named identifier. The kind is the member `kind` when it is given, else a string name
when a member `name` is given (even `null`), else a numeric one; a name that is no string is
the empty name. -/
def namedIdOf (j : Json) : Except Failure NamedId := do
  let propSet ← guidOf (textOr j "propset")
  let kind ← match j.get? "kind" with
    | some k => do pure (← natOf k 32).toUInt32
    | none => pure (if (j.get? "name").isSome then NamedId.kindString else NamedId.kindId)
  let lid ← intField j "lid"
  pure ⟨propSet, kind, Int.toInt32 lid, textOr j "name"⟩

/-- A property id: `{"named": id}` when `named` is an object, else `{"num": n}` with a
number of at most 32 bits. -/
def propertyIdOf (j : Json) : Except Failure PropertyId := do
  match j.get? "named" with
  | some (.object ms) => pure (.named (← namedIdOf (.object ms)))
  | _ =>
    match (j.get? "num").bind numberText? with
    | some t =>
      match IntLiteral.readUnsigned t 32 with
      | .ok n => pure (.numeric n.toUInt32)
      | .error _ => throw (badRequest "invalid num")
    | none => throw (badRequest "invalid num")

/-- A column: a property id and a type given by name or by number. -/
def columnOf (j : Json) : Except Failure Column := do
  let id ← match field? j "id" with
    | some i => propertyIdOf i
    | none => pure (.numeric 0)
  let type ← match field? j "type" with
    | some (.string t) => ColumnType.parse t.toString
    | some other => do pure ⟨← intOf other⟩
    | none => pure ColumnType.integer
  pure ⟨id, type⟩

end Console

end MailStore
