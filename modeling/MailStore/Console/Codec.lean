import MailStore.Console.Request
import MailStore.Folder.Special
import MailStore.Time.FileTime

/-!
# Console requests on the codec

Requests that exercise the value codec and the small vocabularies on their own: decoding
and encoding raw properties, UTF-16 text, FILETIME words, tags, column types, named
identifiers, special folder names, and the value kinds.
-/

namespace MailStore

namespace Console

/-- `decode`: a raw property read as a value, with its error code when it carries one. -/
def decodeRequest (req : Json) : Except Failure Json := do
  let p ← rawPropOf req
  let v ← Codec.decode p
  pure (.object [("value", value v),
    ("error_code", Json.opt (fun c => .str (Tag.toText ⟨c⟩)) p.errorCode?)])

/-- `encode`: a value written under a property id of at most 16 bits; the kind `none` is
the absent value. -/
def encodeRequest (req : Json) : Except Failure Json := do
  let id ← match (req.get? "id").bind numberText? with
    | some t =>
      match IntLiteral.readSigned t 64 with
      | .ok n => if 0 ≤ n ∧ n < 65536 then pure n.toNat else throw (badRequest "invalid id")
      | .error _ => throw (badRequest "invalid id")
    | none => throw (badRequest "invalid id")
  let j := (req.get? "value").getD .null
  let v ← if textOr j "kind" = "none" then pure none else do pure (some (← valueOf 0 j))
  let p ← Codec.encode id.toUInt16 v
  pure (rawProp p)

/-- `utf16_decode`: the text of a UTF-16 payload given in hexadecimal. -/
def utf16DecodeRequest (req : Json) : Except Failure Json := do
  let b ← hexMember req "data" "data must be a hex string"
  let t ← Utf16.decode b
  pure (value (some (.string t)))

/-- `utf16_encode`: the UTF-16 payload of a text, given as bytes in `text_hex` whenever that
member is there, else as the string `text`. -/
def utf16EncodeRequest (req : Json) : Except Failure Json := do
  let t ← match req.get? "text_hex" with
    | some _ => do pure (Text.mk (← hexMember req "text_hex" "text_hex must be a hex string"))
    | none => pure (match req.get? "text" with
      | some (.string t) => t
      | _ => Text.ofString "")
  pure (.str (Bytes.toHex (Utf16.encode t)))

/-- An unsigned integer member of at most `bits` bits, refused with `message` when it is
missing or no such number. -/
def natMember (req : Json) (key : String) (bits : Nat) (message : String) :
    Except Failure Nat :=
  match (req.get? key).bind numberText? with
  | some t =>
    match IntLiteral.readUnsigned t bits with
    | .ok n => .ok n
    | .error _ => .error (badRequest message)
  | none => .error (badRequest message)

/-- `filetime`: the instant of a FILETIME word. -/
def fileTimeRequest (req : Json) : Except Failure Json := do
  let ft ← natMember req "ft" 64 "invalid ft"
  pure (.str (Instant.ofFileTime ft.toUInt64).rfc3339)

/-- `time_to_filetime`: the FILETIME word of an instant, in decimal. -/
def timeToFileTimeRequest (req : Json) : Except Failure Json := do
  let s := textOr req "time"
  match Instant.parseRfc3339? s with
  | some t => pure (.str (toString t.toFileTime.toNat))
  | none => throw (badRequest ("invalid datetime " ++ Quote.string s))

/-- `tag`: the parts of a tag, given whole or as type and id, and the tag with another type
when `with_type` is there. -/
def tagRequest (req : Json) : Except Failure Json := do
  let t ← match req.get? "tag" with
    | some j => tagOf j
    | none => do
      let type ← natMember req "type" 16 "invalid type or id"
      let id ← natMember req "id" 16 "invalid type or id"
      pure (Tag.make ⟨type.toUInt16⟩ id.toUInt16)
  let base := [("str", Json.str t.toText), ("id", .nat t.id.toNat), ("type", .nat t.type.code.toNat),
    ("named", .bool t.isNamed)]
  match req.get? "with_type" with
  | some _ =>
    let wt ← natMember req "with_type" 16 "invalid with_type"
    pure (.object (base ++ [("with_type", .str (t.withType ⟨wt.toUInt16⟩).toText)]))
  | none => pure (.object base)

/-- `column_type`: a column type named by `name`, or by `index` when there is no `name`; text
is read as a type name and a number as a type index. -/
def columnTypeRequest (req : Json) : Except Failure Json := do
  let given := match req.get? "name" with
    | some j => j
    | none => (req.get? "index").getD .null
  let c ← match given with
    | .string n => ColumnType.parse n.toString
    | .number t =>
      match IntLiteral.parseDecimal? t with
      | some i => pure ⟨i⟩
      | none => throw (badRequest "invalid column type")
    | _ => throw (badRequest "invalid column type")
  let w ← c.wireType
  pure (.object [("index", .int c.index), ("wire_type", .nat w.code.toNat),
    ("encoding", .str c.streamEncoding.name)])

/-- The sign of an ordering as -1, 0 or 1. -/
def orderingSign : Ordering → Int
  | .lt => -1
  | .eq => 0
  | .gt => 1

/-- Sorts named identifiers by their order, keeping equal ones in place. -/
def sortNamed (ns : List NamedId) : List NamedId :=
  ns.mergeSort fun a b => NamedId.compare a b != .gt

/-- `named`: comparisons, texts and orders of named identifiers and property ids. Each part
is answered when its members are there in the right shape: `a` and `b` as objects, `sort`
and `ids` as lists, `equal_ids` as a list of two. -/
def namedRequest (req : Json) : Except Failure Json := do
  let mut out : List (String × Json) := []
  match req.get? "a", req.get? "b" with
  | some (.object am), some (.object bm) =>
    let a ← namedIdOf (.object am)
    let b ← namedIdOf (.object bm)
    out := out ++ [("compare", .int (orderingSign (NamedId.compare a b))),
      ("equal", .bool (decide (a = b))), ("a", .str a.toText), ("b", .str b.toText)]
  | _, _ => pure ()
  if let some (.array xs) := req.get? "sort" then
    let ns ← xs.mapM fun x => namedIdOf x
    out := out ++ [("sorted", .array ((sortNamed ns).map fun n => .str n.toText))]
  if let some (.array xs) := req.get? "ids" then
    let ids ← xs.mapM fun x => propertyIdOf x
    out := out ++ [("ids", .array (ids.map propertyId))]
  if let some (.array [x, y]) := req.get? "equal_ids" then
    let a ← propertyIdOf x
    let b ← propertyIdOf y
    out := out ++ [("ids_equal", .bool (decide (a = b)))]
  pure (.object out)

/-- `special_folder`: the name of a special folder number when `index` is there, else the
special folder a name stands for. -/
def specialFolderRequest (req : Json) : Except Failure Json := do
  match req.get? "index" with
  | some j =>
    let i ← intOf j
    pure (.str (SpecialFolder.nameOfIndex i))
  | none =>
    match req.get? "name" with
    | some (.string n) =>
      let k ← SpecialFolder.parse n.toString
      pure (.object [("index", .nat k.index), ("name", .str k.name)])
    | _ => throw (badRequest "name must be a string")

/-- The answer for one value of a `value` request: its kind and the values of its copies. -/
def valueFacts (v : Option Value) : Json :=
  match v with
  | none => .object [("clone", .null), ("property_clone", .null)]
  | some x =>
    let extra : List (String × Json) := match x with
      | .binary _ => [("clone_independent", .bool true)]
      | .stream _ => [("clone_same", .bool true)]
      | _ => []
    .object ([("kind", .str x.kind.name), ("clone", value v), ("property_clone", value v)] ++ extra)

/-- `value`: facts about values, kind numbers, encoding numbers and pairs of instants. Each
part is answered when its member is a list. A value that is no object is the absent
value. -/
def valueRequest (req : Json) : Except Failure Json := do
  let mut out : List (String × Json) := []
  if let some (.array xs) := req.get? "values" then
    let answers := xs.map fun j =>
      match j with
      | .object ms => answer ((valueOf 0 (.object ms)).map fun v => valueFacts (some v))
      | _ => ok (valueFacts none)
    out := out ++ [("values", .array answers)]
  if let some (.array xs) := req.get? "kinds" then
    let ks ← xs.mapM intOf
    out := out ++ [("kinds", .array (ks.map fun k => .str (ValueKind.nameOfCode k)))]
  if let some (.array xs) := req.get? "encodings" then
    let es ← xs.mapM intOf
    out := out ++ [("encodings", .array (es.map fun e => .str (StreamEncoding.ofCode e).name))]
  if let some (.array xs) := req.get? "time_pairs" then
    let equal ← xs.mapM fun p => do
      match p with
      | .array [a, b] =>
        match Instant.parseRfc3339? (stringOr a), Instant.parseRfc3339? (stringOr b) with
        | some x, some y => pure (Json.bool (decide (x = y)))
        | _, _ => throw (badRequest "invalid time in time_pairs")
      | _ => throw (badRequest "time_pairs needs pairs")
    out := out ++ [("time_pairs", .array equal)]
  pure (.object out)

end Console

end MailStore
