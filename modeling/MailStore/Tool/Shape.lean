import MailStore.Entity.Item
import MailStore.Json.Basic

/-!
# The shapes of tool results

Tools answer with JSON objects whose members come in a fixed order, optional members left
out when empty:

* a store: `id`, `name`, and its extra `columns` when asked for;
* a folder: `id`, `parent_id`?, `name`, `container_class`?, `count`, `unread`,
  `has_subfolders`, `special`? (the special folder it is), `modified`?;
* an item: `id`, `parent_id`, `subject`, `sender`, `to`?, `cc`?, `preview`?, `read`,
  `received`?, `modified`?, `conversation_id`?, `body`?;
* a conversation: `id`, `topic`, `item_ids`, `received` (the zero time when unknown);
* a property: its id (`id` for a numeric id; `propset` with `name` or `lid` for a named
  one), `kind`? and `value`, a stream read in full first.

Ids are lowercase hexadecimal. Times of entities are written in RFC 3339 with the fraction
trimmed, and only for years 0 to 9999: any other year makes the whole result impossible to
write, which the caller learns when it writes the result (`Written`). Times that are
property values are written as text for any year.
-/

namespace MailStore

/-- A result as written, or why it cannot be written. -/
abbrev Written := Except String Json

namespace Shape

/-- The year of an instant. -/
def year (t : Instant) : Int := (Instant.civilFromDays (t.sec / 86400)).1

/-- A time of an entity; years outside 0 to 9999 cannot be written. `typeName` is how the
failure names the value. -/
def time (typeName : String) (t : Instant) : Written :=
  if 0 ≤ year t ∧ year t ≤ 9999 then .ok (.str t.rfc3339)
  else .error ("json: error calling MarshalJSON for type " ++ typeName ++
    ": Time.MarshalJSON: year outside of range [0,9999]")

/-- An optional member, left out when absent. -/
def optional (name : String) : Option Json → List (String × Json)
  | some j => [(name, j)]
  | none => []

/-- A text member left out when empty. -/
def nonEmpty (name : String) (t : Text) : List (String × Json) :=
  if t.isEmpty then [] else [(name, .string t)]

/-- An optional time member. -/
def timeMember (name : String) : Option Instant → Except String (List (String × Json))
  | some t => do pure [(name, ← time "*time.Time" t)]
  | none => .ok []

/-- Bytes in hexadecimal. -/
def hex (b : Bytes) : Json := .str (Bytes.toHex b)

/-- The members that identify a property. -/
def propertyId : PropertyId → List (String × Json)
  | .numeric n => [("id", .nat n.toNat)]
  | .named n =>
    [("propset", .str n.propSet.toText)] ++
      (if n.kind = NamedId.kindString then [("name", .str n.name)] else [("lid", .int n.lid.toInt)])

/-- The kind and value of a value that is not a stream. -/
def value : Option Value → Except Failure (String × Json)
  | none => .ok ("", .null)
  | some (.int n) => .ok ("integer", .int n.toInt)
  | some (.bool b) => .ok ("boolean", .bool b)
  | some (.string t) => .ok ("string", .string t)
  | some (.guid g) => .ok ("guid", .str g.toText)
  | some (.dateTime t) => .ok ("datetime", .str t.rfc3339)
  | some (.binary b) => .ok ("binary", hex b)
  | some (.stream _) => .error (Failure.other "unsupported value *mapi.StreamValue")

/-- A conversation. -/
def conversation (c : ConversationState) : Written := do
  pure (.object [("id", hex c.id), ("topic", .string c.topic), ("item_ids", .array (c.itemIds.map hex)),
    ("received", ← time "time.Time" (c.received.getD (Instant.normalize (-62135596800) 0)))])

/-- An item, with its body when given. -/
def item (s : ItemState) (body : Option Text) : Written := do
  let row := s.columns
  let received ← timeMember "received" (Row.time? row 7)
  let modified ← timeMember "modified" (Row.time? row 8)
  let conv := Row.binary row 10
  pure (.object ([("id", hex s.id), ("parent_id", hex s.parentId),
    ("subject", .string (Row.text row 2)), ("sender", .string (Row.text row 3))] ++
    nonEmpty "to" (Row.text row 4) ++ nonEmpty "cc" (Row.text row 5) ++
    nonEmpty "preview" (Row.text row 9) ++ [("read", .bool (Row.long row 6 % 2 = 1))] ++
    received ++ modified ++
    (if conv.isEmpty then [] else [("conversation_id", hex conv)]) ++
    optional "body" (body.map Json.string)))

/-- A folder, with the special folder it is. -/
def folder (s : FolderState) (special : Option SpecialFolder) : Written := do
  let row := s.columns
  let modified ← timeMember "modified" (Row.time? row 7)
  pure (.object ([("id", hex s.id)] ++
    (if s.parentId.isEmpty then [] else [("parent_id", hex s.parentId)]) ++
    [("name", .string (Row.text row 2))] ++ nonEmpty "container_class" (Row.text row 3) ++
    [("count", .int (Row.long row 4)), ("unread", .int (Row.long row 5)),
     ("has_subfolders", .bool (Row.flag row 6))] ++
    optional "special" (special.map fun k => .str k.name) ++ modified))

/-- Written results in a list. -/
def list (xs : List Written) : Written := do pure (.array (← xs.mapM id))

variable {σ : Type} [EntityHost σ] (d : Driver (EntityM σ))

/-- Properties, streams read in full. A property that cannot be read releases every stream
of the list and fails. -/
def properties (props : List Property) : EntityM σ (List Json) :=
  props.mapM fun p => do
    let v ← tryCatch (do
        match p.value with
        | some (.stream s) => Stream.materialize d.streams s
        | other => pure other)
      fun f => do
        Fetch.closeAll d.streams props
        throw (f.wrap ("failed to read property " ++ p.id.toText))
    let (kind, j) ← MonadExcept.ofExcept (value v)
    pure (.object (propertyId p.id ++ (if kind.isEmpty then [] else [("kind", .str kind)]) ++
      [("value", j)]))

/-- A store, with its extra columns when asked for. -/
def store (r : StoreRef) (withColumns : Bool) : EntityM σ Json := do
  let s ← Entities.store r
  let base := [("id", hex s.id), ("name", .string s.name)]
  if withColumns then
    let cols ← properties d (← r.columns d)
    pure (.object (base ++ (if cols.isEmpty then [] else [("columns", .array cols)])))
  else pure (.object base)

/-- Folders, each with the special folder it is. -/
def folders (fs : List FolderRef) : EntityM σ Written := do
  let shown ← fs.mapM fun f => do
    let special ← f.specialFolder d .stored
    pure (folder (← Entities.folder f) special)
  pure (list shown)

end Shape

end MailStore
