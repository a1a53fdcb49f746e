import MailStore.Entity.Basic

/-!
# The rows of entities

Each kind of entity is read from a table with a fixed list of columns, and keeps its row.
The first columns of each list are read by name (entry id, display name, counts, times);
the others are extra columns a caller can decode. A column's value is only taken when the
row has the column, its tag has the expected type, and its payload decodes to a value;
otherwise the accessor gives its default (empty, zero, false, or nothing).

Special folders are found through entry-id properties: four on the store object, and five
on the inbox and on the IPM subtree.
-/

namespace MailStore

namespace Row

/-- The value of a column of a row when its tag has the type `want` and it decodes. -/
def column (row : List RawProp) (idx : Nat) (want : PropType) : Option Value :=
  match row[idx]? with
  | some p =>
    if p.tag.type = want then
      match Codec.decode p with
      | .ok (some v) => some v
      | _ => none
    else none
  | none => none

/-- A binary column; empty when absent. -/
def binary (row : List RawProp) (idx : Nat) : Bytes :=
  match column row idx PropType.binary with
  | some (.binary b) => b
  | _ => []

/-- A text column, of either string type. -/
def text? (row : List RawProp) (idx : Nat) : Option Text :=
  match column row idx PropType.unicode with
  | some (.string t) => some t
  | _ =>
    match column row idx PropType.string8 with
    | some (.string t) => some t
    | _ => none

/-- A text column; empty when absent. -/
def text (row : List RawProp) (idx : Nat) : Text := (text? row idx).getD Text.empty

/-- A 32-bit integer column; zero when absent. -/
def long (row : List RawProp) (idx : Nat) : Int :=
  match column row idx PropType.long with
  | some (.int n) => n.toInt
  | _ => 0

/-- A boolean column; false when absent. -/
def flag (row : List RawProp) (idx : Nat) : Bool :=
  match column row idx PropType.boolean with
  | some (.bool b) => b
  | _ => false

/-- A time column. -/
def time? (row : List RawProp) (idx : Nat) : Option Instant :=
  match column row idx PropType.sysTime with
  | some (.dateTime t) => some t
  | _ => none

theorem binary_nil (idx : Nat) : binary [] idx = [] := by
  simp [binary, column]

end Row

namespace Columns

/-- The columns of the stores table: entry id, display name, default-store flag, provider. -/
def store : List Tag := [Tag.entryId, Tag.displayName, Tag.defaultStore, Tag.providerName]

/-- How many store columns are read by name. -/
def storeNamed : Nat := 2

/-- The columns of a folder: entry id, parent, name, class, count, unread count, whether it
has child folders, and the time of its last change. -/
def folder : List Tag :=
  [Tag.entryId, Tag.parentEntryId, Tag.displayName, Tag.containerClass, Tag.contentCount,
    Tag.contentUnread, Tag.subfolders, Tag.lastModified]

/-- How many folder columns are read by name. -/
def folderNamed : Nat := 8

/-- The columns of an item: entry id, parent, subject, sender, recipients, copies, flags,
delivery time, last change, preview, conversation id, sender address, message id. -/
def item : List Tag :=
  [Tag.entryId, Tag.parentEntryId, Tag.subject, Tag.senderName, Tag.displayTo, Tag.displayCc,
    Tag.messageFlags, Tag.deliveryTime, Tag.lastModified, Tag.preview, Tag.conversationId,
    Tag.senderEmail, Tag.internetMessageId]

/-- How many item columns are read by name. -/
def itemNamed : Nat := 11

/-- The columns that group items into conversations: entry id, conversation id, topic,
delivery time. -/
def conversation : List Tag :=
  [Tag.entryId, Tag.conversationId, Tag.conversationTopic, Tag.deliveryTime]

/-- Stores and folders are listed by display name. -/
def byName : List SortOrder := [⟨Tag.displayName, false⟩]

/-- Items are listed newest first. -/
def newestFirst : List SortOrder := [⟨Tag.deliveryTime, true⟩]

end Columns

namespace SpecialFolder

/-- The entry-id properties of special folders on the store object. -/
def storeTags : List Tag := [Tag.ipmSubtree, Tag.ipmWastebasket, Tag.ipmOutbox, Tag.ipmSentMail]

/-- The special folders those properties name, in the same order. -/
def storeKinds : List SpecialFolder := [.ipmSubtree, .deleted, .outbox, .sent]

/-- The entry-id properties of special folders on the inbox and the IPM subtree. -/
def folderTags : List Tag :=
  [Tag.ipmAppointment, Tag.ipmContact, Tag.ipmTask, Tag.ipmArchive, Tag.ipmDrafts]

/-- The special folders those properties name, in the same order. -/
def folderKinds : List SpecialFolder := [.calendar, .contacts, .tasks, .archive, .drafts]

end SpecialFolder

end MailStore
