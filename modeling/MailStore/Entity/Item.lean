import MailStore.Entity.Folder

/-!
# Items and conversations

An item holds its store weakly, like a folder, and opens its message on first use unless
it came from opening it by id. Its body is the plain-text body property, read as a stream
when it is too large for a bulk fetch; an item without a body has the empty body.

A conversation opens its items through the store's identity cache, in order.
-/

namespace MailStore

namespace ItemRef

variable {σ : Type} [EntityHost σ] (d : Driver (EntityM σ))

/-- The item's store, unless it is gone. -/
def owner (i : ItemRef) : EntityM σ StoreRef := do
  let r := (← Entities.item i).store
  if (← Entities.store r).released then throw (Failure.bare .storeReleased)
  pure r

/-- The item's store and message handle, opening the message on first use. -/
def ensureOpen (i : ItemRef) : EntityM σ (StoreRef × Nat) := do
  let r ← owner i
  let s ← Entities.item i
  if let some h := s.handle then return (r, h)
  let o ← r.ensureOpen d
  Entities.count (Metric.storeCall "open_message")
  let h ← wrapping ("failed to open item " ++ Bytes.toHex s.id) (d.openMessage o.handle s.id)
  Entities.modifyItem i fun s => { s with handle := some h }
  pure (r, h)

/-- The extra columns of the item's row. -/
def columns (i : ItemRef) : EntityM σ (List Property) := do
  let r ← owner i
  r.decodeColumns d (← Entities.item i).columns Columns.itemNamed

/-- Fetches properties of the message; no columns fetch every property. -/
def properties (i : ItemRef) (cols : List Column) : EntityM σ (List Property) := do
  let (r, h) ← ensureOpen d i
  r.properties d h cols

/-- The column of the plain-text body. -/
def bodyColumn : Column := ⟨.numeric 0x1000, ColumnType.string⟩

/-- The plain-text body; empty when the message has none. -/
def body (i : ItemRef) : EntityM σ Text := do
  let props ← properties d i [bodyColumn]
  let value ← match props.head? with
    | some ⟨_, some (.stream s)⟩ => Stream.materialize d.streams s
    | some ⟨_, v⟩ => pure v
    | none => pure none
  match value with
  | none => pure Text.empty
  | some (.string t) => pure t
  | some v => throw (Failure.inconsistent ("body has kind " ++ v.kind.name))

/-- The folder holding the item. -/
def parentFolder (i : ItemRef) : EntityM σ FolderRef := do
  let r ← owner i
  r.openFolder d (← Entities.item i).parentId

end ItemRef

/-- The items of a conversation, opened in order. -/
def ConversationRef.items {σ : Type} [EntityHost σ] (d : Driver (EntityM σ)) (c : ConversationRef) :
    EntityM σ (List ItemRef) := do
  let cs ← Entities.conversation c
  if (← Entities.store cs.store).released then throw (Failure.bare .storeReleased)
  cs.itemIds.mapM (cs.store.openItem d)

end MailStore
