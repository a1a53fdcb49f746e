import MailStore.Entity.Item

/-!
# Sessions

A session (`Entities`) is the root of the entity tree. Its stores come from the stores
table, and a store that is live keeps its identity across reloads of the list. A closed
session answers no more requests; closing it releases every store and the stores table's
subscription, and the first failure of those releases is the session's.

A table notification reaches its listener through `Entities.deliver`: the listener's
collection is dropped, and counted as dropped by `notification` as long as its store is
still there. Listeners of a store that is gone are not called at all.

`Entities.collect` lets go of what nothing holds any more: the stores a closed session
released.
-/

namespace MailStore

namespace Entities

variable {σ : Type} [EntityHost σ] (d : Driver (EntityM σ))

/-- A store made from its row in the stores table. -/
def newStore (row : List RawProp) : StoreState :=
  ⟨Row.binary row 0, Row.text row 1, row, NameCache.empty, none, none, Collection.empty, [], [],
    false⟩

/-- Reads the stores, keeping the live store of each entry id. -/
def readStores (dirs : Directives) (watch : Nat → EntityM σ Unit) :
    EntityM σ (List (Bytes × StoreRef)) := do
  count (Metric.storeCall "stores_table")
  let t ← wrapping "failed to open stores table" d.storesTable
  watch t
  count (Metric.storeCall "table_read")
  let rows ← wrapping "failed to read stores table" (d.read t ⟨Columns.store, Columns.byName, dirs⟩)
  rows.mapM fun row => do
    let id := Row.binary row 0
    match (← current).storeById.lookup id with
    | some r => pure (id, r)
    | none =>
      let r ← addStore (newStore row)
      modify fun e => { e with storeById := e.storeById ++ [(id, r)] }
      pure (id, r)

/-- The stores under some directives; a closed session fails. -/
def loadStores (dirs : Directives) : EntityM σ (List StoreRef) := do
  if (← current).closed then throw (Failure.other "query is closed")
  storesSlot.load .stores dirs (readStores d) (storesSlot.watch d .stores .stores)

/-- The stores, or exactly those with the given ids. -/
def stores (ids : Option (List Bytes)) (dirs : Directives) : EntityM σ (List StoreRef) := do
  let all ← loadStores d dirs
  match ids with
  | none => pure all
  | some ids => MonadExcept.ofExcept ((← storesSlot.get).pick "store" ids)

/-- The store with an id, under the directives of the last load. -/
def lookupStore (id : Bytes) : EntityM σ (Option StoreRef) := do
  discard (loadStores d (← storesSlot.get (σ := σ)).dirs)
  return (← storesSlot.get).lookup id

/-- Clears the caches of every live store. -/
def clearCaches : EntityM σ Unit := do
  (← current).storeById.forM fun (_, r) => r.clearCaches d

/-- Closes the session: no more requests, every store and the stores table released.
Gives the first failure. -/
def close : EntityM σ (Option Failure) := do
  let live := (← current).storeById
  modify fun e => { e with storeById := [], closed := true }
  let first ← (storesSlot (σ := σ)).release d
  live.foldlM (fun first (_, r) => do
    let err ← r.close d
    pure (first <|> err)) first

/-- Whether the store behind a folder is still there. -/
def folderAlive (f : FolderRef) : EntityM σ Bool := do
  return !(← store (← folder f).store).released

/-- Delivers a table notification to its listener. -/
def deliver (l : Listener) : EntityM σ Unit := do
  match l with
  | .stores =>
    storesSlot.modify (σ := σ) Collection.reset
    count (Metric.invalidated .stores "notification")
  | .rootFolders r =>
    if (← store r).released then return
    r.rootSlot.modify Collection.reset
    count (Metric.invalidated .rootFolders "notification")
  | .subFolders f =>
    f.subSlot.modify Collection.reset
    if ← folderAlive f then count (Metric.invalidated .subFolders "notification")
  | .items f =>
    f.itemSlot.modify Collection.reset
    if ← folderAlive f then count (Metric.invalidated .items "notification")
  | .conversations f =>
    f.conversationSlot.modify Collection.reset
    if ← folderAlive f then count (Metric.invalidated .conversations "notification")

end Entities

/-- Lets go of the stores that the session no longer holds. -/
def Entities.collect (e : Entities) : Entities :=
  let held := e.storeById.map Prod.snd
  { e with storeHeap := (e.storeHeap.zipIdx).map fun (s, i) =>
      if held.contains ⟨i⟩ then s else { s with released := true } }

end MailStore
