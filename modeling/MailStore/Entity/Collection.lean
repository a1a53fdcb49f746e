import MailStore.Entity.Basic

/-!
# Loading collections

A collection is loaded by a reader that opens the backing table, hands it to `watch` before
reading any row, and builds the members. Loading follows four rules:

* a collection loaded under other directives is dropped first (`directives`);
* a loaded collection answers from memory (`hit`);
* otherwise the reader runs, and the collection subscribes to the table the first time
  the reader hands it over, so that a change racing the read still drops the result;
* a failed read leaves the collection not loaded, with any subscription it made.

A request for explicit members finds each of them, in order, or fails with the first that
is missing. Releasing a collection drops it and ends its subscription.
-/

namespace MailStore

/-- Where a collection lives in the state: how to read it and how to replace it. -/
structure Slot (σ α : Type) where
  /-- The collection. -/
  get : EntityM σ (Collection α)
  /-- Replaces the collection. -/
  set : Collection α → EntityM σ Unit

namespace Slot

variable {σ α : Type} [EntityHost σ]

/-- Changes the collection. -/
def modify (s : Slot σ α) (f : Collection α → Collection α) : EntityM σ Unit := do
  s.set (f (← s.get))

/-- Subscribes the collection to a table unless it already watches one. -/
def watch (d : Driver (EntityM σ)) (s : Slot σ α) (kind : CollectionKind) (listener : Listener) (table : Nat) :
    EntityM σ Unit := do
  if (← s.get).sub.isSome then return
  let sub ← wrapping ("failed to subscribe to " ++ kind.name) (d.subscribe table listener)
  s.modify fun c => { c with sub := some sub }

/-- The members of a collection, loaded under `dirs` by `read` when they are not loaded
under these directives already. `read` receives the directives and the function that
watches the table it opens. -/
def load (s : Slot σ α) (kind : CollectionKind) (dirs : Directives)
    (read : Directives → (Nat → EntityM σ Unit) → EntityM σ (List (Bytes × α)))
    (watch : Nat → EntityM σ Unit) : EntityM σ (List α) := do
  let c ← s.get
  if c.loaded ∧ c.dirs ≠ dirs then
    s.set c.reset
    Entities.count (Metric.invalidated kind "directives")
  let c ← s.get
  if c.loaded then
    Entities.count (Metric.hit kind)
    return c.members
  let entries ← read dirs watch
  s.modify fun c => { c with loaded := true, dirs := dirs, entries := entries }
  Entities.count (Metric.load kind)
  return entries.map Prod.snd

/-- Drops the collection and ends its subscription; gives the failure of ending it. -/
def release (d : Driver (EntityM σ)) (s : Slot σ α) : EntityM σ (Option Failure) := do
  let c ← s.get
  s.set { c.reset with sub := none }
  match c.sub with
  | none => pure none
  | some sub => tryCatch (do d.unsubscribe sub; pure none) fun f => pure (some f)

end Slot

/-- The failure for an entity that a collection does not have. -/
def notFound (kind : String) (id : Bytes) : Failure :=
  Failure.because .notFound (kind ++ " with id=" ++ Bytes.toHex id)

/-- The members with the given keys, in order; fails on the first key that is missing. -/
def Collection.pick {α : Type} (c : Collection α) (kind : String) :
    List Bytes → Except Failure (List α)
  | [] => .ok []
  | id :: rest =>
    match c.lookup id, c.pick kind rest with
    | some a, .ok as => .ok (a :: as)
    | some _, .error f => .error f
    | none, _ => .error (notFound kind id)

theorem Collection.pick_length {α : Type} (c : Collection α) (kind : String) (ids : List Bytes)
    (as : List α) (h : c.pick kind ids = .ok as) : as.length = ids.length := by
  induction ids generalizing as with
  | nil => simp only [pick, Except.ok.injEq] at h; subst h; rfl
  | cons id rest ih =>
    simp only [pick] at h
    split at h
    · rename_i bs _ hr
      simp only [Except.ok.injEq] at h
      subst h
      simp [ih bs hr]
    · simp at h
    · simp at h


/-! ### Where each collection lives -/

namespace Entities

variable {σ : Type} [EntityHost σ]

/-- The session's list of stores. -/
def storesSlot : Slot σ StoreRef :=
  ⟨do return (← current).storeList, fun c => modify fun e => { e with storeList := c }⟩

end Entities

/-- A store's folders below its IPM subtree. -/
def StoreRef.rootSlot {σ : Type} [EntityHost σ] (r : StoreRef) : Slot σ FolderRef :=
  ⟨do return (← Entities.store r).rootFolders,
    fun c => Entities.modifyStore r fun s => { s with rootFolders := c }⟩

namespace FolderRef

variable {σ : Type} [EntityHost σ]

/-- A folder's child folders. -/
def subSlot (f : FolderRef) : Slot σ FolderRef :=
  ⟨do return (← Entities.folder f).subFolders,
    fun c => Entities.modifyFolder f fun s => { s with subFolders := c }⟩

/-- A folder's items. -/
def itemSlot (f : FolderRef) : Slot σ ItemRef :=
  ⟨do return (← Entities.folder f).items,
    fun c => Entities.modifyFolder f fun s => { s with items := c }⟩

/-- A folder's conversations. -/
def conversationSlot (f : FolderRef) : Slot σ ConversationRef :=
  ⟨do return (← Entities.folder f).conversations,
    fun c => Entities.modifyFolder f fun s => { s with conversations := c }⟩

end FolderRef

end MailStore
