import Mathlib
import MailStore.Entity.Query

/-!
# Requests to a session and runs of them

A client of a session makes requests: it lists and looks up the session's stores, opens
folders and items of a store by id, lists and looks up the collections of stores and folders,
walks a folder hierarchy, asks for parents and the items of a conversation; between requests
a table notification may reach its listener, and the client may clear the caches or close the
session. `Request.exec` runs one request, and `Request.run` runs a list of them in order: a
request that fails answers with its failure and the run goes on, as a server answering one
call after another does.

An answer gives out entities: `Answer.folderRefs`, `Answer.itemRefs` and `Answer.storeRefs`
list them. A request that lists the child folders or the items of a folder reads the collections
of that folder (`Request.reads`); whether such a folder was obtained earlier in the run is
`Request.Obtained`.

## Main statements

* `Request.run_append`: a run of two lists of requests is the run of the first followed by
  the run of the second.
-/

namespace MailStore

/-- A request a client makes of a session. -/
inductive Request where
  /-- The stores, or those with the given ids. -/
  | stores (ids : Option (List Bytes)) (dirs : Directives)
  /-- The store with an id. -/
  | lookupStore (id : Bytes)
  /-- A store's root folders, or those with the given ids. -/
  | rootFolders (r : StoreRef) (ids : Option (List Bytes)) (dirs : Directives)
  /-- A store's root folder with an id. -/
  | lookupRootFolder (r : StoreRef) (id : Bytes)
  /-- A folder of a store, by id. -/
  | openFolder (r : StoreRef) (id : Bytes)
  /-- An item of a store, by id. -/
  | openItem (r : StoreRef) (id : Bytes)
  /-- The special folders of the given numbers. -/
  | specialFolders (r : StoreRef) (kinds : List Int)
  /-- The special folder of a number. -/
  | lookupSpecialFolder (r : StoreRef) (n : Int)
  /-- The folders below a folder of a store. -/
  | folderHierarchy (r : StoreRef) (parentId : Bytes) (onlyChildren : Bool)
  /-- A folder's child folders, or those with the given ids. -/
  | subFolders (f : FolderRef) (ids : Option (List Bytes)) (dirs : Directives)
  /-- A folder's child folder with an id. -/
  | lookupSubFolder (f : FolderRef) (id : Bytes)
  /-- A folder's items, or those with the given ids. -/
  | items (f : FolderRef) (ids : Option (List Bytes)) (dirs : Directives)
  /-- A folder's item with an id. -/
  | lookupItem (f : FolderRef) (id : Bytes)
  /-- A folder's conversations, or those with the given ids. -/
  | conversations (f : FolderRef) (ids : Option (List Bytes)) (dirs : Directives)
  /-- A folder's conversation with an id. -/
  | lookupConversation (f : FolderRef) (id : Bytes)
  /-- A folder's parent. -/
  | parentFolder (f : FolderRef)
  /-- The items of a conversation. -/
  | conversationItems (c : ConversationRef)
  /-- The folder holding an item. -/
  | itemParent (i : ItemRef)
  /-- A table notification delivered to its listener. -/
  | notify (l : Listener)
  /-- Clearing the caches of every store. -/
  | clearCaches
  /-- Closing the session. -/
  | close

/-- What a request answers. -/
inductive Answer where
  /-- Stores. -/
  | stores (rs : List StoreRef)
  /-- A store, or none. -/
  | store (r : Option StoreRef)
  /-- Folders. -/
  | folders (fs : List FolderRef)
  /-- A folder, or none. -/
  | folder (f : Option FolderRef)
  /-- Items. -/
  | items (is : List ItemRef)
  /-- An item, or none. -/
  | item (i : Option ItemRef)
  /-- Conversations. -/
  | conversations (cs : List ConversationRef)
  /-- A conversation, or none. -/
  | conversation (c : Option ConversationRef)
  /-- Done, with nothing to give. -/
  | done
  /-- Closed, with the first failure of the releases. -/
  | closed (f : Option Failure)

namespace Answer

/-- The folders an answer gives out. -/
def folderRefs : Answer → List FolderRef
  | .folders fs => fs
  | .folder f => f.toList
  | _ => []

/-- The items an answer gives out. -/
def itemRefs : Answer → List ItemRef
  | .items is => is
  | .item i => i.toList
  | _ => []

/-- The stores an answer gives out. -/
def storeRefs : Answer → List StoreRef
  | .stores rs => rs
  | .store r => r.toList
  | _ => []

end Answer

namespace Request

variable {σ : Type} [EntityHost σ] (d : Driver (EntityM σ))

/-- Runs one request. -/
def exec : Request → EntityM σ Answer
  | .stores ids dirs => .stores <$> Entities.stores d ids dirs
  | .lookupStore id => .store <$> Entities.lookupStore d id
  | .rootFolders r ids dirs => .folders <$> r.rootFolders d ids dirs
  | .lookupRootFolder r id => .folder <$> r.lookupRootFolder d id
  | .openFolder r id => (fun f => .folder (some f)) <$> r.openFolder d id
  | .openItem r id => (fun i => .item (some i)) <$> r.openItem d id
  | .specialFolders r kinds => .folders <$> r.specialFolders d kinds
  | .lookupSpecialFolder r n => .folder <$> r.lookupSpecialFolder d n
  | .folderHierarchy r parentId onlyChildren =>
    .folders <$> r.folderHierarchy d parentId onlyChildren
  | .subFolders f ids dirs => .folders <$> f.subFolders d ids dirs
  | .lookupSubFolder f id => .folder <$> f.lookupSubFolder d id
  | .items f ids dirs => .items <$> f.items d ids dirs
  | .lookupItem f id => .item <$> f.lookupItem d id
  | .conversations f ids dirs => .conversations <$> f.conversations d ids dirs
  | .lookupConversation f id => .conversation <$> f.lookupConversation d id
  | .parentFolder f => .folder <$> f.parentFolder d
  | .conversationItems c => .items <$> c.items d
  | .itemParent i => (fun f => .folder (some f)) <$> i.parentFolder d
  | .notify l => (fun _ => .done) <$> Entities.deliver l
  | .clearCaches => (fun _ => .done) <$> Entities.clearCaches d
  | .close => .closed <$> Entities.close d

/-- Runs requests in order from a state: each answers, with a value or its failure, and the
next starts where it ended. Gives the answers and the last state. -/
def run : List Request → σ → List (Except Failure Answer) × σ
  | [], s => ([], s)
  | q :: qs, s =>
    let (a, s₁) := (q.exec d).run.run s
    let (as, s₂) := run qs s₁
    (a :: as, s₂)

theorem run_nil (s : σ) : run d [] s = ([], s) := rfl

theorem run_cons (q : Request) (qs : List Request) (s : σ) :
    run d (q :: qs) s = (((q.exec d).run.run s).1 :: (run d qs ((q.exec d).run.run s).2).1,
      (run d qs ((q.exec d).run.run s).2).2) := rfl

/-- A run of two lists of requests is the run of the first followed by the run of the
second. -/
theorem run_append (qs qs' : List Request) (s : σ) :
    run d (qs ++ qs') s =
      ((run d qs s).1 ++ (run d qs' (run d qs s).2).1, (run d qs' (run d qs s).2).2) := by
  induction qs generalizing s with
  | nil => rfl
  | cons q qs ih =>
    simp only [List.cons_append, run]
    generalize (q.exec d).run.run s = p
    rcases p with ⟨a, s₁⟩
    simp [ih]

/-- Whether a request lets go of the entities given out: clearing the caches or closing the
session. -/
def clears : Request → Bool
  | .clearCaches | .close => true
  | _ => false

/-- The folder whose child folders or items a request gives out. -/
def reads : Request → Option FolderRef
  | .subFolders f _ _ | .lookupSubFolder f _ | .items f _ _ | .lookupItem f _ => some f
  | _ => none

/-- What answers give out, in order, as `sel` reads it off each answer with a value. -/
def given {α : Type} (sel : Answer → List α) (as : List (Except Failure Answer)) : List α :=
  as.flatMap fun a => match a with
    | .ok a => sel a
    | .error _ => []

theorem mem_given {α : Type} {sel : Answer → List α} {x : α} {as : List (Except Failure Answer)} :
    x ∈ given sel as ↔ ∃ b, Except.ok b ∈ as ∧ x ∈ sel b := by
  simp only [given, List.mem_flatMap]
  constructor
  · rintro ⟨_ | b, ha, hx⟩
    · simp at hx
    · exact ⟨b, ha, hx⟩
  · rintro ⟨b, hb, hx⟩
    exact ⟨.ok b, hb, hx⟩

/-- The folders that answers give out, in order. -/
abbrev givenFolders := given Answer.folderRefs

/-- The items that answers give out, in order. -/
abbrev givenItems := given Answer.itemRefs

/-- The stores that answers give out, in order. -/
abbrev givenStores := given Answer.storeRefs

/-- Each request reads the collections only of a folder in `held` or given out by an earlier
answer. -/
def Obtained : List FolderRef → List Request → List (Except Failure Answer) → Prop
  | held, q :: qs, a :: as => (∀ f ∈ q.reads, f ∈ held) ∧ Obtained (held ++ givenFolders [a]) qs as
  | _, _, _ => True

end Request

end MailStore
