import Mathlib
import MailStore.Proofs.SessionCollections

/-!
# Lookups answer from the last load

Finding a store, a root folder, a child folder, an item or a conversation by id goes through the
collection that lists it: the lookup loads the collection under the directives it was last
loaded with, and searches what that load gave. So once a collection is loaded, a lookup is a
hit: it reads no table, counts one hit, and answers from the members of the last load, which
are only the rows of the window its directives asked for. A store that a windowed listing of
the stores left out is not found by id until the collection is dropped, and dropping the list
of stores takes a notification of its table: clearing a session's caches keeps it.

## Main statements

* `Slot.Lawful.lookup_run`: a lookup through a lawful slot whose load is a hit answers from the
  collection as it is.
* `lookups_answer_from_last_load`: each of the five lookups, on a loaded collection.
-/

namespace MailStore

variable {σ : Type} [EntityHost σ]

/-- The state after one hit on a collection of a kind is counted. -/
def hitCounted (kind : CollectionKind) (s : σ) : σ :=
  EntityHost.setEntities s { ent s with metrics := (ent s).metrics.bump (Metric.hit kind) 1 }

namespace Slot.Lawful

variable {α : Type} {sl : Slot σ α} {view : σ → Option (Collection α)} (h : sl.Lawful view)
  {s : σ} {c : Collection α} (hv : view s = some c)
include h hv

/-- A loaded collection's load under its own directives is a hit. -/
theorem load_own_dirs (hl : c.loaded = true) (kind : CollectionKind)
    (read : Directives → (Nat → EntityM σ Unit) → EntityM σ (List (Bytes × α)))
    (watch : Nat → EntityM σ Unit) :
    (sl.load kind c.dirs read watch).run.run s = (.ok c.members, hitCounted kind s) :=
  h.load_hit hv hl rfl kind read watch

/-- **A lookup is a hit.** A lookup whose load of the collection, under the directives the
collection holds, answers with its members and counts a hit, answers from the collection as
it is. -/
theorem lookup_run (L : Directives → EntityM σ (List α)) {kind : CollectionKind}
    (hL : (L c.dirs).run.run s = (.ok c.members, hitCounted kind s)) (id : Bytes) :
    (do discard (L (← sl.get).dirs); return (← sl.get).lookup id : EntityM σ (Option α)).run.run s =
      (.ok (c.lookup id), hitCounted kind s) := by
  -- counting the hit leaves the collection where the view reads it
  have hv' : view (hitCounted kind s) = some c := (h.count s (Metric.hit kind)).trans hv
  apply Ends.run_eq
  rw [Ends.bind_iff, h.ends_get hv, Ends.bind_iff]
  refine Ends.map_iff.2 ?_
  rw [Ends.iff_of_run_ok hL, Ends.bind_iff, h.ends_get hv']
  exact ⟨rfl, rfl⟩

end Slot.Lawful

/-- A folder whose store is still there passes its owner check, which changes nothing. -/
theorem FolderRef.owner_run {f : FolderRef} {F : FolderState} {S : StoreState} {s : σ}
    (hF : (ent s).folderHeap[f.idx]? = some F) (hS : (ent s).storeHeap[F.store.idx]? = some S)
    (hr : S.released = false) : (f.owner : EntityM σ StoreRef).run.run s = (.ok F.store, s) := by
  apply Ends.run_eq
  unfold FolderRef.owner
  simp [hF, hS, hr]

/-- The load of one of a folder's collections, behind the owner check, is a hit. -/
theorem FolderRef.load_hit_of_owner {α : Type} {f : FolderRef} {F : FolderState} {S : StoreState}
    {s : σ} (hF : (ent s).folderHeap[f.idx]? = some F) (hS : (ent s).storeHeap[F.store.idx]? = some S)
    (hr : S.released = false) {sl : Slot σ α} {field : FolderShape → Collection α}
    (h : sl.Lawful (folderView field f)) (hl : (field F.shape).loaded = true) (kind : CollectionKind)
    (read : Directives → (Nat → EntityM σ Unit) → EntityM σ (List (Bytes × α)))
    (watch : Nat → EntityM σ Unit) :
    (do discard (f.owner : EntityM σ StoreRef); sl.load kind (field F.shape).dirs read watch).run.run s =
      (.ok (field F.shape).members, hitCounted kind s) := by
  have hv : folderView field f s = some (field F.shape) := by simp [folderView, hF]
  have howner : (discard (f.owner : EntityM σ StoreRef)).run.run s = (.ok (), s) :=
    Ends.run_eq (Ends.map_iff.2 ((Ends.iff_of_run_ok (FolderRef.owner_run hF hS hr)).2 ⟨rfl, rfl⟩))
  rw [run_bind_of_ok howner]
  exact h.load_own_dirs hv hl kind read watch

variable [LawfulEntityHost σ] (d : Driver (EntityM σ))

/-- **Lookups answer from the last load.** Once a collection is loaded, looking up an id reads
no table: it counts one hit and answers from the collection as its last load left it, under
whatever directives that load had. This holds of the stores of an open session, of the root
folders of a store, and of the child folders, items and conversations of a folder whose store
is still there. -/
theorem lookups_answer_from_last_load (s : σ) (id : Bytes) :
    ((ent s).closed = false → (ent s).storeList.loaded = true →
      (Entities.lookupStore d id).run.run s =
        (.ok ((ent s).storeList.lookup id), hitCounted .stores s)) ∧
    (∀ (r : StoreRef) (S : StoreState), (ent s).storeHeap[r.idx]? = some S →
      S.rootFolders.loaded = true →
      (r.lookupRootFolder d id).run.run s =
        (.ok (S.rootFolders.lookup id), hitCounted .rootFolders s)) ∧
    (∀ (f : FolderRef) (F : FolderState) (S : StoreState), (ent s).folderHeap[f.idx]? = some F →
      (ent s).storeHeap[F.store.idx]? = some S → S.released = false →
      (F.subFolders.loaded = true → (f.lookupSubFolder d id).run.run s =
        (.ok (F.subFolders.lookup id), hitCounted .subFolders s)) ∧
      (F.items.loaded = true → (f.lookupItem d id).run.run s =
        (.ok (F.items.lookup id), hitCounted .items s)) ∧
      (F.conversations.loaded = true → (f.lookupConversation d id).run.run s =
        (.ok (F.conversations.lookup id), hitCounted .conversations s))) := by
  refine ⟨fun hopen hl => ?_, fun r S hS hl => ?_,
    fun f F S hF hS hr => ⟨fun hl => ?_, fun hl => ?_, fun hl => ?_⟩⟩
  · -- the stores: the open check passes, then the load is a hit
    have hv : storesView s = some (ent s).storeList := rfl
    refine Entities.storesSlot_lawful.lookup_run hv (Entities.loadStores d) ?_ id
    apply Ends.run_eq
    unfold Entities.loadStores
    rw [Ends.bind_iff, Entities.ends_current, hopen]
    exact (Ends.iff_of_run_ok (Entities.storesSlot_lawful.load_own_dirs hv hl .stores _ _)).2
      ⟨rfl, rfl⟩
  · have hv : rootView r s = some S.rootFolders := by simp [rootView, hS, StoreState.shape]
    exact (StoreRef.rootSlot_lawful r).lookup_run hv (r.loadRootFolders d)
      ((StoreRef.rootSlot_lawful r).load_own_dirs hv hl .rootFolders _ _) id
  · have hv : folderView FolderShape.subFolders f s = some F.subFolders := by
      simp [folderView, hF, FolderState.shape]
    exact (FolderRef.subSlot_lawful f).lookup_run hv (f.loadSubFolders d)
      (FolderRef.load_hit_of_owner hF hS hr (FolderRef.subSlot_lawful f) hl .subFolders _ _) id
  · have hv : folderView FolderShape.items f s = some F.items := by
      simp [folderView, hF, FolderState.shape]
    exact (FolderRef.itemSlot_lawful f).lookup_run hv (f.loadItems d)
      (FolderRef.load_hit_of_owner hF hS hr (FolderRef.itemSlot_lawful f) hl .items _ _) id
  · have hv : folderView FolderShape.conversations f s = some F.conversations := by
      simp [folderView, hF, FolderState.shape]
    exact (FolderRef.conversationSlot_lawful f).lookup_run hv (f.loadConversations d)
      (FolderRef.load_hit_of_owner hF hS hr (FolderRef.conversationSlot_lawful f) hl
        .conversations _ _) id

/-- A collection loaded under a window of one row that kept the entry `[1]`. -/
def windowOfOne {α : Type} (a : α) : Collection α := ⟨true, ⟨[], 0, 1⟩, [([1], a)], none⟩

/-- A store whose root folders are loaded through a window of one row. -/
def windowedStore : StoreState :=
  ⟨[1], Text.empty, [], NameCache.empty, none, none, windowOfOne ⟨0⟩, [], [], false⟩

/-- A folder of that store whose collections are loaded through windows of one row. -/
def windowedFolder : FolderState :=
  ⟨⟨0⟩, [1], [], [], none, windowOfOne ⟨0⟩, windowOfOne ⟨0⟩, windowOfOne ⟨0⟩⟩

/-- A session over an empty world whose list of stores, the store's root folders and the
folder's collections were each loaded through a window of one row. -/
def windowedBench : Console.EntityBench :=
  ⟨⟨#[], [], 0, #[], [], []⟩, Console.Rig.empty,
    ⟨windowOfOne ⟨0⟩, [], false, #[windowedStore], #[windowedFolder], #[], #[], []⟩, [], [], []⟩

/-- In that session, looking up the entry `[2]`, which the windows left out, in each of the
five collections counts a hit and reads nothing. -/
theorem lookups_answer_from_last_load_windowed :
    let s := windowedBench
    let d := Console.EntityBench.driver
    ((ent s).closed = false ∧ (ent s).storeList.loaded = true ∧
      (Entities.lookupStore d [2]).run.run s = (.ok ((ent s).storeList.lookup [2]), hitCounted .stores s)) ∧
    ((ent s).storeHeap[0]? = some windowedStore ∧ windowedStore.rootFolders.loaded = true ∧
      (StoreRef.lookupRootFolder d ⟨0⟩ [2]).run.run s =
        (.ok (windowedStore.rootFolders.lookup [2]), hitCounted .rootFolders s)) ∧
    ((ent s).folderHeap[0]? = some windowedFolder ∧ windowedStore.released = false ∧
      windowedFolder.subFolders.loaded = true ∧ windowedFolder.items.loaded = true ∧
      windowedFolder.conversations.loaded = true ∧
      (FolderRef.lookupSubFolder d ⟨0⟩ [2]).run.run s =
        (.ok (windowedFolder.subFolders.lookup [2]), hitCounted .subFolders s) ∧
      (FolderRef.lookupItem d ⟨0⟩ [2]).run.run s =
        (.ok (windowedFolder.items.lookup [2]), hitCounted .items s) ∧
      (FolderRef.lookupConversation d ⟨0⟩ [2]).run.run s =
        (.ok (windowedFolder.conversations.lookup [2]), hitCounted .conversations s)) :=
  let h := lookups_answer_from_last_load Console.EntityBench.driver windowedBench [2]
  let hf := h.2.2 ⟨0⟩ windowedFolder windowedStore rfl rfl rfl
  ⟨⟨rfl, rfl, h.1 rfl rfl⟩, ⟨rfl, rfl, h.2.1 ⟨0⟩ windowedStore rfl rfl⟩,
    ⟨rfl, rfl, rfl, rfl, rfl, hf.1 rfl, hf.2.1 rfl, hf.2.2 rfl⟩⟩

end MailStore
