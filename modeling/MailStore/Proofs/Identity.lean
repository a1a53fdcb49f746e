import Mathlib
import MailStore.Proofs.Shape

/-!
# One live entity per entry id

A store keeps a map from entry ids to its live folders, and one to its live items; the
session keeps one from entry ids to its stores. Every folder a store gives out, whether it
opened it by id, read it from a table or found it in a collection, comes from that map: a
folder is made only when the map has none for its id, and is added to the map as it is
made.

`SessionShape.Coherent` is the invariant that carries this: each map holds each id once and
only entities of its store with that id, and every collection that gives out entities (the
list of stores, a store's root folders, the child folders and items of a folder in a map)
holds only entries of the maps. Between two clearings the maps only grow
(`SessionShape.Grows`), so an entity given out stays the map's entry for its id, and a later
answer for the same id is the same entity.

## Main statements

* `SessionShape.Coherent.folder_eq`: in a coherent session, two live folders of a store with
  the same id are the same folder.
* `SessionShape.Coherent.cacheFolder`, `SessionShape.Coherent.cacheItem`: making an entity for
  an id the map lacks keeps the session coherent.
-/

namespace MailStore

/-! ### Keys of association lists -/

namespace List

variable {α β : Type} [BEq α] [LawfulBEq α]

theorem mem_of_lookup_eq_some {l : List (α × β)} {k : α} {b : β} (h : l.lookup k = some b) :
    (k, b) ∈ l := by
  obtain ⟨l₁, l₂, rfl, -⟩ := List.lookup_eq_some_iff.mp h
  simp

theorem lookup_eq_some_of_mem {l : List (α × β)} {k : α} {b : β} (hl : (l.map Prod.fst).Nodup)
    (h : (k, b) ∈ l) : l.lookup k = some b := by
  induction l with
  | nil => simp at h
  | cons p l ih =>
    obtain ⟨k', b'⟩ := p
    simp only [List.map_cons, List.nodup_cons, List.mem_map] at hl
    rcases List.mem_cons.mp h with h | h
    · cases h
      simp
    · have hne : (k == k') = false := beq_eq_false_iff_ne.mpr fun he => hl.1 ⟨(k, b), h, he⟩
      rw [List.lookup_cons, hne]
      exact ih hl.2 h

theorem not_mem_keys_of_lookup_eq_none {l : List (α × β)} {k : α} (h : l.lookup k = none) :
    k ∉ l.map Prod.fst := by
  simp only [List.lookup_eq_none_iff, bne_iff_ne, ne_eq] at h
  simp only [List.mem_map, not_exists, not_and]
  rintro p hp rfl
  exact h p hp rfl

/-- Two entries with one key in a list of distinct keys are one entry. -/
theorem eq_of_mem_of_mem {l : List (α × β)} {k : α} {b b' : β} (hl : (l.map Prod.fst).Nodup)
    (h : (k, b) ∈ l) (h' : (k, b') ∈ l) : b = b' := by
  have := (lookup_eq_some_of_mem hl h).symm.trans (lookup_eq_some_of_mem hl h')
  simpa using this

end List

/-! ### Changes to the shape -/

namespace Entities

variable (e : Entities)

@[simp]
theorem shape_store_modifyStore (f : StoreState → StoreState) (i : Nat) (r : StoreRef) :
    { e with storeHeap := e.storeHeap.modify i f }.shape.store r =
      if i = r.idx then e.storeHeap[r.idx]?.map fun S => (f S).shape else e.shape.store r := by
  simp only [shape_store, Array.getElem?_modify]
  split <;> simp [Function.comp_def]

@[simp]
theorem shape_folder_modifyFolder (f : FolderState → FolderState) (i : Nat) (g : FolderRef) :
    { e with folderHeap := e.folderHeap.modify i f }.shape.folder g =
      if i = g.idx then e.folderHeap[g.idx]?.map fun F => (f F).shape else e.shape.folder g := by
  simp only [shape_folder, Array.getElem?_modify]
  split <;> simp [Function.comp_def]

@[simp]
theorem shape_store_pushStore (S : StoreState) (r : StoreRef) :
    { e with storeHeap := e.storeHeap.push S }.shape.store r =
      if r.idx = e.storeHeap.size then some S.shape else e.shape.store r := by
  simp only [shape_store, Array.getElem?_push]
  split <;> simp

@[simp]
theorem shape_folder_pushFolder (F : FolderState) (g : FolderRef) :
    { e with folderHeap := e.folderHeap.push F }.shape.folder g =
      if g.idx = e.folderHeap.size then some F.shape else e.shape.folder g := by
  simp only [shape_folder, Array.getElem?_push]
  split <;> simp

@[simp]
theorem shape_item_pushItem (I : ItemState) (i : ItemRef) :
    { e with itemHeap := e.itemHeap.push I }.shape.item i =
      if i.idx = e.itemHeap.size then some I.shape else e.shape.item i := by
  simp only [shape_item, Array.getElem?_push]
  split <;> simp

end Entities

/-! ### The invariant -/

namespace SessionShape

variable (sh : SessionShape)

/-- A session whose maps and collections agree. -/
structure Coherent : Prop where
  /-- The session's map holds each store id once. -/
  storeIds_nodup : (sh.storeById.map Prod.fst).Nodup
  /-- The session's map holds stores under their own ids. -/
  storeById_entry : ∀ k r, (k, r) ∈ sh.storeById → ∃ S, sh.store r = some S ∧ S.id = k
  /-- A store's folder map holds each id once. -/
  folderIds_nodup : ∀ r S, sh.store r = some S → (S.folders.map Prod.fst).Nodup
  /-- A store's folder map holds its own folders under their own ids. -/
  folder_entry : ∀ r S k f, sh.store r = some S → (k, f) ∈ S.folders →
    ∃ F, sh.folder f = some F ∧ F.id = k ∧ F.store = r
  /-- A store's item map holds each id once. -/
  itemIds_nodup : ∀ r S, sh.store r = some S → (S.items.map Prod.fst).Nodup
  /-- A store's item map holds its own items under their own ids. -/
  item_entry : ∀ r S k i, sh.store r = some S → (k, i) ∈ S.items →
    ∃ I, sh.item i = some I ∧ I.id = k ∧ I.store = r
  /-- The list of stores holds entries of the session's map. -/
  storeList_held : ∀ p ∈ sh.storeList.entries, p ∈ sh.storeById
  /-- A store's root folders are entries of its folder map. -/
  rootFolders_held : ∀ r S, sh.store r = some S → ∀ p ∈ S.rootFolders.entries, p ∈ S.folders
  /-- A root folder list that is not loaded is empty. -/
  rootFolders_unloaded : ∀ r S, sh.store r = some S → S.rootFolders.loaded = false →
    S.rootFolders.entries = []
  /-- The child folders of a folder in a map are entries of that map. -/
  subFolders_held : ∀ r S k f F, sh.store r = some S → (k, f) ∈ S.folders → sh.folder f = some F →
    ∀ p ∈ F.subFolders.entries, p ∈ S.folders
  /-- The items of a folder in a map are entries of its store's item map. -/
  items_held : ∀ r S k f F, sh.store r = some S → (k, f) ∈ S.folders → sh.folder f = some F →
    ∀ p ∈ F.items.entries, p ∈ S.items

/-- The maps of `sh` are kept in `sh'`, which may hold more, and every folder and item of `sh`
is still there with its store and id. -/
structure Grows (sh sh' : SessionShape) : Prop where
  /-- The session's map only grows. -/
  storeById : ∀ p ∈ sh.storeById, p ∈ sh'.storeById
  /-- Each store stays, and its maps only grow. -/
  store : ∀ r S, sh.store r = some S → ∃ S', sh'.store r = some S' ∧
    (∀ p ∈ S.folders, p ∈ S'.folders) ∧ ∀ p ∈ S.items, p ∈ S'.items
  /-- Each folder stays, with its store and id. -/
  folder : ∀ f F, sh.folder f = some F → ∃ F', sh'.folder f = some F' ∧
    F'.store = F.store ∧ F'.id = F.id
  /-- Each item stays, with its store and id. -/
  item : ∀ i I, sh.item i = some I → ∃ I', sh'.item i = some I' ∧
    I'.store = I.store ∧ I'.id = I.id

theorem Grows.refl : sh.Grows sh :=
  ⟨fun _ h => h, fun _ S h => ⟨S, h, fun _ h => h, fun _ h => h⟩,
    fun _ F h => ⟨F, h, rfl, rfl⟩, fun _ I h => ⟨I, h, rfl, rfl⟩⟩

theorem Grows.trans {sh₁ sh₂ sh₃ : SessionShape} (h₁ : sh₁.Grows sh₂) (h₂ : sh₂.Grows sh₃) :
    sh₁.Grows sh₃ := by
  refine ⟨fun p hp => h₂.storeById p (h₁.storeById p hp), fun r S hS => ?_, fun f F hF => ?_,
    fun i I hI => ?_⟩
  · obtain ⟨S₂, hS₂, hf₂, hi₂⟩ := h₁.store r S hS
    obtain ⟨S₃, hS₃, hf₃, hi₃⟩ := h₂.store r S₂ hS₂
    exact ⟨S₃, hS₃, fun p hp => hf₃ p (hf₂ p hp), fun p hp => hi₃ p (hi₂ p hp)⟩
  · obtain ⟨F₂, hF₂, hs₂, hk₂⟩ := h₁.folder f F hF
    obtain ⟨F₃, hF₃, hs₃, hk₃⟩ := h₂.folder f F₂ hF₂
    exact ⟨F₃, hF₃, hs₃.trans hs₂, hk₃.trans hk₂⟩
  · obtain ⟨I₂, hI₂, hs₂, hk₂⟩ := h₁.item i I hI
    obtain ⟨I₃, hI₃, hs₃, hk₃⟩ := h₂.item i I₂ hI₂
    exact ⟨I₃, hI₃, hs₃.trans hs₂, hk₃.trans hk₂⟩

/-- Store `r` holds folder `f` under `k` in its folder map. -/
def HoldsFolder (r : StoreRef) (k : Bytes) (f : FolderRef) : Prop :=
  ∃ S, sh.store r = some S ∧ (k, f) ∈ S.folders

/-- Store `r` holds item `i` under `k` in its item map. -/
def HoldsItem (r : StoreRef) (k : Bytes) (i : ItemRef) : Prop :=
  ∃ S, sh.store r = some S ∧ (k, i) ∈ S.items

/-- A folder is live: some store's map holds it. -/
def LiveFolder (f : FolderRef) : Prop := ∃ r k, sh.HoldsFolder r k f

/-- An item is live: some store's map holds it. -/
def LiveItem (i : ItemRef) : Prop := ∃ r k, sh.HoldsItem r k i

/-- A store is live: the session's map holds it. -/
def LiveStore (r : StoreRef) : Prop := ∃ k, (k, r) ∈ sh.storeById

variable {sh} {sh' : SessionShape}

theorem Grows.holdsFolder (hg : sh.Grows sh') {r k f} (h : sh.HoldsFolder r k f) :
    sh'.HoldsFolder r k f := by
  obtain ⟨S, hS, hmem⟩ := h
  obtain ⟨S', hS', hf, -⟩ := hg.store r S hS
  exact ⟨S', hS', hf _ hmem⟩

theorem Grows.holdsItem (hg : sh.Grows sh') {r k i} (h : sh.HoldsItem r k i) :
    sh'.HoldsItem r k i := by
  obtain ⟨S, hS, hmem⟩ := h
  obtain ⟨S', hS', -, hi⟩ := hg.store r S hS
  exact ⟨S', hS', hi _ hmem⟩

theorem Grows.liveFolder (hg : sh.Grows sh') {f} (h : sh.LiveFolder f) : sh'.LiveFolder f := by
  obtain ⟨r, k, hh⟩ := h
  exact ⟨r, k, hg.holdsFolder hh⟩

theorem Grows.liveItem (hg : sh.Grows sh') {i} (h : sh.LiveItem i) : sh'.LiveItem i := by
  obtain ⟨r, k, hh⟩ := h
  exact ⟨r, k, hg.holdsItem hh⟩

theorem Grows.liveStore (hg : sh.Grows sh') {r} (h : sh.LiveStore r) : sh'.LiveStore r := by
  obtain ⟨k, hk⟩ := h
  exact ⟨k, hg.storeById _ hk⟩

/-! ### Changes that keep the session coherent -/

variable (sh)

/-- The session with store `r` replaced. -/
def setStore (r : StoreRef) (S : StoreShape) : SessionShape :=
  { sh with store := fun r' => if r' = r then some S else sh.store r' }

/-- The session with folder `f` replaced. -/
def setFolder (f : FolderRef) (F : FolderShape) : SessionShape :=
  { sh with folder := fun g => if g = f then some F else sh.folder g }

/-- The session with item `i` replaced. -/
def setItem (i : ItemRef) (I : ItemShape) : SessionShape :=
  { sh with item := fun j => if j = i then some I else sh.item j }

@[simp] theorem setStore_store (r : StoreRef) (S : StoreShape) (r' : StoreRef) :
    (sh.setStore r S).store r' = if r' = r then some S else sh.store r' := rfl

@[simp] theorem setStore_folder (r : StoreRef) (S : StoreShape) :
    (sh.setStore r S).folder = sh.folder := rfl

@[simp] theorem setStore_item (r : StoreRef) (S : StoreShape) : (sh.setStore r S).item = sh.item := rfl

@[simp] theorem setStore_storeList (r : StoreRef) (S : StoreShape) :
    (sh.setStore r S).storeList = sh.storeList := rfl

@[simp] theorem setStore_storeById (r : StoreRef) (S : StoreShape) :
    (sh.setStore r S).storeById = sh.storeById := rfl

@[simp] theorem setFolder_folder (f : FolderRef) (F : FolderShape) (g : FolderRef) :
    (sh.setFolder f F).folder g = if g = f then some F else sh.folder g := rfl

@[simp] theorem setFolder_store (f : FolderRef) (F : FolderShape) :
    (sh.setFolder f F).store = sh.store := rfl

@[simp] theorem setFolder_item (f : FolderRef) (F : FolderShape) : (sh.setFolder f F).item = sh.item :=
  rfl

@[simp] theorem setFolder_storeList (f : FolderRef) (F : FolderShape) :
    (sh.setFolder f F).storeList = sh.storeList := rfl

@[simp] theorem setFolder_storeById (f : FolderRef) (F : FolderShape) :
    (sh.setFolder f F).storeById = sh.storeById := rfl

@[simp] theorem setItem_item (i : ItemRef) (I : ItemShape) (j : ItemRef) :
    (sh.setItem i I).item j = if j = i then some I else sh.item j := rfl

@[simp] theorem setItem_store (i : ItemRef) (I : ItemShape) : (sh.setItem i I).store = sh.store := rfl

@[simp] theorem setItem_folder (i : ItemRef) (I : ItemShape) : (sh.setItem i I).folder = sh.folder :=
  rfl

@[simp] theorem setItem_storeList (i : ItemRef) (I : ItemShape) :
    (sh.setItem i I).storeList = sh.storeList := rfl

@[simp] theorem setItem_storeById (i : ItemRef) (I : ItemShape) :
    (sh.setItem i I).storeById = sh.storeById := rfl

variable {sh}

/-- The stores of a session with one store replaced: that store, or one of the old ones. -/
theorem setStore_store_eq_some {r r' : StoreRef} {S S' : StoreShape} :
    (sh.setStore r S).store r' = some S' ↔ (r' = r ∧ S' = S) ∨ (r' ≠ r ∧ sh.store r' = some S') := by
  by_cases hr : r' = r
  · subst hr
    simp [eq_comm]
  · simp [hr]

/-- The folders of a session with one folder replaced: that folder, or one of the old ones. -/
theorem setFolder_folder_eq_some {f g : FolderRef} {F G : FolderShape} :
    (sh.setFolder f F).folder g = some G ↔ (g = f ∧ G = F) ∨ (g ≠ f ∧ sh.folder g = some G) := by
  by_cases hg : g = f
  · subst hg
    simp [eq_comm]
  · simp [hg]

namespace Coherent

variable (hc : sh.Coherent)
include hc

/-- A folder that a map holds exists. -/
theorem folder_ne_none {r S k f} (hS : sh.store r = some S) (h : (k, f) ∈ S.folders) :
    sh.folder f ≠ none := by
  obtain ⟨F, hF, -⟩ := hc.folder_entry r S k f hS h
  simp [hF]

/-- An item that a map holds exists. -/
theorem item_ne_none {r S k i} (hS : sh.store r = some S) (h : (k, i) ∈ S.items) :
    sh.item i ≠ none := by
  obtain ⟨I, hI, -⟩ := hc.item_entry r S k i hS h
  simp [hI]

/-- **Making a folder.** A fresh folder of store `r`, with id `k` that the store's map lacks
and empty collections, added to the map, keeps the session coherent. -/
theorem cacheFolder {r S k f} (hS : sh.store r = some S) (hk : k ∉ S.folders.map Prod.fst)
    (hf : sh.folder f = none) :
    ((sh.setFolder f ⟨r, k, .empty, .empty, .empty⟩).setStore r
      { S with folders := S.folders ++ [(k, f)] }).Coherent := by
  -- an entry of an old map is not the fresh folder
  have hold : ∀ r' S' k' g, sh.store r' = some S' → (k', g) ∈ S'.folders → g ≠ f := by
    rintro r' S' k' g hS' hmem rfl
    exact hc.folder_ne_none hS' hmem hf
  constructor
  · simpa using hc.storeIds_nodup
  · intro k' r' hmem
    obtain ⟨S', hS', rfl⟩ := hc.storeById_entry k' r' hmem
    by_cases hr : r' = r
    · subst hr
      obtain rfl : S = S' := Option.some.inj (hS.symm.trans hS')
      simp
    · simp [hr, hS']
  · intro r' S' hS'
    rcases setStore_store_eq_some.mp hS' with ⟨rfl, rfl⟩ | ⟨-, hS'⟩
    · have hnew : ∀ a x, (a, x) ∈ S.folders → ¬a = k :=
        fun a x hx hak => hk (hak ▸ List.mem_map.mpr ⟨(a, x), hx, rfl⟩)
      simpa [List.nodup_append] using ⟨hc.folderIds_nodup _ S hS, hnew⟩
    · exact hc.folderIds_nodup r' S' hS'
  · intro r' S' k' g hS' hmem
    rcases setStore_store_eq_some.mp hS' with ⟨rfl, rfl⟩ | ⟨-, hS'⟩
    · rcases List.mem_append.mp hmem with hmem | hmem
      · simpa [hold _ S _ _ hS hmem] using hc.folder_entry _ S k' g hS hmem
      · obtain ⟨rfl, rfl⟩ : k' = k ∧ g = f := by simpa using hmem
        simp
    · simpa [hold _ _ _ _ hS' hmem] using hc.folder_entry r' S' k' g hS' hmem
  · intro r' S' hS'
    rcases setStore_store_eq_some.mp hS' with ⟨rfl, rfl⟩ | ⟨-, hS'⟩
    · exact hc.itemIds_nodup _ S hS
    · exact hc.itemIds_nodup r' S' hS'
  · intro r' S' k' i hS' hmem
    rcases setStore_store_eq_some.mp hS' with ⟨rfl, rfl⟩ | ⟨-, hS'⟩
    · simpa using hc.item_entry _ S k' i hS hmem
    · simpa using hc.item_entry r' S' k' i hS' hmem
  · simpa using hc.storeList_held
  · intro r' S' hS' p hp
    rcases setStore_store_eq_some.mp hS' with ⟨rfl, rfl⟩ | ⟨-, hS'⟩
    · exact List.mem_append_left _ (hc.rootFolders_held _ S hS p hp)
    · exact hc.rootFolders_held r' S' hS' p hp
  · intro r' S' hS'
    rcases setStore_store_eq_some.mp hS' with ⟨rfl, rfl⟩ | ⟨-, hS'⟩
    · exact hc.rootFolders_unloaded _ S hS
    · exact hc.rootFolders_unloaded r' S' hS'
  · intro r' S' k' g G hS' hmem hG p hp
    rcases setFolder_folder_eq_some.mp hG with ⟨rfl, rfl⟩ | ⟨hg, hG₀⟩
    · simp [Collection.empty] at hp
    · rcases setStore_store_eq_some.mp hS' with ⟨rfl, rfl⟩ | ⟨-, hS'⟩
      · have hmem : (k', g) ∈ S.folders := by simpa [hg] using hmem
        exact List.mem_append_left _ (hc.subFolders_held _ S k' g G hS hmem hG₀ p hp)
      · exact hc.subFolders_held r' S' k' g G hS' hmem hG₀ p hp
  · intro r' S' k' g G hS' hmem hG p hp
    rcases setFolder_folder_eq_some.mp hG with ⟨rfl, rfl⟩ | ⟨hg, hG₀⟩
    · simp [Collection.empty] at hp
    · rcases setStore_store_eq_some.mp hS' with ⟨rfl, rfl⟩ | ⟨-, hS'⟩
      · have hmem : (k', g) ∈ S.folders := by simpa [hg] using hmem
        exact hc.items_held _ S k' g G hS hmem hG₀ p hp
      · exact hc.items_held r' S' k' g G hS' hmem hG₀ p hp

/-- **Making an item.** A fresh item of store `r`, with id `k` that the store's map lacks,
added to the map, keeps the session coherent. -/
theorem cacheItem {r S k i} (hS : sh.store r = some S) (hk : k ∉ S.items.map Prod.fst)
    (hi : sh.item i = none) :
    ((sh.setItem i ⟨r, k⟩).setStore r { S with items := S.items ++ [(k, i)] }).Coherent := by
  -- an entry of an old map is not the fresh item
  have hold : ∀ r' S' k' j, sh.store r' = some S' → (k', j) ∈ S'.items → j ≠ i := by
    rintro r' S' k' j hS' hmem rfl
    exact hc.item_ne_none hS' hmem hi
  constructor
  · simpa using hc.storeIds_nodup
  · intro k' r' hmem
    obtain ⟨S', hS', rfl⟩ := hc.storeById_entry k' r' hmem
    by_cases hr : r' = r
    · subst hr
      obtain rfl : S = S' := Option.some.inj (hS.symm.trans hS')
      simp
    · simp [hr, hS']
  · intro r' S' hS'
    rcases setStore_store_eq_some.mp hS' with ⟨rfl, rfl⟩ | ⟨-, hS'⟩
    · exact hc.folderIds_nodup _ S hS
    · exact hc.folderIds_nodup r' S' hS'
  · intro r' S' k' g hS' hmem
    rcases setStore_store_eq_some.mp hS' with ⟨rfl, rfl⟩ | ⟨-, hS'⟩
    · simpa using hc.folder_entry _ S k' g hS hmem
    · simpa using hc.folder_entry r' S' k' g hS' hmem
  · intro r' S' hS'
    rcases setStore_store_eq_some.mp hS' with ⟨rfl, rfl⟩ | ⟨-, hS'⟩
    · have hnew : ∀ a x, (a, x) ∈ S.items → ¬a = k :=
        fun a x hx hak => hk (hak ▸ List.mem_map.mpr ⟨(a, x), hx, rfl⟩)
      simpa [List.nodup_append] using ⟨hc.itemIds_nodup _ S hS, hnew⟩
    · exact hc.itemIds_nodup r' S' hS'
  · intro r' S' k' j hS' hmem
    rcases setStore_store_eq_some.mp hS' with ⟨rfl, rfl⟩ | ⟨-, hS'⟩
    · rcases List.mem_append.mp hmem with hmem | hmem
      · simpa [hold _ S _ _ hS hmem] using hc.item_entry _ S k' j hS hmem
      · obtain ⟨rfl, rfl⟩ : k' = k ∧ j = i := by simpa using hmem
        simp
    · simpa [hold _ _ _ _ hS' hmem] using hc.item_entry r' S' k' j hS' hmem
  · simpa using hc.storeList_held
  · intro r' S' hS' p hp
    rcases setStore_store_eq_some.mp hS' with ⟨rfl, rfl⟩ | ⟨-, hS'⟩
    · exact hc.rootFolders_held _ S hS p hp
    · exact hc.rootFolders_held r' S' hS' p hp
  · intro r' S' hS'
    rcases setStore_store_eq_some.mp hS' with ⟨rfl, rfl⟩ | ⟨-, hS'⟩
    · exact hc.rootFolders_unloaded _ S hS
    · exact hc.rootFolders_unloaded r' S' hS'
  · intro r' S' k' g G hS' hmem hG p hp
    rcases setStore_store_eq_some.mp hS' with ⟨rfl, rfl⟩ | ⟨-, hS'⟩
    · exact hc.subFolders_held _ S k' g G hS hmem hG p hp
    · exact hc.subFolders_held r' S' k' g G hS' hmem hG p hp
  · intro r' S' k' g G hS' hmem hG p hp
    rcases setStore_store_eq_some.mp hS' with ⟨rfl, rfl⟩ | ⟨-, hS'⟩
    · exact List.mem_append_left _ (hc.items_held _ S k' g G hS hmem hG p hp)
    · exact hc.items_held r' S' k' g G hS' hmem hG p hp

/-- **Changing a folder's collections.** A folder that keeps its store and id, and whose
child folders and items are entries of its store's maps when it is in a map, leaves the
session coherent. -/
theorem setFolder {f F F'} (hF : sh.folder f = some F) (hstore : F'.store = F.store)
    (hid : F'.id = F.id)
    (hheld : ∀ r S k, sh.store r = some S → (k, f) ∈ S.folders →
      (∀ p ∈ F'.subFolders.entries, p ∈ S.folders) ∧ ∀ p ∈ F'.items.entries, p ∈ S.items) :
    (sh.setFolder f F').Coherent := by
  -- the folder keeps what the maps read of it
  have hentry : ∀ r S k g, sh.store r = some S → (k, g) ∈ S.folders →
      ∃ G, (sh.setFolder f F').folder g = some G ∧ G.id = k ∧ G.store = r := by
    intro r S k g hS hmem
    obtain ⟨G, hG, rfl, rfl⟩ := hc.folder_entry r S k g hS hmem
    by_cases hg : g = f
    · subst hg
      obtain rfl : F = G := Option.some.inj (hF.symm.trans hG)
      exact ⟨F', by simp, hid, hstore⟩
    · exact ⟨G, by simp [hg, hG], rfl, rfl⟩
  refine ⟨hc.storeIds_nodup, hc.storeById_entry, hc.folderIds_nodup, hentry, hc.itemIds_nodup,
    hc.item_entry, hc.storeList_held, hc.rootFolders_held, hc.rootFolders_unloaded, ?_, ?_⟩
  · intro r S k g G hS hmem hG p hp
    rcases setFolder_folder_eq_some.mp hG with ⟨rfl, rfl⟩ | ⟨-, hG⟩
    · exact (hheld r S k hS hmem).1 p hp
    · exact hc.subFolders_held r S k g G hS hmem hG p hp
  · intro r S k g G hS hmem hG p hp
    rcases setFolder_folder_eq_some.mp hG with ⟨rfl, rfl⟩ | ⟨-, hG⟩
    · exact (hheld r S k hS hmem).2 p hp
    · exact hc.items_held r S k g G hS hmem hG p hp

/-- **Changing a store's root folders.** Root folders that are entries of the store's folder
map, and none while not loaded, leave the session coherent. -/
theorem setRootFolders {r S} (hS : sh.store r = some S) (c : Collection FolderRef)
    (hheld : ∀ p ∈ c.entries, p ∈ S.folders) (hunloaded : c.loaded = false → c.entries = []) :
    (sh.setStore r { S with rootFolders := c }).Coherent := by
  constructor
  · simpa using hc.storeIds_nodup
  · intro k' r' hmem
    obtain ⟨S', hS', rfl⟩ := hc.storeById_entry k' r' hmem
    by_cases hr : r' = r
    · subst hr
      obtain rfl : S = S' := Option.some.inj (hS.symm.trans hS')
      simp
    · simp [hr, hS']
  · intro r' S' hS'
    rcases setStore_store_eq_some.mp hS' with ⟨rfl, rfl⟩ | ⟨-, hS'⟩
    · exact hc.folderIds_nodup _ S hS
    · exact hc.folderIds_nodup r' S' hS'
  · intro r' S' k' g hS' hmem
    rcases setStore_store_eq_some.mp hS' with ⟨rfl, rfl⟩ | ⟨-, hS'⟩
    · simpa using hc.folder_entry _ S k' g hS hmem
    · simpa using hc.folder_entry r' S' k' g hS' hmem
  · intro r' S' hS'
    rcases setStore_store_eq_some.mp hS' with ⟨rfl, rfl⟩ | ⟨-, hS'⟩
    · exact hc.itemIds_nodup _ S hS
    · exact hc.itemIds_nodup r' S' hS'
  · intro r' S' k' i hS' hmem
    rcases setStore_store_eq_some.mp hS' with ⟨rfl, rfl⟩ | ⟨-, hS'⟩
    · simpa using hc.item_entry _ S k' i hS hmem
    · simpa using hc.item_entry r' S' k' i hS' hmem
  · simpa using hc.storeList_held
  · intro r' S' hS' p hp
    rcases setStore_store_eq_some.mp hS' with ⟨rfl, rfl⟩ | ⟨-, hS'⟩
    · exact hheld p hp
    · exact hc.rootFolders_held r' S' hS' p hp
  · intro r' S' hS'
    rcases setStore_store_eq_some.mp hS' with ⟨rfl, rfl⟩ | ⟨-, hS'⟩
    · exact hunloaded
    · exact hc.rootFolders_unloaded r' S' hS'
  · intro r' S' k' g G hS' hmem hG p hp
    rcases setStore_store_eq_some.mp hS' with ⟨rfl, rfl⟩ | ⟨-, hS'⟩
    · exact hc.subFolders_held _ S k' g G hS hmem hG p hp
    · exact hc.subFolders_held r' S' k' g G hS' hmem hG p hp
  · intro r' S' k' g G hS' hmem hG p hp
    rcases setStore_store_eq_some.mp hS' with ⟨rfl, rfl⟩ | ⟨-, hS'⟩
    · exact hc.items_held _ S k' g G hS hmem hG p hp
    · exact hc.items_held r' S' k' g G hS' hmem hG p hp

/-- **Clearing a store.** Emptying a store's maps, with its root folder list empty, leaves the
session coherent: the folders it forgot are in no map any more. -/
theorem clearStore {r S} (hS : sh.store r = some S) (c : Collection FolderRef) (hc' : c.entries = []) :
    (sh.setStore r { S with rootFolders := c, folders := [], items := [] }).Coherent := by
  constructor
  · simpa using hc.storeIds_nodup
  · intro k' r' hmem
    obtain ⟨S', hS', rfl⟩ := hc.storeById_entry k' r' hmem
    by_cases hr : r' = r
    · subst hr
      obtain rfl : S = S' := Option.some.inj (hS.symm.trans hS')
      simp
    · simp [hr, hS']
  · intro r' S' hS'
    rcases setStore_store_eq_some.mp hS' with ⟨rfl, rfl⟩ | ⟨-, hS'⟩
    · simp
    · exact hc.folderIds_nodup r' S' hS'
  · intro r' S' k' g hS' hmem
    rcases setStore_store_eq_some.mp hS' with ⟨rfl, rfl⟩ | ⟨-, hS'⟩
    · simp at hmem
    · simpa using hc.folder_entry r' S' k' g hS' hmem
  · intro r' S' hS'
    rcases setStore_store_eq_some.mp hS' with ⟨rfl, rfl⟩ | ⟨-, hS'⟩
    · simp
    · exact hc.itemIds_nodup r' S' hS'
  · intro r' S' k' i hS' hmem
    rcases setStore_store_eq_some.mp hS' with ⟨rfl, rfl⟩ | ⟨-, hS'⟩
    · simp at hmem
    · simpa using hc.item_entry r' S' k' i hS' hmem
  · simpa using hc.storeList_held
  · intro r' S' hS' p hp
    rcases setStore_store_eq_some.mp hS' with ⟨rfl, rfl⟩ | ⟨-, hS'⟩
    · simp [hc'] at hp
    · exact hc.rootFolders_held r' S' hS' p hp
  · intro r' S' hS'
    rcases setStore_store_eq_some.mp hS' with ⟨rfl, rfl⟩ | ⟨-, hS'⟩
    · exact fun _ => hc'
    · exact hc.rootFolders_unloaded r' S' hS'
  · intro r' S' k' g G hS' hmem hG p hp
    rcases setStore_store_eq_some.mp hS' with ⟨rfl, rfl⟩ | ⟨-, hS'⟩
    · simp at hmem
    · exact hc.subFolders_held r' S' k' g G hS' hmem hG p hp
  · intro r' S' k' g G hS' hmem hG p hp
    rcases setStore_store_eq_some.mp hS' with ⟨rfl, rfl⟩ | ⟨-, hS'⟩
    · simp at hmem
    · exact hc.items_held r' S' k' g G hS' hmem hG p hp

/-- **Changing the list of stores.** A list of entries of the session's map leaves the
session coherent. -/
theorem setStoreList (c : Collection StoreRef) (hheld : ∀ p ∈ c.entries, p ∈ sh.storeById) :
    ({ sh with storeList := c } : SessionShape).Coherent :=
  ⟨hc.storeIds_nodup, hc.storeById_entry, hc.folderIds_nodup, hc.folder_entry, hc.itemIds_nodup,
    hc.item_entry, hheld, hc.rootFolders_held, hc.rootFolders_unloaded, hc.subFolders_held,
    hc.items_held⟩

/-- **Letting go of the stores.** A session whose map of stores is emptied, with a list of
stores without entries, is coherent. -/
theorem dropStores (c : Collection StoreRef) (hc' : c.entries = []) :
    ({ sh with storeById := [], storeList := c } : SessionShape).Coherent :=
  ⟨List.nodup_nil, by simp, hc.folderIds_nodup, hc.folder_entry, hc.itemIds_nodup, hc.item_entry,
    by simp [hc'], hc.rootFolders_held, hc.rootFolders_unloaded, hc.subFolders_held, hc.items_held⟩

/-- **Making a store.** A fresh store with an id the session's map lacks, empty maps and an
empty root folder list, added to the map, keeps the session coherent. -/
theorem addStore {r k S} (hr : sh.store r = none) (hk : k ∉ sh.storeById.map Prod.fst)
    (hid : S.id = k) (hfolders : S.folders = []) (hitems : S.items = [])
    (hroot : S.rootFolders.entries = []) :
    ({ sh.setStore r S with storeById := sh.storeById ++ [(k, r)] } : SessionShape).Coherent := by
  -- no old entry names the fresh store
  have hold : ∀ r' S', sh.store r' = some S' → r' ≠ r := by
    rintro r' S' hS' rfl
    simp [hr] at hS'
  have hstore : ∀ r' S', ({ sh.setStore r S with storeById := sh.storeById ++ [(k, r)] } :
      SessionShape).store r' = some S' → (r' = r ∧ S' = S) ∨ (r' ≠ r ∧ sh.store r' = some S') :=
    fun r' S' h => setStore_store_eq_some.mp h
  constructor
  · have hnew : ∀ a x, (a, x) ∈ sh.storeById → ¬a = k :=
      fun a x hx hak => hk (hak ▸ List.mem_map.mpr ⟨(a, x), hx, rfl⟩)
    simpa [List.nodup_append] using ⟨hc.storeIds_nodup, hnew⟩
  · intro k' r' hmem
    rcases List.mem_append.mp hmem with hmem | hmem
    · obtain ⟨S', hS', rfl⟩ := hc.storeById_entry k' r' hmem
      exact ⟨S', by simp [hold r' S' hS', hS'], rfl⟩
    · obtain ⟨rfl, rfl⟩ : k' = k ∧ r' = r := by simpa using hmem
      exact ⟨S, by simp [setStore], hid⟩
  · intro r' S' hS'
    rcases hstore r' S' hS' with ⟨rfl, rfl⟩ | ⟨-, hS'⟩
    · simp [hfolders]
    · exact hc.folderIds_nodup r' S' hS'
  · intro r' S' k' g hS' hmem
    rcases hstore r' S' hS' with ⟨rfl, rfl⟩ | ⟨-, hS'⟩
    · simp [hfolders] at hmem
    · simpa using hc.folder_entry r' S' k' g hS' hmem
  · intro r' S' hS'
    rcases hstore r' S' hS' with ⟨rfl, rfl⟩ | ⟨-, hS'⟩
    · simp [hitems]
    · exact hc.itemIds_nodup r' S' hS'
  · intro r' S' k' i hS' hmem
    rcases hstore r' S' hS' with ⟨rfl, rfl⟩ | ⟨-, hS'⟩
    · simp [hitems] at hmem
    · simpa using hc.item_entry r' S' k' i hS' hmem
  · exact fun p hp => List.mem_append_left _ (hc.storeList_held p hp)
  · intro r' S' hS' p hp
    rcases hstore r' S' hS' with ⟨rfl, rfl⟩ | ⟨-, hS'⟩
    · simp [hroot] at hp
    · exact hc.rootFolders_held r' S' hS' p hp
  · intro r' S' hS'
    rcases hstore r' S' hS' with ⟨rfl, rfl⟩ | ⟨-, hS'⟩
    · exact fun _ => hroot
    · exact hc.rootFolders_unloaded r' S' hS'
  · intro r' S' k' g G hS' hmem hG p hp
    rcases hstore r' S' hS' with ⟨rfl, rfl⟩ | ⟨-, hS'⟩
    · simp [hfolders] at hmem
    · exact hc.subFolders_held r' S' k' g G hS' hmem hG p hp
  · intro r' S' k' g G hS' hmem hG p hp
    rcases hstore r' S' hS' with ⟨rfl, rfl⟩ | ⟨-, hS'⟩
    · simp [hfolders] at hmem
    · exact hc.items_held r' S' k' g G hS' hmem hG p hp

end Coherent

/-! ### One entity per id -/

namespace Coherent

variable (hc : sh.Coherent)
include hc

/-- A folder a map holds has the map's store and key as its own. -/
theorem folder_of_holds {r k f} (h : sh.HoldsFolder r k f) :
    ∃ F, sh.folder f = some F ∧ F.id = k ∧ F.store = r := by
  obtain ⟨S, hS, hmem⟩ := h
  exact hc.folder_entry r S k f hS hmem

/-- **One live folder per id.** Two live folders of one store with the same id are the same
folder. -/
theorem folder_eq {f g F G} (hf : sh.LiveFolder f) (hg : sh.LiveFolder g) (hF : sh.folder f = some F)
    (hG : sh.folder g = some G) (hid : F.id = G.id) (hstore : F.store = G.store) : f = g := by
  obtain ⟨r, k, S, hS, hmem⟩ := hf
  obtain ⟨r', k', S', hS', hmem'⟩ := hg
  obtain ⟨F₁, hF₁, hk, hr⟩ := hc.folder_entry r S k f hS hmem
  obtain ⟨G₁, hG₁, hk', hr'⟩ := hc.folder_entry r' S' k' g hS' hmem'
  obtain rfl : F₁ = F := Option.some.inj (hF₁.symm.trans hF)
  obtain rfl : G₁ = G := Option.some.inj (hG₁.symm.trans hG)
  subst hk hk' hr hr'
  rw [hstore] at hS
  obtain rfl : S = S' := Option.some.inj (hS.symm.trans hS')
  rw [hid] at hmem
  exact List.eq_of_mem_of_mem (hc.folderIds_nodup _ S hS) hmem hmem'

/-- **One live item per id.** Two live items of one store with the same id are the same item. -/
theorem item_eq {i j I J} (hi : sh.LiveItem i) (hj : sh.LiveItem j) (hI : sh.item i = some I)
    (hJ : sh.item j = some J) (hid : I.id = J.id) (hstore : I.store = J.store) : i = j := by
  obtain ⟨r, k, S, hS, hmem⟩ := hi
  obtain ⟨r', k', S', hS', hmem'⟩ := hj
  obtain ⟨I₁, hI₁, hk, hr⟩ := hc.item_entry r S k i hS hmem
  obtain ⟨J₁, hJ₁, hk', hr'⟩ := hc.item_entry r' S' k' j hS' hmem'
  obtain rfl : I₁ = I := Option.some.inj (hI₁.symm.trans hI)
  obtain rfl : J₁ = J := Option.some.inj (hJ₁.symm.trans hJ)
  subst hk hk' hr hr'
  rw [hstore] at hS
  obtain rfl : S = S' := Option.some.inj (hS.symm.trans hS')
  rw [hid] at hmem
  exact List.eq_of_mem_of_mem (hc.itemIds_nodup _ S hS) hmem hmem'

/-- **One live store per id.** Two live stores with the same id are the same store. -/
theorem store_eq {r r' S S'} (hr : sh.LiveStore r) (hr' : sh.LiveStore r') (hS : sh.store r = some S)
    (hS' : sh.store r' = some S') (hid : S.id = S'.id) : r = r' := by
  obtain ⟨k, hk⟩ := hr
  obtain ⟨k', hk'⟩ := hr'
  obtain ⟨S₁, hS₁, rfl⟩ := hc.storeById_entry k r hk
  obtain ⟨S₂, hS₂, rfl⟩ := hc.storeById_entry k' r' hk'
  obtain rfl : S₁ = S := Option.some.inj (hS₁.symm.trans hS)
  obtain rfl : S₂ = S' := Option.some.inj (hS₂.symm.trans hS')
  rw [hid] at hk
  exact List.eq_of_mem_of_mem hc.storeIds_nodup hk hk'

end Coherent

end SessionShape

end MailStore
