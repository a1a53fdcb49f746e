import Mathlib
import MailStore.Proofs.Advance

/-!
# What the operations give out is live

Every operation of a store, a folder, an item, a conversation or the session advances a
coherent session (`Advances`), and every entity it gives out is live: a folder or an item
that its store's map holds, under the id it was opened with, or a store that the session's map
holds. Folders and items are made in one place, `StoreRef.cacheFolder` and
`StoreRef.cacheItem`, which give the map's entry when there is one; everything else gives out
what those gave or what a collection holds, and a collection holds only entries of the maps.

The collections of a folder hold live entities only while the folder is live itself, so the
operations on a folder's collections answer live entities when the folder is live
(`FolderRef.subFolders_advances`); on a folder that a clearing of the caches let go, they
still keep the session coherent.

## Main statements

* `StoreRef.openFolder_advances`, `StoreRef.openItem_advances`: opening by id gives the map's
  entry.
* `StoreRef.rootFolders_advances`, `FolderRef.subFolders_advances`, `FolderRef.items_advances`:
  loading and picking collections give live entities.
* `Entities.stores_advances`: the stores given out are the session map's entries.
* `FolderRef.walk_advances`, `StoreRef.folderHierarchy_advances`: a walk of the hierarchy gives
  live folders.
-/

namespace MailStore

open SessionShape

variable {σ : Type} [EntityHost σ] [LawfulEntityHost σ] {Pre : SessionShape → Prop}
  (hP : Stable Pre) {d : Driver (EntityM σ)} (hd : d.Stays fun s : σ => (ent s).shape)

/-! ### Entries of the maps -/

namespace SessionShape

variable {α : Type} {sh : SessionShape} (m : StoreShape → List (Bytes × α))

/-- The members of entries that a map of a store holds are held by the store under some id. -/
theorem held_members {r : StoreRef} {S : StoreShape} {es : List (Bytes × α)}
    (hS : sh.store r = some S) (h : ∀ p ∈ es, p ∈ m S) :
    ∀ a ∈ es.map Prod.snd, ∃ k S, sh.store r = some S ∧ (k, a) ∈ m S := by
  intro a ha
  obtain ⟨p, hp, rfl⟩ := List.mem_map.1 ha
  exact ⟨p.1, S, hS, h p hp⟩

/-- Entries that a map of a folder's store holds are entries of that map in every store that
holds the folder: only the folder's own store does. -/
theorem Coherent.held_of_owner (hc : sh.Coherent) {f : FolderRef} {F : FolderShape}
    {es : List (Bytes × α)} (hF : sh.folder f = some F)
    (h : ∀ p ∈ es, ∃ S, sh.store F.store = some S ∧ p ∈ m S) :
    ∀ r S k, sh.store r = some S → (k, f) ∈ S.folders → ∀ p ∈ es, p ∈ m S := by
  intro r S k hS hk p hp
  obtain ⟨F', hF', -, rfl⟩ := hc.folder_entry r S k f hS hk
  obtain rfl : F = F' := Option.some.inj (hF.symm.trans hF')
  obtain ⟨S', hS', hmem⟩ := h p hp
  obtain rfl : S = S' := Option.some.inj (hS.symm.trans hS')
  exact hmem

/-- A folder of a given store stays one as the maps grow. -/
theorem stable_folder_store (f : FolderRef) (r : StoreRef) :
    Stable fun sh => ∃ F, sh.folder f = some F ∧ F.store = r := by
  rintro sh sh' hg ⟨F, hF, rfl⟩
  obtain ⟨F', hF', hs, -⟩ := hg.folder f F hF
  exact ⟨F', hF', hs⟩

/-- Entries held by a map of a folder's store stay held as the maps grow. -/
theorem stable_held_by_owner (f : FolderRef) (es : List (Bytes × α))
    (hm : ∀ S S', (∀ p ∈ S.folders, p ∈ S'.folders) → (∀ p ∈ S.items, p ∈ S'.items) →
      ∀ p ∈ m S, p ∈ m S') :
    Stable fun sh => ∃ F, sh.folder f = some F ∧ ∀ p ∈ es, ∃ S, sh.store F.store = some S ∧ p ∈ m S := by
  rintro sh sh' hg ⟨F, hF, h⟩
  obtain ⟨F', hF', hs, -⟩ := hg.folder f F hF
  refine ⟨F', hF', fun p hp => ?_⟩
  obtain ⟨S, hS, hmem⟩ := h p hp
  obtain ⟨S', hS', hf, hi⟩ := hg.store _ S hS
  exact ⟨S', hs ▸ hS', hm S S' hf hi p hmem⟩

end SessionShape

/-- Live folders stay live as the maps grow. -/
theorem stable_liveFolders (l : List FolderRef) : Stable fun sh => ∀ g ∈ l, sh.LiveFolder g :=
  fun _ _ hg h g hmem => hg.liveFolder (h g hmem)

/-! ### Making entities -/

namespace StoreRef

include hP

/-- **Making a folder.** A row's folder is its store's entry for the row's id. -/
theorem cacheFolder_advances (r : StoreRef) (row : List RawProp) (h : Option Nat) :
    Advances Pre (r.cacheFolder row h : EntityM σ FolderRef) fun f sh =>
      Pre sh ∧ sh.HoldsFolder r (Row.binary row 0) f := by
  intro s hc hp
  unfold StoreRef.cacheFolder
  simp only [Ends.bind_iff, Entities.ends_store]
  split
  · rename_i S hS
    have hS' : (ent s).shape.store r = some S.shape := by simp [hS]
    split
    · rename_i f hf
      exact ⟨.refl hc, hp, S.shape, hS', List.mem_of_lookup_eq_some hf⟩
    · rename_i hnone
      simp only [Ends.bind_iff, Entities.ends_addFolder, Entities.ends_modifyStore, Ends.pure_iff,
        LawfulEntityHost.entities_setEntities]
      rw [Entities.shape_addFolder _ hS]
      -- the id is not in the map, and the new folder is not in the heap
      have hk : Row.binary row 0 ∉ S.folders.map Prod.fst :=
        List.not_mem_keys_of_lookup_eq_none (Option.eq_none_iff_forall_ne_some.mpr hnone)
      have hfresh : (ent s).shape.folder ⟨(ent s).folderHeap.size⟩ = none := by simp
      have hadv := hc.advance_cacheFolder hS' hk hfresh
      refine ⟨hadv, hP _ _ hadv.2 hp, ?_⟩
      exact ⟨{ S.shape with folders := S.folders ++ [(Row.binary row 0, ⟨(ent s).folderHeap.size⟩)] },
        by simp, List.mem_append_right _ (List.mem_singleton_self _)⟩
  · exact .refl hc

/-- **Making an item.** A row's item is its store's entry for the row's id. -/
theorem cacheItem_advances (r : StoreRef) (row : List RawProp) (h : Option Nat) :
    Advances Pre (r.cacheItem row h : EntityM σ ItemRef) fun i sh =>
      Pre sh ∧ sh.HoldsItem r (Row.binary row 0) i := by
  intro s hc hp
  unfold StoreRef.cacheItem
  simp only [Ends.bind_iff, Entities.ends_store]
  split
  · rename_i S hS
    have hS' : (ent s).shape.store r = some S.shape := by simp [hS]
    split
    · rename_i i hi
      exact ⟨.refl hc, hp, S.shape, hS', List.mem_of_lookup_eq_some hi⟩
    · rename_i hnone
      simp only [Ends.bind_iff, Entities.ends_addItem, Entities.ends_modifyStore, Ends.pure_iff,
        LawfulEntityHost.entities_setEntities]
      rw [Entities.shape_addItem _ hS]
      -- the id is not in the map, and the new item is not in the heap
      have hk : Row.binary row 0 ∉ S.items.map Prod.fst :=
        List.not_mem_keys_of_lookup_eq_none (Option.eq_none_iff_forall_ne_some.mpr hnone)
      have hfresh : (ent s).shape.item ⟨(ent s).itemHeap.size⟩ = none := by simp
      have hadv := hc.advance_cacheItem hS' hk hfresh
      refine ⟨hadv, hP _ _ hadv.2 hp, ?_⟩
      exact ⟨{ S.shape with items := S.items ++ [(Row.binary row 0, ⟨(ent s).itemHeap.size⟩)] },
        by simp, List.mem_append_right _ (List.mem_singleton_self _)⟩
  · exact .refl hc

/-! ### Opening by id -/

include hd

/-- **Opening a folder by id** gives its store's entry for an id. -/
theorem openFolder_advances (r : StoreRef) (id : Bytes) :
    Advances Pre (r.openFolder d id) fun f sh => Pre sh ∧ ∃ k, sh.HoldsFolder r k f := by
  unfold StoreRef.openFolder
  refine .bind (.of_stays (ensureOpen_stays shapeView_shape.openView hd.toOpens r)) fun o => ?_
  extract_lets id'
  refine .bind .store fun S => ?_
  split
  · rename_i f hf
    exact .pure fun _ _ hp => ⟨hp.1, id', S.shape, hp.2, List.mem_of_lookup_eq_some hf⟩
  refine .bind .count fun _ => .bind (.of_stays (.wrapping (hd.openFolder _ _))) fun h => ?_
  refine .bind .count fun _ => .bind (.of_stays (.wrapping (hd.getProps _ _))) fun row => ?_
  extract_lets jp
  split
  · exact (cacheFolder_advances hP r row _).mono (fun _ _ hp => hp.1) fun _ _ hp => ⟨hp.1, _, hp.2⟩
  · exact .throw_bind

/-- **Opening an item by id** gives its store's entry for an id. -/
theorem openItem_advances (r : StoreRef) (id : Bytes) :
    Advances Pre (r.openItem d id) fun i sh => Pre sh ∧ ∃ k, sh.HoldsItem r k i := by
  unfold StoreRef.openItem
  refine .bind .store fun S => ?_
  split
  · rename_i i hi
    exact .pure fun _ _ hp => ⟨hp.1, id, S.shape, hp.2, List.mem_of_lookup_eq_some hi⟩
  refine .bind (.of_stays (ensureOpen_stays shapeView_shape.openView hd.toOpens r)) fun o => ?_
  refine .bind .count fun _ => .bind (.of_stays (.wrapping (hd.openMessage _ _))) fun h => ?_
  refine .bind .count fun _ => .bind (.of_stays (.wrapping (hd.getProps _ _))) fun row => ?_
  extract_lets jp
  split
  · exact (cacheItem_advances hP r row _).mono (fun _ _ hp => hp.1) fun _ _ hp => ⟨hp.1, _, hp.2⟩
  · exact .throw_bind

/-- The special folders given out are entries of their store's map. -/
theorem specialFolders_advances (r : StoreRef) (kinds : List Int) :
    Advances Pre (r.specialFolders d kinds) fun fs sh =>
      Pre sh ∧ ∀ f ∈ fs, ∃ k, sh.HoldsFolder r k f := by
  unfold StoreRef.specialFolders
  refine .bind (.of_stays (specialIds_stays shapeView_shape.openView hd.toOpens r)) fun ids => ?_
  refine .mapM _ ?_ kinds fun n _ => ?_
  · exact fun f _ _ hg ⟨k, hk⟩ => ⟨k, hg.holdsFolder hk⟩
  split
  · exact openFolder_advances hP hd r _
  · exact .throw

theorem lookupSpecialFolder_advances (r : StoreRef) (n : Int) :
    Advances Pre (r.lookupSpecialFolder d n) fun o sh =>
      Pre sh ∧ ∀ f ∈ o, ∃ k, sh.HoldsFolder r k f := by
  unfold StoreRef.lookupSpecialFolder
  refine .bind (.of_stays (specialIds_stays shapeView_shape.openView hd.toOpens r)) fun ids => ?_
  split
  · refine .bind (openFolder_advances hP hd r _) fun f => .pure fun _ _ hp => ⟨hp.1, ?_⟩
    simpa using hp.2
  · exact .pure fun _ _ hp => ⟨hp, by simp⟩

/-! ### Root folders -/

/-- Reading the root folders gives entries of the store's map. -/
theorem readRootFolders_advances (r : StoreRef) (dirs : Directives) {watch : Nat → EntityM σ Unit}
    (hw : ∀ t, Advances Pre (watch t) fun _ => Pre) :
    Advances Pre (r.readRootFolders d dirs watch) fun es sh =>
      Pre sh ∧ ∀ p ∈ es, sh.HoldsFolder r p.1 p.2 := by
  unfold StoreRef.readRootFolders
  refine .bind (.of_stays (ensureOpen_stays shapeView_shape.openView hd.toOpens r)) fun o => ?_
  refine .bind .count fun _ => .bind (.of_stays (.wrapping (hd.hierarchyTable _))) fun t => ?_
  refine .bind (hw t) fun _ => .bind .count fun _ => ?_
  refine .bind (.of_stays (.wrapping (hd.read _ _))) fun rows => ?_
  refine .mapM _ ?_ rows fun row _ => ?_
  · exact fun p _ _ hg h => hg.holdsFolder h
  exact .bind (cacheFolder_advances hP r row none) fun f => .pure fun _ _ hp => hp

theorem loadRootFolders_advances (r : StoreRef) (dirs : Directives) :
    Advances Pre (r.loadRootFolders d dirs) fun fs sh =>
      Pre sh ∧ ∀ f ∈ fs, ∃ k, sh.HoldsFolder r k f := by
  unfold StoreRef.loadRootFolders
  refine (rootSlot_fitted r).load hP _
    (readRootFolders_advances hP hd r dirs ((rootSlot_fitted r).watch hP hd _ _))
    (fun es _ _ hg h p hp => hg.holdsFolder (h p hp)) ?_ ?_ ?_
  · -- what was read is in the map of the store that the collection fits
    rintro c es sh - ⟨S, hS, -, -⟩ h
    refine ⟨S, hS, fun p hp => ?_, by simp⟩
    obtain ⟨S', hS', hmem⟩ := h p hp
    obtain rfl : S = S' := Option.some.inj (hS.symm.trans hS')
    exact hmem
  · rintro c sh - ⟨S, hS, hheld, -⟩ -
    exact held_members StoreShape.folders hS hheld
  · intro es sh h f hf
    obtain ⟨p, hp, rfl⟩ := List.mem_map.1 hf
    exact ⟨p.1, h p hp⟩

/-- **Root folders.** The root folders given out, all or picked by id, are entries of their
store's map. -/
theorem rootFolders_advances (r : StoreRef) (ids : Option (List Bytes)) (dirs : Directives) :
    Advances Pre (r.rootFolders d ids dirs) fun fs sh =>
      Pre sh ∧ ∀ f ∈ fs, ∃ k, sh.HoldsFolder r k f := by
  unfold StoreRef.rootFolders
  refine .bind (loadRootFolders_advances hP hd r dirs) fun all => ?_
  split
  · exact .pure fun _ _ hp => hp
  · refine .bind ((rootSlot_fitted r).get _) fun c => .ofExcept fun fs hfs sh _ hp => ⟨hp.1.1, ?_⟩
    obtain ⟨S, hS, hheld, -⟩ := hp.2
    intro f hf
    obtain ⟨k, hk⟩ := Collection.mem_entries_of_pick hfs f hf
    exact ⟨k, S, hS, hheld _ hk⟩

/-- The root folder found by id is an entry of its store's map. -/
theorem lookupRootFolder_advances (r : StoreRef) (id : Bytes) :
    Advances Pre (r.lookupRootFolder d id) fun o sh =>
      Pre sh ∧ ∀ f ∈ o, ∃ k, sh.HoldsFolder r k f := by
  unfold StoreRef.lookupRootFolder
  refine .bind ((rootSlot_fitted r).get Pre) fun c => ?_
  refine .bind (.discard ((loadRootFolders_advances hP hd r c.dirs).mono (fun _ _ hp => hp.1)
    fun _ _ hp => hp.1)) fun _ => ?_
  refine .bind ((rootSlot_fitted r).get Pre) fun c' => .pure fun _ _ hp => ⟨hp.1, ?_⟩
  obtain ⟨S, hS, hheld, -⟩ := hp.2
  intro f hf
  exact ⟨id, S, hS, hheld _ (Collection.mem_entries_of_lookup hf)⟩

end StoreRef

/-! ### Folders -/

namespace FolderRef

omit [LawfulEntityHost σ] in
/-- A folder's store is the store its state names. -/
theorem owner_advances (f : FolderRef) :
    Advances Pre (f.owner : EntityM σ StoreRef) fun r sh =>
      Pre sh ∧ ∃ F, sh.folder f = some F ∧ F.store = r := by
  unfold FolderRef.owner
  dsimp only
  refine .bind .folder fun F => .bind .store fun S => ?_
  split
  · exact .throw_bind
  · exact .pure fun _ _ hp => ⟨hp.1.1, F.shape, hp.1.2, rfl⟩

include hd

theorem ensureOpen_advances (f : FolderRef) :
    Advances Pre (f.ensureOpen d) fun p sh => Pre sh ∧ ∃ F, sh.folder f = some F ∧ F.store = p.1 := by
  unfold FolderRef.ensureOpen
  refine .bind (owner_advances f) fun r => .bind .folder fun F => ?_
  split
  · exact .pure fun _ _ hp => hp.1
  refine .bind (.of_stays (StoreRef.ensureOpen_stays shapeView_shape.openView hd.toOpens r)) fun _ => ?_
  refine .bind .count fun _ => .bind (.of_stays (.wrapping (hd.openFolder _ _))) fun _ => ?_
  refine .bind (.of_stays (.modifyFolder shapeView_shape fun _ => rfl)) fun _ => ?_
  exact .pure fun _ _ hp => hp.1

theorem contentsTable_advances (f : FolderRef) :
    Advances Pre (f.contentsTable d) fun p sh => Pre sh ∧ ∃ F, sh.folder f = some F ∧ F.store = p.1 := by
  unfold FolderRef.contentsTable
  refine .bind (ensureOpen_advances hd f) fun ⟨r, h⟩ => .bind .count fun _ => ?_
  exact .bind (.of_stays (.wrapping (hd.contentsTable _))) fun _ => .pure fun _ _ hp => hp

include hP

/-- Reading the child folders gives entries of the folder's store's map. -/
theorem readSubFolders_advances (f : FolderRef) (dirs : Directives) {watch : Nat → EntityM σ Unit}
    (hw : ∀ P : SessionShape → Prop, Stable P → ∀ t, Advances P (watch t) fun _ => P) :
    Advances Pre (f.readSubFolders d dirs watch) fun es sh =>
      Pre sh ∧ ∃ F, sh.folder f = some F ∧ ∀ p ∈ es, sh.HoldsFolder F.store p.1 p.2 := by
  unfold FolderRef.readSubFolders
  refine .bind (ensureOpen_advances hd f) fun ⟨r, h⟩ => ?_
  have hQ := hP.and (stable_folder_store f r)
  refine .bind .count fun _ => .bind (.of_stays (.wrapping (hd.hierarchyTable _))) fun t => ?_
  refine .bind (hw _ hQ t) fun _ => .bind .count fun _ => ?_
  refine .bind (.of_stays (.wrapping (hd.read _ _))) fun rows => ?_
  refine (Advances.mapM (fun p sh => sh.HoldsFolder r p.1 p.2) ?_ rows fun row _ => ?_).mono
    (fun _ _ hp => hp) ?_
  · exact fun p _ _ hg h => hg.holdsFolder h
  · exact .bind (StoreRef.cacheFolder_advances hQ r row none) fun g => .pure fun _ _ hp => hp
  · rintro es sh ⟨⟨hp, F, hF, rfl⟩, h⟩
    exact ⟨hp, F, hF, h⟩

/-- **Child folders.** Loading the child folders of a live folder gives live folders. -/
theorem loadSubFolders_advances (f : FolderRef) (dirs : Directives) :
    Advances Pre (f.loadSubFolders d dirs) fun gs sh =>
      Pre sh ∧ (sh.LiveFolder f → ∀ g ∈ gs, sh.LiveFolder g) := by
  unfold FolderRef.loadSubFolders
  refine .bind (.discard (.of_stays (owner_stays f))) fun _ => ?_
  refine (subSlot_fitted f).load hP _
    (readSubFolders_advances hP hd f dirs fun P hP' t => (subSlot_fitted f).watch hP' hd _ _ t)
    (fun es => stable_held_by_owner StoreShape.folders f es fun _ _ hf _ => hf) ?_ ?_ ?_
  · rintro c es sh hc - ⟨F, hF, h⟩
    exact hc.held_of_owner StoreShape.folders hF h
  · rintro c sh - hfits - ⟨r, k, S, hS, hk⟩
    exact fun g hg => ⟨r, held_members StoreShape.folders hS (hfits r S k hS hk) g hg⟩
  · rintro es sh ⟨F, hF, h⟩ - g hg
    obtain ⟨p, hp, rfl⟩ := List.mem_map.1 hg
    exact ⟨F.store, p.1, h p hp⟩

/-- The child folders given out, all or picked by id, are live when their folder is. -/
theorem subFolders_advances (f : FolderRef) (ids : Option (List Bytes)) (dirs : Directives) :
    Advances Pre (f.subFolders d ids dirs) fun gs sh =>
      Pre sh ∧ (sh.LiveFolder f → ∀ g ∈ gs, sh.LiveFolder g) := by
  unfold FolderRef.subFolders
  refine .bind (loadSubFolders_advances hP hd f dirs) fun all => ?_
  split
  · exact .pure fun _ _ hp => hp
  · refine .bind ((subSlot_fitted f).get _) fun c => .ofExcept fun gs hgs sh _ hp => ⟨hp.1.1, ?_⟩
    rintro ⟨r, k, S, hS, hk⟩ g hg
    obtain ⟨k', hk'⟩ := Collection.mem_entries_of_pick hgs g hg
    exact ⟨r, k', S, hS, hp.2 r S k hS hk _ hk'⟩

/-- The child folder found by id is live when its folder is. -/
theorem lookupSubFolder_advances (f : FolderRef) (id : Bytes) :
    Advances Pre (f.lookupSubFolder d id) fun o sh =>
      Pre sh ∧ (sh.LiveFolder f → ∀ g ∈ o, sh.LiveFolder g) := by
  unfold FolderRef.lookupSubFolder
  refine .bind ((subSlot_fitted f).get Pre) fun c => ?_
  refine .bind (.discard ((loadSubFolders_advances hP hd f c.dirs).mono (fun _ _ hp => hp.1)
    fun _ _ hp => hp.1)) fun _ => ?_
  refine .bind ((subSlot_fitted f).get Pre) fun c' => .pure fun _ _ hp => ⟨hp.1, ?_⟩
  rintro ⟨r, k, S, hS, hk⟩ g hg
  exact ⟨r, id, S, hS, hp.2 r S k hS hk _ (Collection.mem_entries_of_lookup hg)⟩

/-- Reading the items gives entries of the folder's store's item map. -/
theorem readItems_advances (f : FolderRef) (dirs : Directives) {watch : Nat → EntityM σ Unit}
    (hw : ∀ P : SessionShape → Prop, Stable P → ∀ t, Advances P (watch t) fun _ => P) :
    Advances Pre (f.readItems d dirs watch) fun es sh =>
      Pre sh ∧ ∃ F, sh.folder f = some F ∧ ∀ p ∈ es, sh.HoldsItem F.store p.1 p.2 := by
  unfold FolderRef.readItems
  refine .bind (contentsTable_advances hd f) fun ⟨r, t⟩ => ?_
  have hQ := hP.and (stable_folder_store f r)
  refine .bind (hw _ hQ t) fun _ => .bind .count fun _ => ?_
  refine .bind (.of_stays (.wrapping (hd.read _ _))) fun rows => ?_
  refine (Advances.mapM (fun p sh => sh.HoldsItem r p.1 p.2) ?_ rows fun row _ => ?_).mono
    (fun _ _ hp => hp) ?_
  · exact fun p _ _ hg h => hg.holdsItem h
  · exact .bind (StoreRef.cacheItem_advances hQ r row none) fun i => .pure fun _ _ hp => hp
  · rintro es sh ⟨⟨hp, F, hF, rfl⟩, h⟩
    exact ⟨hp, F, hF, h⟩

/-- **Items.** Loading the items of a live folder gives live items. -/
theorem loadItems_advances (f : FolderRef) (dirs : Directives) :
    Advances Pre (f.loadItems d dirs) fun is sh =>
      Pre sh ∧ (sh.LiveFolder f → ∀ i ∈ is, sh.LiveItem i) := by
  unfold FolderRef.loadItems
  refine .bind (.discard (.of_stays (owner_stays f))) fun _ => ?_
  refine (itemSlot_fitted f).load hP _
    (readItems_advances hP hd f dirs fun P hP' t => (itemSlot_fitted f).watch hP' hd _ _ t)
    (fun es => stable_held_by_owner StoreShape.items f es fun _ _ _ hi => hi) ?_ ?_ ?_
  · rintro c es sh hc - ⟨F, hF, h⟩
    exact hc.held_of_owner StoreShape.items hF h
  · rintro c sh - hfits - ⟨r, k, S, hS, hk⟩
    exact fun i hi => ⟨r, held_members StoreShape.items hS (hfits r S k hS hk) i hi⟩
  · rintro es sh ⟨F, hF, h⟩ - i hi
    obtain ⟨p, hp, rfl⟩ := List.mem_map.1 hi
    exact ⟨F.store, p.1, h p hp⟩

/-- The items given out, all or picked by id, are live when their folder is. -/
theorem items_advances (f : FolderRef) (ids : Option (List Bytes)) (dirs : Directives) :
    Advances Pre (f.items d ids dirs) fun is sh =>
      Pre sh ∧ (sh.LiveFolder f → ∀ i ∈ is, sh.LiveItem i) := by
  unfold FolderRef.items
  refine .bind (loadItems_advances hP hd f dirs) fun all => ?_
  split
  · exact .pure fun _ _ hp => hp
  · refine .bind ((itemSlot_fitted f).get _) fun c => .ofExcept fun is his sh _ hp => ⟨hp.1.1, ?_⟩
    rintro ⟨r, k, S, hS, hk⟩ i hi
    obtain ⟨k', hk'⟩ := Collection.mem_entries_of_pick his i hi
    exact ⟨r, k', S, hS, hp.2 r S k hS hk _ hk'⟩

/-- The item found by id is live when its folder is. -/
theorem lookupItem_advances (f : FolderRef) (id : Bytes) :
    Advances Pre (f.lookupItem d id) fun o sh =>
      Pre sh ∧ (sh.LiveFolder f → ∀ i ∈ o, sh.LiveItem i) := by
  unfold FolderRef.lookupItem
  refine .bind ((itemSlot_fitted f).get Pre) fun c => ?_
  refine .bind (.discard ((loadItems_advances hP hd f c.dirs).mono (fun _ _ hp => hp.1)
    fun _ _ hp => hp.1)) fun _ => ?_
  refine .bind ((itemSlot_fitted f).get Pre) fun c' => .pure fun _ _ hp => ⟨hp.1, ?_⟩
  rintro ⟨r, k, S, hS, hk⟩ i hi
  exact ⟨r, id, S, hS, hp.2 r S k hS hk _ (Collection.mem_entries_of_lookup hi)⟩

omit hP in
/-- Reading the conversations makes new ones and touches no map. -/
theorem readConversations_advances (f : FolderRef) (dirs : Directives)
    {watch : Nat → EntityM σ Unit} (hw : ∀ t, Advances Pre (watch t) fun _ => Pre) :
    Advances Pre (f.readConversations d dirs watch) fun _ => Pre := by
  unfold FolderRef.readConversations
  refine .bind (.of_stays (contentsTable_stays shapeView_shape hd.toOpens f)) fun ⟨_, t⟩ => ?_
  refine .bind (hw t) fun _ => .bind .count fun _ => ?_
  refine .bind (.of_stays (.wrapping (hd.read _ _))) fun rows => .bind (.of_stays .folder) fun F => ?_
  exact .of_stays (.mapM (fun _ => .bind (.addConversation shapeView_shape) fun _ => .pure) _)

/-- Loading the conversations touches no map: no map holds conversations. -/
theorem loadConversations_advances (f : FolderRef) (dirs : Directives) :
    Advances Pre (f.loadConversations d dirs) fun _ => Pre := by
  unfold FolderRef.loadConversations
  refine .bind (.discard (.of_stays (owner_stays f))) fun _ => ?_
  refine ((conversationSlot_fitted f).load hP (fun _ _ => True)
    ((readConversations_advances hd f dirs ((conversationSlot_fitted f).watch hP hd _ _)).mono
      (fun _ _ hp => hp) fun _ _ hp => ⟨hp, trivial⟩)
    (fun _ => stable_true) ?_ ?_ ?_).mono (fun _ _ hp => hp) fun _ _ hp => hp.1
  · exact fun _ _ _ _ _ _ => trivial
  · exact fun _ _ _ _ _ => trivial
  · exact fun _ _ _ => trivial

theorem conversations_advances (f : FolderRef) (ids : Option (List Bytes)) (dirs : Directives) :
    Advances Pre (f.conversations d ids dirs) fun _ => Pre := by
  unfold FolderRef.conversations
  refine .bind (loadConversations_advances hP hd f dirs) fun all => ?_
  split
  · exact .pure fun _ _ hp => hp
  · exact .bind ((conversationSlot_fitted f).get _) fun c => .ofExcept fun _ _ _ _ hp => hp.1

theorem lookupConversation_advances (f : FolderRef) (id : Bytes) :
    Advances Pre (f.lookupConversation d id) fun _ => Pre := by
  unfold FolderRef.lookupConversation
  refine .bind ((conversationSlot_fitted f).get Pre) fun c => ?_
  refine .bind (.discard ((loadConversations_advances hP hd f c.dirs).mono (fun _ _ hp => hp.1)
    fun _ _ hp => hp)) fun _ => ?_
  exact .bind ((conversationSlot_fitted f).get Pre) fun _ => .pure fun _ _ hp => hp.1

/-- **Parent folder.** The parent given out is an entry of the folder's store's map. -/
theorem parentFolder_advances (f : FolderRef) :
    Advances Pre (f.parentFolder d) fun o sh => Pre sh ∧ ∀ g ∈ o, sh.LiveFolder g := by
  unfold FolderRef.parentFolder
  refine .bind (.of_stays (owner_stays f)) fun r => ?_
  refine .bind (.of_stays (StoreRef.rootId_stays shapeView_shape.openView hd.toOpens r)) fun root => ?_
  refine .bind (.of_stays .folder) fun F => ?_
  split
  · exact .pure fun _ _ hp => ⟨hp, by simp⟩
  · refine .bind (StoreRef.openFolder_advances hP hd r _) fun g => .pure fun _ _ hp => ⟨hp.1, ?_⟩
    obtain ⟨k, hk⟩ := hp.2
    simpa using ⟨r, k, hk⟩

/-- **Walking the hierarchy.** A walk from live folders gives live folders. -/
theorem walk_advances (deep : Bool) (fuel : Nat) (queue acc : List FolderRef) :
    Advances (fun sh => Pre sh ∧ (∀ g ∈ queue, sh.LiveFolder g) ∧ ∀ g ∈ acc, sh.LiveFolder g)
      (walk d deep fuel queue acc) fun gs sh => Pre sh ∧ ∀ g ∈ gs, sh.LiveFolder g := by
  induction fuel generalizing queue acc with
  | zero =>
    unfold walk
    exact .pure fun _ _ hp => ⟨hp.1, hp.2.2⟩
  | succ fuel ih =>
    cases queue with
    | nil =>
      unfold walk
      exact .pure fun _ _ hp => ⟨hp.1, hp.2.2⟩
    | cons next queue =>
      unfold walk
      have hI := hP.and ((stable_liveFolders (next :: queue)).and (stable_liveFolders acc))
      -- the children of a live folder are live
      have hchildren : Advances (fun sh => Pre sh ∧ (∀ g ∈ next :: queue, sh.LiveFolder g) ∧
          ∀ g ∈ acc, sh.LiveFolder g) (subFolders d next none Directives.none) fun cs sh =>
            (Pre sh ∧ (∀ g ∈ next :: queue, sh.LiveFolder g) ∧ ∀ g ∈ acc, sh.LiveFolder g) ∧
              ∀ c ∈ cs, sh.LiveFolder c :=
        (subFolders_advances hI hd next none .none).mono (fun _ _ hp => hp) fun _ _ hp =>
          ⟨hp.1, hp.2 (hp.1.2.1 next List.mem_cons_self)⟩
      refine .bind hchildren fun children => ?_
      dsimp only
      -- the loop keeps some of the children
      refine .bind ((Advances.forIn (fun more sh => ∀ g ∈ more, sh.LiveFolder g) fun c hc more => ?_).mono
        (fun _ _ hp => ⟨hp, by simp⟩) fun _ _ hp => hp) fun more => ?_
      · refine .bind (.of_stays .folder) fun F => ?_
        split
        · refine .pure fun _ _ hp => ⟨hp.1, fun g hg => ?_⟩
          rcases List.mem_append.1 hg with hg | hg
          · exact hp.2 g hg
          · rw [List.mem_singleton.1 hg]
            exact hp.1.2 c hc
        · exact .pure fun _ _ hp => hp
      refine (ih (queue ++ more) (acc ++ children)).mono ?_ fun _ _ hp => hp
      rintro sh - ⟨⟨⟨hp, hq, ha⟩, hc⟩, hm⟩
      refine ⟨hp, fun g hg => ?_, fun g hg => ?_⟩
      · rcases List.mem_append.1 hg with hg | hg
        · exact hq g (List.mem_cons_of_mem _ hg)
        · exact hm g hg
      · rcases List.mem_append.1 hg with hg | hg
        · exact ha g hg
        · exact hc g hg

end FolderRef

section Answers

include hP hd

/-- **Folder hierarchy.** The folders of a hierarchy below a folder are live. -/
theorem StoreRef.folderHierarchy_advances (r : StoreRef) (parentId : Bytes) (onlyChildren : Bool) :
    Advances Pre (r.folderHierarchy d parentId onlyChildren) fun gs sh =>
      Pre sh ∧ ∀ g ∈ gs, sh.LiveFolder g := by
  unfold StoreRef.folderHierarchy
  refine .bind (StoreRef.openFolder_advances hP hd r parentId) fun top => ?_
  refine (FolderRef.walk_advances hP hd _ _ [top] []).mono ?_ fun _ _ hp => hp
  rintro sh - ⟨hp, k, hk⟩
  refine ⟨hp, fun g hg => ?_, by simp⟩
  rw [List.mem_singleton.1 hg]
  exact ⟨r, k, hk⟩

/-- The folder holding an item is live. -/
theorem ItemRef.parentFolder_advances (i : ItemRef) :
    Advances Pre (i.parentFolder d) fun g sh => Pre sh ∧ sh.LiveFolder g := by
  unfold ItemRef.parentFolder
  refine .bind (.of_stays (ItemRef.owner_stays i)) fun r => .bind (.of_stays .item) fun I => ?_
  exact (StoreRef.openFolder_advances hP hd r _).mono (fun _ _ hp => hp) fun _ _ ⟨hp, k, hk⟩ =>
    ⟨hp, r, k, hk⟩

/-- **Conversation items.** The items of a conversation are live. -/
theorem ConversationRef.items_advances (c : ConversationRef) :
    Advances Pre (c.items d) fun is sh => Pre sh ∧ ∀ i ∈ is, sh.LiveItem i := by
  unfold ConversationRef.items
  refine .bind (.of_stays .conversation) fun C => .bind (.of_stays .store) fun S => ?_
  split
  · exact .throw_bind
  refine (Advances.mapM (fun i sh => ∃ k, sh.HoldsItem C.store k i) ?_ _ fun id _ =>
    StoreRef.openItem_advances hP hd _ _).mono (fun _ _ hp => hp) ?_
  · exact fun i _ _ hg ⟨k, hk⟩ => ⟨k, hg.holdsItem hk⟩
  · exact fun is sh ⟨hp, h⟩ => ⟨hp, fun i hi => ⟨C.store, h i hi⟩⟩

end Answers

/-! ### The session's stores -/

namespace Entities

include hP hd

/-- Reading the stores gives entries of the session's map: a store it has not seen is added
under its id. -/
theorem readStores_advances (dirs : Directives) {watch : Nat → EntityM σ Unit}
    (hw : ∀ t, Advances Pre (watch t) fun _ => Pre) :
    Advances Pre (readStores d dirs watch) fun es sh => Pre sh ∧ ∀ p ∈ es, p ∈ sh.storeById := by
  unfold readStores
  refine .bind .count fun _ => .bind (.of_stays (.wrapping hd.storesTable)) fun t => ?_
  refine .bind (hw t) fun _ => .bind .count fun _ => ?_
  refine .bind (.of_stays (.wrapping (hd.read _ _))) fun rows => ?_
  refine .mapM (fun p sh => p ∈ sh.storeById) (fun p _ _ hg h => hg.storeById p h) rows
    fun row _ => ?_
  intro s hc hp
  simp only [Ends.bind_iff, ends_current]
  split
  · rename_i r hr
    exact ⟨.refl hc, hp, List.mem_of_lookup_eq_some hr⟩
  · rename_i hnone
    simp only [Ends.bind_iff, ends_addStore, ends_modify, Ends.pure_iff,
      LawfulEntityHost.entities_setEntities]
    rw [shape_addStore]
    -- the id is not in the map, and the new store is not in the heap
    have hk : Row.binary row 0 ∉ (ent s).shape.storeById.map Prod.fst :=
      List.not_mem_keys_of_lookup_eq_none hnone
    have hfresh : (ent s).shape.store ⟨(ent s).storeHeap.size⟩ = none := by simp
    have hadv : (ent s).shape.Advance { (ent s).shape.setStore ⟨(ent s).storeHeap.size⟩
        (newStore row).shape with storeById := (ent s).storeById ++
          [(Row.binary row 0, ⟨(ent s).storeHeap.size⟩)] } :=
      ⟨hc.addStore hfresh hk rfl rfl rfl rfl, grows_newStore hfresh _⟩
    exact ⟨hadv, hP _ _ hadv.2 hp, List.mem_append_right _ (List.mem_singleton_self _)⟩

/-- **Stores.** Loading the stores gives live stores. -/
theorem loadStores_advances (dirs : Directives) :
    Advances Pre (loadStores d dirs) fun rs sh => Pre sh ∧ ∀ r ∈ rs, sh.LiveStore r := by
  unfold loadStores
  refine .bind (.of_stays .current) fun e => ?_
  split
  · exact .throw_bind
  refine storesSlot_fitted.load hP _ (readStores_advances hP hd dirs (storesSlot_fitted.watch hP hd _ _))
    (fun es _ _ hg h p hp => hg.storeById p (h p hp)) (fun _ _ _ _ _ h => h) ?_ ?_
  · rintro c sh - hfits - r hr
    obtain ⟨p, hp, rfl⟩ := List.mem_map.1 hr
    exact ⟨p.1, hfits p hp⟩
  · intro es sh h r hr
    obtain ⟨p, hp, rfl⟩ := List.mem_map.1 hr
    exact ⟨p.1, h p hp⟩

/-- The stores given out, all or picked by id, are live. -/
theorem stores_advances (ids : Option (List Bytes)) (dirs : Directives) :
    Advances Pre (stores d ids dirs) fun rs sh => Pre sh ∧ ∀ r ∈ rs, sh.LiveStore r := by
  unfold stores
  refine .bind (loadStores_advances hP hd dirs) fun all => ?_
  split
  · exact .pure fun _ _ hp => hp
  · refine .bind (storesSlot_fitted.get _) fun c => .ofExcept fun rs hrs sh _ hp => ⟨hp.1.1, ?_⟩
    intro r hr
    obtain ⟨k, hk⟩ := Collection.mem_entries_of_pick hrs r hr
    exact ⟨k, hp.2 _ hk⟩

/-- The store found by id is live. -/
theorem lookupStore_advances (id : Bytes) :
    Advances Pre (lookupStore d id) fun o sh => Pre sh ∧ ∀ r ∈ o, sh.LiveStore r := by
  unfold lookupStore
  refine .bind (storesSlot_fitted.get Pre) fun c => ?_
  refine .bind (.discard ((loadStores_advances hP hd c.dirs).mono (fun _ _ hp => hp.1)
    fun _ _ hp => hp.1)) fun _ => ?_
  refine .bind (storesSlot_fitted.get Pre) fun c' => .pure fun _ _ hp => ⟨hp.1, fun r hr => ?_⟩
  exact ⟨id, hp.2 _ (Collection.mem_entries_of_lookup hr)⟩

omit hd in
/-- **Notifications.** Delivering a notification drops a collection, which advances the
session. -/
theorem deliver_advances (l : Listener) : Advances Pre (deliver l : EntityM σ Unit) fun _ => Pre := by
  -- a dropped collection has no entries, so it fits wherever the collection did
  have halive : ∀ f : FolderRef, Advances Pre (folderAlive f : EntityM σ Bool) fun _ => Pre :=
    fun _ => .of_stays (.bind .folder fun _ => .bind .store fun _ => .pure)
  cases l with
  | stores =>
    simp only [deliver]
    refine .bind (Slot.Fitted.modify storesSlot_fitted hP ?_) fun _ => .count
    exact fun _ _ _ _ _ _ hp => by simp [Collection.reset] at hp
  | rootFolders r =>
    simp only [deliver]
    refine .bind (.of_stays .store) fun S => ?_
    split
    · exact .pure fun _ _ hp => hp
    have hroot : (r.rootSlot : Slot σ FolderRef).Fitted _ := StoreRef.rootSlot_fitted r
    exact .bind (hroot.modify hP fun c sh _ _ hf => hroot.shrink c _ sh hf rfl) fun _ => .count
  | subFolders f =>
    simp only [deliver]
    have hsub : (f.subSlot : Slot σ FolderRef).Fitted _ := FolderRef.subSlot_fitted f
    refine .bind (hsub.modify hP fun c sh _ _ hf => hsub.shrink c _ sh hf rfl) fun _ => ?_
    refine .bind (halive f) fun b => ?_
    split
    · exact .count
    · exact .pure fun _ _ hp => hp
  | items f =>
    simp only [deliver]
    have hitems : (f.itemSlot : Slot σ ItemRef).Fitted _ := FolderRef.itemSlot_fitted f
    refine .bind (hitems.modify hP fun c sh _ _ hf => hitems.shrink c _ sh hf rfl) fun _ => ?_
    refine .bind (halive f) fun b => ?_
    split
    · exact .count
    · exact .pure fun _ _ hp => hp
  | conversations f =>
    simp only [deliver]
    refine .bind (Slot.Fitted.modify (FolderRef.conversationSlot_fitted f) hP ?_) fun _ => ?_
    · exact fun _ _ _ _ _ => trivial
    refine .bind (halive f) fun b => ?_
    split
    · exact .count
    · exact .pure fun _ _ hp => hp

end Entities

end MailStore
