import Mathlib
import MailStore.Proofs.LazyCollection
import MailStore.Proofs.Advance

/-!
# Closing a session lets go of every subscription

Releasing a collection drops it and ends its subscription; the collection is then
`Collection.released`, whether ending the subscription succeeded or not. Closing a folder
releases its three collections (`FolderShape.released`); clearing a store's caches empties its
maps, drops its root folder list when loaded and closes the folders its map held; closing a store
clears its caches and releases its root folder list (`StoreShape.closed`). Closing the session
empties the session's map, releases the list of stores and closes every store the map held.

Each of these is described exactly, by the shape of the session it leaves: the driver's calls
leave the shape alone, so that a failure to end a subscription changes nothing the shape sees,
and every release returns. Closing a session whose maps are coherent therefore always returns,
and leaves no subscription of the list of stores, of the root folder list of a store of the
session's map, or of a collection of a folder such a store held.

## Main statements

* `FolderRef.close_shape`, `StoreRef.clearCaches_shape`, `StoreRef.close_shape`: closing a
  folder, clearing a store's caches and closing a store, exactly.
* `Entities.close_shape`: closing a coherent session leaves `SessionShape.close` of its shape.
* `SessionShape.close_unsubscribed`: in that shape nothing the session held is subscribed.
* `Entities.close_unsubscribes`: so closing a coherent session lets go of every subscription
  it held.
-/

namespace MailStore

/-! ### What releasing leaves -/

/-- A folder with its three collections let go of. -/
def FolderShape.released (F : FolderShape) : FolderShape :=
  ⟨F.store, F.id, F.subFolders.released, F.items.released, F.conversations.released⟩

@[simp] theorem FolderShape.released_released (F : FolderShape) : F.released.released = F.released :=
  rfl

@[simp] theorem FolderShape.released_comp_released :
    FolderShape.released ∘ FolderShape.released = FolderShape.released := rfl

/-- A store with its maps emptied, and its root folder list dropped when it was loaded. -/
def StoreShape.cleared (S : StoreShape) : StoreShape :=
  ⟨S.id, if S.rootFolders.loaded then S.rootFolders.reset else S.rootFolders, [], []⟩

/-- A closed store: its maps emptied and its root folder list let go of. -/
def StoreShape.closed (S : StoreShape) : StoreShape := ⟨S.id, S.rootFolders.released, [], []⟩

@[simp] theorem StoreShape.closed_closed (S : StoreShape) : S.closed.closed = S.closed := rfl

@[simp] theorem StoreShape.closed_folders (S : StoreShape) : S.closed.folders = [] := rfl

@[simp] theorem StoreShape.closed_rootFolders (S : StoreShape) :
    S.closed.rootFolders = S.rootFolders.released := rfl

/-- Releasing the root folder list of a cleared store closes it. -/
theorem StoreShape.cleared_release (S : StoreShape) :
    { S.cleared with rootFolders := S.cleared.rootFolders.released } = S.closed := by
  unfold cleared closed
  split <;> rfl

namespace SessionShape

variable (sh : SessionShape)

/-- The folders that the map of store `r` holds. -/
def held (r : StoreRef) : List FolderRef :=
  ((sh.store r).map fun S => S.folders.map Prod.snd).getD []

/-- The session with the folders of `fs` let go of. -/
def releaseFolders (fs : List FolderRef) : SessionShape :=
  { sh with folder := fun g => if g ∈ fs then (sh.folder g).map FolderShape.released else sh.folder g }

/-- The session with the stores of `rs` closed and the folders their maps held let go of. -/
def closeStores (rs : List StoreRef) : SessionShape :=
  { sh with
    store := fun r => if r ∈ rs then (sh.store r).map StoreShape.closed else sh.store r
    folder := fun g => if g ∈ rs.flatMap sh.held then (sh.folder g).map FolderShape.released
      else sh.folder g }

/-- The session closed: its map emptied, its list of stores let go of, and every store of its
map closed. -/
def close : SessionShape :=
  closeStores { sh with storeList := sh.storeList.released, storeById := [] }
    (sh.storeById.map Prod.snd)

@[simp] theorem releaseFolders_folder (fs : List FolderRef) (g : FolderRef) :
    (sh.releaseFolders fs).folder g =
      if g ∈ fs then (sh.folder g).map FolderShape.released else sh.folder g := rfl

@[simp] theorem releaseFolders_store (fs : List FolderRef) : (sh.releaseFolders fs).store = sh.store :=
  rfl

@[simp] theorem closeStores_store (rs : List StoreRef) (r : StoreRef) :
    (sh.closeStores rs).store r = if r ∈ rs then (sh.store r).map StoreShape.closed else sh.store r :=
  rfl

@[simp] theorem closeStores_folder (rs : List StoreRef) (g : FolderRef) :
    (sh.closeStores rs).folder g =
      if g ∈ rs.flatMap sh.held then (sh.folder g).map FolderShape.released else sh.folder g := rfl

theorem setFolder_setFolder (f : FolderRef) (F G : FolderShape) :
    (sh.setFolder f F).setFolder f G = sh.setFolder f G := by
  ext1
  all_goals try rfl
  funext g
  simp only [setFolder_folder]
  split <;> rfl

theorem setStore_setStore (r : StoreRef) (S T : StoreShape) :
    (sh.setStore r S).setStore r T = sh.setStore r T := by
  ext1
  all_goals try rfl
  funext r'
  simp only [setStore_store]
  split <;> rfl

theorem releaseFolders_nil : sh.releaseFolders [] = sh := rfl

/-- Letting go of folders twice lets go of them all. -/
theorem releaseFolders_append (fs gs : List FolderRef) :
    (sh.releaseFolders fs).releaseFolders gs = sh.releaseFolders (fs ++ gs) := by
  ext1
  all_goals try rfl
  funext g
  by_cases hf : g ∈ fs <;> by_cases hg : g ∈ gs <;> simp [hf, hg, Option.map_map]

/-- Releasing a folder that is there lets it go. -/
theorem setFolder_released {f : FolderRef} {F : FolderShape} (hF : sh.folder f = some F) :
    sh.setFolder f F.released = sh.releaseFolders [f] := by
  ext1
  all_goals try rfl
  funext g
  by_cases hg : g = f
  · subst hg
    simp [hF]
  · simp [hg]

theorem releaseFolders_setStore (fs : List FolderRef) (r : StoreRef) (S : StoreShape) :
    (sh.releaseFolders fs).setStore r S = (sh.setStore r S).releaseFolders fs := rfl

@[simp] theorem releaseFolders_folder_isSome (fs : List FolderRef) (g : FolderRef) :
    ((sh.releaseFolders fs).folder g).isSome = (sh.folder g).isSome := by
  simp only [releaseFolders_folder]
  split <;> simp

@[simp] theorem closeStores_folder_isSome (rs : List StoreRef) (g : FolderRef) :
    ((sh.closeStores rs).folder g).isSome = (sh.folder g).isSome := by
  simp only [closeStores_folder]
  split <;> simp

/-- Closing one more store, as the session with the stores of `rs` closed has it, closes the
stores of `rs ++ [r]`: a store closed twice is closed once, and its map is then empty. -/
theorem closeStores_snoc {rs : List StoreRef} {r : StoreRef} {S : StoreShape}
    (hS : (sh.closeStores rs).store r = some S) :
    ((sh.closeStores rs).setStore r S.closed).releaseFolders (S.folders.map Prod.snd) =
      sh.closeStores (rs ++ [r]) := by
  simp only [closeStores_store] at hS
  split at hS
  · -- closed before: nothing more is let go of
    rename_i hr
    obtain ⟨S₀, hS₀, rfl⟩ := Option.map_eq_some_iff.1 hS
    have hheld : ∀ g ∈ sh.held r, g ∈ rs.flatMap sh.held := fun g hg => List.mem_flatMap.2 ⟨r, hr, hg⟩
    ext1
    all_goals try rfl
    · funext r'
      by_cases h' : r' = r
      · subst h'
        simp [hr, hS₀]
      · simp [h']
    · funext g
      by_cases hg : g ∈ rs.flatMap sh.held
      · simp [hg]
      · have hg' : g ∉ sh.held r := fun h => hg (hheld g h)
        simp [hg, hg']
  · -- closed now: the folders its map held are let go of
    rename_i hr
    have hheld : sh.held r = S.folders.map Prod.snd := by simp [held, hS]
    ext1
    all_goals try rfl
    · funext r'
      by_cases h' : r' = r
      · subst h'
        simp [hS]
      · simp [h']
    · funext g
      rw [← hheld]
      by_cases hg : g ∈ rs.flatMap sh.held <;> by_cases hg' : g ∈ sh.held r <;>
        simp [hg, hg', Option.map_map]

/-- A session in which nothing of `sh` still holds a subscription: not the list of stores, not
the root folder list of a store of `sh`'s map, and not a collection of a folder that such a
store's map held. -/
structure Unsubscribed (sh' : SessionShape) : Prop where
  /-- The list of stores. -/
  storeList : sh'.storeList.sub = none
  /-- The root folder lists of the stores of the map. -/
  rootFolders : ∀ k r S, (k, r) ∈ sh.storeById → sh.store r = some S →
    ∃ S', sh'.store r = some S' ∧ S'.rootFolders.sub = none
  /-- The collections of the folders those stores held. -/
  folders : ∀ k r S, (k, r) ∈ sh.storeById → sh.store r = some S → ∀ p ∈ S.folders, ∀ F,
    sh.folder p.2 = some F → ∃ F', sh'.folder p.2 = some F' ∧
      F'.subFolders.sub = none ∧ F'.items.sub = none ∧ F'.conversations.sub = none

/-- **Nothing of a closed session is subscribed.** -/
theorem close_unsubscribed : sh.Unsubscribed sh.close := by
  refine ⟨rfl, fun k r S hr hS => ?_, fun k r S hr hS p hp F hF => ?_⟩
  · have hr' : r ∈ sh.storeById.map Prod.snd := List.mem_map.2 ⟨(k, r), hr, rfl⟩
    exact ⟨S.closed, by simp [close, hr', hS], rfl⟩
  · have hp' : p.2 ∈ (sh.storeById.map Prod.snd).flatMap sh.held := by
      refine List.mem_flatMap.2 ⟨r, List.mem_map.2 ⟨(k, r), hr, rfl⟩, ?_⟩
      simpa [held, hS] using ⟨p.1, hp⟩
    refine ⟨F.released, ?_, rfl, rfl, rfl⟩
    show (if p.2 ∈ (sh.storeById.map Prod.snd).flatMap sh.held then
      (sh.folder p.2).map FolderShape.released else sh.folder p.2) = some F.released
    rw [if_pos hp', hF]
    rfl

end SessionShape

/-! ### Releasing, exactly -/

variable {σ : Type} [EntityHost σ] [LawfulEntityHost σ] {d : Driver (EntityM σ)}
  (hd : d.Stays fun s : σ => (ent s).shape)

omit [LawfulEntityHost σ] in
/-- Releasing a collection changes the session's shape as replacing it by its let-go form does,
whether ending the subscription succeeds or not: the driver leaves the shape alone. -/
theorem Slot.release_shape {α : Type} {sl : Slot σ α} {s s₁ : σ} {c : Collection α}
    (hun : ∀ n, Stays (fun s : σ => (ent s).shape) (d.unsubscribe n))
    (hget : sl.get.run.run s = (.ok c, s)) (hset : (sl.set c.released).run.run s = (.ok (), s₁)) :
    Ends (sl.release d) s (fun _ s' => (ent s').shape = (ent s₁).shape) fun _ _ => False := by
  have hset' : (sl.set { c.reset with sub := none }).run.run s = (.ok (), s₁) := hset
  unfold Slot.release
  rw [Ends.bind_iff, Ends.iff_of_run_ok hget, Ends.bind_iff, Ends.iff_of_run_ok hset']
  split
  · rfl
  · rename_i n _
    rw [Ends.tryCatch_iff, Ends.bind_iff]
    exact (hun n _ s₁ rfl).mono (fun _ _ h => h) fun _ _ h => h

include hd

/-- Releasing a collection of a folder that is there lets that collection go. -/
theorem folderSlot_release_shape {α : Type} (f : FolderRef) (field : FolderShape → Collection α)
    (put : Collection α → FolderState → FolderState) (putS : Collection α → FolderShape → FolderShape)
    (hput : ∀ c F, (put c F).shape = putS c F.shape) {s : σ} {F : FolderShape}
    (hF : (ent s).shape.folder f = some F) :
    Ends (Slot.release d
      (⟨do return field (← Entities.folder f).shape, fun c => Entities.modifyFolder f (put c)⟩ :
        Slot σ α)) s
      (fun _ s' => (ent s').shape = (ent s).shape.setFolder f (putS (field F).released F))
      fun _ _ => False := by
  obtain ⟨FS, hFS, rfl⟩ : ∃ FS, (ent s).folderHeap[f.idx]? = some FS ∧ FS.shape = F := by
    simpa using hF
  refine (Slot.release_shape hd.unsubscribe (c := field FS.shape) ?_ rfl).mono (fun _ s' h => ?_)
    fun _ _ h => h
  · apply Ends.run_eq
    simp [hFS]
  · simp only [h, LawfulEntityHost.entities_setEntities]
    rw [Entities.shape_modifyFolder_of _ hFS, hput]

/-- **Closing a folder** that is there returns, and lets its three collections go. -/
theorem FolderRef.close_shape {s : σ} {f : FolderRef} {F : FolderShape}
    (hF : (ent s).shape.folder f = some F) :
    Ends (f.close d) s (fun _ s' => (ent s').shape = (ent s).shape.setFolder f F.released)
      fun _ _ => False := by
  unfold FolderRef.close
  rw [Ends.bind_iff]
  refine (folderSlot_release_shape hd f FolderShape.subFolders (fun c F => { F with subFolders := c })
    (fun c F => { F with subFolders := c }) (fun _ _ => rfl) hF).mono (fun _ s₁ h₁ => ?_)
    fun _ _ h => h
  -- each release finds the folder as the one before left it
  have hF₁ : (ent s₁).shape.folder f = some { F with subFolders := F.subFolders.released } := by
    simp [h₁]
  rw [Ends.bind_iff]
  refine (folderSlot_release_shape hd f FolderShape.items (fun c F => { F with items := c })
    (fun c F => { F with items := c }) (fun _ _ => rfl) hF₁).mono (fun _ s₂ h₂ => ?_)
    fun _ _ h => h
  have hF₂ : (ent s₂).shape.folder f =
      some { F with subFolders := F.subFolders.released, items := F.items.released } := by
    simp [h₂]
  rw [Ends.bind_iff]
  refine (folderSlot_release_shape hd f FolderShape.conversations
    (fun c F => { F with conversations := c }) (fun c F => { F with conversations := c })
    (fun _ _ => rfl) hF₂).mono (fun _ s₃ h₃ => ?_) fun _ _ h => h
  rw [Ends.pure_iff, h₃, h₂, h₁]
  simp only [SessionShape.setFolder_setFolder]
  rfl

/-- Closing the folders of a list, all there, returns and lets them all go. -/
theorem FolderRef.closeAll_shape {s : σ} (l : List (Bytes × FolderRef))
    (hl : ∀ p ∈ l, ((ent s).shape.folder p.2).isSome) :
    Ends (l.forM fun x => discard (FolderRef.close d x.2)) s
      (fun _ s' => (ent s').shape = (ent s).shape.releaseFolders (l.map Prod.snd)) fun _ _ => False := by
  refine Ends.forM_of_step
    (fun done s' => (ent s').shape = (ent s).shape.releaseFolders (done.map Prod.snd)) l
    (fun p hp done s₁ h₁ => ?_) rfl
  obtain ⟨F, hF⟩ : ∃ F, (ent s₁).shape.folder p.2 = some F :=
    Option.isSome_iff_exists.1 (by rw [h₁, SessionShape.releaseFolders_folder_isSome]; exact hl p hp)
  refine Ends.map_iff.2 ((FolderRef.close_shape hd hF).mono (fun _ s₂ h₂ => ?_) fun _ _ h => h)
  rw [h₂, SessionShape.setFolder_released _ hF, h₁, SessionShape.releaseFolders_append,
    List.map_append]
  rfl

omit hd in
/-- Changing a store that is there changes the session's shape at that store alone. -/
theorem Entities.modifyStore_shape {s : σ} {r : StoreRef} {SS : StoreState}
    (hSS : (ent s).storeHeap[r.idx]? = some SS) (g : StoreState → StoreState) :
    Ends (Entities.modifyStore r g : EntityM σ Unit) s
      (fun _ s' => (ent s').storeHeap[r.idx]? = some (g SS) ∧
        (ent s').shape = (ent s).shape.setStore r (g SS).shape) fun _ _ => False := by
  rw [Entities.ends_modifyStore]
  simp only [LawfulEntityHost.entities_setEntities]
  exact ⟨by simp [Array.getElem?_modify, hSS], Entities.shape_modifyStore_of _ hSS g⟩

omit hd in
/-- Changing the root folder list of a store that is there. -/
theorem StoreRef.rootSlot_modify_shape {s : σ} {r : StoreRef} {SS : StoreState}
    (hSS : (ent s).storeHeap[r.idx]? = some SS) (g : Collection FolderRef → Collection FolderRef) :
    Ends (r.rootSlot.modify g : EntityM σ Unit) s
      (fun _ s' => (ent s').storeHeap[r.idx]? = some { SS with rootFolders := g SS.rootFolders } ∧
        (ent s').shape = (ent s).shape.setStore r { SS with rootFolders := g SS.rootFolders }.shape)
      fun _ _ => False := by
  unfold Slot.modify StoreRef.rootSlot
  simp only [Ends.bind_iff, Entities.ends_store, hSS, Ends.pure_iff]
  exact Entities.modifyStore_shape hSS _

/-- Releasing the root folder list of a store that is there lets it go. -/
theorem StoreRef.rootSlot_release_shape {s : σ} {r : StoreRef} {S : StoreShape}
    (hS : (ent s).shape.store r = some S) :
    Ends (r.rootSlot.release d) s
      (fun _ s' => (ent s').shape = (ent s).shape.setStore r { S with rootFolders := S.rootFolders.released })
      fun _ _ => False := by
  obtain ⟨SS, hSS, rfl⟩ : ∃ SS, (ent s).storeHeap[r.idx]? = some SS ∧ SS.shape = S := by
    simpa using hS
  refine (Slot.release_shape hd.unsubscribe (c := SS.rootFolders) ?_ rfl).mono (fun _ s' h => ?_)
    fun _ _ h => h
  · apply Ends.run_eq
    simp [StoreRef.rootSlot, hSS]
  · simp only [h, LawfulEntityHost.entities_setEntities]
    rw [Entities.shape_modifyStore_of _ hSS]
    rfl

/-- Releasing the list of stores lets it go. -/
theorem Entities.storesSlot_release_shape {s : σ} :
    Ends (Entities.storesSlot.release d) s
      (fun _ s' => (ent s').shape = { (ent s).shape with storeList := (ent s).storeList.released })
      fun _ _ => False := by
  refine (Slot.release_shape hd.unsubscribe (c := (ent s).storeList) ?_ rfl).mono
    (fun _ s' h => ?_) fun _ _ h => h
  · apply Ends.run_eq
    simp [Entities.storesSlot]
  · simp only [h, LawfulEntityHost.entities_setEntities]
    rfl

/-- **Clearing a store's caches**, when the store and the folders its map holds are there,
returns: the store is cleared and the folders its map held are let go of. -/
theorem StoreRef.clearCaches_shape {s : σ} {r : StoreRef} {S : StoreShape}
    (hS : (ent s).shape.store r = some S)
    (hheld : ∀ p ∈ S.folders, ((ent s).shape.folder p.2).isSome) :
    Ends (r.clearCaches d) s
      (fun _ s' => (ent s').shape =
        ((ent s).shape.setStore r S.cleared).releaseFolders (S.folders.map Prod.snd))
      fun _ _ => False := by
  obtain ⟨SS, hSS, rfl⟩ : ∃ SS, (ent s).storeHeap[r.idx]? = some SS ∧ SS.shape = S := by
    simpa using hS
  -- the folders are closed last, from a state whose shape has the store cleared
  have hclose : ∀ s₁ : σ, (ent s₁).shape = (ent s).shape.setStore r SS.shape.cleared →
      Ends (SS.folders.forM fun x => discard (FolderRef.close d x.2)) s₁
        (fun _ s' => (ent s').shape =
          ((ent s).shape.setStore r SS.shape.cleared).releaseFolders (SS.folders.map Prod.snd))
        fun _ _ => False := by
    intro s₁ h₁
    refine (FolderRef.closeAll_shape hd SS.folders fun p hp => ?_).mono (fun _ s' h => ?_)
      fun _ _ h => h
    · rw [h₁, SessionShape.setStore_folder]
      exact hheld p hp
    · rw [h, h₁]
  unfold StoreRef.clearCaches
  rw [Ends.bind_iff, Entities.ends_store]
  simp only [hSS]
  rw [Ends.bind_iff]
  refine (Entities.modifyStore_shape hSS _).mono (fun _ s₁ ⟨hSS₁, h₁⟩ => ?_) fun _ _ h => h
  split
  · rename_i hl
    rw [Ends.bind_iff]
    refine (StoreRef.rootSlot_modify_shape hSS₁ _).mono (fun _ s₂ ⟨_, h₂⟩ => ?_) fun _ _ h => h
    rw [Ends.bind_iff, Entities.ends_count]
    refine hclose _ ?_
    simp only [LawfulEntityHost.entities_setEntities, Entities.shape_metrics, h₂, h₁,
      SessionShape.setStore_setStore]
    simp [StoreShape.cleared, StoreState.shape, hl]
  · rename_i hl
    refine hclose _ ?_
    rw [h₁]
    simp [StoreShape.cleared, StoreState.shape, hl]

/-- **Closing a store**, when the store and the folders its map holds are there, returns: the
store is closed and the folders its map held are let go of. -/
theorem StoreRef.close_shape {s : σ} {r : StoreRef} {S : StoreShape}
    (hS : (ent s).shape.store r = some S)
    (hheld : ∀ p ∈ S.folders, ((ent s).shape.folder p.2).isSome) :
    Ends (r.close d) s
      (fun _ s' => (ent s').shape =
        ((ent s).shape.setStore r S.closed).releaseFolders (S.folders.map Prod.snd))
      fun _ _ => False := by
  unfold StoreRef.close
  rw [Ends.bind_iff]
  refine (StoreRef.clearCaches_shape hd hS hheld).mono (fun _ s₁ h₁ => ?_) fun _ _ h => h
  have hS₁ : (ent s₁).shape.store r = some S.cleared := by simp [h₁]
  refine (StoreRef.rootSlot_release_shape hd hS₁).mono (fun _ s₂ h₂ => ?_) fun _ _ h => h
  rw [h₂, h₁, SessionShape.releaseFolders_setStore, SessionShape.setStore_setStore,
    StoreShape.cleared_release]

/-- **Closing a coherent session** returns, and leaves the session closed: its map emptied, its
list of stores let go of, and every store of its map closed with the folders it held. -/
theorem Entities.close_shape {s : σ} (hc : (ent s).shape.Coherent) :
    Ends (Entities.close d) s (fun _ s' => (ent s').shape = (ent s).shape.close) fun _ _ => False := by
  unfold Entities.close
  rw [Ends.bind_iff, Entities.ends_current, Ends.bind_iff, Entities.ends_modify, Ends.bind_iff]
  refine (Entities.storesSlot_release_shape hd).mono (fun _ s₁ h₁ => ?_) fun _ _ h => h
  simp only [LawfulEntityHost.entities_setEntities] at h₁
  -- the stores of the map are closed one after another
  refine Ends.foldlM_of_step
    (fun done s' => (ent s').shape = SessionShape.closeStores
      { (ent s).shape with storeList := (ent s).storeList.released, storeById := [] }
      (done.map Prod.snd)) _ (fun p hp done _ s₂ h₂ => ?_) h₁
  obtain ⟨k, r⟩ := p
  obtain ⟨S, hS, -⟩ := hc.storeById_entry k r hp
  -- the store is there, closed or not, and the folders its map holds are there
  obtain ⟨S₂, hS₂, hfolders⟩ : ∃ S₂, (ent s₂).shape.store r = some S₂ ∧ (S₂ = S ∨ S₂ = S.closed) := by
    rw [h₂, SessionShape.closeStores_store]
    by_cases hr : r ∈ done.map Prod.snd
    · exact ⟨S.closed, by rw [if_pos hr]; exact congrArg (Option.map _) hS, .inr rfl⟩
    · exact ⟨S, by rw [if_neg hr]; exact hS, .inl rfl⟩
  have hheld : ∀ q ∈ S₂.folders, ((ent s₂).shape.folder q.2).isSome := by
    intro q hq
    rw [h₂, SessionShape.closeStores_folder_isSome]
    rcases hfolders with rfl | rfl
    · obtain ⟨F, hF, -⟩ := hc.folder_entry r S₂ q.1 q.2 hS hq
      exact Option.isSome_iff_exists.2 ⟨F, hF⟩
    · simp at hq
  show Ends (do let err ← r.close d; pure _) s₂ _ _
  rw [Ends.bind_iff]
  refine (StoreRef.close_shape hd hS₂ hheld).mono (fun _ s₃ h₃ => ?_) fun _ _ h => h
  simp only [Ends.pure_iff, h₃, List.map_append, List.map_cons, List.map_nil]
  rw [← SessionShape.closeStores_snoc _ (h₂ ▸ hS₂), h₂]

/-- **Closing a coherent session lets go of every subscription it held**, and returns. -/
theorem Entities.close_unsubscribes {s : σ} (hc : (ent s).shape.Coherent) :
    Ends (Entities.close d) s (fun _ s' => (ent s).shape.Unsubscribed (ent s').shape)
      fun _ _ => False :=
  (Entities.close_shape hd hc).mono (fun _ _ h => h ▸ (ent s).shape.close_unsubscribed)
    fun _ _ h => h

end MailStore
