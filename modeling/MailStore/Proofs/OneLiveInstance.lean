import Mathlib
import MailStore.Proofs.LiveAnswers
import MailStore.Proofs.Requests
import MailStore.Proofs.WorldFrame

/-!
# One live instance per id, along every run of a session

Every request keeps a session coherent: the requests that give out entities advance it
(`Request.exec_advances`), and clearing the caches or closing the session, which empty maps,
still leave it coherent (`Entities.clearCaches_keeps`, `Entities.close_keeps`). So every state
a fresh session reaches is coherent, and in a coherent session every folder in a root folder
list, or in the child folder list of a folder that a map holds, is the map's entry for its own
id, and every item in the item list of such a folder is the item map's entry for its own id
(`SessionShape.OwnEntries`).

Between two clearings the maps only grow. The entities given out since the last clearing are
then live at the end, as long as every folder whose collections a request lists was itself
given out before (`Request.Obtained`), and two live entities with the same store and id are
the same.

## Main statements

* `one_live_instance_per_id`: along every run of a fresh session, the collections hold the
  maps' entries for their own ids; between two clearings, two folders or two items given out
  with the same store and id are the same, and every store given out is the session map's
  entry for its id.
-/

namespace MailStore

open SessionShape

variable {σ : Type} [EntityHost σ] [LawfulEntityHost σ] {d : Driver (EntityM σ)}
  (hd : d.Stays fun s : σ => (ent s).shape)

omit [LawfulEntityHost σ] in
/-- An operation that advances a coherent session keeps it coherent. -/
theorem Advances.keeps {α : Type} {x : EntityM σ α} {Post : α → SessionShape → Prop}
    (h : Advances (fun _ => True) x Post) : Keeps (fun s : σ => (ent s).shape.Coherent) x :=
  fun s hc => (h s hc trivial).mono (fun _ _ h => h.1.1) fun _ _ h => h.1

/-! ### Clearing and closing -/

include hd in
/-- Closing a folder releases its collections, which advances the session. -/
theorem FolderRef.close_advances {Pre : SessionShape → Prop} (hP : Stable Pre) (f : FolderRef) :
    Advances Pre (f.close d) fun _ => Pre := by
  unfold FolderRef.close
  refine .bind ((FolderRef.subSlot_fitted f).release hP hd) fun _ => ?_
  refine .bind ((FolderRef.itemSlot_fitted f).release hP hd) fun _ => ?_
  exact .bind ((FolderRef.conversationSlot_fitted f).release hP hd) fun _ => .pure fun _ _ hp => hp

include hd in
/-- **Clearing a store's caches** keeps the session coherent: the store's maps are emptied
together with its root folder list, and the folders let go release their collections. -/
theorem StoreRef.clearCaches_keeps (r : StoreRef) :
    Keeps (fun s : σ => (ent s).shape.Coherent) (r.clearCaches d) := by
  unfold StoreRef.clearCaches
  intro s hc
  rw [Ends.bind_iff, Entities.ends_store]
  split
  · rename_i S hS
    rw [Ends.bind_iff, Entities.ends_modifyStore]
    extract_lets jp
    have hjp : ∀ u, Keeps (fun s : σ => (ent s).shape.Coherent) (jp u) := fun _ =>
      Keeps.forM (fun _ => (Advances.discard (FolderRef.close_advances hd stable_true _)).keeps) _
    -- the store with its maps emptied and a root folder list without entries is coherent
    have hclear : ∀ c : Collection FolderRef, c.entries = [] → ((ent s).shape.setStore r
        { S.shape with rootFolders := c, folders := [], items := [] }).Coherent :=
      fun c hc' => hc.clearStore (by simp [hS]) c hc'
    have hother : ∀ (g : StoreState → StoreState) r', r' ≠ r →
        ((ent s).storeHeap.modify r.idx g)[r'.idx]? = (ent s).storeHeap[r'.idx]? :=
      fun g r' h => by simp [Array.getElem?_modify, StoreRef.idx_ne h]
    split
    · -- a loaded root folder list is dropped
      simp only [Ends.bind_iff, Slot.modify, StoreRef.rootSlot, Entities.ends_store, Ends.pure_iff,
        LawfulEntityHost.entities_setEntities, Array.getElem?_modify, hS, ↓reduceIte,
        Option.map_some, Entities.ends_modifyStore, Entities.ends_count]
      refine hjp () _ ?_
      convert hclear S.rootFolders.reset rfl using 1
      simp only [LawfulEntityHost.entities_setEntities]
      show _ = (ent s).shape.setStore r
        ({ S with rootFolders := S.rootFolders.reset, folders := [], items := [] } : StoreState).shape
      refine Entities.shape_of_store _ rfl rfl (by simp [Array.getElem?_modify, hS]) ?_ rfl rfl
      -- the root folder list is reset by a second write to the same store
      intro r' h
      simp only [Array.getElem?_modify, StoreRef.idx_ne h, ↓reduceIte]
    · -- a root folder list that is not loaded has no entries
      rename_i hl
      refine hjp () _ ?_
      convert hclear S.rootFolders
        (hc.rootFolders_unloaded r S.shape (by simp [hS]) (Bool.eq_false_iff.2 hl)) using 1
      simp only [LawfulEntityHost.entities_setEntities]
      show _ = (ent s).shape.setStore r ({ S with folders := [], items := [] } : StoreState).shape
      exact Entities.shape_of_store _ rfl rfl (by simp [Array.getElem?_modify, hS]) (hother _) rfl rfl
  · exact hc

include hd in
/-- Clearing the caches of every store keeps the session coherent. -/
theorem Entities.clearCaches_keeps :
    Keeps (fun s : σ => (ent s).shape.Coherent) (Entities.clearCaches d) := by
  unfold Entities.clearCaches
  exact Keeps.bind (Stays.keeps .current _) fun e =>
    Keeps.forM (fun _ => StoreRef.clearCaches_keeps hd _) _

include hd in
/-- Closing a store clears its caches and releases its root folder list. -/
theorem StoreRef.close_keeps (r : StoreRef) :
    Keeps (fun s : σ => (ent s).shape.Coherent) (r.close d) :=
  Keeps.bind (StoreRef.clearCaches_keeps hd r) fun _ =>
    (Slot.Fitted.release (StoreRef.rootSlot_fitted r) stable_true hd).keeps

include hd in
/-- **Closing the session** keeps it coherent: the map of stores is emptied together with the
list of stores, and every store is closed. -/
theorem Entities.close_keeps : Keeps (fun s : σ => (ent s).shape.Coherent) (Entities.close d) := by
  unfold Entities.close
  intro s hc
  simp only [Ends.bind_iff, Entities.ends_current, Entities.ends_modify, Slot.release,
    Entities.storesSlot, Ends.pure_iff, LawfulEntityHost.entities_setEntities]
  -- ending the subscription keeps the session as the list of stores was let go of; the
  -- program is taken from the goal, so the `match` stays the one `Slot.release` holds
  refine ((?_ : Keeps (fun s : σ => (ent s).shape.Coherent) _) _ ?_).mono (fun _ _ h => ?_)
    fun _ _ h => h
  · split
    · exact Keeps.pure
    · exact Stays.keeps (.tryCatch (.bind (hd.unsubscribe _) fun _ => .pure) fun _ => .pure) _
  · simp only [LawfulEntityHost.entities_setEntities]
    exact hc.dropStores _ rfl
  exact Keeps.foldlM (fun _ _ => Keeps.bind (StoreRef.close_keeps hd _) fun _ => Keeps.pure) _ _ _ h

/-! ### Collections hold the maps' entries -/

/-- Every folder in a store's root folder list, or in the child folder list of a folder that
the store's map holds, is the map's entry for its own id; every item in the item list of such
a folder is the item map's entry for its own id. -/
def SessionShape.OwnEntries (sh : SessionShape) : Prop :=
  ∀ r S, sh.store r = some S →
    (∀ f ∈ S.rootFolders.members, ∃ F, sh.folder f = some F ∧ S.folders.lookup F.id = some f) ∧
    ∀ k g G, (k, g) ∈ S.folders → sh.folder g = some G →
      (∀ f ∈ G.subFolders.members, ∃ F, sh.folder f = some F ∧ S.folders.lookup F.id = some f) ∧
      ∀ i ∈ G.items.members, ∃ I, sh.item i = some I ∧ S.items.lookup I.id = some i

namespace SessionShape.Coherent

variable {sh : SessionShape} (hc : sh.Coherent)
include hc

/-- A folder that a store's map holds is the map's entry for its own id. -/
theorem folder_lookup {r S p} (hS : sh.store r = some S) (hp : p ∈ S.folders) :
    ∃ F, sh.folder p.2 = some F ∧ S.folders.lookup F.id = some p.2 := by
  obtain ⟨F, hF, hid, -⟩ := hc.folder_entry r S p.1 p.2 hS hp
  exact ⟨F, hF, hid ▸ List.lookup_eq_some_of_mem (hc.folderIds_nodup r S hS) hp⟩

/-- An item that a store's map holds is the map's entry for its own id. -/
theorem item_lookup {r S p} (hS : sh.store r = some S) (hp : p ∈ S.items) :
    ∃ I, sh.item p.2 = some I ∧ S.items.lookup I.id = some p.2 := by
  obtain ⟨I, hI, hid, -⟩ := hc.item_entry r S p.1 p.2 hS hp
  exact ⟨I, hI, hid ▸ List.lookup_eq_some_of_mem (hc.itemIds_nodup r S hS) hp⟩

/-- A live store is the session map's entry for its own id. -/
theorem store_lookup {r} (hr : sh.LiveStore r) :
    ∃ S, sh.store r = some S ∧ sh.storeById.lookup S.id = some r := by
  obtain ⟨k, hk⟩ := hr
  obtain ⟨S, hS, rfl⟩ := hc.storeById_entry k r hk
  exact ⟨S, hS, List.lookup_eq_some_of_mem hc.storeIds_nodup hk⟩

/-- In a coherent session the collections hold the maps' entries for their own ids. -/
theorem ownEntries : sh.OwnEntries := by
  intro r S hS
  refine ⟨fun f hf => ?_, fun k g G hg hG => ⟨fun f hf => ?_, fun i hi => ?_⟩⟩
  · obtain ⟨p, hp, rfl⟩ := List.mem_map.1 hf
    exact hc.folder_lookup hS (hc.rootFolders_held r S hS p hp)
  · obtain ⟨p, hp, rfl⟩ := List.mem_map.1 hf
    exact hc.folder_lookup hS (hc.subFolders_held r S k g G hS hg hG p hp)
  · obtain ⟨p, hp, rfl⟩ := List.mem_map.1 hi
    exact hc.item_lookup hS (hc.items_held r S k g G hS hg hG p hp)

end SessionShape.Coherent

/-- A fresh session is coherent. -/
theorem Entities.coherent_empty : Entities.empty.shape.Coherent := by
  constructor <;> simp [Entities.empty, Entities.shape, Collection.empty]

/-! ### Requests -/

/-- The entities an answer gives out are live. -/
def Answer.Live (a : Answer) (sh : SessionShape) : Prop :=
  (∀ f ∈ a.folderRefs, sh.LiveFolder f) ∧ (∀ i ∈ a.itemRefs, sh.LiveItem i) ∧
    ∀ r ∈ a.storeRefs, sh.LiveStore r

theorem Answer.stable_live (a : Answer) : Stable a.Live := by
  rintro sh sh' hg ⟨hf, hi, hr⟩
  exact ⟨fun f h => hg.liveFolder (hf f h), fun i h => hg.liveItem (hi i h),
    fun r h => hg.liveStore (hr r h)⟩

section Live

variable {sh : SessionShape}

@[simp] theorem Answer.live_stores {rs} : (Answer.stores rs).Live sh ↔ ∀ r ∈ rs, sh.LiveStore r := by
  simp [Answer.Live, Answer.folderRefs, Answer.itemRefs, Answer.storeRefs]

@[simp] theorem Answer.live_store {r} : (Answer.store r).Live sh ↔ ∀ r' ∈ r, sh.LiveStore r' := by
  simp [Answer.Live, Answer.folderRefs, Answer.itemRefs, Answer.storeRefs]

@[simp] theorem Answer.live_folders {fs} : (Answer.folders fs).Live sh ↔ ∀ f ∈ fs, sh.LiveFolder f := by
  simp [Answer.Live, Answer.folderRefs, Answer.itemRefs, Answer.storeRefs]

@[simp] theorem Answer.live_folder {f} : (Answer.folder f).Live sh ↔ ∀ g ∈ f, sh.LiveFolder g := by
  simp [Answer.Live, Answer.folderRefs, Answer.itemRefs, Answer.storeRefs]

@[simp] theorem Answer.live_items {is} : (Answer.items is).Live sh ↔ ∀ i ∈ is, sh.LiveItem i := by
  simp [Answer.Live, Answer.folderRefs, Answer.itemRefs, Answer.storeRefs]

@[simp] theorem Answer.live_item {i} : (Answer.item i).Live sh ↔ ∀ j ∈ i, sh.LiveItem j := by
  simp [Answer.Live, Answer.folderRefs, Answer.itemRefs, Answer.storeRefs]

@[simp] theorem Answer.live_conversations {cs} : (Answer.conversations cs).Live sh := by
  simp [Answer.Live, Answer.folderRefs, Answer.itemRefs, Answer.storeRefs]

@[simp] theorem Answer.live_conversation {c} : (Answer.conversation c).Live sh := by
  simp [Answer.Live, Answer.folderRefs, Answer.itemRefs, Answer.storeRefs]

@[simp] theorem Answer.live_done : Answer.done.Live sh := by
  simp [Answer.Live, Answer.folderRefs, Answer.itemRefs, Answer.storeRefs]

end Live

omit [LawfulEntityHost σ] in
/-- An answer made of what an operation returns gives out live entities when what the
operation returns makes it so. -/
theorem Advances.answer {β : Type} {x : EntityM σ β} {g : β → Answer} {Pre R : SessionShape → Prop}
    {Q : β → SessionShape → Prop} (h : Advances Pre x fun b sh => Pre sh ∧ Q b sh)
    (hQ : ∀ b sh, Q b sh → R sh → (g b).Live sh) :
    Advances Pre (g <$> x) fun a sh => Pre sh ∧ (R sh → a.Live sh) :=
  .map (h.mono (fun _ _ h => h) fun b sh h => ⟨h.1, hQ b sh h.2⟩)

omit [LawfulEntityHost σ] in
/-- An answer that gives out nothing. -/
theorem Advances.answer_none {β : Type} {x : EntityM σ β} {g : β → Answer} {Pre R : SessionShape → Prop}
    (h : Advances Pre x fun _ => Pre) (hg : ∀ b sh, (g b).Live sh) :
    Advances Pre (g <$> x) fun a sh => Pre sh ∧ (R sh → a.Live sh) :=
  .map (h.mono (fun _ _ h => h) fun b sh h => ⟨h, fun _ => hg b sh⟩)

include hd in
/-- **Every request but a clearing advances the session**, and the entities it gives out are
live, as long as the folder whose collections it lists is. -/
theorem Request.exec_advances {Pre : SessionShape → Prop} (hP : Stable Pre) (q : Request)
    (hq : q.clears = false) :
    Advances Pre (q.exec d) fun a sh => Pre sh ∧ ((∀ f ∈ q.reads, sh.LiveFolder f) → a.Live sh) := by
  cases q with
  | stores ids dirs =>
    exact (Entities.stores_advances hP hd ids dirs).answer fun _ _ h _ => Answer.live_stores.2 h
  | lookupStore id =>
    exact (Entities.lookupStore_advances hP hd id).answer fun _ _ h _ => Answer.live_store.2 h
  | rootFolders r ids dirs =>
    exact (StoreRef.rootFolders_advances hP hd r ids dirs).answer fun _ _ h _ =>
      Answer.live_folders.2 fun f hf => ⟨r, h f hf⟩
  | lookupRootFolder r id =>
    exact (StoreRef.lookupRootFolder_advances hP hd r id).answer fun _ _ h _ =>
      Answer.live_folder.2 fun f hf => ⟨r, h f hf⟩
  | openFolder r id =>
    exact (StoreRef.openFolder_advances hP hd r id).answer fun _ _ h _ =>
      Answer.live_folder.2 fun _ hf => Option.mem_some_iff.1 hf ▸ ⟨r, h⟩
  | openItem r id =>
    exact (StoreRef.openItem_advances hP hd r id).answer fun _ _ h _ =>
      Answer.live_item.2 fun _ hi => Option.mem_some_iff.1 hi ▸ ⟨r, h⟩
  | specialFolders r kinds =>
    exact (StoreRef.specialFolders_advances hP hd r kinds).answer fun _ _ h _ =>
      Answer.live_folders.2 fun f hf => ⟨r, h f hf⟩
  | lookupSpecialFolder r n =>
    exact (StoreRef.lookupSpecialFolder_advances hP hd r n).answer fun _ _ h _ =>
      Answer.live_folder.2 fun f hf => ⟨r, h f hf⟩
  | folderHierarchy r parentId onlyChildren =>
    exact (StoreRef.folderHierarchy_advances hP hd r parentId onlyChildren).answer fun _ _ h _ =>
      Answer.live_folders.2 h
  | subFolders f ids dirs =>
    exact (FolderRef.subFolders_advances hP hd f ids dirs).answer fun _ _ h hf =>
      Answer.live_folders.2 (h (hf f rfl))
  | lookupSubFolder f id =>
    exact (FolderRef.lookupSubFolder_advances hP hd f id).answer fun _ _ h hf =>
      Answer.live_folder.2 (h (hf f rfl))
  | items f ids dirs =>
    exact (FolderRef.items_advances hP hd f ids dirs).answer fun _ _ h hf =>
      Answer.live_items.2 (h (hf f rfl))
  | lookupItem f id =>
    exact (FolderRef.lookupItem_advances hP hd f id).answer fun _ _ h hf =>
      Answer.live_item.2 (h (hf f rfl))
  | conversations f ids dirs =>
    exact (FolderRef.conversations_advances hP hd f ids dirs).answer_none fun _ _ =>
      Answer.live_conversations
  | lookupConversation f id =>
    exact (FolderRef.lookupConversation_advances hP hd f id).answer_none fun _ _ =>
      Answer.live_conversation
  | parentFolder f =>
    exact (FolderRef.parentFolder_advances hP hd f).answer fun _ _ h _ => Answer.live_folder.2 h
  | conversationItems c =>
    exact (ConversationRef.items_advances hP hd c).answer fun _ _ h _ => Answer.live_items.2 h
  | itemParent i =>
    exact (ItemRef.parentFolder_advances hP hd i).answer fun _ _ h _ =>
      Answer.live_folder.2 fun _ hg => Option.mem_some_iff.1 hg ▸ h
  | notify l =>
    exact (Entities.deliver_advances hP l).answer_none fun _ _ => Answer.live_done
  | clearCaches => cases hq
  | close => cases hq

include hd in
/-- Every request keeps the session coherent. -/
theorem Request.exec_keeps (q : Request) : Keeps (fun s : σ => (ent s).shape.Coherent) (q.exec d) := by
  cases hq : q.clears
  · exact (q.exec_advances hd stable_true hq).keeps
  · cases q <;> simp only [Request.clears, reduceCtorEq] at hq
    · exact .map (Entities.clearCaches_keeps hd)
    · exact .map (Entities.close_keeps hd)

/-! ### Runs -/

include hd in
/-- **Every run keeps the session coherent.** -/
theorem Request.run_coherent (qs : List Request) {s : σ} (hc : (ent s).shape.Coherent) :
    (ent (Request.run d qs s).2).shape.Coherent := by
  induction qs generalizing s with
  | nil => exact hc
  | cons q qs ih => exact ih (q.exec_keeps hd s hc).state

include hd in
/-- **A run with no clearing advances the session**, and the entities its answers give out are
live at its end, as long as every request lists the collections of a folder held live at the
start or given out by an earlier answer. -/
theorem Request.run_advances (held : List FolderRef) (qs : List Request)
    (hqs : ∀ q ∈ qs, q.clears = false) {s : σ} (hc : (ent s).shape.Coherent)
    (hheld : ∀ f ∈ held, (ent s).shape.LiveFolder f)
    (hobt : Request.Obtained held qs (Request.run d qs s).1) :
    (ent s).shape.Advance (ent (Request.run d qs s).2).shape ∧
      ∀ b, Except.ok b ∈ (Request.run d qs s).1 → b.Live (ent (Request.run d qs s).2).shape := by
  induction qs generalizing held s with
  | nil => exact ⟨.refl hc, by simp [Request.run]⟩
  | cons q qs ih =>
    rw [Request.run_cons] at hobt ⊢
    obtain ⟨hread, hrest⟩ := hobt
    -- the first request keeps the held folders live, as the maps only grow
    have hq := q.exec_advances hd (stable_liveFolders held) (hqs q List.mem_cons_self) s hc hheld
    have hadv : (ent s).shape.Advance (ent ((q.exec d).run.run s).2).shape :=
      (hq.mono (fun _ _ h => h.1) fun _ _ h => h).state
    have hlive : ∀ b, ((q.exec d).run.run s).1 = .ok b →
        b.Live (ent ((q.exec d).run.run s).2).shape := fun b hb => by
      obtain ⟨-, hheld₁, hb'⟩ := hq.ok hb
      exact hb' fun f hf => hheld₁ f (hread f hf)
    have hheld' : ∀ f ∈ held ++ Request.givenFolders [((q.exec d).run.run s).1],
        (ent ((q.exec d).run.run s).2).shape.LiveFolder f := by
      intro f hf
      rcases List.mem_append.1 hf with hf | hf
      · exact hadv.2.liveFolder (hheld f hf)
      · obtain ⟨b, hb, hfb⟩ := Request.mem_given.1 hf
        exact (hlive b (List.mem_singleton.1 hb).symm).1 f hfb
    obtain ⟨hadv', hlive'⟩ :=
      ih _ (fun q hq => hqs q (List.mem_cons_of_mem _ hq)) hadv.1 hheld' hrest
    refine ⟨hadv.trans hadv', fun b hb => ?_⟩
    rcases List.mem_cons.1 hb with hb | hb
    · exact b.stable_live _ _ hadv'.2 (hlive b hb.symm)
    · exact hlive' b hb

/-! ### One live instance per id -/

include hd in
/-- **One live instance per id.** Along every run of a fresh session the collections hold the
maps' entries for their own ids. After any run, along a further run that does not clear the
caches or close the session and lists only the collections of folders it was given, two
folders, or two items, given out with the same store and id are the same, and every store
given out is the session map's entry for its id. -/
theorem one_live_instance_per_id {s : σ} (hs : ent s = Entities.empty) (pre seg : List Request)
    (hseg : ∀ q ∈ seg, q.clears = false) {as : List (Except Failure Answer)} {s' : σ}
    (hrun : Request.run d seg (Request.run d pre s).2 = (as, s'))
    (hobt : Request.Obtained [] seg as) :
    (ent s').shape.OwnEntries ∧
      (∀ f ∈ Request.givenFolders as, ∀ g ∈ Request.givenFolders as, ∀ F G,
        (ent s').shape.folder f = some F → (ent s').shape.folder g = some G →
          F.store = G.store → F.id = G.id → f = g) ∧
      (∀ i ∈ Request.givenItems as, ∀ j ∈ Request.givenItems as, ∀ I J,
        (ent s').shape.item i = some I → (ent s').shape.item j = some J →
          I.store = J.store → I.id = J.id → i = j) ∧
      ∀ r ∈ Request.givenStores as, ∃ S, (ent s').shape.store r = some S ∧
        (ent s').shape.storeById.lookup S.id = some r := by
  have hc₀ : (ent s).shape.Coherent := hs ▸ Entities.coherent_empty
  have hc₁ := Request.run_coherent hd pre hc₀
  obtain ⟨hadv, hlive⟩ := Request.run_advances hd [] seg hseg hc₁ (by simp) (by rw [hrun]; exact hobt)
  rw [hrun] at hadv hlive
  have hc := hadv.1
  refine ⟨hc.ownEntries, fun f hf g hg F G hF hG hstore hid => ?_,
    fun i hi j hj I J hI hJ hstore hid => ?_, fun r hr => ?_⟩
  · obtain ⟨b, hb, hfb⟩ := Request.mem_given.1 hf
    obtain ⟨b', hb', hgb⟩ := Request.mem_given.1 hg
    exact hc.folder_eq ((hlive b hb).1 f hfb) ((hlive b' hb').1 g hgb) hF hG hid hstore
  · obtain ⟨b, hb, hib⟩ := Request.mem_given.1 hi
    obtain ⟨b', hb', hjb⟩ := Request.mem_given.1 hj
    exact hc.item_eq ((hlive b hb).2.1 i hib) ((hlive b' hb').2.1 j hjb) hI hJ hid hstore
  · obtain ⟨b, hb, hrb⟩ := Request.mem_given.1 hr
    exact hc.store_lookup ((hlive b hb).2.2 r hrb)

/-- The entity bench, fresh over a world with no stores, meets the hypotheses: its driver keeps
the shape of the session, and so a run that lists the stores and looks one up keeps one live
instance per id. -/
theorem bench_keeps_one_live_instance :
    (Console.EntityBench.driver.Stays fun s : Console.EntityBench => (ent s).shape) ∧
      (ent (Request.run Console.EntityBench.driver [.stores none .none, .lookupStore []]
        ⟨⟨#[], [], 0, #[], [], []⟩, Console.Rig.empty, Entities.empty, [], [], []⟩).2).shape.OwnEntries ∧
      (∀ f ∈ Request.givenFolders (Request.run Console.EntityBench.driver
          [.stores none .none, .lookupStore []]
          ⟨⟨#[], [], 0, #[], [], []⟩, Console.Rig.empty, Entities.empty, [], [], []⟩).1,
        ∀ g ∈ Request.givenFolders (Request.run Console.EntityBench.driver
          [.stores none .none, .lookupStore []]
          ⟨⟨#[], [], 0, #[], [], []⟩, Console.Rig.empty, Entities.empty, [], [], []⟩).1, ∀ F G,
        (ent (Request.run Console.EntityBench.driver [.stores none .none, .lookupStore []]
          ⟨⟨#[], [], 0, #[], [], []⟩, Console.Rig.empty, Entities.empty, [], [], []⟩).2).shape.folder f =
            some F →
        (ent (Request.run Console.EntityBench.driver [.stores none .none, .lookupStore []]
          ⟨⟨#[], [], 0, #[], [], []⟩, Console.Rig.empty, Entities.empty, [], [], []⟩).2).shape.folder g =
            some G →
        F.store = G.store → F.id = G.id → f = g) ∧
      (∀ i ∈ Request.givenItems (Request.run Console.EntityBench.driver
          [.stores none .none, .lookupStore []]
          ⟨⟨#[], [], 0, #[], [], []⟩, Console.Rig.empty, Entities.empty, [], [], []⟩).1,
        ∀ j ∈ Request.givenItems (Request.run Console.EntityBench.driver
          [.stores none .none, .lookupStore []]
          ⟨⟨#[], [], 0, #[], [], []⟩, Console.Rig.empty, Entities.empty, [], [], []⟩).1, ∀ I J,
        (ent (Request.run Console.EntityBench.driver [.stores none .none, .lookupStore []]
          ⟨⟨#[], [], 0, #[], [], []⟩, Console.Rig.empty, Entities.empty, [], [], []⟩).2).shape.item i =
            some I →
        (ent (Request.run Console.EntityBench.driver [.stores none .none, .lookupStore []]
          ⟨⟨#[], [], 0, #[], [], []⟩, Console.Rig.empty, Entities.empty, [], [], []⟩).2).shape.item j =
            some J →
        I.store = J.store → I.id = J.id → i = j) ∧
      ∀ r ∈ Request.givenStores (Request.run Console.EntityBench.driver
          [.stores none .none, .lookupStore []]
          ⟨⟨#[], [], 0, #[], [], []⟩, Console.Rig.empty, Entities.empty, [], [], []⟩).1,
        ∃ S, (ent (Request.run Console.EntityBench.driver [.stores none .none, .lookupStore []]
          ⟨⟨#[], [], 0, #[], [], []⟩, Console.Rig.empty, Entities.empty, [], [], []⟩).2).shape.store r =
            some S ∧
          (ent (Request.run Console.EntityBench.driver [.stores none .none, .lookupStore []]
            ⟨⟨#[], [], 0, #[], [], []⟩, Console.Rig.empty, Entities.empty, [], [], []⟩).2).shape.storeById.lookup
              S.id = some r := by
  have hs : ent (⟨⟨#[], [], 0, #[], [], []⟩, Console.Rig.empty, Entities.empty, [], [], []⟩ :
      Console.EntityBench) = Entities.empty := rfl
  exact ⟨Console.EntityBench.driver_stays, one_live_instance_per_id Console.EntityBench.driver_stays
    hs [] [.stores none .none, .lookupStore []] (by simp [Request.clears]) rfl
    (by simp [Request.run_cons, Request.Obtained, Request.reads])⟩

end MailStore
