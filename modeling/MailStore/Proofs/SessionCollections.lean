import Mathlib
import MailStore.Proofs.LazyCollection
import MailStore.Proofs.WorldFrame
import MailStore.Proofs.Closing

/-!
# The collections of a session

A session has five kinds of lazy collection: its list of stores, the root folder list of each
store, and the child folders, items and conversations of each folder. Each lives in a slot that
keeps it where the session's shape has it (`storesView`, `rootView`, `folderView`), and each is
loaded by a reader that opens its table, hands the table to the collection's watcher, and then
reads rows and makes entities without touching the collection: making a folder or an item leaves
every collection of the session alone (`StoreRef.cacheFolder_stays_root`,
`StoreRef.cacheFolder_keeps_folder`, `StoreRef.cacheItem_stays_folder`). So every collection of
a session is a lazy collection machine.

## Main statements

* `Entities.readStores_reads`, `StoreRef.readRootFolders_reads`, `FolderRef.readSubFolders_reads`,
  `FolderRef.readItems_reads`, `FolderRef.readConversations_reads`: the readers subscribe their
  collection and change nothing else of it.
* `session_collections_machine`: every collection of a session follows `Slot.Machine`, and
  closing the session lets go of every subscription.
-/

namespace MailStore

open SessionShape

variable {σ : Type} [EntityHost σ] [LawfulEntityHost σ]

/-! ### Where each collection is -/

/-- The session's list of stores. -/
def storesView (s : σ) : Option (Collection StoreRef) := some (ent s).shape.storeList

/-- A store's root folder list. -/
def rootView (r : StoreRef) (s : σ) : Option (Collection FolderRef) :=
  ((ent s).shape.store r).map StoreShape.rootFolders

/-- A collection of a folder. -/
def folderView {α : Type} (field : FolderShape → Collection α) (f : FolderRef) (s : σ) :
    Option (Collection α) :=
  ((ent s).shape.folder f).map field

/-- What the shape decides is a view the shape decides. -/
theorem shapeView_of {β : Type} (V : SessionShape → β) : ShapeView fun s : σ => V (ent s).shape := by
  intro s e he
  simp [he]

theorem Entities.storesSlot_lawful : (Entities.storesSlot : Slot σ StoreRef).Lawful storesView := by
  refine ⟨fun {s c} hv => ?_, fun {s c} c' _ => ⟨_, rfl, by simp [storesView]⟩,
    fun s name => by simp [storesView]⟩
  apply Ends.run_eq
  simp only [storesView, Entities.shape_storeList, Option.some.injEq] at hv
  simp [Entities.storesSlot, hv]

theorem StoreRef.rootSlot_lawful (r : StoreRef) : (r.rootSlot : Slot σ FolderRef).Lawful (rootView r) := by
  refine ⟨fun {s c} hv => ?_, fun {s c} c' hv => ?_, fun s name => ?_⟩
  · apply Ends.run_eq
    obtain ⟨S, hS, rfl⟩ : ∃ S, (ent s).storeHeap[r.idx]? = some S ∧ S.rootFolders = c := by
      simpa [rootView, StoreState.shape] using hv
    simp [StoreRef.rootSlot, hS]
  · obtain ⟨S, hS, rfl⟩ : ∃ S, (ent s).storeHeap[r.idx]? = some S ∧ S.rootFolders = c := by
      simpa [rootView, StoreState.shape] using hv
    refine ⟨_, rfl, ?_⟩
    simp [rootView, Array.getElem?_modify, hS, StoreState.shape]
  · simp [rootView]

/-- A slot of one of a folder's collections keeps it where the folder's shape has it. -/
theorem folderSlot_lawful {α : Type} (f : FolderRef) (field : FolderShape → Collection α)
    (put : Collection α → FolderState → FolderState) (hput : ∀ c F, field (put c F).shape = c) :
    (⟨do return field (← Entities.folder f).shape, fun c => Entities.modifyFolder f (put c)⟩ :
      Slot σ α).Lawful (folderView field f) := by
  refine ⟨fun {s c} hv => ?_, fun {s c} c' hv => ?_, fun s name => by simp [folderView]⟩
  · apply Ends.run_eq
    obtain ⟨F, hF, rfl⟩ : ∃ F, (ent s).folderHeap[f.idx]? = some F ∧ field F.shape = c := by
      simpa [folderView] using hv
    simp [hF]
  · obtain ⟨F, hF, rfl⟩ : ∃ F, (ent s).folderHeap[f.idx]? = some F ∧ field F.shape = c := by
      simpa [folderView] using hv
    refine ⟨_, rfl, ?_⟩
    simp [folderView, Array.getElem?_modify, hF, hput]

theorem FolderRef.subSlot_lawful (f : FolderRef) :
    (f.subSlot : Slot σ FolderRef).Lawful (folderView FolderShape.subFolders f) :=
  folderSlot_lawful f FolderShape.subFolders (fun c F => { F with subFolders := c }) fun _ _ => rfl

theorem FolderRef.itemSlot_lawful (f : FolderRef) :
    (f.itemSlot : Slot σ ItemRef).Lawful (folderView FolderShape.items f) :=
  folderSlot_lawful f FolderShape.items (fun c F => { F with items := c }) fun _ _ => rfl

theorem FolderRef.conversationSlot_lawful (f : FolderRef) :
    (f.conversationSlot : Slot σ ConversationRef).Lawful (folderView FolderShape.conversations f) :=
  folderSlot_lawful f FolderShape.conversations (fun c F => { F with conversations := c }) fun _ _ => rfl

/-! ### Making folders and items leaves the collections alone -/

section Making

/-- Making a folder leaves every store's root folder list alone. -/
theorem StoreRef.cacheFolder_stays_root (r r' : StoreRef) (row : List RawProp) (h : Option Nat) :
    Stays (rootView r') (r.cacheFolder row h : EntityM σ FolderRef) := by
  unfold StoreRef.cacheFolder
  refine .bind .store fun S => ?_
  split
  · exact .pure
  refine .bind (fun v s hs => ?_) fun f => .bind (fun v s hs => ?_) fun _ => .pure
  · simpa [rootView] using hs
  · simp only [Entities.ends_modifyStore]
    rw [← hs]
    simp only [rootView, LawfulEntityHost.entities_setEntities, Entities.shape_store,
      Array.getElem?_modify]
    split <;> cases (ent s).storeHeap[r'.idx]? <;> rfl

/-- Making a folder leaves alone the collections of every folder there is. -/
theorem StoreRef.cacheFolder_keeps_folder {α : Type} (field : FolderShape → Collection α)
    (f : FolderRef) (r : StoreRef) (row : List RawProp) (h : Option Nat) (c : Collection α) :
    Keeps (fun s : σ => folderView field f s = some c) (StoreRef.cacheFolder r row h) := by
  unfold StoreRef.cacheFolder
  refine Keeps.bind (Stays.store _) fun S => ?_
  split
  · exact Keeps.pure
  refine Keeps.bind (fun s hs => ?_) fun g => Keeps.bind (fun s hs => ?_) fun _ => Keeps.pure
  · -- the new folder goes after every folder there is
    obtain ⟨F, hF, rfl⟩ : ∃ F, (ent s).folderHeap[f.idx]? = some F ∧ field F.shape = c := by
      simpa [folderView] using hs
    have hlt : f.idx < (ent s).folderHeap.size := (Array.getElem?_eq_some_iff.1 hF).1
    simp [folderView, Array.getElem?_push, hlt.ne, hF]
  · simpa [folderView] using hs

/-- Making an item leaves alone the collections of every folder. -/
theorem StoreRef.cacheItem_stays_folder {α : Type} (field : FolderShape → Collection α)
    (f : FolderRef) (r : StoreRef) (row : List RawProp) (h : Option Nat) :
    Stays (folderView field f) (r.cacheItem row h : EntityM σ ItemRef) := by
  unfold StoreRef.cacheItem
  refine .bind .store fun S => ?_
  split
  · exact .pure
  refine .bind (fun v s hs => ?_) fun i => .bind (fun v s hs => ?_) fun _ => .pure
  · simpa [folderView] using hs
  · simpa [folderView] using hs

end Making

section Readers

variable {d : Driver (EntityM σ)} (hd : d.Stays fun s : σ => (ent s).shape)
include hd

theorem Entities.readStores_reads (dirs : Directives) :
    Slot.Reads storesView
      (Entities.readStores d dirs (Entities.storesSlot.watch d .stores .stores)) := by
  have hπ : ShapeView (storesView : σ → _) := shapeView_of fun sh => some sh.storeList
  have hd' := hd.comp fun sh => some sh.storeList
  unfold Entities.readStores
  refine .bind_of_keeps (fun c => Stays.count hπ (some c)) fun _ => ?_
  refine .bind_of_keeps (fun c => Stays.wrapping hd'.storesTable (some c)) fun t => ?_
  refine Entities.storesSlot_lawful.reads_watch (hd'.subscribe t _) fun c => ?_
  refine Stays.bind (.count hπ) (fun _ => .bind (.wrapping (hd'.read _ _)) fun rows => ?_) (some c)
  refine .mapM (fun row => .bind .current fun e => ?_) rows
  split
  · exact .pure
  · refine .bind (fun v s hs => ?_) fun r => .bind (fun v s hs => ?_) fun _ => .pure
    · simpa [storesView] using hs
    · simpa [storesView] using hs

theorem StoreRef.readRootFolders_reads (r : StoreRef) (dirs : Directives) :
    Slot.Reads (rootView r)
      (r.readRootFolders d dirs (r.rootSlot.watch d .rootFolders (.rootFolders r))) := by
  have hπ : ShapeView (rootView r : σ → _) := shapeView_of fun sh => (sh.store r).map StoreShape.rootFolders
  have hd' := hd.comp fun sh => (sh.store r).map StoreShape.rootFolders
  unfold StoreRef.readRootFolders
  refine .bind_of_keeps (fun c => StoreRef.ensureOpen_stays hπ.openView hd'.toOpens r (some c)) fun o => ?_
  refine .bind_of_keeps (fun c => Stays.count hπ (some c)) fun _ => ?_
  refine .bind_of_keeps (fun c => Stays.wrapping (hd'.hierarchyTable _) (some c)) fun t => ?_
  refine (StoreRef.rootSlot_lawful r).reads_watch (hd'.subscribe t _) fun c => ?_
  refine Stays.bind (.count hπ) (fun _ => .bind (.wrapping (hd'.read _ _)) fun rows => ?_) (some c)
  exact .mapM (fun row => .bind (StoreRef.cacheFolder_stays_root r r row none) fun _ => .pure) rows

theorem FolderRef.readSubFolders_reads (f : FolderRef) (dirs : Directives) :
    Slot.Reads (folderView FolderShape.subFolders f)
      (f.readSubFolders d dirs (f.subSlot.watch d .subFolders (.subFolders f))) := by
  have hπ : ShapeView (folderView FolderShape.subFolders f : σ → _) :=
    shapeView_of fun sh => (sh.folder f).map FolderShape.subFolders
  have hd' := hd.comp fun sh => (sh.folder f).map FolderShape.subFolders
  unfold FolderRef.readSubFolders
  refine .bind_of_keeps (fun c => FolderRef.ensureOpen_stays hπ hd'.toOpens f (some c)) fun ⟨r, h⟩ => ?_
  refine .bind_of_keeps (fun c => Stays.count hπ (some c)) fun _ => ?_
  refine .bind_of_keeps (fun c => Stays.wrapping (hd'.hierarchyTable _) (some c)) fun t => ?_
  refine (FolderRef.subSlot_lawful f).reads_watch (hd'.subscribe t _) fun c => ?_
  refine Keeps.bind (Stays.count hπ (some c)) fun _ =>
    Keeps.bind (Stays.wrapping (hd'.read _ _) (some c)) fun rows => ?_
  exact Keeps.mapM (fun row => Keeps.bind (StoreRef.cacheFolder_keeps_folder _ f r row none c)
    fun _ => Keeps.pure) rows

theorem FolderRef.readItems_reads (f : FolderRef) (dirs : Directives) :
    Slot.Reads (folderView FolderShape.items f)
      (f.readItems d dirs (f.itemSlot.watch d .items (.items f))) := by
  have hπ : ShapeView (folderView FolderShape.items f : σ → _) :=
    shapeView_of fun sh => (sh.folder f).map FolderShape.items
  have hd' := hd.comp fun sh => (sh.folder f).map FolderShape.items
  unfold FolderRef.readItems
  refine .bind_of_keeps (fun c => FolderRef.contentsTable_stays hπ hd'.toOpens f (some c))
    fun ⟨r, t⟩ => ?_
  refine (FolderRef.itemSlot_lawful f).reads_watch (hd'.subscribe t _) fun c => ?_
  refine Stays.bind (.count hπ) (fun _ => .bind (.wrapping (hd'.read _ _)) fun rows => ?_) (some c)
  exact .mapM (fun row => .bind (StoreRef.cacheItem_stays_folder _ f r row none) fun _ => .pure) rows

theorem FolderRef.readConversations_reads (f : FolderRef) (dirs : Directives) :
    Slot.Reads (folderView FolderShape.conversations f)
      (f.readConversations d dirs (f.conversationSlot.watch d .conversations (.conversations f))) := by
  have hπ : ShapeView (folderView FolderShape.conversations f : σ → _) :=
    shapeView_of fun sh => (sh.folder f).map FolderShape.conversations
  have hd' := hd.comp fun sh => (sh.folder f).map FolderShape.conversations
  unfold FolderRef.readConversations
  refine .bind_of_keeps (fun c => FolderRef.contentsTable_stays hπ hd'.toOpens f (some c))
    fun ⟨_, t⟩ => ?_
  refine (FolderRef.conversationSlot_lawful f).reads_watch (hd'.subscribe t _) fun c => ?_
  refine Stays.bind (.count hπ) (fun _ => .bind (.wrapping (hd'.read _ _)) fun rows => ?_) (some c)
  exact .bind .folder fun F => .mapM (fun _ => .bind (.addConversation hπ) fun _ => .pure) _

end Readers

/-! ### Every collection of a session -/

variable {d : Driver (EntityM σ)} (hd : d.Stays fun s : σ => (ent s).shape)

include hd in
/-- **Lazy collections.** The stores of a session, the root folders of each store, and the
child folders, items and conversations of each folder behave as `Slot.Machine` says: a load
under the directives a collection is loaded with answers from memory with no call, any other
load reads its table once, a failed read or subscription leaves the collection not loaded, a
read fills it with what it read, a subscribed collection never subscribes again, and along
every run the collection stays sound. Closing a coherent session returns, and leaves no
subscription of its list of stores, of the root folder list of a store of its map, or of a
collection of a folder that such a store held. -/
theorem session_collections_machine :
    Entities.storesSlot.Machine storesView d .stores .stores (Entities.readStores d) ∧
      (∀ r : StoreRef, r.rootSlot.Machine (rootView r) d .rootFolders (.rootFolders r)
        (r.readRootFolders d)) ∧
      (∀ f : FolderRef, f.subSlot.Machine (folderView FolderShape.subFolders f) d .subFolders
        (.subFolders f) (f.readSubFolders d)) ∧
      (∀ f : FolderRef, f.itemSlot.Machine (folderView FolderShape.items f) d .items (.items f)
        (f.readItems d)) ∧
      (∀ f : FolderRef, f.conversationSlot.Machine (folderView FolderShape.conversations f) d
        .conversations (.conversations f) (f.readConversations d)) ∧
      ∀ s : σ, (ent s).shape.Coherent →
        Ends (Entities.close d) s (fun _ s' => (ent s).shape.Unsubscribed (ent s').shape)
          fun _ _ => False :=
  ⟨Entities.storesSlot_lawful.machine (hd.comp fun sh => some sh.storeList)
      (Entities.readStores_reads hd),
    fun r => (StoreRef.rootSlot_lawful r).machine
      (hd.comp fun sh => (sh.store r).map StoreShape.rootFolders) (StoreRef.readRootFolders_reads hd r),
    fun f => (FolderRef.subSlot_lawful f).machine
      (hd.comp fun sh => (sh.folder f).map FolderShape.subFolders) (FolderRef.readSubFolders_reads hd f),
    fun f => (FolderRef.itemSlot_lawful f).machine
      (hd.comp fun sh => (sh.folder f).map FolderShape.items) (FolderRef.readItems_reads hd f),
    fun f => (FolderRef.conversationSlot_lawful f).machine
      (hd.comp fun sh => (sh.folder f).map FolderShape.conversations)
      (FolderRef.readConversations_reads hd f),
    fun _ hc => Entities.close_unsubscribes hd hc⟩

open Console in
/-- The entity bench's driver leaves the session's shape alone, so the collections of a bench
session are lazy collection machines and closing a coherent bench session lets every
subscription go. -/
theorem bench_collections_machine :
    (EntityBench.driver.Stays fun s : EntityBench => (ent s).shape) ∧
      Entities.storesSlot.Machine storesView EntityBench.driver .stores .stores
        (Entities.readStores EntityBench.driver) ∧
      (∀ r : StoreRef, r.rootSlot.Machine (rootView r) EntityBench.driver .rootFolders
        (.rootFolders r) (r.readRootFolders EntityBench.driver)) ∧
      (∀ f : FolderRef, f.subSlot.Machine (folderView FolderShape.subFolders f) EntityBench.driver
        .subFolders (.subFolders f) (f.readSubFolders EntityBench.driver)) ∧
      (∀ f : FolderRef, f.itemSlot.Machine (folderView FolderShape.items f) EntityBench.driver
        .items (.items f) (f.readItems EntityBench.driver)) ∧
      (∀ f : FolderRef, f.conversationSlot.Machine (folderView FolderShape.conversations f)
        EntityBench.driver .conversations (.conversations f)
        (f.readConversations EntityBench.driver)) ∧
      ∀ s : EntityBench, (ent s).shape.Coherent →
        Ends (Entities.close EntityBench.driver) s
          (fun _ s' => (ent s).shape.Unsubscribed (ent s').shape) fun _ _ => False :=
  ⟨EntityBench.driver_stays, session_collections_machine EntityBench.driver_stays⟩

end MailStore
