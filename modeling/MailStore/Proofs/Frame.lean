import Mathlib
import MailStore.Proofs.Shape
import MailStore.Tool.Registry

/-!
# What the entities leave alone

An operation on entities changes its state in two ways only: it puts entities back, and it
calls its driver. So a view of the state that putting entities back does not change
(`EntityFree`), and that every operation of the driver except those on streams leaves as it
is (`Driver.Quiet`), stays as it is through every entity operation that fetches no property:
finding the store, folder or item a tool names, resolving names through a store's cache, and
clearing the caches of a session. The views that matter are what the driver keeps of its
own, such as the streams it has opened and the calls made on them.

A tool call ends by clearing the caches whether the tool succeeded or not: `tryFinally` runs
its second part from wherever the first ended, and `Ends.tryFinally_iff` says so.

## Main statements

* `Ends.tryFinally_iff`: how `tryFinally x fin` ends, from how `x` and then `fin` end.
* `ToolKind.store_stays`, `StoreRef.openFolder_stays`, `StoreRef.openItem_stays`,
  `ItemRef.ensureOpen_stays`: finding what a tool names leaves a quiet view alone.
* `NameCache.resolveNamed_stays`, `NameCache.resolveIds_stays`: so does resolving names.
* `Entities.clearCaches_stays`: so does clearing the caches of a session.
-/

namespace MailStore

variable {ε σ α β γ : Type}

/-! ### Finishing -/

/-- `tryFinally x fin` runs `fin` from the state `x` ends in; a failure of `fin` wins over the
outcome of `x`. -/
theorem run_tryFinally (x : ExceptT ε (StateM σ) α) (fin : ExceptT ε (StateM σ) β) (s : σ) :
    (tryFinally x fin).run.run s =
      ((match (x.run.run s).1, (fin.run.run (x.run.run s).2).1 with
        | .ok a, .ok _ => .ok a
        | _, .error e => .error e
        | .error e, .ok _ => .error e), (fin.run.run (x.run.run s).2).2) := by
  rcases hx : x.run.run s with ⟨_ | a, s₁⟩ <;> rcases hf : fin.run.run s₁ with ⟨_ | b, s₂⟩ <;>
    · simp only [ExceptT.run, StateT.run] at hx hf
      simp only [tryFinally, tryFinally', ExceptT.run, StateT.run, ExceptT.mk, Functor.map,
        ExceptT.map, bind, StateT.bind, pure, StateT.pure, hx, hf]

/-- How `tryFinally x fin` ends: as `fin` ends from where `x` ended, with the outcome of `x`
unless `fin` fails. -/
theorem Ends.tryFinally_iff {x : ExceptT ε (StateM σ) α} {fin : ExceptT ε (StateM σ) β} {s : σ}
    {Q : α → σ → Prop} {E : ε → σ → Prop} :
    Ends (tryFinally x fin) s Q E ↔
      Ends x s (fun a s₁ => Ends fin s₁ (fun _ s₂ => Q a s₂) E)
        fun f s₁ => Ends fin s₁ (fun _ s₂ => E f s₂) E := by
  unfold Ends
  rw [run_tryFinally]
  rcases x.run.run s with ⟨_ | a, s₁⟩ <;> dsimp only <;>
    rcases fin.run.run s₁ with ⟨_ | b, s₂⟩ <;> rfl

theorem Stays.tryFinally {π : σ → β} {x : ExceptT ε (StateM σ) α} {fin : ExceptT ε (StateM σ) γ}
    (hx : Stays π x) (hfin : Stays π fin) : Stays π (tryFinally x fin) := by
  intro v s hs
  rw [Ends.tryFinally_iff]
  exact (hx v s hs).mono (fun _ s₁ h₁ => hfin v s₁ h₁) fun _ s₁ h₁ => hfin v s₁ h₁

theorem Stays.ofExcept {π : σ → β} {r : Except ε α} :
    Stays π (MonadExcept.ofExcept r : ExceptT ε (StateM σ) α) := by
  intro v s hs
  cases r <;> exact hs

/-! ### Views the entities have no part in -/

section Free

variable [EntityHost σ]

/-- A view of the state that the entities have no part in: putting entities back leaves it
as it is. -/
def EntityFree (π : σ → β) : Prop :=
  ∀ s e, π (EntityHost.setEntities s e) = π s

/-- Every operation of a driver but those on streams leaves the view `π` alone. -/
structure Driver.Quiet (π : σ → β) (d : Driver (EntityM σ)) : Prop extends Driver.Stays π d where
  /-- Asking for the ids of names. -/
  idsOfNames : ∀ h names, MailStore.Stays π (d.idsOfNames h names)
  /-- Asking for the names of ids. -/
  namesOfIds : ∀ h tags, MailStore.Stays π (d.namesOfIds h tags)

variable {π : σ → β} (hπ : EntityFree π)
include hπ

theorem EntityFree.shapeView : ShapeView π := fun s e _ => hπ s e

namespace Stays

/-- Any change of the entities stays in a view they have no part in. -/
theorem entities {f : Entities → Entities} : Stays π (Entities.modify f : EntityM σ Unit) :=
  fun _ s hs => by simpa [← hs] using hπ s _

theorem modifyStore' {r : StoreRef} {f : StoreState → StoreState} :
    Stays π (Entities.modifyStore r f : EntityM σ Unit) :=
  entities hπ

theorem modifyFolder' {r : FolderRef} {f : FolderState → FolderState} :
    Stays π (Entities.modifyFolder r f : EntityM σ Unit) :=
  entities hπ

theorem modifyItem {i : ItemRef} {f : ItemState → ItemState} :
    Stays π (Entities.modifyItem i f : EntityM σ Unit) :=
  entities hπ

theorem addStore {S : StoreState} : Stays π (Entities.addStore S : EntityM σ StoreRef) :=
  .bind current fun _ => .bind (entities hπ) fun _ => .pure

theorem addFolder {F : FolderState} : Stays π (Entities.addFolder F : EntityM σ FolderRef) :=
  .bind current fun _ => .bind (entities hπ) fun _ => .pure

theorem addItem {I : ItemState} : Stays π (Entities.addItem I : EntityM σ ItemRef) :=
  .bind current fun _ => .bind (entities hπ) fun _ => .pure

end Stays

/-! ### Collections -/

/-- A slot whose reads and writes leave the view `π` alone. -/
structure Slot.Free (sl : Slot σ α) (π : σ → β) : Prop where
  /-- Reading the collection. -/
  get : Stays π sl.get
  /-- Replacing the collection. -/
  set : ∀ c, Stays π (sl.set c)

omit [EntityHost σ] hπ in
theorem Slot.Free.modify {sl : Slot σ α} (h : sl.Free π) (f : Collection α → Collection α) :
    Stays π (sl.modify f) :=
  .bind h.get fun c => h.set (f c)

theorem Entities.storesSlot_free : (Entities.storesSlot : Slot σ StoreRef).Free π :=
  ⟨.bind .current fun _ => .pure, fun c => Stays.entities (f := fun e => { e with storeList := c }) hπ⟩

theorem StoreRef.rootSlot_free (r : StoreRef) : (r.rootSlot : Slot σ FolderRef).Free π :=
  ⟨.bind .store fun _ => .pure, fun _ => .modifyStore' hπ⟩

section FolderSlots

omit hπ

variable (f : FolderRef) (hfold : ∀ g, Stays π (Entities.modifyFolder f g : EntityM σ Unit))
include hfold

/-! A folder's collections are free in every view that changing the folder leaves alone. -/

theorem FolderRef.subSlot_free : (f.subSlot : Slot σ FolderRef).Free π :=
  ⟨.bind .folder fun _ => .pure, fun _ => hfold _⟩

theorem FolderRef.itemSlot_free : (f.itemSlot : Slot σ ItemRef).Free π :=
  ⟨.bind .folder fun _ => .pure, fun _ => hfold _⟩

theorem FolderRef.conversationSlot_free : (f.conversationSlot : Slot σ ConversationRef).Free π :=
  ⟨.bind .folder fun _ => .pure, fun _ => hfold _⟩

end FolderSlots

variable {d : Driver (EntityM σ)} (hd : d.Quiet π)
include hd

namespace Slot.Free

variable {sl : Slot σ α} (hs : sl.Free π)
include hs

omit [EntityHost σ] hπ in
theorem watch (kind : CollectionKind) (l : Listener) (t : Nat) :
    Stays π (sl.watch d kind l t) := by
  unfold Slot.watch
  refine .bind hs.get fun c => ?_
  split
  · exact .pure
  · exact .bind (.wrapping (hd.subscribe _ _)) fun _ => hs.modify _

omit hd in
/-- Loading stays in the view when the reader does. -/
theorem load (kind : CollectionKind) (dirs : Directives)
    {read : Directives → (Nat → EntityM σ Unit) → EntityM σ (List (Bytes × α))}
    {watch : Nat → EntityM σ Unit} (hr : Stays π (read dirs watch)) :
    Stays π (sl.load kind dirs read watch) := by
  unfold Slot.load
  refine .bind hs.get fun c => ?_
  extract_lets jp
  -- what follows the check of the directives: a hit or a read
  have hjp : ∀ u, Stays π (jp u) := by
    intro u
    refine .bind hs.get fun c' => ?_
    split
    · exact .bind (.count hπ.shapeView) fun _ => .pure
    · exact .bind hr fun _ => .bind (hs.modify _) fun _ => .bind (.count hπ.shapeView) fun _ => .pure
  split
  · exact .bind (hs.set _) fun _ => .bind (.count hπ.shapeView) hjp
  · exact hjp ()

omit [EntityHost σ] hπ hd in
/-- Releasing stays in the view when ending a subscription does. -/
theorem release (hun : ∀ n, Stays π (d.unsubscribe n)) : Stays π (sl.release d) := by
  unfold Slot.release
  refine .bind hs.get fun c => .bind (hs.set _) fun _ => ?_
  split
  · exact .pure
  · exact .tryCatch (.bind (hun _) fun _ => .pure) fun _ => .pure

end Slot.Free

/-! ### Finding what a tool names -/

namespace Entities

theorem readStores_stays (dirs : Directives) {watch : Nat → EntityM σ Unit}
    (hw : ∀ t, Stays π (watch t)) : Stays π (readStores d dirs watch) := by
  unfold readStores
  refine .bind (.count hπ.shapeView) fun _ => .bind (.wrapping hd.storesTable) fun t => ?_
  refine .bind (hw t) fun _ => .bind (.count hπ.shapeView) fun _ => ?_
  refine .bind (.wrapping (hd.read _ _)) fun rows => .mapM (fun row => ?_) rows
  refine .bind .current fun e => ?_
  split
  · exact .pure
  · exact .bind (.addStore hπ) fun _ => .bind (.entities hπ) fun _ => .pure

theorem loadStores_stays (dirs : Directives) : Stays π (loadStores d dirs) := by
  unfold loadStores
  refine .bind .current fun e => ?_
  extract_lets jp
  have hjp : ∀ u, Stays π (jp u) := fun _ =>
    (storesSlot_free hπ).load hπ .stores dirs
      (readStores_stays hπ hd dirs fun t => (storesSlot_free hπ).watch hd _ _ t)
  split
  · exact .throw_bind
  · exact hjp ()

/-- **Finding a store** by id leaves a quiet view alone. -/
theorem lookupStore_stays (id : Bytes) : Stays π (lookupStore d id) := by
  unfold lookupStore
  refine .bind (storesSlot_free hπ).get fun c => ?_
  refine .bind (.map (loadStores_stays hπ hd _)) fun _ => ?_
  exact .bind (storesSlot_free hπ).get fun _ => .pure

end Entities

/-- **Finding the store a tool names** leaves a quiet view alone. -/
theorem ToolKind.store_stays (args : Json) : Stays π (ToolKind.store d args) := by
  unfold ToolKind.store
  refine .bind .ofExcept fun id => .bind (.wrapping (Entities.lookupStore_stays hπ hd id)) fun o => ?_
  split
  · exact .pure
  · exact .throw

namespace StoreRef

omit hd in
theorem cacheFolder_stays (r : StoreRef) (row : List RawProp) (h : Option Nat) :
    Stays π (r.cacheFolder row h : EntityM σ FolderRef) := by
  unfold cacheFolder
  refine .bind .store fun S => ?_
  split
  · exact .pure
  · exact .bind (.addFolder hπ) fun _ => .bind (.modifyStore' hπ) fun _ => .pure

omit hd in
theorem cacheItem_stays (r : StoreRef) (row : List RawProp) (h : Option Nat) :
    Stays π (r.cacheItem row h : EntityM σ ItemRef) := by
  unfold cacheItem
  refine .bind .store fun S => ?_
  split
  · exact .pure
  · exact .bind (.addItem hπ) fun _ => .bind (.modifyStore' hπ) fun _ => .pure

/-- **Opening a folder** by id leaves a quiet view alone. -/
theorem openFolder_stays (r : StoreRef) (id : Bytes) : Stays π (r.openFolder d id) := by
  unfold openFolder
  refine .bind (ensureOpen_stays hπ.shapeView.openView hd.toOpens r) fun o => ?_
  refine .bind .store fun S => ?_
  split
  · exact .pure
  refine .bind (.count hπ.shapeView) fun _ => .bind (.wrapping (hd.openFolder _ _)) fun h => ?_
  refine .bind (.count hπ.shapeView) fun _ => .bind (.wrapping (hd.getProps _ _)) fun row => ?_
  split
  · exact cacheFolder_stays hπ r row _
  · exact .throw_bind

/-- **Opening an item** by id leaves a quiet view alone. -/
theorem openItem_stays (r : StoreRef) (id : Bytes) : Stays π (r.openItem d id) := by
  unfold openItem
  refine .bind .store fun S => ?_
  split
  · exact .pure
  refine .bind (ensureOpen_stays hπ.shapeView.openView hd.toOpens r) fun o => ?_
  refine .bind (.count hπ.shapeView) fun _ => .bind (.wrapping (hd.openMessage _ _)) fun h => ?_
  refine .bind (.count hπ.shapeView) fun _ => .bind (.wrapping (hd.getProps _ _)) fun row => ?_
  split
  · exact cacheItem_stays hπ r row _
  · exact .throw_bind

omit hd in
theorem keepNames_stays (r : StoreRef) (c : NameCache) :
    Stays π (r.keepNames c : EntityM σ Unit) :=
  .modifyStore' hπ

omit hd in
theorem observe_stays (hits misses : Nat) : Stays π (observe hits misses : EntityM σ Unit) :=
  .bind (.countBy hπ.shapeView) fun _ => .countBy hπ.shapeView

end StoreRef

theorem ItemRef.ensureOpen_stays (i : ItemRef) : Stays π (i.ensureOpen d) := by
  unfold ItemRef.ensureOpen
  refine .bind (ItemRef.owner_stays i) fun r => .bind .item fun I => ?_
  split
  · exact .pure
  refine .bind (StoreRef.ensureOpen_stays hπ.shapeView.openView hd.toOpens r) fun _ => ?_
  refine .bind (.count hπ.shapeView) fun _ => .bind (.wrapping (hd.openMessage _ _)) fun _ => ?_
  exact .bind (.modifyItem hπ) fun _ => .pure

/-! ### Resolving names -/

omit hπ hd in
/-- A resolver whose every question leaves the view alone. -/
structure NameResolver.Quiet (π : σ → β) (r : NameResolver (EntityM σ)) : Prop where
  /-- Asking for ids. -/
  idsOfNames : ∀ names, Stays π (r.idsOfNames names)
  /-- Asking for names. -/
  namesOfIds : ∀ tags, Stays π (r.namesOfIds tags)
  /-- Reporting lookups. -/
  observe : ∀ hits misses, Stays π (r.observe hits misses)

theorem StoreRef.resolver_quiet (o : OpenStore) : (StoreRef.resolver d o).Quiet π :=
  ⟨hd.idsOfNames _, hd.namesOfIds _, StoreRef.observe_stays hπ⟩

namespace NameCache

variable {r : NameResolver (EntityM σ)} (hr : r.Quiet π)
include hr

omit [EntityHost σ] hπ hd in
/-- **Resolving names** through a quiet resolver leaves the view alone. -/
theorem resolveNamed_stays (c : NameCache) (ids : List PropertyId) :
    Stays π (c.resolveNamed r ids) := by
  unfold resolveNamed
  split
  refine .bind (hr.observe _ _) fun _ => ?_
  split
  · exact .pure
  refine .bind (.tryCatch (hr.idsOfNames _) fun _ => .throw) fun tags => ?_
  split
  · exact .pure
  · exact .throw_bind

omit [EntityHost σ] hπ hd in
theorem resolveIds_stays (c : NameCache) (tags : List Tag) : Stays π (c.resolveIds r tags) := by
  unfold resolveIds
  split
  refine .bind (hr.observe _ _) fun _ => ?_
  split
  · exact .pure
  refine .bind (.tryCatch (hr.namesOfIds _) fun _ => .throw) fun names => ?_
  split
  · exact .pure
  · exact .throw_bind

end NameCache

/-! ### Clearing the caches -/

omit hπ hd in
/-- Closing a folder changes that folder alone: it stays in every view that changing a folder
leaves alone, when ending a subscription does too. -/
theorem FolderRef.close_stays_of (hfold : ∀ f (g : FolderState → FolderState),
      Stays π (Entities.modifyFolder f g : EntityM σ Unit))
    (hun : ∀ n, Stays π (d.unsubscribe n)) (f : FolderRef) : Stays π (f.close d) := by
  unfold FolderRef.close
  refine .bind ((f.subSlot_free (hfold f)).release hun) fun _ => ?_
  refine .bind ((f.itemSlot_free (hfold f)).release hun) fun _ => ?_
  exact .bind ((f.conversationSlot_free (hfold f)).release hun) fun _ => .pure

theorem FolderRef.close_stays (f : FolderRef) : Stays π (f.close d) :=
  FolderRef.close_stays_of (fun _ _ => .modifyFolder' hπ) hd.unsubscribe f

theorem StoreRef.clearCaches_stays (r : StoreRef) : Stays π (r.clearCaches d) := by
  unfold StoreRef.clearCaches
  refine .bind .store fun S => .bind (.modifyStore' hπ) fun _ => ?_
  extract_lets jp
  -- what follows the reset of the root folder list: releasing the folders forgotten
  have hjp : ∀ u, Stays π (jp u) := fun _ =>
    .forM (fun _ => .map (FolderRef.close_stays hπ hd _)) _
  split
  · exact .bind ((StoreRef.rootSlot_free hπ r).modify _) fun _ => .bind (.count hπ.shapeView) hjp
  · exact hjp ()

/-- **Clearing the caches** of a session leaves a quiet view alone. -/
theorem Entities.clearCaches_stays : Stays π (Entities.clearCaches d) :=
  .bind .current fun _ => .forM (fun _ => StoreRef.clearCaches_stays hπ hd _) _

end Free

end MailStore
