import Mathlib
import MailStore.Proofs.Ends

/-!
# The shape of a session

The laws about entities read little of them: the session's list of stores and its map of
stores by id, and of each store its id, its root folder list and its maps of live folders and
items; of each folder its store, its id and its three collections; of each item its store and
its id. That is the session's `SessionShape`. Opening a store or a folder, collecting special
folders, caching names and counting change other fields only, so they keep the shape, and
every invariant stated on the shape holds through them without a word.

A state holds the entities through `EntityHost`; `LawfulEntityHost` says that the entities
put into a state are the ones read back. A driver is taken to stay away from the entities
(`Driver.Opens`, `Driver.Stays`).

## Main statements

* `StoreRef.ensureOpen_stays`, `StoreRef.specialIds_stays`: opening a store leaves alone every
  `OpenView`, the shape among them.
* `FolderRef.ensureOpen_stays`, `FolderRef.contentsTable_stays`: opening a folder keeps the
  shape.
-/

namespace MailStore

/-- What the laws read of a store: its id, its root folder list and its identity maps. -/
structure StoreShape where
  /-- The entry id. -/
  id : Bytes
  /-- The folders below the IPM subtree. -/
  rootFolders : Collection FolderRef
  /-- The live folders by entry id. -/
  folders : List (Bytes × FolderRef)
  /-- The live items by entry id. -/
  items : List (Bytes × ItemRef)

/-- The shape of a store. -/
def StoreState.shape (S : StoreState) : StoreShape := ⟨S.id, S.rootFolders, S.folders, S.items⟩

/-- What the laws read of a folder: its store, its id and its collections. -/
structure FolderShape where
  /-- The store. -/
  store : StoreRef
  /-- The entry id. -/
  id : Bytes
  /-- The child folders. -/
  subFolders : Collection FolderRef
  /-- The items. -/
  items : Collection ItemRef
  /-- The conversations. -/
  conversations : Collection ConversationRef

/-- The shape of a folder. -/
def FolderState.shape (F : FolderState) : FolderShape :=
  ⟨F.store, F.id, F.subFolders, F.items, F.conversations⟩

/-- What the laws read of an item: its store and its id. -/
structure ItemShape where
  /-- The store. -/
  store : StoreRef
  /-- The entry id. -/
  id : Bytes

/-- The shape of an item. -/
def ItemState.shape (I : ItemState) : ItemShape := ⟨I.store, I.id⟩

/-- What the laws read of a session. -/
@[ext]
structure SessionShape where
  /-- The list of stores. -/
  storeList : Collection StoreRef
  /-- The live stores by entry id. -/
  storeById : List (Bytes × StoreRef)
  /-- The stores. -/
  store : StoreRef → Option StoreShape
  /-- The folders. -/
  folder : FolderRef → Option FolderShape
  /-- The items. -/
  item : ItemRef → Option ItemShape

/-- The shape of a session. -/
def Entities.shape (e : Entities) : SessionShape :=
  ⟨e.storeList, e.storeById, fun r => e.storeHeap[r.idx]?.map StoreState.shape,
    fun f => e.folderHeap[f.idx]?.map FolderState.shape, fun i => e.itemHeap[i.idx]?.map ItemState.shape⟩

namespace Entities

variable (e : Entities)

@[simp]
theorem shape_storeList : e.shape.storeList = e.storeList := rfl

@[simp]
theorem shape_storeById : e.shape.storeById = e.storeById := rfl

@[simp]
theorem shape_store (r : StoreRef) : e.shape.store r = e.storeHeap[r.idx]?.map StoreState.shape :=
  rfl

@[simp]
theorem shape_folder (f : FolderRef) :
    e.shape.folder f = e.folderHeap[f.idx]?.map FolderState.shape := rfl

@[simp]
theorem shape_item (i : ItemRef) : e.shape.item i = e.itemHeap[i.idx]?.map ItemState.shape := rfl

theorem shape_metrics (m : Tally) : { e with metrics := m }.shape = e.shape := rfl

theorem shape_conversationHeap (h : Array ConversationState) :
    { e with conversationHeap := h }.shape = e.shape := rfl

theorem shape_closed (c : Bool) : { e with closed := c }.shape = e.shape := rfl

/-- Changing a store without changing its shape keeps the session's shape. -/
theorem shape_modifyStore {f : StoreState → StoreState} (hf : ∀ S, (f S).shape = S.shape)
    (i : Nat) : { e with storeHeap := e.storeHeap.modify i f }.shape = e.shape := by
  simp only [shape, SessionShape.mk.injEq, true_and, and_true]
  funext r
  rw [Array.getElem?_modify]
  split <;> cases e.storeHeap[r.idx]? <;> simp [hf]

/-- Changing a folder without changing its shape keeps the session's shape. -/
theorem shape_modifyFolder {f : FolderState → FolderState} (hf : ∀ F, (f F).shape = F.shape)
    (i : Nat) : { e with folderHeap := e.folderHeap.modify i f }.shape = e.shape := by
  simp only [shape, SessionShape.mk.injEq, true_and, and_true]
  funext r
  rw [Array.getElem?_modify]
  split <;> cases e.folderHeap[r.idx]? <;> simp [hf]

end Entities

/-- The entities put into a state are the ones read back. -/
class LawfulEntityHost (σ : Type) [EntityHost σ] : Prop where
  /-- Reading back what was put. -/
  entities_setEntities : ∀ (s : σ) e, EntityHost.entities (EntityHost.setEntities s e) = e

attribute [simp] LawfulEntityHost.entities_setEntities

/-! ### Running the primitives -/

section Primitives

variable {σ α : Type} [EntityHost σ] {s : σ} {Q : α → σ → Prop} {E : Failure → σ → Prop}

/-- The entities of a state. -/
abbrev ent (s : σ) : Entities := EntityHost.entities s

namespace Entities

@[simp]
theorem ends_current {Q : Entities → σ → Prop} : Ends (current : EntityM σ Entities) s Q E ↔ Q (ent s) s := by
  simp [current]

@[simp]
theorem ends_modify {f : Entities → Entities} {Q : Unit → σ → Prop} :
    Ends (modify f : EntityM σ Unit) s Q E ↔ Q () (EntityHost.setEntities s (f (ent s))) := by
  simp [modify]

@[simp]
theorem ends_count {name : String} {Q : Unit → σ → Prop} :
    Ends (count name : EntityM σ Unit) s Q E ↔
      Q () (EntityHost.setEntities s { ent s with metrics := (ent s).metrics.bump name 1 }) := by
  simp [count]

theorem run_count (name : String) (s : σ) :
    (count name : EntityM σ Unit).run.run s =
      (.ok (), EntityHost.setEntities s { ent s with metrics := (ent s).metrics.bump name 1 }) :=
  rfl

@[simp]
theorem ends_countBy {name : String} {n : Nat} {Q : Unit → σ → Prop} :
    Ends (countBy name n : EntityM σ Unit) s Q E ↔
      Q () (EntityHost.setEntities s { ent s with metrics := (ent s).metrics.bump name n }) := by
  simp [countBy]

@[simp]
theorem ends_store {r : StoreRef} {Q : StoreState → σ → Prop} :
    Ends (store r : EntityM σ StoreState) s Q E ↔
      match (ent s).storeHeap[r.idx]? with
      | some S => Q S s
      | none => E (Failure.other "dangling reference to a store") s := by
  simp only [store, Ends.bind_iff, ends_current]
  cases (ent s).storeHeap[r.idx]? <;> rfl

@[simp]
theorem ends_folder {f : FolderRef} {Q : FolderState → σ → Prop} :
    Ends (folder f : EntityM σ FolderState) s Q E ↔
      match (ent s).folderHeap[f.idx]? with
      | some F => Q F s
      | none => E (Failure.other "dangling reference to a folder") s := by
  simp only [folder, Ends.bind_iff, ends_current]
  cases (ent s).folderHeap[f.idx]? <;> rfl

@[simp]
theorem ends_item {i : ItemRef} {Q : ItemState → σ → Prop} :
    Ends (item i : EntityM σ ItemState) s Q E ↔
      match (ent s).itemHeap[i.idx]? with
      | some I => Q I s
      | none => E (Failure.other "dangling reference to a item") s := by
  simp only [item, Ends.bind_iff, ends_current]
  cases (ent s).itemHeap[i.idx]? <;> rfl

@[simp]
theorem ends_conversation {c : ConversationRef} {Q : ConversationState → σ → Prop} :
    Ends (conversation c : EntityM σ ConversationState) s Q E ↔
      match (ent s).conversationHeap[c.idx]? with
      | some C => Q C s
      | none => E (Failure.other "dangling reference to a conversation") s := by
  simp only [conversation, Ends.bind_iff, ends_current]
  cases (ent s).conversationHeap[c.idx]? <;> rfl

@[simp]
theorem ends_modifyStore {r : StoreRef} {f : StoreState → StoreState} {Q : Unit → σ → Prop} :
    Ends (modifyStore r f : EntityM σ Unit) s Q E ↔
      Q () (EntityHost.setEntities s { ent s with storeHeap := (ent s).storeHeap.modify r.idx f }) := by
  simp [modifyStore]

@[simp]
theorem ends_modifyFolder {r : FolderRef} {f : FolderState → FolderState} {Q : Unit → σ → Prop} :
    Ends (modifyFolder r f : EntityM σ Unit) s Q E ↔
      Q () (EntityHost.setEntities s { ent s with folderHeap := (ent s).folderHeap.modify r.idx f }) := by
  simp [modifyFolder]

@[simp]
theorem ends_addFolder {F : FolderState} {Q : FolderRef → σ → Prop} :
    Ends (addFolder F : EntityM σ FolderRef) s Q E ↔
      Q ⟨(ent s).folderHeap.size⟩
        (EntityHost.setEntities s { ent s with folderHeap := (ent s).folderHeap.push F }) := by
  simp [addFolder]

@[simp]
theorem ends_addItem {I : ItemState} {Q : ItemRef → σ → Prop} :
    Ends (addItem I : EntityM σ ItemRef) s Q E ↔
      Q ⟨(ent s).itemHeap.size⟩
        (EntityHost.setEntities s { ent s with itemHeap := (ent s).itemHeap.push I }) := by
  simp [addItem]

@[simp]
theorem ends_addStore {S : StoreState} {Q : StoreRef → σ → Prop} :
    Ends (addStore S : EntityM σ StoreRef) s Q E ↔
      Q ⟨(ent s).storeHeap.size⟩
        (EntityHost.setEntities s { ent s with storeHeap := (ent s).storeHeap.push S }) := by
  simp [addStore]

@[simp]
theorem ends_addConversation {C : ConversationState} {Q : ConversationRef → σ → Prop} :
    Ends (addConversation C : EntityM σ ConversationRef) s Q E ↔
      Q ⟨(ent s).conversationHeap.size⟩
        (EntityHost.setEntities s
          { ent s with conversationHeap := (ent s).conversationHeap.push C }) := by
  simp [addConversation]

end Entities

end Primitives

@[simp]
theorem ends_wrapping {σ α : Type} {s : σ} {Q : α → σ → Prop} {E : Failure → σ → Prop}
    {context : String} {x : EntityM σ α} :
    Ends (wrapping context x) s Q E ↔ Ends x s Q fun f s' => E (f.wrap context) s' := by
  simp [wrapping]

/-! ### Views that only the shape decides -/

section Views

variable {σ β : Type} [EntityHost σ]

/-- A view of the state that the entities decide only through their shape. -/
def ShapeView (π : σ → β) : Prop :=
  ∀ s e, Entities.shape e = (ent s).shape → π (EntityHost.setEntities s e) = π s

/-- The shape of the entities is such a view. -/
theorem shapeView_shape [LawfulEntityHost σ] : ShapeView fun s : σ => (ent s).shape := by
  intro s e he
  simpa using he

/-- Every operation of a driver that opens or asks an object leaves the view `π` alone. -/
structure Driver.Opens (π : σ → β) (d : Driver (EntityM σ)) : Prop where
  /-- Opening the stores table. -/
  storesTable : Stays π d.storesTable
  /-- Opening a store. -/
  openStore : ∀ id, Stays π (d.openStore id)
  /-- Fetching properties. -/
  getProps : ∀ h tags, Stays π (d.getProps h tags)
  /-- Opening a folder. -/
  openFolder : ∀ h id, Stays π (d.openFolder h id)
  /-- Opening a message. -/
  openMessage : ∀ h id, Stays π (d.openMessage h id)
  /-- Asking for the receive folder. -/
  receiveFolder : ∀ h, Stays π (d.receiveFolder h)
  /-- Opening a hierarchy table. -/
  hierarchyTable : ∀ h, Stays π (d.hierarchyTable h)
  /-- Opening a contents table. -/
  contentsTable : ∀ h, Stays π (d.contentsTable h)

/-- Every operation of a driver leaves the view `π` alone, the table operations too. -/
structure Driver.Stays (π : σ → β) (d : Driver (EntityM σ)) : Prop extends Driver.Opens π d where
  /-- Reading a table. -/
  read : ∀ t q, MailStore.Stays π (d.read t q)
  /-- Subscribing to a table. -/
  subscribe : ∀ t l, MailStore.Stays π (d.subscribe t l)
  /-- Ending a subscription. -/
  unsubscribe : ∀ h, MailStore.Stays π (d.unsubscribe h)

omit [EntityHost σ] in
/-- A driver whose opening operations leave a view alone leaves alone everything the view
decides. -/
theorem Driver.Opens.comp {π : σ → β} {γ : Type} {d : Driver (EntityM σ)} (hd : d.Opens π)
    (g : β → γ) : d.Opens fun s => g (π s) :=
  ⟨hd.storesTable.comp g, fun id => (hd.openStore id).comp g, fun h t => (hd.getProps h t).comp g,
    fun h id => (hd.openFolder h id).comp g, fun h id => (hd.openMessage h id).comp g,
    fun h => (hd.receiveFolder h).comp g, fun h => (hd.hierarchyTable h).comp g,
    fun h => (hd.contentsTable h).comp g⟩

omit [EntityHost σ] in
/-- A driver that leaves a view alone leaves alone everything the view decides. -/
theorem Driver.Stays.comp {π : σ → β} {γ : Type} {d : Driver (EntityM σ)} (hd : d.Stays π)
    (g : β → γ) : d.Stays fun s => g (π s) :=
  ⟨hd.toOpens.comp g, fun t q => (hd.read t q).comp g, fun t l => (hd.subscribe t l).comp g,
    fun h => (hd.unsubscribe h).comp g⟩

namespace Stays

variable {π : σ → β} {α : Type}

theorem current : Stays π (Entities.current : EntityM σ Entities) := fun _ s hs => by simpa using hs

theorem store {r : StoreRef} : Stays π (Entities.store r : EntityM σ StoreState) := by
  intro v s hs
  simp only [Entities.ends_store]
  split <;> exact hs

theorem folder {f : FolderRef} : Stays π (Entities.folder f : EntityM σ FolderState) := by
  intro v s hs
  simp only [Entities.ends_folder]
  split <;> exact hs

theorem item {i : ItemRef} : Stays π (Entities.item i : EntityM σ ItemState) := by
  intro v s hs
  simp only [Entities.ends_item]
  split <;> exact hs

theorem conversation {c : ConversationRef} :
    Stays π (Entities.conversation c : EntityM σ ConversationState) := by
  intro v s hs
  simp only [Entities.ends_conversation]
  split <;> exact hs

omit [EntityHost σ] in
theorem wrapping {context : String} {x : EntityM σ α} (hx : Stays π x) :
    Stays π (MailStore.wrapping context x) :=
  tryCatch hx fun _ => throw

variable (hπ : ShapeView π)
include hπ

/-- An entity update that keeps the shape stays in a view the shape decides. -/
theorem modify {f : Entities → Entities} (hf : ∀ e, (f e).shape = e.shape) :
    Stays π (Entities.modify f : EntityM σ Unit) := fun _ s hs => by
  simpa [← hs] using hπ s _ (hf _)

theorem count {name : String} : Stays π (Entities.count name : EntityM σ Unit) :=
  modify hπ fun e => Entities.shape_metrics e _

theorem countBy {name : String} {n : Nat} : Stays π (Entities.countBy name n : EntityM σ Unit) :=
  modify hπ fun e => Entities.shape_metrics e _

theorem modifyStore {r : StoreRef} {f : StoreState → StoreState} (hf : ∀ S, (f S).shape = S.shape) :
    Stays π (Entities.modifyStore r f : EntityM σ Unit) :=
  modify hπ fun e => Entities.shape_modifyStore e hf _

theorem modifyFolder {r : FolderRef} {f : FolderState → FolderState}
    (hf : ∀ F, (f F).shape = F.shape) : Stays π (Entities.modifyFolder r f : EntityM σ Unit) :=
  modify hπ fun e => Entities.shape_modifyFolder e hf _

theorem addConversation {C : ConversationState} :
    Stays π (Entities.addConversation C : EntityM σ ConversationRef) := fun _ s hs => by
  simpa [← hs] using hπ s _ (Entities.shape_conversationHeap _ _)

end Stays

/-- A view that opening a store leaves alone: counting a call into the store, and a change of a
store that its shape does not see, leave it as it is. The views the shape decides are such
views; so are counters other than those of calls into the store. -/
structure OpenView (π : σ → β) : Prop where
  /-- Counting a call into the store. -/
  storeCall : ∀ op, Stays π (Entities.count (Metric.storeCall op) : EntityM σ Unit)
  /-- Changing a store as its shape does not see. -/
  modifyStore : ∀ r (f : StoreState → StoreState), (∀ S, (f S).shape = S.shape) →
    Stays π (Entities.modifyStore r f : EntityM σ Unit)

theorem ShapeView.openView {π : σ → β} (hπ : ShapeView π) : OpenView π :=
  ⟨fun _ => .count hπ, fun _ _ hf => .modifyStore hπ hf⟩

end Views

/-! ### Opening leaves the shape alone -/

section Opening

variable {σ β : Type} [EntityHost σ] {π : σ → β} (hπ : OpenView π) {d : Driver (EntityM σ)}
  (hd : d.Opens π)
include hπ hd

namespace StoreRef

omit [EntityHost σ] hπ in
theorem specialFolderProps_stays (h : Nat) : Stays π (specialFolderProps d h) := by
  unfold specialFolderProps
  dsimp only
  refine .bind (.wrapping (hd.getProps _ _)) fun props => ?_
  split
  · exact .pure
  · exact .throw_bind

omit hπ in
/-- Asking for the inbox stays in every view that counting the opening of a folder leaves
alone. -/
theorem openInbox_stays
    (hc : Stays π (Entities.count (Metric.storeCall "open_folder") : EntityM σ Unit)) (h : Nat) :
    Stays π (openInbox d h) := by
  unfold openInbox receiveFolder?
  refine .bind (.tryCatch (.bind (hd.receiveFolder _) fun _ => .pure) fun _ => .pure) fun id => ?_
  split
  · split
    · exact .pure
    refine .bind hc fun _ => .bind (.wrapping (hd.openFolder _ _)) fun _ => ?_
    exact .bind (specialFolderProps_stays hd _) fun _ => .pure
  · exact .pure

/-- Opening a store only counts its calls into the store and records what it opened, so it
stays in every view that opening leaves alone. -/
theorem ensureOpen_stays (r : StoreRef) : Stays π (r.ensureOpen d) := by
  unfold ensureOpen
  dsimp only
  refine .bind .store fun S => ?_
  split
  · exact .pure
  refine .bind (hπ.storeCall _) fun _ => .bind (.wrapping (hd.openStore _)) fun h => ?_
  refine .bind (hπ.storeCall _) fun _ => .bind (.wrapping (hd.getProps _ _)) fun props => ?_
  split
  · split
    · split
      · refine .bind .pure fun rootId => ?_
        refine .bind (hπ.storeCall _) fun _ => .bind (.wrapping (hd.openFolder _ _)) fun ipm => ?_
        refine .bind (specialFolderProps_stays hd _) fun _ => ?_
        refine .bind (openInbox_stays hd (hπ.storeCall _) _) fun _ => ?_
        exact .bind (hπ.modifyStore _ _ fun _ => rfl) fun _ => .pure
      · exact .throw_bind
    · exact .throw_bind
  · exact .throw_bind

theorem rootId_stays (r : StoreRef) : Stays π (r.rootId d) :=
  .bind (ensureOpen_stays hπ hd r) fun _ => .pure

/-- Collecting the special folders stays in such a view too. -/
theorem specialIds_stays (r : StoreRef) : Stays π (r.specialIds d) := by
  unfold specialIds
  dsimp only
  refine .bind .store fun S => ?_
  split
  · exact .bind .pure fun _ => .pure
  · refine .bind (ensureOpen_stays hπ hd r) fun _ => .bind (hπ.modifyStore _ _ fun _ => rfl) fun _ => ?_
    exact .bind .pure fun _ => .pure

end StoreRef

end Opening

section OpeningFolders

variable {σ β : Type} [EntityHost σ] {π : σ → β} (hπ : ShapeView π) {d : Driver (EntityM σ)}
  (hd : d.Opens π)
include hπ hd

namespace FolderRef

omit hπ hd in
theorem owner_stays (f : FolderRef) : Stays π (f.owner : EntityM σ StoreRef) := by
  unfold owner
  dsimp only
  refine .bind .folder fun F => .bind .store fun S => ?_
  split
  · exact .throw_bind
  · exact .pure

/-- Opening a folder keeps the shape: it only records the folder's handle. -/
theorem ensureOpen_stays (f : FolderRef) : Stays π (f.ensureOpen d) := by
  unfold ensureOpen
  refine .bind (owner_stays f) fun r => .bind .folder fun F => ?_
  split
  · exact .pure
  refine .bind (StoreRef.ensureOpen_stays hπ.openView hd r) fun _ => .bind (.count hπ) fun _ => ?_
  refine .bind (.wrapping (hd.openFolder _ _)) fun _ => ?_
  exact .bind (.modifyFolder hπ fun _ => rfl) fun _ => .pure

theorem contentsTable_stays (f : FolderRef) : Stays π (f.contentsTable d) :=
  .bind (ensureOpen_stays hπ hd f) fun _ => .bind (.count hπ) fun _ =>
    .bind (.wrapping (hd.contentsTable _)) fun _ => .pure

end FolderRef

omit hπ hd in
theorem ItemRef.owner_stays (i : ItemRef) : Stays π (i.owner : EntityM σ StoreRef) := by
  unfold ItemRef.owner
  dsimp only
  refine .bind .item fun I => .bind .store fun S => ?_
  split
  · exact .throw_bind
  · exact .pure

end OpeningFolders

end MailStore
