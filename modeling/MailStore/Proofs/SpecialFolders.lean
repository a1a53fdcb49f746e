import Mathlib
import MailStore.Proofs.Shape
import MailStore.Proofs.WorldFrame

/-!
# Special folders

A store names its special folders by entry id, in properties fetched once, when the store is
opened: the IPM subtree, deleted items, outbox and sent items on the store itself, and the
calendar, contacts, tasks, archive and drafts folders on the inbox and on the IPM subtree; the
inbox is the store's receive folder. `OpenStore.specialId` reads the entry id of each special
folder off those properties with the store's precedence: the store's own, then the inbox, then
the IPM subtree, counting only properties that came back binary.

Collecting the special folders fills a list first found, first kept; the list holds exactly the
entry ids `specialId` names (`StoreRef.lookup_collectSpecial`), and it is kept on the store's
record, so that later calls give it again without asking the store. The way back, from a
folder's entry id to its special folder, searches the special folders in the order their map is
visited in, which is not fixed (`MapOrder`), and gives the first whose entry id it is. It gives
a special folder with that entry id, and none when there is none. Two special folders may share
an entry id (a mailbox marked for two uses, or marked as the IPM subtree itself): the folder is
then given as either, as the order of the visit falls; when no two share one, the answer does
not depend on the order.

## Main statements

* `StoreRef.lookup_collectSpecial`: the collected folders are those the store's properties name.
* `OpenStore.specialOf_eq_some_iff_of_distinct`: when no two special folders share an entry id,
  an entry id names the special folder whose entry id it is, in every order.
* `special_folders_of_opened_store`: the special folders of a store, and the special folder of a
  folder, on the first call and on every later one.
* `shared_entry_id_follows_order`: a store whose IPM subtree is also its deleted items.
-/

namespace MailStore

namespace RawProp

/-- The entry id a fetched entry-id property gives: its payload, when it came back binary. -/
def entryId? (p : RawProp) : Option Bytes :=
  if p.tag.type = PropType.binary then some p.data else none

end RawProp

namespace OpenStore

/-- The entry id the `i`-th of a list of fetched entry-id properties gives. -/
def entryIdAt (props : List RawProp) (i : Nat) : Option Bytes :=
  props[i]?.bind RawProp.entryId?

/-- The entry id of a special folder named on folders: the inbox's property when it gives one,
else the IPM subtree's. -/
def folderEntryId (o : OpenStore) (i : Nat) : Option Bytes :=
  (o.inboxProps.bind fun props => entryIdAt props i).or (entryIdAt o.ipmProps i)

/-- The entry id of each special folder, as the properties fetched on opening the store name
it: the IPM subtree, deleted items, outbox and sent items on the store, the inbox when the
store has one, and the other folders on the inbox before the IPM subtree. -/
def specialId (o : OpenStore) : SpecialFolder → Option Bytes
  | .ipmSubtree => entryIdAt o.storeProps 0
  | .inbox => o.inboxProps.map fun _ => o.inboxId
  | .deleted => entryIdAt o.storeProps 1
  | .outbox => entryIdAt o.storeProps 2
  | .sent => entryIdAt o.storeProps 3
  | .calendar => o.folderEntryId 0
  | .contacts => o.folderEntryId 1
  | .tasks => o.folderEntryId 2
  | .archive => o.folderEntryId 3
  | .drafts => o.folderEntryId 4

/-- The special folders with their entry ids, in numeric order. -/
def specialList (o : OpenStore) : List (SpecialFolder × Bytes) :=
  SpecialFolder.all.filterMap fun k => (o.specialId k).map (k, ·)

/-- The special folder an entry id names: the first whose entry id it is, in the order the
special folders are visited in. -/
def specialOf (order : MapOrder (SpecialFolder × Bytes)) (o : OpenStore) (id : Bytes) :
    Option SpecialFolder :=
  ((order.visit o.specialList).find? fun e => e.2 = id).map Prod.fst

/-- No two special folders share an entry id. -/
def Distinct (o : OpenStore) : Prop :=
  ∀ k k' id, o.specialId k = some id → o.specialId k' = some id → k = k'

end OpenStore

namespace SpecialFolder

theorem mem_all (k : SpecialFolder) : k ∈ all := by
  cases k <;> decide

end SpecialFolder

/-! ### Kinds tagged with what they name -/

section Tagged

variable {α β : Type} (f : α → Option β)

/-- The entry of a kind among the kinds tagged with what they name is what it names. -/
theorem lookup_filterMap_tag [DecidableEq α] (l : List α) (k : α) :
    (l.filterMap fun k => (f k).map (k, ·)).lookup k = if k ∈ l then f k else none := by
  induction l with
  | nil => simp
  | cons a l ih =>
    by_cases hk : k = a
    · subst hk
      cases hf : f k <;> simp [hf, ih]
    · have hne : (k == a) = false := beq_false_of_ne hk
      cases hf : f a <;> simp [hf, hk, ih, List.lookup_cons, hne]

/-- A kind is tagged with what it names, when it names something. -/
theorem mem_filterMap_tag (l : List α) (k : α) (b : β) :
    (k, b) ∈ (l.filterMap fun k => (f k).map (k, ·)) ↔ k ∈ l ∧ f k = some b := by
  simp only [List.mem_filterMap, Option.map_eq_some_iff, Prod.mk.injEq]
  constructor
  · rintro ⟨a, ha, b', hb', rfl, rfl⟩
    exact ⟨ha, hb'⟩
  · rintro ⟨hk, hb⟩
    exact ⟨k, hk, b, hb, rfl, rfl⟩

/-- The tagged kinds keep the order of the kinds. -/
theorem map_fst_filterMap_tag_sublist (l : List α) :
    List.Sublist ((l.filterMap fun k => (f k).map (k, ·)).map Prod.fst) l := by
  induction l with
  | nil => exact .slnil
  | cons a l ih =>
    cases hf : f a with
    | none => simpa [hf] using ih.cons a
    | some c => simpa [hf] using ih.cons_cons a

end Tagged

/-! ### The special folders of an open store -/

namespace OpenStore

variable (o : OpenStore)

/-- Each special folder is listed with the entry id the store names for it. -/
theorem lookup_specialList (k : SpecialFolder) : o.specialList.lookup k = o.specialId k := by
  rw [specialList, lookup_filterMap_tag, if_pos (SpecialFolder.mem_all k)]

/-- Each special folder is listed once. -/
theorem specialList_nodup : (o.specialList.map Prod.fst).Nodup :=
  (map_fst_filterMap_tag_sublist _ _).nodup (by decide)

/-- A special folder is listed with an entry id exactly when the store names it so. -/
theorem mem_specialList (k : SpecialFolder) (id : Bytes) :
    (k, id) ∈ o.specialList ↔ o.specialId k = some id := by
  rw [specialList, mem_filterMap_tag]
  exact and_iff_right (SpecialFolder.mem_all k)

variable {o} {order : MapOrder (SpecialFolder × Bytes)} {id : Bytes} {k : SpecialFolder}

/-- The special folder an entry id names, in any order, has that entry id. -/
theorem specialOf_spec (h : o.specialOf order id = some k) : o.specialId k = some id := by
  obtain ⟨e, he, rfl⟩ := Option.map_eq_some_iff.1 h
  have hid : e.2 = id := by simpa using List.find?_some he
  have hmem : e ∈ o.specialList := (order.perm _).subset (List.mem_of_find?_eq_some he)
  rw [← hid]
  exact (mem_specialList o e.1 e.2).1 hmem

/-- An entry id names no special folder, in any order, exactly when no special folder has it. -/
theorem specialOf_eq_none_iff : o.specialOf order id = none ↔ ∀ k, o.specialId k ≠ some id := by
  simp only [specialOf, Option.map_eq_none_iff, List.find?_eq_none, decide_eq_true_eq,
    (order.perm _).mem_iff]
  constructor
  · intro h k hk
    exact h (k, id) ((mem_specialList o k id).2 hk) rfl
  · rintro h ⟨k', id'⟩ hmem rfl
    exact h k' ((mem_specialList o k' id').1 hmem)

/-- When no two special folders share an entry id, an entry id names exactly the folder it is
the entry id of, whatever the order. -/
theorem specialOf_eq_some_iff_of_distinct (h : o.Distinct) :
    o.specialOf order id = some k ↔ o.specialId k = some id := by
  refine ⟨specialOf_spec, fun hk => ?_⟩
  -- some folder is found, and it can only be `k`
  cases hfound : o.specialOf order id with
  | none => exact absurd hk (specialOf_eq_none_iff.1 hfound k)
  | some k' => rw [h k' k id (specialOf_spec hfound) hk]

end OpenStore

/-! ### Filling the map, first found first kept -/

namespace StoreRef

/-- Filling from a list of kinds and their properties adds, for a kind not yet known, the entry
id of its property. -/
theorem lookup_fillSpecial {kinds : List SpecialFolder} (hk : kinds.Nodup)
    (acc : List (SpecialFolder × Bytes)) (props : List RawProp) (k : SpecialFolder) :
    (fillSpecial acc kinds props).lookup k =
      (acc.lookup k).or
        (if k ∈ kinds then OpenStore.entryIdAt props (kinds.idxOf k) else none) := by
  induction kinds generalizing acc props with
  | nil => simp [fillSpecial]
  | cons k' ks ih =>
    cases props with
    | nil => simp [fillSpecial, OpenStore.entryIdAt]
    | cons p ps =>
      obtain ⟨hk', hks⟩ := List.nodup_cons.1 hk
      have hfill : fillSpecial acc (k' :: ks) (p :: ps) =
          fillSpecial (if p.tag.type = PropType.binary ∧ (acc.lookup k').isNone then
            acc ++ [(k', p.data)] else acc) ks ps := rfl
      rw [hfill, ih hks]
      -- the head kind is the one looked up, kept if binary and not yet known, or another one,
      -- which leaves the lookup as it was
      by_cases hkk : k = k'
      · subst hkk
        by_cases hb : p.tag.type = PropType.binary <;> cases hl : acc.lookup k <;>
          simp [hk', hb, hl, List.lookup_append, OpenStore.entryIdAt, RawProp.entryId?]
      · have hne : (k == k') = false := beq_false_of_ne hkk
        have hne' : (k' == k) = false := beq_false_of_ne (Ne.symm hkk)
        split <;> simp [hkk, List.lookup_append, List.lookup_cons, List.idxOf_cons, hne, hne',
          OpenStore.entryIdAt]

/-- The map collected on opening holds, for each special folder, the entry id the store's
properties name for it. -/
theorem lookup_collectSpecial (o : OpenStore) (k : SpecialFolder) :
    (collectSpecial o).lookup k = o.specialId k := by
  have hs : SpecialFolder.storeKinds.Nodup := by decide
  have hf : SpecialFolder.folderKinds.Nodup := by decide
  simp only [collectSpecial]
  rw [lookup_fillSpecial hf]
  cases hi : o.inboxProps with
  | none =>
    rw [lookup_fillSpecial hs]
    cases k <;> simp [OpenStore.specialId, OpenStore.folderEntryId, hi, SpecialFolder.storeKinds,
      SpecialFolder.folderKinds]
  | some props =>
    have hinbox : [(SpecialFolder.inbox, o.inboxId)].lookup k =
        if k = .inbox then some o.inboxId else none := by
      cases k <;> rfl
    rw [lookup_fillSpecial hf, List.lookup_append, lookup_fillSpecial hs, hinbox]
    cases k <;> simp [OpenStore.specialId, OpenStore.folderEntryId, hi, SpecialFolder.storeKinds,
      SpecialFolder.folderKinds]

end StoreRef

/-! ### Opening a store -/

namespace OpenStore

/-- What opening a store makes sure of: the first store property is the IPM subtree's entry id,
and there is an inbox exactly when the receive folder names one. -/
structure WellFormed (o : OpenStore) : Prop where
  /-- The first store property is the IPM subtree's entry id, which opened the subtree. -/
  ipmSubtree : o.storeProps.head? = some ⟨Tag.ipmSubtree, o.rootId⟩
  /-- The inbox was opened exactly when the receive folder was named. -/
  inbox : o.inboxProps.isSome ↔ o.inboxId ≠ []

variable {o : OpenStore}

/-- The IPM subtree of an opened store is the folder its entry id names. -/
theorem WellFormed.specialId_ipmSubtree (h : o.WellFormed) :
    o.specialId .ipmSubtree = some o.rootId := by
  have hbin : Tag.ipmSubtree.type = PropType.binary := by decide
  rw [specialId, entryIdAt, ← List.head?_eq_getElem?, h.ipmSubtree]
  simp [RawProp.entryId?, hbin]

/-- The inbox of an opened store is the receive folder, when the store names one. -/
theorem WellFormed.specialId_inbox (h : o.WellFormed) :
    o.specialId .inbox = if o.inboxId = [] then none else some o.inboxId := by
  have := h.inbox
  cases hi : o.inboxProps <;> simp_all [specialId]

end OpenStore

/-- A store whose opening was checked, and whose special folders, once collected, are those of
the store it opened. -/
structure StoreState.SpecialCoherent (S : StoreState) : Prop where
  /-- The store, once open, was checked on opening. -/
  opened : ∀ o, S.opened = some o → o.WellFormed
  /-- The special folders, once collected, are those of the store as opened. -/
  special : ∀ found, S.special = some found →
    ∃ o, S.opened = some o ∧ found = StoreRef.collectSpecial o

/-- A folder of a live store is asked of its store, by its entry id. -/
theorem FolderRef.ends_specialFolder {σ : Type} [EntityHost σ] {d : Driver (EntityM σ)} {s : σ}
    {r : StoreRef} {S : StoreState} {f : FolderRef} {F : FolderState}
    (hS : (ent s).storeHeap[r.idx]? = some S) (hF : (ent s).folderHeap[f.idx]? = some F)
    (hr : F.store = r) (hlive : S.released = false) (order : MapOrder (SpecialFolder × Bytes))
    {Q : Option SpecialFolder → σ → Prop} {E : Failure → σ → Prop} :
    Ends (f.specialFolder d order) s Q E ↔ Ends (r.specialFolderOf d order F.id) s Q E := by
  unfold FolderRef.specialFolder FolderRef.owner
  simp only [Ends.bind_iff, Entities.ends_folder, hF, hr, Entities.ends_store, hS, hlive,
    Bool.false_eq_true, ↓reduceIte, Ends.pure_iff]

section Opening

variable {σ : Type} [EntityHost σ] [LawfulEntityHost σ] {d : Driver (EntityM σ)} {r : StoreRef}

/-- Counting leaves every store as it is. -/
theorem Stays.count_storeAt {name : String} :
    Stays (fun s : σ => (ent s).storeHeap[r.idx]?) (Entities.count name) := fun _ s hs => by
  simpa using hs

variable (hd : d.Opens fun s : σ => (ent s).storeHeap[r.idx]?)
include hd

/-- Asking for the inbox leaves the store alone, and gives an inbox exactly when the receive
folder names one. -/
theorem StoreRef.openInbox_ends (h : Nat) {s : σ} {v : Option StoreState}
    (hs : (ent s).storeHeap[r.idx]? = v) :
    Ends (StoreRef.openInbox d h) s
      (fun p s' => (p.2.isSome ↔ p.1 ≠ []) ∧ (ent s').storeHeap[r.idx]? = v)
      fun _ s' => (ent s').storeHeap[r.idx]? = v := by
  unfold StoreRef.openInbox StoreRef.receiveFolder?
  refine Ends.bind_of_keeps
    ((Stays.tryCatch (.bind (hd.receiveFolder _) fun _ => .pure) fun _ => .pure) v) hs
    (fun id s₁ h₁ => ?_) fun _ _ h => h
  rcases id with _ | id
  · exact ⟨by simp, h₁⟩
  · dsimp only
    split
    · exact ⟨by simp, h₁⟩
    · rename_i hid
      refine Ends.bind_of_keeps (Stays.count_storeAt v) h₁ (fun _ s₂ h₂ => ?_) fun _ _ h => h
      refine Ends.bind_of_keeps ((Stays.wrapping (hd.openFolder _ _)) v) h₂ (fun _ s₃ h₃ => ?_)
        fun _ _ h => h
      refine Ends.bind_of_keeps (StoreRef.specialFolderProps_stays hd _ v) h₃
        (fun _ s₄ h₄ => ?_) fun _ _ h => h
      exact ⟨by simpa using hid, h₄⟩

/-- Opening a store gives the store it opened before, or opens it: the driver's answers are
then recorded, checked to name the IPM subtree first. Only opening can fail, and it then leaves
the store as it was. -/
theorem StoreRef.ensureOpen_ends {s : σ} {S : StoreState} (hS : (ent s).storeHeap[r.idx]? = some S)
    (hw : ∀ o, S.opened = some o → o.WellFormed) :
    Ends (r.ensureOpen d) s
      (fun o s' => (S.opened = none ∨ S.opened = some o) ∧ o.WellFormed ∧
        (ent s').storeHeap[r.idx]? = some { S with opened := some o })
      fun _ s' => S.opened = none ∧ (ent s').storeHeap[r.idx]? = some S := by
  unfold StoreRef.ensureOpen
  rw [Ends.bind_iff, Entities.ends_store, hS]
  dsimp only
  cases hopen : S.opened with
  | some o =>
    refine ⟨.inr rfl, hw o hopen, ?_⟩
    rw [hS, ← hopen]
  | none =>
    dsimp only
    refine Ends.bind_of_keeps (Stays.count_storeAt _) hS (fun _ s₁ h₁ => ?_) fun _ _ h => ⟨rfl, h⟩
    refine Ends.bind_of_keeps ((Stays.wrapping (hd.openStore _)) _) h₁ (fun h s₂ h₂ => ?_)
      fun _ _ h => ⟨rfl, h⟩
    refine Ends.bind_of_keeps (Stays.count_storeAt _) h₂ (fun _ s₃ h₃ => ?_) fun _ _ h => ⟨rfl, h⟩
    refine Ends.bind_of_keeps ((Stays.wrapping (hd.getProps _ _)) _) h₃ (fun props s₄ h₄ => ?_)
      fun _ _ h => ⟨rfl, h⟩
    -- the checks on the store's answer: four properties, the first naming the IPM subtree
    split
    · cases hh : props.head? with
      | none =>
        dsimp only
        rw [Ends.bind_iff, Ends.throw_iff]
        exact ⟨rfl, h₄⟩
      | some p =>
        dsimp only
        split
        · rename_i htag
          rw [Ends.bind_iff, Ends.pure_iff]
          refine Ends.bind_of_keeps (Stays.count_storeAt _) h₄ (fun _ s₅ h₅ => ?_)
            fun _ _ h => ⟨rfl, h⟩
          refine Ends.bind_of_keeps ((Stays.wrapping (hd.openFolder _ _)) _) h₅
            (fun ipm s₆ h₆ => ?_) fun _ _ h => ⟨rfl, h⟩
          refine Ends.bind_of_keeps (StoreRef.specialFolderProps_stays hd _ _) h₆
            (fun ipmProps s₇ h₇ => ?_) fun _ _ h => ⟨rfl, h⟩
          rw [Ends.bind_iff]
          refine (StoreRef.openInbox_ends hd h h₇).mono (fun inbox s₈ ⟨hinbox, h₈⟩ => ?_)
            fun _ _ h => ⟨rfl, h⟩
          rw [Ends.bind_iff, Entities.ends_modifyStore, Ends.pure_iff]
          refine ⟨.inl rfl, ⟨?_, hinbox⟩, ?_⟩
          · rw [hh, ← htag]
          · simp [Array.getElem?_modify, h₈]
        · rw [Ends.bind_iff, Ends.throw_iff]
          exact ⟨rfl, h₄⟩
    · rw [Ends.bind_iff, Ends.throw_iff]
      exact ⟨rfl, h₄⟩

/-- The store `r` of the state `s'`, which was `S`, is open as `o`, checked, and its special
folders are collected from `o`; `S` was not open, or open as `o`. -/
def StoreRef.OpenedAs (r : StoreRef) (S : StoreState) (o : OpenStore) (s' : σ) : Prop :=
  (S.opened = none ∨ S.opened = some o) ∧ o.WellFormed ∧
    (ent s').storeHeap[r.idx]? =
      some { S with opened := some o, special := some (StoreRef.collectSpecial o) }

variable {s : σ} {S : StoreState} (hS : (ent s).storeHeap[r.idx]? = some S)
  (hc : S.SpecialCoherent)
include hS hc

/-- Collecting the special folders gives those of the store as opened, and keeps them; only
opening the store can fail. -/
theorem StoreRef.specialIds_ends :
    Ends (r.specialIds d) s (fun ids s' => ∃ o, r.OpenedAs S o s' ∧ ids = o.specialList)
      fun _ _ => S.opened = none := by
  unfold StoreRef.specialIds
  rw [Ends.bind_iff, Entities.ends_store, hS]
  dsimp only
  cases hsp : S.special with
  | some found =>
    obtain ⟨o, ho, rfl⟩ := hc.special _ hsp
    simp only [Ends.bind_iff, Ends.pure_iff]
    refine ⟨o, ⟨.inr ho, hc.opened o ho, ?_⟩, ?_⟩
    · rw [hS, ← ho, ← hsp]
    · simp only [OpenStore.specialList, StoreRef.lookup_collectSpecial]
  | none =>
    dsimp only
    rw [Ends.bind_iff]
    refine (StoreRef.ensureOpen_ends hd hS hc.opened).mono (fun o s₁ hopen => ?_)
      fun _ _ h => h.1
    obtain ⟨hor, hwf, h₁⟩ := hopen
    simp only [Ends.bind_iff, Entities.ends_modifyStore, Ends.pure_iff]
    refine ⟨o, ⟨hor, hwf, by simp [Array.getElem?_modify, h₁]⟩, ?_⟩
    simp only [OpenStore.specialList, StoreRef.lookup_collectSpecial]

variable (order : MapOrder (SpecialFolder × Bytes))

/-- An entry id names, in the store as opened, the special folder `OpenStore.specialOf` gives. -/
theorem StoreRef.specialFolderOf_ends (id : Bytes) :
    Ends (r.specialFolderOf d order id) s
      (fun a s' => ∃ o, r.OpenedAs S o s' ∧ a = o.specialOf order id)
      fun _ _ => S.opened = none := by
  unfold StoreRef.specialFolderOf
  rw [Ends.bind_iff]
  refine (StoreRef.specialIds_ends hd hS hc).mono ?_ fun _ _ h => h
  rintro ids s' ⟨o, hopen, rfl⟩
  exact ⟨o, hopen, rfl⟩

/-- A folder of a live store is the special folder its entry id names. -/
theorem FolderRef.specialFolder_ends {f : FolderRef} {F : FolderState}
    (hF : (ent s).folderHeap[f.idx]? = some F) (hr : F.store = r) (hlive : S.released = false) :
    Ends (f.specialFolder d order) s
      (fun a s' => ∃ o, r.OpenedAs S o s' ∧ a = o.specialOf order F.id)
      fun _ _ => S.opened = none :=
  (FolderRef.ends_specialFolder hS hF hr hlive order).2
    (StoreRef.specialFolderOf_ends hd hS hc order F.id)

end Opening

/-! ### Asking again -/

section Cached

variable {σ : Type} [EntityHost σ] (d : Driver (EntityM σ)) {r : StoreRef} {s : σ}
  {S : StoreState} {o : OpenStore} (hS : (ent s).storeHeap[r.idx]? = some S)
  (hsp : S.special = some (StoreRef.collectSpecial o))
include hS hsp

/-- Once collected, the special folders are given again as they were, and the state is left as
it is. -/
theorem StoreRef.specialIds_cached :
    Ends (r.specialIds d) s (fun ids s' => s' = s ∧ ids = o.specialList) fun _ _ => False := by
  unfold StoreRef.specialIds
  simp only [Ends.bind_iff, Entities.ends_store, hS, hsp, Ends.pure_iff]
  exact ⟨trivial, by simp only [OpenStore.specialList, StoreRef.lookup_collectSpecial]⟩

variable (order : MapOrder (SpecialFolder × Bytes))

theorem StoreRef.specialFolderOf_cached (id : Bytes) :
    Ends (r.specialFolderOf d order id) s (fun a s' => s' = s ∧ a = o.specialOf order id)
      fun _ _ => False := by
  unfold StoreRef.specialFolderOf
  rw [Ends.bind_iff]
  refine (StoreRef.specialIds_cached d hS hsp).mono ?_ fun _ _ h => h
  rintro ids s' ⟨rfl, rfl⟩
  exact ⟨rfl, rfl⟩

/-- Once collected, a folder of the live store gets, in each order, the same special folder on
every call. -/
theorem FolderRef.specialFolder_cached {f : FolderRef} {F : FolderState}
    (hF : (ent s).folderHeap[f.idx]? = some F) (hr : F.store = r) (hlive : S.released = false) :
    Ends (f.specialFolder d order) s (fun a s' => s' = s ∧ a = o.specialOf order F.id)
      fun _ _ => False :=
  (FolderRef.ends_specialFolder hS hF hr hlive order).2
    (StoreRef.specialFolderOf_cached d hS hsp order F.id)

end Cached

/-! ### Special folders are a function of the opened store -/

variable {σ : Type} [EntityHost σ] [LawfulEntityHost σ]

/-- **Special-folder resolution.** Take a store whose record agrees with its opening, and a
driver that leaves the store's record alone. Collecting its special folders fails only while
opening a store not yet open; otherwise the store is open as some `o`, and the special folders
are listed once each, with the entry id `OpenStore.specialId` reads off the properties fetched
on opening: the IPM subtree's own, the receive folder as the inbox when there is one. A folder
of the live store is, in each order of visiting the special folders, the special folder
`o.specialOf` gives for its entry id, and on every later call the same, with nothing changed.
That folder has the folder's entry id, is none when no special folder has it, and is the one
whose entry id it is, whatever the order, when no two special folders share one. -/
theorem special_folders_of_opened_store {d : Driver (EntityM σ)} {r : StoreRef}
    (hd : d.Opens fun s : σ => (ent s).storeHeap[r.idx]?) {s : σ} {S : StoreState}
    (hS : (ent s).storeHeap[r.idx]? = some S) (hc : S.SpecialCoherent) :
    Ends (r.specialIds d) s
      (fun ids s' => ∃ o, r.OpenedAs S o s' ∧ (∀ k, ids.lookup k = o.specialId k) ∧
        (ids.map Prod.fst).Nodup ∧ o.specialId .ipmSubtree = some o.rootId ∧
        o.specialId .inbox = if o.inboxId = [] then none else some o.inboxId)
      (fun _ _ => S.opened = none) ∧
    (∀ (order : MapOrder (SpecialFolder × Bytes)) (f : FolderRef) (F : FolderState),
      (ent s).folderHeap[f.idx]? = some F → F.store = r → S.released = false →
      Ends (f.specialFolder d order) s
        (fun a s' => ∃ o, r.OpenedAs S o s' ∧ a = o.specialOf order F.id ∧
          ∀ (order₁ : MapOrder (SpecialFolder × Bytes)) (s₁ : σ) (S₁ : StoreState)
            (f₁ : FolderRef) (F₁ : FolderState),
            (ent s₁).storeHeap[r.idx]? = some S₁ →
            S₁.special = some (StoreRef.collectSpecial o) → S₁.released = false →
            (ent s₁).folderHeap[f₁.idx]? = some F₁ → F₁.store = r →
            Ends (f₁.specialFolder d order₁) s₁
              (fun a₁ s₂ => s₂ = s₁ ∧ a₁ = o.specialOf order₁ F₁.id) fun _ _ => False)
        (fun _ _ => S.opened = none)) ∧
    (∀ (o : OpenStore) order id k, o.specialOf order id = some k → o.specialId k = some id) ∧
    (∀ (o : OpenStore) order id, o.specialOf order id = none ↔ ∀ k, o.specialId k ≠ some id) ∧
    ∀ (o : OpenStore), o.Distinct →
      ∀ order id k, o.specialOf order id = some k ↔ o.specialId k = some id := by
  refine ⟨?_, fun order f F hF hr hlive => ?_, fun _ _ _ _ => OpenStore.specialOf_spec,
    fun _ _ _ => OpenStore.specialOf_eq_none_iff,
    fun _ h _ _ _ => OpenStore.specialOf_eq_some_iff_of_distinct h⟩
  · refine (StoreRef.specialIds_ends hd hS hc).mono ?_ fun _ _ h => h
    rintro ids s' ⟨o, hopen, rfl⟩
    exact ⟨o, hopen, o.lookup_specialList, o.specialList_nodup,
      hopen.2.1.specialId_ipmSubtree, hopen.2.1.specialId_inbox⟩
  · refine (FolderRef.specialFolder_ends hd hS hc order hF hr hlive).mono ?_ fun _ _ h => h
    rintro a s' ⟨o, hopen, rfl⟩
    exact ⟨o, hopen, rfl, fun order₁ s₁ S₁ f₁ F₁ hS₁ hsp₁ hlive₁ hF₁ hr₁ =>
      FolderRef.specialFolder_cached d hS₁ hsp₁ order₁ hF₁ hr₁ hlive₁⟩

/-- An open store that names its IPM subtree, entry id `52`, as its deleted items too. -/
def sharedRoot : OpenStore :=
  ⟨0, [0x52], 0, [⟨Tag.ipmSubtree, [0x52]⟩, ⟨Tag.ipmWastebasket, [0x52]⟩], [], [], none⟩

/-- The record of that store, open, its special folders not yet collected. -/
def sharedRootStore : StoreState :=
  ⟨[0x53], ⟨[0x53]⟩, [], NameCache.empty, some sharedRoot, none, Collection.empty, [], [], false⟩

/-- A session holding that store and its IPM subtree folder. -/
def sharedRootBench : Console.EntityBench :=
  ⟨⟨#[], [], 0, #[], [], []⟩, Console.Rig.empty,
    ⟨Collection.empty, [], false, #[sharedRootStore],
      #[⟨⟨0⟩, [0x52], [], [], none, Collection.empty, Collection.empty, Collection.empty⟩],
      #[], #[], []⟩,
    [], [], []⟩

/-- Visiting the entries of a map last stored first. -/
def MapOrder.reversed {α : Type} : MapOrder α := ⟨List.reverse, List.reverse_perm⟩

/-- Two special folders can share an entry id, and the folder is then given as either, as the
visit falls: the IPM subtree of `sharedRoot` is also its deleted items, and the folder is given
as the IPM subtree when the special folders are visited in the order they were collected, and
as deleted items the other way round. -/
theorem shared_entry_id_follows_order :
    sharedRootStore.SpecialCoherent ∧ sharedRoot.specialId .deleted = some [0x52] ∧
      Ends (FolderRef.specialFolder Console.EntityBench.driver .stored ⟨0⟩) sharedRootBench
        (fun a _ => a = some .ipmSubtree) (fun _ _ => False) ∧
      Ends (FolderRef.specialFolder Console.EntityBench.driver .reversed ⟨0⟩) sharedRootBench
        (fun a _ => a = some .deleted) fun _ _ => False := by
  have hc : sharedRootStore.SpecialCoherent :=
    ⟨fun o ho => by cases ho; exact ⟨rfl, by decide⟩, fun _ h => by cases h⟩
  have hd : Console.EntityBench.driver.Opens fun s : Console.EntityBench => (ent s).storeHeap[0]? :=
    (Console.WorldDriver.driver_stays (fun _ _ => rfl) fun _ _ => rfl).toOpens
  -- in each order, the folder is what `sharedRoot.specialOf` gives for its entry id
  have hfolder : ∀ order : MapOrder (SpecialFolder × Bytes),
      Ends (FolderRef.specialFolder Console.EntityBench.driver order ⟨0⟩) sharedRootBench
        (fun a _ => a = sharedRoot.specialOf order [0x52]) fun _ _ => False := by
    intro order
    refine ((special_folders_of_opened_store (r := ⟨0⟩) hd (s := sharedRootBench) rfl hc).2.1
      order ⟨0⟩ _ rfl rfl rfl).mono ?_ fun _ _ h => by cases h
    rintro a - ⟨o, ⟨hor, -, -⟩, ha, -⟩
    obtain ho | ho := hor <;> cases ho
    exact ha
  refine ⟨hc, by decide, ?_, ?_⟩
  · exact (hfolder .stored).mono (fun _ _ h => h.trans (by decide)) fun _ _ h => h
  · exact (hfolder .reversed).mono (fun _ _ h => h.trans (by decide)) fun _ _ h => h

end MailStore
