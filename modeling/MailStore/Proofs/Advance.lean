import Mathlib
import MailStore.Proofs.Identity

/-!
# Operations that advance a coherent session

An operation advances the session when, started in a coherent session, it ends in a coherent
one whose maps hold all they held and whose folders and items keep their store and id,
whether it returns or fails (`SessionShape.Advance`). `Advances Pre x Post` adds a
precondition and what holds of the answer: a triple whose frame, coherence and the growth of
the maps, is built in. The rules for a program (`Advances.bind`, `Advances.mapM`) carry the
frame along, and an operation that keeps the shape advances the session and keeps every
property of it (`Advances.of_stays`).

A collection lives in a `Slot`. `Slot.Fitted sl Fits` says how its collection must fit a
session for the session to stay coherent, and that reading the slot gives a collection that
fits and replacing it by one that fits advances the session. From these laws alone,
subscribing a collection and loading it advance the session, and a load answers what the
reader found or what the loaded collection holds (`Slot.Fitted.load`).

## Main statements

* `Advances.bind`, `Advances.frame`, `Advances.mapM`: the rules of the triple.
* `Slot.Fitted.watch`, `Slot.Fitted.load`: subscribing and loading a collection advance the
  session.
* `Entities.storesSlot_fitted`, `StoreRef.rootSlot_fitted`, `FolderRef.subSlot_fitted`,
  `FolderRef.itemSlot_fitted`, `FolderRef.conversationSlot_fitted`: every collection of the
  library lives in a fitted slot.
-/

namespace MailStore

/-! ### The shape after a change of the heaps -/

theorem StoreRef.idx_ne {r r' : StoreRef} (h : r' ≠ r) : r.idx ≠ r'.idx := fun he =>
  h (by cases r; cases r'; simp_all)

theorem FolderRef.idx_ne {f g : FolderRef} (h : g ≠ f) : f.idx ≠ g.idx := fun he =>
  h (by cases f; cases g; simp_all)

theorem ItemRef.idx_ne {i j : ItemRef} (h : j ≠ i) : i.idx ≠ j.idx := fun he =>
  h (by cases i; cases j; simp_all)

namespace Entities

variable (e : Entities)

/-- Entities whose stores differ from those of `e` only at `r`, which is `S`, and that agree
with `e` on everything else the shape reads, have the shape of `e` with `r` replaced. -/
theorem shape_of_store {e' : Entities} {r : StoreRef} {S : StoreState}
    (hlist : e'.storeList = e.storeList) (hmap : e'.storeById = e.storeById)
    (hr : e'.storeHeap[r.idx]? = some S)
    (hother : ∀ r', r' ≠ r → e'.storeHeap[r'.idx]? = e.storeHeap[r'.idx]?)
    (hfolders : e'.folderHeap = e.folderHeap) (hitems : e'.itemHeap = e.itemHeap) :
    e'.shape = e.shape.setStore r S.shape := by
  ext1
  · exact hlist
  · exact hmap
  · funext r'
    by_cases h : r' = r
    · subst h
      simp [hr]
    · simp [h, hother r' h]
  · funext f
    simp [hfolders]
  · funext i
    simp [hitems]

/-- Changing a store of the heap replaces it in the shape. -/
theorem shape_modifyStore_of {r : StoreRef} {S : StoreState} (hS : e.storeHeap[r.idx]? = some S)
    (g : StoreState → StoreState) :
    { e with storeHeap := e.storeHeap.modify r.idx g }.shape = e.shape.setStore r (g S).shape :=
  e.shape_of_store rfl rfl (by simp [Array.getElem?_modify, hS])
    (fun r' h => by simp [Array.getElem?_modify, StoreRef.idx_ne h]) rfl rfl

/-- Changing a store that is not there changes nothing. -/
theorem shape_modifyStore_none {r : StoreRef} (hS : e.storeHeap[r.idx]? = none)
    (g : StoreState → StoreState) :
    { e with storeHeap := e.storeHeap.modify r.idx g }.shape = e.shape := by
  ext1
  · rfl
  · rfl
  · funext r'
    by_cases hr : r' = r
    · subst hr
      simp [Array.getElem?_modify, hS]
    · simp [Array.getElem?_modify, StoreRef.idx_ne hr]
  · rfl
  · rfl

/-- Changing a folder of the heap replaces it in the shape. -/
theorem shape_modifyFolder_of {f : FolderRef} {F : FolderState} (hF : e.folderHeap[f.idx]? = some F)
    (g : FolderState → FolderState) :
    { e with folderHeap := e.folderHeap.modify f.idx g }.shape = e.shape.setFolder f (g F).shape := by
  ext1
  · rfl
  · rfl
  · rfl
  · funext f'
    by_cases hf : f' = f
    · subst hf
      simp [Array.getElem?_modify, hF]
    · simp [Array.getElem?_modify, hf, FolderRef.idx_ne hf]
  · rfl

/-- Changing a folder that is not there changes nothing. -/
theorem shape_modifyFolder_none {f : FolderRef} (hF : e.folderHeap[f.idx]? = none)
    (g : FolderState → FolderState) :
    { e with folderHeap := e.folderHeap.modify f.idx g }.shape = e.shape := by
  ext1
  · rfl
  · rfl
  · rfl
  · funext f'
    by_cases hf : f' = f
    · subst hf
      simp [Array.getElem?_modify, hF]
    · simp [Array.getElem?_modify, FolderRef.idx_ne hf]
  · rfl

/-- Making a folder and adding it to its store's map. -/
theorem shape_addFolder {r : StoreRef} {S : StoreState} (hS : e.storeHeap[r.idx]? = some S)
    (F : FolderState) (k : Bytes) :
    { e with storeHeap := e.storeHeap.modify r.idx fun S =>
                { S with folders := S.folders ++ [(k, FolderRef.mk e.folderHeap.size)] },
             folderHeap := e.folderHeap.push F }.shape =
      (e.shape.setFolder ⟨e.folderHeap.size⟩ F.shape).setStore r
        { S.shape with folders := S.folders ++ [(k, ⟨e.folderHeap.size⟩)] } := by
  ext1
  · rfl
  · rfl
  · funext r'
    by_cases hr : r' = r
    · subst hr
      simp [Array.getElem?_modify, hS, StoreState.shape]
    · simp [Array.getElem?_modify, hr, StoreRef.idx_ne hr]
  · funext g
    by_cases hg : g = ⟨e.folderHeap.size⟩
    · subst hg
      simp
    · have hidx : g.idx ≠ e.folderHeap.size := fun h => hg (by cases g; simp_all)
      simp [Array.getElem?_push, hg, hidx]
  · rfl

/-- Making an item and adding it to its store's map. -/
theorem shape_addItem {r : StoreRef} {S : StoreState} (hS : e.storeHeap[r.idx]? = some S)
    (I : ItemState) (k : Bytes) :
    { e with storeHeap := e.storeHeap.modify r.idx fun S =>
                { S with items := S.items ++ [(k, ItemRef.mk e.itemHeap.size)] },
             itemHeap := e.itemHeap.push I }.shape =
      (e.shape.setItem ⟨e.itemHeap.size⟩ I.shape).setStore r
        { S.shape with items := S.items ++ [(k, ⟨e.itemHeap.size⟩)] } := by
  ext1
  · rfl
  · rfl
  · funext r'
    by_cases hr : r' = r
    · subst hr
      simp [Array.getElem?_modify, hS, StoreState.shape]
    · simp [Array.getElem?_modify, hr, StoreRef.idx_ne hr]
  · rfl
  · funext j
    by_cases hj : j = ⟨e.itemHeap.size⟩
    · subst hj
      simp
    · have hidx : j.idx ≠ e.itemHeap.size := fun h => hj (by cases j; simp_all)
      simp [Array.getElem?_push, hj, hidx]

/-- Making a store and adding it to the session's map. -/
theorem shape_addStore (S : StoreState) (k : Bytes) :
    { e with storeHeap := e.storeHeap.push S,
             storeById := e.storeById ++ [(k, StoreRef.mk e.storeHeap.size)] }.shape =
      { e.shape.setStore ⟨e.storeHeap.size⟩ S.shape with
        storeById := e.storeById ++ [(k, ⟨e.storeHeap.size⟩)] } := by
  ext1
  · rfl
  · rfl
  · funext r
    by_cases hr : r = ⟨e.storeHeap.size⟩
    · subst hr
      simp
    · have hidx : r.idx ≠ e.storeHeap.size := fun h => hr (by cases r; simp_all)
      simp [Array.getElem?_push, hr, hidx]
  · rfl
  · rfl

end Entities

/-! ### Steps that advance a session -/

namespace SessionShape

variable {sh sh' : SessionShape}

/-- `sh'` is coherent and keeps the maps, the folders and the items of `sh`. -/
def Advance (sh sh' : SessionShape) : Prop := sh'.Coherent ∧ sh.Grows sh'

theorem Advance.refl (hc : sh.Coherent) : sh.Advance sh := ⟨hc, .refl sh⟩

theorem Advance.trans {sh₁ sh₂ sh₃ : SessionShape} (h₁ : sh₁.Advance sh₂) (h₂ : sh₂.Advance sh₃) :
    sh₁.Advance sh₃ :=
  ⟨h₂.1, h₁.2.trans h₂.2⟩

/-- A property of sessions that the growth of the maps keeps. -/
def Stable (P : SessionShape → Prop) : Prop := ∀ sh sh', sh.Grows sh' → P sh → P sh'

theorem stable_true : Stable fun _ => True := fun _ _ _ h => h

theorem Stable.and {P Q : SessionShape → Prop} (hP : Stable P) (hQ : Stable Q) :
    Stable fun sh => P sh ∧ Q sh :=
  fun sh sh' hg h => ⟨hP sh sh' hg h.1, hQ sh sh' hg h.2⟩

/-- A store whose maps only grow keeps the session's maps. -/
theorem grows_setStore {r S S'} (hS : sh.store r = some S) (hf : ∀ p ∈ S.folders, p ∈ S'.folders)
    (hi : ∀ p ∈ S.items, p ∈ S'.items) : sh.Grows (sh.setStore r S') := by
  refine ⟨fun p hp => hp, fun r' S₁ hS₁ => ?_, fun f F hF => ⟨F, hF, rfl, rfl⟩,
    fun i I hI => ⟨I, hI, rfl, rfl⟩⟩
  by_cases hr : r' = r
  · subst hr
    obtain rfl : S = S₁ := Option.some.inj (hS.symm.trans hS₁)
    exact ⟨S', by simp, hf, hi⟩
  · exact ⟨S₁, by simp [hr, hS₁], fun _ h => h, fun _ h => h⟩

/-- A folder replaced by one of the same store and id keeps the session's maps. -/
theorem grows_setFolder {f F F'} (hF : sh.folder f = some F) (hstore : F'.store = F.store)
    (hid : F'.id = F.id) : sh.Grows (sh.setFolder f F') := by
  refine ⟨fun _ h => h, fun _ S h => ⟨S, h, fun _ h => h, fun _ h => h⟩, fun g G hG => ?_,
    fun i I hI => ⟨I, hI, rfl, rfl⟩⟩
  by_cases hg : g = f
  · subst hg
    obtain rfl : F = G := Option.some.inj (hF.symm.trans hG)
    exact ⟨F', by simp, hstore, hid⟩
  · exact ⟨G, by simp [hg, hG], rfl, rfl⟩

/-- A new folder keeps the session's maps. -/
theorem grows_newFolder {f F} (hf : sh.folder f = none) : sh.Grows (sh.setFolder f F) := by
  refine ⟨fun _ h => h, fun _ S h => ⟨S, h, fun _ h => h, fun _ h => h⟩, fun g G hG => ?_,
    fun i I hI => ⟨I, hI, rfl, rfl⟩⟩
  have hg : g ≠ f := by
    rintro rfl
    simp [hf] at hG
  exact ⟨G, by simp [hg, hG], rfl, rfl⟩

/-- A new item keeps the session's maps. -/
theorem grows_newItem {i I} (hi : sh.item i = none) : sh.Grows (sh.setItem i I) := by
  refine ⟨fun _ h => h, fun _ S h => ⟨S, h, fun _ h => h, fun _ h => h⟩,
    fun f F hF => ⟨F, hF, rfl, rfl⟩, fun j J hJ => ?_⟩
  have hj : j ≠ i := by
    rintro rfl
    simp [hi] at hJ
  exact ⟨J, by simp [hj, hJ], rfl, rfl⟩

/-- A new store added to the session's map keeps the session's maps. -/
theorem grows_newStore {r S} (hr : sh.store r = none) (p : Bytes × StoreRef) :
    sh.Grows { sh.setStore r S with storeById := sh.storeById ++ [p] } := by
  refine ⟨fun _ h => List.mem_append_left _ h, fun r' S' hS' => ?_, fun f F hF => ⟨F, hF, rfl, rfl⟩,
    fun i I hI => ⟨I, hI, rfl, rfl⟩⟩
  have hr' : r' ≠ r := by
    rintro rfl
    simp [hr] at hS'
  exact ⟨S', by simp [hr', hS'], fun _ h => h, fun _ h => h⟩

/-- **Making a folder** for an id its store's map lacks advances the session. -/
theorem Coherent.advance_cacheFolder {r S k f} (hc : sh.Coherent) (hS : sh.store r = some S)
    (hk : k ∉ S.folders.map Prod.fst) (hf : sh.folder f = none) :
    sh.Advance ((sh.setFolder f ⟨r, k, .empty, .empty, .empty⟩).setStore r
      { S with folders := S.folders ++ [(k, f)] }) :=
  ⟨hc.cacheFolder hS hk hf, (grows_newFolder hf).trans
    (grows_setStore (by simpa using hS) (fun _ hp => List.mem_append_left _ hp) fun _ h => h)⟩

/-- **Making an item** for an id its store's map lacks advances the session. -/
theorem Coherent.advance_cacheItem {r S k i} (hc : sh.Coherent) (hS : sh.store r = some S)
    (hk : k ∉ S.items.map Prod.fst) (hi : sh.item i = none) :
    sh.Advance ((sh.setItem i ⟨r, k⟩).setStore r { S with items := S.items ++ [(k, i)] }) :=
  ⟨hc.cacheItem hS hk hi, (grows_newItem hi).trans
    (@grows_setStore _ r S { S with items := S.items ++ [(k, i)] } (by simpa using hS) (fun _ h => h)
      fun _ hp => List.mem_append_left _ hp)⟩

/-- A new list of stores keeps the session's maps. -/
theorem grows_storeList (c : Collection StoreRef) : sh.Grows { sh with storeList := c } :=
  ⟨fun _ h => h, fun _ S h => ⟨S, h, fun _ h => h, fun _ h => h⟩, fun _ F h => ⟨F, h, rfl, rfl⟩,
    fun _ I h => ⟨I, h, rfl, rfl⟩⟩

end SessionShape

open SessionShape

/-! ### The triple -/

section Triple

variable {σ α β γ : Type} [EntityHost σ]

/-- **Advancing the session.** From a coherent session where `Pre` holds, `x` ends in one
that advances it, and where `Post a` holds when `x` returns `a`. -/
def Advances (Pre : SessionShape → Prop) (x : EntityM σ α) (Post : α → SessionShape → Prop) :
    Prop :=
  ∀ s, (ent s).shape.Coherent → Pre (ent s).shape →
    Ends x s (fun a s' => (ent s).shape.Advance (ent s').shape ∧ Post a (ent s').shape)
      fun _ s' => (ent s).shape.Advance (ent s').shape

namespace Advances

variable {Pre Pre' : SessionShape → Prop} {Post Post' : α → SessionShape → Prop}

theorem pure {a : α} (h : ∀ sh, sh.Coherent → Pre sh → Post a sh) :
    Advances Pre (Pure.pure a : EntityM σ α) Post :=
  fun _ hc hp => ⟨.refl hc, h _ hc hp⟩

theorem throw {f : Failure} : Advances Pre (MonadExcept.throw f : EntityM σ α) Post :=
  fun _ hc _ => .refl hc

/-- What follows a failure never runs. -/
theorem throw_bind {f : Failure} {k : β → EntityM σ α} :
    Advances Pre (MonadExcept.throw f >>= k) Post :=
  fun _ hc _ => .refl hc

/-- A stronger precondition and a weaker postcondition; the precondition may use coherence. -/
theorem mono {x : EntityM σ α} (h : Advances Pre x Post) (hpre : ∀ sh, sh.Coherent → Pre' sh → Pre sh)
    (hpost : ∀ a sh, Post a sh → Post' a sh) : Advances Pre' x Post' := by
  intro s hc hp
  exact (h s hc (hpre _ hc hp)).mono (fun a _ h => ⟨h.1, hpost a _ h.2⟩) fun _ _ h => h

theorem bind {x : EntityM σ β} {f : β → EntityM σ α} {Mid : β → SessionShape → Prop}
    (hx : Advances Pre x Mid) (hf : ∀ b, Advances (Mid b) (f b) Post) :
    Advances Pre (x >>= f) Post := by
  intro s hc hp
  rw [Ends.bind_iff]
  refine (hx s hc hp).mono (fun b s₁ h₁ => ?_) fun _ _ h => h
  exact (hf b s₁ h₁.1.1 h₁.2).mono (fun _ _ h₂ => ⟨h₁.1.trans h₂.1, h₂.2⟩) fun _ _ h₂ =>
    h₁.1.trans h₂

theorem map {x : EntityM σ β} {f : β → α} (hx : Advances Pre x fun b => Post (f b)) :
    Advances Pre (f <$> x) Post := by
  intro s hc hp
  rw [Ends.map_iff]
  exact hx s hc hp

theorem discard {x : EntityM σ β} {Q : SessionShape → Prop} (hx : Advances Pre x fun _ => Q) :
    Advances Pre (Functor.discard x) fun _ => Q :=
  map hx

theorem ofExcept {r : Except Failure α} (h : ∀ a, r = .ok a → ∀ sh, sh.Coherent → Pre sh → Post a sh) :
    Advances Pre (MonadExcept.ofExcept r : EntityM σ α) Post := by
  intro s hc hp
  rw [Ends.ofExcept_iff]
  cases r with
  | error f => exact .refl hc
  | ok a => exact ⟨.refl hc, h a rfl _ hc hp⟩

/-- A handled operation advances the session when the operation and the handler do; the
handler starts where the operation failed, where a stable precondition still holds. -/
theorem tryCatch {x : EntityM σ α} {k : Failure → EntityM σ α} (hP : Stable Pre)
    (hx : Advances Pre x Post) (hk : ∀ f, Advances Pre (k f) Post) :
    Advances Pre (MonadExcept.tryCatch x k) Post := by
  intro s hc hp
  rw [Ends.tryCatch_iff]
  refine (hx s hc hp).mono (fun _ _ h => h) fun f s₁ h₁ => ?_
  exact (hk f s₁ h₁.1 (hP _ _ h₁.2 hp)).mono (fun _ _ h₂ => ⟨h₁.trans h₂.1, h₂.2⟩) fun _ _ h₂ =>
    h₁.trans h₂

/-- **Frame.** What holds of the session and is kept as the maps grow holds after any step
that advances it. -/
theorem frame {x : EntityM σ α} {P : SessionShape → Prop} (h : Advances Pre x Post)
    (hP : Stable P) : Advances (fun sh => Pre sh ∧ P sh) x fun a sh => Post a sh ∧ P sh := by
  rintro s hc ⟨hp, hP'⟩
  exact (h s hc hp).mono (fun _ _ h => ⟨h.1, h.2, hP _ _ h.1.2 hP'⟩) fun _ _ h => h

/-- An operation that keeps the shape advances the session and keeps every property of it. -/
theorem of_stays {x : EntityM σ α} (h : Stays (fun s : σ => (ent s).shape) x) :
    Advances Pre x fun _ => Pre := by
  intro s hc hp
  refine (h (ent s).shape s rfl).mono ?_ ?_
  · intro _ s' (hs' : (ent s').shape = (ent s).shape)
    rw [hs']
    exact ⟨.refl hc, hp⟩
  · intro _ s' (hs' : (ent s').shape = (ent s).shape)
    rw [hs']
    exact .refl hc

/-- **Lists.** Calls on the members of a list that each advance the session and keep `Pre`
answer, together, what each answers. -/
theorem mapM {f : β → EntityM σ γ} (R : γ → SessionShape → Prop) (hR : ∀ c, Stable (R c))
    (l : List β) (h : ∀ b ∈ l, Advances Pre (f b) fun c sh => Pre sh ∧ R c sh) :
    Advances Pre (l.mapM f) fun cs sh => Pre sh ∧ ∀ c ∈ cs, R c sh := by
  induction l with
  | nil => exact pure fun _ _ hp => ⟨hp, by simp⟩
  | cons b l ih =>
    rw [List.mapM_cons]
    refine bind (h b List.mem_cons_self) fun c => ?_
    -- the first answer is kept while the rest of the list runs
    refine bind ((ih fun b hb => h b (List.mem_cons_of_mem _ hb)).frame (hR c)) fun cs => ?_
    refine pure fun sh _ ⟨⟨hp, hcs⟩, hc⟩ => ⟨hp, ?_⟩
    simp only [List.mem_cons, forall_eq_or_imp]
    exact ⟨hc, hcs⟩

/-- **Loops.** A loop over a list keeps `Pre` and an invariant of its state when every turn of
its body does. -/
theorem forIn {l : List β} {init : γ} {f : β → γ → EntityM σ (ForInStep γ)}
    (Inv : γ → SessionShape → Prop)
    (h : ∀ c ∈ l, ∀ b, Advances (fun sh => Pre sh ∧ Inv b sh) (f c b) fun r sh =>
      Pre sh ∧ Inv r.value sh) :
    Advances (fun sh => Pre sh ∧ Inv init sh) (forIn l init f) fun b sh => Pre sh ∧ Inv b sh := by
  induction l generalizing init with
  | nil =>
    rw [List.forIn_nil]
    exact pure fun _ _ hp => hp
  | cons c l ih =>
    rw [List.forIn_cons]
    refine bind (h c List.mem_cons_self init) fun r => ?_
    cases r with
    | done b => exact pure fun _ _ hp => hp
    | yield b => exact ih fun c hc => h c (List.mem_cons_of_mem _ hc)

theorem store {r : StoreRef} :
    Advances Pre (Entities.store r : EntityM σ StoreState) fun S sh =>
      Pre sh ∧ sh.store r = some S.shape := by
  intro s hc hp
  simp only [Entities.ends_store]
  split
  · rename_i S hS
    exact ⟨.refl hc, hp, by simp [hS]⟩
  · exact .refl hc

theorem folder {f : FolderRef} :
    Advances Pre (Entities.folder f : EntityM σ FolderState) fun F sh =>
      Pre sh ∧ sh.folder f = some F.shape := by
  intro s hc hp
  simp only [Entities.ends_folder]
  split
  · rename_i F hF
    exact ⟨.refl hc, hp, by simp [hF]⟩
  · exact .refl hc

theorem item {i : ItemRef} :
    Advances Pre (Entities.item i : EntityM σ ItemState) fun I sh =>
      Pre sh ∧ sh.item i = some I.shape := by
  intro s hc hp
  simp only [Entities.ends_item]
  split
  · rename_i I hI
    exact ⟨.refl hc, hp, by simp [hI]⟩
  · exact .refl hc

variable [LawfulEntityHost σ]

theorem count {name : String} : Advances Pre (Entities.count name : EntityM σ Unit) fun _ => Pre :=
  of_stays (.count shapeView_shape)

/-- Changing a store advances the session when putting the changed store in place does. -/
theorem modifyStore {r : StoreRef} {g : StoreState → StoreState} {Post : Unit → SessionShape → Prop}
    (h : ∀ sh S, sh.Coherent → Pre sh → sh.store r = some S.shape →
      sh.Advance (sh.setStore r (g S).shape) ∧ Post () (sh.setStore r (g S).shape))
    (hnone : ∀ sh, Pre sh → Post () sh) :
    Advances Pre (Entities.modifyStore r g : EntityM σ Unit) Post := by
  intro s hc hp
  simp only [Entities.ends_modifyStore, LawfulEntityHost.entities_setEntities]
  cases hS : (ent s).storeHeap[r.idx]? with
  | some S =>
    rw [Entities.shape_modifyStore_of _ hS]
    exact h _ S hc hp (by simp [hS])
  | none =>
    rw [Entities.shape_modifyStore_none _ hS]
    exact ⟨.refl hc, hnone _ hp⟩

/-- Changing a folder's collections advances the session when the new ones are held by the
maps that hold the folder. -/
theorem modifyFolder {f : FolderRef} {g : FolderState → FolderState}
    (hstore : ∀ F, (g F).store = F.store) (hid : ∀ F, (g F).id = F.id)
    (hheld : ∀ sh F, sh.Coherent → Pre sh → sh.folder f = some F.shape →
      ∀ r S k, sh.store r = some S → (k, f) ∈ S.folders →
        (∀ p ∈ (g F).subFolders.entries, p ∈ S.folders) ∧ ∀ p ∈ (g F).items.entries, p ∈ S.items) :
    Advances Pre (Entities.modifyFolder f g : EntityM σ Unit) fun _ _ => True := by
  intro s hc hp
  simp only [Entities.ends_modifyFolder, LawfulEntityHost.entities_setEntities]
  cases hF : (ent s).folderHeap[f.idx]? with
  | some F =>
    rw [Entities.shape_modifyFolder_of _ hF]
    have hF' : (ent s).shape.folder f = some F.shape := by simp [hF]
    exact ⟨⟨hc.setFolder hF' (hstore F) (hid F) (hheld _ F hc hp hF'),
      grows_setFolder hF' (hstore F) (hid F)⟩, trivial⟩
  | none =>
    rw [Entities.shape_modifyFolder_none _ hF]
    exact ⟨.refl hc, trivial⟩

end Advances

end Triple

/-! ### Members of a collection -/

namespace Collection

variable {α : Type} {c : Collection α}

/-- What a lookup finds is an entry under the key looked up. -/
theorem mem_entries_of_lookup {k : Bytes} {a : α} (h : c.lookup k = some a) :
    (k, a) ∈ c.entries := by
  unfold lookup at h
  split at h
  · obtain ⟨p, hp, rfl⟩ := Option.map_eq_some_iff.1 h
    have hk : p.1 = k := by simpa using List.find?_some hp
    have hmem : p ∈ c.entries := List.mem_reverse.1 (List.mem_of_find?_eq_some hp)
    rw [← hk]
    exact hmem
  · cases h

/-- A pick finds every key it is given, in order. -/
theorem lookup_of_pick {kind : String} {ids : List Bytes} {as : List α}
    (h : c.pick kind ids = .ok as) : List.Forall₂ (fun k a => c.lookup k = some a) ids as := by
  induction ids generalizing as with
  | nil =>
    simp only [pick, Except.ok.injEq] at h
    subst h
    exact .nil
  | cons k ids ih =>
    simp only [pick] at h
    split at h
    · rename_i a bs hl hr
      simp only [Except.ok.injEq] at h
      subst h
      exact .cons hl (ih hr)
    · cases h
    · cases h

/-- What a pick finds are entries of the collection. -/
theorem mem_entries_of_pick {kind : String} {ids : List Bytes} {as : List α}
    (h : c.pick kind ids = .ok as) : ∀ a ∈ as, ∃ k, (k, a) ∈ c.entries := by
  intro a ha
  obtain ⟨k, hk⟩ : ∃ k, c.lookup k = some a := by
    have hf := lookup_of_pick h
    clear h
    induction hf with
    | nil => simp at ha
    | cons hk _ ih =>
      rcases List.mem_cons.1 ha with rfl | ha
      · exact ⟨_, hk⟩
      · exact ih ha
  exact ⟨k, mem_entries_of_lookup hk⟩

end Collection

/-! ### Collections in fitted slots -/

section Slots

variable {σ α : Type} [EntityHost σ]

/-- How the collection of a slot fits a coherent session: the slot gives a collection that
fits, a collection that fits put in its place advances the session, whether a collection fits
depends on its entries and whether it is loaded only, and where one fits, one without entries
fits too. -/
structure Slot.Fitted (sl : Slot σ α) (Fits : Collection α → SessionShape → Prop) : Prop where
  /-- Reading the slot. -/
  get : ∀ Pre : SessionShape → Prop, Advances Pre sl.get fun c sh => Pre sh ∧ Fits c sh
  /-- Replacing the collection. -/
  set : ∀ c, Advances (Fits c) (sl.set c) fun _ _ => True
  /-- Only the entries and whether it is loaded decide. -/
  congr : ∀ c c' sh, c'.loaded = c.loaded → c'.entries = c.entries → Fits c sh → Fits c' sh
  /-- Where a collection fits, one without entries fits. -/
  shrink : ∀ c c' sh, Fits c sh → c'.entries = [] → Fits c' sh

namespace Slot.Fitted

variable {sl : Slot σ α} {Fits : Collection α → SessionShape → Prop} (h : sl.Fitted Fits)
  {Pre : SessionShape → Prop} (hP : Stable Pre)
include h hP

/-- Replacing the collection by one that fits keeps every stable property. -/
theorem set_frame (c : Collection α) :
    Advances (fun sh => Pre sh ∧ Fits c sh) (sl.set c) fun _ => Pre :=
  ((h.set c).frame hP).mono (fun _ _ hp => ⟨hp.2, hp.1⟩) fun _ _ hp => hp.2

/-- Changing the collection into one that fits advances the session. -/
theorem modify {g : Collection α → Collection α}
    (hg : ∀ c sh, sh.Coherent → Pre sh → Fits c sh → Fits (g c) sh) :
    Advances Pre (sl.modify g) fun _ => Pre := by
  unfold Slot.modify
  refine .bind (h.get Pre) fun c => ?_
  exact (h.set_frame hP (g c)).mono (fun sh hc hp => ⟨hp.1, hg c sh hc hp.1 hp.2⟩) fun _ _ hp => hp

variable {d : Driver (EntityM σ)} (hd : d.Stays fun s : σ => (ent s).shape)
include hd

/-- **Subscribing** a collection advances the session: the subscription changes no entry. -/
theorem watch (kind : CollectionKind) (l : Listener) (t : Nat) :
    Advances Pre (sl.watch d kind l t) fun _ => Pre := by
  unfold Slot.watch
  refine .bind (h.get Pre) fun c => ?_
  split
  · exact .pure fun _ _ hp => hp.1
  refine .bind (.of_stays (.wrapping (hd.subscribe _ _))) fun n => ?_
  refine (h.modify hP ?_).mono (fun _ _ (hp : Pre _ ∧ Fits c _) => hp.1) fun _ _ hp => hp
  -- the subscription changes neither the entries nor whether the collection is loaded
  exact fun c sh _ _ hf => h.congr c _ sh rfl rfl hf

/-- **Releasing** a collection advances the session: it drops the entries. -/
theorem release : Advances Pre (sl.release d) fun _ => Pre := by
  unfold Slot.release
  refine .bind (h.get Pre) fun c => ?_
  refine .bind ((h.set_frame hP _).mono (fun sh _ hp => ⟨hp.1, h.shrink c _ sh hp.2 rfl⟩)
    fun _ _ hp => hp) fun _ => ?_
  split
  · exact .pure fun _ _ hp => hp
  · exact .tryCatch hP (.bind (.of_stays (hd.unsubscribe _)) fun _ => .pure fun _ _ hp => hp)
      fun _ => .pure fun _ _ hp => hp

omit hd in
/-- **Loading** a collection advances the session. A load that finds the collection loaded
under its directives answers its members, which fit the session; otherwise it answers what
the reader found, which fits the collection once it is loaded. -/
theorem load [LawfulEntityHost σ] {kind : CollectionKind} {dirs : Directives}
    {read : Directives → (Nat → EntityM σ Unit) → EntityM σ (List (Bytes × α))}
    {watch : Nat → EntityM σ Unit} {Got : List (Bytes × α) → SessionShape → Prop}
    (Ans : List α → SessionShape → Prop)
    (hread : Advances Pre (read dirs watch) fun es sh => Pre sh ∧ Got es sh)
    (hGot : ∀ es, Stable (Got es))
    (hfill : ∀ (c : Collection α) es sh, sh.Coherent → Fits c sh → Got es sh →
      Fits { c with loaded := true, dirs := dirs, entries := es } sh)
    (hhit : ∀ c sh, Pre sh → Fits c sh → c.loaded = true → Ans c.members sh)
    (hmiss : ∀ es sh, Got es sh → Ans (es.map Prod.snd) sh) :
    Advances Pre (sl.load kind dirs read watch) fun xs sh => Pre sh ∧ Ans xs sh := by
  unfold Slot.load
  refine .bind (h.get Pre) fun c => ?_
  extract_lets jp
  -- what follows the check of the directives: a hit or a read
  have hjp : ∀ u, Advances Pre (jp u) fun xs sh => Pre sh ∧ Ans xs sh := by
    intro u
    refine .bind (h.get Pre) fun c' => ?_
    split
    · rename_i hl
      exact .bind .count fun _ => .pure fun sh _ hp => ⟨hp.1, hhit c' sh hp.1 hp.2 hl⟩
    · refine .bind ((hread.mono (fun _ _ hp => hp.1) fun _ _ hp => hp)) fun es => ?_
      refine .bind (h.modify (hP.and (hGot es)) ?_) fun _ => ?_
      · exact fun c sh hc hp hf => hfill c es sh hc hf hp.2
      exact .bind .count fun _ => .pure fun sh _ hp => ⟨hp.1, hmiss es sh hp.2⟩
  split
  · refine .bind ((h.set_frame hP c.reset).mono ?_ fun _ _ hp => hp) fun _ => ?_
    · exact fun sh _ hp => ⟨hp.1, h.shrink c c.reset sh hp.2 rfl⟩
    exact .bind .count fun u => hjp u
  · exact (hjp ()).mono (fun _ _ hp => hp.1) fun _ _ hp => hp

end Slot.Fitted

/-! ### Where the collections live -/

variable [LawfulEntityHost σ]

/-- The session's list of stores fits when its entries are entries of the session's map. -/
theorem Entities.storesSlot_fitted :
    (Entities.storesSlot : Slot σ StoreRef).Fitted fun c sh => ∀ p ∈ c.entries, p ∈ sh.storeById where
  get Pre := by
    intro s hc hp
    simp only [Entities.storesSlot, Ends.bind_iff, Entities.ends_current, Ends.pure_iff]
    exact ⟨.refl hc, hp, hc.storeList_held⟩
  set c := by
    intro s hc hf
    simp only [Entities.storesSlot, Entities.ends_modify, LawfulEntityHost.entities_setEntities]
    exact ⟨⟨hc.setStoreList c hf, grows_storeList c⟩, trivial⟩
  congr c c' sh _ he hf := he ▸ hf
  shrink _ c' _ _ he := by simp [he]

/-- A store's root folder list fits when the store is there, the list's entries are in the
store's map, and the list has none while it is not loaded. -/
theorem StoreRef.rootSlot_fitted (r : StoreRef) :
    (r.rootSlot : Slot σ FolderRef).Fitted fun c sh => ∃ S, sh.store r = some S ∧
      (∀ p ∈ c.entries, p ∈ S.folders) ∧ (c.loaded = false → c.entries = []) where
  get Pre := .bind .store fun S => .pure fun _ hc hp =>
    ⟨hp.1, S.shape, hp.2, hc.rootFolders_held r _ hp.2, hc.rootFolders_unloaded r _ hp.2⟩
  set c := by
    refine .modifyStore (fun sh S hc hf hS => ⟨⟨?_, ?_⟩, trivial⟩) fun _ _ => trivial
    · obtain ⟨S', hS', hheld, hunloaded⟩ := hf
      obtain rfl : S.shape = S' := Option.some.inj (hS.symm.trans hS')
      exact hc.setRootFolders hS c hheld hunloaded
    · exact grows_setStore hS (fun _ h => h) fun _ h => h
  congr c c' sh hl he hf := by
    rw [he, hl]
    exact hf
  shrink _ c' _ hf he := by
    obtain ⟨S, hS, -⟩ := hf
    exact ⟨S, hS, by simp [he], fun _ => he⟩

/-- A folder's child folders fit when they are in the map of every store that holds the
folder. -/
theorem FolderRef.subSlot_fitted (f : FolderRef) :
    (f.subSlot : Slot σ FolderRef).Fitted fun c sh => ∀ r S k, sh.store r = some S →
      (k, f) ∈ S.folders → ∀ p ∈ c.entries, p ∈ S.folders where
  get Pre := .bind .folder fun F => .pure fun _ hc hp =>
    ⟨hp.1, fun r S k hS hk => hc.subFolders_held r S k f _ hS hk hp.2⟩
  set c := .modifyFolder (fun _ => rfl) (fun _ => rfl) fun _ _ hc hf hF r S k hS hk =>
    ⟨hf r S k hS hk, hc.items_held r S k f _ hS hk hF⟩
  congr c c' sh _ he hf := he ▸ hf
  shrink _ c' _ _ he := by simp [he]

/-- A folder's items fit when they are in the item map of every store that holds the
folder. -/
theorem FolderRef.itemSlot_fitted (f : FolderRef) :
    (f.itemSlot : Slot σ ItemRef).Fitted fun c sh => ∀ r S k, sh.store r = some S →
      (k, f) ∈ S.folders → ∀ p ∈ c.entries, p ∈ S.items where
  get Pre := .bind .folder fun F => .pure fun _ hc hp =>
    ⟨hp.1, fun r S k hS hk => hc.items_held r S k f _ hS hk hp.2⟩
  set c := .modifyFolder (fun _ => rfl) (fun _ => rfl) fun _ _ hc hf hF r S k hS hk =>
    ⟨hc.subFolders_held r S k f _ hS hk hF, hf r S k hS hk⟩
  congr c c' sh _ he hf := he ▸ hf
  shrink _ c' _ _ he := by simp [he]

/-- A folder's conversations always fit: no map holds conversations. -/
theorem FolderRef.conversationSlot_fitted (f : FolderRef) :
    (f.conversationSlot : Slot σ ConversationRef).Fitted fun _ _ => True where
  get _ := .bind .folder fun _ => .pure fun _ _ hp => ⟨hp.1, trivial⟩
  set _ := .modifyFolder (fun _ => rfl) (fun _ => rfl) fun _ _ hc _ hF r S k hS hk =>
    ⟨hc.subFolders_held r S k f _ hS hk hF, hc.items_held r S k f _ hS hk hF⟩
  congr _ _ _ _ _ _ := trivial
  shrink _ _ _ _ _ := trivial

end Slots

end MailStore
