import Mathlib
import MailStore.Proofs.SpecialFolders

/-!
# Opening a store: all or nothing

A store is opened on first use, in steps: the store itself; its properties, the first of which
must name the IPM subtree; the IPM subtree and its special-folder ids; and the inbox. What the
steps found is recorded only once every step has succeeded. A failed open therefore leaves the
store as it was, not open, and the next call starts over by asking for the store again.

The inbox step goes wrong in two ways, with different outcomes. A store that cannot say which
folder receives its mail has no inbox, and opening goes on. A store that names a receive folder
that cannot be opened, or whose special-folder ids cannot be fetched, fails to open. Nothing
keeps the receive folder naming a folder that exists, so a store whose IPM subtree opens may
still fail to open: deleting the folder it receives mail in is enough.

The counters show both: every call on a store that is not open counts one request to open the
store, and asking for the inbox fails only after it counted a request to open a folder.

## Main statements

* `StoreRef.ensureOpen_calls`: every call on a store that is not open asks for it again.
* `StoreRef.openInbox_calls`: asking for the inbox fails only after asking to open the folder
  the store named.
* `store_open_all_or_nothing`: opening records all it found or nothing, and each call on a store
  that is not open starts over.
-/

namespace MailStore

section Calls

variable {σ : Type} [EntityHost σ] [LawfulEntityHost σ]

/-- How often the store was asked for `op`, as the counters say. -/
def storeCalls (op : String) (s : σ) : Nat := (ent s).metrics.count (Metric.storeCall op)

theorem storeCalls_count (op name : String) (s : σ) :
    storeCalls op (EntityHost.setEntities s { ent s with metrics := (ent s).metrics.bump name 1 }) =
      storeCalls op s + if Metric.storeCall op = name then 1 else 0 := by
  simp only [storeCalls, LawfulEntityHost.entities_setEntities, Tally.count_bump]

namespace Stays

variable {op : String}

/-- Counting another call leaves the count of `op` alone. -/
theorem count_otherCall {name : String} (h : Metric.storeCall op ≠ name) :
    Stays (storeCalls op : σ → Nat) (Entities.count name) := fun _ s hs => by
  simp only [Entities.ends_count, storeCalls_count, if_neg h, Nat.add_zero]
  exact hs

/-- Changing a store leaves every count alone. -/
theorem modifyStore_calls {r : StoreRef} {f : StoreState → StoreState} :
    Stays (storeCalls op : σ → Nat) (Entities.modifyStore r f) := fun _ s hs => by
  simpa [Entities.ends_modifyStore, storeCalls] using hs

end Stays

end Calls

section Opening

variable {σ : Type} [EntityHost σ] [LawfulEntityHost σ] {d : Driver (EntityM σ)}

/-- Asking for the inbox fails only after asking to open the folder the store named as its
receive folder, and asks for it exactly when it gives an inbox: a store that cannot say which
folder receives its mail has none. -/
theorem StoreRef.openInbox_calls (hd : d.Opens (storeCalls "open_folder" : σ → Nat)) (h : Nat)
    (s : σ) :
    Ends (StoreRef.openInbox d h) s
      (fun p s' => (p.2.isSome ↔ p.1 ≠ []) ∧
        storeCalls "open_folder" s' = storeCalls "open_folder" s + if p.1 = [] then 0 else 1)
      fun _ s' => storeCalls "open_folder" s' = storeCalls "open_folder" s + 1 := by
  unfold StoreRef.openInbox StoreRef.receiveFolder?
  rw [Ends.bind_iff, Ends.tryCatch_iff]
  -- a failure to ask for the receive folder is caught, and counts as no receive folder
  refine ((Stays.bind (hd.receiveFolder h) fun _ => .pure) _ s rfl).mono (fun id s₁ h₁ => ?_)
    fun _ s₁ h₁ => by simp [h₁]
  rcases id with _ | id
  · simp [h₁]
  · dsimp only
    split
    · simp [h₁]
    · rename_i hid
      rw [Ends.bind_iff, Entities.ends_count]
      have h₂ := storeCalls_count "open_folder" (Metric.storeCall "open_folder") s₁
      rw [h₁, if_pos rfl] at h₂
      refine Ends.bind_of_keeps ((Stays.wrapping (hd.openFolder _ _)) _) h₂ (fun _ s₃ h₃ => ?_)
        fun _ _ h => h
      refine Ends.bind_of_keeps (StoreRef.specialFolderProps_stays hd _ _) h₃
        (fun _ s₄ h₄ => ?_) fun _ _ h => h
      have hne : id ≠ [] := by simpa using hid
      simp [hne, h₄]

variable {r : StoreRef}

/-- Every call on a store that is not open asks for the store to be opened, once, whether the
call succeeds or fails; a call on an open store asks for nothing. -/
theorem StoreRef.ensureOpen_calls (hd : d.Opens (storeCalls "open_store" : σ → Nat)) {s : σ}
    {S : StoreState} (hS : (ent s).storeHeap[r.idx]? = some S) :
    Ends (r.ensureOpen d) s
      (fun _ s' => storeCalls "open_store" s' =
        storeCalls "open_store" s + if S.opened = none then 1 else 0)
      fun _ s' => storeCalls "open_store" s' = storeCalls "open_store" s + 1 := by
  unfold StoreRef.ensureOpen
  rw [Ends.bind_iff, Entities.ends_store, hS]
  dsimp only
  cases hopen : S.opened with
  | some o => simp
  | none =>
    dsimp only
    rw [Ends.bind_iff, Entities.ends_count]
    have h₁ := storeCalls_count "open_store" (Metric.storeCall "open_store") s
    rw [if_pos rfl] at h₁
    -- everything after the first count leaves the count of store openings alone
    refine ((?_ : Stays (storeCalls "open_store" : σ → Nat) _) _ _ h₁).mono
      (fun _ _ h => by simpa using h) fun _ _ h => h
    refine .bind (.wrapping (hd.openStore _)) fun h => ?_
    refine .bind (Stays.count_otherCall (by decide)) fun _ => ?_
    refine .bind (.wrapping (hd.getProps _ _)) fun props => ?_
    split
    · split
      · split
        · refine .bind .pure fun rootId => ?_
          refine .bind (Stays.count_otherCall (by decide)) fun _ => ?_
          refine .bind (.wrapping (hd.openFolder _ _)) fun ipm => ?_
          refine .bind (StoreRef.specialFolderProps_stays hd _) fun _ => ?_
          refine .bind (StoreRef.openInbox_stays hd (Stays.count_otherCall (by decide)) _)
            fun _ => ?_
          exact .bind Stays.modifyStore_calls fun _ => .pure
        · exact .throw_bind
      · exact .throw_bind
    · exact .throw_bind

/-- **Opening a store is all or nothing.** A call on a store that is not open asks for the store
again and either records everything opening found, checked, or fails and leaves the store as it
was, not open, so that the next call starts over; a call on an open store gives it again
without asking. Asking for the inbox fails only after asking to open the folder the store names
as its receive folder, and a store that cannot say which folder that is has no inbox. -/
theorem store_open_all_or_nothing (hd : d.Opens fun s : σ => ent s) {s : σ} {S : StoreState}
    (hS : (ent s).storeHeap[r.idx]? = some S) (hw : ∀ o, S.opened = some o → o.WellFormed) :
    Ends (r.ensureOpen d) s
      (fun o s' => (S.opened = none ∨ S.opened = some o) ∧ o.WellFormed ∧
        (ent s').storeHeap[r.idx]? = some { S with opened := some o } ∧
        storeCalls "open_store" s' = storeCalls "open_store" s + if S.opened = none then 1 else 0)
      (fun _ s' => S.opened = none ∧ (ent s').storeHeap[r.idx]? = some S ∧
        storeCalls "open_store" s' = storeCalls "open_store" s + 1) ∧
    ∀ h, Ends (StoreRef.openInbox d h) s
      (fun p s' => (p.2.isSome ↔ p.1 ≠ []) ∧
        storeCalls "open_folder" s' = storeCalls "open_folder" s + if p.1 = [] then 0 else 1)
      fun _ s' => storeCalls "open_folder" s' = storeCalls "open_folder" s + 1 := by
  have hstore := StoreRef.ensureOpen_ends (hd.comp fun e => e.storeHeap[r.idx]?) hS hw
  have hcalls := StoreRef.ensureOpen_calls (hd.comp fun e => e.metrics.count (Metric.storeCall
    "open_store")) hS
  refine ⟨(hstore.and hcalls).mono ?_ ?_, fun h => StoreRef.openInbox_calls
    (hd.comp fun e => e.metrics.count (Metric.storeCall "open_folder")) h s⟩
  · rintro o s' ⟨⟨hor, hwf, h'⟩, hc⟩
    exact ⟨hor, hwf, h', hc⟩
  · rintro _ s' ⟨⟨hn, h'⟩, hc⟩
    exact ⟨hn, h', hc⟩

end Opening

/-- A store of the session, not open yet. -/
def danglingInboxStore : StoreState :=
  ⟨[0x53], ⟨[0x53]⟩, [], NameCache.empty, none, none, Collection.empty, [], [], false⟩

/-- A session of that one store, in a world where the store receives its mail in a folder that
is not there. -/
def danglingInboxBench : Console.EntityBench :=
  ⟨⟨#[⟨.store, "S", 0, none, [], [], [], some 1, some [0x58], []⟩,
      ⟨.folder, "R", 0, none, [], [], [], none, none, []⟩], [0], 1000, #[], [], []⟩,
    Console.Rig.empty, ⟨Collection.empty, [], false, #[danglingInboxStore], #[], #[], #[], []⟩,
    [], [], []⟩

/-- Opening the store of `danglingInboxBench` asks for it once, and a failure leaves it as it
was. -/
theorem danglingInbox_open_asks_once :
    Ends (StoreRef.ensureOpen Console.EntityBench.driver ⟨0⟩) danglingInboxBench
      (fun _ s' => storeCalls "open_store" s' = 1)
      fun _ s' => (ent s').storeHeap[0]? = some danglingInboxStore ∧
        storeCalls "open_store" s' = 1 := by
  have hd : Console.EntityBench.driver.Opens fun s : Console.EntityBench => ent s :=
    (Console.WorldDriver.driver_stays (fun _ _ => rfl) fun _ _ => rfl).toOpens
  have h₀ : storeCalls "open_store" danglingInboxBench = 0 := rfl
  have hopen : danglingInboxStore.opened = none := rfl
  refine ((store_open_all_or_nothing hd (r := ⟨0⟩) (s := danglingInboxBench)
    (S := danglingInboxStore) rfl fun _ h => by cases h).1).mono ?_ ?_
  · rintro _ s' ⟨-, -, -, hc⟩
    simpa [h₀, hopen] using hc
  · rintro _ s' ⟨-, h, hc⟩
    exact ⟨h, by simpa [h₀] using hc⟩

end MailStore
