import Mathlib
import MailStore.Entity.Basic

/-!
# Lazily loaded collections under concurrent writes

A session keeps lists loaded on demand: its stores, a store's root folders, and a folder's
child folders, items and conversations. Each is dropped when the table behind it changes.
Loads, writes and the delivery of change notices run concurrently; here they are the steps
of one transition system, interleaved in any order:

* a load takes the mutex of the collection's owner, drops a list loaded under other
  directives, subscribes to the table unless the collection already watches it, reads the
  table, and stores the directives and the members before it lets the mutex go;
* a write commits a new state of the store and publishes the keys of the tables whose rows
  it changed;
* the notifier takes the published keys in order. For each it calls every collection
  subscribed to that table at that moment, and each callback takes the owner's mutex and
  drops the list.

A read of a table is no snapshot: it reads the entries and then their properties row by
row, so a write in the middle can leave it with rows of two states. A read during which the
table's rows changed is *torn*, and may return anything; one that is not torn returns the
table's rows as they are.

The statement proved is that no invalidation is lost: once every published notice has been
delivered, every loaded collection lists exactly what a read of its table gives on the
store as it is. The proof is an invariant saying that a collection that is wrong, or whose
read is torn, has a notice on its way to it. Subscribing before the read, and making the
callback wait for the mutex, are what keep it.

A write is one step: the model has no state between a commit and its publish. In such a
state a list read before the commit is stale while no notice for it exists yet, so no
statement about quiet states can include it. Hits, which answer from memory and change
nothing, are not steps.

## Main statements

* `Guarded.step`: one step keeps every collection guarded.
* `guarded_of_reachable`: every collection is guarded in every reachable world.
* `loaded_entries_eq_read`: once every published notice is delivered, a loaded collection
  lists what a read of its table gives.
* `tornThenReloaded_lists_rows`: a run with a torn read, its invalidation and a reload.
-/

namespace MailStore

namespace Collection

variable {α : Type}

/-- A load under `dirs` is answered from memory. -/
def Hits (c : Collection α) (dirs : Directives) : Prop :=
  c.loaded = true ∧ c.dirs = dirs

/-- A load under `dirs` first drops a list loaded under other directives. -/
def dropFor (c : Collection α) (dirs : Directives) : Collection α :=
  if c.loaded ∧ c.dirs ≠ dirs then c.reset else c

/-- The subscription a load makes when the collection watches no table yet. -/
def watching (c : Collection α) (sub : Nat) : Collection α :=
  if c.sub.isSome then c else { c with sub := some sub }

/-- A load that read `entries` under `dirs` stores them. -/
def fill (c : Collection α) (dirs : Directives) (entries : List (Bytes × α)) : Collection α :=
  { c with loaded := true, dirs := dirs, entries := entries }

@[simp]
theorem loaded_reset (c : Collection α) : c.reset.loaded = false := rfl

@[simp]
theorem loaded_fill (c : Collection α) (dirs : Directives) (entries : List (Bytes × α)) :
    (c.fill dirs entries).loaded = true := rfl

@[simp]
theorem dirs_fill (c : Collection α) (dirs : Directives) (entries : List (Bytes × α)) :
    (c.fill dirs entries).dirs = dirs := rfl

@[simp]
theorem entries_fill (c : Collection α) (dirs : Directives) (entries : List (Bytes × α)) :
    (c.fill dirs entries).entries = entries := rfl

@[simp]
theorem sub_fill (c : Collection α) (dirs : Directives) (entries : List (Bytes × α)) :
    (c.fill dirs entries).sub = c.sub := rfl

@[simp]
theorem loaded_watching (c : Collection α) (sub : Nat) :
    (c.watching sub).loaded = c.loaded := by
  unfold watching
  split <;> rfl

theorem watching_watched (c : Collection α) (sub : Nat) : (c.watching sub).sub.isSome = true := by
  unfold watching
  split
  · assumption
  · rfl

/-- After the drop, a load that does not hit finds nothing loaded. -/
theorem not_loaded_dropFor {c : Collection α} {dirs : Directives} (miss : ¬ c.Hits dirs) :
    (c.dropFor dirs).loaded = false := by
  unfold dropFor Hits at *
  split
  · rfl
  · rename_i keep
    cases hl : c.loaded
    · rfl
    · exact absurd ⟨hl, fun hd => miss ⟨hl, hd⟩⟩ keep

end Collection

namespace Invalidation

/-- Where a collection's load is. -/
inductive Phase where
  /-- No load of the collection is running. -/
  | idle
  /-- A load holds the owner's mutex and has dropped a stale list; it has not read yet. -/
  | locked (dirs : Directives)
  /-- A load is reading the table under `dirs`; it is torn once the rows changed since. -/
  | reading (dirs : Directives) (torn : Bool)
deriving DecidableEq

/-- A read in progress goes torn when the rows of its table change. -/
def Phase.tear (p : Phase) (changed : Bool) : Phase :=
  match p with
  | .reading dirs torn => .reading dirs (torn || changed)
  | p => p

@[simp]
theorem Phase.tear_idle (changed : Bool) : Phase.idle.tear changed = .idle := rfl

/-- A read in progress after a write was in progress before it, under the same directives,
and is torn if it was torn before or the write changed its rows. -/
theorem Phase.eq_reading_of_tear {p : Phase} {changed : Bool} {dirs : Directives} {torn : Bool}
    (h : p.tear changed = .reading dirs torn) :
    ∃ before, p = .reading dirs before ∧ torn = (before || changed) := by
  cases p with
  | idle => simp [Phase.tear] at h
  | locked d => simp [Phase.tear] at h
  | reading d before =>
    simp only [Phase.tear, Phase.reading.injEq] at h
    obtain ⟨rfl, rfl⟩ := h
    exact ⟨before, rfl, rfl⟩

/-- The fixed shape of a session: the owner whose mutex guards each collection, the table
each collection is read from, the rows of a table in a store state, and the members a
collection reads from its table's rows under directives. -/
structure Layout (ι ω K S R α : Type) where
  /-- The owner of a collection. -/
  owner : ι → ω
  /-- The table a collection is read from. -/
  table : ι → K
  /-- The rows of a table. -/
  rows : K → S → R
  /-- The members, with their keys, that a read of the rows under directives gives. -/
  members : ι → R → Directives → List (Bytes × α)

/-- The parties' state: the store, the collections with their loads, the notices published
and not yet taken, the callbacks of the notice being delivered that have not run, and the
number of subscriptions handed out. -/
structure World (ι K S α : Type) where
  /-- The committed state of the store. -/
  store : S
  /-- The collections. -/
  colls : ι → Collection α
  /-- The load of each collection. -/
  phase : ι → Phase
  /-- The table keys published and not yet taken by the notifier, oldest first. -/
  queue : List K
  /-- The callbacks of the notice being delivered that still have to run. -/
  calls : ι → Bool
  /-- The subscriptions handed out. -/
  subs : Nat

/-- A session that has loaded nothing, over a store in state `s`. -/
def World.start {ι K S α : Type} (s : S) : World ι K S α :=
  ⟨s, fun _ => Collection.empty, fun _ => .idle, [], fun _ => false, 0⟩

namespace World

variable {ι K S α : Type} [DecidableEq ι]

/-- A load of `i` under `dirs` takes the owner's mutex and drops a list of other directives. -/
def lock (w : World ι K S α) (i : ι) (dirs : Directives) : World ι K S α :=
  { w with colls := Function.update w.colls i ((w.colls i).dropFor dirs),
           phase := Function.update w.phase i (.locked dirs) }

/-- The load of `i` subscribes unless `i` watches its table, and starts reading. -/
def watch (w : World ι K S α) (i : ι) (dirs : Directives) : World ι K S α :=
  { w with colls := Function.update w.colls i ((w.colls i).watching w.subs),
           phase := Function.update w.phase i (.reading dirs false),
           subs := w.subs + 1 }

/-- The load of `i` stores what it read under `dirs` and lets the mutex go. -/
def fill (w : World ι K S α) (i : ι) (dirs : Directives) (entries : List (Bytes × α)) :
    World ι K S α :=
  { w with colls := Function.update w.colls i ((w.colls i).fill dirs entries),
           phase := Function.update w.phase i .idle }

/-- The load of `i` fails and lets the mutex go. -/
def release (w : World ι K S α) (i : ι) : World ι K S α :=
  { w with phase := Function.update w.phase i .idle }

/-- The callback of `i` drops its list. -/
def notify (w : World ι K S α) (i : ι) : World ι K S α :=
  { w with colls := Function.update w.colls i (w.colls i).reset,
           calls := Function.update w.calls i false }

end World

namespace Layout

variable {ι ω K S R α : Type} (L : Layout ι ω K S R α)

/-- What a read of collection `i` under `dirs` gives on the store state `s`. -/
def read (i : ι) (s : S) (dirs : Directives) : List (Bytes × α) :=
  L.members i (L.rows (L.table i) s) dirs

/-- Whether a change of the store from `s` to `s'` changes the rows behind `i`. -/
def touches [DecidableEq R] (i : ι) (s s' : S) : Bool :=
  decide (L.rows (L.table i) s ≠ L.rows (L.table i) s')

/-- The mutex of owner `o` is free: no load of its collections is running. -/
def Free (w : World ι K S α) (o : ω) : Prop :=
  ∀ i, L.owner i = o → w.phase i = .idle

/-- A write commits the store state `s` and publishes `keys`; reads in progress whose rows
changed go torn. -/
def commit [DecidableEq R] (w : World ι K S α) (s : S) (keys : List K) : World ι K S α :=
  { w with store := s, queue := w.queue ++ keys,
           phase := fun i => (w.phase i).tear (L.touches i w.store s) }

/-- The notifier takes a notice for table `k`, leaving `rest` queued; its callbacks are the
collections subscribed to `k` at this moment. -/
def deliver [DecidableEq K] (w : World ι K S α) (k : K) (rest : List K) : World ι K S α :=
  { w with queue := rest, calls := fun i => decide (L.table i = k) && (w.colls i).sub.isSome }

/-- A notice is on its way to collection `i`: its table's key is queued, or the notice being
delivered has still to call it. -/
def Pending (w : World ι K S α) (i : ι) : Prop :=
  L.table i ∈ w.queue ∨ w.calls i = true

/-- Collection `i` is guarded in `w`: while loaded it has no load running and watches its
table, a running read watches the table too, and a list that disagrees with the table, or a
torn read, has a notice on its way. -/
structure Guarded (w : World ι K S α) (i : ι) : Prop where
  /-- A loaded collection has no load running. -/
  idle_of_loaded : (w.colls i).loaded = true → w.phase i = .idle
  /-- A loaded collection watches its table. -/
  watched_of_loaded : (w.colls i).loaded = true → (w.colls i).sub.isSome = true
  /-- A running read watches its table. -/
  watched_of_reading : ∀ {dirs torn}, w.phase i = .reading dirs torn →
    (w.colls i).sub.isSome = true
  /-- A loaded list that disagrees with its table has a notice on its way. -/
  pending_of_stale : (w.colls i).loaded = true →
    (w.colls i).entries ≠ L.read i w.store (w.colls i).dirs → L.Pending w i
  /-- A torn read has a notice on its way. -/
  pending_of_torn : ∀ {dirs}, w.phase i = .reading dirs true → L.Pending w i

variable {L}

/-- A collection that is neither loaded nor being read is guarded. -/
theorem guarded_of_unloaded {w : World ι K S α} {i : ι} (unloaded : (w.colls i).loaded = false)
    (notReading : ∀ dirs torn, w.phase i ≠ .reading dirs torn) : L.Guarded w i where
  idle_of_loaded hl := by simp [unloaded] at hl
  watched_of_loaded hl := by simp [unloaded] at hl
  watched_of_reading hr := absurd hr (notReading _ _)
  pending_of_stale hl := by simp [unloaded] at hl
  pending_of_torn hr := absurd hr (notReading _ _)

/-- A step that leaves collection `i`, its load and the store alone, and keeps a notice on
its way to it while it watches its table, keeps it guarded. -/
theorem Guarded.frame {w w' : World ι K S α} {i : ι} (h : L.Guarded w i)
    (colls : w'.colls i = w.colls i) (phase : w'.phase i = w.phase i)
    (store : w'.store = w.store)
    (pending : (w.colls i).sub.isSome = true → L.Pending w i → L.Pending w' i) :
    L.Guarded w' i where
  idle_of_loaded hl := by
    rw [colls] at hl
    rw [phase]
    exact h.idle_of_loaded hl
  watched_of_loaded hl := by
    rw [colls] at hl ⊢
    exact h.watched_of_loaded hl
  watched_of_reading hr := by
    rw [phase] at hr
    rw [colls]
    exact h.watched_of_reading hr
  pending_of_stale hl hs := by
    rw [colls] at hl hs
    rw [store] at hs
    exact pending (h.watched_of_loaded hl) (h.pending_of_stale hl hs)
  pending_of_torn hr := by
    rw [phase] at hr
    exact pending (h.watched_of_reading hr) (h.pending_of_torn hr)

/-- A collection with a load running is not loaded. -/
theorem Guarded.unloaded_of_running {w : World ι K S α} {i : ι} (h : L.Guarded w i)
    (running : w.phase i ≠ .idle) : (w.colls i).loaded = false := by
  cases hl : (w.colls i).loaded
  · rfl
  · exact absurd (h.idle_of_loaded hl) running

theorem guarded_start (s : S) (i : ι) : L.Guarded (World.start s) i :=
  guarded_of_unloaded rfl fun _ _ => by simp [World.start]

section WorldSteps

variable [DecidableEq ι] {w : World ι K S α} {i j : ι}

theorem Guarded.lock {dirs : Directives} (miss : ¬ (w.colls j).Hits dirs) (h : L.Guarded w i) :
    L.Guarded (w.lock j dirs) i := by
  by_cases hij : i = j
  · subst hij
    apply guarded_of_unloaded
    · simpa [World.lock] using Collection.not_loaded_dropFor miss
    · intro d t
      simp [World.lock]
  · exact h.frame (by simp [World.lock, hij]) (by simp [World.lock, hij]) rfl fun _ => id

theorem Guarded.watch {dirs : Directives} (locked : w.phase j = .locked dirs)
    (h : L.Guarded w i) : L.Guarded (w.watch j dirs) i := by
  by_cases hij : i = j
  · subst hij
    have unloaded : (w.colls i).loaded = false := h.unloaded_of_running (by simp [locked])
    constructor
    · intro hl
      simp [World.watch, unloaded] at hl
    · intro hl
      simp [World.watch, unloaded] at hl
    · intro d t _
      simpa [World.watch] using Collection.watching_watched (w.colls i) w.subs
    · intro hl
      simp [World.watch, unloaded] at hl
    · intro d hr
      simp [World.watch] at hr
  · exact h.frame (by simp [World.watch, hij]) (by simp [World.watch, hij]) rfl fun _ => id

theorem Guarded.fill {dirs : Directives} {torn : Bool} {entries : List (Bytes × α)}
    (reading : w.phase j = .reading dirs torn)
    (exact : torn = false → entries = L.read j w.store dirs) (h : L.Guarded w i) :
    L.Guarded (w.fill j dirs entries) i := by
  by_cases hij : i = j
  · subst hij
    constructor
    · intro _
      simp [World.fill]
    · intro _
      simpa [World.fill] using h.watched_of_reading reading
    · intro d t hr
      simp [World.fill] at hr
    · intro _ stale
      -- an untorn read gave the rows as they are, so only a torn one can disagree with them
      cases torn with
      | false => exact absurd (by simpa [World.fill] using exact rfl) stale
      | true => exact h.pending_of_torn reading
    · intro d hr
      simp [World.fill] at hr
  · exact h.frame (by simp [World.fill, hij]) (by simp [World.fill, hij]) rfl fun _ => id

theorem Guarded.release (running : w.phase j ≠ .idle) (h : L.Guarded w i) :
    L.Guarded (w.release j) i := by
  by_cases hij : i = j
  · subst hij
    exact guarded_of_unloaded (h.unloaded_of_running running) (by simp [World.release])
  · exact h.frame rfl (by simp [World.release, hij]) rfl fun _ => id

theorem Guarded.notify (free : L.Free w (L.owner j)) (h : L.Guarded w i) :
    L.Guarded (w.notify j) i := by
  by_cases hij : i = j
  · subst hij
    -- the callback waited for the mutex, so no load of `i` is running
    have idle : w.phase i = .idle := free i rfl
    exact guarded_of_unloaded (by simp [World.notify]) (by simp [World.notify, idle])
  · refine h.frame (by simp [World.notify, hij]) rfl rfl fun _ pending => ?_
    rcases pending with queued | due
    · exact .inl queued
    · exact .inr (by simpa [World.notify, hij] using due)

end WorldSteps

section TableSteps

variable {w : World ι K S α} {i : ι}

theorem Guarded.commit [DecidableEq R] {s : S} {keys : List K}
    (covers : ∀ k, L.rows k w.store ≠ L.rows k s → k ∈ keys) (h : L.Guarded w i) :
    L.Guarded (L.commit w s keys) i := by
  -- a notice on its way stays on its way, and a change of the rows behind `i` publishes one
  have kept : L.Pending w i → L.Pending (L.commit w s keys) i := by
    rintro (queued | due)
    · exact .inl (List.mem_append_left keys queued)
    · exact .inr due
  have published : L.rows (L.table i) w.store ≠ L.rows (L.table i) s →
      L.Pending (L.commit w s keys) i :=
    fun changed => .inl (List.mem_append_right w.queue (covers _ changed))
  constructor
  · intro hl
    simp [Layout.commit, h.idle_of_loaded hl]
  · exact h.watched_of_loaded
  · intro d t hr
    obtain ⟨before, hp, -⟩ := Phase.eq_reading_of_tear hr
    exact h.watched_of_reading hp
  · intro hl stale
    by_cases same : L.rows (L.table i) w.store = L.rows (L.table i) s
    · exact kept (h.pending_of_stale hl (by simpa [Layout.commit, Layout.read, same] using stale))
    · exact published same
  · intro d hr
    obtain ⟨before, hp, torn⟩ := Phase.eq_reading_of_tear hr
    cases before with
    | true => exact kept (h.pending_of_torn hp)
    | false =>
      apply published
      simpa [Layout.touches] using torn.symm

theorem Guarded.deliver [DecidableEq K] {k : K} {rest : List K} (queued : w.queue = k :: rest)
    (delivered : ∀ i, w.calls i = false) (h : L.Guarded w i) :
    L.Guarded (L.deliver w k rest) i := by
  refine h.frame rfl rfl rfl fun watched pending => ?_
  -- nothing was being delivered, so the notice on its way is queued: either it is the one
  -- taken now, which calls `i` since `i` watches its table, or it stays queued
  have queuedHere : L.table i ∈ k :: rest := by
    rcases pending with inQueue | due
    · rwa [queued] at inQueue
    · simp [delivered i] at due
  rcases List.mem_cons.mp queuedHere with taken | later
  · exact .inr (by simp [Layout.deliver, taken, watched])
  · exact .inl later

end TableSteps

variable (L) [DecidableEq ι] [DecidableEq K] [DecidableEq R]

/-- One step of a load, a write or the notifier. -/
inductive Step : World ι K S α → World ι K S α → Prop
  /-- A load that misses takes the owner's mutex and drops a list of other directives. -/
  | begin {w : World ι K S α} {i : ι} {dirs : Directives}
      (free : L.Free w (L.owner i)) (miss : ¬ (w.colls i).Hits dirs) : Step w (w.lock i dirs)
  /-- The load subscribes unless the collection watches the table, and starts reading. -/
  | subscribe {w : World ι K S α} {i : ι} {dirs : Directives}
      (locked : w.phase i = .locked dirs) : Step w (w.watch i dirs)
  /-- The read ends; the load stores what it read and lets the mutex go. A read that is not
  torn gives the rows of the table as they are. -/
  | finish {w : World ι K S α} {i : ι} {dirs : Directives} {torn : Bool}
      {entries : List (Bytes × α)} (reading : w.phase i = .reading dirs torn)
      (exact : torn = false → entries = L.read i w.store dirs) : Step w (w.fill i dirs entries)
  /-- The subscription or the read fails; the load lets the mutex go and stores nothing. -/
  | fail {w : World ι K S α} {i : ι} (running : w.phase i ≠ .idle) : Step w (w.release i)
  /-- A write commits the store state `s` and publishes `keys`, which name every table whose
  rows it changed. -/
  | write {w : World ι K S α} {s : S} {keys : List K}
      (covers : ∀ k, L.rows k w.store ≠ L.rows k s → k ∈ keys) : Step w (L.commit w s keys)
  /-- Once the last notice is delivered, the notifier takes the oldest one. -/
  | take {w : World ι K S α} {k : K} {rest : List K} (queued : w.queue = k :: rest)
      (delivered : ∀ i, w.calls i = false) : Step w (L.deliver w k rest)
  /-- A callback takes its owner's mutex and drops the list. -/
  | notify {w : World ι K S α} {i : ι} (due : w.calls i = true) (free : L.Free w (L.owner i)) :
      Step w (w.notify i)

variable {L}

/-- One step keeps every collection guarded. -/
theorem Guarded.step {w w' : World ι K S α} (h : ∀ i, L.Guarded w i) (hs : L.Step w w') :
    ∀ i, L.Guarded w' i := by
  intro i
  cases hs with
  | begin _ miss => exact (h i).lock miss
  | subscribe locked => exact (h i).watch locked
  | finish reading exact => exact (h i).fill reading exact
  | fail running => exact (h i).release running
  | write covers => exact (h i).commit covers
  | take queued delivered => exact (h i).deliver queued delivered
  | notify _ free => exact (h i).notify free

/-- Every collection is guarded in every world reachable from a session that has loaded
nothing. -/
theorem guarded_of_reachable {s : S} {w : World ι K S α}
    (hw : Relation.ReflTransGen L.Step (World.start s) w) : ∀ i, L.Guarded w i := by
  induction hw with
  | refl => exact guarded_start s
  | tail _ hs ih => exact Guarded.step ih hs

/-- No invalidation is lost: in every world reachable from a session that has loaded
nothing, once every published notice has been delivered, a loaded collection lists exactly
the members a read of its table under its directives gives on the store as it is. The
owner's mutex need not be free: a loaded collection has no load running. -/
theorem loaded_entries_eq_read {s : S} {w : World ι K S α}
    (hw : Relation.ReflTransGen L.Step (World.start s) w) (published : w.queue = [])
    (delivered : ∀ j, w.calls j = false) {i : ι} (loaded : (w.colls i).loaded = true) :
    (w.colls i).entries = L.read i w.store (w.colls i).dirs := by
  by_contra stale
  rcases (guarded_of_reachable hw i).pending_of_stale loaded stale with queued | due
  · simp [published] at queued
  · simp [delivered i] at due

end Layout

/-- One collection over a table whose rows are a number, read as a single member. -/
def counter : Layout Unit Unit Unit Nat Nat Nat :=
  ⟨fun _ => (), fun _ => (), fun _ s => s, fun _ r _ => [([], r)]⟩

/-- A read of the counter torn by a write of `5`, the notice that drops what it stored, and a
reload. -/
def tornThenReloaded : World Unit Unit Nat Nat :=
  ((((counter.deliver ((counter.commit (((World.start 0).lock () .none).watch () .none) 5
    [()]).fill () .none []) () []).notify ()).lock () .none).watch () .none).fill () .none
    [([], 5)]

/-- After a torn read, its invalidation and a reload, with nothing left to deliver, the counter
lists the table's row. -/
theorem tornThenReloaded_lists_rows :
    Relation.ReflTransGen counter.Step (World.start 0) tornThenReloaded ∧
      tornThenReloaded.queue = [] ∧ (∀ j, tornThenReloaded.calls j = false) ∧
      (tornThenReloaded.colls ()).loaded = true ∧
      (tornThenReloaded.colls ()).entries =
        counter.read () tornThenReloaded.store (tornThenReloaded.colls ()).dirs := by
  have run : Relation.ReflTransGen counter.Step (World.start 0) tornThenReloaded :=
    .tail (.tail (.tail (.tail (.tail (.tail (.tail (.tail (.tail .refl
      (.begin (fun _ _ => rfl) (by simp [Collection.Hits, World.start, Collection.empty])))
      (.subscribe rfl))
      (.write (fun k _ => by simp)))
      (.finish rfl (by decide)))
      (.take rfl (fun _ => rfl)))
      (.notify rfl (fun _ _ => rfl)))
      (.begin (fun _ _ => rfl) (by simp [Collection.Hits, World.notify])))
      (.subscribe rfl))
      (.finish rfl (fun _ => rfl))
  exact ⟨run, rfl, fun _ => rfl, rfl, Layout.loaded_entries_eq_read run rfl (fun _ => rfl) rfl⟩

end Invalidation

end MailStore
