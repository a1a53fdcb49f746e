import Mathlib
import MailStore.Proofs.Shape

/-!
# Lazy collections as a state machine

A collection of the session (the stores, a store's root folders, a folder's child folders,
items or conversations) is either not loaded or fully loaded. It is loaded by a reader that
opens the backing table, hands it to the collection's watcher before reading any row, and
builds the members; a notification or a clearing drops it, keeping its subscription, and
closing releases it with its subscription.

Where the collection lives is a `Slot`; `Slot.Lawful` says that the slot keeps its collection
where a view of the state reads it. Over such a slot:

* a load under the directives the collection was loaded with answers with its members as they
  are, and neither reads nor watches (`Slot.Lawful.load_hit`); any other load drops the
  collection and runs the reader once (`Slot.Lawful.load_miss`);
* a load that fails, in the reader or in subscribing, leaves the collection not loaded, and one
  that answers leaves it loaded under its directives with the answer as its members
  (`Slot.Lawful.load_ends`);
* a subscribed collection subscribes no more (`Slot.Lawful.watch_subscribed`), and releasing
  drops the subscription whatever ending it gives (`Slot.Lawful.release_ends`).

So along every run of loads, drops and releases the collection stays `Collection.Sound`
(never partially populated, and loaded only while subscribed), and keeps its subscription
until a release (`CollectionStep.run_sound`). The member with a key is the one at the last
position with that key (`Collection.lookup_eq_some_iff`), and picking explicit keys gives
their members in order or fails with the first key that has none
(`Collection.pick_eq_ok_iff`, `Collection.pick_eq_error_iff`).

## Main statements

* `Slot.Lawful.load_hit`, `Slot.Lawful.load_miss`, `Slot.Lawful.load_ends`: loading.
* `CollectionStep.run_sound`: every run keeps a collection sound and its subscription.
-/

namespace MailStore

namespace Collection

variable {α : Type} (c : Collection α)

/-! ### Members by key -/

/-- The member with a key is the one at the last position with that key, as an index from
keys to positions built in table order keeps it. -/
theorem lookup_eq_some_iff {key : Bytes} {a : α} :
    c.lookup key = some a ↔
      c.loaded = true ∧ ∃ pre post, c.entries = pre ++ (key, a) :: post ∧ ∀ p ∈ post, p.1 ≠ key := by
  unfold lookup
  by_cases hl : c.loaded = true
  · simp only [hl, ↓reduceIte, true_and, Option.map_eq_some_iff, List.find?_eq_some_iff_append,
      decide_eq_true_eq, Bool.not_eq_eq_eq_not, Bool.not_true, decide_eq_false_iff_not]
    constructor
    · rintro ⟨⟨k, b⟩, ⟨rfl, as, bs, hrev, has⟩, rfl⟩
      refine ⟨bs.reverse, as.reverse, ?_, fun p hp => has p (List.mem_reverse.1 hp)⟩
      rw [← List.reverse_reverse c.entries, hrev]
      simp
    · rintro ⟨pre, post, he, hpost⟩
      refine ⟨(key, a), ⟨rfl, post.reverse, pre.reverse, by simp [he], ?_⟩, rfl⟩
      exact fun p hp => hpost p (List.mem_reverse.1 hp)
  · simp [hl]

/-- A key has no member while the collection is not loaded or when no entry has it. -/
theorem lookup_eq_none_iff {key : Bytes} :
    c.lookup key = none ↔ c.loaded = false ∨ ∀ p ∈ c.entries, p.1 ≠ key := by
  unfold lookup
  cases c.loaded <;> simp [List.find?_eq_none]

/-- Picking succeeds exactly when every key has a member, and gives them in order. -/
theorem pick_eq_ok_iff {kind : String} {ids : List Bytes} {as : List α} :
    c.pick kind ids = .ok as ↔ List.Forall₂ (fun id a => c.lookup id = some a) ids as := by
  induction ids generalizing as with
  | nil => cases as <;> simp [pick]
  | cons id rest ih =>
    unfold pick
    cases hl : c.lookup id with
    | none => cases as <;> simp [hl]
    | some a =>
      cases hr : c.pick kind rest with
      | error f => cases as <;> simp [← ih, hr]
      | ok bs => cases as <;> simp [← ih, hr, hl]

/-- Picking fails with the first key that has no member. -/
theorem pick_eq_error_iff {kind : String} {ids : List Bytes} {f : Failure} :
    c.pick kind ids = .error f ↔ ∃ pre id post, ids = pre ++ id :: post ∧
      (∀ i ∈ pre, c.lookup i ≠ none) ∧ c.lookup id = none ∧ f = notFound kind id := by
  induction ids with
  | nil => simp [pick]
  | cons id rest ih =>
    unfold pick
    cases hl : c.lookup id with
    | none =>
      simp only [Except.error.injEq]
      constructor
      · rintro rfl
        exact ⟨[], id, rest, rfl, by simp, hl, rfl⟩
      · rintro ⟨_ | ⟨p, pre⟩, id', post, hids, hpre, hid', rfl⟩
        · simp only [List.nil_append, List.cons.injEq] at hids
          rw [hids.1]
        · simp only [List.cons_append, List.cons.injEq] at hids
          exact absurd hl (hids.1 ▸ hpre p List.mem_cons_self)
    | some a =>
      -- a key that has a member passes the failure of the rest on
      have htail : (∃ pre id' post, id :: rest = pre ++ id' :: post ∧
          (∀ i ∈ pre, c.lookup i ≠ none) ∧ c.lookup id' = none ∧ f = notFound kind id') →
          c.pick kind rest = .error f := by
        rintro ⟨_ | ⟨p, pre⟩, id', post, hids, hpre, hid', hf⟩
        · simp only [List.nil_append, List.cons.injEq] at hids
          rw [← hids.1, hl] at hid'
          cases hid'
        · simp only [List.cons_append, List.cons.injEq] at hids
          exact ih.2 ⟨pre, id', post, hids.2, fun i hi => hpre i (List.mem_cons_of_mem _ hi), hid', hf⟩
      cases hr : c.pick kind rest with
      | error f' =>
        simp only [Except.error.injEq]
        constructor
        · rintro rfl
          obtain ⟨pre, id', post, hids, hpre, hid', hf⟩ := ih.1 hr
          refine ⟨id :: pre, id', post, by simp [hids], ?_, hid', hf⟩
          simpa [hl] using hpre
        · intro h
          simpa [hr] using htail h
      | ok bs =>
        simp only [reduceCtorEq, false_iff]
        intro h
        simpa [hr] using htail h

/-! ### Sound collections -/

/-- `c'` is `c`, subscribed since if `c` was not: the same members under the same directives,
loaded or not alike, and the subscription `c` held kept. -/
structure Watched (c c' : Collection α) : Prop where
  loaded : c'.loaded = c.loaded
  dirs : c'.dirs = c.dirs
  entries : c'.entries = c.entries
  sub : ∀ n, c.sub = some n → c'.sub = some n

theorem Watched.refl : c.Watched c := ⟨rfl, rfl, rfl, fun _ h => h⟩

/-- What a collection is at every moment: one that is not loaded holds neither members nor
directives, so it is never partially populated; one that is loaded holds the subscription
that watched its table before it was read. -/
structure Sound : Prop where
  whole : c.loaded = false → c.entries = [] ∧ c.dirs = Directives.none
  watched : c.loaded = true → c.sub.isSome

theorem sound_empty : (empty : Collection α).Sound :=
  ⟨fun _ => ⟨rfl, rfl⟩, fun h => nomatch h⟩

theorem sound_reset : c.reset.Sound :=
  ⟨fun _ => ⟨rfl, rfl⟩, fun h => nomatch h⟩

/-- A collection let go of: dropped, and with no subscription, as a release leaves it. -/
def released : Collection α := { c.reset with sub := none }

@[simp] theorem released_sub : c.released.sub = none := rfl

@[simp] theorem released_loaded : c.released.loaded = false := rfl

@[simp] theorem released_released : c.released.released = c.released := rfl

@[simp] theorem reset_released : c.reset.released = c.released := rfl

theorem sound_release : c.released.Sound :=
  ⟨fun _ => ⟨rfl, rfl⟩, fun h => nomatch h⟩

theorem Sound.watched_by {c c' : Collection α} (hc : c.Sound) (hw : c.Watched c') : c'.Sound := by
  refine ⟨fun hl => ?_, fun hl => ?_⟩
  · rw [hw.entries, hw.dirs]
    exact hc.whole (hw.loaded ▸ hl)
  · obtain ⟨n, hn⟩ := Option.isSome_iff_exists.1 (hc.watched (hw.loaded ▸ hl))
    simp [hw.sub n hn]

/-- A collection filled by a read, once subscribed, is sound. -/
theorem sound_fill {dirs : Directives} {es : List (Bytes × α)} (hs : c.sub.isSome) :
    ({ c with loaded := true, dirs := dirs, entries := es } : Collection α).Sound :=
  ⟨(fun h => nomatch h), fun _ => hs⟩

end Collection

/-! ### Slots that keep their collection -/

variable {σ α : Type} [EntityHost σ]

/-- A reader of the collection at `view`: it changes the collection only by subscribing it, and
when it returns, the collection is subscribed. -/
def Slot.Reads (view : σ → Option (Collection α)) (read : EntityM σ (List (Bytes × α))) : Prop :=
  ∀ s c, view s = some c → Ends read s
    (fun _ s' => ∃ c', view s' = some c' ∧ c.Watched c' ∧ c'.sub.isSome)
    (fun _ s' => ∃ c', view s' = some c' ∧ c.Watched c')

/-- A slot that keeps its collection where `view` reads it: reading the slot gives that
collection and changes nothing, replacing it puts the new one there, and counting a metric
leaves it alone. -/
structure Slot.Lawful (sl : Slot σ α) (view : σ → Option (Collection α)) : Prop where
  /-- Reading. -/
  get : ∀ {s c}, view s = some c → sl.get.run.run s = (.ok c, s)
  /-- Replacing. -/
  set : ∀ {s c} (c' : Collection α), view s = some c →
    ∃ s', (sl.set c').run.run s = (.ok (), s') ∧ view s' = some c'
  /-- Counting. -/
  count : ∀ s name, view (EntityHost.setEntities s
    { ent s with metrics := (ent s).metrics.bump name 1 }) = view s

namespace Slot.Lawful

variable {sl : Slot σ α} {view : σ → Option (Collection α)} (h : sl.Lawful view)
  {s : σ} {c : Collection α} (hv : view s = some c)
include h hv

theorem ends_get {Q : Collection α → σ → Prop} {E : Failure → σ → Prop} :
    Ends sl.get s Q E ↔ Q c s :=
  Ends.iff_of_run_ok (h.get hv)

theorem ends_modify (g : Collection α → Collection α) :
    ∃ s', view s' = some (g c) ∧ ∀ {Q : Unit → σ → Prop} {E : Failure → σ → Prop},
      (Ends (sl.modify g) s Q E ↔ Q () s') := by
  obtain ⟨s', hs', hv'⟩ := h.set (g c) hv
  refine ⟨s', hv', ?_⟩
  intro Q E
  unfold Slot.modify
  rw [Ends.bind_iff, h.ends_get hv]
  exact Ends.iff_of_run_ok hs'

/-- **A hit.** A collection loaded under the same directives answers with its members as they
are; only the hit is counted, and neither the reader nor the watcher runs. -/
theorem load_hit (hl : c.loaded = true) {dirs : Directives} (hdirs : c.dirs = dirs)
    (kind : CollectionKind) (read : Directives → (Nat → EntityM σ Unit) → EntityM σ (List (Bytes × α)))
    (watch : Nat → EntityM σ Unit) :
    (sl.load kind dirs read watch).run.run s =
      (.ok c.members, EntityHost.setEntities s
        { ent s with metrics := (ent s).metrics.bump (Metric.hit kind) 1 }) := by
  apply Ends.run_eq
  unfold Slot.load
  simp only [Ends.bind_iff, h.ends_get hv, hl, hdirs, ne_eq, not_true_eq_false, and_false,
    ↓reduceIte, Entities.ends_count, Ends.pure_iff, and_self]

/-- **A miss.** A collection that is not loaded, or is loaded under other directives, is
dropped, and the reader runs once, handed the directives and the watcher, from a state where
the collection is not loaded; what it reads fills the collection. -/
theorem load_miss {dirs : Directives} (hmiss : ¬(c.loaded = true ∧ c.dirs = dirs))
    (kind : CollectionKind) (read : Directives → (Nat → EntityM σ Unit) → EntityM σ (List (Bytes × α)))
    (watch : Nat → EntityM σ Unit) :
    ∃ s₁, view s₁ = some (if c.loaded then c.reset else c) ∧
      (sl.load kind dirs read watch).run.run s =
        (do
          let es ← read dirs watch
          sl.modify fun c => { c with loaded := true, dirs := dirs, entries := es }
          Entities.count (Metric.load kind)
          return es.map Prod.snd : EntityM σ (List α)).run.run s₁ := by
  unfold Slot.load
  rw [run_bind_of_ok (h.get hv)]
  dsimp only
  by_cases hl : c.loaded = true
  · -- loaded under other directives: dropped first
    have hdirs : c.dirs ≠ dirs := fun hd => hmiss ⟨hl, hd⟩
    obtain ⟨s₀, hs₀, hv₀⟩ := h.set c.reset hv
    have hv₁ := (h.count s₀ (Metric.invalidated kind "directives")).trans hv₀
    refine ⟨_, by simpa [hl] using hv₁, ?_⟩
    rw [if_pos ⟨hl, hdirs⟩, run_bind_of_ok hs₀, run_bind_of_ok (Entities.run_count _ _),
      run_bind_of_ok (h.get hv₁)]
    rfl
  · refine ⟨s, by simp [hl, hv], ?_⟩
    rw [if_neg (fun h' => hl h'.1), run_bind_of_ok (h.get hv), if_neg hl]

/-- **Loading keeps a collection sound.** A load that answers leaves the collection loaded
under its directives, with the answer as its members; one that fails, in the reader or in
subscribing, leaves it not loaded. Either way the collection stays sound and keeps the
subscription it held. -/
theorem load_ends (hc : c.Sound) {dirs : Directives} {kind : CollectionKind}
    {read : Directives → (Nat → EntityM σ Unit) → EntityM σ (List (Bytes × α))}
    {watch : Nat → EntityM σ Unit} (hr : Slot.Reads view (read dirs watch)) :
    Ends (sl.load kind dirs read watch) s
      (fun xs s' => ∃ c', view s' = some c' ∧ c'.Sound ∧ c'.loaded = true ∧ c'.dirs = dirs ∧
        c'.members = xs ∧ ∀ n, c.sub = some n → c'.sub = some n)
      (fun _ s' => ∃ c', view s' = some c' ∧ c'.Sound ∧ c'.loaded = false ∧
        ∀ n, c.sub = some n → c'.sub = some n) := by
  by_cases hit : c.loaded = true ∧ c.dirs = dirs
  · rw [Ends.iff_of_run_ok (h.load_hit hv hit.1 hit.2 kind read watch)]
    exact ⟨c, (h.count s _).trans hv, hc, hit.1, hit.2, rfl, fun _ h => h⟩
  obtain ⟨s₁, hv₁, hrun⟩ := h.load_miss hv hit kind read watch
  rw [Ends.congr_run hrun, Ends.bind_iff]
  -- the reader starts from the collection not loaded, sound, with its subscription
  obtain ⟨c₁, hc₁, hl₁, hs₁, hsub₁⟩ : ∃ c₁, view s₁ = some c₁ ∧ c₁.loaded = false ∧ c₁.Sound ∧
      ∀ n, c.sub = some n → c₁.sub = some n := by
    by_cases hl : c.loaded = true
    · exact ⟨c.reset, by simpa [hl] using hv₁, rfl, Collection.sound_reset c, fun _ h => h⟩
    · exact ⟨c, by simpa [hl] using hv₁, by simpa using hl, hc, fun _ h => h⟩
  refine (hr s₁ c₁ hc₁).mono ?_ ?_
  · rintro es s₂ ⟨c₂, hv₂, hw₂, hsub₂⟩
    obtain ⟨s₃, hv₃, hmod⟩ := h.ends_modify hv₂
      fun c => { c with loaded := true, dirs := dirs, entries := es }
    rw [Ends.bind_iff, hmod, Ends.bind_iff, Entities.ends_count, Ends.pure_iff]
    refine ⟨_, (h.count s₃ _).trans hv₃, Collection.sound_fill c₂ hsub₂, rfl, rfl, rfl,
      fun n hn => hw₂.sub n (hsub₁ n hn)⟩
  · rintro _ s₂ ⟨c₂, hv₂, hw₂⟩
    exact ⟨c₂, hv₂, hs₁.watched_by hw₂, hw₂.loaded.trans hl₁, fun n hn => hw₂.sub n (hsub₁ n hn)⟩

variable {d : Driver (EntityM σ)}

/-- **One subscription.** A collection that holds a subscription subscribes no more: watching
it changes nothing and calls nothing. -/
theorem watch_subscribed (hs : c.sub.isSome) (kind : CollectionKind) (l : Listener) (t : Nat) :
    (sl.watch d kind l t).run.run s = (.ok (), s) := by
  apply Ends.run_eq
  unfold Slot.watch
  simp [Ends.bind_iff, h.ends_get hv, hs]

/-- Watching a collection subscribes it when it holds no subscription; a failed subscription
leaves it as it was. -/
theorem watch_ends {kind : CollectionKind} {l : Listener} {t : Nat}
    (hd : Stays view (d.subscribe t l)) :
    Ends (sl.watch d kind l t) s
      (fun _ s' => ∃ c', view s' = some c' ∧ c.Watched c' ∧ c'.sub.isSome)
      (fun _ s' => view s' = some c) := by
  unfold Slot.watch
  rw [Ends.bind_iff, h.ends_get hv]
  split
  · rename_i hs
    exact ⟨c, hv, Collection.Watched.refl c, hs⟩
  · rename_i hs
    rw [Ends.bind_iff, ends_wrapping]
    refine (hd (some c) s hv).mono (fun n s₁ (hv₁ : view s₁ = some c) => ?_) fun _ _ h => h
    obtain ⟨s₂, hv₂, hmod⟩ := h.ends_modify hv₁ fun c => { c with sub := some n }
    rw [hmod]
    refine ⟨_, hv₂, ⟨rfl, rfl, rfl, fun m hm => ?_⟩, rfl⟩
    simp [hm] at hs

/-- **Releasing** drops the collection and its subscription, whether ending the subscription
succeeds or not. -/
theorem release_ends (hd : ∀ n, Stays view (d.unsubscribe n)) :
    Ends (sl.release d) s (fun _ s' => view s' = some c.released) fun _ _ => False := by
  unfold Slot.release
  rw [Ends.bind_iff, h.ends_get hv]
  obtain ⟨s₁, hs₁, hv₁⟩ := h.set c.released hv
  -- the release writes the collection back in the form it spells out
  have hs₁' : (sl.set { c.reset with sub := none }).run.run s = (.ok (), s₁) := hs₁
  rw [Ends.bind_iff, Ends.iff_of_run_ok hs₁']
  split
  · exact hv₁
  · rename_i n _
    rw [Ends.tryCatch_iff, Ends.bind_iff]
    refine (hd n _ s₁ hv₁).mono (fun _ _ h => h) fun _ _ h => h

omit hv in
/-- Handing the table to the collection's own watcher, and then leaving the collection alone,
reads it. -/
theorem reads_watch {d : Driver (EntityM σ)} {kind : CollectionKind} {l : Listener} {t : Nat}
    (hsub : Stays view (d.subscribe t l)) {post : EntityM σ (List (Bytes × α))}
    (hpost : ∀ c, Keeps (fun s => view s = some c) post) :
    Slot.Reads view (sl.watch d kind l t >>= fun _ => post) := by
  intro s c hv
  rw [Ends.bind_iff]
  refine (h.watch_ends hv hsub).mono (fun _ s₁ ⟨c', hv₁, hw, hs⟩ => ?_) fun _ _ hv₁ =>
    ⟨c, hv₁, .refl c⟩
  exact (hpost c' s₁ hv₁).mono (fun _ _ h => ⟨c', h, hw, hs⟩) fun _ _ h => ⟨c', h, hw⟩

end Slot.Lawful

omit [EntityHost σ] in
/-- What leaves the collection alone before a reader of it keeps it a reader. -/
theorem Slot.Reads.bind_of_keeps {β : Type} {view : σ → Option (Collection α)}
    {x : EntityM σ β} {f : β → EntityM σ (List (Bytes × α))}
    (hx : ∀ c, Keeps (fun s => view s = some c) x) (hf : ∀ b, Slot.Reads view (f b)) :
    Slot.Reads view (x >>= f) := by
  intro s c hv
  rw [Ends.bind_iff]
  exact (hx c s hv).mono (fun b s₁ hv₁ => hf b s₁ c hv₁) fun _ _ hv₁ => ⟨c, hv₁, .refl c⟩

/-! ### Runs of one collection -/

/-- What one collection goes through: loads under directives, each by a reader handed the
collection's own watcher; drops by a notification or a clearing, which keep the subscription;
and releases. -/
inductive CollectionStep (σ α : Type) where
  /-- A load under directives by a reader. -/
  | load (kind : CollectionKind) (dirs : Directives)
      (read : Directives → (Nat → EntityM σ Unit) → EntityM σ (List (Bytes × α)))
      (listener : Listener)
  /-- A drop by a notification or a clearing. -/
  | drop
  /-- A release by a close. -/
  | release

namespace CollectionStep

variable (sl : Slot σ α) (d : Driver (EntityM σ))

/-- Runs one step on the collection of a slot. -/
def exec : CollectionStep σ α → EntityM σ Unit
  | .load kind dirs read l => discard (sl.load kind dirs read (sl.watch d kind l))
  | .drop => sl.modify Collection.reset
  | .release => discard (sl.release d)

/-- Runs steps in order, each from where the last ended, whether it answered or failed. -/
def run : List (CollectionStep σ α) → σ → σ
  | [], s => s
  | q :: qs, s => run qs ((exec sl d q).run.run s).2

/-- A step whose reader, handed the collection's own watcher, reads the collection. -/
def Reads (view : σ → Option (Collection α)) : CollectionStep σ α → Prop
  | .load kind dirs read l => Slot.Reads view (read dirs (sl.watch d kind l))
  | _ => True

variable {sl d} {view : σ → Option (Collection α)} (h : sl.Lawful view)
  (hunsub : ∀ n, Stays view (d.unsubscribe n))
include h hunsub

/-- **One step keeps the collection sound**, and keeps its subscription unless it releases it. -/
theorem exec_sound {s : σ} {c : Collection α} (hv : view s = some c) (hc : c.Sound)
    (q : CollectionStep σ α) (hq : q.Reads sl d view) :
    Ends (q.exec sl d) s
      (fun _ s' => ∃ c', view s' = some c' ∧ c'.Sound ∧
        (q ≠ .release → ∀ n, c.sub = some n → c'.sub = some n))
      (fun _ s' => ∃ c', view s' = some c' ∧ c'.Sound ∧
        (q ≠ .release → ∀ n, c.sub = some n → c'.sub = some n)) := by
  cases q with
  | load kind dirs read l =>
    refine Ends.map_iff.2 ?_
    exact (h.load_ends hv hc hq).mono
      (fun _ _ ⟨c', hv', hc', _, _, _, hs'⟩ => ⟨c', hv', hc', fun _ => hs'⟩)
      fun _ _ ⟨c', hv', hc', _, hs'⟩ => ⟨c', hv', hc', fun _ => hs'⟩
  | drop =>
    obtain ⟨s', hv', hmod⟩ := h.ends_modify hv Collection.reset
    rw [exec, hmod]
    exact ⟨_, hv', Collection.sound_reset c, fun _ _ hn => hn⟩
  | release =>
    refine Ends.map_iff.2 ((h.release_ends hv hunsub).mono (fun _ _ hv' => ?_) fun _ _ h => h.elim)
    exact ⟨_, hv', Collection.sound_release c, fun h => absurd rfl h⟩

/-- **Every run keeps the collection sound**, and a run without a release keeps the
subscription the collection held; as watching a subscribed collection calls nothing, a
collection subscribes at most once until it is released. -/
theorem run_sound (qs : List (CollectionStep σ α)) (hqs : ∀ q ∈ qs, q.Reads sl d view)
    {s : σ} {c : Collection α} (hv : view s = some c) (hc : c.Sound) :
    ∃ c', view (run sl d qs s) = some c' ∧ c'.Sound ∧
      ((∀ q ∈ qs, q ≠ .release) → ∀ n, c.sub = some n → c'.sub = some n) := by
  induction qs generalizing s c with
  | nil => exact ⟨c, hv, hc, fun _ _ h => h⟩
  | cons q qs ih =>
    obtain ⟨c₁, hv₁, hc₁, hs₁⟩ := (exec_sound h hunsub hv hc q (hqs q List.mem_cons_self)).state
    obtain ⟨c', hv', hc', hs'⟩ := ih (fun q hq => hqs q (List.mem_cons_of_mem _ hq)) hv₁ hc₁
    refine ⟨c', hv', hc', fun hrel n hn => ?_⟩
    exact hs' (fun q hq => hrel q (List.mem_cons_of_mem _ hq)) n
      (hs₁ (hrel q List.mem_cons_self) n hn)

end CollectionStep

/-! ### The machine -/

/-- What a lazy collection does: the collection at `view`, kept by the slot `sl`, loaded by
`read` and watched through the driver `d` under the listener `l`. -/
structure Slot.Machine (sl : Slot σ α) (view : σ → Option (Collection α))
    (d : Driver (EntityM σ)) (kind : CollectionKind) (l : Listener)
    (read : Directives → (Nat → EntityM σ Unit) → EntityM σ (List (Bytes × α))) : Prop where
  /-- A load under the directives the collection is loaded with answers with its members as
  they are and counts the hit; whatever reader and watcher it is given, neither runs. -/
  hit : ∀ s c dirs, view s = some c → c.loaded = true → c.dirs = dirs →
    ∀ read' watch', (sl.load kind dirs read' watch').run.run s =
      (.ok c.members, EntityHost.setEntities s
        { ent s with metrics := (ent s).metrics.bump (Metric.hit kind) 1 })
  /-- Any other load drops the collection and runs the reader once, from a state where the
  collection is not loaded; what the reader gives fills the collection. -/
  miss : ∀ s c dirs, view s = some c → ¬(c.loaded = true ∧ c.dirs = dirs) →
    ∃ s₁, view s₁ = some (if c.loaded then c.reset else c) ∧
      (sl.load kind dirs read (sl.watch d kind l)).run.run s =
        (do
          let es ← read dirs (sl.watch d kind l)
          sl.modify fun c => { c with loaded := true, dirs := dirs, entries := es }
          Entities.count (Metric.load kind)
          return es.map Prod.snd : EntityM σ (List α)).run.run s₁
  /-- From a sound collection, a load that answers leaves it loaded under its directives with
  the answer as its members, and one that fails, in reading or in subscribing, leaves it not
  loaded; it stays sound and keeps its subscription. -/
  load : ∀ s c dirs, view s = some c → c.Sound →
    Ends (sl.load kind dirs read (sl.watch d kind l)) s
      (fun xs s' => ∃ c', view s' = some c' ∧ c'.Sound ∧ c'.loaded = true ∧ c'.dirs = dirs ∧
        c'.members = xs ∧ ∀ n, c.sub = some n → c'.sub = some n)
      (fun _ s' => ∃ c', view s' = some c' ∧ c'.Sound ∧ c'.loaded = false ∧
        ∀ n, c.sub = some n → c'.sub = some n)
  /-- A subscribed collection calls nothing to watch a table. -/
  subscribed : ∀ s c t, view s = some c → c.sub.isSome →
    (sl.watch d kind l t).run.run s = (.ok (), s)
  /-- A release leaves the collection not loaded and without a subscription, and never fails. -/
  release : ∀ s c, view s = some c →
    Ends (sl.release d) s (fun _ s' => view s' = some c.released) fun _ _ => False
  /-- Along every run of loads by readers of the collection, drops and releases, a sound
  collection stays sound, and without a release it keeps its subscription. -/
  run : ∀ qs : List (CollectionStep σ α), (∀ q ∈ qs, q.Reads sl d view) →
    ∀ s c, view s = some c → c.Sound →
      ∃ c', view (CollectionStep.run sl d qs s) = some c' ∧ c'.Sound ∧
        ((∀ q ∈ qs, q ≠ .release) → ∀ n, c.sub = some n → c'.sub = some n)
  /-- The member with a key is the one at the last position with that key; a collection that
  is not loaded has none. -/
  lookup : ∀ (c : Collection α) key a, c.lookup key = some a ↔
    c.loaded = true ∧ ∃ pre post, c.entries = pre ++ (key, a) :: post ∧ ∀ p ∈ post, p.1 ≠ key
  /-- Picking keys gives their members in order, or fails with the first key that has none. -/
  pick : ∀ (c : Collection α) name ids,
    (∀ as, c.pick name ids = .ok as ↔ List.Forall₂ (fun id a => c.lookup id = some a) ids as) ∧
    ∀ f, c.pick name ids = .error f ↔ ∃ pre id post, ids = pre ++ id :: post ∧
      (∀ i ∈ pre, c.lookup i ≠ none) ∧ c.lookup id = none ∧ f = notFound name id

/-- **The lazy collection machine.** A lawful slot whose reader reads its collection, watched
through a driver that leaves the collection alone, behaves as `Slot.Machine` says. -/
theorem Slot.Lawful.machine {sl : Slot σ α} {view : σ → Option (Collection α)} (h : sl.Lawful view)
    {d : Driver (EntityM σ)} (hd : d.Stays view) {kind : CollectionKind} {l : Listener}
    {read : Directives → (Nat → EntityM σ Unit) → EntityM σ (List (Bytes × α))}
    (hr : ∀ dirs, Slot.Reads view (read dirs (sl.watch d kind l))) :
    sl.Machine view d kind l read where
  hit _ _ _ hv hl hdirs := h.load_hit hv hl hdirs kind
  miss _ _ _ hv hmiss := h.load_miss hv hmiss kind read _
  load _ _ dirs hv hc := h.load_ends hv hc (hr dirs)
  subscribed _ _ t hv hs := h.watch_subscribed hv hs kind l t
  release _ _ hv := h.release_ends hv hd.unsubscribe
  run qs hqs _ _ hv hc := CollectionStep.run_sound h hd.unsubscribe qs hqs hv hc
  lookup c _ _ := c.lookup_eq_some_iff
  pick c _ _ := ⟨fun _ => c.pick_eq_ok_iff, fun _ => c.pick_eq_error_iff⟩

end MailStore
