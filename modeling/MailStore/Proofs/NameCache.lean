import Mathlib
import MailStore.Prop.NameCache
import MailStore.Proofs.Returns

/-!
# Runs of the named-property cache

A session's name cache only grows. Whatever the store answers, every cache a session passes
through satisfies the representation invariant `NameCache.WellFormed`:

* each entry is the one its own name finds, so the names of the entries are the keys of the
  cache and an entry's name is its key;
* every entry an id answers with is an entry of the cache;
* entries carry distinct serial numbers, all below the next one, so a serial number
  identifies an entry the way a pointer does;
* every entry's tag is untyped and lies in the named range.

No mapping is ever removed or changed (`NameCache.Extends`): a name or an id that answers
with an entry answers with the same entry in every later cache, and every later call
answers a request for it with that entry's tag and name. A call that fails returns no
cache, so the caller goes on with the one it had.

The store behind the cache is any `NameResolver` whose effects run in a state and may fail:
the laws hold for every answer it gives, of any length and with any repeats.

## Main statements

* `NameCache.insert_wellFormed`, `NameCache.insert_extends`: one insertion keeps the
  invariant and every mapping.
* `NameCache.resolveNamed_returns`, `NameCache.resolveIds_returns`: what a successful call
  can return, whatever the store answers.
* `NameCache.trace_wellFormed_stable`: along every run of calls from the empty cache, the
  invariant holds, every mapping persists, and cached requests are answered from the cache.
-/

namespace MailStore

namespace NameCache

variable {σ : Type} {c c' c'' : NameCache} {n : NamedId} {t : Tag} {e : CachedName}

/-! ### The representation invariant -/

/-- The representation invariant of a name cache. -/
structure WellFormed (c : NameCache) : Prop where
  /-- Every entry is the one its own name finds. -/
  find?_self : ∀ e ∈ c.entries, c.find? e.name = some e
  /-- An id answers only with entries of the cache. -/
  mem_of_findId? : ∀ {k e}, c.findId? k = some e → e ∈ c.entries
  /-- Serial numbers are issued in increasing order. -/
  serial_lt : ∀ e ∈ c.entries, e.serial < c.issued
  /-- No serial number is issued twice. -/
  serial_nodup : (c.entries.map CachedName.serial).Nodup
  /-- Cached tags have no wire type and a named id. -/
  tag_named : ∀ e ∈ c.entries,
    e.tag.type = PropType.unspecified ∧ Tag.namedThreshold ≤ e.tag.id

/-- `c'` keeps every mapping of `c`: each name and each id `c` answers for answers with the
same entry in `c'`. -/
structure Extends (c c' : NameCache) : Prop where
  /-- Names keep their entries. -/
  find? : ∀ {n e}, c.find? n = some e → c'.find? n = some e
  /-- Ids keep their entries. -/
  findId? : ∀ {k e}, c.findId? k = some e → c'.findId? k = some e

theorem Extends.refl (c : NameCache) : Extends c c := ⟨id, id⟩

theorem Extends.trans (h : Extends c c') (h' : Extends c' c'') : Extends c c'' :=
  ⟨fun hf => h'.find? (h.find? hf), fun hf => h'.findId? (h.findId? hf)⟩

theorem empty_wellFormed : empty.WellFormed where
  find?_self := by simp [empty]
  mem_of_findId? := by simp [empty, findId?]
  serial_lt := by simp [empty]
  serial_nodup := by simp [empty]
  tag_named := by simp [empty]

/-- Entries with one serial number are one entry. -/
theorem WellFormed.eq_of_serial_eq (hc : c.WellFormed) {e₁ e₂ : CachedName}
    (h₁ : e₁ ∈ c.entries) (h₂ : e₂ ∈ c.entries) (h : e₁.serial = e₂.serial) : e₁ = e₂ :=
  List.inj_on_of_nodup_map hc.serial_nodup h₁ h₂ h

/-! ### Looking up names and ids -/

theorem mem_of_find? (h : c.find? n = some e) : e ∈ c.entries :=
  List.mem_of_find?_eq_some h

theorem name_of_find? (h : c.find? n = some e) : e.name = n := by
  simpa using List.find?_some h

@[simp]
theorem entries_setId (c : NameCache) (k : UInt16) (e : CachedName) :
    (c.setId k e).entries = c.entries := rfl

@[simp]
theorem issued_setId (c : NameCache) (k : UInt16) (e : CachedName) :
    (c.setId k e).issued = c.issued := rfl

@[simp]
theorem find?_setId (c : NameCache) (k : UInt16) (e : CachedName) :
    (c.setId k e).find? = c.find? := rfl

/-- After `setId id e`, the id answers with `e` and every other id as before. -/
theorem findId?_setId (c : NameCache) (k k' : UInt16) (e : CachedName) :
    (c.setId k e).findId? k' = if k' = k then some e else c.findId? k' := by
  simp only [setId, findId?]
  by_cases h : k' = k
  · simp [h]
  · have hhead : decide (k = k') = false := by simpa using Ne.symm h
    rw [if_neg h]
    simp only [List.find?_cons, hhead, List.find?_filter]
    congr 2
    funext p
    by_cases hp : p.1 = k' <;> simp [hp, h]

/-! ### Insertion -/

/-- The entry a fresh insertion of `n` with `t` creates. -/
def fresh (c : NameCache) (n : NamedId) (t : Tag) : CachedName := ⟨c.issued, n, t⟩

theorem insert_of_find? (h : c.find? n = some e) : c.insert n t = (e, c) := by
  simp [insert, h]

theorem insert_fst_of_find?_none (h : c.find? n = none) : (c.insert n t).1 = c.fresh n t := by
  simp only [insert, h]
  rfl

theorem insert_entries_of_find?_none (h : c.find? n = none) :
    (c.insert n t).2.entries = c.entries ++ [c.fresh n t] := by
  simp only [insert, h]
  split <;> rfl

/-- The entries after a fresh insertion are the old ones and the fresh one. -/
theorem mem_insert_of_find?_none (h : c.find? n = none) :
    e ∈ (c.insert n t).2.entries ↔ e ∈ c.entries ∨ e = c.fresh n t := by
  rw [insert_entries_of_find?_none h, List.mem_append, List.mem_singleton]

/-- After a fresh insertion, a name is looked up among the old entries, then the fresh one. -/
theorem find?_insert_of_find?_none (h : c.find? n = none) (n' : NamedId) :
    (c.insert n t).2.find? n' = (c.entries ++ [c.fresh n t]).find? (fun x => x.name = n') := by
  change (c.insert n t).2.entries.find? _ = _
  rw [insert_entries_of_find?_none h]

theorem insert_issued_of_find?_none (h : c.find? n = none) :
    (c.insert n t).2.issued = c.issued + 1 := by
  simp only [insert, h]
  split <;> rfl

/-- A fresh insertion makes the new entry answer for its id only when no entry did. -/
theorem insert_findId?_of_find?_none (h : c.find? n = none) (k : UInt16) :
    (c.insert n t).2.findId? k =
      (c.findId? k).or (if k = t.id then some (c.fresh n t) else none) := by
  simp only [insert, h]
  split
  · rename_i hid
    change c.findId? k = _
    change (c.findId? t.id).isSome = true at hid
    cases hk : c.findId? k with
    | some e' => rfl
    | none =>
      have hne : k ≠ t.id := fun hkt => by simp [← hkt, hk] at hid
      simp [hne]
  · rename_i hid
    change ¬(c.findId? t.id).isSome = true at hid
    rw [findId?_setId]
    change (if k = t.id then some (c.fresh n t) else c.findId? k) = _
    by_cases hk : k = t.id
    · have hnone : c.findId? t.id = none := by simpa using hid
      simp [hk, hnone]
    · simp [hk]

/-- A name the cache does not know is found, after appending its entry, as that entry. -/
theorem find?_append_of_find?_none (h : c.find? n = none) (he : e.name = n) :
    (c.entries ++ [e]).find? (fun x => x.name = n) = some e := by
  have hnone : c.entries.find? (fun x => x.name = n) = none := h
  rw [List.find?_append, hnone]
  simp [he]

/-- A name the cache knows is found, after appending anything, as before. -/
theorem find?_append_of_find? (h : c.find? n = some e) (l : List CachedName) :
    (c.entries ++ l).find? (fun x => x.name = n) = some e := by
  have hsome : c.entries.find? (fun x => x.name = n) = some e := h
  rw [List.find?_append, hsome, Option.some_or]

/-- The name's entry after an insertion is the entry the insertion gives. -/
theorem find?_insert (c : NameCache) (n : NamedId) (t : Tag) :
    (c.insert n t).2.find? n = some (c.insert n t).1 := by
  cases h : c.find? n with
  | some e => simp [insert_of_find? h, h]
  | none =>
    rw [insert_fst_of_find?_none h, find?_insert_of_find?_none h]
    exact find?_append_of_find?_none h rfl

/-- Insertion keeps every mapping. -/
theorem insert_extends (c : NameCache) (n : NamedId) (t : Tag) : Extends c (c.insert n t).2 := by
  cases h : c.find? n with
  | some e => simpa [insert_of_find? h] using Extends.refl c
  | none =>
    constructor
    · intro n' e' hf
      rw [find?_insert_of_find?_none h]
      exact find?_append_of_find? hf _
    · intro k e' hf
      simp [insert_findId?_of_find?_none h, hf]

/-- The entry an insertion gives is an entry of the new cache. -/
theorem insert_fst_mem (c : NameCache) (n : NamedId) (t : Tag) :
    (c.insert n t).1 ∈ (c.insert n t).2.entries :=
  mem_of_find? (find?_insert c n t)

/-- After a fresh insertion into a well-formed cache, an id answers with an old entry or with
the fresh one. -/
theorem mem_of_findId?_insert (hc : c.WellFormed) (h : c.find? n = none) {k : UInt16}
    {e' : CachedName} (hf : (c.insert n t).2.findId? k = some e') :
    e' ∈ c.entries ∨ e' = c.fresh n t := by
  rw [insert_findId?_of_find?_none h] at hf
  cases hold : c.findId? k with
  | some e₀ =>
    simp only [hold, Option.some_or, Option.some.injEq] at hf
    exact .inl (hf ▸ hc.mem_of_findId? hold)
  | none =>
    simp only [hold, Option.none_or] at hf
    split at hf
    · exact .inr (Option.some.inj hf).symm
    · cases hf

/-- A fresh insertion keeps serial numbers distinct: the fresh one is above every old one. -/
theorem serial_nodup_insert (hc : c.WellFormed) (h : c.find? n = none) :
    ((c.insert n t).2.entries.map CachedName.serial).Nodup := by
  rw [insert_entries_of_find?_none h, List.map_append, List.nodup_append]
  refine ⟨hc.serial_nodup, by simp, ?_⟩
  intro a ha b hb
  simp only [List.mem_map] at ha
  simp only [List.map_cons, List.map_nil, List.mem_singleton] at hb
  obtain ⟨e, he, rfl⟩ := ha
  exact hb ▸ Nat.ne_of_lt (hc.serial_lt e he)

/-- Inserting an untyped named tag keeps the invariant. -/
theorem insert_wellFormed (hc : c.WellFormed) (ht : t.type = PropType.unspecified)
    (hid : Tag.namedThreshold ≤ t.id) : (c.insert n t).2.WellFormed := by
  cases h : c.find? n with
  | some e => simpa [insert_of_find? h] using hc
  | none =>
    constructor
    · intro e he
      rw [find?_insert_of_find?_none h]
      rcases (mem_insert_of_find?_none h).mp he with he | rfl
      · exact find?_append_of_find? (hc.find?_self e he) _
      · exact find?_append_of_find?_none h rfl
    · intro k e' hf
      exact (mem_insert_of_find?_none h).mpr (mem_of_findId?_insert hc h hf)
    · intro e he
      rw [insert_issued_of_find?_none h]
      rcases (mem_insert_of_find?_none h).mp he with he | rfl
      · exact Nat.lt_succ_of_lt (hc.serial_lt e he)
      · exact Nat.lt_succ_self _
    · exact serial_nodup_insert hc h
    · intro e he
      rcases (mem_insert_of_find?_none h).mp he with he | rfl
      · exact hc.tag_named e he
      · exact ⟨ht, hid⟩

/-- Making an entry of the cache answer for an id keeps the invariant. -/
theorem setId_wellFormed (hc : c.WellFormed) {k : UInt16} (he : e ∈ c.entries) :
    (c.setId k e).WellFormed where
  find?_self := by simpa using hc.find?_self
  mem_of_findId? := by
    intro k' e' hf
    rw [findId?_setId] at hf
    split at hf
    · exact (Option.some.inj hf) ▸ he
    · exact hc.mem_of_findId? hf
  serial_lt := hc.serial_lt
  serial_nodup := hc.serial_nodup
  tag_named := hc.tag_named

/-! ### Filing the store's answers -/

/-- The tag the cache files for a named id has no wire type and keeps the id. -/
theorem untyped_named {k : UInt16} (hk : Tag.namedThreshold ≤ k) :
    (untyped k).type = PropType.unspecified ∧ Tag.namedThreshold ≤ (untyped k).id := by
  simpa [untyped] using hk

/-- Filing the store's tags for asked names keeps every mapping. -/
theorem fileIds_extends (acc : List ResolvedTag × NameCache) (ps : List ((Nat × NamedId) × Tag)) :
    Extends acc.2 (fileIds acc ps).2 := by
  induction ps generalizing acc with
  | nil => exact Extends.refl _
  | cons p ps ih =>
    obtain ⟨⟨i, nm⟩, t⟩ := p
    simp only [fileIds]
    split
    · exact ih acc
    · exact (insert_extends acc.2 nm (untyped t.id)).trans
        (ih (acc.1.set i (acc.2.insert nm (untyped t.id)).1.resolved, (acc.2.insert nm (untyped t.id)).2))

/-- Filing the store's tags for asked names keeps the invariant: a tag of the error type or
below the named range is never cached. -/
theorem fileIds_wellFormed (acc : List ResolvedTag × NameCache)
    (ps : List ((Nat × NamedId) × Tag)) (h : acc.2.WellFormed) : (fileIds acc ps).2.WellFormed := by
  induction ps generalizing acc with
  | nil => exact h
  | cons p ps ih =>
    obtain ⟨⟨i, nm⟩, t⟩ := p
    simp only [fileIds]
    split
    · exact ih acc h
    · rename_i hkeep
      have hnamed : Tag.namedThreshold ≤ t.id := by
        simp only [Tag.isNamed, not_or] at hkeep
        simpa using hkeep.2
      obtain ⟨htype, hid⟩ := untyped_named hnamed
      exact ih _ (insert_wellFormed h htype hid)

/-- Filing the store's names for asked ids keeps the invariant, when every asked tag is an
untyped named one. -/
theorem fileNames_wellFormed (acc : List ResolvedTag × NameCache)
    (ps : List ((Nat × Tag) × Option NamedId)) (h : acc.2.WellFormed)
    (hps : ∀ p ∈ ps, p.1.2.type = PropType.unspecified ∧ Tag.namedThreshold ≤ p.1.2.id) :
    (fileNames acc ps).2.WellFormed := by
  induction ps generalizing acc with
  | nil => exact h
  | cons p ps ih =>
    obtain ⟨⟨i, t⟩, nm⟩ := p
    have hrest : ∀ p ∈ ps, p.1.2.type = PropType.unspecified ∧ Tag.namedThreshold ≤ p.1.2.id :=
      fun p hp => hps p (List.mem_cons_of_mem _ hp)
    cases nm with
    | none => exact ih acc h hrest
    | some nm =>
      obtain ⟨htype, hid⟩ := hps _ List.mem_cons_self
      simp only [fileNames]
      exact ih _ (setId_wellFormed (insert_wellFormed h htype hid) (insert_fst_mem _ _ _)) hrest

/-- Filing the store's names for asked ids keeps every mapping of a cache `c₀` the filing
started from, when `c₀` lacks every asked id: an id is only ever pointed at a new entry while
no entry of `c₀` answers for it. -/
theorem fileNames_extends {c₀ : NameCache} (acc : List ResolvedTag × NameCache)
    (ps : List ((Nat × Tag) × Option NamedId)) (h : Extends c₀ acc.2)
    (hps : ∀ p ∈ ps, c₀.findId? p.1.2.id = none) : Extends c₀ (fileNames acc ps).2 := by
  induction ps generalizing acc with
  | nil => exact h
  | cons p ps ih =>
    obtain ⟨⟨i, t⟩, nm⟩ := p
    have hrest : ∀ p ∈ ps, c₀.findId? p.1.2.id = none :=
      fun p hp => hps p (List.mem_cons_of_mem _ hp)
    cases nm with
    | none => exact ih acc h hrest
    | some nm =>
      have hfree : c₀.findId? t.id = none := hps ((i, t), some nm) List.mem_cons_self
      have hins : Extends c₀ (acc.2.insert nm t).2 := h.trans (insert_extends acc.2 nm t)
      have hset : Extends c₀ ((acc.2.insert nm t).2.setId t.id (acc.2.insert nm t).1) := by
        constructor
        · intro n' e' hf
          exact hins.find? hf
        · intro k e' hf
          have hk : k ≠ t.id := by
            rintro rfl
            rw [hfree] at hf
            cases hf
          rw [findId?_setId, if_neg hk]
          exact hins.findId? hf
      simp only [fileNames]
      exact ih _ hset hrest

/-- Filing touches only the asked positions of the answer. -/
theorem fileIds_getElem? (acc : List ResolvedTag × NameCache) (ps : List ((Nat × NamedId) × Tag))
    {i : Nat} (hi : ∀ p ∈ ps, p.1.1 ≠ i) : (fileIds acc ps).1[i]? = acc.1[i]? := by
  induction ps generalizing acc with
  | nil => rfl
  | cons p ps ih =>
    obtain ⟨⟨j, nm⟩, t⟩ := p
    have hrest : ∀ p ∈ ps, p.1.1 ≠ i := fun p hp => hi p (List.mem_cons_of_mem _ hp)
    have hj : j ≠ i := hi _ List.mem_cons_self
    simp only [fileIds]
    split
    · exact ih acc hrest
    · rw [ih _ hrest, List.getElem?_set_ne hj]

/-- Filing touches only the asked positions of the answer. -/
theorem fileNames_getElem? (acc : List ResolvedTag × NameCache)
    (ps : List ((Nat × Tag) × Option NamedId)) {i : Nat} (hi : ∀ p ∈ ps, p.1.1 ≠ i) :
    (fileNames acc ps).1[i]? = acc.1[i]? := by
  induction ps generalizing acc with
  | nil => rfl
  | cons p ps ih =>
    obtain ⟨⟨j, t⟩, nm⟩ := p
    have hrest : ∀ p ∈ ps, p.1.1 ≠ i := fun p hp => hi p (List.mem_cons_of_mem _ hp)
    have hj : j ≠ i := hi _ List.mem_cons_self
    cases nm with
    | none => exact ih acc hrest
    | some nm =>
      simp only [fileNames]
      rw [ih _ hrest, List.getElem?_set_ne hj]

/-! ### The first pass over a request -/

/-- The first pass answers a requested name the cache knows from its entry. -/
theorem lookupNamed_cached (hf : c.find? n = some e) :
    ∀ (k : Nat) (ids : List PropertyId) (i : Nat), ids[i]? = some (.named n) →
      (c.lookupNamed k ids).1[i]? = some e.resolved
  | _, [], _, hi => by simp at hi
  | k, p :: ids, i, hi => by
    cases p with
    | numeric m =>
      cases i with
      | zero => simp at hi
      | succ i => simpa [lookupNamed] using lookupNamed_cached hf (k + 1) ids i (by simpa using hi)
    | named nm =>
      cases i with
      | zero =>
        have hn : nm = n := by simpa using hi
        subst hn
        simp [lookupNamed, hf]
      | succ i =>
        have ih := lookupNamed_cached hf (k + 1) ids i (by simpa using hi)
        simp only [lookupNamed]
        split <;> simpa using ih

/-- Every name the first pass asks the store for is requested at its position, and the
cache does not know it. -/
theorem lookupNamed_pending {nm : NamedId} :
    ∀ (k : Nat) (ids : List PropertyId) (j : Nat), (j, nm) ∈ (c.lookupNamed k ids).2.1 →
      ∃ i, j = k + i ∧ ids[i]? = some (.named nm) ∧ c.find? nm = none
  | _, [], _, h => by simp [lookupNamed] at h
  | k, p :: ids, j, h => by
    have ih : (j, nm) ∈ (c.lookupNamed (k + 1) ids).2.1 →
        ∃ i, j = k + (i + 1) ∧ (p :: ids)[i + 1]? = some (.named nm) ∧ c.find? nm = none := by
      intro hj
      obtain ⟨i, rfl, hi, hf⟩ := lookupNamed_pending (k + 1) ids j hj
      exact ⟨i, by omega, by simpa using hi, hf⟩
    cases p with
    | numeric m =>
      obtain ⟨i, hj, hi, hf⟩ := ih (by simpa [lookupNamed] using h)
      exact ⟨i + 1, hj, hi, hf⟩
    | named nm' =>
      simp only [lookupNamed] at h
      split at h
      · obtain ⟨i, hj, hi, hf⟩ := ih (by simpa using h)
        exact ⟨i + 1, hj, hi, hf⟩
      · rename_i hnone
        simp only [List.mem_cons, Prod.mk.injEq] at h
        rcases h with ⟨rfl, rfl⟩ | h
        · exact ⟨0, rfl, rfl, hnone⟩
        · obtain ⟨i, hj, hi, hf⟩ := ih h
          exact ⟨i + 1, hj, hi, hf⟩

/-- The first pass answers a requested named id the cache knows from its entry. -/
theorem lookupIds_cached {t : Tag} (hnamed : Tag.namedThreshold ≤ t.id)
    (hf : c.findId? t.id = some e) :
    ∀ (k : Nat) (tags : List Tag) (i : Nat), tags[i]? = some t →
      (c.lookupIds k tags).1[i]? = some e.resolved
  | _, [], _, hi => by simp at hi
  | k, u :: tags, i, hi => by
    cases i with
    | zero =>
      have hu : u = t := by simpa using hi
      subst hu
      have hlow : ¬u.id < Tag.namedThreshold := UInt16.not_lt.mpr hnamed
      simp [lookupIds, hlow, hf]
    | succ i =>
      have ih := lookupIds_cached hnamed hf (k + 1) tags i (by simpa using hi)
      simp only [lookupIds]
      split
      · simpa using ih
      · split <;> simpa using ih

/-- Every tag the first pass asks the store to name is the untyped tag of a requested named
id at its position, and the cache does not know the id. -/
theorem lookupIds_pending {u : Tag} :
    ∀ (k : Nat) (tags : List Tag) (j : Nat), (j, u) ∈ (c.lookupIds k tags).2.1 →
      ∃ i t, j = k + i ∧ tags[i]? = some t ∧ u = untyped t.id ∧
        Tag.namedThreshold ≤ t.id ∧ c.findId? t.id = none
  | _, [], _, h => by simp [lookupIds] at h
  | k, t :: tags, j, h => by
    have ih : (j, u) ∈ (c.lookupIds (k + 1) tags).2.1 →
        ∃ i t', j = k + (i + 1) ∧ (t :: tags)[i + 1]? = some t' ∧ u = untyped t'.id ∧
          Tag.namedThreshold ≤ t'.id ∧ c.findId? t'.id = none := by
      intro hj
      obtain ⟨i, t', rfl, hi, hu, hnamed, hf⟩ := lookupIds_pending (k + 1) tags j hj
      exact ⟨i, t', by omega, by simpa using hi, hu, hnamed, hf⟩
    simp only [lookupIds] at h
    split at h
    · obtain ⟨i, t', hj, hi, hu, hnamed, hf⟩ := ih (by simpa using h)
      exact ⟨i + 1, t', hj, hi, hu, hnamed, hf⟩
    · rename_i hhigh
      split at h
      · obtain ⟨i, t', hj, hi, hu, hnamed, hf⟩ := ih (by simpa using h)
        exact ⟨i + 1, t', hj, hi, hu, hnamed, hf⟩
      · rename_i hnone
        simp only [List.mem_cons, Prod.mk.injEq] at h
        rcases h with ⟨rfl, rfl⟩ | h
        · exact ⟨0, t, rfl, rfl, rfl, UInt16.not_lt.mp hhigh, hnone⟩
        · obtain ⟨i, t', hj, hi, hu, hnamed, hf⟩ := ih h
          exact ⟨i + 1, t', hj, hi, hu, hnamed, hf⟩

/-! ### One call -/

/-- What a successful resolution of property ids returns, whatever the store answers: the
first pass's answers with the store's tags for the missing names filed in. -/
theorem resolveNamed_returns (r : NameResolver (ExceptT Failure (StateM σ))) (c : NameCache)
    (ids : List PropertyId) :
    Returns (c.resolveNamed r ids) fun (rs, c') => ∃ tags : List Tag,
      (rs, c') = fileIds ((c.lookupNamed 0 ids).1, c) ((c.lookupNamed 0 ids).2.1.zip tags) := by
  unfold resolveNamed
  refine Returns.bind fun _ => ?_
  split
  · exact Returns.pure ⟨[], by simp [fileIds]⟩
  · refine Returns.bind fun tags => ?_
    dsimp only
    split
    · exact Returns.pure ⟨tags, rfl⟩
    · exact Returns.bind fun _ => Returns.pure ⟨tags, rfl⟩

/-- What a successful resolution of tags returns, whatever the store answers: the first
pass's answers with the store's names for the missing ids filed in. -/
theorem resolveIds_returns (r : NameResolver (ExceptT Failure (StateM σ))) (c : NameCache)
    (tags : List Tag) :
    Returns (c.resolveIds r tags) fun (rs, c') => ∃ names : List (Option NamedId),
      (rs, c') = fileNames ((c.lookupIds 0 tags).1, c) ((c.lookupIds 0 tags).2.1.zip names) := by
  unfold resolveIds
  refine Returns.bind fun _ => ?_
  split
  · exact Returns.pure ⟨[], by simp [fileNames]⟩
  · refine Returns.bind fun names => ?_
    dsimp only
    split
    · exact Returns.pure ⟨names, rfl⟩
    · exact Returns.bind fun _ => Returns.pure ⟨names, rfl⟩

/-- A resolution of property ids keeps the invariant and every mapping. -/
theorem resolveNamed_wellFormed (r : NameResolver (ExceptT Failure (StateM σ)))
    (hc : c.WellFormed) (ids : List PropertyId) :
    Returns (c.resolveNamed r ids) fun (_, c') => c'.WellFormed ∧ Extends c c' := by
  refine (resolveNamed_returns r c ids).imp ?_
  rintro ⟨rs, c'⟩ ⟨tags, h⟩
  obtain ⟨-, rfl⟩ := Prod.ext_iff.mp h
  exact ⟨fileIds_wellFormed _ _ hc, fileIds_extends ((c.lookupNamed 0 ids).1, c) _⟩

/-- A resolution of tags keeps the invariant and every mapping: it only asks for named ids
the cache lacks, and points each of them at the entry of the name the store gives. -/
theorem resolveIds_wellFormed (r : NameResolver (ExceptT Failure (StateM σ)))
    (hc : c.WellFormed) (tags : List Tag) :
    Returns (c.resolveIds r tags) fun (_, c') => c'.WellFormed ∧ Extends c c' := by
  refine (resolveIds_returns r c tags).imp ?_
  rintro ⟨rs, c'⟩ ⟨names, h⟩
  obtain ⟨-, rfl⟩ := Prod.ext_iff.mp h
  -- every asked tag is the untyped tag of a named id the cache lacks
  have hasked : ∀ p ∈ (c.lookupIds 0 tags).2.1.zip names,
      p.1.2.type = PropType.unspecified ∧ Tag.namedThreshold ≤ p.1.2.id ∧
        c.findId? p.1.2.id = none := by
    intro p hp
    obtain ⟨i, t, -, -, hu, hnamed, hnone⟩ := lookupIds_pending 0 tags p.1.1 (List.of_mem_zip hp).1
    obtain ⟨htype, hid⟩ := untyped_named hnamed
    rw [hu]
    exact ⟨htype, hid, by simpa [untyped] using hnone⟩
  exact ⟨fileNames_wellFormed _ _ hc fun p hp => ⟨(hasked p hp).1, (hasked p hp).2.1⟩,
    fileNames_extends _ _ (Extends.refl c) fun p hp => (hasked p hp).2.2⟩

/-- A resolution of property ids answers each requested name the cache knows from its
entry: the store is asked only for the others, and filing touches only their positions. -/
theorem resolveNamed_cached (r : NameResolver (ExceptT Failure (StateM σ))) (c : NameCache)
    (ids : List PropertyId) :
    Returns (c.resolveNamed r ids) fun (rs, _) => ∀ (i : Nat) (n : NamedId) (e : CachedName),
      ids[i]? = some (.named n) → c.find? n = some e → rs[i]? = some e.resolved := by
  refine (resolveNamed_returns r c ids).imp ?_
  rintro ⟨rs, c'⟩ ⟨tags, h⟩ i n e hi hf
  obtain ⟨rfl, -⟩ := Prod.ext_iff.mp h
  rw [fileIds_getElem?]
  · exact lookupNamed_cached hf 0 ids i hi
  · rintro ⟨⟨j, nm⟩, t⟩ hp hj
    obtain ⟨i', hji, hi', hnone⟩ := lookupNamed_pending 0 ids j (List.of_mem_zip hp).1
    have hii : i' = i := by simp at hj; omega
    subst hii
    rw [hi] at hi'
    cases hi'
    rw [hf] at hnone
    cases hnone

/-- A resolution of tags answers each requested named id the cache knows from its entry. -/
theorem resolveIds_cached (r : NameResolver (ExceptT Failure (StateM σ))) (c : NameCache)
    (tags : List Tag) :
    Returns (c.resolveIds r tags) fun (rs, _) => ∀ (i : Nat) (t : Tag) (e : CachedName),
      tags[i]? = some t → Tag.namedThreshold ≤ t.id → c.findId? t.id = some e →
        rs[i]? = some e.resolved := by
  refine (resolveIds_returns r c tags).imp ?_
  rintro ⟨rs, c'⟩ ⟨names, h⟩ i t e hi hnamed hf
  obtain ⟨rfl, -⟩ := Prod.ext_iff.mp h
  rw [fileNames_getElem?]
  · exact lookupIds_cached hnamed hf 0 tags i hi
  · rintro ⟨⟨j, u⟩, nm⟩ hp hj
    obtain ⟨i', t', hji, hi', -, -, hnone⟩ := lookupIds_pending 0 tags j (List.of_mem_zip hp).1
    have hii : i' = i := by simp at hj; omega
    subst hii
    rw [hi] at hi'
    cases hi'
    rw [hf] at hnone
    cases hnone

/-! ### Runs of calls -/

/-- A call on a name cache. -/
inductive Call where
  /-- Resolves property ids to tags. -/
  | resolveNamed (ids : List PropertyId)
  /-- Resolves tags to names. -/
  | resolveIds (tags : List Tag)

/-- Makes a call on a cache against a resolver whose effects run in a state `σ`. -/
def Call.run (r : NameResolver (ExceptT Failure (StateM σ))) (c : NameCache) :
    Call → ExceptT Failure (StateM σ) (List ResolvedTag × NameCache)
  | .resolveNamed ids => c.resolveNamed r ids
  | .resolveIds tags => c.resolveIds r tags

/-- The answers `rs` to a call on `c` give each requested name and each requested named id
that `c` caches the tag and the entry `c` holds for it. -/
def Call.AnswersFrom (c : NameCache) (rs : List ResolvedTag) : Call → Prop
  | .resolveNamed ids => ∀ (i : Nat) (n : NamedId) (e : CachedName),
      ids[i]? = some (.named n) → c.find? n = some e → rs[i]? = some e.resolved
  | .resolveIds tags => ∀ (i : Nat) (t : Tag) (e : CachedName), tags[i]? = some t →
      Tag.namedThreshold ≤ t.id → c.findId? t.id = some e → rs[i]? = some e.resolved

/-- The caches a session passes through when it makes `calls` in order from `c`, the resolver
starting in state `s`. A call that fails returns no cache, so the next call starts from the
cache the failed one started from. -/
def trace (r : NameResolver (ExceptT Failure (StateM σ))) :
    NameCache → σ → List Call → List NameCache
  | c, _, [] => [c]
  | c, s, q :: qs =>
    match (q.run r c).run.run s with
    | (.ok (_, c'), s') => c :: trace r c' s' qs
    | (.error _, s') => c :: trace r c s' qs

/-- One call keeps the invariant and every mapping. -/
theorem Call.run_wellFormed (r : NameResolver (ExceptT Failure (StateM σ))) (q : Call)
    (hc : c.WellFormed) : Returns (q.run r c) fun (_, c') => c'.WellFormed ∧ Extends c c' := by
  cases q with
  | resolveNamed ids => exact resolveNamed_wellFormed r hc ids
  | resolveIds tags => exact resolveIds_wellFormed r hc tags

/-- One call answers what its cache knows from the cache. -/
theorem Call.run_answersFrom (r : NameResolver (ExceptT Failure (StateM σ))) (q : Call)
    (c : NameCache) : Returns (q.run r c) fun (rs, _) => q.AnswersFrom c rs := by
  cases q with
  | resolveNamed ids => exact resolveNamed_cached r c ids
  | resolveIds tags => exact resolveIds_cached r c tags

/-- Along a run from a well-formed cache, every cache is well formed and keeps every mapping
of the first. -/
theorem trace_wellFormed_extends (r : NameResolver (ExceptT Failure (StateM σ))) :
    ∀ (c : NameCache) (s : σ) (calls : List Call), c.WellFormed →
      ∀ c' ∈ trace r c s calls, c'.WellFormed ∧ Extends c c'
  | c, _, [], hc, c', h => by
    simp only [trace, List.mem_singleton] at h
    subst h
    exact ⟨hc, Extends.refl _⟩
  | c, s, q :: qs, hc, c', h => by
    simp only [trace] at h
    split at h
    · rename_i rs c₁ s₁ hrun
      obtain ⟨hc₁, hext⟩ := Call.run_wellFormed r q hc s (rs, c₁) s₁ hrun
      rcases List.mem_cons.mp h with rfl | h
      · exact ⟨hc, Extends.refl _⟩
      · obtain ⟨hc', hext'⟩ := trace_wellFormed_extends r c₁ s₁ qs hc₁ c' h
        exact ⟨hc', hext.trans hext'⟩
    · rename_i s₁ _
      rcases List.mem_cons.mp h with rfl | h
      · exact ⟨hc, Extends.refl _⟩
      · exact trace_wellFormed_extends r c s₁ qs hc c' h

/-- Along a run from a well-formed cache, every mapping of every cache persists in every later
cache. -/
theorem trace_pairwise_extends (r : NameResolver (ExceptT Failure (StateM σ))) :
    ∀ (c : NameCache) (s : σ) (calls : List Call), c.WellFormed →
      (trace r c s calls).Pairwise Extends
  | c, _, [], _ => by simp [trace]
  | c, s, q :: qs, hc => by
    simp only [trace]
    split
    · rename_i rs c₁ s₁ hrun
      obtain ⟨hc₁, hext⟩ := Call.run_wellFormed r q hc s (rs, c₁) s₁ hrun
      refine List.Pairwise.cons (fun c' h => ?_) (trace_pairwise_extends r c₁ s₁ qs hc₁)
      exact hext.trans (trace_wellFormed_extends r c₁ s₁ qs hc₁ c' h).2
    · rename_i s₁ _
      exact List.Pairwise.cons (fun c' h => (trace_wellFormed_extends r c s₁ qs hc c' h).2)
        (trace_pairwise_extends r c s₁ qs hc)

/-- **The name cache over whole runs.** Along every run of calls on a fresh cache against any
resolver, each call succeeding or failing: every cache is well formed; every mapping of every
cache persists, unchanged, in every later cache; and every call answers each requested name
or named id its cache knows with that entry's tag and entry. A name or id once cached is
therefore answered with the same tag and the same entry by every later call. -/
theorem trace_wellFormed_stable (r : NameResolver (ExceptT Failure (StateM σ))) (s : σ)
    (calls : List Call) :
    (∀ c ∈ trace r empty s calls, c.WellFormed) ∧
    (trace r empty s calls).Pairwise Extends ∧
    ∀ c ∈ trace r empty s calls, ∀ q : Call,
      Returns (q.run r c) fun (rs, _) => q.AnswersFrom c rs :=
  ⟨fun c h => (trace_wellFormed_extends r empty s calls empty_wellFormed c h).1,
    trace_pairwise_extends r empty s calls empty_wellFormed,
    fun c _ q => Call.run_answersFrom r q c⟩

end NameCache

end MailStore
