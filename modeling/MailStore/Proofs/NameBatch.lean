import Mathlib
import MailStore.Proofs.Traced
import MailStore.Proofs.InlineLimit
import MailStore.Db.Writer

/-!
# Resolving a batch of property ids

A resolution of property ids answers position by position from three sources: a numeric id
maps to its own tag, a name the cache knows to its entry, and every other name to what the
store answers when asked. The store is asked once, for all the names the cache lacks, in
request order and with repeats (`NameCache.misses`); its answer is scattered back to the
positions that asked, and only an id the store assigned in the named range is cached.

To see which calls reach the store, the resolution runs against `NameResolver.traced r`, which
asks `r` and writes each question down with its answer in the record beside the state
(`Traced`).

## Main statements

* `NameCache.resolveNamed_traced`: the run of a resolution, with what it asks the store.
* `NameCache.resolves_fileIds`: the answers a resolution assembles, position by position
  (`NameCache.Resolves`).
* `NameCache.resolveNamed_batches_misses`: one call for the misses and none without them, the
  answers position by position, and what a second resolution of the same ids gives.
-/

namespace MailStore

variable {σ : Type}

/-- An answer of the store that the cache takes: an id of the named range, not an error. -/
def Tag.Assigned (u : Tag) : Prop := u.type ≠ PropType.error ∧ Tag.namedThreshold ≤ u.id

instance : DecidablePred Tag.Assigned := fun _ => inferInstanceAs (Decidable (_ ∧ _))

/-- Filing skips exactly the answers that assign nothing. -/
theorem Tag.skipped_iff {u : Tag} :
    (u.type = PropType.error ∨ (!u.isNamed) = true) ↔ ¬u.Assigned := by
  simp [Tag.Assigned, Tag.isNamed, or_iff_not_imp_left]

/-! ### A store over a table of names -/

/-- The name as a store files it: the local id only for numeric names and the string only for
string names. -/
def NamedId.filed (n : NamedId) : NamedId :=
  ⟨n.propSet, n.kind, (PropertyDb.lidOf n).toInt32, PropertyDb.nameOf n⟩

/-- The named properties a store has registered, as its table holds them: each filed name with
its property id, an id of the named range. The table's key and unique constraint hold each
name and each id once. -/
structure NamedTable where
  /-- The filed names with their property ids. -/
  rows : List (NamedId × UInt16)
  /-- Each filed name is registered once. -/
  names_nodup : (rows.map Prod.fst).Nodup
  /-- Each property id is registered once. -/
  ids_nodup : (rows.map Prod.snd).Nodup
  /-- The table holds names as they are filed. -/
  filed : ∀ p ∈ rows, p.1.filed = p.1
  /-- Registered ids lie in the named range. -/
  named : ∀ p ∈ rows, Tag.namedThreshold ≤ p.2

namespace NamedTable

/-- The id a name is registered under: that of its filed form. -/
def idOf (t : NamedTable) (n : NamedId) : Option UInt16 :=
  (t.rows.find? (·.1 = n.filed)).map Prod.snd

/-- The filed name registered under an id. -/
def nameOf (t : NamedTable) (k : UInt16) : Option NamedId := (t.rows.find? (·.2 = k)).map Prod.fst

/-- The store's answer for a name: the untyped tag of its id, or the error tag. -/
def tagOf (t : NamedTable) (n : NamedId) : Tag :=
  match t.idOf n with
  | some k => Tag.make PropType.unspecified k
  | none => Tag.make PropType.error 0

/-- The resolver that answers from the table at once: each name with the tag of its filed
form, and each tag with the filed name registered under its id. -/
def resolver (t : NamedTable) : NameResolver (ExceptT Failure (StateM Unit)) where
  idsOfNames ns := pure (ns.map t.tagOf)
  namesOfIds ts := pure (ts.map fun u => t.nameOf u.id)
  observe _ _ := pure ()

/-- The table of one filed name, registered under an id of the named range. -/
def single (n : NamedId) (k : UInt16) (hn : n.filed = n) (hk : Tag.namedThreshold ≤ k) :
    NamedTable where
  rows := [(n, k)]
  names_nodup := List.nodup_singleton _
  ids_nodup := List.nodup_singleton _
  filed := by simpa using hn
  named := by simpa using hk

end NamedTable

/-- A call a resolution makes on the store, with the store's answer. -/
inductive NameCall where
  /-- The tags of names. -/
  | idsOfNames (names : List NamedId) (answer : Except Failure (List Tag))
  /-- The names of tags. -/
  | namesOfIds (tags : List Tag) (answer : Except Failure (List (Option NamedId)))

/-- A resolver that asks `r` and records each question to the store with its answer; reports
of lookups are passed on unrecorded. -/
def NameResolver.traced (r : NameResolver (ExceptT Failure (StateM σ))) :
    NameResolver (ExceptT Failure (StateM (Traced σ NameCall))) where
  idsOfNames names := Traced.call (.idsOfNames names) (r.idsOfNames names)
  namesOfIds tags := Traced.call (.namesOfIds tags) (r.namesOfIds tags)
  observe hits misses := Traced.lift (r.observe hits misses)

/-- A store that answers every name by a fixed tag, whenever it answers. -/
def NameResolver.AnswersBy (r : NameResolver (ExceptT Failure (StateM σ)))
    (answer : NamedId → Tag) : Prop :=
  ∀ names, Returns (r.idsOfNames names) fun tags => tags = names.map answer

namespace NameCache

variable {c c' : NameCache} {n : NamedId} {e : CachedName}

/-! ### The misses of a request -/

/-- The named ids of a request that the cache does not know, in request order and with
repeats. -/
def misses (c : NameCache) : List PropertyId → List NamedId
  | [] => []
  | .numeric _ :: ids => c.misses ids
  | .named n :: ids => if c.find? n = none then n :: c.misses ids else c.misses ids

/-- The record of the calls a resolution makes for the misses `names`, the store answering
`tags`: none when nothing is missing. -/
def batch (names : List NamedId) (tags : List Tag) : List NameCall :=
  if names = [] then [] else [.idsOfNames names (.ok tags)]

/-- The names the first pass asks the store for are the misses of the request. -/
theorem lookupNamed_misses (c : NameCache) (k : Nat) (ids : List PropertyId) :
    (c.lookupNamed k ids).2.1.map Prod.snd = c.misses ids := by
  induction ids generalizing k with
  | nil => rfl
  | cons p ids ih =>
    cases p with
    | numeric m => simpa [lookupNamed, misses] using ih (k + 1)
    | named nm =>
      simp only [lookupNamed, misses]
      split <;> rename_i h <;> simp [h, ih]

/-! ### One call -/

/-- **The run of a resolution against a recording resolver.** A resolution that returns gives
the first pass's answers with the store's tags for the misses filed in; the store was asked
once, for exactly the misses, and not at all when there are none, and its tags are an answer
`r` gives. A resolution that fails asked the store at most that once. -/
theorem resolveNamed_traced (r : NameResolver (ExceptT Failure (StateM σ))) (c : NameCache)
    (ids : List PropertyId) (t : Traced σ NameCall) :
    Ends (c.resolveNamed r.traced ids) t
      (fun rc t' => ∃ tags, tags.length = (c.misses ids).length ∧
        (c.misses ids = [] ∨ ∃ b b', (r.idsOfNames (c.misses ids)).run.run b = (.ok tags, b')) ∧
        rc = fileIds ((c.lookupNamed 0 ids).1, c) ((c.lookupNamed 0 ids).2.1.zip tags) ∧
        t'.calls = t.calls ++ batch (c.misses ids) tags)
      fun _ t' => t'.calls = t.calls ∨
        c.misses ids ≠ [] ∧ ∃ o, t'.calls = t.calls ++ [.idsOfNames (c.misses ids) o] := by
  have hnames := lookupNamed_misses c 0 ids
  unfold resolveNamed
  generalize c.lookupNamed 0 ids = l at hnames ⊢
  obtain ⟨first, pending, hits⟩ := l
  rw [← hnames]
  simp only [NameResolver.traced, Ends.bind_iff, Traced.ends_lift]
  refine Ends.intro (fun _ b _ => ?_) fun _ _ _ => by simp
  split
  · rename_i hempty
    have hnil : pending = [] := List.isEmpty_iff.mp hempty
    subst hnil
    exact ⟨[], rfl, .inl rfl, rfl, by simp [batch]⟩
  · rename_i hne
    have hne' : pending.map Prod.snd ≠ [] := by simpa using hne
    simp only [Ends.bind_iff, Ends.tryCatch_iff, Traced.ends_call]
    refine Ends.intro (fun tags b' hrun => ?_) fun f b' _ => .inr ⟨hne', _, rfl⟩
    split
    · rename_i hlen
      exact ⟨tags, by simpa using hlen, .inr ⟨_, _, hrun⟩, rfl, by simp [batch, hne']⟩
    · simp only [Ends.bind_iff, Ends.throw_iff]
      exact .inr ⟨hne', _, rfl⟩

/-! ### The first pass -/

/-- What the cache alone answers for a property id: a numeric id its own tag, or zero past
sixteen bits; a name its entry, or zero when the cache lacks it. -/
def cachedAnswer (c : NameCache) : PropertyId → ResolvedTag
  | .numeric k => ⟨if k > 0xFFFF then Tag.null else untyped k.toUInt16, none⟩
  | .named n =>
    match c.find? n with
    | some e => e.resolved
    | none => ⟨Tag.null, none⟩

/-- The first pass answers every id as the cache alone does. -/
theorem lookupNamed_fst (c : NameCache) (k : Nat) (ids : List PropertyId) :
    (c.lookupNamed k ids).1 = ids.map c.cachedAnswer := by
  induction ids generalizing k with
  | nil => rfl
  | cons p ids ih =>
    cases p with
    | numeric m => simp [lookupNamed, cachedAnswer, ih]
    | named nm =>
      simp only [lookupNamed, List.map_cons]
      split <;> rename_i h <;> simp [cachedAnswer, h, ih]

/-- A missed name at position `i` is asked for at the slot given by the misses before it. -/
theorem lookupNamed_slot (hn : c.find? n = none) :
    ∀ (k : Nat) (ids : List PropertyId) (i : Nat), ids[i]? = some (.named n) →
      (c.lookupNamed k ids).2.1[(c.misses (ids.take i)).length]? = some (k + i, n)
  | _, [], _, hi => by simp at hi
  | k, p :: ids, 0, hi => by
    have hp : p = .named n := by simpa using hi
    subst hp
    simp [lookupNamed, hn, misses]
  | k, p :: ids, i + 1, hi => by
    have ih := lookupNamed_slot hn (k + 1) ids i (by simpa using hi)
    rw [show k + (i + 1) = k + 1 + i by omega, ← ih, List.take_succ_cons]
    cases p with
    | numeric m => simp [lookupNamed, misses]
    | named nm =>
      simp only [lookupNamed, misses]
      split <;> rename_i h <;> simp [h]

/-- The first pass asks for positions in increasing order. -/
theorem lookupNamed_positions (c : NameCache) :
    ∀ (k : Nat) (ids : List PropertyId),
      ((c.lookupNamed k ids).2.1.map Prod.fst).Pairwise (· < ·)
  | _, [] => by simp [lookupNamed]
  | k, p :: ids => by
    have ih := lookupNamed_positions c (k + 1) ids
    -- every later position lies past `k`
    have hlater : ∀ j nm, (j, nm) ∈ (c.lookupNamed (k + 1) ids).2.1 → k < j := by
      intro j nm hmem
      obtain ⟨i, rfl, -, -⟩ := lookupNamed_pending (k + 1) ids j hmem
      omega
    cases p with
    | numeric m => simpa [lookupNamed] using ih
    | named nm =>
      simp only [lookupNamed]
      split
      · simpa using ih
      · simpa using ⟨hlater, ih⟩

/-! ### Filing the store's answers -/

/-- The tag the store first assigned to a name, among its answers `tags` for `names`. -/
def firstAssigned (names : List NamedId) (tags : List Tag) (n : NamedId) : Option Tag :=
  ((names.zip tags).find? fun p => p.1 = n ∧ p.2.Assigned).map Prod.snd

/-- Inserting one name leaves what another name finds as it was. -/
theorem find?_insert_of_ne {m : NamedId} (hne : n ≠ m) (c : NameCache) (t : Tag) :
    (c.insert m t).2.find? n = c.find? n := by
  cases h : c.find? m with
  | some e => rw [insert_of_find? h]
  | none =>
    rw [find?_insert_of_find?_none h, List.find?_append]
    have hfresh : (c.fresh m t).name ≠ n := fun h' => hne (h'.symm.trans rfl)
    cases hf : c.find? n with
    | some e' =>
      change c.entries.find? _ = some e' at hf
      rw [hf, Option.some_or]
    | none =>
      change c.entries.find? _ = none at hf
      simp [hf, hfresh]

/-- Filing leaves alone every position whose answers assign nothing. -/
theorem fileIds_getElem?_of_unassigned (acc : List ResolvedTag × NameCache)
    (ps : List ((Nat × NamedId) × Tag)) {i : Nat} (hi : ∀ p ∈ ps, p.1.1 = i → ¬p.2.Assigned) :
    (fileIds acc ps).1[i]? = acc.1[i]? := by
  induction ps generalizing acc with
  | nil => rfl
  | cons p ps ih =>
    obtain ⟨⟨j, nm⟩, u⟩ := p
    have hrest : ∀ p ∈ ps, p.1.1 = i → ¬p.2.Assigned := fun p hp => hi p (List.mem_cons_of_mem _ hp)
    simp only [fileIds]
    split
    · exact ih acc hrest
    · rename_i hkeep
      have hj : j ≠ i := fun hj => hkeep (Tag.skipped_iff.mpr (hi _ List.mem_cons_self hj))
      rw [ih _ hrest, List.getElem?_set_ne hj]

/-- Filing with no answer that assigns an id changes nothing. -/
theorem fileIds_of_unassigned (acc : List ResolvedTag × NameCache)
    (ps : List ((Nat × NamedId) × Tag)) (h : ∀ p ∈ ps, ¬p.2.Assigned) : fileIds acc ps = acc := by
  induction ps generalizing acc with
  | nil => rfl
  | cons p ps ih =>
    obtain ⟨⟨j, nm⟩, u⟩ := p
    have hu : u.type = PropType.error ∨ (!u.isNamed) = true :=
      Tag.skipped_iff.mpr (h _ List.mem_cons_self)
    simp only [fileIds, if_pos hu]
    exact ih acc fun p hp => h p (List.mem_cons_of_mem _ hp)

/-- A position whose only answer assigns an id ends up with the entry of its name. -/
theorem fileIds_assigned (acc : List ResolvedTag × NameCache) (ps : List ((Nat × NamedId) × Tag))
    {i : Nat} {u : Tag} (hnd : (ps.map fun p => p.1.1).Nodup) (hmem : ((i, n), u) ∈ ps)
    (hu : u.Assigned) (hi : i < acc.1.length) :
    ∃ e, (fileIds acc ps).2.find? n = some e ∧ (fileIds acc ps).1[i]? = some e.resolved := by
  induction ps generalizing acc with
  | nil => exact absurd hmem List.not_mem_nil
  | cons p ps ih =>
    obtain ⟨⟨j, nm⟩, v⟩ := p
    rw [List.map_cons, List.nodup_cons] at hnd
    simp only [fileIds]
    rcases List.mem_cons.mp hmem with hhead | htail
    · -- the head answers position `i`: its entry is set there, and no later answer touches it
      obtain ⟨rfl, rfl, rfl⟩ : j = i ∧ nm = n ∧ v = u := by simp_all
      rw [if_neg (Tag.skipped_iff.not_left.mpr hu)]
      have hothers : ∀ p ∈ ps, p.1.1 ≠ j := fun p hp hpj =>
        hnd.1 (by rw [← hpj]; exact List.mem_map_of_mem (f := fun p => p.1.1) hp)
      refine ⟨(acc.2.insert nm (untyped v.id)).1,
        (fileIds_extends _ ps).find? (find?_insert acc.2 nm (untyped v.id)), ?_⟩
      rw [fileIds_getElem? _ ps hothers, List.getElem?_set_self hi]
    · split
      · exact ih acc hnd.2 htail hi
      · exact ih _ hnd.2 htail (by simpa using hi)

/-- The entry filing makes for a name the cache lacked carries the first id the store assigned
to it; a name the store assigned nothing stays uncached. -/
theorem fileIds_find?_tag (acc : List ResolvedTag × NameCache) (ps : List ((Nat × NamedId) × Tag))
    (h : acc.2.find? n = none) :
    ((fileIds acc ps).2.find? n).map CachedName.tag =
      (ps.find? fun p => p.1.2 = n ∧ p.2.Assigned).map fun p => untyped p.2.id := by
  induction ps generalizing acc with
  | nil => simp [fileIds, h]
  | cons p ps ih =>
    obtain ⟨⟨j, nm⟩, u⟩ := p
    simp only [fileIds]
    split
    · rename_i hskip
      have hu : ¬u.Assigned := Tag.skipped_iff.mp hskip
      rw [ih acc h, List.find?_cons]
      simp [hu]
    · rename_i hkeep
      have hu : u.Assigned := Tag.skipped_iff.not_left.mp hkeep
      by_cases hnm : nm = n
      · -- the head files `n`: its fresh entry stays the one `n` finds
        subst hnm
        have hfind := (fileIds_extends (acc.1.set j (acc.2.insert nm (untyped u.id)).1.resolved,
          (acc.2.insert nm (untyped u.id)).2) ps).find? (find?_insert acc.2 nm (untyped u.id))
        rw [hfind, insert_fst_of_find?_none h, List.find?_cons]
        simp [hu, fresh]
      · rw [ih _ (by rw [find?_insert_of_ne (Ne.symm hnm)]; exact h), List.find?_cons]
        simp [hnm]

/-! ### The answers of a resolution -/

/-- The answers `rs` of a resolution of `ids` that started from the cache `c`, ended with the
cache `c'`, and got `tags` from the store for the misses, position by position. A missed name
at position `i` is answered at the slot `(c.misses (ids.take i)).length` of `tags`. -/
structure Resolves (c c' : NameCache) (ids : List PropertyId) (tags : List Tag)
    (rs : List ResolvedTag) : Prop where
  /-- One answer per id. -/
  length_eq : rs.length = ids.length
  /-- The store gave one tag per miss. -/
  tags_length : tags.length = (c.misses ids).length
  /-- A numeric id maps to its own tag, and to zero past sixteen bits. -/
  numeric : ∀ (i : Nat) (k : UInt32), ids[i]? = some (.numeric k) →
    rs[i]? = some ⟨if k > 0xFFFF then Tag.null else untyped k.toUInt16, none⟩
  /-- A name the cache knew answers with its entry. -/
  cached : ∀ (i : Nat) (n : NamedId) (e : CachedName), ids[i]? = some (.named n) →
    c.find? n = some e → rs[i]? = some e.resolved
  /-- A missed name the store assigned an id at its slot answers with the entry `c'` holds. -/
  assigned : ∀ (i : Nat) (n : NamedId) (u : Tag), ids[i]? = some (.named n) → c.find? n = none →
    tags[(c.misses (ids.take i)).length]? = some u → u.Assigned →
    ∃ e, c'.find? n = some e ∧ rs[i]? = some e.resolved
  /-- A missed name the store assigned nothing at its slot answers with the zero tag. -/
  unassigned : ∀ (i : Nat) (n : NamedId) (u : Tag), ids[i]? = some (.named n) → c.find? n = none →
    tags[(c.misses (ids.take i)).length]? = some u → ¬u.Assigned → rs[i]? = some ⟨Tag.null, none⟩
  /-- The entry `c'` holds for a name `c` lacked carries the first id the store assigned it,
  and a name the store assigned nothing stays uncached. -/
  added : ∀ n : NamedId, c.find? n = none →
    (c'.find? n).map CachedName.tag = (firstAssigned (c.misses ids) tags n).map fun v => untyped v.id

/-- **The answers a resolution assembles.** Filing the store's tags for the misses into the
first pass answers every position as `Resolves` says. -/
theorem resolves_fileIds (c : NameCache) (ids : List PropertyId) {tags : List Tag}
    (htags : tags.length = (c.misses ids).length) :
    Resolves c (fileIds ((c.lookupNamed 0 ids).1, c) ((c.lookupNamed 0 ids).2.1.zip tags)).2 ids
      tags (fileIds ((c.lookupNamed 0 ids).1, c) ((c.lookupNamed 0 ids).2.1.zip tags)).1 := by
  set pending := (c.lookupNamed 0 ids).2.1 with hpending
  have hnames : pending.map Prod.snd = c.misses ids := lookupNamed_misses c 0 ids
  have hlen : pending.length = tags.length := by rw [htags, ← hnames, List.length_map]
  have hfirst : (c.lookupNamed 0 ids).1 = ids.map c.cachedAnswer := lookupNamed_fst c 0 ids
  -- every slot asks for a missed name at its own position, and positions do not repeat
  have hslots : ∀ p ∈ pending.zip tags,
      ids[p.1.1]? = some (.named p.1.2) ∧ c.find? p.1.2 = none := by
    intro p hp
    obtain ⟨i, hi, hid, hnone⟩ := lookupNamed_pending 0 ids p.1.1 (List.of_mem_zip hp).1
    rw [hi, Nat.zero_add]
    exact ⟨hid, hnone⟩
  have hnd : ((pending.zip tags).map fun p => p.1.1).Nodup := by
    have hfst : (pending.zip tags).map Prod.fst = pending := List.map_fst_zip hlen.le
    rw [show (fun p : (Nat × NamedId) × Tag => p.1.1) = Prod.fst ∘ Prod.fst from rfl,
      ← List.map_map, hfst]
    exact (lookupNamed_positions c 0 ids).imp Nat.ne_of_lt
  -- the slot of a missed name holds its position and the store's answer for it
  have hmem : ∀ i n u, ids[i]? = some (.named n) → c.find? n = none →
      tags[(c.misses (ids.take i)).length]? = some u → ((i, n), u) ∈ pending.zip tags := by
    intro i n u hi hn hu
    have hslot := lookupNamed_slot hn 0 ids i hi
    rw [Nat.zero_add] at hslot
    exact List.mem_of_getElem? (by rw [List.getElem?_zip_eq_some]; exact ⟨hslot, hu⟩)
  refine ⟨?_, htags, ?_, ?_, ?_, ?_, ?_⟩
  · rw [length_fileIds, hfirst, List.length_map]
  · intro i k hi
    rw [fileIds_getElem? _ _ fun p hp hpi => by simpa [hpi, hi] using (hslots p hp).1, hfirst,
      List.getElem?_map, hi]
    rfl
  · intro i n e hi he
    rw [fileIds_getElem? _ _ fun p hp hpi => ?_, hfirst, List.getElem?_map, hi]
    · simp [cachedAnswer, he]
    · obtain ⟨hid, hnone⟩ := hslots p hp
      rw [hpi, hi, Option.some.injEq, PropertyId.named.injEq] at hid
      rw [← hid, he] at hnone
      cases hnone
  · intro i n u hi hn hu hua
    exact fileIds_assigned _ _ hnd (hmem i n u hi hn hu) hua
      (by simpa [hfirst] using (List.getElem?_eq_some_iff.mp hi).1)
  · intro i n u hi hn hu hnu
    have hsame : ∀ p ∈ pending.zip tags, p.1.1 = i → ¬p.2.Assigned := by
      intro p hp hpi
      have hp' : p = ((i, n), u) :=
        List.inj_on_of_nodup_map hnd hp (hmem i n u hi hn hu) hpi
      rw [hp']
      exact hnu
    rw [fileIds_getElem?_of_unassigned _ _ hsame, hfirst, List.getElem?_map, hi]
    simp [cachedAnswer, hn]
  · intro n hn
    rw [fileIds_find?_tag _ _ hn, firstAssigned, ← hnames, List.zip_map_left, List.find?_map,
      Option.map_map, Option.map_map]
    rfl

/-! ### A second resolution -/

/-- A missed name has a slot among the misses, where the name stands. -/
theorem misses_slot (hn : c.find? n = none) {ids : List PropertyId} {i : Nat}
    (hi : ids[i]? = some (.named n)) : (c.misses ids)[(c.misses (ids.take i)).length]? = some n := by
  rw [← lookupNamed_misses c 0 ids, List.getElem?_map, lookupNamed_slot hn 0 ids i hi]
  rfl

/-- A request whose every name the cache knows misses nothing. -/
theorem misses_eq_nil {ids : List PropertyId}
    (h : ∀ (i : Nat) (n : NamedId), ids[i]? = some (.named n) → c.find? n ≠ none) :
    c.misses ids = [] := by
  induction ids with
  | nil => rfl
  | cons p ids ih =>
    have hrest : ∀ (i : Nat) (n : NamedId), ids[i]? = some (.named n) → c.find? n ≠ none :=
      fun i n hi => h (i + 1) n (by simpa using hi)
    cases p with
    | numeric k => exact ih hrest
    | named n =>
      simp only [misses, if_neg (h 0 n rfl)]
      exact ih hrest

/-- No name the store was asked about has an id assigned when every answer is a fixed tag that
assigns none to it. -/
theorem firstAssigned_map {answer : NamedId → Tag} (h : ¬(answer n).Assigned) :
    ∀ names : List NamedId, firstAssigned names (names.map answer) n = none
  | [] => rfl
  | m :: names => by
    have ih := firstAssigned_map h names
    simp only [firstAssigned, Option.map_eq_none_iff] at ih ⊢
    rw [List.map_cons, List.zip_cons_cons, List.find?_cons, ih]
    by_cases hm : m = n
    · subst hm
      simp [h]
    · simp [hm]

/-- Some requested name came back with the zero tag. -/
def SomeAbsent (ids : List PropertyId) (rs : List ResolvedTag) : Prop :=
  ∃ (i : Nat) (n : NamedId) (rt : ResolvedTag),
    ids[i]? = some (.named n) ∧ rs[i]? = some rt ∧ rt.absent = true

/-- A second list of answers repeats the first, entry for entry, at every position that did not
come back with the zero tag. -/
def Repeats (rs rs₂ : List ResolvedTag) : Prop :=
  rs₂.length = rs.length ∧
    ∀ (i : Nat) (rt : ResolvedTag), rs[i]? = some rt → rt.absent = false → rs₂[i]? = some rt

namespace Resolves

variable {ids : List PropertyId} {tags : List Tag} {rs : List ResolvedTag}

/-- The store's answer at the slot of a missed name. -/
theorem slot_answer (h : Resolves c c' ids tags rs) {i : Nat} (hi : ids[i]? = some (.named n))
    (hn : c.find? n = none) : ∃ u, tags[(c.misses (ids.take i)).length]? = some u := by
  have hslot := misses_slot hn hi
  have hlt : (c.misses (ids.take i)).length < tags.length := by
    rw [h.tags_length]
    exact (List.getElem?_eq_some_iff.mp hslot).1
  exact ⟨_, List.getElem?_eq_getElem hlt⟩

/-- A name that came back with a tag other than zero is answered by the entry the final cache
holds for it. -/
theorem entry_of_present (h : Resolves c c' ids tags rs) (hext : Extends c c') {i : Nat}
    {rt : ResolvedTag} (hi : ids[i]? = some (.named n)) (hrt : rs[i]? = some rt)
    (habs : rt.absent = false) : ∃ e, c'.find? n = some e ∧ rt = e.resolved := by
  cases hc : c.find? n with
  | some e =>
    have hcached := h.cached i n e hi hc
    rw [hrt, Option.some.injEq] at hcached
    exact ⟨e, hext.find? hc, hcached⟩
  | none =>
    obtain ⟨u, hu⟩ := h.slot_answer hi hc
    by_cases hua : u.Assigned
    · obtain ⟨e, he, hrs⟩ := h.assigned i n u hi hc hu hua
      rw [hrt, Option.some.injEq] at hrs
      exact ⟨e, he, hrs⟩
    · have hnull := h.unassigned i n u hi hc hu hua
      rw [hrt, Option.some.injEq] at hnull
      subst hnull
      simp [ResolvedTag.absent] at habs

/-- A second resolution from the final cache repeats every answer that was not zero. -/
theorem repeats (h : Resolves c c' ids tags rs) (hext : Extends c c') {c'' : NameCache}
    {tags₂ : List Tag} {rs₂ : List ResolvedTag} (h₂ : Resolves c' c'' ids tags₂ rs₂) :
    Repeats rs rs₂ := by
  refine ⟨h₂.length_eq.trans h.length_eq.symm, fun i rt hrt habs => ?_⟩
  have hlt : i < ids.length := h.length_eq ▸ (List.getElem?_eq_some_iff.mp hrt).1
  cases hp : ids[i] with
  | numeric k =>
    have hi : ids[i]? = some (.numeric k) := by rw [List.getElem?_eq_getElem hlt, hp]
    rw [h₂.numeric i k hi, ← h.numeric i k hi, hrt]
  | named n =>
    have hi : ids[i]? = some (.named n) := by rw [List.getElem?_eq_getElem hlt, hp]
    obtain ⟨e, he, rfl⟩ := h.entry_of_present hext hi hrt habs
    exact h₂.cached i n e hi he

/-- With no name come back as zero, the final cache knows every requested name. -/
theorem misses_eq_nil (h : Resolves c c' ids tags rs) (hext : Extends c c')
    (hnone : ¬SomeAbsent ids rs) : c'.misses ids = [] := by
  refine NameCache.misses_eq_nil fun i n hi => ?_
  have hlt : i < rs.length := h.length_eq ▸ (List.getElem?_eq_some_iff.mp hi).1
  have hrt : rs[i]? = some rs[i] := List.getElem?_eq_getElem hlt
  cases habs : rs[i].absent
  · obtain ⟨e, he, -⟩ := h.entry_of_present hext hi hrt habs
    simp [he]
  · exact absurd ⟨i, n, rs[i], hi, hrt, habs⟩ hnone

/-- When the store answers every name by a fixed tag, a name the final cache lacks is one the
store assigns nothing. -/
theorem unassigned_of_fixed (h : Resolves c c' ids tags rs) (hext : Extends c c')
    {answer : NamedId → Tag} (htags : tags = (c.misses ids).map answer) {i : Nat}
    (hi : ids[i]? = some (.named n)) (hn' : c'.find? n = none) : ¬(answer n).Assigned := by
  intro hua
  have hn : c.find? n = none := by
    cases hc : c.find? n with
    | none => rfl
    | some e => rw [hext.find? hc] at hn'; cases hn'
  have hu : tags[(c.misses (ids.take i)).length]? = some (answer n) := by
    rw [htags, List.getElem?_map, misses_slot hn hi]
    rfl
  obtain ⟨e, he, -⟩ := h.assigned i n (answer n) hi hn hu hua
  rw [hn'] at he
  cases he

/-- When the store answers every name by a fixed tag, the final cache alone answers every id
as the resolution did. -/
theorem cachedAnswer_of_fixed (h : Resolves c c' ids tags rs) (hext : Extends c c')
    {answer : NamedId → Tag} (htags : tags = (c.misses ids).map answer) :
    ids.map c'.cachedAnswer = rs := by
  refine List.ext_getElem? fun i => ?_
  rw [List.getElem?_map]
  cases hp : ids[i]? with
  | none =>
    have hge : rs.length ≤ i := h.length_eq ▸ List.getElem?_eq_none_iff.mp hp
    rw [List.getElem?_eq_none hge]
    rfl
  | some p =>
    cases p with
    | numeric k => rw [h.numeric i k hp]; rfl
    | named n =>
      cases hc : c.find? n with
      | some e => simp [h.cached i n e hp hc, cachedAnswer, hext.find? hc]
      | none =>
        have hu : tags[(c.misses (ids.take i)).length]? = some (answer n) := by
          rw [htags, List.getElem?_map, misses_slot hc hp]
          rfl
        by_cases hua : (answer n).Assigned
        · obtain ⟨e, he, hrs⟩ := h.assigned i n (answer n) hp hc hu hua
          simp [hrs, cachedAnswer, he]
        · -- every slot of the name got the same answer, so the name stayed uncached
          have hn' : c'.find? n = none := by
            have hadded := h.added n hc
            rw [htags, firstAssigned_map hua] at hadded
            simpa using hadded
          simp [h.unassigned i n (answer n) hp hc hu hua, cachedAnswer, hn']

end Resolves

/-- A slot of the misses answered by fixed tags holds the tag of its name. -/
theorem mem_zip_map_snd {l : List (Nat × NamedId)} {f : NamedId → Tag} {p : (Nat × NamedId) × Tag}
    (hp : p ∈ l.zip ((l.map Prod.snd).map f)) : p.1 ∈ l ∧ p.2 = f p.1.2 := by
  induction l with
  | nil => simp at hp
  | cons q l ih =>
    simp only [List.map_cons, List.zip_cons_cons, List.mem_cons] at hp
    rcases hp with rfl | hp
    · exact ⟨List.mem_cons_self, rfl⟩
    · obtain ⟨hmem, heq⟩ := ih hp
      exact ⟨List.mem_cons_of_mem _ hmem, heq⟩

/-- The tags of a run come from the store: none for no misses, else an answer `r` gives, which
a store answering by fixed tags gives as the misses' tags. -/
theorem tags_of_fixed {r : NameResolver (ExceptT Failure (StateM σ))} {answer : NamedId → Tag}
    (hans : r.AnswersBy answer) {names : List NamedId} {tags : List Tag}
    (hlen : tags.length = names.length)
    (hsrc : names = [] ∨ ∃ b b', (r.idsOfNames names).run.run b = (.ok tags, b')) :
    tags = names.map answer := by
  rcases hsrc with rfl | ⟨b, b', hrun⟩
  · exact List.length_eq_zero_iff.mp hlen
  · exact hans names b tags b' hrun

/-- A resolution that succeeds answers as `Resolves` says, in a cache that extends the one it
started from, besides what `resolveNamed_traced` says of its one call. -/
theorem resolveNamed_resolves (r : NameResolver (ExceptT Failure (StateM σ))) (c : NameCache)
    (ids : List PropertyId) (t : Traced σ NameCall) :
    Ends (c.resolveNamed r.traced ids) t
      (fun rc t' => ∃ tags, tags.length = (c.misses ids).length ∧
        (c.misses ids = [] ∨ ∃ b b', (r.idsOfNames (c.misses ids)).run.run b = (.ok tags, b')) ∧
        rc = fileIds ((c.lookupNamed 0 ids).1, c) ((c.lookupNamed 0 ids).2.1.zip tags) ∧
        t'.calls = t.calls ++ batch (c.misses ids) tags ∧
        Resolves c rc.2 ids tags rc.1 ∧ Extends c rc.2)
      fun _ t' => t'.calls = t.calls ∨
        c.misses ids ≠ [] ∧ ∃ o, t'.calls = t.calls ++ [.idsOfNames (c.misses ids) o] := by
  refine (resolveNamed_traced r c ids t).mono ?_ fun _ _ h => h
  rintro rc t' ⟨tags, hlen, hsrc, rfl, hcalls⟩
  exact ⟨tags, hlen, hsrc, rfl, hcalls, resolves_fileIds c ids hlen,
    fileIds_extends ((c.lookupNamed 0 ids).1, c) _⟩

/-- **Resolving property ids batches exactly the misses.** A resolution through any store,
started from any cache and any state:

* asks the store at most once, for exactly the names the cache lacks, in request order with
  repeats, and not at all when it lacks none; when it returns, it asked that one question
  whenever there were misses;
* answers every position as `Resolves` says: a numeric id by its own tag (zero past sixteen
  bits), a known name by its entry, and a missed name by the entry filed for the store's
  answer at its slot when that answer assigned an id of the named range, else by zero;
* is repeated by a second resolution of the same ids from where it ended: the second answers
  every position that did not come back as zero with the same tag and entry, asks the store
  only if some name came back as zero, and, when the store answers each name by a fixed tag,
  returns exactly the same answers and cache. -/
theorem resolveNamed_batches_misses (r : NameResolver (ExceptT Failure (StateM σ)))
    (c : NameCache) (ids : List PropertyId) (t : Traced σ NameCall) :
    Ends (c.resolveNamed r.traced ids) t
      (fun rc t' => ∃ tags, t'.calls = t.calls ++ batch (c.misses ids) tags ∧
        Resolves c rc.2 ids tags rc.1 ∧
        Ends (rc.2.resolveNamed r.traced ids) t'
          (fun rc₂ t'' => Repeats rc.1 rc₂.1 ∧ (¬SomeAbsent ids rc.1 → t''.calls = t'.calls))
          (fun _ t'' => ¬SomeAbsent ids rc.1 → t''.calls = t'.calls) ∧
        ∀ answer : NamedId → Tag, r.AnswersBy answer →
          Ends (rc.2.resolveNamed r.traced ids) t' (fun rc₂ _ => rc₂ = rc) fun _ _ => True)
      fun _ t' => t'.calls = t.calls ∨
        c.misses ids ≠ [] ∧ ∃ o, t'.calls = t.calls ++ [.idsOfNames (c.misses ids) o] := by
  refine (resolveNamed_resolves r c ids t).mono ?_ fun _ _ h => h
  rintro ⟨rs, c'⟩ t' ⟨tags, hlen, hsrc, -, hcalls, hres, hext⟩
  refine ⟨tags, hcalls, hres, ?_, fun answer hans => ?_⟩
  · -- a second resolution, through any store
    refine (resolveNamed_resolves r c' ids t').mono ?_ fun _ t'' h hnone => ?_
    · rintro ⟨rs₂, c''⟩ t'' ⟨tags₂, -, -, -, hcalls₂, hres₂, -⟩
      refine ⟨hres.repeats hext hres₂, fun hnone => ?_⟩
      rw [hcalls₂, hres.misses_eq_nil hext hnone]
      simp [batch]
    · rcases h with h | ⟨hne, -⟩
      · exact h
      · exact absurd (hres.misses_eq_nil hext hnone) hne
  · -- a second resolution, through a store that answers each name by a fixed tag
    have htags := tags_of_fixed hans hlen hsrc
    refine (resolveNamed_traced r c' ids t').mono ?_ fun _ _ _ => trivial
    rintro rc₂ - ⟨tags₂, hlen₂, hsrc₂, hrc₂, -⟩
    have htags₂ := tags_of_fixed hans hlen₂ hsrc₂
    -- every name asked again is one the store assigns nothing, so nothing is filed
    have hskip : ∀ p ∈ (c'.lookupNamed 0 ids).2.1.zip tags₂, ¬p.2.Assigned := by
      rw [htags₂, ← lookupNamed_misses c' 0 ids]
      intro p hp
      obtain ⟨hq, hp2⟩ := mem_zip_map_snd hp
      obtain ⟨i, -, hid, hn'⟩ := lookupNamed_pending 0 ids p.1.1 hq
      rw [hp2]
      exact hres.unassigned_of_fixed hext htags hid hn'
    rw [hrc₂, fileIds_of_unassigned _ _ hskip, lookupNamed_fst,
      hres.cachedAnswer_of_fixed hext htags]

/-- Resolving a registered name, a numeric id and an unknown name twice through a store over a
table gives the same answers and cache the second time. -/
theorem resolve_twice_repeats :
    let known := NamedId.ofName NamedId.psPublicStrings "x"
    let t := NamedTable.single known 0x8000 (by decide) (by decide)
    let ids := [PropertyId.named known, .numeric 0x37,
      .named (NamedId.ofName NamedId.psPublicStrings "y")]
    t.resolver.AnswersBy t.tagOf ∧
      Ends (empty.resolveNamed t.resolver.traced ids) ⟨(), []⟩
        (fun rc t' => Ends (rc.2.resolveNamed t.resolver.traced ids) t' (fun rc₂ _ => rc₂ = rc)
          fun _ _ => True) fun _ _ => True := by
  intro known t ids
  have hans : t.resolver.AnswersBy t.tagOf := fun _ => Returns.pure rfl
  exact ⟨hans, (resolveNamed_batches_misses t.resolver empty ids ⟨(), []⟩).mono
    (fun _ _ ⟨_, _, _, _, h⟩ => h t.tagOf hans) fun _ _ _ => trivial⟩

end NameCache

end MailStore
