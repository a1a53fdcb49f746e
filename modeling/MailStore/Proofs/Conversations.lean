import Mathlib
import MailStore.Entity.Folder

/-!
# Grouping the rows of a folder into conversations

A folder's conversations are made in one pass over the rows of its contents table, in table
order (`groupRows`). A row belongs to the conversation of its key (`Conversations.rowKey`): its
conversation id when that column holds non-empty bytes, else its own entry id. The first row
of a key makes the conversation, with that row's topic and delivery time; every row of the key
adds its entry id.

The pass is a group-by on the key in first-occurrence order (`Conversations.groupByKey`): one
conversation per distinct key, in the order of the first row of each key, each listing the entry
ids of exactly the rows of its key, in row order. So conversations have distinct ids, and their
items together are the rows' entry ids, each as often as it occurs among the rows.

## Main statements

* `Conversations.groupRows_eq_groupByKey`: the pass is the group-by.
* `Conversations.groupRows_groups_by_key`: distinct ids, one per key and in the order of each
  key's first row, the items and the first row of each conversation, and no row lost or
  repeated.
-/

namespace MailStore

/-! ### Lists without repeats, in first-occurrence order -/

namespace List

variable {α : Type} [BEq α] [LawfulBEq α]

/-- Adding an element at the end adds it to the list without repeats unless it was there. -/
theorem eraseDups_concat (l : List α) (a : α) :
    (l ++ [a]).eraseDups = if a ∈ l then l.eraseDups else l.eraseDups ++ [a] := by
  rw [List.eraseDups_append]
  by_cases h : a ∈ l
  · simp [h, List.removeAll]
  · simp [h, List.removeAll, List.eraseDups_cons]

theorem nodup_eraseDups (l : List α) : l.eraseDups.Nodup := by
  induction l using List.reverseRecOn with
  | nil => simp
  | append_singleton l a ih =>
    rw [eraseDups_concat]
    split
    · exact ih
    · rename_i h
      exact ih.append (List.nodup_singleton a) (by simpa using h)

/-- The list without repeats keeps each element at its first occurrence. -/
theorem eraseDups_pairwise_idxOf (l : List α) :
    l.eraseDups.Pairwise fun a b => l.idxOf a < l.idxOf b := by
  induction l using List.reverseRecOn with
  | nil => simp
  | append_singleton l a ih =>
    -- an element of `l` keeps its index in `l ++ [a]`
    have keep : ∀ b ∈ l.eraseDups, (l ++ [a]).idxOf b = l.idxOf b := fun b hb => by
      rw [List.idxOf_append, if_pos (List.mem_eraseDups.1 hb)]
    have old : l.eraseDups.Pairwise fun b c => (l ++ [a]).idxOf b < (l ++ [a]).idxOf c :=
      ih.imp_of_mem fun hb hc h => by rwa [keep _ hb, keep _ hc]
    rw [eraseDups_concat]
    split
    · exact old
    · rename_i h
      refine List.pairwise_append.2 ⟨old, List.pairwise_singleton _ _, fun b hb c hc => ?_⟩
      obtain rfl := List.mem_singleton.1 hc
      rw [keep _ hb, List.idxOf_append, if_neg h, List.idxOf_cons_self]
      simpa using List.idxOf_lt_length_of_mem (List.mem_eraseDups.1 hb)

omit [BEq α] [LawfulBEq α] in
/-- Taking, for each key of a list without repeats that holds every element's key, the
elements with that key, gives back the list up to order. -/
theorem flatMap_filter_perm {β : Type} [DecidableEq β] (f : α → β) :
    ∀ (ks : List β) (l : List α), ks.Nodup → (∀ x ∈ l, f x ∈ ks) →
      (ks.flatMap fun k => l.filter (f · = k)).Perm l
  | [], l, _, hl => by
    cases l with
    | nil => simp
    | cons x _ => simpa using hl x (by simp)
  | k :: ks, l, hnd, hl => by
    -- the rows of the other keys are the rows whose key is not `k`
    have rest : (ks.flatMap fun k' => l.filter (f · = k')) =
        ks.flatMap fun k' => (l.filter (f · ≠ k)).filter (f · = k') := by
      refine List.flatMap_congr fun k' hk' => ?_
      rw [List.filter_filter]
      congr 1
      funext x
      have : k' ≠ k := fun h => (List.nodup_cons.1 hnd).1 (h ▸ hk')
      by_cases hx : f x = k' <;> simp [hx, this]
    have sub : ∀ x ∈ l.filter (f · ≠ k), f x ∈ ks := fun x hx => by
      obtain ⟨hxl, hxk⟩ := List.mem_filter.1 hx
      exact (List.mem_cons.1 (hl x hxl)).resolve_left (by simpa using hxk)
    rw [List.flatMap_cons, rest]
    refine ((flatMap_filter_perm f ks _ (List.nodup_cons.1 hnd).2 sub).append_left _).trans ?_
    simpa using List.filter_append_perm (f · = k) l

end List

namespace Conversations

/-- The key that groups a row of the contents table: its conversation id (column 1) when that
is non-empty bytes, else its entry id (column 0). -/
def rowKey (row : List RawProp) : Bytes :=
  if (Row.binary row 1).isEmpty then Row.binary row 0 else Row.binary row 1

/-- The conversation of the rows with key `k`: placed, named and timed by the first of them,
listing the entry ids of all of them in row order. -/
def ofKey (store : StoreRef) (rows : List (List RawProp)) (k : Bytes) : ConversationState :=
  let first := (rows.find? (rowKey · = k)).getD []
  ⟨store, k, Row.text first 2, (rows.filter (rowKey · = k)).map (Row.binary · 0),
    Row.time? first 3⟩

/-- Group-by-key in first-occurrence order: one conversation per distinct key, in the order
of the first row of each key. -/
def groupByKey (store : StoreRef) (rows : List (List RawProp)) : List ConversationState :=
  (rows.map rowKey).eraseDups.map (ofKey store rows)

/-- One row added to the conversations made so far, as the pass adds it. -/
def addRow (store : StoreRef) (acc : List ConversationState) (row : List RawProp) :
    List ConversationState :=
  let itemId := Row.binary row 0
  let id := Row.binary row 1
  let id := if id.isEmpty then itemId else id
  if acc.any (·.id = id) then
    acc.map fun c => if c.id = id then { c with itemIds := c.itemIds ++ [itemId] } else c
  else acc ++ [⟨store, id, Row.text row 2, [itemId], Row.time? row 3⟩]

theorem groupRows_cons (store : StoreRef) (row : List RawProp) (rest : List (List RawProp))
    (acc : List ConversationState) :
    FolderRef.groupRows store (row :: rest) acc =
      FolderRef.groupRows store rest (addRow store acc row) := rfl

@[simp]
theorem ofKey_id (store : StoreRef) (rows : List (List RawProp)) (k : Bytes) :
    (ofKey store rows k).id = k := rfl

theorem ids_groupByKey (store : StoreRef) (rows : List (List RawProp)) :
    (groupByKey store rows).map (·.id) = (rows.map rowKey).eraseDups := by
  simp [groupByKey, Function.comp_def]

/-- A key already met keeps its first row; the new row joins its items when it has that key. -/
theorem ofKey_concat_of_mem {store : StoreRef} {pre : List (List RawProp)} {k : Bytes}
    (row : List RawProp) (hk : k ∈ pre.map rowKey) :
    ofKey store (pre ++ [row]) k =
      if rowKey row = k then
        { ofKey store pre k with itemIds := (ofKey store pre k).itemIds ++ [Row.binary row 0] }
      else ofKey store pre k := by
  obtain ⟨r, hr, rfl⟩ := List.mem_map.1 hk
  have found : (pre.find? (rowKey · = rowKey r)).isSome := List.find?_isSome.2 ⟨r, hr, by simp⟩
  obtain ⟨first, hfirst⟩ := Option.isSome_iff_exists.1 found
  split <;> simp_all [ofKey]

/-- A new key's conversation is its row's alone. -/
theorem ofKey_concat_new {store : StoreRef} {pre : List (List RawProp)} (row : List RawProp)
    (hk : rowKey row ∉ pre.map rowKey) :
    ofKey store (pre ++ [row]) (rowKey row) =
      ⟨store, rowKey row, Row.text row 2, [Row.binary row 0], Row.time? row 3⟩ := by
  have hnone : ∀ r ∈ pre, rowKey r ≠ rowKey row := fun r hr h => hk (List.mem_map.2 ⟨r, hr, h⟩)
  have hfind : pre.find? (rowKey · = rowKey row) = none := by simpa using hnone
  have hfilter : pre.filter (rowKey · = rowKey row) = [] := by simpa using hnone
  simp [ofKey, hfind, hfilter]

/-- One step of the pass: adding a row to the group-by of the rows before it gives the
group-by of the longer prefix. -/
theorem addRow_groupByKey (store : StoreRef) (pre : List (List RawProp)) (row : List RawProp) :
    addRow store (groupByKey store pre) row = groupByKey store (pre ++ [row]) := by
  have hid : (if (Row.binary row 1).isEmpty then Row.binary row 0 else Row.binary row 1) =
      rowKey row := rfl
  have hany : ((groupByKey store pre).any fun c => decide (c.id = rowKey row)) =
      decide (rowKey row ∈ pre.map rowKey) := by
    rw [Bool.eq_iff_iff, List.any_eq_true, decide_eq_true_iff, ← List.mem_eraseDups,
      ← ids_groupByKey store pre]
    simp
  simp only [addRow, hid, hany]
  by_cases hk : rowKey row ∈ pre.map rowKey
  · simp only [hk, decide_true, if_true, groupByKey, List.map_append, List.map_cons, List.map_nil,
      List.eraseDups_concat, List.map_map]
    refine List.map_congr_left fun k hk' => ?_
    rw [Function.comp_apply, ofKey_concat_of_mem row (List.mem_eraseDups.1 hk'), ofKey_id]
    by_cases h : rowKey row = k
    · simp [h]
    · simp [h, Ne.symm h]
  · simp only [hk, decide_false, Bool.false_eq_true, if_false, groupByKey, List.map_append,
      List.map_cons, List.map_nil, List.eraseDups_concat, ofKey_concat_new row hk]
    congr 1
    refine List.map_congr_left fun k hk' => ?_
    have hne : rowKey row ≠ k := fun h => hk (h ▸ List.mem_eraseDups.1 hk')
    simp [ofKey_concat_of_mem row (List.mem_eraseDups.1 hk'), hne]

/-- The pass over the rest of the rows, started from the group-by of a prefix, ends with the
group-by of all the rows. -/
theorem groupRows_groupByKey (store : StoreRef) :
    ∀ (rest pre : List (List RawProp)),
      FolderRef.groupRows store rest (groupByKey store pre) = groupByKey store (pre ++ rest)
  | [], pre => by simp [FolderRef.groupRows]
  | row :: rest, pre => by
    rw [groupRows_cons, addRow_groupByKey, groupRows_groupByKey store rest]
    simp

/-- The pass is the group-by. -/
theorem groupRows_eq_groupByKey (store : StoreRef) (rows : List (List RawProp)) :
    FolderRef.groupRows store rows [] = groupByKey store rows := by
  simpa [groupByKey] using groupRows_groupByKey store rows []

/-- Every conversation of the group-by is its key's: its first row and its items. -/
theorem eq_ofKey_of_mem {store : StoreRef} {rows : List (List RawProp)} {c : ConversationState}
    (hc : c ∈ groupByKey store rows) :
    c = ofKey store rows c.id ∧ ∃ first, rows.find? (rowKey · = c.id) = some first := by
  obtain ⟨k, hk, rfl⟩ := List.mem_map.1 hc
  obtain ⟨r, hr, rfl⟩ := List.mem_map.1 (List.mem_eraseDups.1 hk)
  exact ⟨rfl, Option.isSome_iff_exists.1 (List.find?_isSome.2 ⟨r, hr, by simp⟩)⟩

/-- The items of the group-by are the rows' entry ids up to order. -/
theorem items_perm (store : StoreRef) (rows : List (List RawProp)) :
    ((groupByKey store rows).flatMap (·.itemIds)).Perm (rows.map (Row.binary · 0)) := by
  have h := List.flatMap_filter_perm rowKey (rows.map rowKey).eraseDups rows
    (List.nodup_eraseDups _) fun x hx => List.mem_eraseDups.2 (List.mem_map_of_mem hx)
  simpa [groupByKey, ofKey, List.flatMap_map, List.map_flatMap] using h.map (Row.binary · 0)

/-- Conversation grouping is group-by-key in first-occurrence order: the conversations have
distinct ids, one for each key of the rows, ordered by the first row of each key; each lists
the entry ids of exactly the rows of its key in row order, with the topic and delivery time of
the first of them; and the items of all conversations are the rows' entry ids, none lost and
none repeated. -/
theorem groupRows_groups_by_key (store : StoreRef) (rows : List (List RawProp)) :
    let convs := FolderRef.groupRows store rows []
    let keys := rows.map rowKey
    (convs.map (·.id)).Nodup ∧
    (∀ k, k ∈ convs.map (·.id) ↔ k ∈ keys) ∧
    (convs.map (·.id)).Pairwise (fun a b => keys.idxOf a < keys.idxOf b) ∧
    (∀ c ∈ convs, c.store = store ∧
      c.itemIds = (rows.filter (rowKey · = c.id)).map (Row.binary · 0) ∧
      ∃ first, rows.find? (rowKey · = c.id) = some first ∧
        c.topic = Row.text first 2 ∧ c.received = Row.time? first 3) ∧
    (convs.flatMap (·.itemIds)).Perm (rows.map (Row.binary · 0)) := by
  intro convs keys
  have hconvs : convs = groupByKey store rows := groupRows_eq_groupByKey store rows
  have hids : convs.map (·.id) = keys.eraseDups := by rw [hconvs, ids_groupByKey]
  refine ⟨hids ▸ List.nodup_eraseDups keys, fun k => by rw [hids, List.mem_eraseDups],
    hids ▸ List.eraseDups_pairwise_idxOf keys, fun c hc => ?_, hconvs ▸ items_perm store rows⟩
  obtain ⟨hc_eq, first, hfirst⟩ := eq_ofKey_of_mem (hconvs ▸ hc)
  rw [hc_eq]
  exact ⟨rfl, rfl, first, hfirst, by simp [ofKey, hfirst], by simp [ofKey, hfirst]⟩

end Conversations

end MailStore
