import Mathlib
import MailStore.Proofs.SqlRead

/-!
# Reading a table

A read of a table lists the table's entries, loads each entry's properties, projects the
requested columns under the inline limit, sorts the rows by their keys under the read's sort
orders and cuts the result to the directives' window. This module gives the read a reference,
`DbTable.readReference`, in which the sort is an insertion sort of the rows tagged with their
positions, by key and then by position, and shows that the read returns it.

The sort is well defined because the order of sort keys is a total preorder: absent keys first,
present keys by the names of their kinds, and within a kind by the kind's own order. The byte
order, the collation and the order of instants are shown equal to the lexicographic orders of
the standard library, and their laws come from there. On rows whose keys all have the length of
the read's sort orders the row order is a total preorder too, and merge sorting by a total
preorder is the stable sort (`mergeSort_eq_stableSort`).

The order in which the entry query lists a table's entries (by creation time, then row id) is
the query's own: here it is the order of `DbTable.entries`.

## Main statements

* `DbTable.read_run`: a read returns `readReference` and leaves the database as it is.
* `DbTable.read_pages`: reading page after page gives the rows of one read without a window.
* `DbTable.read_matches_reference`: both, with the order of rows and of sort keys, and the laws
  of the latter.
-/

namespace MailStore

open Std

/-! ### Lexicographic orders of bytes, texts and instants -/

/-- One step of a lexicographic comparison written with `<`: it is the comparison of the
heads, then the rest. -/
theorem ite_lt_eq_then {α : Type} [Ord α] [LT α] [LE α] [LawfulOrderOrd α] [LawfulOrderLT α]
    [DecidableLT α] [TransOrd α] (a b : α) (rest : Ordering) :
    (if a < b then Ordering.lt else if b < a then .gt else rest) = (compare a b).then rest := by
  by_cases hab : a < b
  · rw [if_pos hab, (Std.compare_eq_lt).2 hab]
    rfl
  · by_cases hba : b < a
    · rw [if_neg hab, if_pos hba, (Std.compare_eq_gt).2 hba]
      rfl
    · rw [if_neg hab, if_neg hba]
      have hne : compare a b ≠ .lt := fun h => hab (Std.compare_eq_lt.1 h)
      have hng : compare a b ≠ .gt := fun h => hba (Std.compare_eq_gt.1 h)
      cases h : compare a b <;> simp_all

/-- A scan of two lists that puts the shorter of a common prefix first and otherwise decides
at the first pair of heads that differ is the lexicographic order of the lists. -/
theorem eq_compareLex_of_scan {α : Type} [Ord α] [LT α] [LE α] [LawfulOrderOrd α]
    [LawfulOrderLT α] [DecidableLT α] [TransOrd α] {f : List α → List α → Ordering}
    (hnil : ∀ b, f [] b = List.compareLex compare [] b) (hcons_nil : ∀ a as, f (a :: as) [] = .gt)
    (hcons : ∀ a as b bs,
      f (a :: as) (b :: bs) = if a < b then .lt else if b < a then .gt else f as bs)
    (a b : List α) : f a b = List.compareLex compare a b := by
  induction a generalizing b with
  | nil => exact hnil b
  | cons x xs ih =>
    cases b with
    | nil => exact hcons_nil x xs
    | cons y ys => rw [hcons, List.compareLex_cons_cons, ih, ite_lt_eq_then]

namespace Sql

theorem bytesOrder_eq_compareLex (a b : Bytes) :
    bytesOrder a b = List.compareLex compare a b :=
  eq_compareLex_of_scan (fun b => by cases b <;> rfl) (fun _ _ => rfl) (fun _ _ _ _ => rfl) a b

instance : TransCmp bytesOrder := by
  rw [show bytesOrder = List.compareLex compare from funext₂ bytesOrder_eq_compareLex]
  infer_instance

end Sql

namespace Collation

theorem weightsOrder_eq_compareLex (a b : List Nat) :
    weightsOrder a b = List.compareLex Ord.compare a b :=
  eq_compareLex_of_scan (fun b => by cases b <;> rfl) (fun _ _ => rfl) (fun _ _ _ _ => rfl) a b

/-- Texts compare by their primary weights and then by their secondary weights. -/
theorem compare_eq_compareLex (a b : String) :
    Collation.compare a b = compareLex (compareOn (primaries ∘ elements))
      (compareOn (secondaries ∘ elements)) a b := by
  have hthen : Collation.compare a b = (weightsOrder (primaries (elements a))
      (primaries (elements b))).then (weightsOrder (secondaries (elements a))
      (secondaries (elements b))) := by
    dsimp only [Collation.compare]
    cases weightsOrder (primaries (elements a)) (primaries (elements b)) <;> rfl
  rw [hthen, weightsOrder_eq_compareLex, weightsOrder_eq_compareLex]
  rfl

instance : TransCmp Collation.compare := by
  rw [show Collation.compare = _ from funext₂ compare_eq_compareLex]
  infer_instance

end Collation

namespace Instant

theorem compare_eq_compareLex (a b : Instant) :
    Instant.compare a b = compareLex (compareOn Instant.sec) (compareOn Instant.nsec) a b := by
  unfold Instant.compare compareLex compareOn
  cases Ord.compare a.sec b.sec <;> rfl

instance : TransCmp Instant.compare := by
  rw [show Instant.compare = _ from funext₂ compare_eq_compareLex]
  infer_instance

end Instant

/-! ### The order of sort keys -/

/-- A comparison pulled back along a map is a total preorder when the comparison is one. -/
theorem transCmp_comap {α β : Type} {cmp : β → β → Ordering} [TransCmp cmp] (f : α → β) :
    TransCmp fun a b => cmp (f a) (f b) where
  eq_swap := OrientedCmp.eq_swap
  isLE_trans := TransCmp.isLE_trans

/-- Transitivity of a comparison by a total preorder and then by a second comparison: the
second is only consulted between values the first ranks equal. -/
theorem isLE_then_trans {β : Type} {cmp : β → β → Ordering} [TransCmp cmp] {a b c : β}
    {x y z : Ordering} (hz : cmp a b = .eq → cmp b c = .eq → x.isLE → y.isLE → z.isLE)
    (h₁ : ((cmp a b).then x).isLE) (h₂ : ((cmp b c).then y).isLE) :
    ((cmp a c).then z).isLE := by
  rw [Ordering.isLE_then_iff_or] at h₁ h₂ ⊢
  rcases h₁ with h₁ | ⟨h₁, hx⟩ <;> rcases h₂ with h₂ | ⟨h₂, hy⟩
  · exact .inl (TransCmp.lt_trans h₁ h₂)
  · exact .inl (TransCmp.lt_of_lt_of_eq h₁ h₂)
  · exact .inl (TransCmp.lt_of_eq_of_lt h₁ h₂)
  · exact .inr ⟨TransCmp.eq_trans h₁ h₂, hz h₁ h₂ hx hy⟩

namespace DbTable

/-- The order of two values of one kind as sort keys: integers, booleans, instants, GUIDs and
bytes in their natural order, text by the collation. Values of different kinds, and two
streams, are not told apart by it. -/
def sameKindOrder : Value → Value → Ordering
  | .int x, .int y => compare x.toInt y.toInt
  | .bool x, .bool y => compare x.toNat y.toNat
  | .string x, .string y => Collation.compare x.toString y.toString
  | .dateTime x, .dateTime y => Instant.compare x y
  | .guid x, .guid y => Sql.bytesOrder x.toBytes y.toBytes
  | .binary x, .binary y => Sql.bytesOrder x y
  | _, _ => .eq

/-- The order of kinds of values: by their names. -/
def kindOrder (a b : ValueKind) : Ordering :=
  Sql.bytesOrder a.name.toUTF8.toList b.name.toUTF8.toList

instance : TransCmp kindOrder :=
  @transCmp_comap ValueKind _ Sql.bytesOrder _ fun k => k.name.toUTF8.toList

/-- Kinds have distinct names. -/
theorem eq_of_kindOrder_eq {a b : ValueKind} (h : kindOrder a b = .eq) : a = b := by
  cases a <;> cases b <;> first | rfl | exact absurd h (by decide +kernel)

/-- Two present keys compare by the names of their kinds, and within a kind by its order. -/
theorem keyOrder_some (a b : Value) :
    keyOrder (some a) (some b) = (kindOrder a.kind b.kind).then (sameKindOrder a b) := by
  cases a <;> cases b <;>
    simp [keyOrder, kindOrder, sameKindOrder, Value.kind, ReflCmp.compare_self]

theorem sameKindOrder_swap (a b : Value) : sameKindOrder a b = (sameKindOrder b a).swap := by
  cases a <;> cases b <;> simp only [sameKindOrder] <;> first | exact OrientedCmp.eq_swap | rfl

theorem sameKindOrder_isLE_trans {a b c : Value} (hab : a.kind = b.kind) (hbc : b.kind = c.kind)
    (h₁ : (sameKindOrder a b).isLE) (h₂ : (sameKindOrder b c).isLE) :
    (sameKindOrder a c).isLE := by
  cases a <;> cases b <;> simp only [Value.kind, reduceCtorEq] at hab <;> cases c <;>
    simp only [Value.kind, reduceCtorEq] at hbc <;> simp only [sameKindOrder] at h₁ h₂ ⊢ <;>
    first | exact TransCmp.isLE_trans h₁ h₂ | rfl

instance : OrientedCmp keyOrder where
  eq_swap {a b} := by
    cases a with
    | none => cases b <;> rfl
    | some a =>
      cases b with
      | none => rfl
      | some b =>
        rw [keyOrder_some, keyOrder_some, Ordering.swap_then, ← OrientedCmp.eq_swap,
          ← sameKindOrder_swap]

/-- Sort keys are in a total preorder: absent keys first, then present ones by the names of
their kinds and within a kind by its own order. -/
instance : TransCmp keyOrder where
  isLE_trans {a b c} h₁ h₂ := by
    cases a with
    | none => cases c <;> rfl
    | some a =>
      cases b with
      | none => simp [keyOrder] at h₁
      | some b =>
        cases c with
        | none => simp [keyOrder] at h₂
        | some c =>
          rw [keyOrder_some] at h₁ h₂ ⊢
          -- values the kind order ranks equal are of one kind, where their own order applies
          exact isLE_then_trans (fun hab hbc => sameKindOrder_isLE_trans
            (eq_of_kindOrder_eq hab) (eq_of_kindOrder_eq hbc)) h₁ h₂

/-! ### The order of rows -/

/-- The order of one key under a sort order: reversed when the order is descending. -/
def sortKeyOrder (s : SortOrder) : Option Value → Option Value → Ordering :=
  if s.descending then fun a b => keyOrder b a else keyOrder

instance (s : SortOrder) : TransCmp (sortKeyOrder s) := by
  unfold sortKeyOrder
  split <;> infer_instance

theorem rowOrder_cons (s : SortOrder) (ss : List SortOrder) (a b : Option Value)
    (as bs : List (Option Value)) :
    rowOrder (s :: ss) (a :: as) (b :: bs) = (sortKeyOrder s a b).then (rowOrder ss as bs) := by
  have hthen : ∀ o r : Ordering, (if o = .eq then r else o) = o.then r := by decide
  cases hd : s.descending
  · simp only [rowOrder, sortKeyOrder, hd, Bool.false_eq_true, if_false]
    exact hthen _ _
  · simp only [rowOrder, sortKeyOrder, hd, if_true]
    rw [← OrientedCmp.eq_swap]
    exact hthen _ _

theorem rowOrder_swap (ss : List SortOrder) (as bs : List (Option Value)) :
    rowOrder ss as bs = (rowOrder ss bs as).swap := by
  induction ss generalizing as bs with
  | nil => cases as <;> cases bs <;> rfl
  | cons s ss ih =>
    cases as with
    | nil => cases bs <;> rfl
    | cons a as =>
      cases bs with
      | nil => rfl
      | cons b bs =>
        rw [rowOrder_cons, rowOrder_cons, Ordering.swap_then, ← OrientedCmp.eq_swap, ← ih]

/-- The row order is transitive on key lists of one length. -/
theorem rowOrder_isLE_trans (ss : List SortOrder) {as bs cs : List (Option Value)}
    (hab : as.length = bs.length) (hbc : bs.length = cs.length)
    (h₁ : (rowOrder ss as bs).isLE) (h₂ : (rowOrder ss bs cs).isLE) :
    (rowOrder ss as cs).isLE := by
  induction ss generalizing as bs cs with
  | nil => cases as <;> cases cs <;> rfl
  | cons s ss ih =>
    cases as <;> cases bs <;> cases cs <;> simp only [List.length_nil, List.length_cons,
      reduceCtorEq, Nat.add_right_cancel_iff] at hab hbc
    · rfl
    · rw [rowOrder_cons] at h₁ h₂ ⊢
      exact isLE_then_trans (fun _ _ => ih hab hbc) h₁ h₂

/-- The row order made a total preorder on key lists of every length: shorter lists first, and
lists of one length by the row order. The keys of a read all have the length of its sort
orders, where the two orders agree. -/
def keysOrder (ss : List SortOrder) (as bs : List (Option Value)) : Ordering :=
  (compare as.length bs.length).then (rowOrder ss as bs)

instance (ss : List SortOrder) : TransCmp (keysOrder ss) where
  eq_swap {as bs} := by
    unfold keysOrder
    rw [Ordering.swap_then, ← OrientedCmp.eq_swap, ← rowOrder_swap]
  isLE_trans {as bs cs} h₁ h₂ := by
    unfold keysOrder at h₁ h₂ ⊢
    exact isLE_then_trans (fun hab hbc => rowOrder_isLE_trans ss (Nat.compare_eq_eq.1 hab)
      (Nat.compare_eq_eq.1 hbc)) h₁ h₂

end DbTable

/-! ### Stable sorting -/

section StableSort

variable {α : Type}

/-- Rows tagged with their positions, in order of a comparison and then of position. -/
def thenPosition (cmp : α → α → Ordering) (a b : α × Nat) : Ordering :=
  (cmp a.1 b.1).then (compare a.2 b.2)

/-- Rows sorted stably by a comparison: each row tagged with its position, the tagged rows put
in order of the comparison and then of the position by an insertion sort, and the tags
dropped. Rows the comparison ranks equal keep the order they came in. -/
def stableSort (cmp : α → α → Ordering) (rows : List α) : List α :=
  (rows.zipIdx.insertionSort fun a b => (thenPosition cmp a b).isLE).map Prod.fst

/-- Sorting stably by comparisons that agree on the rows gives one order. -/
theorem stableSort_congr {cmp cmp' : α → α → Ordering} {rows : List α}
    (h : ∀ a ∈ rows, ∀ b ∈ rows, cmp a b = cmp' a b) :
    stableSort cmp rows = stableSort cmp' rows := by
  have hsort := List.map_insertionSort (r := fun a b => (thenPosition cmp a b).isLE)
    (s := fun a b => (thenPosition cmp' a b).isLE) id rows.zipIdx fun a ha b hb => by
      rw [thenPosition, thenPosition,
        h a.1 (List.fst_mem_of_mem_zipIdx ha) b.1 (List.fst_mem_of_mem_zipIdx hb), id, id]
  rw [List.map_id, List.map_id] at hsort
  rw [stableSort, stableSort, hsort]

variable {cmp : α → α → Ordering} [TransCmp cmp]

instance : TransCmp (thenPosition cmp) :=
  have : TransCmp fun a b : α × Nat => cmp a.1 b.1 := transCmp_comap Prod.fst
  inferInstanceAs (TransCmp (compareLex (fun a b : α × Nat => cmp a.1 b.1) (compareOn Prod.snd)))

/-- Merge sort's order of tagged rows is the order by comparison and then by position. -/
theorem zipIdxLE_eq_isLE (a b : α × Nat) :
    List.zipIdxLE (fun x y => cmp x y != .gt) a b = (thenPosition cmp a b).isLE := by
  have hswap : cmp b.1 a.1 = (cmp a.1 b.1).swap := OrientedCmp.eq_swap
  unfold List.zipIdxLE thenPosition
  simp only [hswap]
  cases cmp a.1 b.1 <;> simp
  rw [Bool.eq_iff_iff, decide_eq_true_iff, Nat.isLE_compare]

/-- Merge sorting by a total preorder is sorting stably: the merge sort that keeps rows ranked
equal in the order they came is the insertion sort by comparison and then by position. -/
theorem mergeSort_eq_stableSort (rows : List α) :
    rows.mergeSort (fun a b => cmp a b != .gt) = stableSort cmp rows := by
  -- the order of tagged rows as a relation: total and transitive
  let R : α × Nat → α × Nat → Prop := fun a b => (thenPosition cmp a b).isLE
  have : IsTrans (α × Nat) R := ⟨fun _ _ _ => @TransCmp.isLE_trans _ (thenPosition cmp) _ _ _ _⟩
  have : Std.Total R := ⟨fun a b => by
    by_cases h : R a b
    · exact .inl h
    · exact .inr (Ordering.isLE_of_eq_lt (OrientedCmp.lt_of_not_isLE h))⟩
  rw [← List.mergeSort_zipIdx, funext₂ zipIdxLE_eq_isLE, stableSort]
  congr 1
  refine @List.Perm.eq_of_pairwise _ R _ _ ?_ ?_ (List.pairwise_insertionSort R _)
    ((List.mergeSort_perm _ _).trans (List.perm_insertionSort R _).symm)
  · -- two tagged rows each not after the other have one position, so they are one row
    intro a b ha hb hab hba
    have hpos : a.2 = b.2 := Nat.compare_eq_eq.1 (Ordering.then_eq_eq.1
      (@OrientedCmp.isLE_antisymm _ (thenPosition cmp) _ _ _ hab hba)).2
    have ha' := List.mem_zipIdx_iff_getElem?.1 (List.mem_mergeSort.1 ha)
    have hb' := List.mem_zipIdx_iff_getElem?.1 ((List.mem_insertionSort R).1 hb)
    rw [hpos, hb'] at ha'
    exact Prod.ext (Option.some.inj ha').symm hpos
  · exact List.pairwise_mergeSort (fun _ _ _ => TransCmp.isLE_trans)
      (fun a b => by simpa using (Std.Total.total (r := R) a b)) _

example : stableSort (fun a b : Nat × Nat => compare a.1 b.1) [(2, 0), (1, 1), (2, 2), (1, 3)] =
    [(1, 1), (1, 3), (2, 0), (2, 2)] := by decide

end StableSort

/-! ### Reads that leave the database as it is -/

section Stays

variable {ε σ α γ : Type}

/-- What leaves the state as it is runs to its outcome in the state it started in. -/
theorem Stays.run_eq {x : ExceptT ε (StateM σ) α} (h : Stays id x) (s : σ) :
    x.run.run s = ((x.run.run s).1, s) := by
  have hs := h s s rfl
  unfold Ends at hs
  revert hs
  rcases x.run.run s with ⟨_ | a, s'⟩ <;> exact fun hs => Prod.ext rfl hs

/-- What follows a step that leaves the state as it is runs from that same state. -/
theorem Stays.run_bind {β : Type} {x : ExceptT ε (StateM σ) β} (hx : Stays id x)
    (k : β → ExceptT ε (StateM σ) α) (s : σ) :
    (x >>= k).run.run s = match (x.run.run s).1 with
      | .ok b => (k b).run.run s
      | .error e => (.error e, s) := by
  rw [ExceptT.run_bind, StateT.run_bind, hx.run_eq s]
  rcases (x.run.run s).1 with e | b <;> rfl

/-- Running steps that each leave the state as it is: each step's outcome from the one
starting state, in order. -/
theorem Stays.run_mapM {f : γ → ExceptT ε (StateM σ) α} (h : ∀ c, Stays id (f c))
    (l : List γ) (s : σ) :
    (l.mapM f).run.run s = (l.mapM fun c => ((f c).run.run s).1, s) := by
  induction l with
  | nil => rfl
  | cons c l ih =>
    rw [List.mapM_cons, List.mapM_cons, (h c).run_bind]
    rcases ((f c).run.run s).1 with e | a
    · rfl
    · dsimp only
      rw [(Stays.mapM h l).run_bind, ih]
      rcases l.mapM (fun c => ((f c).run.run s).1) with e | as <;> rfl

theorem mapM_map_results {m : Type → Type} [Monad m] [LawfulMonad m] {β : Type} {f : γ → m α}
    {g : α → β} (l : List γ) : l.mapM (fun c => g <$> f c) = List.map g <$> l.mapM f := by
  induction l with
  | nil => simp
  | cons c l ih => simp [ih]

theorem except_ok_bind {β : Type} (a : α) (f : α → Except ε β) : (Except.ok a >>= f) = f a :=
  rfl

theorem except_mapM_ok {β : Type} (l : List γ) (f : γ → β) :
    l.mapM (fun c => (Except.ok (f c) : Except ε β)) = .ok (l.map f) :=
  List.mapM_pure

end Stays

/-- The query of a database's stores only reads. -/
theorem Db.Query.storeRows_reads_only (c : Sql.Connection) (params : Array Sql.Value) :
    (c.execute params Db.Query.storeRows).1 = c := by
  unfold Db.Query.storeRows
  exact Sql.prepared_reads_only _ (by decide +kernel) c params

/-- The query of a folder's children only reads. -/
theorem Db.Query.childRows_reads_only (c : Sql.Connection) (params : Array Sql.Value) :
    (c.execute params Db.Query.childRows).1 = c := by
  unfold Db.Query.childRows
  exact Sql.prepared_reads_only _ (by decide +kernel) c params

namespace DbTable

/-- Listing a table's entries leaves the database as it is. -/
theorem entries_stays (t : DbTable) : Stays id t.entries := by
  unfold entries
  cases t <;>
  refine Stays.bind (DbM.perform_stays ?_) fun rows => Stays.mapM (fun row =>
    Stays.bind DbM.column_stays fun _ => Stays.bind DbM.column_stays fun _ =>
      Stays.bind DbM.column_stays fun _ => Stays.bind DbM.column_stays fun _ => Stays.pure) _
  exacts [Db.Query.storeRows_reads_only, Db.Query.childRows_reads_only,
    Db.Query.childRows_reads_only]

/-! ### The reference of a read -/

/-- The sort orders a read goes by: the directives' when they give any, else the caller's. -/
def sortOrdersOf (req : ReadRequest) : List SortOrder :=
  if req.directives.orderBy.isEmpty then req.sorts else req.directives.orderBy

/-- The key of a row under a sort order: the value of the property projected to the sort
tag without the inline limit; none when it is absent, of another type, or cannot be
decoded. -/
def sortKey (props : List RawProp) (s : SortOrder) : Option Value :=
  match Codec.decode (PropertyDb.project props 0 s.tag false) with
  | .ok v => v
  | .error _ => none

/-- Decoding an error property gives no value. -/
theorem decode_errorProp (id : UInt16) (code : UInt32) :
    Codec.decode (RawProp.errorProp id code) = .ok none := by
  simp +decide [Codec.decode, RawProp.errorProp]

/-- An entry without a property of the sort tag's id, or with one that cannot be read in the
tag's type, has no key under the sort order. -/
theorem sortKey_eq_none {props : List RawProp} {s : SortOrder}
    (h : ∀ stored ∈ props.find? (fun q => q.tag.id = s.tag.id),
      PropertyDb.coerce stored s.tag.type = none) : sortKey props s = none := by
  have hproj : PropertyDb.project props 0 s.tag false =
      RawProp.errorProp s.tag.id ErrorCode.notFound := by
    unfold PropertyDb.project
    split
    · rfl
    · rename_i stored hfind
      rw [h stored (by rw [hfind]; rfl)]
  unfold sortKey
  rw [hproj, decode_errorProp]

/-- A row as a read sees it: the requested columns, each projected under the inline limit,
and its key under each sort order of the read. -/
def rowOf (req : ReadRequest) (limit : Nat) (props : List RawProp) :
    List RawProp × List (Option Value) :=
  (req.columns.map fun c => PropertyDb.project props limit c true,
    (sortOrdersOf req).map (sortKey props))

/-- The rows of a table on a database before the window: one for each entry, in the order
the entry query lists them, each from the entry's properties as the database holds them,
sorted stably by their keys under the read's sort orders. -/
def sortedRows (t : DbTable) (req : ReadRequest) (p : PropertyDb) :
    Except Failure (List (List RawProp)) := do
  let es ← (t.entries.run.run p).1
  let propss ← es.mapM fun e => ((PropertyDb.loadProps e).run.run p).1
  pure ((stableSort (fun a b => rowOrder (sortOrdersOf req) a.2 b.2)
    (propss.map (rowOf req p.maxInline))).map Prod.fst)

/-- What reading a table gives: its sorted rows, cut to the directives' window. -/
def readReference (t : DbTable) (req : ReadRequest) (p : PropertyDb) :
    Except Failure (List (List RawProp)) :=
  req.directives.window <$> sortedRows t req p

/-- Projecting a property without the inline limit does not look at the limit. -/
theorem project_not_inline (props : List RawProp) (L : Nat) (t : Tag) :
    PropertyDb.project props L t false = PropertyDb.project props 0 t false := by
  unfold PropertyDb.project
  split
  · rfl
  · split <;> simp

/-- Sorting rows whose keys all have the length of the sort orders, as a read does, is
sorting them stably by the row order; with no sort orders it keeps them in place. -/
theorem sort_eq_stableSort {β : Type} (ss : List SortOrder)
    (rows : List (β × List (Option Value))) (hlen : ∀ r ∈ rows, r.2.length = ss.length) :
    (if ss.isEmpty then rows else rows.mergeSort fun a b => rowOrder ss a.2 b.2 != .gt) =
      stableSort (fun a b => rowOrder ss a.2 b.2) rows := by
  -- on keys of one length the row order is the total preorder `keysOrder`
  have hagree : ∀ a ∈ rows, ∀ b ∈ rows, rowOrder ss a.2 b.2 = keysOrder ss a.2 b.2 := by
    intro a ha b hb
    rw [keysOrder, hlen a ha, hlen b hb, Std.ReflOrd.compare_self, Ordering.eq_then]
  have : TransCmp fun a b : β × List (Option Value) => keysOrder ss a.2 b.2 :=
    transCmp_comap Prod.snd
  have hmerge : rows.mergeSort (fun a b => rowOrder ss a.2 b.2 != .gt) =
      rows.mergeSort (fun a b => keysOrder ss a.2 b.2 != .gt) := by
    simpa using List.map_mergeSort (f := id)
      (s := fun a b : β × List (Option Value) => keysOrder ss a.2 b.2 != .gt)
      fun a ha b hb => by rw [hagree a ha b hb, id, id]
  rw [stableSort_congr hagree, ← mergeSort_eq_stableSort, ← hmerge]
  split
  · -- with no sort orders every row ranks equal to every other
    rename_i h
    rw [List.isEmpty_iff] at h
    subst h
    exact (List.mergeSort_of_pairwise (List.pairwise_of_forall fun _ _ => rfl)).symm
  · rfl

/-- Loading an entry's properties and shaping them: the shape of what the load gives. -/
theorem run_loadProps_shape {β : Type} (e : Db.EntryRow) (p : PropertyDb)
    (f : List RawProp → β) :
    ((do let props ← PropertyDb.loadProps e; pure (f props) : DbM β).run.run p).1 =
      f <$> ((PropertyDb.loadProps e).run.run p).1 := by
  rw [(PropertyDb.loadProps_stays e).run_bind]
  rcases ((PropertyDb.loadProps e).run.run p).1 with f' | props <;> rfl

/-- A read returns its reference and leaves the database as it is. -/
theorem read_run (t : DbTable) (req : ReadRequest) (p : PropertyDb) :
    (t.read req).run.run p = (readReference t req p, p) := by
  unfold read
  rw [(entries_stays t).run_bind]
  unfold readReference sortedRows
  rcases (t.entries.run.run p).1 with f | es
  · rfl
  · dsimp only
    rw [Stays.get.run_bind, show ((get : DbM PropertyDb).run.run p).1 = .ok p from rfl]
    dsimp only
    -- every entry's properties are loaded from the one database the read started on
    rw [(Stays.mapM (fun e => Stays.bind (PropertyDb.loadProps_stays e) fun _ => Stays.pure)
        es).run_bind,
      Stays.run_mapM (fun e => Stays.bind (PropertyDb.loadProps_stays e) fun _ => Stays.pure)]
    simp only [run_loadProps_shape, project_not_inline _ p.maxInline, except_ok_bind,
      mapM_map_results]
    rcases es.mapM (fun e => ((PropertyDb.loadProps e).run.run p).1) with f | propss
    · rfl
    · simp only [Except.map_ok, except_ok_bind]
      rw [sort_eq_stableSort]
      · rfl
      · simp

/-! ### Reading page by page -/

end DbTable

namespace Directives

/-- The directives of page `k` of `size` rows: the same order, skipping `k` pages and taking
one. -/
def page (d : Directives) (size k : Nat) : Directives :=
  { d with skip := ((k * size : Nat) : Int), take := ((size : Nat) : Int) }

/-- The directives of every row: the same order, without a window. -/
def whole (d : Directives) : Directives :=
  { d with skip := 0, take := 0 }

theorem window_whole {β : Type} (d : Directives) (rows : List β) :
    d.whole.window rows = rows := by
  simp [window, whole]

theorem window_page {β : Type} (d : Directives) (rows : List β) {size : Nat} (k : Nat)
    (hsize : 0 < size) : (d.page size k).window rows = (rows.drop (k * size)).take size := by
  unfold window page
  rw [if_pos (show ((size : Nat) : Int) > 0 by exact_mod_cast hsize), Int.toNat_natCast,
    Int.toNat_natCast]

/-- The first `n` pages of `size` rows, one after the other, are the first `n * size` rows. -/
theorem flatMap_window_pages {β : Type} (d : Directives) (rows : List β) {size : Nat}
    (hsize : 0 < size) (n : Nat) :
    (List.range n).flatMap (fun k => (d.page size k).window rows) = rows.take (n * size) := by
  induction n with
  | zero => simp
  | succ n ih =>
    rw [List.range_succ, List.flatMap_append, ih, List.flatMap_singleton,
      window_page d rows n hsize, Nat.succ_mul, List.take_add]

end Directives

namespace DbTable

/-- Sorted rows do not depend on the window of the read. -/
theorem sortedRows_page (t : DbTable) (req : ReadRequest) (p : PropertyDb) (size k : Nat) :
    sortedRows t { req with directives := req.directives.page size k } p = sortedRows t req p :=
  rfl

theorem sortedRows_whole (t : DbTable) (req : ReadRequest) (p : PropertyDb) :
    sortedRows t { req with directives := req.directives.whole } p = sortedRows t req p := rfl

/-- Reading a table page by page, with the same columns and orders, gives its rows in the
order of one read without a window: the first `n + 1` pages of `size` rows are its first
`(n + 1) * size` rows, and a read that fails fails on the first page. -/
theorem read_pages (t : DbTable) (req : ReadRequest) (p : PropertyDb) {size : Nat}
    (hsize : 0 < size) (n : Nat) :
    ((List.range (n + 1)).mapM fun k =>
      ((t.read { req with directives := req.directives.page size k }).run.run p).1).map
        List.flatten =
      ((t.read { req with directives := req.directives.whole }).run.run p).1.map
        (·.take ((n + 1) * size)) := by
  simp only [read_run, readReference, sortedRows_page, sortedRows_whole]
  rcases sortedRows t req p with f | rows
  · rw [List.range_succ_eq_map, List.mapM_cons]
    rfl
  · simp only [Except.map_ok, except_mapM_ok]
    show Except.ok _ = Except.ok _
    rw [← List.flatMap_def, Directives.flatMap_window_pages req.directives rows hsize (n + 1),
      Directives.window_whole]

/-- A read of a table is its reference, on every database, table and request, and leaves the
database as it is. Rows go in the lexicographic order of their keys under the sort orders, each
order reversed when descending. Absent keys come first, then present ones by the names of their
kinds, and within a kind by that kind's own order. That order of keys is a total preorder.
Reading pages of a positive size one after the other gives the rows of one read without a
window. -/
theorem read_matches_reference :
    (∀ (t : DbTable) (req : ReadRequest) (p : PropertyDb),
      (t.read req).run.run p = (readReference t req p, p)) ∧
    (∀ (s : SortOrder) (ss : List SortOrder) (a b : Option Value) (as bs : List (Option Value)),
      rowOrder (s :: ss) (a :: as) (b :: bs) = (sortKeyOrder s a b).then (rowOrder ss as bs)) ∧
    (∀ v : Value, keyOrder none (some v) = .lt) ∧
    (∀ a b : Value,
      keyOrder (some a) (some b) = (kindOrder a.kind b.kind).then (sameKindOrder a b)) ∧
    TransCmp keyOrder ∧
    (∀ (t : DbTable) (req : ReadRequest) (p : PropertyDb) (size : ℕ+) (n : Nat),
      ((List.range (n + 1)).mapM fun k =>
        ((t.read { req with directives := req.directives.page size k }).run.run p).1).map
          List.flatten =
        ((t.read { req with directives := req.directives.whole }).run.run p).1.map
          (·.take ((n + 1) * size))) :=
  ⟨read_run, rowOrder_cons, fun _ => rfl, keyOrder_some, inferInstance,
    fun t req p size n => read_pages t req p size.pos n⟩

end DbTable

end MailStore
