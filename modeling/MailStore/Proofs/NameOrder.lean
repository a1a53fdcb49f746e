import Mathlib
import MailStore.Proofs.NameCache
import MailStore.Proofs.ValueCodec
import MailStore.Proofs.TableRead

/-!
# The order of named identifiers and the listing of a name cache

Named identifiers are ordered by the sixteen bytes of their property set, then by their kind,
then by the local id for kind 0 and by the bytes of the name for any other kind. A GUID is
kept as two 64-bit words, and its order as a value is the order of its bytes: eight big-endian
bytes compare as the number they write (`Guid.compareLex_eq_compare_natBE`). The order is a
total preorder, but not an order: it ignores the name of a kind-0 identifier and the local id
of any other, so two identifiers that differ only there compare equal.

A cache lists its names sorted by that order (`NameCache.names`), from the order in which the
map of its names is visited, which is not fixed (`MapOrder`). In every cache a session reaches
and in every order of the visit, the listing holds each cached name once and is sorted. It
depends only on which names are cached as long as no two of them compare equal
(`NameCache.names_eq_of_same_keys`). When two do, the sort keeps them in the order they were
visited: visited in the order they were cached, two caches that hold the same names, cached the
other way round, list them differently (`NameCache.names_follow_insertion_order`).

## Main statements

* `NamedId.compare_eq_bytes`: the order, field by field, with the property set as bytes.
* `NameCache.names_listing`: the laws of the order and of the listing of reachable caches.
* `NameCache.names_follow_insertion_order`: the listing is not a function of the cached names.
-/

namespace MailStore

open Std

/-! ### Big-endian bytes -/

theorem UInt8.compare_eq_compare_toNat (x y : UInt8) : compare x y = compare x.toNat y.toNat := by
  simp only [compare, compareOfLessAndEq, UInt8.lt_iff_toNat_lt, UInt8.toNat_inj]

theorem UInt64.compare_eq_compare_toNat (x y : UInt64) :
    compare x y = compare x.toNat y.toNat := by
  simp only [compare, compareOfLessAndEq, UInt64.lt_iff_toNat_lt, UInt64.toNat_inj]

/-- Of two numbers with a high and a low part below `P`, the larger high part wins and equal
high parts leave it to the low parts. -/
theorem compare_mul_add {x y r s P : Nat} (hr : r < P) (hs : s < P) :
    compare (x * P + r) (y * P + s) = (compare x y).then (compare r s) := by
  rcases Nat.lt_trichotomy x y with hxy | rfl | hxy
  · have h : x * P + r < y * P + s := by nlinarith
    rw [Nat.compare_eq_lt.2 h, Nat.compare_eq_lt.2 hxy]
    rfl
  · rw [Nat.compare_eq_eq.2 rfl, Ordering.eq_then]
    rcases Nat.lt_trichotomy r s with h | rfl | h
    · rw [Nat.compare_eq_lt.2 h, Nat.compare_eq_lt.2 (by omega)]
    · simp
    · rw [Nat.compare_eq_gt.2 h, Nat.compare_eq_gt.2 (by omega)]
  · have h : y * P + s < x * P + r := by nlinarith
    rw [Nat.compare_eq_gt.2 h, Nat.compare_eq_gt.2 hxy]
    rfl

namespace Guid

/-- Reading on from a number already read shifts it left by the bytes still to come. -/
theorem foldl_natBE (k : Nat) (l : Bytes) :
    l.foldl (fun n x => 256 * n + x.toNat) k = k * 256 ^ l.length + natBE l := by
  induction l generalizing k with
  | nil => simp [natBE]
  | cons y ys ih =>
    simp only [natBE, List.foldl_cons, List.length_cons] at ih ⊢
    rw [ih, ih (256 * 0 + y.toNat)]
    ring

theorem natBE_append (a b : Bytes) : natBE (a ++ b) = natBE a * 256 ^ b.length + natBE b := by
  rw [natBE, List.foldl_append, ← natBE, foldl_natBE]

theorem natBE_cons (y : UInt8) (ys : Bytes) :
    natBE (y :: ys) = y.toNat * 256 ^ ys.length + natBE ys := by
  rw [← List.singleton_append, natBE_append]
  simp [natBE]

theorem natBE_lt (l : Bytes) : natBE l < 256 ^ l.length := by
  induction l with
  | nil => simp [natBE]
  | cons y ys ih =>
    rw [natBE_cons, List.length_cons, pow_succ]
    have hy := y.toNat_lt
    nlinarith

/-- Byte strings of one length compare lexicographically as the big-endian numbers they
write. -/
theorem compareLex_eq_compare_natBE : ∀ {a b : Bytes}, a.length = b.length →
    compare a b = compare (natBE a) (natBE b)
  | [], [], _ => rfl
  | x :: xs, y :: ys, h => by
    have hl : xs.length = ys.length := by simpa using h
    have hxs : natBE xs < 256 ^ ys.length := hl ▸ natBE_lt xs
    rw [List.compare_cons_cons, compareLex_eq_compare_natBE hl, natBE_cons, natBE_cons, hl,
      compare_mul_add hxs (natBE_lt ys), UInt8.compare_eq_compare_toNat]

theorem compare_eq_then (g h : Guid) :
    compare g h = (compare g.hi h.hi).then (compare g.lo h.lo) := by
  obtain ⟨a, b⟩ := g
  obtain ⟨c, d⟩ := h
  show instOrdGuid.ord ⟨a, b⟩ ⟨c, d⟩ = _
  simp only [instOrdGuid.ord]
  cases compare a c <;> cases compare b d <;> rfl

/-- The number the sixteen bytes of a GUID write: its high word, then its low word. -/
theorem natBE_toBytes (g : Guid) : natBE g.toBytes = g.hi.toNat * 256 ^ 8 + g.lo.toNat := by
  have hw : (Bytes.ofNatBE 8 g.lo.toNat).length = 8 := by
    simp [Bytes.ofNatBE, Bytes.length_ofNatLE]
  rw [toBytes, natBE_append, hw, natBE_ofNatBE_uint64, natBE_ofNatBE_uint64]

/-- GUIDs compare as their sixteen bytes. -/
theorem compare_eq_compare_toBytes (g h : Guid) : compare g h = compare g.toBytes h.toBytes := by
  have hlo : ∀ x : Guid, x.lo.toNat < 256 ^ 8 := fun x => lt_of_lt_of_eq x.lo.toNat_lt (by norm_num)
  calc compare g h
      = (compare g.hi.toNat h.hi.toNat).then (compare g.lo.toNat h.lo.toNat) := by
        rw [compare_eq_then, UInt64.compare_eq_compare_toNat, UInt64.compare_eq_compare_toNat]
    _ = compare (natBE g.toBytes) (natBE h.toBytes) := by
        rw [natBE_toBytes, natBE_toBytes, compare_mul_add (hlo g) (hlo h)]
    _ = compare g.toBytes h.toBytes :=
        (compareLex_eq_compare_natBE (by rw [length_toBytes, length_toBytes])).symm

instance : TransOrd Guid := by
  change TransCmp (compare : Guid → Guid → Ordering)
  rw [show (compare : Guid → Guid → Ordering) = fun g h => compare g.toBytes h.toBytes from
    funext₂ compare_eq_compare_toBytes]
  exact transCmp_comap _

end Guid

/-! ### The order of named identifiers -/

namespace NamedId

/-- The order of the local parts of two identifiers, for the kind of the first. -/
def localOrder (a b : NamedId) : Ordering :=
  if a.kind = kindId then Ord.compare a.lid.toInt b.lid.toInt
  else Ord.compare a.name.toUTF8.toList b.name.toUTF8.toList

/-- The order of identifiers as it is built: property set, kind, local part. -/
theorem compare_eq_then (a b : NamedId) : NamedId.compare a b =
    (Ord.compare a.propSet b.propSet).then ((Ord.compare a.kind b.kind).then (localOrder a b)) := by
  unfold NamedId.compare localOrder
  cases Ord.compare a.propSet b.propSet <;> cases Ord.compare a.kind b.kind <;> rfl

/-- **The order of named identifiers**: by the bytes of the property set, then by the kind,
then by the local id for kind 0 and by the bytes of the name otherwise. -/
theorem compare_eq_bytes (a b : NamedId) : NamedId.compare a b =
    (Ord.compare a.propSet.toBytes b.propSet.toBytes).then ((Ord.compare a.kind b.kind).then
      (if a.kind = kindId then Ord.compare a.lid.toInt b.lid.toInt
        else Ord.compare a.name.toUTF8.toList b.name.toUTF8.toList)) := by
  rw [compare_eq_then, Guid.compare_eq_compare_toBytes]
  rfl

/-- Between identifiers of one kind the local order is a total preorder. -/
theorem localOrder_swap {a b : NamedId} (h : a.kind = b.kind) :
    localOrder b a = (localOrder a b).swap := by
  unfold localOrder
  rw [← h]
  split <;> exact OrientedCmp.eq_swap

theorem localOrder_isLE_trans {a b c : NamedId} (hab : a.kind = b.kind)
    (h₁ : (localOrder a b).isLE) (h₂ : (localOrder b c).isLE) : (localOrder a c).isLE := by
  unfold localOrder at *
  rw [← hab] at h₂
  by_cases hk : a.kind = kindId
  · simp only [hk, if_true] at h₁ h₂ ⊢
    exact TransCmp.isLE_trans h₁ h₂
  · simp only [hk, if_false] at h₁ h₂ ⊢
    exact TransCmp.isLE_trans h₁ h₂

instance : TransCmp NamedId.compare where
  eq_swap {a b} := by
    rw [compare_eq_then, compare_eq_then, Ordering.swap_then, Ordering.swap_then,
      ← OrientedCmp.eq_swap, ← OrientedCmp.eq_swap]
    cases hk : Ord.compare a.kind b.kind
    · rfl
    · rw [localOrder_swap (LawfulEqCmp.eq_of_compare hk)]
      simp
    · rfl
  isLE_trans {a b c} h₁ h₂ := by
    rw [compare_eq_then] at h₁ h₂ ⊢
    refine @isLE_then_trans _ (fun x y : NamedId => Ord.compare x.propSet y.propSet)
      (transCmp_comap _) a b c _ _ _ (fun _ _ hk₁ hk₂ => ?_) h₁ h₂
    refine @isLE_then_trans _ (fun x y : NamedId => Ord.compare x.kind y.kind)
      (transCmp_comap _) a b c _ _ _ (fun e₁ e₂ hl₁ hl₂ => ?_) hk₁ hk₂
    exact localOrder_isLE_trans (LawfulEqCmp.eq_of_compare e₁) hl₁ hl₂

end NamedId

/-! ### The listing of a cache -/

namespace NameCache

variable {c c' : NameCache}

/-- The names a cache holds, oldest first. -/
def keys (c : NameCache) : List NamedId := c.entries.map CachedName.name

/-- A cache some session reaches: one of the caches of a run of calls on a fresh cache,
against any store. -/
def Reachable (c : NameCache) : Prop :=
  ∃ (σ : Type) (r : NameResolver (ExceptT Failure (StateM σ))) (s : σ) (calls : List Call),
    c ∈ trace r empty s calls

theorem Reachable.wellFormed (h : c.Reachable) : c.WellFormed := by
  obtain ⟨σ, r, s, calls, hc⟩ := h
  exact (trace_wellFormed_stable r s calls).1 c hc

/-- A well-formed cache holds each name once. -/
theorem WellFormed.keys_nodup (hc : c.WellFormed) : c.keys.Nodup := by
  have hentries : c.entries.Nodup := List.Nodup.of_map _ hc.serial_nodup
  refine hentries.map_on fun e₁ h₁ e₂ h₂ hname => ?_
  have hfind := hc.find?_self e₁ h₁
  rw [hname, hc.find?_self e₂ h₂] at hfind
  exact (Option.some.inj hfind).symm

variable (order order' : MapOrder NamedId)

theorem names_perm_keys (c : NameCache) : (c.names order).Perm c.keys :=
  (List.mergeSort_perm _ _).trans (order.perm _)

/-- The listing is sorted: no name is listed after one it comes before. -/
theorem names_sorted (c : NameCache) :
    (c.names order).Pairwise fun a b => NamedId.compare a b ≠ .gt := by
  have htrans : ∀ a b d : NamedId, decide (NamedId.compare a b ≠ .gt) = true →
      decide (NamedId.compare b d ≠ .gt) = true → decide (NamedId.compare a d ≠ .gt) = true := by
    simp only [decide_eq_true_eq, ← Ordering.isLE_iff_ne_gt]
    exact fun _ _ _ => TransCmp.isLE_trans
  have htotal : ∀ a b : NamedId, (decide (NamedId.compare a b ≠ .gt) ||
      decide (NamedId.compare b a ≠ .gt)) = true := by
    intro a b
    rw [@OrientedCmp.eq_swap NamedId NamedId.compare _ b a]
    cases NamedId.compare a b <;> decide
  exact (List.pairwise_mergeSort htrans htotal _).imp of_decide_eq_true

/-- Names that sort either way round compare equal. -/
theorem compare_eq_of_not_gt {a b : NamedId} (hab : NamedId.compare a b ≠ .gt)
    (hba : NamedId.compare b a ≠ .gt) : NamedId.compare a b = .eq := by
  rw [@OrientedCmp.eq_swap NamedId NamedId.compare _ b a] at hba
  cases h : NamedId.compare a b <;> simp_all

/-- Two well-formed caches that hold the same names list them alike, in any orders of the
visit, as long as no two of the names compare equal. -/
theorem names_eq_of_same_keys (hc : c.WellFormed) (hc' : c'.WellFormed)
    (hkeys : ∀ n, n ∈ c.keys ↔ n ∈ c'.keys)
    (hdistinct : ∀ a ∈ c.keys, ∀ b ∈ c.keys, NamedId.compare a b = .eq → a = b) :
    c.names order = c'.names order' := by
  have hperm : c.keys.Perm c'.keys :=
    (List.perm_ext_iff_of_nodup hc.keys_nodup hc'.keys_nodup).2 hkeys
  refine List.Perm.eq_of_pairwise (fun a b ha hb hab hba => ?_) (names_sorted order c)
    (names_sorted order' c')
    ((names_perm_keys order c).trans (hperm.trans (names_perm_keys order' c').symm))
  have ha' : a ∈ c.keys := (names_perm_keys order c).subset ha
  have hb' : b ∈ c.keys := (hkeys b).2 ((names_perm_keys order' c').subset hb)
  exact hdistinct a ha' b hb' (compare_eq_of_not_gt hab hba)

/-- **Listing the names of a cache.** The order of named identifiers is a total preorder,
by the bytes of the property set, then the kind, then the local id for kind 0 and the bytes of
the name otherwise. In every cache a session reaches, whatever the order in which its names
are visited, the listing holds each cached name exactly once and is sorted by that order; and
two reachable caches that hold the same names list them alike, in any orders of the visit,
when no two of the names compare equal. -/
theorem names_listing :
    TransCmp NamedId.compare ∧
    (∀ a b : NamedId, NamedId.compare a b =
      (Ord.compare a.propSet.toBytes b.propSet.toBytes).then ((Ord.compare a.kind b.kind).then
        (if a.kind = NamedId.kindId then Ord.compare a.lid.toInt b.lid.toInt
          else Ord.compare a.name.toUTF8.toList b.name.toUTF8.toList))) ∧
    ∀ (order order' : MapOrder NamedId) (c c' : NameCache), c.Reachable → c'.Reachable →
      ((c.names order).Perm c.keys ∧ (c.names order).Nodup ∧
        (c.names order).Pairwise (fun a b => NamedId.compare a b ≠ .gt)) ∧
      ((∀ n, n ∈ c.keys ↔ n ∈ c'.keys) →
        (∀ a ∈ c.keys, ∀ b ∈ c.keys, NamedId.compare a b = .eq → a = b) →
        c.names order = c'.names order') := by
  refine ⟨inferInstance, NamedId.compare_eq_bytes, fun order order' c c' hc hc' => ⟨?_, ?_⟩⟩
  · have hnodup := hc.wellFormed.keys_nodup
    exact ⟨names_perm_keys order c, (names_perm_keys order c).nodup_iff.2 hnodup,
      names_sorted order c⟩
  · exact names_eq_of_same_keys order order' hc.wellFormed hc'.wellFormed

/-! ### Identifiers the order does not tell apart -/

/-- A store that gives every name it is asked for the first named id. -/
def firstIdStore : NameResolver (ExceptT Failure (StateM Unit)) :=
  ⟨fun ns => pure (ns.map fun _ => Tag.make PropType.unspecified 0x8000),
    fun ts => pure (ts.map fun _ => none), fun _ _ => pure ()⟩

/-- Local id 1 of the public strings, carrying the name `a`. -/
def lidOneA : NamedId := ⟨NamedId.psPublicStrings, NamedId.kindId, 1, "a"⟩

/-- Local id 1 of the public strings, carrying the name `b`. -/
def lidOneB : NamedId := ⟨NamedId.psPublicStrings, NamedId.kindId, 1, "b"⟩

/-- Local id 2 of the public strings. -/
def lidTwo : NamedId := NamedId.ofLid NamedId.psPublicStrings 2

/-- The cache that resolving `x` and `y` against `firstIdStore` leaves. -/
def cachedInOrder (x y : NamedId) : NameCache :=
  let t := Tag.make PropType.unspecified 0x8000
  ⟨[⟨0, x, t⟩, ⟨1, y, t⟩], [(0x8000, ⟨0, x, t⟩)], 2⟩

theorem reachable_of_trace {x y : NamedId}
    (h : trace firstIdStore empty () [.resolveNamed [.named x, .named y]] =
      [empty, cachedInOrder x y]) : (cachedInOrder x y).Reachable :=
  ⟨Unit, firstIdStore, (), _, by rw [h]; simp⟩

/-- Caching two names in either order caches the same names. -/
theorem mem_keys_cachedInOrder_comm (x y n : NamedId) :
    n ∈ (cachedInOrder x y).keys ↔ n ∈ (cachedInOrder y x).keys := by
  simp only [keys, cachedInOrder, List.map_cons, List.map_nil, List.mem_cons, List.not_mem_nil,
    or_false]
  exact or_comm

/-- A cache whose names were cached in sorted order, visited in that order, lists them so. -/
theorem names_cachedInOrder {x y : NamedId} (h : NamedId.compare x y ≠ .gt) :
    (cachedInOrder x y).names .stored = [x, y] :=
  List.mergeSort_of_pairwise (by simpa [cachedInOrder, MapOrder.stored] using h)

/-- Two caches, one holding local ids 1 and 2 cached in that order and one in the other,
list them alike, each visited in the order its names were cached. -/
theorem names_listing_ignores_order :
    (cachedInOrder lidOneA lidTwo).Reachable ∧ (cachedInOrder lidTwo lidOneA).Reachable ∧
    (∀ n, n ∈ (cachedInOrder lidOneA lidTwo).keys ↔ n ∈ (cachedInOrder lidTwo lidOneA).keys) ∧
    (∀ a ∈ (cachedInOrder lidOneA lidTwo).keys, ∀ b ∈ (cachedInOrder lidOneA lidTwo).keys,
      NamedId.compare a b = .eq → a = b) ∧
    (cachedInOrder lidOneA lidTwo).names .stored =
      (cachedInOrder lidTwo lidOneA).names .stored := by
  have h₁ := reachable_of_trace (x := lidOneA) (y := lidTwo) rfl
  have h₂ := reachable_of_trace (x := lidTwo) (y := lidOneA) rfl
  have hkeys := mem_keys_cachedInOrder_comm lidOneA lidTwo
  have hdistinct : ∀ a ∈ (cachedInOrder lidOneA lidTwo).keys,
      ∀ b ∈ (cachedInOrder lidOneA lidTwo).keys, NamedId.compare a b = .eq → a = b := by
    decide
  exact ⟨h₁, h₂, hkeys, hdistinct, (names_listing.2.2 _ _ _ _ h₁ h₂).2 hkeys hdistinct⟩

/-- Two caches that hold the same two names, local id 1 under the name `a` and under the name
`b`, cached in opposite orders and visited in the order they were cached, list them in opposite
orders: the two names compare equal, and the sort keeps them as they were visited. -/
theorem names_follow_insertion_order :
    ¬ ∀ (order order' : MapOrder NamedId) (c c' : NameCache), c.Reachable → c'.Reachable →
      (∀ n, n ∈ c.keys ↔ n ∈ c'.keys) → c.names order = c'.names order' := by
  intro h
  have hab : NamedId.compare lidOneA lidOneB = .eq := by decide
  have hba : NamedId.compare lidOneB lidOneA = .eq := by decide
  have hsame := h .stored .stored (cachedInOrder lidOneA lidOneB) (cachedInOrder lidOneB lidOneA)
    (reachable_of_trace rfl) (reachable_of_trace rfl) (mem_keys_cachedInOrder_comm _ _)
  rw [names_cachedInOrder (by rw [hab]; decide), names_cachedInOrder (by rw [hba]; decide)]
    at hsame
  exact absurd hsame (by decide)

end NameCache

end MailStore
