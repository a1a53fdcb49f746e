import Mathlib
import MailStore.Proofs.Traced
import MailStore.Proofs.InlineLimit

/-!
# A fetch of columns, position by position

A fetch of columns asks the object for all of them in one bulk call, each resolved id in its
column's wire type, and then settles the positions in order: a value the bulk call reported too
large, for a column that resolved, is opened as a stream on the tag that was asked, and every
other answer is decoded. A column of no known type fails the fetch before the bulk call; a bulk
answer of the wrong length fails it after.

To say which calls a fetch makes, the object's calls are recorded with their outcomes
(`PropObject.traced`), while the stream store, the resolver and the keeping of the cache run on
the base state unrecorded. `Fetch.Settles` and `Fetch.Runs` tell the second pass and the fetch of
resolved columns by the outcome they reach and the calls they make, one position at a time, and
the fetch ends as they say (`Fetch.settle_settles`, `Fetch.bulk_runs`), with the columns
resolved as the first pass resolves them on the base state (`Fetch.getProperties_runs`). The
record changes nothing else: the recorded fetch runs as the fetch does (`Fetch.getProperties_traced`),
which carries what is said of it to the properties of folders and items.

## Main statements

* `Fetch.getProperties_positionwise`: a fetch of columns gives one property per column, with the
  column's id, makes one bulk call with the columns' tags, and opens streams exactly where the
  bulk answer said a value was too large and its column resolved, in order.
* `unresolved_column_decoded`: a column that did not resolve is asked for as id 0 in its wire
  type and never streamed; its value is the object's answer there, decoded, for a fetch and for
  the properties of folders and items.
-/

namespace MailStore

variable {σ κ : Type}

/-! ### Recorded calls of an object -/

/-- A call to an object of properties, with its outcome. -/
inductive ObjectCall where
  /-- A bulk fetch of the tags asked, or of every property. -/
  | getProps (tags : Option (List Tag)) (answer : Except Failure (List RawProp))
  /-- The opening of a property as a stream. -/
  | openStream (tag : Tag) (answer : Except Failure Nat)

/-- The object with its calls recorded. -/
def PropObject.traced (obj : PropObject (ExceptT Failure (StateM σ))) :
    PropObject (ExceptT Failure (StateM (Traced σ ObjectCall))) where
  getProps tags := Traced.call (.getProps tags) (obj.getProps tags)
  openStream t := Traced.call (.openStream t) (obj.openStream t)

@[simp]
theorem PropObject.traced_getProps (obj : PropObject (ExceptT Failure (StateM σ)))
    (tags : Option (List Tag)) :
    obj.traced.getProps tags = Traced.call (.getProps tags) (obj.getProps tags) := rfl

@[simp]
theorem PropObject.traced_openStream (obj : PropObject (ExceptT Failure (StateM σ))) (t : Tag) :
    obj.traced.openStream t = Traced.call (.openStream t) (obj.openStream t) := rfl

/-- The stream store, run on the base state and not recorded. -/
def StreamStore.lift (s : StreamStore (ExceptT Failure (StateM σ))) :
    StreamStore (ExceptT Failure (StateM (Traced σ κ))) where
  size h := Traced.lift (s.size h)
  read h n := Traced.lift (s.read h n)
  close h := Traced.lift (s.close h)
  lookup h := Traced.lift (s.lookup h)
  record h st := Traced.lift (s.record h st)

/-- The resolver, run on the base state and not recorded. -/
def NameResolver.lift (r : NameResolver (ExceptT Failure (StateM σ))) :
    NameResolver (ExceptT Failure (StateM (Traced σ κ))) where
  idsOfNames names := Traced.lift (r.idsOfNames names)
  namesOfIds tags := Traced.lift (r.namesOfIds tags)
  observe hits misses := Traced.lift (r.observe hits misses)

/-- What a computation returns satisfies `P`, read off the outcome of a run. -/
theorem Returns.of_outcome {α : Type} {x : ExceptT Failure (StateM σ) α} {P : α → Prop}
    (h : Returns x P) {st : σ} {a : α} (ha : (x.run.run st).1 = .ok a) : P a :=
  h st a (x.run.run st).2 (by rw [← ha]; rfl)

/-- Related lists are related at each position. -/
theorem getElem?_of_forall₂ {α β : Type} {R : α → β → Prop} {l₁ : List α} {l₂ : List β}
    (h : List.Forall₂ R l₁ l₂) {i : Nat} {a : α} (ha : l₁[i]? = some a) :
    ∃ b, l₂[i]? = some b ∧ R a b := by
  induction h generalizing i with
  | nil => simp at ha
  | cons hab _ ih =>
    cases i with
    | zero =>
      simp only [List.getElem?_cons_zero, Option.some.injEq] at ha
      subst ha
      exact ⟨_, rfl, hab⟩
    | succ i => simpa using ih (by simpa using ha)

/-- An error property decodes to no value. -/
theorem Codec.decode_of_error_type {p : RawProp} (h : p.tag.type = PropType.error) :
    Codec.decode p = .ok none := by
  unfold Codec.decode
  simp only [h]
  rfl

namespace ColumnType

variable {c : ColumnType}

/-- Only the column types numbered `0` to `5` have a wire type. -/
theorem wireType_ok_range {w : PropType} (h : c.wireType = .ok w) : 0 ≤ c.index ∧ c.index ≤ 5 := by
  unfold wireType at h
  split at h <;> simp_all

/-- A column type outside `0..5` is a broken contract, named by its number. -/
theorem wireType_error {f : Failure} (h : c.wireType = .error f) :
    (c.index < 0 ∨ 5 < c.index) ∧ f = Failure.inconsistent ("column type " ++ toString c.index) := by
  unfold wireType at h
  split at h <;> cases h
  refine ⟨?_, rfl⟩
  simp only [imp_false] at *
  omega

end ColumnType

namespace Fetch

/-- Releasing streams through the store run on the base state runs as releasing them there; it
records nothing of its own. -/
theorem closeAll_lift {P : κ → Prop} (s : StreamStore (ExceptT Failure (StateM σ)))
    (props : List Property) : RunsAs P (closeAll s.lift props) (closeAll s props) := by
  induction props with
  | nil => exact RunsAs.pure _
  | cons p props ih =>
    unfold closeAll
    dsimp only
    split
    · refine (RunsAs.tryCatch ?_ fun _ => RunsAs.pure _).bind fun _ => ih
      unfold Stream.close
      refine (RunsAs.lift _).bind fun st => ?_
      cases st with
      | settled _ => exact RunsAs.pure _
      | unread => exact (RunsAs.lift _).bind fun _ => RunsAs.lift _
    · exact ih

/-- Releasing streams never fails and records no call. -/
theorem closeAll_quiet (s : StreamStore (ExceptT Failure (StateM σ))) (props : List Property)
    (t : Traced σ κ) :
    Ends (closeAll s.lift props) t (fun _ t' => t'.calls = t.calls) fun _ _ => False :=
  (closeAll_lift s props).ends_quiet ((closeAll_ends s props t.base).mono (fun _ _ _ => rfl)
    fun _ _ h => h.elim)

/-! ### The second pass -/

/-- The second pass over its work, told one position at a time by the outcome it reaches and the
streams it opens on the way. A position whose bulk answer is the error code for a value too
large, for a column that resolved, is opened as a stream on its tag, with the column's stream
encoding; any other is decoded. The first failure ends the pass. -/
inductive Settles : List (Column × Tag × RawProp × Bool) → Except Failure (List Property) →
    List ObjectCall → Prop where
  | nil : Settles [] (.ok []) []
  | stream {col : Column} {t : Tag} {p : RawProp} {rest o opens} (h : Nat)
      (hp : p.errorCode? = some ErrorCode.notEnoughMemory) (hrest : Settles rest o opens) :
      Settles ((col, t, p, true) :: rest)
        (o.map (⟨col.id, some (.stream ⟨h, col.type.streamEncoding⟩)⟩ :: ·))
        (.openStream t (.ok h) :: opens)
  | openFailed {col : Column} {t : Tag} {p : RawProp} {rest} (f : Failure)
      (hp : p.errorCode? = some ErrorCode.notEnoughMemory) :
      Settles ((col, t, p, true) :: rest)
        (.error (f.wrap ("failed to open property stream " ++ t.toText)))
        [.openStream t (.error f)]
  | decode {col : Column} {t : Tag} {p : RawProp} {ok : Bool} {rest o opens} {v : Option Value}
      (hp : ¬(p.errorCode? = some ErrorCode.notEnoughMemory ∧ ok = true))
      (hv : Codec.decode p = .ok v) (hrest : Settles rest o opens) :
      Settles ((col, t, p, ok) :: rest) (o.map (⟨col.id, v⟩ :: ·)) opens
  | decodeFailed {col : Column} {t : Tag} {p : RawProp} {ok : Bool} {rest} {f : Failure}
      (hp : ¬(p.errorCode? = some ErrorCode.notEnoughMemory ∧ ok = true))
      (hv : Codec.decode p = .error f) :
      Settles ((col, t, p, ok) :: rest) (.error f) []

variable (obj : PropObject (ExceptT Failure (StateM σ))) (s : StreamStore (ExceptT Failure (StateM σ)))

/-- **The second pass ends as `Settles` says**, after the properties already settled, which it
keeps in reverse. -/
theorem settle_settles (work : List (Column × Tag × RawProp × Bool)) (done : List Property)
    (t : Traced σ ObjectCall) :
    Ends (settle obj.traced s.lift done work) t
      (fun props t' => ∃ rest opens, Settles work (.ok rest) opens ∧ props = done.reverse ++ rest ∧
        t'.calls = t.calls ++ opens)
      fun f t' => ∃ opens, Settles work (.error f) opens ∧ t'.calls = t.calls ++ opens := by
  induction work generalizing done t with
  | nil => exact ⟨[], [], .nil, by simp, by simp⟩
  | cons w work ih =>
    obtain ⟨col, tg, p, ok⟩ := w
    unfold settle
    dsimp only
    split
    · -- too large and resolved: the stream is opened, and the pass goes on or fails with it
      rename_i hc
      obtain ⟨hp, rfl⟩ := hc
      rw [Ends.bind_iff, Ends.tryCatch_iff, Ends.bind_iff]
      simp only [PropObject.traced_openStream, Traced.ends_call]
      refine Ends.of_forall (fun h b => ?_) fun f b => ?_
      · refine (ih _ _).mono (fun props t' ⟨rest, opens, hset, hprops, hcalls⟩ => ?_)
          fun f t' ⟨opens, hset, hcalls⟩ => ?_
        · refine ⟨_ :: rest, _, .stream h hp hset, by simp [hprops], ?_⟩
          simp [hcalls]
        · exact ⟨_, .stream h hp hset, by simp [hcalls]⟩
      · rw [Ends.bind_iff]
        refine (closeAll_quiet s _ _).mono (fun _ t' ht' => ?_) fun _ _ h => h.elim
        exact ⟨_, .openFailed f hp, ht'⟩
    · -- otherwise the answer is decoded
      rename_i hc
      cases hv : Codec.decode p with
      | ok v =>
        refine (ih _ _).mono (fun props t' ⟨rest, opens, hset, hprops, hcalls⟩ => ?_)
          fun f t' ⟨opens, hset, hcalls⟩ => ?_
        · exact ⟨_ :: rest, _, .decode hc hv hset, by simp [hprops], hcalls⟩
        · exact ⟨_, .decode hc hv hset, hcalls⟩
      | error f =>
        rw [Ends.bind_iff]
        refine (closeAll_quiet s _ _).mono (fun _ t' ht' => ?_) fun _ _ h => h.elim
        rw [Ends.bind_iff, Ends.throw_iff]
        exact ⟨_, .decodeFailed hc hv, by simp [ht']⟩

/-- What the second pass makes of one piece of work: the column's property, with a stream opened
on the piece's tag when the bulk answer said the value was too large and the column resolved, and
the answer decoded otherwise. -/
def SettledFrom (w : Column × Tag × RawProp × Bool) (pr : Property) : Prop :=
  pr.id = w.1.id ∧
    if w.2.2.1.errorCode? = some ErrorCode.notEnoughMemory ∧ w.2.2.2 = true then
      ∃ h, pr.value = some (.stream ⟨h, w.1.type.streamEncoding⟩)
    else Codec.decode w.2.2.1 = .ok pr.value

/-- A pass that settles every piece settles each at its own position. -/
theorem Settles.settled {work : List (Column × Tag × RawProp × Bool)}
    {o : Except Failure (List Property)} {opens : List ObjectCall} (h : Settles work o opens) :
    ∀ {props}, o = .ok props → List.Forall₂ SettledFrom work props := by
  induction h with
  | nil => intro props ho; cases ho; exact .nil
  | @stream _ _ _ _ o' _ h hp _ ih =>
    intro props ho
    rcases o' with _ | rest
    · cases ho
    · cases ho
      exact .cons ⟨rfl, by rw [if_pos ⟨hp, rfl⟩]; exact ⟨h, rfl⟩⟩ (ih rfl)
  | openFailed => intro _ ho; cases ho
  | @decode _ _ _ _ _ o' _ _ hp hv _ ih =>
    intro props ho
    rcases o' with _ | rest
    · cases ho
    · cases ho
      exact .cons ⟨rfl, by rw [if_neg hp]; exact hv⟩ (ih rfl)
  | decodeFailed => intro _ ho; cases ho

/-! ### The bulk call -/

/-- The tags a fetch asks for columns resolved as `resolved`: each resolved id in its column's
wire type. -/
def Requests (columns : List Column) (resolved : List ResolvedTag) (tags : List Tag) : Prop :=
  List.Forall₂ (fun (cr : Column × ResolvedTag) t => ∃ w, cr.1.type.wireType = .ok w ∧
    t = Tag.make w cr.2.tag.id) (columns.zip resolved) tags

/-- The second pass's work: each column with the tag asked for it, the bulk answer there, and
whether its id resolved. -/
def work (columns : List Column) (tags : List Tag) (raw : List RawProp)
    (resolved : List ResolvedTag) : List (Column × Tag × RawProp × Bool) :=
  columns.zip (tags.zip (raw.zip (resolved.map fun rt => !rt.absent)))

/-- A fetch of columns resolved as `resolved`, told by the outcome it reaches and the calls it
makes on the object. -/
inductive Runs (columns : List Column) (resolved : List ResolvedTag) :
    Except Failure (List Property) → List ObjectCall → Prop where
  /-- The first column of a type outside `0..5` fails the fetch before any call. -/
  | badType {pre post : List (Column × ResolvedTag)} {col : Column} {rt : ResolvedTag}
      (hsplit : columns.zip resolved = pre ++ (col, rt) :: post)
      (hpre : ∀ x ∈ pre, 0 ≤ x.1.type.index ∧ x.1.type.index ≤ 5)
      (hbad : col.type.index < 0 ∨ 5 < col.type.index) :
      Runs columns resolved
        (.error (Failure.inconsistent ("column type " ++ toString col.type.index))) []
  /-- The bulk call fails. -/
  | bulkFailed {tags : List Tag} (g : Failure) (hreq : Requests columns resolved tags) :
      Runs columns resolved (.error (g.wrap "failed to get properties"))
        [.getProps (some tags) (.error g)]
  /-- The bulk answer has the wrong length. -/
  | wrongCount {tags : List Tag} {raw : List RawProp} (hreq : Requests columns resolved tags)
      (hne : raw.length ≠ tags.length) :
      Runs columns resolved (.error (Failure.inconsistent ("requested " ++ toString tags.length ++
        " properties, store returned " ++ toString raw.length))) [.getProps (some tags) (.ok raw)]
  /-- The bulk answer has one property per tag, and the second pass settles them. -/
  | settled {tags : List Tag} {raw : List RawProp} {o : Except Failure (List Property)}
      {opens : List ObjectCall} (hreq : Requests columns resolved tags)
      (hlen : raw.length = tags.length) (hset : Settles (work columns tags raw resolved) o opens) :
      Runs columns resolved o (.getProps (some tags) (.ok raw) :: opens)

/-- The tags of columns, one wire type at a time: every column's, or a failure at the first column
of no known type. The state is left alone. -/
theorem tags_requested {τ : Type} (pairs : List (Column × ResolvedTag)) (t : τ) :
    Ends (pairs.mapM fun x => do
        let wire ← lift x.1.type.wireType
        pure (Tag.make wire x.2.tag.id) : ExceptT Failure (StateM τ) (List Tag)) t
      (fun tags t' => List.Forall₂ (fun (cr : Column × ResolvedTag) tg => ∃ w,
        cr.1.type.wireType = .ok w ∧ tg = Tag.make w cr.2.tag.id) pairs tags ∧ t' = t)
      fun f t' => (∃ pre col rt post, pairs = pre ++ (col, rt) :: post ∧
        (∀ x ∈ pre, 0 ≤ x.1.type.index ∧ x.1.type.index ≤ 5) ∧
        (col.type.index < 0 ∨ 5 < col.type.index) ∧
        f = Failure.inconsistent ("column type " ++ toString col.type.index)) ∧ t' = t := by
  induction pairs with
  | nil => exact ⟨.nil, rfl⟩
  | cons cr pairs ih =>
    obtain ⟨col, rt⟩ := cr
    rw [List.mapM_cons, Ends.bind_iff, Ends.bind_iff]
    cases hw : col.type.wireType with
    | ok w =>
      simp only [lift, Ends.pure_iff, Ends.bind_iff]
      refine ih.mono (fun tags t' h => ⟨.cons ⟨w, hw, rfl⟩ h.1, h.2⟩) fun f t' h => ⟨?_, h.2⟩
      obtain ⟨pre, col', rt', post, hsplit, hpre, hbad, hf⟩ := h.1
      refine ⟨(col, rt) :: pre, col', rt', post, by rw [hsplit, List.cons_append], ?_, hbad, hf⟩
      intro x hx
      rcases List.mem_cons.1 hx with rfl | hx
      · exact ColumnType.wireType_ok_range hw
      · exact hpre x hx
    | error f =>
      obtain ⟨hbad, hf⟩ := ColumnType.wireType_error hw
      exact ⟨⟨[], col, rt, pairs, rfl, by simp, hbad, hf⟩, rfl⟩

/-- The work of the second pass pairs each column with its own tag, answer and resolution. -/
theorem work_eq (columns : List Column) (tags : List Tag) (raw : List RawProp)
    (resolved : List ResolvedTag) :
    ((columns.zip (tags.zip (raw.zip (resolved.map fun rt => !rt.absent)))).map
      fun (c, t, p, ok) => (c, t, p, ok)) = work columns tags raw resolved := by
  have hid : (fun x : Column × Tag × RawProp × Bool => (x.1, x.2.1, x.2.2.1, x.2.2.2)) = id := rfl
  rw [hid, List.map_id]
  rfl

/-- **A fetch of resolved columns ends as `Runs` says.** -/
theorem bulk_runs (columns : List Column) (resolved : List ResolvedTag)
    (hlen : resolved.length = columns.length) (t : Traced σ ObjectCall) :
    Ends (bulk obj.traced s.lift columns resolved) t
      (fun props t' => ∃ log, Runs columns resolved (.ok props) log ∧ t'.calls = t.calls ++ log)
      fun f t' => ∃ log, Runs columns resolved (.error f) log ∧ t'.calls = t.calls ++ log := by
  unfold bulk
  simp only [hlen, if_true]
  rw [Ends.bind_iff]
  refine (tags_requested _ t).mono (fun tags t₁ h₁ => ?_) fun f t₁ h₁ => ?_
  rotate_left
  · obtain ⟨⟨pre, col, rt, post, hsplit, hpre, hbad, hf⟩, ht₁⟩ := h₁
    exact ⟨[], hf ▸ .badType hsplit hpre hbad, by simp [ht₁]⟩
  obtain ⟨hreq, rfl⟩ := h₁
  rw [Ends.bind_iff, Ends.tryCatch_iff]
  simp only [PropObject.traced_getProps, Traced.ends_call]
  refine Ends.of_forall (fun raw b => ?_) fun g b => ⟨_, .bulkFailed g hreq, rfl⟩
  split
  · -- one answer per tag: the second pass settles them
    rename_i hraw
    rw [work_eq]
    refine (settle_settles obj s _ [] _).mono (fun props t' h₂ => ?_) fun f t' h₂ => ?_
    rotate_left
    · obtain ⟨opens, hset, hcalls⟩ := h₂
      exact ⟨_, .settled hreq hraw hset, by simp [hcalls]⟩
    obtain ⟨rest, opens, hset, hprops, hcalls⟩ := h₂
    rw [List.reverse_nil, List.nil_append] at hprops
    subst hprops
    exact ⟨_, .settled hreq hraw hset, by simp [hcalls]⟩
  · rw [Ends.bind_iff, Ends.throw_iff]
    rename_i hraw
    exact ⟨_, .wrongCount hreq hraw, rfl⟩

/-- A fetch of resolved columns that succeeds made one bulk call, with the columns' tags, got one
property per tag, and settled them all. -/
theorem Runs.ok_inv {columns : List Column} {resolved : List ResolvedTag} {props : List Property}
    {log : List ObjectCall} (h : Runs columns resolved (.ok props) log) :
    ∃ tags raw opens, Requests columns resolved tags ∧ raw.length = tags.length ∧
      Settles (work columns tags raw resolved) (.ok props) opens ∧
      log = .getProps (some tags) (.ok raw) :: opens := by
  cases h with
  | settled hreq hlen hset => exact ⟨_, _, _, hreq, hlen, hset, rfl⟩

/-- Each property settled from a piece of work has the piece's column id. -/
theorem ids_of_settled {work : List (Column × Tag × RawProp × Bool)} {props : List Property}
    (h : List.Forall₂ SettledFrom work props) : props.map Property.id = work.map fun w => w.1.id := by
  induction h with
  | nil => rfl
  | cons hw _ ih => simp [hw.1, ih]

/-- The pieces of work are the columns in order, when each column has a tag, an answer and a
resolution. -/
theorem work_ids {columns : List Column} {tags : List Tag} {raw : List RawProp}
    {resolved : List ResolvedTag} (ht : tags.length = columns.length)
    (hraw : raw.length = columns.length) (hres : resolved.length = columns.length) :
    (work columns tags raw resolved).map (fun w => w.1.id) = columns.map Column.id := by
  have hfst : (work columns tags raw resolved).map Prod.fst = columns :=
    List.map_fst_zip (by simp [ht, hraw, hres])
  calc (work columns tags raw resolved).map (fun w => w.1.id)
      = ((work columns tags raw resolved).map Prod.fst).map Column.id := by rw [List.map_map]; rfl
    _ = columns.map Column.id := by rw [hfst]

/-- Columns resolved one for one are asked one tag each. -/
theorem Requests.length_eq {columns : List Column} {resolved : List ResolvedTag} {tags : List Tag}
    (h : Requests columns resolved tags) (hres : resolved.length = columns.length) :
    tags.length = columns.length := by
  rw [← List.Forall₂.length_eq h, List.length_zip, hres, Nat.min_self]

/-! ### The first pass -/

/-- The first pass of a fetch of columns: their ids resolved through the cache, and the cache as
it then stands kept. -/
def prepare {m : Type → Type} [Monad m] [MonadExcept Failure m] (r : NameResolver m)
    (cache : NameCache) (keep : NameCache → m Unit) (columns : List Column) : m (List ResolvedTag) := do
  let (resolved, cache) ← cache.resolveNamed r (columns.map Column.id)
  keep cache
  pure resolved

/-- A fetch of some columns is the first pass, then the fetch of the columns so resolved. -/
theorem getProperties_cons {m : Type → Type} [Monad m] [LawfulMonad m] [MonadExcept Failure m]
    (obj : PropObject m) (s : StreamStore m) (r : NameResolver m) (cache : NameCache)
    (keep : NameCache → m Unit) (c : Column) (cs : List Column) :
    getProperties obj s r cache keep (c :: cs) =
      prepare r cache keep (c :: cs) >>= bulk obj s (c :: cs) := by
  simp only [getProperties, prepare, bulk, List.isEmpty_cons, Bool.false_eq_true, if_false,
    bind_assoc, pure_bind]

end Fetch

/-- Resolving through the resolver run on the base state runs as resolving on the base state, and
records nothing. -/
theorem NameCache.resolveNamed_lift (r : NameResolver (ExceptT Failure (StateM σ))) (c : NameCache)
    (ids : List PropertyId) :
    RunsAs (fun _ : κ => False) (c.resolveNamed r.lift ids) (c.resolveNamed r ids) := by
  unfold NameCache.resolveNamed
  generalize c.lookupNamed 0 ids = l
  obtain ⟨first, pending, hits⟩ := l
  dsimp only
  refine (RunsAs.lift _).bind fun _ => ?_
  by_cases hp : pending.isEmpty = true
  · rw [if_pos hp, if_pos hp]
    exact RunsAs.pure _
  rw [if_neg hp, if_neg hp]
  refine (RunsAs.tryCatch (RunsAs.lift _) fun _ => RunsAs.throw _).bind fun tags => ?_
  by_cases hl : tags.length = pending.length
  · rw [if_pos hl, if_pos hl]
    exact RunsAs.pure _
  · rw [if_neg hl, if_neg hl]
    exact (RunsAs.throw _).bind fun _ => RunsAs.pure _

namespace Fetch

/-- The first pass with the resolver and the keeping of the cache run on the base state runs as
the first pass there, and records nothing. -/
theorem prepare_lift (r : NameResolver (ExceptT Failure (StateM σ))) (cache : NameCache)
    (keep : NameCache → ExceptT Failure (StateM σ) Unit) (columns : List Column) :
    RunsAs (fun _ : κ => False) (prepare r.lift cache (fun c => Traced.lift (keep c)) columns)
      (prepare r cache keep columns) :=
  (NameCache.resolveNamed_lift r cache _).bind fun ⟨_, c⟩ => (RunsAs.lift (keep c)).bind
    fun _ => RunsAs.pure _

/-- The first pass resolves each column. -/
theorem prepare_length (r : NameResolver (ExceptT Failure (StateM σ))) (cache : NameCache)
    (keep : NameCache → ExceptT Failure (StateM σ) Unit) (columns : List Column) :
    Returns (prepare r cache keep columns) fun resolved => resolved.length = columns.length :=
  Returns.bindOf (NameCache.resolveNamed_length r cache _) fun ⟨_, _⟩ h =>
    Returns.bind fun _ => Returns.pure (by simpa using h)

variable (obj : PropObject (ExceptT Failure (StateM σ))) (s : StreamStore (ExceptT Failure (StateM σ)))
  (r : NameResolver (ExceptT Failure (StateM σ))) (cache : NameCache)
  (keep : NameCache → ExceptT Failure (StateM σ) Unit)

/-- **A fetch of columns ends as its first pass and `Runs` say.** The first pass runs on the base
state and records nothing; when it resolves the columns, the fetch of the resolved columns
follows. -/
theorem getProperties_runs (c : Column) (cs : List Column) (t : Traced σ ObjectCall) :
    Ends (getProperties obj.traced s.lift r.lift cache (fun c => Traced.lift (keep c)) (c :: cs)) t
      (fun props t' => ∃ resolved log,
        ((prepare r cache keep (c :: cs)).run.run t.base).1 = .ok resolved ∧
        Runs (c :: cs) resolved (.ok props) log ∧ t'.calls = t.calls ++ log)
      fun f t' => ∃ log, t'.calls = t.calls ++ log ∧
        (((prepare r cache keep (c :: cs)).run.run t.base).1 = .error f ∧ log = [] ∨
          ∃ resolved, ((prepare r cache keep (c :: cs)).run.run t.base).1 = .ok resolved ∧
            Runs (c :: cs) resolved (.error f) log) := by
  rw [getProperties_cons, Ends.bind_iff]
  refine (prepare_lift r cache keep _).ends_quiet
    (Ends.intro (fun resolved b hrun => ?_) fun f b hrun => ?_)
  · have hlen := prepare_length r cache keep (c :: cs) t.base resolved b hrun
    rw [hrun]
    exact (bulk_runs obj s _ resolved hlen _).mono
      (fun props t' ⟨log, hruns, hcalls⟩ => ⟨resolved, log, rfl, hruns, hcalls⟩)
      fun f t' ⟨log, hruns, hcalls⟩ => ⟨log, hcalls, .inr ⟨resolved, rfl, hruns⟩⟩
  · rw [hrun]
    exact ⟨[], by simp, .inl ⟨rfl, rfl⟩⟩

/-- **A fetch of columns is positionwise.** A fetch of a non-empty list of columns that succeeds
gives one property per column, with the column's id. It makes exactly one bulk call, with the tags
of the columns resolved by its first pass, each resolved id in its column's wire type, and gets
one answer per tag; then the second pass opens a stream, in the column's stream encoding and on
the position's tag, exactly where the answer is the error code for a value too large and the
column resolved, in order, and decodes every other answer. A fetch that fails did so in its first
pass, with no call, or as `Runs` says: at a column type outside `0..5` before the bulk call, at the
bulk call, at an answer of the wrong length, or in the second pass. -/
theorem getProperties_positionwise (c : Column) (cs : List Column) (t : Traced σ ObjectCall) :
    Ends (getProperties obj.traced s.lift r.lift cache (fun c => Traced.lift (keep c)) (c :: cs)) t
      (fun props t' => ∃ resolved tags raw opens,
        ((prepare r cache keep (c :: cs)).run.run t.base).1 = .ok resolved ∧
        props.map Property.id = (c :: cs).map Column.id ∧
        t'.calls = t.calls ++ .getProps (some tags) (.ok raw) :: opens ∧
        Requests (c :: cs) resolved tags ∧ raw.length = tags.length ∧
        Settles (work (c :: cs) tags raw resolved) (.ok props) opens)
      fun f t' => ∃ log, t'.calls = t.calls ++ log ∧
        (((prepare r cache keep (c :: cs)).run.run t.base).1 = .error f ∧ log = [] ∨
          ∃ resolved, ((prepare r cache keep (c :: cs)).run.run t.base).1 = .ok resolved ∧
            Runs (c :: cs) resolved (.error f) log) := by
  refine (getProperties_runs obj s r cache keep c cs t).mono
    (fun props t' ⟨resolved, log, hprep, hruns, hcalls⟩ => ?_) fun _ _ h => h
  obtain ⟨tags, raw, opens, hreq, hlen, hset, rfl⟩ := hruns.ok_inv
  have hres : resolved.length = (c :: cs).length :=
    (prepare_length r cache keep (c :: cs)).of_outcome hprep
  have htags := hreq.length_eq hres
  refine ⟨resolved, tags, raw, opens, hprep, ?_, hcalls, hreq, hlen, hset⟩
  rw [ids_of_settled (hset.settled rfl), work_ids htags (hlen.trans htags) hres]

/-! ### The recorded fetch runs as the fetch -/

theorem settle_traced (work : List (Column × Tag × RawProp × Bool)) (done : List Property) :
    RunsAs (fun _ => True) (settle obj.traced s.lift done work) (settle obj s done work) := by
  induction work generalizing done with
  | nil => exact RunsAs.pure _
  | cons w work ih =>
    obtain ⟨col, tg, p, ok⟩ := w
    unfold settle
    dsimp only
    by_cases hc : p.errorCode? = some ErrorCode.notEnoughMemory ∧ ok = true
    · rw [if_pos hc, if_pos hc]
      exact (RunsAs.tryCatch ((RunsAs.call (fun _ => trivial) _).bind fun _ => RunsAs.pure _)
        fun _ => (closeAll_lift s _).bind fun _ => RunsAs.throw _).bind fun _ => ih _
    · rw [if_neg hc, if_neg hc]
      cases Codec.decode p with
      | ok v => exact (RunsAs.pure v).bind fun _ => ih _
      | error f => exact (closeAll_lift s _).bind fun _ => (RunsAs.throw f).bind fun _ => ih _

theorem tags_traced (pairs : List (Column × ResolvedTag)) :
    RunsAs (fun _ : ObjectCall => True) (pairs.mapM fun x => do
        let wire ← lift x.1.type.wireType
        pure (Tag.make wire x.2.tag.id) : ExceptT Failure (StateM (Traced σ ObjectCall)) (List Tag))
      (pairs.mapM fun x => do
        let wire ← lift x.1.type.wireType
        pure (Tag.make wire x.2.tag.id)) := by
  refine RunsAs.mapM (fun x => ?_) pairs
  cases x.1.type.wireType with
  | ok w => exact (RunsAs.pure w).bind fun _ => RunsAs.pure _
  | error f => exact (RunsAs.throw f).bind fun _ => RunsAs.pure _

theorem bulk_traced (columns : List Column) (resolved : List ResolvedTag) :
    RunsAs (fun _ => True) (bulk obj.traced s.lift columns resolved) (bulk obj s columns resolved) := by
  unfold bulk
  dsimp only
  by_cases hlen : resolved.length = columns.length
  · rw [if_pos hlen, if_pos hlen]
    refine (tags_traced _).bind fun tags => (RunsAs.tryCatch (RunsAs.call (fun _ => trivial) _)
      fun _ => RunsAs.throw _).bind fun raw => ?_
    by_cases hraw : raw.length = tags.length
    · rw [if_pos hraw, if_pos hraw]
      exact settle_traced obj s _ _
    · rw [if_neg hraw, if_neg hraw]
      exact RunsAs.throw_bind _
  · rw [if_neg hlen, if_neg hlen]
    exact RunsAs.throw_bind _

/-- **The recorded fetch is the fetch**: with the object's calls recorded, a fetch of columns
ends as it does on the base state, and only adds to the record. -/
theorem getProperties_traced (c : Column) (cs : List Column) :
    RunsAs (fun _ => True)
      (getProperties obj.traced s.lift r.lift cache (fun c => Traced.lift (keep c)) (c :: cs))
      (getProperties obj s r cache keep (c :: cs)) := by
  rw [getProperties_cons, getProperties_cons]
  exact ((prepare_lift r cache keep _).mono fun _ h => h.elim).bind fun resolved =>
    bulk_traced obj s _ resolved

/-! ### Columns that did not resolve -/

/-- What a successful fetch of `columns`, resolved as `resolved`, says of the columns that did not
resolve, with `log` the calls it made: each is asked for in the one bulk call as id 0 in its wire
type, and its property is the answer there decoded: not a stream, and no value when the answer is
an error property. -/
def UnresolvedDecoded (columns : List Column) (resolved : List ResolvedTag) (props : List Property)
    (log : List ObjectCall) : Prop :=
  ∃ tags raw opens, log = .getProps (some tags) (.ok raw) :: opens ∧
    ∀ (i : Nat) (col : Column) (rt : ResolvedTag), columns[i]? = some col →
      resolved[i]? = some rt → rt.absent = true →
      ∃ w p pr, col.type.wireType = .ok w ∧ tags[i]? = some (Tag.make w 0) ∧ raw[i]? = some p ∧
        props[i]? = some pr ∧ Unstreamed pr.value ∧ Codec.decode p = .ok pr.value ∧
        (p.tag.type = PropType.error → pr.value = none)

/-- A successful fetch of columns resolved one for one says `UnresolvedDecoded` of its calls. -/
theorem Runs.unresolvedDecoded {columns : List Column} {resolved : List ResolvedTag}
    {props : List Property} {log : List ObjectCall} (hres : resolved.length = columns.length)
    (h : Runs columns resolved (.ok props) log) : UnresolvedDecoded columns resolved props log := by
  obtain ⟨tags, raw, opens, hreq, hlen, hset, rfl⟩ := h.ok_inv
  refine ⟨tags, raw, opens, rfl, fun i col rt hcol hrt habs => ?_⟩
  -- the tag asked at `i` is the column's wire type with the id of no tag, 0
  have hpair : (columns.zip resolved)[i]? = some (col, rt) := List.getElem?_zip_eq_some.2 ⟨hcol, hrt⟩
  obtain ⟨tg, htg, w, hw, rfl⟩ := getElem?_of_forall₂ hreq hpair
  have hnull : rt.tag = Tag.null := by simpa [ResolvedTag.absent] using habs
  have hi : i < raw.length := by
    rw [hlen, hreq.length_eq hres]
    exact (List.getElem?_eq_some_iff.1 hcol).1
  obtain ⟨p, hp⟩ : ∃ p, raw[i]? = some p := ⟨_, List.getElem?_eq_getElem hi⟩
  -- its piece of work is marked unresolved, so the answer is decoded
  have hwork : (work columns tags raw resolved)[i]? = some (col, Tag.make w rt.tag.id, p, false) := by
    simp only [work, List.getElem?_zip_eq_some, List.getElem?_map, hcol, htg, hp, hrt, habs,
      Option.map_some, Bool.not_true, and_self]
  obtain ⟨pr, hpr, -, hdec⟩ := getElem?_of_forall₂ (hset.settled rfl) hwork
  rw [if_neg (by simp)] at hdec
  refine ⟨w, p, pr, hw, by rw [htg, hnull]; rfl, hp, hpr, Codec.decode_unstreamed hdec, hdec,
    fun herr => ?_⟩
  rw [Codec.decode_of_error_type herr] at hdec
  exact (Except.ok.inj hdec).symm

/-- A recorded fetch of some columns that succeeds says `UnresolvedDecoded` of the calls it
made. -/
theorem getProperties_unresolved (c : Column) (cs : List Column) (t : Traced σ ObjectCall) :
    Ends (getProperties obj.traced s.lift r.lift cache (fun c => Traced.lift (keep c)) (c :: cs)) t
      (fun props t' => ∃ resolved log,
        ((prepare r cache keep (c :: cs)).run.run t.base).1 = .ok resolved ∧
        t'.calls = t.calls ++ log ∧ UnresolvedDecoded (c :: cs) resolved props log)
      fun _ _ => True :=
  (getProperties_runs obj s r cache keep c cs t).mono
    (fun _ _ ⟨resolved, log, hprep, hruns, hcalls⟩ => ⟨resolved, log, hprep, hcalls,
      hruns.unresolvedDecoded ((prepare_length r cache keep _).of_outcome hprep)⟩)
    fun _ _ _ => trivial

end Fetch

/-! ### Properties of entries -/

section Entries

variable [EntityHost σ] (d : Driver (EntityM σ))

/-- The properties of an object of a store are what a fetch on the object returns, through the
store's resolver and some name cache, from some state. -/
theorem StoreRef.properties_fetched (r : StoreRef) (h : Nat) (cols : List Column) (st : σ) :
    Ends (r.properties d h cols) st
      (fun props _ => ∃ o cache st₁ st₂, (Fetch.getProperties (d.object h) d.streams
        (StoreRef.resolver d o) cache (StoreRef.keepNames r) cols).run.run st₁ = (.ok props, st₂))
      fun _ _ => True := by
  unfold StoreRef.properties
  rw [Ends.bind_iff]
  refine Ends.of_forall (fun o st₁ => ?_) fun _ _ => trivial
  rw [Ends.bind_iff]
  refine Ends.of_forall (fun S st₂ => ?_) fun _ _ => trivial
  rw [Ends.bind_iff]
  refine Ends.intro (fun props st₃ hrun => ?_) fun _ _ _ => trivial
  -- counting the streams leaves the list as it is
  dsimp only
  split
  · rw [Ends.bind_iff]
    exact Ends.of_forall (fun _ _ => ⟨o, S.names, st₂, st₃, hrun⟩) fun _ _ => trivial
  · exact ⟨o, S.names, st₂, st₃, hrun⟩

/-- `props` are what a recorded fetch of `columns` on an open object of the driver returns from
some state, through the store's resolver and some name cache; and that fetch says
`UnresolvedDecoded` of the calls it made. -/
def FetchedOnEntry (columns : List Column) (props : List Property) : Prop :=
  ∃ (r : StoreRef) (h : Nat) (o : OpenStore) (cache : NameCache) (st : σ),
    Ends (Fetch.getProperties (d.object h).traced d.streams.lift (StoreRef.resolver d o).lift cache
        (fun c => Traced.lift (StoreRef.keepNames r c)) columns) ⟨st, []⟩
      (fun props' t => props' = props ∧ ∃ resolved,
        ((Fetch.prepare (StoreRef.resolver d o) cache (StoreRef.keepNames r) columns).run.run st).1 =
          .ok resolved ∧ Fetch.UnresolvedDecoded columns resolved props t.calls)
      fun _ _ => False

/-- A fetch of some columns on an object of the driver that succeeds, recorded, says
`UnresolvedDecoded` of its calls. -/
theorem fetchedOnEntry_of_run {r : StoreRef} {h : Nat} {o : OpenStore} {cache : NameCache}
    {c : Column} {cs : List Column} {st st' : σ} {props : List Property}
    (hrun : (Fetch.getProperties (d.object h) d.streams (StoreRef.resolver d o) cache
      (StoreRef.keepNames r) (c :: cs)).run.run st = (.ok props, st')) :
    FetchedOnEntry d (c :: cs) props := by
  refine ⟨r, h, o, cache, st, ?_⟩
  -- the recorded fetch ends as the fetch did
  have hok : Ends (Fetch.getProperties (d.object h).traced d.streams.lift
      (StoreRef.resolver d o).lift cache (fun c => Traced.lift (StoreRef.keepNames r c)) (c :: cs))
      ⟨st, []⟩ (fun props' _ => props' = props) fun _ _ => False :=
    (Fetch.getProperties_traced _ _ _ _ _ c cs).ends ((Ends.iff_of_run_ok hrun).2 fun _ _ => rfl)
  refine (hok.and (Fetch.getProperties_unresolved _ _ _ _ _ c cs ⟨st, []⟩)).mono
    (fun props' t ⟨hp, resolved, log, hprep, hcalls, hU⟩ => ⟨hp, resolved, hprep, ?_⟩)
    fun _ _ h => h.1
  subst hp
  rwa [hcalls, List.nil_append]

/-- The properties of an entry, read from the object its opening gives, whichever that is. -/
theorem properties_of_opened (x : EntityM σ (StoreRef × Nat)) (c : Column) (cs : List Column)
    (st : σ) :
    Ends (x >>= fun (r, h) => r.properties d h (c :: cs)) st
      (fun props _ => FetchedOnEntry d (c :: cs) props) fun _ _ => True := by
  rw [Ends.bind_iff]
  exact Ends.of_forall (fun ⟨r, h⟩ st₁ => (StoreRef.properties_fetched d r h _ st₁).mono
    (fun _ _ ⟨_, _, _, _, hrun⟩ => fetchedOnEntry_of_run d hrun) fun _ _ _ => trivial)
    fun _ _ => trivial

theorem FolderRef.properties_fetchedOnEntry (f : FolderRef) (c : Column) (cs : List Column)
    (st : σ) :
    Ends (f.properties d (c :: cs)) st (fun props _ => FetchedOnEntry d (c :: cs) props)
      fun _ _ => True :=
  properties_of_opened d (FolderRef.ensureOpen d f) c cs st

theorem ItemRef.properties_fetchedOnEntry (i : ItemRef) (c : Column) (cs : List Column) (st : σ) :
    Ends (i.properties d (c :: cs)) st (fun props _ => FetchedOnEntry d (c :: cs) props)
      fun _ _ => True :=
  properties_of_opened d (ItemRef.ensureOpen d i) c cs st

end Entries

/-- **A column that did not resolve is asked for as id 0, and is never a stream.** In a fetch of a
non-empty list of columns that succeeds, each column whose id resolved to no tag (a name the store
does not know, or a number above `0xFFFF`) is asked for in the one bulk call as the property of
id 0 in the column's wire type. Its value is not a stream: it is the object's answer there,
decoded, so no value when the object answers with an error property, and the value of a property
of id 0 in that type when the object holds one. The properties of folders and items are such a
fetch on the entry's object, and the same holds of them. -/
theorem unresolved_column_decoded [EntityHost σ] :
    (∀ (obj : PropObject (ExceptT Failure (StateM σ)))
        (s : StreamStore (ExceptT Failure (StateM σ))) (r : NameResolver (ExceptT Failure (StateM σ)))
        (cache : NameCache) (keep : NameCache → ExceptT Failure (StateM σ) Unit) (c : Column)
        (cs : List Column) (t : Traced σ ObjectCall),
      Ends (Fetch.getProperties obj.traced s.lift r.lift cache (fun c => Traced.lift (keep c)) (c :: cs))
        t (fun props t' => ∃ resolved log,
          ((Fetch.prepare r cache keep (c :: cs)).run.run t.base).1 = .ok resolved ∧
          t'.calls = t.calls ++ log ∧ Fetch.UnresolvedDecoded (c :: cs) resolved props log)
        fun _ _ => True) ∧
    ∀ (d : Driver (EntityM σ)) (c : Column) (cs : List Column) (st : σ),
      (∀ f : FolderRef, Ends (f.properties d (c :: cs)) st
        (fun props _ => FetchedOnEntry d (c :: cs) props) fun _ _ => True) ∧
      ∀ i : ItemRef, Ends (i.properties d (c :: cs)) st
        (fun props _ => FetchedOnEntry d (c :: cs) props) fun _ _ => True :=
  ⟨Fetch.getProperties_unresolved, fun d c cs st =>
    ⟨fun f => FolderRef.properties_fetchedOnEntry d f c cs st,
      fun i => ItemRef.properties_fetchedOnEntry d i c cs st⟩⟩

end MailStore
