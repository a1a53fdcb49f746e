import Mathlib
import MailStore.Proofs.SqlRead
import MailStore.Proofs.StreamRelease
import MailStore.Proofs.NameCache

/-!
# The inline limit is invisible to a fetch of columns

A fetch of columns asks the store for all of them in one bulk call, and opens a stream for each
value the call reports too large. Read whole, such a stream gives exactly what the bulk call
would have given without a limit: the stream is over the same bytes in the same type, and the
column's encoding reads them as the codec reads the inline value. So for columns of text or
bytes whose ids resolve, the values of a fetch on the property database, once every stream is
read, are the same under any two inline limits, or under both the fetch fails because a value
breaks its type's contract (`Cause.inconsistent`).

The comparison goes through an outcome that mentions no limit: each column's value projected
from what the database holds, with no limit, and decoded (`Fetch.unlimited`, `Fetch.Settled`).
The bulk read under a limit puts an error property in place of a longer value and leaves every
other value as it is (`PropertyDb.project_of_fits`); the second pass opens the longer ones as
streams that hold the value (`SqlBench.openStream_ends`); reading such a stream decodes its bytes
by the column's encoding (`SqlBench.materialize_fresh`, `Codec.decode_eq_decodeAs`). What comes
before the bulk read, resolving the columns' names, runs alike under every limit as long as the
resolver is blind to it (`Fetch.values_run_withInline`).

A fetch of all properties has no second pass, and there the limit shows: a value longer than
the limit comes back as no value (`fetch_all_shows_inline_limit`).

## Main statements

* `SqlBench.materialize_fresh`: reading a stream the database opened decodes its bytes.
* `Fetch.settle_stands`, `Fetch.materializeAll_stands`: every property of the second pass stands
  for the decoded value of its column, and reading the streams gives those values.
* `Fetch.bulk_settled`: the bulk read and the second pass end, under every limit, as the values
  with no limit say.
* `inline_limit_invisible`: fetches of text and byte columns under two inline limits agree.
-/

namespace MailStore

open Console

/-! ### Fetching and reading -/

namespace Fetch

variable {m : Type → Type} [Monad m] [MonadExcept Failure m]

/-- The values of fetched properties, each stream read whole. -/
def materializeAll (s : StreamStore m) (props : List Property) : m (List (Option Value)) :=
  props.mapM fun p =>
    match p.value with
    | some (.stream r) => Stream.materialize s r
    | v => pure v

/-- The values of columns of an object: fetched in two passes, then every stream read. -/
def values (obj : PropObject m) (s : StreamStore m) (r : NameResolver m) (cache : NameCache)
    (keep : NameCache → m Unit) (columns : List Column) : m (List (Option Value)) := do
  materializeAll s (← getProperties obj s r cache keep columns)

end Fetch

/-- Two outcomes of a fetch agree: they are the same, or both are failures of a store that broke
its contract. -/
def FetchAgrees {α : Type} (o₁ o₂ : Except Failure α) : Prop :=
  o₁ = o₂ ∨ ∃ f₁ f₂, o₁ = .error f₁ ∧ o₂ = .error f₂ ∧ f₁.cause = .inconsistent ∧
    f₂.cause = .inconsistent

/-! ### What the codec and a stream read agree on -/

/-- The wire type of a column of text or bytes is wide text or bytes. -/
theorem ColumnType.wireType_textual {c : ColumnType} {t : PropType} (hc : c = .string ∨ c = .binary)
    (h : c.wireType = .ok t) : t = .unicode ∨ t = .binary := by
  rcases hc with rfl | rfl
  · exact .inl (Except.ok.inj h).symm
  · exact .inr (Except.ok.inj h).symm

namespace Codec

/-- Every value the codec refuses breaks its type's contract. -/
theorem decode_error_inconsistent {p : RawProp} {f : Failure} (h : decode p = .error f) :
    f.cause = .inconsistent := by
  -- every failure is a length check, or the UTF-16 reader refusing an odd length
  have hlen : ∀ n (v : Option Value),
      (do expectLength p n; pure v : Except Failure (Option Value)) = .error f →
        f.cause = .inconsistent := by
    intro n v hv
    unfold expectLength at hv
    split at hv <;> cases hv
    rfl
  unfold decode at h
  dsimp only at h
  split_ifs at h
  · exact hlen 2 _ h
  · exact hlen 4 _ h
  · exact hlen 8 _ h
  · exact hlen 2 _ h
  · cases h
  · unfold Utf16.decode at h
    split at h <;> cases h
    rfl
  · exact hlen 16 _ h
  · exact hlen 8 _ h
  · cases h
  · cases h

/-- A column of text or bytes reads a stream of its wire type as the codec reads the value:
as UTF-16 text for a string column, as bytes for a binary one. -/
theorem decode_eq_decodeAs {c : ColumnType} (hc : c = .string ∨ c = .binary) {u : RawProp}
    (hu : c.wireType = .ok u.tag.type) :
    decode u = (Stream.decodeAs c.streamEncoding u.data).map some := by
  rcases hc with rfl | rfl
  · have ht : u.tag.type = PropType.unicode := (Except.ok.inj hu).symm
    unfold decode
    simp +decide only [ht, if_false, if_true, Stream.decodeAs, ColumnType.streamEncoding]
    cases Utf16.decode u.data <;> rfl
  · have ht : u.tag.type = PropType.binary := (Except.ok.inj hu).symm
    unfold decode
    simp +decide only [ht, if_false, Stream.decodeAs, ColumnType.streamEncoding]
    rfl

end Codec

/-! ### Endings of runs -/

/-- What holds of every ending holds of the ending of a run. -/
theorem Ends.of_forall {ε σ α : Type} {x : ExceptT ε (StateM σ) α} {s : σ} {Q : α → σ → Prop}
    {E : ε → σ → Prop} (hq : ∀ a s', Q a s') (he : ∀ f s', E f s') : Ends x s Q E := by
  unfold Ends
  split
  · exact hq _ _
  · exact he _ _

/-- What a description of its endings says of each outcome holds of the outcome of a run. -/
theorem Ends.outcome {ε σ α : Type} {x : ExceptT ε (StateM σ) α} {s : σ} {S : Except ε α → Prop}
    (h : Ends x s (fun a _ => S (.ok a)) fun e _ => S (.error e)) : S (x.run.run s).1 := by
  unfold Ends at h
  rcases hx : x.run.run s with ⟨_ | a, s'⟩ <;> rw [hx] at h <;> exact h

/-! ### Streams of the session -/

namespace Console.SqlBench

variable {s : SqlBench} {hd : Nat}

/-- The session with the stream of handle `hd` changed by `f`. -/
def mapStream (s : SqlBench) (hd : Nat) (f : MemStream → MemStream) : SqlBench :=
  { s with rig := { s.rig with streams := s.rig.streams.modify hd f } }

/-- From `s` to `s'` no stream changed but the one of handle `hd`. -/
def Frame (hd : Nat) (s s' : SqlBench) : Prop :=
  ∀ i, i ≠ hd → s'.rig.streams[i]? = s.rig.streams[i]?

theorem Frame.refl (s : SqlBench) : Frame hd s s := fun _ _ => rfl

theorem Frame.trans {s₁ s₂ s₃ : SqlBench} (h₁ : Frame hd s₁ s₂) (h₂ : Frame hd s₂ s₃) :
    Frame hd s₁ s₃ := fun i hi => (h₂ i hi).trans (h₁ i hi)

theorem frame_mapStream (f : MemStream → MemStream) : Frame hd s (s.mapStream hd f) := by
  intro i hi
  simp [mapStream, Ne.symm hi]

theorem Frame.mapStream {s₁ : SqlBench} (h : Frame hd s s₁) (f : MemStream → MemStream) :
    Frame hd s (s₁.mapStream hd f) :=
  h.trans (frame_mapStream f)

@[simp]
theorem mapStream_streams_self (f : MemStream → MemStream) :
    (s.mapStream hd f).rig.streams[hd]? = (s.rig.streams[hd]?).map f := by
  simp [mapStream]

@[simp]
theorem ends_stream {Q : MemStream → SqlBench → Prop} {E : Failure → SqlBench → Prop} :
    Ends (Script.stream hd : ScriptM SqlBench MemStream) s Q E ↔
      match s.rig.streams[hd]? with
      | some st => Q st s
      | none => E (Failure.other "no such stream") s := by
  unfold Script.stream Script.rig
  simp only [Ends.bind_iff, Ends.get_iff, Ends.pure_iff]
  cases s.rig.streams[hd]? <;> rfl

@[simp]
theorem ends_setStream {f : MemStream → MemStream} {Q : Unit → SqlBench → Prop}
    {E : Failure → SqlBench → Prop} :
    Ends (Script.setStream hd f : ScriptM SqlBench Unit) s Q E ↔ Q () (s.mapStream hd f) :=
  Iff.rfl

/-- A stream of the session that answers no scripted faults: asking its size gives the size. -/
theorem ends_size {st : MemStream} (hs : s.rig.streams[hd]? = some st) (hst : st.scripted = false)
    {Q : Nat → SqlBench → Prop} {E : Failure → SqlBench → Prop} :
    Ends ((Script.streams : StreamStore (ScriptM SqlBench)).size hd) s Q E ↔ Q st.size s := by
  simp only [Script.streams]
  rw [Ends.bind_iff, ends_stream, hs]
  simp [hst]

/-- Reading from such a stream gives what is left of it, up to `n` bytes, and drops that. -/
theorem ends_read {st : MemStream} (hs : s.rig.streams[hd]? = some st) (hst : st.scripted = false)
    (n : Nat) {Q : Option Bytes → SqlBench → Prop} {E : Failure → SqlBench → Prop} :
    Ends ((Script.streams : StreamStore (ScriptM SqlBench)).read hd n) s Q E ↔
      if st.rest.isEmpty then Q none s
      else Q (some (st.rest.take n)) (s.mapStream hd fun st => { st with rest := st.rest.drop n }) := by
  simp only [Script.streams]
  rw [Ends.bind_iff, ends_stream, hs]
  simp only [hst, Bool.false_eq_true, if_false]
  split <;> rfl

/-- Closing such a stream marks it closed. -/
theorem ends_close {st : MemStream} (hs : s.rig.streams[hd]? = some st) (hst : st.scripted = false)
    {Q : Unit → SqlBench → Prop} {E : Failure → SqlBench → Prop} :
    Ends ((Script.streams : StreamStore (ScriptM SqlBench)).close hd) s Q E ↔
      Q () (s.mapStream hd fun st => { st with closed := true }) := by
  simp only [Script.streams]
  rw [Ends.bind_iff, ends_stream, hs]
  simp [hst]

@[simp]
theorem ends_lookup {Q : StreamState → SqlBench → Prop} {E : Failure → SqlBench → Prop} :
    Ends ((Script.streams : StreamStore (ScriptM SqlBench)).lookup hd) s Q E ↔
      match s.rig.streams[hd]? with
      | some st => Q st.state s
      | none => E (Failure.other "no such stream") s := by
  simp only [Script.streams, Ends.bind_iff, ends_stream]
  cases s.rig.streams[hd]? <;> rfl

@[simp]
theorem ends_record {o : StreamState} {Q : Unit → SqlBench → Prop} {E : Failure → SqlBench → Prop} :
    Ends ((Script.streams : StreamStore (ScriptM SqlBench)).record hd o) s Q E ↔
      Q () (s.mapStream hd fun st => { st with state := o }) :=
  Iff.rfl

/-- From `s` to `s'` only the stream of handle `hd` changed, and it still answers no faults. -/
def Touched (hd : Nat) (s s' : SqlBench) : Prop :=
  Frame hd s s' ∧ ∃ st, s'.rig.streams[hd]? = some st ∧ st.scripted = false

theorem Touched.refl {st : MemStream} (hs : s.rig.streams[hd]? = some st) (hst : st.scripted = false) :
    Touched hd s s := ⟨Frame.refl s, st, hs, hst⟩

theorem Touched.mapStream {s' : SqlBench} (h : Touched hd s s') (f : MemStream → MemStream)
    (hf : ∀ st, (f st).scripted = st.scripted) : Touched hd s (s'.mapStream hd f) := by
  obtain ⟨hfr, st, hs, hst⟩ := h
  exact ⟨hfr.mapStream f, f st, by simp [hs], by rw [hf, hst]⟩

/-- Reading a stream of the session whole, from its start: one read takes all of it. -/
theorem readFull_whole {st : MemStream} (hs : s.rig.streams[hd]? = some st)
    (hst : st.scripted = false) :
    Ends (Stream.readFull Script.streams hd st.rest.length (st.rest.length + 1) []) s
      (fun x s' => x = (st.rest, none) ∧ Touched hd s s') fun _ _ => False := by
  rw [Stream.readFull]
  cases hrest : st.rest with
  | nil => exact ⟨rfl, Touched.refl hs hst⟩
  | cons b bs =>
    -- the first read asks for the whole length and gets it; the second turn finds it complete
    have hlen : ¬ ([] : Bytes).length ≥ (b :: bs).length := by simp
    simp only [hlen, if_false, Ends.bind_iff, Ends.tryCatch_iff, Ends.pure_iff]
    rw [ends_read hs hst]
    simp only [hrest, List.isEmpty_cons, Bool.false_eq_true, if_false, List.length_nil,
      Nat.sub_zero, List.take_length, List.nil_append]
    rw [List.length_cons, Stream.readFull]
    simp only [ge_iff_le, List.length_cons, le_refl, if_true, Ends.pure_iff, true_and]
    exact (Touched.refl hs hst).mapStream _ fun _ => rfl

/-- Reading a stream of the session whole decodes all its bytes, when its size is their number
and not above the largest size that is read. -/
theorem readAll_whole {st : MemStream} (hs : s.rig.streams[hd]? = some st)
    (hst : st.scripted = false) (hsize : st.size = st.rest.length)
    (hmax : st.rest.length ≤ Stream.maxSize) (enc : StreamEncoding) :
    Ends (Stream.readAll Script.streams hd enc) s
      (fun v s' => Stream.decodeAs enc st.rest = .ok v ∧ Touched hd s s')
      fun f s' => Stream.decodeAs enc st.rest = .error f ∧ Touched hd s s' := by
  unfold Stream.readAll
  rw [Ends.bind_iff, Ends.tryCatch_iff, ends_size hs hst, hsize]
  have hfits : ¬ st.rest.length > Stream.maxSize := by omega
  dsimp only
  simp only [hfits, if_false]
  rw [Ends.bind_iff]
  refine (readFull_whole hs hst).mono (fun x s' ⟨hx, ht⟩ => ?_) fun _ _ h => h.elim
  subst hx
  -- every byte was read, so no check fails and the bytes are decoded
  simp only [lt_irrefl, if_false, if_true]
  cases Stream.decodeAs enc st.rest with
  | ok v => exact ⟨rfl, ht⟩
  | error f => exact ⟨rfl, ht⟩

/-- **Reading a stream the database opened**: the first read of a stream over bytes `d`, unread
and answering no faults, decodes `d` by the stream's encoding, and changes no other stream. -/
theorem materialize_fresh {d : Bytes}
    (hs : s.rig.streams[hd]? = some ⟨d, d.length, false, .unread, false⟩)
    (hmax : d.length ≤ Stream.maxSize) (enc : StreamEncoding) :
    Ends (Stream.materialize Script.streams ⟨hd, enc⟩) s
      (fun v s' => (Stream.decodeAs enc d).map some = .ok v ∧ Frame hd s s')
      fun f s' => (Stream.decodeAs enc d).map some = .error f ∧ Frame hd s s' := by
  unfold Stream.materialize
  rw [Ends.bind_iff, ends_lookup, hs]
  dsimp only
  rw [Ends.bind_iff]
  -- the read gives the decoded bytes as its outcome; the rest of the run is taken from the goal
  refine Ends.mono (?_ : Ends _ s (fun o s₁ => Touched hd s s₁ ∧
      (Stream.decodeAs enc d).map some = o) fun _ _ => False) (fun o s₁ h => ?_) fun _ _ h => h.elim
  · rw [Ends.tryCatch_iff, Ends.bind_iff]
    refine (readAll_whole hs rfl rfl hmax enc).mono (fun v s₁ h => ?_) fun f s₁ h => ?_
    · exact Ends.pure_iff.2 ⟨h.2, by rw [show Stream.decodeAs enc d = .ok v from h.1]; rfl⟩
    · exact Ends.pure_iff.2 ⟨h.2, by rw [show Stream.decodeAs enc d = .error f from h.1]; rfl⟩
  -- after the read, closing succeeds and the outcome of the read is kept and replayed
  obtain ⟨⟨hfr, st₁, hs₁, hst₁⟩, ho⟩ := h
  rw [Ends.bind_iff, Ends.tryCatch_iff, Ends.bind_iff, ends_close hs₁ hst₁]
  simp only [Ends.pure_iff, Ends.bind_iff, ends_record]
  subst ho
  cases Stream.decodeAs enc d with
  | ok v => exact ⟨rfl, (hfr.mapStream _).mapStream _⟩
  | error f => exact ⟨rfl, (hfr.mapStream _).mapStream _⟩

@[simp]
theorem maxInline_withInline (L : Nat) : (s.withInline L).db.maxInline = L := rfl

/-- A new stream leaves the streams before it as they are. -/
theorem addStream_streams_lt {d : Bytes} {i : Nat} (hi : i < s.rig.streams.length) :
    (s.addStream d).rig.streams[i]? = s.rig.streams[i]? := by
  simp [addStream, List.getElem?_append_left hi]

@[simp]
theorem addStream_streams_self (d : Bytes) :
    (s.addStream d).rig.streams[s.rig.streams.length]? = some ⟨d, d.length, false, .unread, false⟩ := by
  simp [addStream]

@[simp]
theorem length_addStream_streams (d : Bytes) :
    (s.addStream d).rig.streams.length = s.rig.streams.length + 1 := by
  simp [addStream]

end Console.SqlBench

/-! ### Reading what a fetch gave -/

namespace Fetch

open SqlBench

/-- A fetched property stands, in a session, for the outcome of reading it: a value that is not
a stream stands for itself, and a stream value for its bytes decoded, the stream being unread and
over exactly those bytes. -/
def Stands (s : SqlBench) (p : Property) (o : Except Failure (Option Value)) : Prop :=
  (Unstreamed p.value ∧ o = .ok p.value) ∨
    ∃ hd enc d, p.value = some (.stream ⟨hd, enc⟩) ∧
      s.rig.streams[hd]? = some ⟨d, d.length, false, .unread, false⟩ ∧
      d.length ≤ Stream.maxSize ∧ o = (Stream.decodeAs enc d).map some

/-- What a property stands for stays while the streams it holds stay. -/
theorem Stands.congr {s s' : SqlBench} {p : Property} {o : Except Failure (Option Value)}
    (hp : Stands s p o) (hs : ∀ j ∈ streamsOf [p], s'.rig.streams[j]? = s.rig.streams[j]?) :
    Stands s' p o := by
  rcases hp with hp | ⟨hd, enc, d, hv, hst, hmax, ho⟩
  · exact .inl hp
  · exact .inr ⟨hd, enc, d, hv, (hs hd (by simp [streamsOf_cons_stream hv])).trans hst, hmax, ho⟩

/-- What properties stand for stays while the streams they hold stay. -/
theorem Stands.congr_all {s s' : SqlBench} {props : List Property}
    {outs : List (Except Failure (Option Value))} (hp : List.Forall₂ (Stands s) props outs)
    (hs : ∀ j ∈ streamsOf props, s'.rig.streams[j]? = s.rig.streams[j]?) :
    List.Forall₂ (Stands s') props outs := by
  induction hp with
  | nil => exact .nil
  | @cons p o props outs hpo _ ih =>
    have hsplit : streamsOf (p :: props) = streamsOf [p] ++ streamsOf props := by
      rw [← streamsOf_append, List.singleton_append]
    rw [hsplit] at hs
    exact .cons (hpo.congr fun j hj => hs j (List.mem_append_left _ hj))
      (ih fun j hj => hs j (List.mem_append_right _ hj))

/-- **Reading every stream of a fetch** gives, in order, the outcomes the properties stand for:
their values when all are values, and else the first failure. -/
theorem materializeAll_stands {props : List Property} {outs : List (Except Failure (Option Value))}
    {s : SqlBench} (h : List.Forall₂ (Stands s) props outs) (hnd : (streamsOf props).Nodup) :
    Ends (materializeAll Script.streams props) s (fun vs _ => outs.mapM id = .ok vs)
      fun f _ => outs.mapM id = .error f := by
  induction props generalizing outs s with
  | nil =>
    cases h
    rfl
  | cons p props ih =>
    obtain _ | ⟨hpo, hrest⟩ := h
    rename_i o outs
    unfold materializeAll at ih ⊢
    rw [List.mapM_cons, Ends.bind_iff, List.mapM_cons]
    rcases hpo with ⟨hu, rfl⟩ | ⟨hd, enc, d, hv, hs, hmax, rfl⟩
    · -- a value that is not a stream is kept as it is
      have hnd' : (streamsOf props).Nodup := by rwa [streamsOf_cons_unstreamed hu] at hnd
      have hkeep : (match p.value with
          | some (.stream r) => Stream.materialize Script.streams r
          | v => pure v : ScriptM SqlBench (Option Value)) = pure p.value := by
        split
        · rename_i r hr
          exact absurd hr (hu r)
        · rfl
      rw [hkeep, Ends.pure_iff, Ends.bind_iff]
      refine (ih hrest hnd').mono (fun vs _ hvs => ?_) fun f _ hf => ?_
      · rw [hvs]
        rfl
      · rw [hf]
        rfl
    · -- a stream is read whole; the other streams are left as they are
      rw [streamsOf_cons_stream hv, List.nodup_cons] at hnd
      rw [hv]
      refine (materialize_fresh hs hmax enc).mono (fun v s₁ ⟨hv', hfr⟩ => ?_) fun f _ ⟨hf, _⟩ => ?_
      · rw [Ends.bind_iff]
        have hrest' := Stands.congr_all hrest fun j hj => hfr j fun hj' => hnd.1 (hj' ▸ hj)
        refine (ih hrest' hnd.2).mono (fun vs _ hvs => ?_) fun f _ hf => ?_
        · rw [hv', hvs]
          rfl
        · rw [hv', hf]
          rfl
      · rw [hf]
        rfl

/-- Releasing the streams of fetched properties never fails: a failure to close one is dropped. -/
theorem closeAll_ends {σ : Type} (st : StreamStore (ExceptT Failure (StateM σ)))
    (props : List Property) (s : σ) :
    Ends (closeAll st props) s (fun _ _ => True) fun _ _ => False := by
  induction props generalizing s with
  | nil => trivial
  | cons p props ih =>
    unfold closeAll
    dsimp only
    split
    · rw [Ends.bind_iff, Ends.tryCatch_iff]
      exact Ends.of_forall (fun _ s' => ih s') fun _ s' => ih s'
    · exact ih s

/-- The value of a column fetched with no limit, from what the database holds: the stored value
in the tag's type, decoded. -/
def unlimited (P : List RawProp) (t : Tag) : Except Failure (Option Value) :=
  Codec.decode (PropertyDb.project P 0 t false)

/-- A piece of the second pass of a fetch from a database holding `P`, under the inline limit
`L`: a column of text or bytes whose id resolved, asked in its wire type, with the bulk answer
for it, and a value no longer than a stream is read. -/
structure Pending (P : List RawProp) (L : Nat) (w : Column × Tag × RawProp × Bool) : Prop where
  textual : w.1.type = .string ∨ w.1.type = .binary
  wire : w.1.type.wireType = .ok w.2.1.type
  answer : w.2.2.1 = PropertyDb.project P L w.2.1 true
  resolved : w.2.2.2 = true
  fits : (PropertyDb.project P 0 w.2.1 false).data.length ≤ Stream.maxSize

/-- The wire type of a column of text or bytes is a type of values. -/
theorem Pending.type_ne {P : List RawProp} {L : Nat} {w : Column × Tag × RawProp × Bool}
    (hw : Pending P L w) : w.2.1.type ≠ PropType.error ∧ w.2.1.type ≠ PropType.unspecified := by
  rcases ColumnType.wireType_textual hw.textual hw.wire with h | h <;> rw [h] <;> decide

/-- What the second pass keeps of the properties it has done, in the session `s`: in order, each
stands for its column's value with no limit, and their streams are distinct and already open. -/
structure Done (s : SqlBench) (done : List Property) (outs : List (Except Failure (Option Value))) :
    Prop where
  stands : List.Forall₂ (Stands s) done.reverse outs
  nodup : (streamsOf done).Nodup
  opened : ∀ j ∈ streamsOf done, j < s.rig.streams.length

theorem Done.nil (s : SqlBench) : Done s [] [] := ⟨.nil, List.nodup_nil, by simp⟩

/-- A value kept as it is, not a stream, extends what is done. -/
theorem Done.inline {s : SqlBench} {done : List Property} {outs : List (Except Failure (Option Value))}
    (hd : Done s done outs) {p : Property} (hu : Unstreamed p.value) :
    Done s (p :: done) (outs ++ [.ok p.value]) := by
  refine ⟨?_, ?_, ?_⟩
  · rw [List.reverse_cons]
    exact List.rel_append hd.stands (.cons (.inl ⟨hu, rfl⟩) .nil)
  · rw [streamsOf_cons_unstreamed hu]
    exact hd.nodup
  · rw [streamsOf_cons_unstreamed hu]
    exact hd.opened

/-- A new stream, opened over bytes whose decoding the property stands for, extends what is done;
the streams before it stay as they were. -/
theorem Done.addStream {s : SqlBench} {done : List Property}
    {outs : List (Except Failure (Option Value))} (hd : Done s done outs) {id : PropertyId}
    {enc : StreamEncoding} {d : Bytes} (hmax : d.length ≤ Stream.maxSize) :
    Done (s.addStream d) (⟨id, some (.stream ⟨s.rig.streams.length, enc⟩)⟩ :: done)
      (outs ++ [(Stream.decodeAs enc d).map some]) := by
  refine ⟨?_, ?_, ?_⟩
  · rw [List.reverse_cons]
    refine List.rel_append (Stands.congr_all hd.stands fun j hj => ?_)
      (.cons (.inr ⟨_, _, _, rfl, addStream_streams_self _, hmax, rfl⟩) .nil)
    exact addStream_streams_lt (hd.opened j (mem_streamsOf_reverse.1 hj))
  · rw [streamsOf_cons_stream rfl, List.nodup_cons]
    exact ⟨fun hm => lt_irrefl _ (hd.opened _ hm), hd.nodup⟩
  · intro j hj
    rw [streamsOf_cons_stream rfl] at hj
    rw [length_addStream_streams]
    rcases List.mem_cons.1 hj with rfl | hj
    · exact Nat.lt_succ_self _
    · exact Nat.lt_succ_of_lt (hd.opened j hj)

/-- **The second pass** on the database, for columns of text or bytes whose ids resolved: each
property it gives stands for its column's value fetched with no limit, each stream new and over
exactly that value; or it fails because a column's value breaks its type's contract. -/
theorem settle_stands {h : Nat} {P : List RawProp} {L : Nat}
    (work : List (Column × Tag × RawProp × Bool)) (hw : ∀ w ∈ work, Pending P L w) :
    ∀ (done : List Property) (outs : List (Except Failure (Option Value))) (s : SqlBench),
      s.stored h = .ok P → Done s done outs →
      Ends (settle (driver.object h) Script.streams done work) s
        (fun props s' =>
          List.Forall₂ (Stands s') props (outs ++ work.map fun w => unlimited P w.2.1) ∧
            (streamsOf props).Nodup)
        fun f _ => f.cause = .inconsistent ∧ ∃ w ∈ work, ∃ f', unlimited P w.2.1 = .error f' := by
  induction work with
  | nil =>
    intro done outs s _ hd
    refine ⟨by simpa using hd.stands, ?_⟩
    rw [streamsOf, List.filterMap_reverse, List.nodup_reverse]
    exact hd.nodup
  | cons w work ih =>
    obtain ⟨col, t, p, ok⟩ := w
    intro done outs s hP hd
    have hw₀ := hw _ List.mem_cons_self
    have hans : p = PropertyDb.project P L t true := hw₀.answer
    have hrest : ∀ w ∈ work, Pending P L w := fun w hw' => hw w (List.mem_cons_of_mem _ hw')
    -- what the rest of the pass gives is what the whole pass gives
    have hnext : ∀ done' s', s'.stored h = .ok P → Done s' done' (outs ++ [unlimited P t]) →
        Ends (settle (driver.object h) Script.streams done' work) s'
          (fun props s'' => List.Forall₂ (Stands s'') props
              (outs ++ ((col, t, p, ok) :: work).map fun w => unlimited P w.2.1) ∧
            (streamsOf props).Nodup)
          fun f _ => f.cause = .inconsistent ∧
            ∃ w ∈ (col, t, p, ok) :: work, ∃ f', unlimited P w.2.1 = .error f' := fun done' s' hP' hd' =>
      (ih hrest done' _ s' hP' hd').mono (fun _ _ h => ⟨by simpa using h.1, h.2⟩)
        fun _ _ h => ⟨h.1, h.2.imp fun _ hw' => ⟨List.mem_cons_of_mem _ hw'.1, hw'.2⟩⟩
    unfold settle
    dsimp only
    split
    · -- reported too large: opened as a new stream over the value
      rename_i hbig
      have ht := hw₀.type_ne
      obtain ⟨hv, hty⟩ := PropertyDb.project_too_large ht.1 ht.2 (hans ▸ hbig.1)
      rw [Ends.bind_iff, Ends.tryCatch_iff, Ends.bind_iff]
      refine (openStream_ends h t hP hv).mono (fun hd s₁ hopen => ?_) fun _ _ h => h.elim
      obtain ⟨hhd, hs₁⟩ := hopen
      subst hhd hs₁
      rw [Ends.pure_iff]
      have hdec : unlimited P t = (Stream.decodeAs col.type.streamEncoding
          (PropertyDb.project P 0 t false).data).map some :=
        Codec.decode_eq_decodeAs hw₀.textual (hty ▸ hw₀.wire)
      exact hnext _ _ hP (hdec ▸ hd.addStream hw₀.fits)
    · -- answered in bulk: the value is the one with no limit, decoded
      rename_i hsmall
      have hfit : p = PropertyDb.project P 0 t false := by
        rw [hans]
        refine PropertyDb.project_of_fits fun h' => hsmall ⟨hans ▸ h', hw₀.resolved⟩
      have hdec : Codec.decode p = unlimited P t := by rw [hfit]; rfl
      split
      · rename_i v hv
        rw [Ends.bind_iff, Ends.pure_iff]
        have hd' := hd.inline (p := ⟨col.id, v⟩) (Codec.decode_unstreamed hv)
        exact hnext _ _ hP (by rwa [← hv, hdec] at hd')
      · rename_i f hf
        rw [Ends.bind_iff]
        refine (closeAll_ends _ _ s).mono (fun _ _ _ => ?_) fun _ _ h => h.elim
        exact Ends.throw_iff.2 ⟨Codec.decode_error_inconsistent hf, _, List.mem_cons_self, f,
          hdec ▸ hf⟩

end Fetch

/-! ### The first pass -/

/-- A resolver none of whose questions reads or writes what `g` changes. -/
structure NameResolver.BlindTo {σ : Type} (g : σ → σ) (r : NameResolver (ExceptT Failure (StateM σ))) :
    Prop where
  /-- Asking for ids. -/
  idsOfNames : ∀ names, Blind g (r.idsOfNames names)
  /-- Asking for names. -/
  namesOfIds : ∀ tags, Blind g (r.namesOfIds tags)
  /-- Reporting lookups. -/
  observe : ∀ hits misses, Blind g (r.observe hits misses)

/-- Resolving names through a resolver blind to `g` is blind to `g`. -/
theorem NameCache.resolveNamed_blind {σ : Type} {g : σ → σ}
    {r : NameResolver (ExceptT Failure (StateM σ))} (hr : r.BlindTo g) (c : NameCache)
    (ids : List PropertyId) : Blind g (c.resolveNamed r ids) := by
  unfold NameCache.resolveNamed
  split
  refine .bind (hr.observe _ _) fun _ => ?_
  split
  · exact .pure
  refine .bind (.tryCatch (hr.idsOfNames _) fun _ => .throw) fun tags => ?_
  split
  · exact .pure
  · exact .bind .throw fun _ => .pure

namespace NameCache

theorem length_lookupNamed (c : NameCache) (i : Nat) (ids : List PropertyId) :
    (c.lookupNamed i ids).1.length = ids.length := by
  induction ids generalizing i with
  | nil => rfl
  | cons id ids ih =>
    cases id with
    | numeric n => simp [lookupNamed, ih]
    | named nm =>
      simp only [lookupNamed]
      split <;> simp [ih]

theorem length_fileIds (acc : List ResolvedTag × NameCache) (l : List ((Nat × NamedId) × Tag)) :
    (fileIds acc l).1.length = acc.1.length := by
  induction l generalizing acc with
  | nil => rfl
  | cons x l ih =>
    obtain ⟨⟨i, nm⟩, t⟩ := x
    simp only [fileIds]
    split
    · exact ih acc
    · rw [ih]
      simp

/-- A resolution of ids gives one tag for each. -/
theorem resolveNamed_length {σ : Type} (r : NameResolver (ExceptT Failure (StateM σ))) (c : NameCache)
    (ids : List PropertyId) : Returns (c.resolveNamed r ids) fun rc => rc.1.length = ids.length := by
  refine (resolveNamed_returns r c ids).imp ?_
  rintro ⟨rs, c'⟩ ⟨tags, h⟩
  obtain ⟨rfl, -⟩ := Prod.ext_iff.mp h
  rw [length_fileIds, length_lookupNamed]

end NameCache

namespace Fetch

variable {m : Type → Type} [Monad m] [MonadExcept Failure m]

/-- A fetch of columns once their names are resolved: the bulk call for each id in its column's
wire type, then the second pass. -/
def bulk (obj : PropObject m) (s : StreamStore m) (columns : List Column)
    (resolved : List ResolvedTag) : m (List Property) := do
  unless resolved.length = columns.length do
    throw (Failure.inconsistent ("resolved " ++ toString resolved.length ++ " of " ++
      toString columns.length ++ " columns"))
  let tags ← (columns.zip resolved).mapM fun (col, rt) => do
    let wire ← lift col.type.wireType
    pure (Tag.make wire rt.tag.id)
  let raw ← tryCatch (obj.getProps (some tags)) fun f => throw (f.wrap "failed to get properties")
  unless raw.length = tags.length do
    throw (Failure.inconsistent ("requested " ++ toString tags.length ++ " properties, store returned " ++
      toString raw.length))
  let work := (columns.zip (tags.zip (raw.zip (resolved.map fun rt => !rt.absent)))).map
    fun (c, t, p, ok) => (c, t, p, ok)
  settle obj s [] work

/-- A fetch of some columns resolves their names, keeps the cache, and fetches in bulk. -/
theorem values_cons [LawfulMonad m] (obj : PropObject m) (s : StreamStore m) (r : NameResolver m)
    (cache : NameCache) (keep : NameCache → m Unit) (c : Column) (cs : List Column) :
    values obj s r cache keep (c :: cs) =
      cache.resolveNamed r ((c :: cs).map Column.id) >>= fun rc =>
        keep rc.2 >>= fun _ => bulk obj s (c :: cs) rc.1 >>= materializeAll s := by
  simp only [values, getProperties, bulk, List.isEmpty_cons, Bool.false_eq_true, if_false, bind_assoc]

/-- A fetch of no columns reads every property in one bulk call and decodes each. -/
theorem values_nil [LawfulMonad m] (obj : PropObject m) (s : StreamStore m) (r : NameResolver m)
    (cache : NameCache) (keep : NameCache → m Unit) :
    values obj s r cache keep [] =
      tryCatch (obj.getProps none) (fun f => throw (f.wrap "failed to get properties")) >>= fun raw =>
        decodeAll r cache keep raw >>= materializeAll s := by
  simp only [values, getProperties, List.isEmpty_nil, if_true, bind_assoc]

/-! ### The bulk read and the second pass on the database -/

open SqlBench

/-- The tag a fetch asks for a column of text or bytes whose id resolved: one of the column's
wire type. -/
def Asked (cr : Column × ResolvedTag) (t : Tag) : Prop :=
  (cr.1.type = .string ∨ cr.1.type = .binary) ∧ cr.1.type.wireType = .ok t.type ∧
    cr.2.absent = false

/-- The tags asked for resolved columns of text or bytes: the same from every state, which they
leave alone. -/
theorem tags_ends {σ : Type} (pairs : List (Column × ResolvedTag))
    (htext : ∀ cr ∈ pairs, cr.1.type = .string ∨ cr.1.type = .binary)
    (habs : ∀ cr ∈ pairs, cr.2.absent = false) :
    ∃ tags, List.Forall₂ Asked pairs tags ∧ ∀ s : σ,
      Ends (pairs.mapM fun x => do
          let wire ← lift x.1.type.wireType
          pure (Tag.make wire x.2.tag.id) : ExceptT Failure (StateM σ) (List Tag)) s
        (fun ts s' => ts = tags ∧ s' = s) fun _ _ => False := by
  induction pairs with
  | nil => exact ⟨[], .nil, fun _ => ⟨rfl, rfl⟩⟩
  | cons cr pairs ih =>
    obtain ⟨tags, hasked, hrun⟩ := ih (fun cr h => htext cr (List.mem_cons_of_mem _ h))
      fun cr h => habs cr (List.mem_cons_of_mem _ h)
    have htx := htext cr List.mem_cons_self
    obtain ⟨w, hw⟩ : ∃ w, cr.1.type.wireType = .ok w := by
      rcases htx with h | h <;> rw [h] <;> exact ⟨_, rfl⟩
    refine ⟨Tag.make w cr.2.tag.id :: tags,
      .cons ⟨htx, by rw [Tag.type_make]; exact hw, habs cr List.mem_cons_self⟩ hasked, fun s => ?_⟩
    rw [List.mapM_cons, Ends.bind_iff, Ends.bind_iff, hw]
    show Ends (_ >>= _) s _ _
    rw [Ends.bind_iff]
    exact (hrun s).mono (fun ts s' ⟨hts, hs'⟩ => by subst hts hs'; exact ⟨rfl, rfl⟩) fun _ _ h => h

/-- The second pass's work for resolved columns of text or bytes, asked as `tags`, with the bulk
answers under the limit `L`: each piece is pending, and the pieces ask for the tags in order. -/
theorem work_pending {P : List RawProp} {L : Nat} {pairs : List (Column × ResolvedTag)}
    {tags : List Tag} (h : List.Forall₂ Asked pairs tags)
    (hfits : ∀ cr t, Asked cr t → (PropertyDb.project P 0 t false).data.length ≤ Stream.maxSize) :
    let work := (pairs.map Prod.fst).zip (tags.zip ((tags.map fun t => PropertyDb.project P L t true).zip
      ((pairs.map Prod.snd).map fun rt => !rt.absent)))
    (∀ w ∈ work, Pending P L w) ∧ work.map (fun w => w.2.1) = tags := by
  induction h with
  | nil => exact ⟨fun _ h => absurd h List.not_mem_nil, rfl⟩
  | @cons cr t pairs tags hcr _ ih =>
    obtain ⟨hpend, hmap⟩ := ih
    refine ⟨fun w hw => ?_, by simp only [List.map_cons, List.zip_cons_cons]; rw [hmap]⟩
    simp only [List.map_cons, List.zip_cons_cons, List.mem_cons] at hw
    rcases hw with rfl | hw
    · obtain ⟨htx, hwire, habs⟩ := hcr
      exact ⟨htx, hwire, rfl, by simp [habs], hfits cr t ⟨htx, hwire, habs⟩⟩
    · exact hpend w hw

theorem mem_of_mapM_id_error {α : Type} {outs : List (Except Failure α)} {f : Failure}
    (h : outs.mapM id = .error f) : .error f ∈ outs := by
  induction outs with
  | nil => cases h
  | cons o outs ih =>
    rw [List.mapM_cons] at h
    cases o with
    | error g =>
      cases h
      exact List.mem_cons_self
    | ok a =>
      cases hrest : outs.mapM id with
      | error g =>
        rw [hrest] at h
        cases h
        exact List.mem_cons_of_mem _ (ih hrest)
      | ok as =>
        rw [hrest] at h
        cases h

theorem mapM_id_error_of_mem {α : Type} {outs : List (Except Failure α)} {f : Failure}
    (h : .error f ∈ outs) : ∃ g, outs.mapM id = .error g := by
  induction outs with
  | nil => exact absurd h List.not_mem_nil
  | cons o outs ih =>
    rw [List.mapM_cons]
    cases o with
    | error g => exact ⟨g, rfl⟩
    | ok a =>
      obtain ⟨g, hg⟩ := ih (by simpa using h)
      exact ⟨g, by rw [hg]; rfl⟩

/-- An outcome of a fetch, every stream read, fits the outcomes of its columns fetched with no
limit: their values when each decodes, and a broken contract when one does not. -/
def Fits (outs : List (Except Failure (Option Value))) (o : Except Failure (List (Option Value))) :
    Prop :=
  match outs.mapM id with
  | .ok vs => o = .ok vs
  | .error _ => ∃ f, o = .error f ∧ f.cause = .inconsistent

theorem Fits.agree {outs : List (Except Failure (Option Value))}
    {o₁ o₂ : Except Failure (List (Option Value))} (h₁ : Fits outs o₁) (h₂ : Fits outs o₂) :
    FetchAgrees o₁ o₂ := by
  unfold Fits at h₁ h₂
  cases hm : outs.mapM id with
  | ok vs =>
    simp only [hm] at h₁ h₂
    exact .inl (h₁.trans h₂.symm)
  | error _ =>
    simp only [hm] at h₁ h₂
    obtain ⟨f₁, rfl, hf₁⟩ := h₁
    obtain ⟨f₂, rfl, hf₂⟩ := h₂
    exact .inr ⟨f₁, f₂, rfl, rfl, hf₁, hf₂⟩

/-- How a fetch of columns asked as `tags` ends, every stream read, when the database holds
`stored` for the object: failing as reading the database does, or fitting the columns' values
with no limit. -/
def Settled (stored : Except Failure (List RawProp)) (tags : List Tag)
    (o : Except Failure (List (Option Value))) : Prop :=
  match stored with
  | .error f => o = .error (f.wrap "failed to get properties")
  | .ok P => Fits (tags.map (unlimited P)) o

theorem Settled.agree {stored : Except Failure (List RawProp)} {tags : List Tag}
    {o₁ o₂ : Except Failure (List (Option Value))} (h₁ : Settled stored tags o₁)
    (h₂ : Settled stored tags o₂) : FetchAgrees o₁ o₂ := by
  cases stored with
  | error f => exact .inl (h₁.trans h₂.symm)
  | ok P => exact Fits.agree h₁ h₂

/-- The second pass on the database, every stream then read: the outcome fits the columns'
values with no limit. -/
theorem settle_fits {h : Nat} {P : List RawProp} {L : Nat} {work : List (Column × Tag × RawProp × Bool)}
    (hw : ∀ w ∈ work, Pending P L w) {s : SqlBench} (hP : s.stored h = .ok P) :
    Ends (settle (driver.object h) Script.streams [] work >>= materializeAll Script.streams) s
      (fun vs _ => Fits (work.map fun w => unlimited P w.2.1) (.ok vs))
      fun f _ => Fits (work.map fun w => unlimited P w.2.1) (.error f) := by
  rw [Ends.bind_iff]
  refine (settle_stands work hw [] [] s hP (Done.nil s)).mono
    (fun props s' ⟨hst, hnd⟩ => ?_) fun f _ ⟨hf, w, hw, f', hw'⟩ => ?_
  · rw [List.nil_append] at hst
    refine (materializeAll_stands hst hnd).mono (fun vs _ hvs => ?_) fun f _ hf => ?_
    · unfold Fits
      rw [hvs]
    · -- the failure is one column's, and the codec's failures are broken contracts
      obtain ⟨w, _, hw⟩ := List.mem_map.1 (mem_of_mapM_id_error hf)
      unfold Fits
      rw [hf]
      exact ⟨f, rfl, Codec.decode_error_inconsistent hw⟩
  · have hmem : Except.error f' ∈ work.map fun w => unlimited P w.2.1 := List.mem_map.2 ⟨w, hw, hw'⟩
    obtain ⟨g, hg⟩ := mapM_id_error_of_mem hmem
    unfold Fits
    rw [hg]
    exact ⟨f, rfl, hf⟩

/-- **A fetch in bulk on the database**, for resolved columns of text or bytes, every stream then
read: under every inline limit it ends as the database's values with no limit say. The values
the database holds are at most 10⁹ bytes, the most a text or byte string of SQLite holds. -/
theorem bulk_settled {h : Nat} {s : SqlBench} {columns : List Column} {resolved : List ResolvedTag}
    (hlen : resolved.length = columns.length)
    (htext : ∀ c ∈ columns, c.type = .string ∨ c.type = .binary)
    (habs : ∀ rt ∈ resolved, rt.absent = false)
    (hsize : ∀ P, s.stored h = .ok P → ∀ q ∈ P, q.data.length ≤ 1000000000) :
    ∃ tags, ∀ L, Ends (bulk (driver.object h) Script.streams columns resolved >>=
        materializeAll Script.streams) (s.withInline L)
      (fun vs _ => Settled (s.stored h) tags (.ok vs)) fun f _ => Settled (s.stored h) tags (.error f) := by
  obtain ⟨tags, hasked, hrun⟩ := tags_ends (σ := SqlBench) (columns.zip resolved)
    (fun cr hcr => htext _ (List.of_mem_zip hcr).1) fun cr hcr => habs _ (List.of_mem_zip hcr).2
  refine ⟨tags, fun L => ?_⟩
  unfold bulk
  simp only [hlen, if_true]
  rw [Ends.bind_iff, Ends.bind_iff]
  refine (hrun _).mono (fun ts s₁ ⟨hts, hs₁⟩ => ?_) fun _ _ h => h.elim
  rw [hts, hs₁, Ends.bind_iff, Ends.tryCatch_iff]
  refine (getProps_some_ends (s := s.withInline L) h tags).mono
    (fun raw s₂ ⟨hs₂, P, hP, hraw⟩ => ?_) fun f s₂ ⟨hs₂, hf⟩ => ?_
  · -- one answer for each tag, each under the limit: the second pass is on pending work
    subst hs₂ hraw
    rw [stored_withInline] at hP
    simp only [maxInline_withInline, List.length_map, if_true]
    have hid : (fun x : Column × Tag × RawProp × Bool => (x.1, x.2.1, x.2.2.1, x.2.2.2)) = id := rfl
    rw [hid, List.map_id]
    have hfits : ∀ cr t, Asked cr t →
        (PropertyDb.project P 0 t false).data.length ≤ Stream.maxSize := by
      intro cr t ⟨htx, hwire, _⟩
      have hne : t.type ≠ PropType.string8 := by
        rcases ColumnType.wireType_textual htx hwire with h | h <;> rw [h] <;> decide
      have := PropertyDb.length_project_le (hsize P hP) (by norm_num) hne
      unfold Stream.maxSize
      omega
    obtain ⟨hpend, hmap⟩ := work_pending (P := P) (L := L) hasked hfits
    rw [List.map_fst_zip (by simp [hlen]), List.map_snd_zip (by simp [hlen])] at hpend hmap
    set work := columns.zip (tags.zip ((tags.map fun t => PropertyDb.project P L t true).zip
      (resolved.map fun rt => !rt.absent)))
    -- the values with no limit that the work stands for are those of the tags
    have hset : ∀ o, Fits (work.map fun w => unlimited P w.2.1) o → Settled (s.stored h) tags o := by
      intro o ho
      rw [hP]
      show Fits (tags.map (unlimited P)) o
      rwa [← hmap, List.map_map]
    have hP' : (s.withInline L).stored h = .ok P := by rw [stored_withInline, hP]
    exact (Ends.bind_iff.1 (settle_fits hpend hP')).mono
      (fun _ _ h' => h'.mono (fun _ _ => hset _) fun _ _ => hset _) fun _ _ => hset _
  · -- reading the database failed, under every limit alike
    subst hs₂
    rw [stored_withInline] at hf
    rw [Ends.throw_iff, hf]
    rfl

/-- A fetch of some columns under an inline limit, with a resolver and a `keep` blind to it: the
first pass runs as it does from the state with no change, and the bulk read from where it ends,
under the limit. -/
theorem values_run_withInline {h : Nat} {s : SqlBench} {r : NameResolver (ScriptM SqlBench)}
    {keep : NameCache → ScriptM SqlBench Unit} {cache : NameCache} {c : Column} {cs : List Column}
    {L : Nat} (hr : r.BlindTo (SqlBench.withInline · L))
    (hkeep : ∀ c, Blind (SqlBench.withInline · L) (keep c)) :
    ((values (driver.object h) Script.streams r cache keep (c :: cs)).run.run (s.withInline L)).1 =
      match (cache.resolveNamed r ((c :: cs).map Column.id)).run.run s with
      | (.ok rc, s₁) =>
        match (keep rc.2).run.run s₁ with
        | (.ok _, s₂) =>
          ((bulk (driver.object h) Script.streams (c :: cs) rc.1 >>=
            materializeAll Script.streams).run.run (s₂.withInline L)).1
        | (.error e, _) => .error e
      | (.error e, _) => .error e := by
  rw [values_cons, Blind.run_bind (NameCache.resolveNamed_blind hr _ _)]
  rcases (cache.resolveNamed r ((c :: cs).map Column.id)).run.run s with ⟨_ | rc, s₁⟩
  · rfl
  · dsimp only
    rw [Blind.run_bind (hkeep rc.2)]
    rcases (keep rc.2).run.run s₁ with ⟨_ | _, s₂⟩ <;> rfl

end Fetch

/-- **The inline limit is invisible to a fetch of columns.** On the property database, a fetch of
a non-empty list of columns of text or bytes whose ids resolve, every stream then read, ends alike
under any two inline limits: with the same values or the same failure, or under both with a
broken contract. The resolver and `keep` neither read nor write the limit, nor change what the
database holds for the object, and the database holds no value longer than 10⁹ bytes. -/
theorem inline_limit_invisible {h : Nat} {s : SqlBench} {r : NameResolver (ScriptM SqlBench)}
    {keep : NameCache → ScriptM SqlBench Unit} {cache : NameCache} {columns : List Column}
    (hne : columns ≠ []) (htext : ∀ c ∈ columns, c.type = .string ∨ c.type = .binary)
    (hblind : ∀ L, r.BlindTo (SqlBench.withInline · L) ∧ ∀ c, Blind (SqlBench.withInline · L) (keep c))
    (hquiet : r.Quiet (SqlBench.stored · h)) (hkeep : ∀ c, Stays (SqlBench.stored · h) (keep c))
    (hres : Ends (cache.resolveNamed r (columns.map Column.id)) s
      (fun rc _ => ∀ rt ∈ rc.1, rt.absent = false) fun _ _ => True)
    (hsize : ∀ P, s.stored h = .ok P → ∀ q ∈ P, q.data.length ≤ 1000000000) (L₁ L₂ : Nat) :
    FetchAgrees
      ((Fetch.values (SqlBench.driver.object h) Script.streams r cache keep columns).run.run
        (s.withInline L₁)).1
      ((Fetch.values (SqlBench.driver.object h) Script.streams r cache keep columns).run.run
        (s.withInline L₂)).1 := by
  obtain ⟨c, cs, rfl⟩ := List.exists_cons_of_ne_nil hne
  rw [Fetch.values_run_withInline (hblind L₁).1 (hblind L₁).2,
    Fetch.values_run_withInline (hblind L₂).1 (hblind L₂).2]
  rcases h₁ : (cache.resolveNamed r ((c :: cs).map Column.id)).run.run s with ⟨_ | rc, s₁⟩
  · exact .inl rfl
  dsimp only
  rcases h₂ : (keep rc.2).run.run s₁ with ⟨_ | _, s₂⟩
  · exact .inl rfl
  dsimp only
  -- the bulk read starts where the database holds what it held, with every id resolved
  have hst₁ : s₁.stored h = s.stored h := by
    have := (NameCache.resolveNamed_stays hquiet cache ((c :: cs).map Column.id) (s.stored h) s rfl).state
    rwa [h₁] at this
  have hst₂ : s₂.stored h = s.stored h := by
    have := (hkeep rc.2 (s.stored h) s₁ hst₁).state
    rwa [h₂] at this
  have habs : ∀ rt ∈ rc.1, rt.absent = false := hres.ok (a := rc) (by rw [h₁])
  have hlen : rc.1.length = (c :: cs).length := by
    rw [NameCache.resolveNamed_length r cache _ s rc s₁ h₁, List.length_map]
  obtain ⟨tags, hbulk⟩ := Fetch.bulk_settled hlen htext habs (by rw [hst₂]; exact hsize)
  exact Fetch.Settled.agree (Ends.outcome (S := Fetch.Settled (s₂.stored h) tags) (hbulk L₁))
    (Ends.outcome (S := Fetch.Settled (s₂.stored h) tags) (hbulk L₂))

/-! ### One message -/

/-- A resolver that knows no names and reports nothing. -/
def NameResolver.silent : NameResolver (ScriptM SqlBench) :=
  ⟨fun _ => pure [], fun _ => pure [], fun _ _ => pure ()⟩

/-- A session on a database that stores no values, with one message open as object 0: its only
property is its 16-byte entry id. -/
def oneMessage : SqlBench :=
  { SqlBench.start 0 none with
    db := PropertyDb.openOn ((Sql.Connection.connect Sql.Database.empty true).runScript
      "CREATE TABLE props (entry_id BLOB, prop_id INTEGER, prop_type INTEGER, value BLOB)").1 0
      SqlBench.clock 0
    objects := #[⟨List.replicate 16 7, List.replicate 16 1, [], Db.EntryKind.message⟩] }

theorem oneMessage_stored :
    oneMessage.stored 0 = .ok [⟨Tag.make PropType.binary 0x0FFF, List.replicate 16 7⟩] := by
  decide +kernel

/-- The entry id of the message, fetched as a column of bytes, comes back alike under the limits
1 and 32768: streamed under the first, read in bulk under the second. -/
theorem oneMessage_entry_id_alike :
    FetchAgrees
      ((Fetch.values (SqlBench.driver.object 0) Script.streams NameResolver.silent NameCache.empty
        (fun _ => pure ()) [⟨.numeric 0x0FFF, .binary⟩]).run.run (oneMessage.withInline 1)).1
      ((Fetch.values (SqlBench.driver.object 0) Script.streams NameResolver.silent NameCache.empty
        (fun _ => pure ()) [⟨.numeric 0x0FFF, .binary⟩]).run.run (oneMessage.withInline 32768)).1 := by
  -- the id is numeric, so it resolves without asking the store
  have hres : Ends (NameCache.empty.resolveNamed NameResolver.silent [PropertyId.numeric 0x0FFF])
      oneMessage (fun rc _ => ∀ rt ∈ rc.1, rt.absent = false) fun _ _ => True := by
    have hrun : (NameCache.empty.resolveNamed NameResolver.silent [PropertyId.numeric 0x0FFF]).run.run
        oneMessage = (.ok ([⟨NameCache.untyped 0x0FFF, none⟩], NameCache.empty), oneMessage) := rfl
    rw [Ends.iff_of_run_ok hrun]
    decide
  have hsize : ∀ P, oneMessage.stored 0 = .ok P → ∀ q ∈ P, q.data.length ≤ 1000000000 := by
    intro P hP q hq
    rw [oneMessage_stored] at hP
    cases hP
    rw [List.mem_singleton] at hq
    subst hq
    decide
  exact inline_limit_invisible (List.cons_ne_nil _ _) (by decide)
    (fun _ => ⟨⟨fun _ => .pure, fun _ => .pure, fun _ _ => .pure⟩, fun _ => .pure⟩)
    ⟨fun _ => .pure, fun _ => .pure, fun _ _ => .pure⟩ (fun _ => .pure) hres hsize 1 32768

/-- A fetch of all properties of the message under the limit `L` reads its entry id in bulk,
under the limit, and decodes it. -/
theorem oneMessage_fetch_all (L : Nat) :
    ((Fetch.values (SqlBench.driver.object 0) Script.streams NameResolver.silent NameCache.empty
        (fun _ => pure ()) []).run.run (oneMessage.withInline L)).1 =
      ((Fetch.decodeAll NameResolver.silent NameCache.empty (fun _ => pure ())
          [PropertyDb.project [⟨Tag.make PropType.binary 0x0FFF, List.replicate 16 7⟩] L
            (Tag.make PropType.binary 0x0FFF) true] >>=
        Fetch.materializeAll Script.streams).run.run (oneMessage.withInline L)).1 := by
  have hget : (tryCatch ((SqlBench.driver.object 0).getProps none)
      (fun f => throw (f.wrap "failed to get properties")) : ScriptM SqlBench (List RawProp)).run.run
        (oneMessage.withInline L) =
      (.ok [PropertyDb.project [⟨Tag.make PropType.binary 0x0FFF, List.replicate 16 7⟩] L
        (Tag.make PropType.binary 0x0FFF) true], oneMessage.withInline L) := by
    apply Ends.run_eq
    rw [Ends.tryCatch_iff]
    refine (SqlBench.getProps_none_ends 0).mono (fun raw s' ⟨hs', P, hP, hraw⟩ => ?_)
      fun f s' ⟨_, hf⟩ => ?_
    · rw [SqlBench.stored_withInline, oneMessage_stored] at hP
      cases hP
      refine ⟨?_, hs'⟩
      rw [hraw]
      simp only [List.map_cons, List.map_nil, List.mergeSort_singleton, SqlBench.maxInline_withInline]
    · rw [SqlBench.stored_withInline, oneMessage_stored] at hf
      cases hf
  rw [Fetch.values_nil, run_bind_of_ok hget]

/-- **A fetch of all properties shows the inline limit.** With no columns asked there is no second
pass: the message's 16-byte entry id comes back as no value under the limit 1, and as its bytes
under the limit 32768. -/
theorem fetch_all_shows_inline_limit :
    ¬ FetchAgrees
      ((Fetch.values (SqlBench.driver.object 0) Script.streams NameResolver.silent NameCache.empty
        (fun _ => pure ()) []).run.run (oneMessage.withInline 1)).1
      ((Fetch.values (SqlBench.driver.object 0) Script.streams NameResolver.silent NameCache.empty
        (fun _ => pure ()) []).run.run (oneMessage.withInline 32768)).1 := by
  have h₁ : ((Fetch.values (SqlBench.driver.object 0) Script.streams NameResolver.silent
      NameCache.empty (fun _ => pure ()) []).run.run (oneMessage.withInline 1)).1 = .ok [none] := by
    rw [oneMessage_fetch_all]
    decide +kernel
  have h₂ : ((Fetch.values (SqlBench.driver.object 0) Script.streams NameResolver.silent
      NameCache.empty (fun _ => pure ()) []).run.run (oneMessage.withInline 32768)).1 =
      .ok [some (.binary (List.replicate 16 7))] := by
    rw [oneMessage_fetch_all]
    decide +kernel
  rw [h₁, h₂]
  rintro (h | ⟨_, _, h, -⟩) <;> cases h

end MailStore
