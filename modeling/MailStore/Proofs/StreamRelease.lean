import Mathlib
import MailStore.Proofs.Metered

/-!
# No stream outlives a tool call

A tool that reads properties fetches them in two passes: the first asks the store for every
column at once, the second opens as a stream each value too large for the first. The streams
are then read in full, each by the first read of its value, which also closes it; a failure
anywhere closes every stream of the list that is still unread.

Over any store, put in the shape of `Driver.metered`, the three tools that read properties
(`get_folder_properties`, `get_item_properties`, `get_item`) close every stream they open
exactly once before the call returns, whether it succeeds or fails, and ask nothing of a stream
after closing it (`property_tools_release_streams`).

Each stream value of the call is either fresh (unread, and nothing asked of it) or released
(its outcome kept, and its stream closed once); `Tidy` says so of every value made during the
call. Everything but the property fetch leaves the ledger alone; the fetch makes only fresh
values, or releases them all when it fails; reading the list releases every value of it.

## Main statements

* `Stream.materialize_ends`, `Stream.close_ends`: what reading or closing one stream value does
  to the ledger.
* `Fetch.getProperties_ends`: the fetch ends with every new stream fresh and in the list it
  gives, or with all of them released.
* `Shape.properties_ends`, `ItemRef.body_ends`: reading the list releases all of them.
* `property_tools_release_streams`: the three tools release every stream they open.
-/

namespace MailStore

variable {σ : Type}

/-- A value that is not a stream. -/
def Unstreamed (v : Option Value) : Prop :=
  ∀ r, v ≠ some (.stream r)

/-- An outcome kept for a stream value: a failure, or a value that is not a stream. -/
def KeptOutcome (o : Except Failure (Option Value)) : Prop :=
  ∀ v, o = .ok v → Unstreamed v

theorem Codec.decode_unstreamed {p : RawProp} {v : Option Value} (h : Codec.decode p = .ok v) :
    Unstreamed v := by
  intro r hv
  subst hv
  unfold Codec.decode at h
  dsimp only at h
  split_ifs at h <;> simp_all [bind, Except.bind, Codec.expectLength, pure, Except.pure] <;>
    split at h <;> simp_all

theorem Stream.decodeAs_unstreamed {e : StreamEncoding} {b : Bytes} {v : Value}
    (h : Stream.decodeAs e b = .ok v) : Unstreamed (some v) := by
  intro r hv
  cases hv
  unfold Stream.decodeAs at h
  split at h
  · cases h
  · simp only [Except.map] at h
    split at h <;> cases h
  · cases h

/-! ### Reading one stream -/

namespace Stream

variable {s : StreamStore (EntityM σ)} {h : Nat} {I : σ → Prop}

/-- Reading a stream asks only its size and its bytes: whatever those keep, reading keeps. -/
theorem readFull_keeps (hread : ∀ n, Keeps I (s.read h n)) (want : Nat) :
    ∀ fuel acc, Keeps I (readFull s h want fuel acc)
  | 0, _ => .pure
  | fuel + 1, acc => by
    unfold readFull
    split
    · exact .pure
    refine .bind (.tryCatch (.bind (hread _) fun _ => .pure) fun _ => .pure) fun step => ?_
    split
    · exact .pure
    · exact .pure
    · exact readFull_keeps hread want fuel _

theorem readAll_ends (hsize : Keeps I (s.size h)) (hread : ∀ n, Keeps I (s.read h n))
    {e : StreamEncoding} {st : σ} (hs : I st) :
    Ends (readAll s h e) st (fun v st' => I st' ∧ Unstreamed (some v)) fun _ st' => I st' := by
  unfold readAll
  rw [Ends.bind_iff]
  refine (Keeps.tryCatch hsize (fun _ => .throw) st hs).mono (fun size st₁ h₁ => ?_) fun _ _ h => h
  extract_lets jp
  have hjp : ∀ u st₂, I st₂ → Ends (jp u) st₂ (fun v st' => I st' ∧ Unstreamed (some v))
      fun _ st' => I st' := by
    intro u st₂ h₂
    simp only [jp, Ends.bind_iff]
    refine (readFull_keeps hread _ _ _ st₂ h₂).mono (fun x st₃ h₃ => ?_) fun _ _ h => h
    obtain ⟨data, stop⟩ := x
    dsimp only
    -- each branch fails, keeping `I`, or gives the decoded bytes
    repeat' split
    all_goals first
      | exact Ends.pure_iff.2 ⟨h₃, decodeAs_unstreamed ‹_›⟩
      | simpa using h₃
  split
  · simpa using h₁
  · exact hjp () st₁ h₁

@[simp]
theorem ends_replay {α : Type} {o : Except Failure α} {st : σ} {Q : α → σ → Prop}
    {E : Failure → σ → Prop} :
    Ends (replay o : EntityM σ α) st Q E ↔
      match o with
      | .ok a => Q a st
      | .error f => E f st := by
  cases o <;> rfl

end Stream

/-! ### One stream value of a metered session -/

namespace StreamLedger

/-- From `L` to `L'` only sizes and reads of value `i` were asked, and no value changed. -/
def Reads (i : Nat) (L L' : StreamLedger) : Prop :=
  L'.values = L.values ∧ ∃ r, L'.calls = L.calls ++ r ∧ ∀ c ∈ r, c.value = i ∧ c ≠ .close i

theorem Reads.refl (i : Nat) (L : StreamLedger) : Reads i L L :=
  ⟨rfl, [], by simp, by simp⟩

theorem Reads.note {i : Nat} {L L' : StreamLedger} (h : Reads i L L') {c : StreamCall}
    (hc : c.value = i) (hne : c ≠ .close i) :
    Reads i L { L' with calls := L'.calls ++ [c] } := by
  obtain ⟨hv, r, hr, hall⟩ := h
  refine ⟨hv, r ++ [c], by simp [hr], fun c' hc' => ?_⟩
  rcases List.mem_append.1 hc' with hc' | hc'
  · exact hall c' hc'
  · rw [List.mem_singleton.1 hc']
    exact ⟨hc, hne⟩

/-- Value `i` goes from unread to settled, with an outcome that is not a stream: its stream was
asked only its size and its bytes, and then closed. -/
def Settles (i : Nat) (L L' : StreamLedger) : Prop :=
  ∃ h o r, L.values[i]? = some (h, .unread) ∧ KeptOutcome o ∧
    L'.values = L.values.set i (h, .settled o) ∧ (∀ c ∈ r, c.value = i ∧ c ≠ .close i) ∧
    L'.calls = L.calls ++ (r ++ [.close i])

/-- Reading or closing value `i`: nothing happens unless the value is unread, and then it
settles. -/
def Step (i : Nat) (L L' : StreamLedger) : Prop :=
  (L' = L ∧ ∀ h, L.values[i]? ≠ some (h, .unread)) ∨ Settles i L L'

/-- Every outcome kept for value `i` is not a stream. -/
def Kept (i : Nat) (L : StreamLedger) : Prop :=
  ∀ h o, L.values[i]? = some (h, .settled o) → KeptOutcome o

/-- Reading value `i`, closing it and keeping an outcome settles it. -/
theorem Reads.settles {i h : Nat} {L L' : StreamLedger} (hr : Reads i L L')
    (hv : L.values[i]? = some (h, .unread)) {o : Except Failure (Option Value)} (ho : KeptOutcome o) :
    Settles i L ⟨L'.values.modify i (fun v => (v.1, .settled o)), L'.calls ++ [.close i]⟩ := by
  obtain ⟨hvals, r, hcalls, hall⟩ := hr
  refine ⟨h, o, r, hv, ho, ?_, hall, by simp [hcalls]⟩
  rw [hvals, List.modify_eq_set_getElem?, hv]
  rfl

end StreamLedger

open StreamLedger

namespace Metered

variable {s : StreamStore (EntityM σ)} {i : Nat} {L : StreamLedger} {m : Metered σ}

/-- A call on the stream of value `i`, written down and passed to the store, is one more read of
the value. -/
@[simp]
theorem ends_lookup {Q : StreamState → Metered σ → Prop} {E : Failure → Metered σ → Prop} :
    Ends ((streams s).lookup i) m Q E ↔
      match m.ledger.values[i]? with
      | some v => Q v.2 m
      | none => E (Failure.other "no such stream") m := by
  simp only [streams, Ends.bind_iff, ends_value]
  rcases m.ledger.values[i]? with _ | v <;> rfl

@[simp]
theorem ends_record {st : StreamState} {Q : Unit → Metered σ → Prop} {E : Failure → Metered σ → Prop} :
    Ends ((streams s).record i st) m Q E ↔
      Q () { m with ledger := { m.ledger with values := m.ledger.values.modify i fun v => (v.1, st) } } :=
  Iff.rfl

theorem noted_reads {α : Type} {c : StreamCall} (hc : c.value = i) (hne : c ≠ .close i)
    (f : Nat → EntityM σ α) :
    Keeps (fun m : Metered σ => Reads i L m.ledger) (do let (h, _) ← value i; note c; lift (f h)) := by
  intro m hm
  simp only [Ends.bind_iff, ends_value]
  split
  · simp only [ends_note]
    exact ends_lift_of (fun _ _ => hm.note hc hne) fun _ _ => hm.note hc hne
  · exact hm

theorem size_reads : Keeps (fun m : Metered σ => Reads i L m.ledger) ((streams s).size i) :=
  noted_reads (c := .size i) rfl (by simp) s.size

theorem read_reads (n : Nat) : Keeps (fun m : Metered σ => Reads i L m.ledger) ((streams s).read i n) :=
  noted_reads (c := .read i) rfl (by simp) (s.read · n)

/-- Reading a whole stream value, any failure kept: only sizes and reads of the value are
asked, and what is kept is not a stream. -/
theorem read_kept (e : StreamEncoding) :
    Ends (tryCatch (do let v ← Stream.readAll (streams s) i e; pure (Except.ok (some v)))
        fun f => pure (Except.error f)) m
      (fun o m' => Reads i m.ledger m'.ledger ∧ KeptOutcome o) fun _ _ => False := by
  rw [Ends.tryCatch_iff, Ends.bind_iff]
  refine (Stream.readAll_ends size_reads read_reads (Reads.refl i m.ledger)).mono ?_ ?_
  · rintro v m' ⟨hr, hv⟩
    exact ⟨hr, fun _ ho => by cases ho; exact hv⟩
  · intro f m' hr
    exact ⟨hr, fun _ ho => by cases ho⟩

/-- Closing the stream of value `i`: the close is written down, however the store answers. -/
theorem close_noted {v : Nat × StreamState} (hv : m.ledger.values[i]? = some v) :
    Ends ((streams s).close i) m
      (fun _ m' => m'.ledger = { m.ledger with calls := m.ledger.calls ++ [.close i] })
      fun _ m' => m'.ledger = { m.ledger with calls := m.ledger.calls ++ [.close i] } := by
  simp only [streams, Ends.bind_iff, ends_value, hv, ends_note]
  exact ends_lift_of (fun _ _ => rfl) fun _ _ => rfl

theorem close_caught {v : Nat × StreamState} (hv : m.ledger.values[i]? = some v) :
    Ends (tryCatch (do (streams s).close i; pure none) fun f => pure (some f)) m
      (fun _ m' => m'.ledger = { m.ledger with calls := m.ledger.calls ++ [.close i] })
      fun _ _ => False := by
  rw [Ends.tryCatch_iff, Ends.bind_iff]
  exact (close_noted hv).mono (fun _ _ h => h) fun _ _ h => h

/-- Reading a stream value: the value steps, and what it gives is not a stream when no kept
outcome is. -/
theorem materialize_step (r : StreamRef) :
    Ends (Stream.materialize (streams s) r) m
      (fun v m' => Step r.handle m.ledger m'.ledger ∧ (Kept r.handle m.ledger → Unstreamed v))
      fun _ m' => Step r.handle m.ledger m'.ledger := by
  unfold Stream.materialize
  simp only [Ends.bind_iff, ends_lookup]
  rcases hv : m.ledger.values[r.handle]? with _ | ⟨h, _ | o⟩
  · exact .inl ⟨rfl, by simp [hv]⟩
  · -- an unread value is read, its stream closed, and the outcome kept
    dsimp only
    rw [Ends.bind_iff]
    refine (read_kept r.encoding).mono (fun o m₁ hread => ?_) fun _ _ h => h.elim
    obtain ⟨hr, ho⟩ := hread
    rw [Ends.bind_iff]
    refine (close_caught (hr.1 ▸ hv)).mono (fun rel m₂ h₂ => ?_) fun _ _ h => h.elim
    rw [Ends.bind_iff, ends_record]
    dsimp only at h₂ ⊢
    rw [h₂]
    have hset := fun o' (ho' : KeptOutcome o') => hr.settles hv ho'
    split
    · -- a good read whose stream failed to close keeps the failure
      exact .inr (hset _ fun _ h => by cases h)
    · cases o with
      | error f => exact .inr (hset _ ho)
      | ok v => exact ⟨.inr (hset _ ho), fun _ => ho v rfl⟩
  · -- a settled value gives its kept outcome
    have hstay : Step r.handle m.ledger m.ledger := .inl ⟨rfl, by simp [hv]⟩
    cases o with
    | error f => exact hstay
    | ok v => exact ⟨hstay, fun hk => hk h _ hv v rfl⟩

/-- Closing a stream value: the value steps, settling as closed when it was unread. -/
theorem close_step (r : StreamRef) :
    Ends (Stream.close (streams s) r) m (fun _ m' => Step r.handle m.ledger m'.ledger)
      fun _ m' => Step r.handle m.ledger m'.ledger := by
  unfold Stream.close
  rw [Ends.bind_iff, ends_lookup]
  rcases hv : m.ledger.values[r.handle]? with _ | ⟨h, _ | o⟩
  · exact .inl ⟨rfl, by simp [hv]⟩
  · dsimp only
    have hset := (Reads.refl r.handle m.ledger).settles hv (o := .error (.bare .streamClosed))
      fun _ h => by cases h
    have hv' : (m.ledger.values.modify r.handle fun v => (v.1, .settled (.error (.bare .streamClosed))))[
        r.handle]? = some (h, .settled (.error (.bare .streamClosed))) := by
      simp [hv]
    rw [Ends.bind_iff, ends_record]
    exact (close_noted hv').mono (fun _ _ h => h ▸ .inr hset) fun _ _ h => h ▸ .inr hset
  · exact .inl ⟨rfl, by simp [hv]⟩

end Metered

/-! ### The stream values of a call -/

namespace StreamLedger

variable {L₀ L L' : StreamLedger} {P P' : Nat → Prop} {r : List StreamCall} {i : Nat}

/-- Value `i` is fresh: unread, and none of the calls `r` was on it. -/
def Fresh (r : List StreamCall) (L : StreamLedger) (i : Nat) : Prop :=
  (∃ h, L.values[i]? = some (h, .unread)) ∧ ∀ c ∈ r, c.value ≠ i

/-- Value `i` is released: settled, with an outcome that is not a stream, and its stream closed
once by the calls `r`, nothing asked of it afterwards. -/
def Released (r : List StreamCall) (L : StreamLedger) (i : Nat) : Prop :=
  (∃ h o, L.values[i]? = some (h, .settled o) ∧ KeptOutcome o) ∧ ClosedOnce r i

theorem Fresh.congr (hf : Fresh r L i) (hv : L'.values[i]? = L.values[i]?) : Fresh r L' i :=
  ⟨hv ▸ hf.1, hf.2⟩

theorem Fresh.append (hf : Fresh r L i) {more : List StreamCall} (hmore : ∀ c ∈ more, c.value ≠ i) :
    Fresh (r ++ more) L i := by
  refine ⟨hf.1, fun c hc => ?_⟩
  rcases List.mem_append.1 hc with hc | hc
  · exact hf.2 c hc
  · exact hmore c hc

theorem Released.congr (hr : Released r L i) (hv : L'.values[i]? = L.values[i]?) :
    Released r L' i :=
  ⟨hv ▸ hr.1, hr.2⟩

theorem Released.append (hr : Released r L i) {more : List StreamCall}
    (hmore : ∀ c ∈ more, c.value ≠ i) : Released (r ++ more) L i :=
  ⟨hr.1, hr.2.append_other hmore⟩

/-- Every stream opened from `L` to `L'` was closed exactly once by the calls made in between,
and nothing was asked of it after it was closed. -/
def ClosedSince (L L' : StreamLedger) : Prop :=
  ∃ r, L'.calls = L.calls ++ r ∧ ∀ i, L.values.length ≤ i → i < L'.values.length → ClosedOnce r i

/-- What the calls `r` made since `L₀` left in `L`: every value made since `L₀` is released, or
is fresh and pending (`P`). -/
structure Since (L₀ : StreamLedger) (P : Nat → Prop) (r : List StreamCall) (L : StreamLedger) :
    Prop where
  grows : L₀.values.length ≤ L.values.length
  bounded : ∀ c ∈ r, c.value < L.values.length
  status : ∀ i, L₀.values.length ≤ i → i < L.values.length → (P i ∧ Fresh r L i) ∨ Released r L i

/-- The ledger `L` grew from `L₀` by calls after which every value made since `L₀` is released,
or fresh and pending (`P`). -/
def Tidy (L₀ : StreamLedger) (P : Nat → Prop) (L : StreamLedger) : Prop :=
  ∃ r, L.calls = L₀.calls ++ r ∧ Since L₀ P r L

namespace Tidy

theorem start (L₀ : StreamLedger) (P : Nat → Prop) : Tidy L₀ P L₀ :=
  ⟨[], by simp, ⟨le_rfl, by simp, fun _ h₁ h₂ => absurd h₂ (by omega)⟩⟩

theorem mono (h : Tidy L₀ P L) (hP : ∀ i, P i → P' i) : Tidy L₀ P' L := by
  obtain ⟨r, hr, hs⟩ := h
  refine ⟨r, hr, hs.grows, hs.bounded, fun i h₁ h₂ => ?_⟩
  rcases hs.status i h₁ h₂ with ⟨hp, hf⟩ | hrel
  · exact .inl ⟨hP i hp, hf⟩
  · exact .inr hrel

/-- A value made since `L₀` keeps an outcome that is not a stream. -/
theorem kept (h : Tidy L₀ P L) (hi : L₀.values.length ≤ i) : Kept i L := by
  intro hd o hv
  obtain ⟨r, -, hs⟩ := h
  rcases hs.status i hi (List.getElem?_eq_some_iff.1 hv).1 with ⟨-, ⟨_, hv'⟩, -⟩ | ⟨⟨_, o', hv', ho'⟩, -⟩
  · rw [hv] at hv'
    cases hv'
  · rw [hv] at hv'
    cases hv'
    exact ho'

/-- Reading or closing value `i` takes it off the pending ones. -/
theorem step (h : Tidy L₀ P L) (hs : Step i L L') : Tidy L₀ (fun j => P j ∧ j ≠ i) L' := by
  rcases hs with ⟨rfl, hnot⟩ | ⟨hd, o, r', hv, ho, hvals, hall, hcalls⟩
  · -- nothing happened, and value `i`, not unread, was not fresh
    obtain ⟨r, hr, hs⟩ := h
    refine ⟨r, hr, hs.grows, hs.bounded, fun j h₁ h₂ => ?_⟩
    rcases hs.status j h₁ h₂ with ⟨hp, hf⟩ | hrel
    · by_cases hji : j = i
      · obtain ⟨⟨hd, hv⟩, -⟩ := hf
        exact absurd (hji ▸ hv) (hnot hd)
      · exact .inl ⟨⟨hp, hji⟩, hf⟩
    · exact .inr hrel
  · -- value `i` settled: it was fresh and is now released; the calls on it leave others alone
    obtain ⟨r, hr, hs⟩ := h
    have hlt : i < L.values.length := (List.getElem?_eq_some_iff.1 hv).1
    have hlen : L'.values.length = L.values.length := by rw [hvals, List.length_set]
    have hon : ∀ c ∈ r' ++ [.close i], c.value = i := by
      intro c hc
      rcases List.mem_append.1 hc with hc | hc
      · exact (hall c hc).1
      · rw [List.mem_singleton.1 hc]
        rfl
    refine ⟨r ++ (r' ++ [.close i]), by rw [hcalls, hr, List.append_assoc],
      ⟨hlen ▸ hs.grows, fun c hc => ?_, fun j h₁ h₂ => ?_⟩⟩
    · rw [hlen]
      rcases List.mem_append.1 hc with hc | hc
      · exact hs.bounded c hc
      · exact hon c hc ▸ hlt
    rw [hlen] at h₂
    by_cases hji : j = i
    · subst hji
      rcases hs.status j h₁ h₂ with ⟨-, hf⟩ | ⟨⟨_, _, hv', _⟩, -⟩
      · exact .inr ⟨⟨hd, o, by rw [hvals, List.getElem?_set_self hlt], ho⟩,
          closedOnce_append_close hf.2 hall⟩
      · rw [hv] at hv'
        cases hv'
    · have hvj : L'.values[j]? = L.values[j]? := by rw [hvals, List.getElem?_set_ne (Ne.symm hji)]
      have hmore : ∀ c ∈ r' ++ [.close i], c.value ≠ j := fun c hc => hon c hc ▸ Ne.symm hji
      rcases hs.status j h₁ h₂ with ⟨hp, hf⟩ | hrel
      · exact .inl ⟨⟨hp, hji⟩, (hf.congr hvj).append hmore⟩
      · exact .inr ((hrel.congr hvj).append hmore)

/-- A stream the store opened makes a fresh value, pending from then on. -/
theorem add (h : Tidy L₀ P L) (hd : Nat) :
    Tidy L₀ (fun j => P j ∨ j = L.values.length)
      { L with values := L.values ++ [(hd, .unread)] } := by
  obtain ⟨r, hr, hs⟩ := h
  refine ⟨r, hr, ⟨?_, fun c hc => ?_, fun j h₁ h₂ => ?_⟩⟩
  · simp only [List.length_append, List.length_singleton]
    have := hs.grows
    omega
  · simp only [List.length_append, List.length_singleton]
    have := hs.bounded c hc
    omega
  simp only [List.length_append, List.length_singleton] at h₂
  rcases Nat.lt_or_ge j L.values.length with hj | hj
  · have hvj : (L.values ++ [(hd, .unread)])[j]? = L.values[j]? := List.getElem?_append_left hj
    rcases hs.status j h₁ hj with ⟨hp, hf⟩ | hrel
    · exact .inl ⟨.inl hp, hf.congr hvj⟩
    · exact .inr (hrel.congr hvj)
  · have hjn : j = L.values.length := by omega
    subst hjn
    exact .inl ⟨.inr rfl, ⟨hd, List.getElem?_concat_length⟩, fun c hc => (hs.bounded c hc).ne⟩

/-- With nothing pending, every value made since `L₀` had its stream closed once by the calls
since. -/
theorem closedSince (h : Tidy L₀ (fun _ => False) L) : ClosedSince L₀ L := by
  obtain ⟨r, hr, hs⟩ := h
  refine ⟨r, hr, fun i h₁ h₂ => ?_⟩
  rcases hs.status i h₁ h₂ with ⟨hf, -⟩ | hrel
  · exact hf.elim
  · exact hrel.2

theorem grows (h : Tidy L₀ P L) : L₀.values.length ≤ L.values.length := by
  obtain ⟨_, _, hs⟩ := h
  exact hs.grows

end Tidy

end StreamLedger

/-- The numbers of the stream values among properties. -/
def streamsOf (props : List Property) : List Nat :=
  props.filterMap fun p =>
    match p.value with
    | some (.stream r) => some r.handle
    | _ => none

@[simp]
theorem streamsOf_nil : streamsOf [] = [] := rfl

theorem streamsOf_cons_stream {p : Property} {r : StreamRef} (hp : p.value = some (.stream r))
    (props : List Property) : streamsOf (p :: props) = r.handle :: streamsOf props := by
  simp [streamsOf, hp]

theorem streamsOf_cons_unstreamed {p : Property} (hp : Unstreamed p.value) (props : List Property) :
    streamsOf (p :: props) = streamsOf props := by
  rw [streamsOf, List.filterMap_cons]
  split
  · rfl
  · rename_i hr
    split at hr
    · exact absurd ‹_› (hp _)
    · cases hr

@[simp]
theorem streamsOf_append (ps qs : List Property) : streamsOf (ps ++ qs) = streamsOf ps ++ streamsOf qs :=
  List.filterMap_append

@[simp]
theorem mem_streamsOf_reverse {props : List Property} {j : Nat} :
    j ∈ streamsOf props.reverse ↔ j ∈ streamsOf props := by
  simp [streamsOf, List.filterMap_reverse]

open StreamLedger

section Fetch

variable {s : StreamStore (EntityM σ)} {L₀ : StreamLedger} {P : Nat → Prop} {m : Metered σ}

/-- Closing every unread stream of a list takes all of them off the pending values; it never
fails. -/
theorem Fetch.closeAll_tidy (props : List Property) (h : Tidy L₀ P m.ledger) :
    Ends (Fetch.closeAll (Metered.streams s) props) m
      (fun _ m' => Tidy L₀ (fun j => P j ∧ j ∉ streamsOf props) m'.ledger) fun _ _ => False := by
  induction props generalizing P m with
  | nil => exact h.mono fun _ hj => ⟨hj, by simp⟩
  | cons p props ih =>
    unfold Fetch.closeAll
    dsimp only
    split
    · rename_i r hr
      rw [Ends.bind_iff, Ends.tryCatch_iff]
      refine (Metered.close_step r).mono (fun _ m₁ h₁ => ?_) fun _ m₁ h₁ => ?_ <;>
      · refine (ih (h.step h₁)).mono (fun _ _ h₂ => h₂.mono ?_) fun _ _ h => h
        rintro j ⟨⟨hj, hne⟩, hnot⟩
        simp [streamsOf_cons_stream hr, hj, hne, hnot]
    · rename_i hr
      have hu : Unstreamed p.value := fun r hp => hr r hp
      refine (ih h).mono (fun _ _ h₂ => ?_) fun _ _ h => h
      rwa [streamsOf_cons_unstreamed hu]

variable (d : Driver (EntityM σ)) (hd : Nat)

/-- Opening a stream makes a fresh value, pending from then on; a failure leaves the ledger. -/
theorem Metered.openStream_tidy (t : Tag) (h : Tidy L₀ P m.ledger) :
    Ends (d.metered.openStream hd t) m
      (fun i m' => Tidy L₀ (fun j => P j ∨ j = i) m'.ledger ∧ L₀.values.length ≤ i)
      fun _ m' => Tidy L₀ P m'.ledger := by
  show Ends (Metered.lift (d.openStream hd t) >>= Metered.addValue) m _ _
  rw [Ends.bind_iff]
  exact Metered.ends_lift_of (fun hnd _ => Metered.ends_addValue.2 ⟨h.add hnd, h.grows⟩) fun _ _ => h

/-- The second pass of a fetch: the values it gives are fresh and pending, made since `L₀`, one
for each piece of work; a failure releases every value made before it. -/
theorem Fetch.settle_tidy (work : List (Column × Tag × RawProp × Bool)) :
    ∀ done m, Tidy L₀ (· ∈ streamsOf done) m.ledger → (∀ j ∈ streamsOf done, L₀.values.length ≤ j) →
      Ends (Fetch.settle (d.metered.object hd) d.metered.streams done work) m
        (fun props m' => Tidy L₀ (· ∈ streamsOf props) m'.ledger ∧
          (∀ j ∈ streamsOf props, L₀.values.length ≤ j) ∧ props.length = done.length + work.length)
        fun _ m' => Tidy L₀ (fun _ => False) m'.ledger := by
  induction work with
  | nil =>
    intro done m h hn
    exact ⟨h.mono fun _ => by simp, by simpa using hn, by simp⟩
  | cons w work ih =>
    obtain ⟨col, t, p, resolved⟩ := w
    intro done m h hn
    -- a failure closes the streams made so far, and nothing is left pending
    have hclose : ∀ m', Tidy L₀ (· ∈ streamsOf done) m'.ledger →
        Ends (Fetch.closeAll d.metered.streams done.reverse) m'
          (fun _ m'' => Tidy L₀ (fun _ => False) m''.ledger) fun _ _ => False := fun m' h' =>
      (Fetch.closeAll_tidy _ h').mono (fun _ _ h => h.mono fun _ hj => by simp at hj)
        fun _ _ h => h
    unfold Fetch.settle
    dsimp only
    split
    · rw [Ends.bind_iff, Ends.tryCatch_iff, Ends.bind_iff]
      refine (Metered.openStream_tidy d hd t h).mono (fun i m₁ ⟨h₁, hi⟩ => ?_)
        fun f m₁ h₁ => ?_
      · refine (ih _ m₁ (h₁.mono fun j hj => ?_) fun j hj => ?_).mono
          (fun props m₂ ⟨h₂, hn₂, hl₂⟩ => ⟨h₂, hn₂, ?_⟩) fun _ _ h => h
        · rw [streamsOf_cons_stream rfl]
          rcases hj with hj | rfl
          · exact List.mem_cons_of_mem _ hj
          · exact List.mem_cons_self
        · rw [streamsOf_cons_stream rfl] at hj
          rcases List.mem_cons.1 hj with rfl | hj
          · exact hi
          · exact hn j hj
        · simp only [List.length_cons] at hl₂ ⊢
          omega
      · rw [Ends.bind_iff]
        exact (hclose m₁ h₁).mono (fun _ _ h => by simpa using h) fun _ _ h => h.elim
    · split
      · rename_i v hv
        have hu := streamsOf_cons_unstreamed (Codec.decode_unstreamed hv) (p := ⟨col.id, v⟩) done
        rw [Ends.bind_iff, Ends.pure_iff]
        refine (ih _ m (hu ▸ h) (hu ▸ hn)).mono (fun props m₂ ⟨h₂, hn₂, hl₂⟩ => ⟨h₂, hn₂, ?_⟩)
          fun _ _ h => h
        simp only [List.length_cons] at hl₂ ⊢
        omega
      · rw [Ends.bind_iff]
        exact (hclose m h).mono (fun _ _ h => by simpa using h) fun _ _ h => h.elim

end Fetch

/-! ### Fetching properties -/

theorem Fetch.lift_stays {β : Type} {π : σ → β} {α : Type} (r : Except Failure α) :
    Stays π (Fetch.lift r : EntityM σ α) := by
  cases r
  · exact .throw
  · exact .pure

theorem streamsOf_eq_nil {β : Type} {l : List β} {props : List Property}
    (h : List.Forall₂ (fun _ p => Unstreamed p.value) l props) : streamsOf props = [] := by
  induction h with
  | nil => rfl
  | cons hp _ ih => rw [streamsOf_cons_unstreamed hp, ih]

/-- Decoding every property of an object gives no stream values, and leaves alone what the
resolver and `keep` leave alone. -/
theorem Fetch.decodeAll_unstreamed {β : Type} {π : σ → β} {r : NameResolver (EntityM σ)}
    (hr : r.Quiet π) {keep : NameCache → EntityM σ Unit} (hkeep : ∀ c, Stays π (keep c))
    (cache : NameCache) (raw : List RawProp) (st : σ) :
    Ends (Fetch.decodeAll r cache keep raw) st (fun props st' => π st' = π st ∧ streamsOf props = [])
      fun _ st' => π st' = π st := by
  unfold Fetch.decodeAll
  refine Ends.bind_of_keeps (NameCache.resolveIds_stays hr cache _ (π st)) rfl
    (fun ⟨resolved, cache'⟩ st₁ h₁ => ?_) fun _ _ h => h
  refine Ends.bind_of_keeps (hkeep cache' (π st)) h₁ (fun _ st₂ h₂ => ?_) fun _ _ h => h
  dsimp only
  split
  swap
  · simpa using h₂
  refine (Ends.mapM (I := fun st' => π st' = π st) (R := fun _ p => Unstreamed p.value) _
    (fun b _ st' hs' => ?_) h₂).mono (fun props _ h => ⟨h.1, streamsOf_eq_nil h.2⟩) fun _ _ h => h
  obtain ⟨p, rt⟩ := b
  dsimp only
  rw [Ends.bind_iff]
  cases hp : Codec.decode p with
  | error f => exact hs'
  | ok v => exact ⟨hs', Codec.decode_unstreamed hp⟩

/-- What a fetch leaves: the stream values it gives are fresh, pending and made since `L₀`, and
when there are any, the properties are at most one per column asked for. -/
structure Fetched (L₀ : StreamLedger) (cols : List Column) (props : List Property)
    (L : StreamLedger) : Prop where
  tidy : Tidy L₀ (· ∈ streamsOf props) L
  fresh : ∀ j ∈ streamsOf props, L₀.values.length ≤ j
  short : streamsOf props = [] ∨ props.length ≤ cols.length

section Fetching

variable (d : Driver (EntityM σ)) (hd : Nat) {L₀ : StreamLedger} {m : Metered σ}

/-- A fetch from a state with nothing pending leaves what `Fetched` says, or fails with nothing
pending. -/
theorem Fetch.getProperties_tidy {r : NameResolver (EntityM (Metered σ))} (hr : r.Quiet Metered.ledger)
    {keep : NameCache → EntityM (Metered σ) Unit} (hkeep : ∀ c, Stays Metered.ledger (keep c))
    (cache : NameCache) (cols : List Column) (h : Tidy L₀ (fun _ => False) m.ledger) :
    Ends (Fetch.getProperties (d.metered.object hd) d.metered.streams r cache keep cols) m
      (fun props m' => Fetched L₀ cols props m'.ledger)
      fun _ m' => Tidy L₀ (fun _ => False) m'.ledger := by
  have hkeeps : ∀ {α : Type} {x : EntityM (Metered σ) α}, Stays Metered.ledger x →
      Keeps (fun m' : Metered σ => Tidy L₀ (fun _ => False) m'.ledger) x :=
    fun hx => hx.keeps (Tidy L₀ fun _ => False)
  have hget : ∀ tags, Keeps (fun m' : Metered σ => Tidy L₀ (fun _ => False) m'.ledger)
      (tryCatch ((d.metered.object hd).getProps tags) fun f => throw (f.wrap "failed to get properties")) :=
    fun _ => hkeeps (.tryCatch (Metered.lift_stays _) fun _ => .throw)
  unfold Fetch.getProperties
  split
  · -- every property: none is a stream, and the ledger is left alone
    refine Ends.bind_of_keeps (hget none) h (fun raw m₁ h₁ => ?_) fun _ _ h => h
    refine (Fetch.decodeAll_unstreamed hr hkeep cache raw m₁).mono
      (fun props m₂ ⟨h₂, hs⟩ => ⟨?_, by simp [hs], .inl hs⟩) fun _ _ h₂ => h₂ ▸ h₁
    rw [h₂, hs]
    exact h₁.mono fun _ h => h.elim
  -- the columns asked for: resolving them and asking the store leave the ledger alone
  refine Ends.bind_of_keeps (hkeeps (NameCache.resolveNamed_stays hr cache _)) h
    (fun ⟨resolved, cache'⟩ m₁ h₁ => ?_) fun _ _ h => h
  refine Ends.bind_of_keeps (hkeeps (hkeep cache')) h₁ (fun _ m₂ h₂ => ?_) fun _ _ h => h
  dsimp only
  split
  swap
  · simpa using h₂
  refine Ends.bind_of_keeps (hkeeps (.mapM (fun _ => .bind (Fetch.lift_stays _) fun _ => .pure) _))
    h₂ (fun tags m₃ h₃ => ?_) fun _ _ h => h
  refine Ends.bind_of_keeps (hget _) h₃ (fun raw m₄ h₄ => ?_) fun _ _ h => h
  split
  swap
  · simpa using h₄
  refine (Fetch.settle_tidy d hd _ [] m₄ (h₄.mono fun _ h => h.elim) (by simp)).mono
    (fun props m₅ ⟨h₅, hn₅, hl₅⟩ => ⟨h₅, hn₅, .inr ?_⟩) fun _ _ h => h
  simp only [List.length_nil, List.length_map, List.length_zip, Nat.zero_add] at hl₅
  omega

end Fetching

/-- At most one property, or no streams: every stream of the list is in its first property. -/
theorem streamsOf_subset_head {props : List Property} (h : streamsOf props = [] ∨ props.length ≤ 1) :
    ∀ j ∈ streamsOf props, j ∈ streamsOf props.head?.toList := by
  rcases props with _ | ⟨p, _ | ⟨q, rest⟩⟩ <;> simp_all

theorem mem_streamsOf {props : List Property} {p : Property} {r : StreamRef} (hp : p ∈ props)
    (hr : p.value = some (.stream r)) : r.handle ∈ streamsOf props :=
  List.mem_filterMap.2 ⟨p, hp, by simp [hr]⟩

/-- Only a stream has no shape of its own. -/
theorem Shape.value_ok {v : Option Value} (hv : Unstreamed v) : ∃ kj, Shape.value v = .ok kj := by
  rcases v with _ | v
  · exact ⟨_, rfl⟩
  · cases v with
    | stream r => exact absurd rfl (hv r)
    | _ => exact ⟨_, rfl⟩

/-! ### Reading the properties of an entity -/

section Entities

variable (d : Driver (EntityM σ)) {L₀ : StreamLedger} {m : Metered σ}

/-- Reading properties in full reads or closes each of their streams: they are all taken off the
pending values, whether the reading succeeds or fails. -/
theorem Shape.properties_tidy {P : Nat → Prop} (props : List Property) (h : Tidy L₀ P m.ledger)
    (hfresh : ∀ j ∈ streamsOf props, L₀.values.length ≤ j) :
    Ends (Shape.properties d.metered props) m
      (fun _ m' => Tidy L₀ (fun j => P j ∧ j ∉ streamsOf props) m'.ledger)
      fun _ m' => Tidy L₀ (fun j => P j ∧ j ∉ streamsOf props) m'.ledger := by
  unfold Shape.properties
  refine Ends.mapM_of_step
    (fun done (m' : Metered σ) => Tidy L₀ (fun j => P j ∧ j ∉ streamsOf done) m'.ledger)
    props (fun p hp done m' h' => ?_) (h.mono fun _ hj => ⟨hj, by simp⟩)
  rw [Ends.bind_iff, Ends.tryCatch_iff]
  split
  · rename_i sr hsr
    refine (Metered.materialize_step sr).mono (fun v m₁ hstep => ?_) fun f m₁ h₁ => ?_
    · -- the value read is not a stream, so it has a shape
      obtain ⟨h₁, hk⟩ := hstep
      obtain ⟨kj, hkj⟩ := Shape.value_ok (hk (h'.kept (hfresh _ (mem_streamsOf hp hsr))))
      simp only [Ends.bind_iff, Ends.ofExcept_iff, hkj, Ends.pure_iff]
      refine (h'.step h₁).mono fun j hj => ⟨hj.1.1, ?_⟩
      simp [streamsOf_cons_stream hsr, hj.1.2, hj.2]
    · -- a failed read closes the whole list
      rw [Ends.bind_iff]
      refine (Fetch.closeAll_tidy props (h'.step h₁)).mono (fun _ _ h₂ => ?_) fun _ _ h => h.elim
      simpa using h₂.mono fun j hj => ⟨hj.1.1.1, hj.2⟩
  · rename_i hsr
    have hu : Unstreamed p.value := fun r hp => hsr r hp
    obtain ⟨kj, hkj⟩ := Shape.value_ok hu
    simp only [Ends.pure_iff, Ends.bind_iff, Ends.ofExcept_iff, hkj]
    simpa [streamsOf_cons_unstreamed hu] using h'

variable [EntityHost σ]

/-- Fetching properties of an object of a store, from a state with nothing pending. -/
theorem StoreRef.properties_tidy (r : StoreRef) (hd : Nat) (cols : List Column)
    (h : Tidy L₀ (fun _ => False) m.ledger) :
    Ends (r.properties d.metered hd cols) m (fun props m' => Fetched L₀ cols props m'.ledger)
      fun _ m' => Tidy L₀ (fun _ => False) m'.ledger := by
  have hq := Driver.metered_quiet d
  have hπ : EntityFree (Metered.ledger : Metered σ → StreamLedger) := Metered.entityFree
  unfold StoreRef.properties
  refine Ends.bind_of_keeps ((StoreRef.ensureOpen_stays hπ.shapeView.openView hq.toOpens r).keeps _) h
    (fun o m₁ h₁ => ?_) fun _ _ h => h
  refine Ends.bind_of_keeps (Stays.store.keeps _) h₁ (fun S m₂ h₂ => ?_) fun _ _ h => h
  rw [Ends.bind_iff]
  refine (Fetch.getProperties_tidy d hd (StoreRef.resolver_quiet hπ hq o)
    (StoreRef.keepNames_stays hπ r) _ cols h₂).mono (fun props m₃ h₃ => ?_) fun _ _ h => h
  -- counting the streams leaves the ledger alone
  dsimp only
  split <;> simpa using h₃

theorem FolderRef.properties_tidy (f : FolderRef) (cols : List Column)
    (h : Tidy L₀ (fun _ => False) m.ledger) :
    Ends (f.properties d.metered cols) m (fun props m' => Fetched L₀ cols props m'.ledger)
      fun _ m' => Tidy L₀ (fun _ => False) m'.ledger :=
  Ends.bind_of_keeps ((FolderRef.ensureOpen_stays Metered.entityFree.shapeView
    (Driver.metered_quiet d).toOpens f).keeps _) h
    (fun ⟨r, hd⟩ _ h₁ => StoreRef.properties_tidy d r hd cols h₁) fun _ _ h => h

theorem ItemRef.properties_tidy (i : ItemRef) (cols : List Column)
    (h : Tidy L₀ (fun _ => False) m.ledger) :
    Ends (i.properties d.metered cols) m (fun props m' => Fetched L₀ cols props m'.ledger)
      fun _ m' => Tidy L₀ (fun _ => False) m'.ledger :=
  Ends.bind_of_keeps ((ItemRef.ensureOpen_stays Metered.entityFree (Driver.metered_quiet d) i).keeps _) h
    (fun ⟨r, hd⟩ _ h₁ => StoreRef.properties_tidy d r hd cols h₁) fun _ _ h => h

/-- Reading the body of an item fetches one property and reads its stream, if it is one: nothing
is left pending, however the reading ends. -/
theorem ItemRef.body_tidy (i : ItemRef) (h : Tidy L₀ (fun _ => False) m.ledger) :
    Ends (i.body d.metered) m (fun _ m' => Tidy L₀ (fun _ => False) m'.ledger)
      fun _ m' => Tidy L₀ (fun _ => False) m'.ledger := by
  unfold ItemRef.body
  rw [Ends.bind_iff]
  refine (ItemRef.properties_tidy d i [bodyColumn] h).mono (fun props m₁ h₁ => ?_) fun _ _ h => h
  -- the only stream of the answer is in its first property
  have hsub := streamsOf_subset_head h₁.short
  -- the body is text or a failure; either way the ledger stays
  extract_lets jp
  have hjp : ∀ v m₂, Tidy L₀ (fun _ => False) (Metered.ledger m₂) →
      Ends (jp v) m₂ (fun _ m' => Tidy L₀ (fun _ => False) m'.ledger)
        fun _ m' => Tidy L₀ (fun _ => False) m'.ledger := by
    intro v m₂ h₂
    simp only [jp]
    split <;> simpa using h₂
  split
  · rename_i id sr heq
    rw [heq] at hsub
    rw [Ends.bind_iff]
    refine (Metered.materialize_step sr).mono (fun v m₂ ⟨h₂, _⟩ => hjp v m₂ ?_) fun _ m₂ h₂ => ?_ <;>
    · exact (h₁.tidy.step h₂).mono fun j ⟨hj, hne⟩ => by simpa [streamsOf, hne] using hsub j hj
  · rename_i id v hv heq
    rw [heq] at hsub
    have hu : Unstreamed v := hv
    refine Ends.bind_iff.2 (hjp v m₁ (h₁.tidy.mono fun j hj => ?_))
    simpa [streamsOf_cons_unstreamed (p := ⟨id, v⟩) hu] using hsub j hj
  · rename_i heq
    rw [heq] at hsub
    exact Ends.bind_iff.2 (hjp none m₁ (h₁.tidy.mono fun j hj => by simpa using hsub j hj))

end Entities

/-! ### The tools that read properties -/

/-- Run from any state, `x` closes every stream it opens exactly once before it ends, and asks
nothing of a stream after closing it. -/
def ReleasesStreams {α : Type} (x : EntityM (Metered σ) α) : Prop :=
  ∀ m : Metered σ, Ends x m (fun _ m' => m.ledger.ClosedSince m'.ledger)
    fun _ m' => m.ledger.ClosedSince m'.ledger

/-- The registry finds each tool over entities by its name, whatever tools were added. -/
theorem Registry.find?_ofDriver [EntityHost σ] (d : Driver (EntityM σ))
    (extra : List (ToolEntry (EntityM σ))) (t : ToolKind) :
    (Registry.ofDriver d extra).find? t.name = some ⟨t.name, t.description, t.schema, t.run d⟩ := by
  show List.find? _ ((ToolKind.all.map fun t => (⟨t.name, t.description, t.schema, t.run d⟩ :
    ToolEntry _)) ++ extra : List (ToolEntry (EntityM σ))) = _
  rw [List.find?_append]
  cases t <;> simp [ToolKind.all, ToolKind.name]

section Tools

variable (d : Driver (EntityM σ)) {L₀ : StreamLedger} {m : Metered σ}

/-- Fetched properties, read in full for the answer, leave nothing pending. -/
theorem ToolKind.shown_tidy {x : EntityM (Metered σ) (List Property)} (cols : List Column)
    (context : String)
    (hx : Ends x m (fun props m' => Fetched L₀ cols props m'.ledger)
      fun _ m' => Tidy L₀ (fun _ => False) m'.ledger) :
    Ends (do
        let props ← wrapping context x
        pure (Except.ok (Json.array (← Shape.properties d.metered props))) : EntityM (Metered σ) Written)
      m (fun _ m' => Tidy L₀ (fun _ => False) m'.ledger)
      fun _ m' => Tidy L₀ (fun _ => False) m'.ledger := by
  rw [Ends.bind_iff, ends_wrapping]
  refine hx.mono (fun props m₁ h₁ => ?_) fun _ _ h => h
  rw [Ends.bind_iff]
  exact (Shape.properties_tidy d props h₁.tidy h₁.fresh).mono
    (fun _ _ h => h.mono fun _ h => h.2 h.1) fun _ _ h => h.mono fun _ h => h.2 h.1

variable [EntityHost σ]

/-- The three tools that read properties leave nothing pending, however they end. -/
theorem ToolKind.run_tidy (t : ToolKind)
    (ht : t = .getFolderProperties ∨ t = .getItemProperties ∨ t = .getItem) (args : Json)
    (h : Tidy L₀ (fun _ => False) m.ledger) :
    Ends (t.run d.metered args) m (fun _ m' => Tidy L₀ (fun _ => False) m'.ledger)
      fun _ m' => Tidy L₀ (fun _ => False) m'.ledger := by
  have hq := Driver.metered_quiet d
  have hπ : EntityFree (Metered.ledger : Metered σ → StreamLedger) := Metered.entityFree
  have hkeeps : ∀ {α : Type} {x : EntityM (Metered σ) α}, Stays Metered.ledger x →
      Keeps (fun m' : Metered σ => Tidy L₀ (fun _ => False) m'.ledger) x :=
    fun hx => hx.keeps (Tidy L₀ fun _ => False)
  -- every tool first finds the store the arguments name
  rcases ht with rfl | rfl | rfl <;> unfold ToolKind.run <;> dsimp only <;>
    refine Ends.bind_of_keeps (hkeeps (ToolKind.store_stays hπ hq args)) h
      (fun r m₁ h₁ => ?_) fun _ _ h => h <;>
    refine Ends.bind_of_keeps (hkeeps .ofExcept) h₁ (fun id m₂ h₂ => ?_) fun _ _ h => h
  · refine Ends.bind_of_keeps (hkeeps .ofExcept) h₂ (fun cols m₃ h₃ => ?_) fun _ _ h => h
    refine ToolKind.shown_tidy d (cols.getD []) _ ?_
    rw [Ends.bind_iff]
    exact ((StoreRef.openFolder_stays hπ hq r id).keeps _ m₃ h₃).mono
      (fun f _ h₄ => FolderRef.properties_tidy d f _ h₄) fun _ _ h => h
  · refine Ends.bind_of_keeps (hkeeps .ofExcept) h₂ (fun cols m₃ h₃ => ?_) fun _ _ h => h
    refine ToolKind.shown_tidy d (cols.getD []) _ ?_
    rw [Ends.bind_iff]
    exact ((StoreRef.openItem_stays hπ hq r id).keeps _ m₃ h₃).mono
      (fun i _ h₄ => ItemRef.properties_tidy d i _ h₄) fun _ _ h => h
  · refine Ends.bind_of_keeps (hkeeps (.wrapping (StoreRef.openItem_stays hπ hq r id))) h₂
      (fun i m₃ h₃ => ?_) fun _ _ h => h
    rw [Ends.bind_iff, ends_wrapping]
    refine (ItemRef.body_tidy d i h₃).mono (fun _ m₄ h₄ => ?_) fun _ _ h => h
    exact Ends.bind_of_keeps (hkeeps .item) h₄ (fun _ _ h => h) fun _ _ h => h

/-- A tool over entities called by name that leaves nothing pending releases every stream it
opens: clearing the caches afterwards touches no stream. -/
theorem Registry.call_releases (extra : List (ToolEntry (EntityM (Metered σ)))) (t : ToolKind)
    (args : Json)
    (ht : ∀ m : Metered σ, Ends (t.run d.metered args) m
      (fun _ m' => Tidy m.ledger (fun _ => False) m'.ledger)
      fun _ m' => Tidy m.ledger (fun _ => False) m'.ledger) :
    ReleasesStreams ((Registry.ofDriver d.metered extra).call d.metered t.name args) := by
  intro m
  have hclear := (Entities.clearCaches_stays Metered.entityFree (Driver.metered_quiet d)).keeps
    (Tidy m.ledger fun _ => False)
  unfold Registry.call
  rw [Registry.find?_ofDriver]
  dsimp only
  rw [Ends.tryFinally_iff]
  refine (ht m).mono (fun _ m₁ h₁ => ?_) fun _ m₁ h₁ => ?_ <;>
  · exact (hclear m₁ h₁).mono (fun _ _ h => h.closedSince) fun _ _ h => h.closedSince

/-- **No stream outlives a tool call.** Over any store, put in the shape of `Driver.metered`,
each of the three tools that read properties closes every stream it opens exactly once before
the call returns, whether it succeeds or fails, and asks nothing of a stream after closing it. -/
theorem property_tools_release_streams (extra : List (ToolEntry (EntityM (Metered σ))))
    (args : Json) :
    ReleasesStreams ((Registry.ofDriver d.metered extra).call d.metered "get_folder_properties" args) ∧
      ReleasesStreams ((Registry.ofDriver d.metered extra).call d.metered "get_item_properties" args) ∧
      ReleasesStreams ((Registry.ofDriver d.metered extra).call d.metered "get_item" args) := by
  have key : ∀ t : ToolKind, (t = .getFolderProperties ∨ t = .getItemProperties ∨ t = .getItem) →
      ReleasesStreams ((Registry.ofDriver d.metered extra).call d.metered t.name args) :=
    fun t ht => Registry.call_releases d extra t args fun m =>
      ToolKind.run_tidy d t ht args (Tidy.start m.ledger _)
  exact ⟨key _ (.inl rfl), key _ (.inr (.inl rfl)), key _ (.inr (.inr rfl))⟩

end Tools

end MailStore
