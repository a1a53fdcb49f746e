import Mathlib
import MailStore.Proofs.StreamRelease
import MailStore.Proofs.InlineLimit

/-!
# A stream value is read once

A stream value holds a stream the store opened, and is read or closed by the calls made on it.
The first call settles it. A first read asks the stream its size and its bytes, closes it, and
keeps the outcome; a first close closes the stream and keeps the failure `stream closed`. Every
later call answers from what was kept: a read gives the kept outcome again, a close does
nothing and succeeds. The stream is closed exactly once, during the first call, and asked its
size and bytes only then, and only by a read.

Over a session that writes down every call it makes on a stream (`Driver.metered`), this holds
whatever the stream does (`stream_value_read_once`, first part). What the first read keeps is
fixed by what the stream serves: reading stops at the size the stream reports, so a stream that
reports `size` bytes and yields `data` gives its first `size` bytes decoded, fails as too large
above `2^32 - 1` without a read, and fails when it ends short: as an end of the stream when it
yields no byte at all, as an inconsistency otherwise (`Stream.readServed`). A failure to close
the stream spoils a read that went well (`Stream.keptOutcome`).

The calls are made one after another here; the value settles at its first call, so calls that
race are some order of these.

## Main statements

* `Metered.answers_settled`: a settled value answers every call from what it kept.
* `Metered.materialize_unread`, `Metered.close_unread`: the first call settles the value.
* `Metered.materialize_serves`: what the first read keeps, for a stream that serves its bytes.
* `stream_value_read_once`: the read-once machine.
-/

namespace MailStore

/-! ### Calls on a stream value -/

/-- A call made on a stream value: reading it, or closing it. -/
inductive ValueCall where
  /-- Reading the value. -/
  | materialize
  /-- Closing the value. -/
  | close
deriving DecidableEq, Repr

/-- What a call on a stream value answered: what a read gave, or how a close ended. -/
inductive ValueAnswer where
  /-- What a read gave. -/
  | read (o : Except Failure (Option Value))
  /-- How a close ended. -/
  | closed (o : Except Failure Unit)

namespace ValueCall

variable {σ : Type}

/-- Makes a call on a stream value; a failure is its answer too. -/
def answer (s : StreamStore (EntityM σ)) (r : StreamRef) : ValueCall → EntityM σ ValueAnswer
  | .materialize =>
    tryCatch (do let v ← Stream.materialize s r; pure (.read (.ok v)))
      fun f => pure (.read (.error f))
  | .close =>
    tryCatch (do Stream.close s r; pure (.closed (.ok ()))) fun f => pure (.closed (.error f))

/-- The answer of a call on a value settled with outcome `o`: a read gives `o` again, a close
does nothing and succeeds. -/
def settledAnswer (o : Except Failure (Option Value)) : ValueCall → ValueAnswer
  | .materialize => .read o
  | .close => .closed (.ok ())

end ValueCall

/-! ### What a first read keeps -/

namespace Stream

/-- A read outcome spoiled by a failure to close the stream: a good read becomes the close
failure, a failed read stays as it was. -/
def spoil (o : Except Failure (Option Value)) (g : Failure) : Except Failure (Option Value) :=
  match o with
  | .ok _ => .error (g.wrap "failed to close property stream")
  | .error f => .error f

/-- What reading a stream that reports `size` bytes and yields `data` gives under encoding `e`:
too large a size fails before any read; fewer bytes than the size fail, as an end of the
stream when there were none and as an inconsistency otherwise; else the first `size` bytes are
decoded. -/
def readServed (e : StreamEncoding) (size : Nat) (data : Bytes) : Except Failure Value :=
  if maxSize < size then .error (Failure.because .streamTooLarge (sizeText size))
  else if data.length < size then
    if data = [] then .error (Failure.other "failed to read property stream: EOF")
    else .error (Failure.inconsistent ("stream reported " ++ toString size ++ " bytes, read " ++
      toString data.length))
  else decodeAs e (data.take size)

/-- The outcome kept for a value whose read gave `read` and whose stream's close failed with
`closing`, if it did: a failure to close spoils a good read. -/
def keptOutcome (read : Except Failure Value) (closing : Option Failure) :
    Except Failure (Option Value) :=
  match read, closing with
  | .ok _, some f => .error (f.wrap "failed to close property stream")
  | .ok v, none => .ok (some v)
  | .error f, _ => .error f

/-- A close that went well keeps the read as it was. -/
theorem keptOutcome_none (read : Except Failure Value) : keptOutcome read none = read.map some := by
  cases read <;> rfl

/-- A close that failed spoils the read. -/
theorem keptOutcome_some (read : Except Failure Value) (g : Failure) :
    keptOutcome read (some g) = spoil (read.map some) g := by
  cases read <;> rfl

variable {σ : Type}

/-- The stream of handle `h` of a store reports `size` bytes and serves its bytes in order,
never failing, and closing it ends as `closing` says. `R rest st` says that in state `st` the
stream has `rest` left: a read of at most `n` bytes gives a non-empty part of `rest` from its
start, or nothing once `rest` is empty. -/
structure Serves (s : StreamStore (EntityM σ)) (h size : Nat) (closing : Option Failure)
    (R : Bytes → σ → Prop) : Prop where
  /-- Asking the size gives `size` and leaves the stream as it is. -/
  size : ∀ rest st, R rest st →
    Ends (s.size h) st (fun n st' => n = size ∧ R rest st') fun _ _ => False
  /-- A read gives the next bytes, at least one and at most `n`, or nothing at the end. -/
  read : ∀ rest st n, R rest st → 0 < n → Ends (s.read h n) st
    (fun c st' => match c with
      | none => rest = [] ∧ R rest st'
      | some c => c ≠ [] ∧ c.length ≤ n ∧ ∃ rest', rest = c ++ rest' ∧ R rest' st')
    fun _ _ => False
  /-- Closing ends as `closing` says. -/
  close : ∀ rest st, R rest st →
    Ends (s.close h) st (fun _ _ => closing = none) fun f _ => closing = some f

end Stream

/-! ### Calls on the stream of a value -/

theorem StreamCall.eq_size_or_read {c : StreamCall} {i : Nat} (hv : c.value = i)
    (hc : c ≠ .close i) :
    c = .size i ∨ c = .read i := by
  cases c <;> simp_all [StreamCall.value]

namespace Metered

open StreamLedger

variable {σ : Type} {s : StreamStore (EntityM σ)} {m : Metered σ} {r : StreamRef}

section Noted

variable {i h : Nat}

/-- A call on the stream of value `i` is written down and made on the store's stream. -/
theorem ends_noted {α : Type} {c : StreamCall} {f : Nat → EntityM σ α} {x : StreamState}
    (hv : m.ledger.values[i]? = some (h, x)) {Q : α → Metered σ → Prop}
    {E : Failure → Metered σ → Prop} :
    Ends (do let (h, _) ← value i; note c; lift (f h)) m Q E ↔
      Ends (f h) m.base (fun a st => Q a ⟨st, ⟨m.ledger.values, m.ledger.calls ++ [c]⟩⟩)
        fun e st => E e ⟨st, ⟨m.ledger.values, m.ledger.calls ++ [c]⟩⟩ := by
  simp only [Ends.bind_iff, ends_value, hv, ends_note, ends_lift]

theorem ends_size {x : StreamState} (hv : m.ledger.values[i]? = some (h, x))
    {Q : Nat → Metered σ → Prop} {E : Failure → Metered σ → Prop} :
    Ends ((streams s).size i) m Q E ↔
      Ends (s.size h) m.base (fun a st => Q a ⟨st, ⟨m.ledger.values, m.ledger.calls ++ [.size i]⟩⟩)
        fun e st => E e ⟨st, ⟨m.ledger.values, m.ledger.calls ++ [.size i]⟩⟩ :=
  ends_noted hv

theorem ends_read {x : StreamState} (hv : m.ledger.values[i]? = some (h, x)) {n : Nat}
    {Q : Option Bytes → Metered σ → Prop} {E : Failure → Metered σ → Prop} :
    Ends ((streams s).read i n) m Q E ↔
      Ends (s.read h n) m.base
        (fun a st => Q a ⟨st, ⟨m.ledger.values, m.ledger.calls ++ [.read i]⟩⟩)
        fun e st => E e ⟨st, ⟨m.ledger.values, m.ledger.calls ++ [.read i]⟩⟩ :=
  ends_noted (f := (s.read · n)) hv

theorem ends_close {x : StreamState} (hv : m.ledger.values[i]? = some (h, x))
    {Q : Unit → Metered σ → Prop} {E : Failure → Metered σ → Prop} :
    Ends ((streams s).close i) m Q E ↔
      Ends (s.close h) m.base
        (fun a st => Q a ⟨st, ⟨m.ledger.values, m.ledger.calls ++ [.close i]⟩⟩)
        fun e st => E e ⟨st, ⟨m.ledger.values, m.ledger.calls ++ [.close i]⟩⟩ :=
  ends_noted hv

end Noted

/-- Settling a value keeps the handle of its stream. -/
theorem modify_settle {vs : List (Nat × StreamState)} {i h : Nat} {x : StreamState}
    (hv : vs[i]? = some (h, x)) (out : Except Failure (Option Value)) :
    (vs.modify i fun v => (v.1, .settled out)) = vs.set i (h, .settled out) := by
  rw [List.modify_eq_set_getElem?, hv]
  rfl

/-! ### A settled value -/

theorem answer_settled {h : Nat} {o : Except Failure (Option Value)}
    (hv : m.ledger.values[r.handle]? = some (h, .settled o)) (c : ValueCall) :
    Ends (c.answer (streams s) r) m (fun a m' => m' = m ∧ a = c.settledAnswer o)
      fun _ _ => False := by
  cases c with
  | materialize =>
    simp only [ValueCall.answer, Ends.tryCatch_iff, Ends.bind_iff, Stream.materialize, ends_lookup,
      hv]
    cases o <;> simp [ValueCall.settledAnswer]
  | close =>
    simp only [ValueCall.answer, Ends.tryCatch_iff, Ends.bind_iff, Stream.close, ends_lookup, hv]
    simp [ValueCall.settledAnswer]

theorem answers_settled {h : Nat} {o : Except Failure (Option Value)}
    (hv : m.ledger.values[r.handle]? = some (h, .settled o)) (cs : List ValueCall) :
    Ends (cs.mapM (·.answer (streams s) r)) m
      (fun as m' => m' = m ∧ as = cs.map (ValueCall.settledAnswer o)) fun _ _ => False := by
  induction cs with
  | nil => exact ⟨rfl, rfl⟩
  | cons c cs ih =>
    rw [List.mapM_cons, Ends.bind_iff]
    refine (answer_settled hv c).mono (fun a m₁ ⟨hm, ha⟩ => ?_) fun _ _ h => h
    subst hm ha
    rw [Ends.bind_iff]
    exact ih.mono (fun as m₂ ⟨hm, has⟩ => by subst has; exact ⟨hm, rfl⟩) fun _ _ h => h

/-! ### The first call -/

/-- Closing an unread value settles it as closed, with one close of its stream. -/
theorem close_unread {h : Nat} (hv : m.ledger.values[r.handle]? = some (h, .unread)) :
    Ends (ValueCall.close.answer (streams s) r) m
      (fun _ m' => m'.ledger =
        ⟨m.ledger.values.set r.handle (h, .settled (.error (.bare .streamClosed))),
          m.ledger.calls ++ [.close r.handle]⟩) fun _ _ => False := by
  have hv' : (m.ledger.values.modify r.handle
      fun v => (v.1, .settled (.error (.bare .streamClosed))))[r.handle]? =
        some (h, .settled (.error (.bare .streamClosed))) := by
    simp [hv]
  have hset := modify_settle hv (.error (.bare .streamClosed))
  simp only [ValueCall.answer, Ends.tryCatch_iff, Ends.bind_iff, Stream.close, ends_lookup, hv]
  rw [ends_record]
  refine (close_noted hv').mono (fun _ m' h => ?_) fun _ m' h => ?_ <;>
    simp only [Ends.pure_iff, h, hset]

/-- The answer of a read that replays an outcome is that outcome. -/
theorem ends_replay_answer {out : Except Failure (Option Value)}
    {P : ValueAnswer → Metered σ → Prop}
    {E : Failure → Metered σ → Prop} :
    Ends (Stream.replay out) m (fun v m' => Ends (pure (ValueAnswer.read (.ok v))) m' P E)
        (fun f m' => Ends (pure (ValueAnswer.read (.error f))) m' P E) ↔ P (.read out) m := by
  cases out <;> rfl

/-- Reading an unread value: the stream is read, then closed, and the outcome, spoiled if the
close failed, is kept and answered. Whatever the read and the close do is described by `hread`
and `hsettle`. -/
theorem materialize_answer {h : Nat} (hv : m.ledger.values[r.handle]? = some (h, .unread))
    {Q : Except Failure (Option Value) → Metered σ → Prop} {G : ValueAnswer → Metered σ → Prop}
    (hread : Ends (tryCatch (do
        let v ← Stream.readAll (streams s) r.handle r.encoding; pure (Except.ok (some v)))
        fun f => pure (Except.error f)) m
      (fun o m₁ => Q o m₁ ∧ m₁.ledger.values = m.ledger.values) fun _ _ => False)
    (hsettle : ∀ o m₁, Q o m₁ →
      Ends (s.close h) m₁.base
        (fun _ st => G (.read o)
          ⟨st, ⟨m.ledger.values.set r.handle (h, .settled o),
            m₁.ledger.calls ++ [.close r.handle]⟩⟩)
        fun g st => G (.read (Stream.spoil o g))
          ⟨st, ⟨m.ledger.values.set r.handle (h, .settled (Stream.spoil o g)),
            m₁.ledger.calls ++ [.close r.handle]⟩⟩) :
    Ends (ValueCall.materialize.answer (streams s) r) m G fun _ _ => False := by
  simp only [ValueCall.answer]
  rw [Ends.tryCatch_iff, Ends.bind_iff]
  unfold Stream.materialize
  rw [Ends.bind_iff, ends_lookup, hv]
  dsimp only
  rw [Ends.bind_iff]
  refine hread.mono (fun o m₁ ⟨hQ, hvals⟩ => ?_) fun _ _ h => h.elim
  have hv₁ : m₁.ledger.values[r.handle]? = some (h, .unread) := hvals ▸ hv
  -- keeping an outcome sets the value's state in place
  have hset : ∀ out : Except Failure (Option Value),
      (m₁.ledger.values.modify r.handle fun v => (v.1, StreamState.settled out)) =
        m.ledger.values.set r.handle (h, .settled out) := by
    intro out
    rw [modify_settle hv₁, hvals]
  rw [Ends.bind_iff, Ends.tryCatch_iff, Ends.bind_iff, ends_close hv₁]
  refine (hsettle o m₁ hQ).mono (fun _ st hG => ?_) fun g st hG => ?_
  · rw [Ends.pure_iff, Ends.bind_iff, ends_record]
    refine ends_replay_answer.2 ?_
    cases o <;> simpa only [hset] using hG
  · rw [Ends.pure_iff, Ends.bind_iff, ends_record]
    refine ends_replay_answer.2 ?_
    cases o <;> simpa only [hset, Stream.spoil] using hG

/-- Reading an unread value settles it: its stream is asked its size and its bytes, then
closed, and the outcome kept is what the read answers. -/
theorem materialize_unread {h : Nat} (hv : m.ledger.values[r.handle]? = some (h, .unread)) :
    Ends (ValueCall.materialize.answer (streams s) r) m
      (fun a m' => ∃ o pre, m'.ledger = ⟨m.ledger.values.set r.handle (h, .settled o),
          m.ledger.calls ++ pre ++ [.close r.handle]⟩ ∧
        (∀ c ∈ pre, c.value = r.handle ∧ c ≠ .close r.handle) ∧ a = .read o) fun _ _ => False := by
  refine materialize_answer (Q := fun _ m₁ => Reads r.handle m.ledger m₁.ledger) hv
    ((read_kept r.encoding).mono (fun _ _ h => ⟨h.1, h.1.1⟩) fun _ _ h => h) fun o m₁ hr => ?_
  obtain ⟨-, pre, hcalls, hpre⟩ := hr
  rw [hcalls]
  exact Ends.of_forall (fun _ _ => ⟨o, pre, rfl, hpre, rfl⟩) fun g _ => ⟨_, pre, rfl, hpre, rfl⟩

/-! ### Reading a stream that serves its bytes -/

section Served

variable {i h : Nat}

/-- Reading a served stream until `want` bytes arrived or it ended gives the first `want` bytes
of what it has left, and says whether it ended short. Each read takes at least one byte, so
one turn more than the bytes wanted is enough. -/
theorem readFull_serves {size : Nat} {closing : Option Failure} {R : Bytes → σ → Prop}
    (hs : Stream.Serves s h size closing R) {L₀ : StreamLedger} {x : StreamState}
    (hv : L₀.values[i]? = some (h, x)) (want : Nat) :
    ∀ (fuel : Nat) (acc rest : Bytes) (m : Metered σ), Reads i L₀ m.ledger → R rest m.base →
      want - acc.length < fuel →
      Ends (Stream.readFull (streams s) i want fuel acc) m
        (fun d m' => d = (acc ++ rest.take (want - acc.length),
            if rest.length < want - acc.length then some .endOfStream else none) ∧
          (∃ rest', R rest' m'.base) ∧ Reads i L₀ m'.ledger) fun _ _ => False
  | 0, _, _, _, _, _, hf => absurd hf (Nat.not_lt_zero _)
  | fuel + 1, acc, rest, m, hr, hR, hf => by
    have hvm : m.ledger.values[i]? = some (h, x) := hr.1 ▸ hv
    have hnote : Reads i L₀ ⟨m.ledger.values, m.ledger.calls ++ [.read i]⟩ :=
      hr.note (c := .read i) rfl (by simp)
    rw [Stream.readFull]
    split
    · -- the bytes wanted are all there
      next hge =>
        have hzero : want - acc.length = 0 := by omega
        exact ⟨by simp [hzero], ⟨rest, hR⟩, hr⟩
    · next hlt =>
      rw [Ends.bind_iff, Ends.tryCatch_iff, Ends.bind_iff, ends_read hvm]
      refine (hs.read rest m.base (want - acc.length) hR (by omega)).mono (fun c st hc => ?_)
        fun _ _ h => h.elim
      cases c with
      | none =>
        obtain ⟨rfl, hR'⟩ := hc
        exact ⟨by simp; omega, ⟨[], hR'⟩, hnote⟩
      | some c =>
        obtain ⟨hne, hle, rest', rfl, hR'⟩ := hc
        have hpos : 0 < c.length := List.length_pos_iff.2 hne
        refine (readFull_serves hs hv want fuel (acc ++ c) rest' ⟨st, _⟩ hnote hR'
          (by simp only [List.length_append]; omega)).mono (fun d m' hread => ?_)
          fun _ _ h => h
        obtain ⟨hd, hrest, hr'⟩ := hread
        refine ⟨?_, hrest, hr'⟩
        have hk : want - (acc ++ c).length = want - acc.length - c.length := by
          simp only [List.length_append]; omega
        have hcond : (c ++ rest').length < want - acc.length ↔
            rest'.length < want - acc.length - c.length := by
          simp only [List.length_append]; omega
        rw [hd, hk, List.take_append, List.take_of_length_le hle, List.append_assoc]
        simp only [hcond]

/-- Reading a served stream whole gives what `readServed` says, leaves the stream served, and
asks only its size and its bytes; a size above the limit is all that is asked. -/
theorem readAll_serves {size : Nat} {closing : Option Failure} {R : Bytes → σ → Prop}
    (hs : Stream.Serves s h size closing R) {x : StreamState}
    (hv : m.ledger.values[i]? = some (h, x))
    {data : Bytes} (hR : R data m.base) (e : StreamEncoding) :
    Ends (Stream.readAll (streams s) i e) m
      (fun v m' => Stream.readServed e size data = .ok v ∧ (∃ rest, R rest m'.base) ∧
        Reads i m.ledger m'.ledger)
      fun f m' => Stream.readServed e size data = .error f ∧ (∃ rest, R rest m'.base) ∧
        Reads i m.ledger m'.ledger ∧
        (Stream.maxSize < size → m'.ledger.calls = m.ledger.calls ++ [.size i]) := by
  have hr₁ : Reads i m.ledger ⟨m.ledger.values, m.ledger.calls ++ [.size i]⟩ :=
    (Reads.refl i m.ledger).note (c := .size i) rfl (by simp)
  unfold Stream.readAll
  rw [Ends.bind_iff, Ends.tryCatch_iff, ends_size hv]
  refine (hs.size data m.base hR).mono (fun n st ⟨hn, hR'⟩ => ?_) fun _ _ h => h.elim
  subst n
  split
  · -- too large: nothing is read
    next hbig =>
      exact ⟨by simp [Stream.readServed, hbig], ⟨data, hR'⟩, hr₁, fun _ => rfl⟩
  · next hsmall =>
    rw [Ends.bind_iff]
    refine (readFull_serves hs hv size (size + 1) [] data ⟨st, _⟩ hr₁ hR' (by simp)).mono
      (fun d m₂ ⟨hd, hrest, hr₂⟩ => ?_) fun _ _ h => h.elim
    subst hd
    simp only [List.nil_append, List.length_nil, Nat.sub_zero]
    by_cases hlt : data.length < size
    · -- the stream ended short
      rw [List.take_of_length_le hlt.le]
      simp only [hlt, if_true]
      by_cases hnil : data = []
      · subst hnil
        simp only [List.isEmpty_nil, if_true, Ends.bind_iff, Ends.throw_iff]
        exact ⟨by rw [Stream.readServed, if_neg hsmall, if_pos hlt, if_pos rfl], hrest, hr₂,
          fun h => absurd h hsmall⟩
      · have hne : data.length ≠ size := by omega
        simp [hnil, hne]
        exact ⟨by simp [Stream.readServed, hsmall, hlt, hnil], hrest, hr₂, fun h => absurd h hsmall⟩
    · -- the first `size` bytes arrived
      have hlen : (data.take size).length = size := by simp; omega
      simp only [hlt, if_false, hlen, lt_irrefl, if_true]
      split
      · next v hdec => exact ⟨by simp [Stream.readServed, hsmall, hlt, hdec], hrest, hr₂⟩
      · next f hdec =>
        exact ⟨by simp [Stream.readServed, hsmall, hlt, hdec], hrest, hr₂, fun h => absurd h hsmall⟩

/-- The first read of a value whose stream is served keeps what `readServed` says, spoiled by a
failure to close; a size above the limit is asked and the stream closed, and nothing else. -/
theorem materialize_serves {size : Nat} {closing : Option Failure}
    {R : Bytes → σ → Prop} (hs : Stream.Serves s h size closing R)
    (hv : m.ledger.values[r.handle]? = some (h, .unread)) {data : Bytes} (hR : R data m.base) :
    Ends (ValueCall.materialize.answer (streams s) r) m
      (fun a m' => a = .read (Stream.keptOutcome (Stream.readServed r.encoding size data) closing) ∧
        (Stream.maxSize < size →
          m'.ledger.calls = m.ledger.calls ++ [.size r.handle, .close r.handle]))
      fun _ _ => False := by
  refine materialize_answer
    (Q := fun o m₁ => o = (Stream.readServed r.encoding size data).map some ∧
      (∃ rest, R rest m₁.base) ∧
      (Stream.maxSize < size → m₁.ledger.calls = m.ledger.calls ++ [.size r.handle])) hv ?_ ?_
  · rw [Ends.tryCatch_iff, Ends.bind_iff]
    refine (readAll_serves hs hv hR r.encoding).mono (fun v m₁ ⟨hread, hrest, hr⟩ => ?_)
      fun f m₁ ⟨hread, hrest, hr, hcalls⟩ => ⟨⟨by rw [hread]; rfl, hrest, hcalls⟩, hr.1⟩
    refine ⟨⟨by rw [hread]; rfl, hrest, fun hbig => ?_⟩, hr.1⟩
    -- a read that went well was of a size within the limit
    simp [Stream.readServed, hbig] at hread
  · rintro o m₁ ⟨rfl, ⟨rest, hR₁⟩, hcalls⟩
    refine (hs.close rest m₁.base hR₁).mono (fun _ _ hcl => ⟨?_, fun hbig => ?_⟩)
      fun g _ hcl => ⟨?_, fun hbig => ?_⟩
    · rw [hcl, Stream.keptOutcome_none]
    · simp [hcalls hbig]
    · rw [hcl, Stream.keptOutcome_some]
    · simp [hcalls hbig]

end Served

end Metered

/-! ### Streams in memory -/

namespace Console.Script

variable {σ : Type} [Rigged σ]

/-- What the stream of handle `h` has left, when it is a stream in memory of size `size` that
answers no scripted faults. -/
def Holds (h size : Nat) (rest : Bytes) (st : σ) : Prop :=
  ∃ ms : MemStream, (Rigged.rig st).streams[h]? = some ms ∧ ms.rest = rest ∧ ms.size = size ∧
    ms.scripted = false

theorem ends_stream {h : Nat} {st : σ} {Q : MemStream → σ → Prop} {E : Failure → σ → Prop} :
    Ends (stream h : ScriptM σ MemStream) st Q E ↔
      match (Rigged.rig st).streams[h]? with
      | some ms => Q ms st
      | none => E (Failure.other "no such stream") st := by
  unfold stream rig
  simp only [Ends.bind_iff, Ends.get_iff, Ends.pure_iff]
  cases (Rigged.rig st).streams[h]? <;> rfl

theorem ends_setStream {h : Nat} {f : MemStream → MemStream} {st : σ} {Q : Unit → σ → Prop}
    {E : Failure → σ → Prop} :
    Ends (setStream h f : ScriptM σ Unit) st Q E ↔
      Q () (Rigged.setRig st
        { Rigged.rig st with streams := (Rigged.rig st).streams.modify h f }) :=
  Iff.rfl

/-- A stream in memory serves its bytes, when setting the rig of a state and reading it back
gives the rig set. -/
theorem streams_serves (hrig : ∀ (st : σ) (r : Rig), Rigged.rig (Rigged.setRig st r) = r)
    (h size : Nat) :
    Stream.Serves (streams : StreamStore (ScriptM σ)) h size none (Holds h size) where
  size := by
    rintro rest st ⟨ms, hms, hrest, hsize, hscr⟩
    simp only [streams, Ends.bind_iff, ends_stream, hms, hscr]
    exact ⟨hsize, ms, hms, hrest, hsize, hscr⟩
  read := by
    rintro rest st n ⟨ms, hms, rfl, hsize, hscr⟩ hn
    simp only [streams, Ends.bind_iff, ends_stream, hms, hscr, Bool.false_eq_true, if_false]
    split
    · next hemp => exact ⟨List.isEmpty_iff.1 hemp, ms, hms, rfl, hsize, hscr⟩
    · next hne =>
      rw [Ends.bind_iff, ends_setStream, Ends.pure_iff]
      refine ⟨by simp_all [List.take_eq_nil_iff]; omega, List.length_take_le _ _, ms.rest.drop n,
        (List.take_append_drop n ms.rest).symm, { ms with rest := ms.rest.drop n }, ?_, rfl, hsize,
        hscr⟩
      rw [hrig]
      simp [hms]
  close := by
    rintro rest st ⟨ms, hms, hrest, hsize, hscr⟩
    simp only [streams, Ends.bind_iff, ends_stream, hms, hscr, Bool.false_eq_true, if_false,
      ends_setStream]

end Console.Script

/-! ### The read-once machine -/

/-- **A stream value is read once.** Whatever the stream does, the first call on an unread value
settles it with an outcome `o`: the stream is asked only its size and bytes, and only by a read,
then closed once; a first read answers `o`, a first close keeps `stream closed`; and from then
on every call answers from `o` and changes nothing. When the stream reports `size` bytes and
serves `data`, the first read keeps what `readServed` says, spoiled by a failure to close, and a
size above the limit is all that is asked of the stream before it is closed. -/
theorem stream_value_read_once {σ : Type} :
    (∀ (s : StreamStore (EntityM σ)) (m : Metered σ) (r : StreamRef) (h : Nat) (c : ValueCall),
      m.ledger.values[r.handle]? = some (h, .unread) →
      Ends (c.answer (Metered.streams s) r) m
        (fun a m₁ => ∃ o pre,
          m₁.ledger = ⟨m.ledger.values.set r.handle (h, .settled o),
            m.ledger.calls ++ pre ++ [.close r.handle]⟩ ∧
          (∀ x ∈ pre, x = .size r.handle ∨ x = .read r.handle) ∧
          (c = .materialize → a = .read o) ∧
          (c = .close → pre = [] ∧ o = .error (.bare .streamClosed)) ∧
          ∀ cs : List ValueCall, Ends (cs.mapM (·.answer (Metered.streams s) r)) m₁
            (fun as m₂ => m₂ = m₁ ∧ as = cs.map (ValueCall.settledAnswer o)) fun _ _ => False)
        fun _ _ => False) ∧
    ∀ (s : StreamStore (EntityM σ)) (m : Metered σ) (r : StreamRef) (h size : Nat) (data : Bytes)
      (closing : Option Failure) (R : Bytes → σ → Prop),
      m.ledger.values[r.handle]? = some (h, .unread) → Stream.Serves s h size closing R →
      R data m.base →
      Ends (ValueCall.materialize.answer (Metered.streams s) r) m
        (fun a m₁ =>
          a = .read (Stream.keptOutcome (Stream.readServed r.encoding size data) closing) ∧
          (Stream.maxSize < size →
            m₁.ledger.calls = m.ledger.calls ++ [.size r.handle, .close r.handle]))
        fun _ _ => False := by
  refine ⟨fun s m r h c hv => ?_, fun s m r h size data closing R hv hs hR =>
    Metered.materialize_serves hs hv hR⟩
  -- once settled, the value answers every later call from what it kept, and nothing changes
  have hlater : ∀ o pre (m₁ : Metered σ), m₁.ledger = ⟨m.ledger.values.set r.handle (h, .settled o),
      m.ledger.calls ++ pre ++ [.close r.handle]⟩ → ∀ cs : List ValueCall,
      Ends (cs.mapM (·.answer (Metered.streams s) r)) m₁
        (fun as m₂ => m₂ = m₁ ∧ as = cs.map (ValueCall.settledAnswer o)) fun _ _ => False := by
    intro o pre m₁ hm₁ cs
    obtain ⟨hlen, -⟩ := List.getElem?_eq_some_iff.1 hv
    refine Metered.answers_settled (h := h) ?_ cs
    rw [hm₁]
    exact List.getElem?_set_self hlen
  cases c with
  | materialize =>
    refine (Metered.materialize_unread hv).mono (fun a m₁ ⟨o, pre, hm₁, hpre, ha⟩ => ?_)
      fun _ _ h => h
    exact ⟨o, pre, hm₁, fun x hx => StreamCall.eq_size_or_read (hpre x hx).1 (hpre x hx).2,
      fun _ => ha, fun hc => (by cases hc), hlater o pre m₁ hm₁⟩
  | close =>
    refine (Metered.close_unread hv).mono (fun _ m₁ hm₁ => ?_) fun _ _ h => h
    have hm₁' : m₁.ledger =
        ⟨m.ledger.values.set r.handle (h, .settled (.error (.bare .streamClosed))),
          m.ledger.calls ++ [] ++ [.close r.handle]⟩ := by
      rw [hm₁, List.append_nil]
    exact ⟨_, [], hm₁', by simp, fun hc => (by cases hc), fun _ => ⟨rfl, rfl⟩, hlater _ [] m₁ hm₁'⟩

/-- A stream in memory with no bytes that reports five: its first read fails at the end of the
stream, and is no inconsistency. -/
theorem empty_stream_read_fails_at_end :
    (⟨{ props := [], limit := 64, sizes := [], registry := [], cache := NameCache.empty,
          rig := ⟨[], [], [⟨[], 5, false, .unread, false⟩]⟩ }, ⟨[(0, .unread)], []⟩⟩ :
        Metered Console.PropBench).ledger.values[0]? = some (0, .unread) ∧
      Ends (ValueCall.materialize.answer (Metered.streams Console.Script.streams) ⟨0, .binary⟩)
        (⟨{ props := [], limit := 64, sizes := [], registry := [], cache := NameCache.empty,
            rig := ⟨[], [], [⟨[], 5, false, .unread, false⟩]⟩ }, ⟨[(0, .unread)], []⟩⟩ :
          Metered Console.PropBench)
        (fun a _ => a = .read (.error (Failure.other "failed to read property stream: EOF")))
        fun _ _ => False := by
  refine ⟨rfl, (stream_value_read_once.2 Console.Script.streams _ ⟨0, .binary⟩ 0 5 [] none
    (Console.Script.Holds 0 5) rfl (Console.Script.streams_serves (fun _ _ => rfl) 0 5)
    ⟨_, rfl, rfl, rfl, rfl⟩).mono (fun a _ h => ?_) fun _ _ h => h⟩
  rw [h.1]
  rfl

end MailStore
