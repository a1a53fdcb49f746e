import Mathlib
import MailStore.Proofs.Frame

/-!
# A ledger of the streams a session opens

A property too large for a bulk fetch comes back as a stream value: a stream that the store
opened, together with what is known of the value, either that it was not read yet or the
outcome every read now gives. The stream belongs to the store; the memory of the outcome
belongs to the session. `Driver.metered` puts a session over any store in that shape: it keeps
the session's stream values in a ledger beside the store's own state, each with the store's
handle of its stream, and writes down every call the session makes on a stream (asking its size,
reading from it, closing it), in order. Every other operation goes to the store unchanged, so
the ledger stays as it is through all of them (`Driver.metered_quiet`).

What is proved about streams is read off the ledger: the stream of a value was closed once when
the calls on it end with their only close (`ClosedOnce`).

## Main statements

* `Driver.metered_quiet`: the operations of a metered driver other than those on streams leave
  the ledger alone.
* `ClosedOnce.append_other`, `closedOnce_append_close`: closing is settled by the calls on one
  stream; calls on other streams change nothing about it.
-/

namespace MailStore

variable {σ α : Type}

/-- A call the session makes on the stream behind one of its stream values. -/
inductive StreamCall where
  /-- Asking the stream's size. -/
  | size (i : Nat)
  /-- Reading from the stream. -/
  | read (i : Nat)
  /-- Closing the stream. -/
  | close (i : Nat)
deriving DecidableEq, Repr

/-- The stream value a call is made for. -/
def StreamCall.value : StreamCall → Nat
  | .size i | .read i | .close i => i

/-- The session's stream values and the calls made on their streams. -/
structure StreamLedger where
  /-- Each stream value, by number: the store's handle of its stream, and what is known of
  the value. -/
  values : List (Nat × StreamState)
  /-- The calls made on streams, oldest first. -/
  calls : List StreamCall

/-- A state with the session's ledger of streams beside it. -/
structure Metered (σ : Type) where
  /-- The state of the session and of the store. -/
  base : σ
  /-- The stream values and the calls on their streams. -/
  ledger : StreamLedger

instance [EntityHost σ] : EntityHost (Metered σ) :=
  ⟨fun m => EntityHost.entities m.base, fun m e => { m with base := EntityHost.setEntities m.base e }⟩

namespace Metered

/-- Runs an operation on the state of the session and of the store. -/
def lift (x : EntityM σ α) : EntityM (Metered σ) α :=
  ExceptT.mk fun m => let (r, s) := x.run.run m.base; (r, { m with base := s })

/-- Writes down a call on a stream. -/
def note (c : StreamCall) : EntityM (Metered σ) Unit :=
  modify fun m => { m with ledger := { m.ledger with calls := m.ledger.calls ++ [c] } }

/-- The stream value with a number: the store's handle and what is known of it. -/
def value (i : Nat) : EntityM (Metered σ) (Nat × StreamState) := do
  match (← get).ledger.values[i]? with
  | some v => pure v
  | none => throw (Failure.other "no such stream")

/-- Makes a stream value of a stream the store opened; gives its number. -/
def addValue (h : Nat) : EntityM (Metered σ) Nat := do
  let m ← get
  set { m with ledger := { m.ledger with values := m.ledger.values ++ [(h, StreamState.unread)] } }
  pure m.ledger.values.length

/-- The stream values of a session over the streams of a store: each call on a stream is
written down and passed to the store, and what is known of each value is kept in the ledger. -/
def streams (s : StreamStore (EntityM σ)) : StreamStore (EntityM (Metered σ)) where
  size i := do
    let (h, _) ← value i
    note (.size i)
    lift (s.size h)
  read i n := do
    let (h, _) ← value i
    note (.read i)
    lift (s.read h n)
  close i := do
    let (h, _) ← value i
    note (.close i)
    lift (s.close h)
  lookup i := do return (← value i).2
  record i state := modify fun m =>
    { m with ledger := { m.ledger with values := m.ledger.values.modify i fun v => (v.1, state) } }

end Metered

/-- A session over the store of a driver, with its stream values kept in a ledger. -/
def Driver.metered (d : Driver (EntityM σ)) : Driver (EntityM (Metered σ)) where
  storesTable := Metered.lift d.storesTable
  openStore id := Metered.lift (d.openStore id)
  getProps h tags := Metered.lift (d.getProps h tags)
  openStream h t := do Metered.addValue (← Metered.lift (d.openStream h t))
  streams := Metered.streams d.streams
  idsOfNames h names := Metered.lift (d.idsOfNames h names)
  namesOfIds h tags := Metered.lift (d.namesOfIds h tags)
  openFolder h id := Metered.lift (d.openFolder h id)
  openMessage h id := Metered.lift (d.openMessage h id)
  receiveFolder h := Metered.lift (d.receiveFolder h)
  hierarchyTable h := Metered.lift (d.hierarchyTable h)
  contentsTable h := Metered.lift (d.contentsTable h)
  read t req := Metered.lift (d.read t req)
  subscribe t l := Metered.lift (d.subscribe t l)
  unsubscribe w := Metered.lift (d.unsubscribe w)

/-! ### Running a metered operation -/

namespace Metered

variable {m : Metered σ} {Q : α → Metered σ → Prop} {E : Failure → Metered σ → Prop}

theorem run_lift (x : EntityM σ α) (m : Metered σ) :
    (lift x).run.run m = ((x.run.run m.base).1, { m with base := (x.run.run m.base).2 }) := rfl

@[simp]
theorem ends_lift {x : EntityM σ α} :
    Ends (lift x) m Q E ↔
      Ends x m.base (fun a s => Q a { m with base := s }) fun f s => E f { m with base := s } := by
  unfold Ends
  rw [run_lift]
  rcases x.run.run m.base with ⟨_ | a, s⟩ <;> rfl

/-- How an operation of the store ends, when either way it ends does. -/
theorem ends_lift_of {x : EntityM σ α} (hq : ∀ a s, Q a { m with base := s })
    (he : ∀ f s, E f { m with base := s }) : Ends (lift x) m Q E := by
  unfold Ends
  rw [run_lift]
  rcases x.run.run m.base with ⟨_ | a, s⟩
  · exact he _ _
  · exact hq _ _

/-- An operation of the store leaves the ledger alone. -/
theorem lift_stays (x : EntityM σ α) : Stays Metered.ledger (lift x) := by
  intro v m hm
  exact ends_lift_of (fun _ _ => hm) fun _ _ => hm

@[simp]
theorem ends_note {c : StreamCall} {Q : Unit → Metered σ → Prop} :
    Ends (note c) m Q E ↔
      Q () { m with ledger := { m.ledger with calls := m.ledger.calls ++ [c] } } := Iff.rfl

@[simp]
theorem ends_value {i : Nat} {Q : Nat × StreamState → Metered σ → Prop} :
    Ends (value i) m Q E ↔
      match m.ledger.values[i]? with
      | some v => Q v m
      | none => E (Failure.other "no such stream") m := by
  unfold value
  simp only [Ends.bind_iff, Ends.get_iff]
  split <;> rfl

@[simp]
theorem ends_addValue {h : Nat} {Q : Nat → Metered σ → Prop} :
    Ends (addValue h) m Q E ↔
      Q m.ledger.values.length
        { m with ledger := { m.ledger with values := m.ledger.values ++ [(h, .unread)] } } := by
  unfold Ends addValue
  rfl

end Metered

@[simp]
theorem Metered.ledger_setEntities [EntityHost σ] (m : Metered σ) (e : Entities) :
    (EntityHost.setEntities m e).ledger = m.ledger := rfl

/-- The ledger is a view the entities have no part in. -/
theorem Metered.entityFree [EntityHost σ] : EntityFree (Metered.ledger : Metered σ → StreamLedger) :=
  Metered.ledger_setEntities

/-- **The metered driver is quiet**: its operations other than those on streams leave the
ledger alone. -/
theorem Driver.metered_quiet [EntityHost σ] (d : Driver (EntityM σ)) :
    d.metered.Quiet Metered.ledger :=
  ⟨⟨⟨Metered.lift_stays _, fun _ => Metered.lift_stays _, fun _ _ => Metered.lift_stays _,
        fun _ _ => Metered.lift_stays _, fun _ _ => Metered.lift_stays _,
        fun _ => Metered.lift_stays _, fun _ => Metered.lift_stays _,
        fun _ => Metered.lift_stays _⟩,
      fun _ _ => Metered.lift_stays _, fun _ _ => Metered.lift_stays _,
      fun _ => Metered.lift_stays _⟩,
    fun _ _ => Metered.lift_stays _, fun _ _ => Metered.lift_stays _⟩

/-! ### Closing once -/

/-- The stream of value `i` was closed exactly once among the calls, and nothing was asked of it
after that. -/
def ClosedOnce (calls : List StreamCall) (i : Nat) : Prop :=
  ∃ r, calls.filter (fun c => c.value = i) = r ++ [.close i] ∧ StreamCall.close i ∉ r

/-- Calls on other streams change nothing about whether a stream was closed once. -/
theorem ClosedOnce.append_other {calls more : List StreamCall} {i : Nat} (h : ClosedOnce calls i)
    (hmore : ∀ c ∈ more, c.value ≠ i) : ClosedOnce (calls ++ more) i := by
  obtain ⟨r, hr, hnot⟩ := h
  refine ⟨r, ?_, hnot⟩
  rw [List.filter_append, hr, List.filter_eq_nil_iff.2 fun c hc => by simpa using hmore c hc,
    List.append_nil]

/-- A stream that no call touched yet is closed once by calls on it that end with their only
close. -/
theorem closedOnce_append_close {calls r : List StreamCall} {i : Nat}
    (hnone : ∀ c ∈ calls, c.value ≠ i) (hr : ∀ c ∈ r, c.value = i ∧ c ≠ .close i) :
    ClosedOnce (calls ++ (r ++ [.close i])) i := by
  refine ⟨r, ?_, fun hc => (hr _ hc).2 rfl⟩
  rw [List.filter_append, List.filter_eq_nil_iff.2 fun c hc => by simpa using hnone c hc,
    List.nil_append, List.filter_eq_self.2 fun c hc => ?_]
  rcases List.mem_append.1 hc with hc | hc
  · simpa using (hr c hc).1
  · simp [List.mem_singleton.1 hc, StreamCall.value]

end MailStore
