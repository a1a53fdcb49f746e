import Mathlib
import MailStore.Proofs.Ends

/-!
# A record of the calls made to outside code

The library reaches its store through interfaces whose answers it does not control: an object
that gives properties, a resolver of names. To say which calls a computation makes on such an
interface, and in what order, the state carries a record beside it (`Traced`): a recorded call is
written down with its arguments and its outcome, and everything else runs on the base state as
it would without the record.

`RunsAs P x y` relates a computation `x` over the traced state to a computation `y` over the base
state: from every state `x` ends as `y` does on the base, and it adds to the record only calls
that `P` allows. With `P` false, `x` records nothing; with `P` true, `x` is `y` with a record on
the side, so whatever is proved of the record and the outcome of `x` holds of the outcome of `y`.
There is one rule for each way of building a program.

## Main statements

* `Traced.ends_lift`, `Traced.ends_call`: how an unrecorded and a recorded call end.
* `RunsAs.bind`, `RunsAs.tryCatch`, `RunsAs.mapM`: `RunsAs` through a program.
* `RunsAs.ends`, `RunsAs.ends_quiet`: how `x` ends, from how `y` ends on the base state.
-/

namespace MailStore

variable {ε σ κ α : Type}

/-! ### A record of outside calls -/

/-- A state with a record of the calls made to code outside the library beside it. -/
structure Traced (σ κ : Type) where
  /-- The state of the program and of the outside code. -/
  base : σ
  /-- The calls made, each with its outcome, oldest first. -/
  calls : List κ

namespace Traced

/-- Runs a computation on the base state and records nothing. -/
def lift (x : ExceptT ε (StateM σ) α) : ExceptT ε (StateM (Traced σ κ)) α :=
  ExceptT.mk fun t => let (r, b) := x.run.run t.base; (r, { t with base := b })

/-- Runs a call to outside code on the base state and records it with its outcome. -/
def call (entry : Except ε α → κ) (x : ExceptT ε (StateM σ) α) :
    ExceptT ε (StateM (Traced σ κ)) α :=
  ExceptT.mk fun t => let (r, b) := x.run.run t.base; (r, ⟨b, t.calls ++ [entry r]⟩)

variable {t : Traced σ κ} {Q : α → Traced σ κ → Prop} {E : ε → Traced σ κ → Prop}

theorem run_lift (x : ExceptT ε (StateM σ) α) (t : Traced σ κ) :
    (lift x).run.run t = ((x.run.run t.base).1, ⟨(x.run.run t.base).2, t.calls⟩) := rfl

theorem run_call (entry : Except ε α → κ) (x : ExceptT ε (StateM σ) α) (t : Traced σ κ) :
    (call entry x).run.run t =
      ((x.run.run t.base).1, ⟨(x.run.run t.base).2, t.calls ++ [entry (x.run.run t.base).1]⟩) :=
  rfl

@[simp]
theorem ends_lift {x : ExceptT ε (StateM σ) α} :
    Ends (lift x) t Q E ↔
      Ends x t.base (fun a b => Q a ⟨b, t.calls⟩) fun f b => E f ⟨b, t.calls⟩ := by
  unfold Ends
  rw [run_lift]
  rcases x.run.run t.base with ⟨_ | a, b⟩ <;> rfl

@[simp]
theorem ends_call {entry : Except ε α → κ} {x : ExceptT ε (StateM σ) α} :
    Ends (call entry x) t Q E ↔
      Ends x t.base (fun a b => Q a ⟨b, t.calls ++ [entry (.ok a)]⟩)
        fun f b => E f ⟨b, t.calls ++ [entry (.error f)]⟩ := by
  unfold Ends
  rw [run_call]
  rcases x.run.run t.base with ⟨_ | a, b⟩ <;> rfl

end Traced

/-- How a run ends, from what each ending it can have satisfies. -/
theorem Ends.intro {x : ExceptT ε (StateM σ) α} {s : σ} {Q : α → σ → Prop} {E : ε → σ → Prop}
    (hq : ∀ a s', x.run.run s = (.ok a, s') → Q a s')
    (he : ∀ f s', x.run.run s = (.error f, s') → E f s') : Ends x s Q E := by
  unfold Ends
  rcases h : x.run.run s with ⟨_ | a, s'⟩
  · exact he _ _ h
  · exact hq _ _ h

/-! ### Running as a computation on the base state -/

/-- `x` runs as `y` does on the base state, and adds to the record only calls `P` allows. -/
def RunsAs (P : κ → Prop) (x : ExceptT ε (StateM (Traced σ κ)) α) (y : ExceptT ε (StateM σ) α) :
    Prop :=
  ∀ t, ∃ more, (∀ k ∈ more, P k) ∧
    x.run.run t = ((y.run.run t.base).1, ⟨(y.run.run t.base).2, t.calls ++ more⟩)

namespace RunsAs

variable {β : Type} {P : κ → Prop}

theorem lift (y : ExceptT ε (StateM σ) α) : RunsAs P (Traced.lift y) y :=
  fun t => ⟨[], by simp, by rw [Traced.run_lift, List.append_nil]⟩

theorem call {entry : Except ε α → κ} (h : ∀ o, P (entry o)) (y : ExceptT ε (StateM σ) α) :
    RunsAs P (Traced.call entry y) y :=
  fun t => ⟨[entry (y.run.run t.base).1], by simpa using h _, Traced.run_call entry y t⟩

theorem pure (a : α) : RunsAs P (Pure.pure a : ExceptT ε (StateM (Traced σ κ)) α) (Pure.pure a) :=
  fun t => ⟨[], by simp, by rw [List.append_nil]; rfl⟩

theorem throw (e : ε) :
    RunsAs P (MonadExcept.throw e : ExceptT ε (StateM (Traced σ κ)) α) (MonadExcept.throw e) :=
  fun t => ⟨[], by simp, by rw [List.append_nil]; rfl⟩

/-- A failure runs as the same failure, whatever would have followed it. -/
theorem throw_bind (e : ε) {f : β → ExceptT ε (StateM (Traced σ κ)) α}
    {g : β → ExceptT ε (StateM σ) α} :
    RunsAs P (MonadExcept.throw e >>= f) (MonadExcept.throw e >>= g) :=
  fun _ => ⟨[], by simp, by rw [List.append_nil]; rfl⟩

theorem bind {x : ExceptT ε (StateM (Traced σ κ)) β} {y : ExceptT ε (StateM σ) β}
    {f : β → ExceptT ε (StateM (Traced σ κ)) α} {g : β → ExceptT ε (StateM σ) α}
    (hx : RunsAs P x y) (hf : ∀ b, RunsAs P (f b) (g b)) : RunsAs P (x >>= f) (y >>= g) := by
  intro t
  obtain ⟨m₁, hm₁, hrun⟩ := hx t
  rw [ExceptT.run_bind, StateT.run_bind, hrun, ExceptT.run_bind, StateT.run_bind]
  rcases y.run.run t.base with ⟨_ | b, b₁⟩
  · exact ⟨m₁, hm₁, rfl⟩
  · obtain ⟨m₂, hm₂, hrun₂⟩ := hf b ⟨b₁, t.calls ++ m₁⟩
    refine ⟨m₁ ++ m₂, fun k hk => (List.mem_append.mp hk).elim (hm₁ k) (hm₂ k), ?_⟩
    change (f b).run.run ⟨b₁, t.calls ++ m₁⟩ = _
    rw [hrun₂, List.append_assoc]
    rfl

theorem tryCatch {x : ExceptT ε (StateM (Traced σ κ)) α} {y : ExceptT ε (StateM σ) α}
    {h : ε → ExceptT ε (StateM (Traced σ κ)) α} {k : ε → ExceptT ε (StateM σ) α}
    (hx : RunsAs P x y) (hh : ∀ e, RunsAs P (h e) (k e)) :
    RunsAs P (MonadExcept.tryCatch x h) (MonadExcept.tryCatch y k) := by
  intro t
  obtain ⟨m₁, hm₁, hrun⟩ := hx t
  rw [ExceptT.run_tryCatch, StateT.run_bind, hrun, ExceptT.run_tryCatch, StateT.run_bind]
  rcases y.run.run t.base with ⟨e | a, b₁⟩
  · obtain ⟨m₂, hm₂, hrun₂⟩ := hh e ⟨b₁, t.calls ++ m₁⟩
    refine ⟨m₁ ++ m₂, fun k hk => (List.mem_append.mp hk).elim (hm₁ k) (hm₂ k), ?_⟩
    change (h e).run.run ⟨b₁, t.calls ++ m₁⟩ = _
    rw [hrun₂, List.append_assoc]
    rfl
  · exact ⟨m₁, hm₁, rfl⟩

theorem mapM {f : β → ExceptT ε (StateM (Traced σ κ)) α} {g : β → ExceptT ε (StateM σ) α}
    (h : ∀ b, RunsAs P (f b) (g b)) : ∀ l : List β, RunsAs P (l.mapM f) (l.mapM g)
  | [] => by simpa only [List.mapM_nil] using RunsAs.pure []
  | b :: l => by
    simp only [List.mapM_cons]
    exact (h b).bind fun a => (mapM h l).bind fun as => RunsAs.pure (a :: as)

theorem mono {Q : κ → Prop} {x : ExceptT ε (StateM (Traced σ κ)) α} {y : ExceptT ε (StateM σ) α}
    (hx : RunsAs P x y) (hPQ : ∀ k, P k → Q k) : RunsAs Q x y := fun t => by
  obtain ⟨more, hm, hrun⟩ := hx t
  exact ⟨more, fun k hk => hPQ k (hm k hk), hrun⟩

variable {x : ExceptT ε (StateM (Traced σ κ)) α} {y : ExceptT ε (StateM σ) α} {t : Traced σ κ}
  {Q : α → Traced σ κ → Prop} {E : ε → Traced σ κ → Prop}

/-- How `x` ends, from how `y` ends on the base state with any calls `P` allows recorded. -/
theorem ends (hx : RunsAs P x y)
    (h : Ends y t.base (fun a b => ∀ more, (∀ k ∈ more, P k) → Q a ⟨b, t.calls ++ more⟩)
      fun f b => ∀ more, (∀ k ∈ more, P k) → E f ⟨b, t.calls ++ more⟩) : Ends x t Q E := by
  obtain ⟨more, hm, hrun⟩ := hx t
  unfold Ends at h ⊢
  rw [hrun]
  rcases hy : y.run.run t.base with ⟨_ | a, b⟩ <;> rw [hy] at h
  · exact h more hm
  · exact h more hm

/-- How `x` ends when it records nothing, from how `y` ends on the base state. -/
theorem ends_quiet (hx : RunsAs (fun _ => False) x y)
    (h : Ends y t.base (fun a b => Q a ⟨b, t.calls⟩) fun f b => E f ⟨b, t.calls⟩) : Ends x t Q E := by
  refine hx.ends (h.mono (fun a b hq more hm => ?_) fun f b he more hm => ?_)
  · rw [List.eq_nil_iff_forall_not_mem.mpr hm, List.append_nil]
    exact hq
  · rw [List.eq_nil_iff_forall_not_mem.mpr hm, List.append_nil]
    exact he

end RunsAs

end MailStore
