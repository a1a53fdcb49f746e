import Mathlib
import MailStore.Entity.Query

/-!
# How an entity operation ends

An operation on entities runs in `ExceptT ε (StateM σ)`: from a state it returns a value or
fails, and either way it leaves a new state. `Ends x s Q E` says how `x` ends when it starts in
`s`: in a state where `Q a` holds when it returns `a`, and in one where `E f` holds when it
fails with `f`. There is one lemma for each way of building a program (`Ends.bind_iff`,
`Ends.tryCatch_iff`, ...), so what an operation does follows from what the operations it calls
do, without running it.

`Stays π x` says that `x` leaves a view `π` of the state as it is, whether it returns or fails.
The views that matter are the parts of the entities that an invariant reads: an operation that
only counts, or opens a store, stays in every such view.

The store is reached through a driver whose operations are outside the library. The entities
are the library's own: a driver that stays in a view of the entities (`Driver.Stays`) is all
that the laws about the entities assume of it.

## Main statements

* `Ends.bind_iff`, `Ends.tryCatch_iff`, `Ends.map_iff`: `Ends` through a program.
* `Ends.mapM`: a list of calls that each keep an invariant keeps it, and each answer is
  related to its argument.
* `Ends.forM_of_step`, `Ends.foldlM_of_step`: a loop whose every turn returns, carrying an
  invariant indexed by the members done, returns with it over the whole list.
* `Keeps.bind`, `Keeps.tryCatch`, `Keeps.mapM`, `Keeps.forM`: a program built from operations
  that keep an invariant keeps it; `Stays.bind` and its kin do the same for a view.
-/

namespace MailStore

variable {ε σ α β γ : Type}

/-- How `x` ends when it starts in `s`: `Q a s'` when it returns `a` in `s'`, and `E f s'` when
it fails with `f` in `s'`. -/
def Ends (x : ExceptT ε (StateM σ) α) (s : σ) (Q : α → σ → Prop) (E : ε → σ → Prop) : Prop :=
  match x.run.run s with
  | (.ok a, s') => Q a s'
  | (.error f, s') => E f s'

namespace Ends

variable {x : ExceptT ε (StateM σ) α} {s : σ} {Q Q' : α → σ → Prop} {E E' : ε → σ → Prop}

@[simp]
theorem pure_iff {a : α} : Ends (pure a : ExceptT ε (StateM σ) α) s Q E ↔ Q a s := Iff.rfl

@[simp]
theorem bind_iff {x : ExceptT ε (StateM σ) β} {f : β → ExceptT ε (StateM σ) α} :
    Ends (x >>= f) s Q E ↔ Ends x s (fun b s' => Ends (f b) s' Q E) E := by
  unfold Ends
  rw [ExceptT.run_bind, StateT.run_bind]
  rcases x.run.run s with ⟨_ | b, s₁⟩ <;> rfl

@[simp]
theorem map_iff {x : ExceptT ε (StateM σ) β} {f : β → α} :
    Ends (f <$> x) s Q E ↔ Ends x s (fun b s' => Q (f b) s') E := by
  unfold Ends
  rw [ExceptT.run_map, StateT.run_map]
  rcases x.run.run s with ⟨_ | b, s₁⟩ <;> rfl

@[simp]
theorem throw_iff {f : ε} : Ends (throw f : ExceptT ε (StateM σ) α) s Q E ↔ E f s := Iff.rfl

@[simp]
theorem tryCatch_iff {h : ε → ExceptT ε (StateM σ) α} :
    Ends (tryCatch x h) s Q E ↔ Ends x s Q (fun f s' => Ends (h f) s' Q E) := by
  unfold Ends
  rw [ExceptT.run_tryCatch, StateT.run_bind]
  rcases x.run.run s with ⟨_ | b, s₁⟩ <;> rfl

@[simp]
theorem get_iff {Q : σ → σ → Prop} : Ends (get : ExceptT ε (StateM σ) σ) s Q E ↔ Q s s :=
  Iff.rfl

@[simp]
theorem modifyGet_iff {f : σ → α × σ} :
    Ends (MonadState.modifyGet f : ExceptT ε (StateM σ) α) s Q E ↔ Q (f s).1 (f s).2 := Iff.rfl

@[simp]
theorem ofExcept_iff {r : Except ε α} :
    Ends (MonadExcept.ofExcept r : ExceptT ε (StateM σ) α) s Q E ↔
      match r with
      | .ok a => Q a s
      | .error f => E f s := by
  cases r <;> rfl

/-- A weaker description of how `x` ends follows from a stronger one. -/
theorem mono (h : Ends x s Q E) (hq : ∀ a s', Q a s' → Q' a s') (he : ∀ f s', E f s' → E' f s') :
    Ends x s Q' E' := by
  unfold Ends at *
  rcases hx : x.run.run s with ⟨_ | a, s'⟩ <;> rw [hx] at h
  · exact he _ _ h
  · exact hq _ _ h

/-- Two descriptions of how `x` ends hold together. -/
theorem and {Q₁ Q₂ : α → σ → Prop} {E₁ E₂ : ε → σ → Prop} (h₁ : Ends x s Q₁ E₁)
    (h₂ : Ends x s Q₂ E₂) : Ends x s (fun a s' => Q₁ a s' ∧ Q₂ a s') fun f s' => E₁ f s' ∧ E₂ f s' := by
  unfold Ends at *
  rcases hx : x.run.run s with ⟨_ | a, s'⟩ <;> rw [hx] at h₁ h₂
  · exact ⟨h₁, h₂⟩
  · exact ⟨h₁, h₂⟩

/-- What `x` leaves in the state, whether it returns or fails. -/
theorem state {P : σ → Prop} (h : Ends x s (fun _ s' => P s') fun _ s' => P s') :
    P (x.run.run s).2 := by
  unfold Ends at h
  rcases hx : x.run.run s with ⟨_ | a, s'⟩ <;> rw [hx] at h <;> exact h

/-- What `x` leaves in the state, told apart by whether it returns. -/
theorem state_isOk {P : Bool → σ → Prop} (h : Ends x s (fun _ s' => P true s') fun _ s' => P false s') :
    P (x.run.run s).1.isOk (x.run.run s).2 := by
  unfold Ends at h
  rcases hx : x.run.run s with ⟨_ | a, s'⟩ <;> rw [hx] at h <;> exact h

/-- What holds when `x` returns, of the value it returns and the state it leaves. -/
theorem ok {a : α} (h : Ends x s Q E) (ha : (x.run.run s).1 = .ok a) : Q a (x.run.run s).2 := by
  unfold Ends at h
  rcases hx : x.run.run s with ⟨_ | b, s'⟩ <;> rw [hx] at h ha
  · cases ha
  · cases ha
    exact h

/-- How `x` ends, when where its run ends is known. -/
theorem iff_of_run_ok {a : α} {s' : σ} (h : x.run.run s = (.ok a, s')) : Ends x s Q E ↔ Q a s' := by
  unfold Ends
  rw [h]

/-- Two programs that run alike from two states end alike. -/
theorem congr_run {y : ExceptT ε (StateM σ) α} {s₁ : σ} (h : x.run.run s = y.run.run s₁) :
    Ends x s Q E ↔ Ends y s₁ Q E := by
  unfold Ends
  rw [h]

/-- A run that cannot fail returns, with a value and a state its description allows. -/
theorem exists_run_ok (h : Ends x s Q fun _ _ => False) :
    ∃ a s', x.run.run s = (.ok a, s') ∧ Q a s' := by
  unfold Ends at h
  rcases hx : x.run.run s with ⟨_ | a, s'⟩ <;> rw [hx] at h
  · exact h.elim
  · exact ⟨a, s', rfl, h⟩

/-- A run whose value and state a description of its ends pins down. -/
theorem run_eq {a : α} {s' : σ} (h : Ends x s (fun b s₁ => b = a ∧ s₁ = s') fun _ _ => False) :
    x.run.run s = (.ok a, s') := by
  unfold Ends at h
  rcases hx : x.run.run s with ⟨_ | b, s₁⟩ <;> rw [hx] at h
  · exact h.elim
  · obtain ⟨rfl, rfl⟩ := h
    rfl

/-- What a run that fails in one known way gives. -/
theorem run_eq_error {e : ε} {s' : σ} (h : Ends x s (fun _ _ => False) fun f s₁ => f = e ∧ s₁ = s') :
    x.run.run s = (.error e, s') := by
  unfold Ends at h
  rcases hx : x.run.run s with ⟨f | b, s₁⟩ <;> rw [hx] at h
  · obtain ⟨rfl, rfl⟩ := h
    rfl
  · exact h.elim

/-- A step that keeps `I`, followed by what ends well from every state of `I`, ends well
when every failure in `I` does. -/
theorem bind_of_keeps {I : σ → Prop} {x : ExceptT ε (StateM σ) β} {f : β → ExceptT ε (StateM σ) α}
    (hx : ∀ s, I s → Ends x s (fun _ s' => I s') fun _ s' => I s') (hs : I s)
    (hf : ∀ b s', I s' → Ends (f b) s' Q E) (he : ∀ e s', I s' → E e s') : Ends (x >>= f) s Q E := by
  rw [bind_iff]
  exact (hx s hs).mono hf he

/-- Calls on the members of a list, each keeping an invariant `I` and relating its answer to
its argument by `R`, keep `I`, and the answers are related to the members one by one. -/
theorem mapM {I : σ → Prop} {R : β → γ → Prop} {f : β → ExceptT ε (StateM σ) γ} (l : List β)
    (h : ∀ b ∈ l, ∀ s, I s → Ends (f b) s (fun c s' => I s' ∧ R b c) fun _ s' => I s')
    (hs : I s) : Ends (l.mapM f) s (fun cs s' => I s' ∧ List.Forall₂ R l cs) fun _ s' => I s' := by
  induction l generalizing s with
  | nil => exact ⟨hs, .nil⟩
  | cons b l ih =>
    rw [List.mapM_cons, bind_iff]
    refine (h b List.mem_cons_self s hs).mono ?_ fun _ _ h => h
    rintro c s₁ ⟨hs₁, hc⟩
    rw [bind_iff]
    refine (ih (fun b hb => h b (List.mem_cons_of_mem _ hb)) hs₁).mono ?_ fun _ _ h => h
    rintro cs s₂ ⟨hs₂, hcs⟩
    exact ⟨hs₂, .cons hc hcs⟩

/-- Calls on the members of a list, each returning and carrying `P` from the members done
before it to those up to it, return and carry `P` over the whole list. -/
theorem forM_of_step (P : List β → σ → Prop) {f : β → ExceptT ε (StateM σ) PUnit} (l : List β)
    (h : ∀ b ∈ l, ∀ done s, P done s →
      Ends (f b) s (fun _ s' => P (done ++ [b]) s') fun _ _ => False)
    (hs : P [] s) : Ends (l.forM f) s (fun _ s' => P l s') fun _ _ => False := by
  -- the invariant is indexed by the members done, which the induction carries along
  suffices key : ∀ done s, P done s →
      Ends (l.forM f) s (fun _ s' => P (done ++ l) s') fun _ _ => False
    from key [] s hs
  induction l with
  | nil => simp
  | cons b l ih =>
    intro done s hs
    show Ends (f b >>= fun _ => l.forM f) s _ _
    rw [bind_iff]
    refine (h b List.mem_cons_self done s hs).mono (fun _ s₁ h₁ => ?_) fun _ _ h => h
    simpa using ih (fun b hb => h b (List.mem_cons_of_mem _ hb)) (done ++ [b]) s₁ h₁

/-- Calls on the members of a list, each carrying `P` from the members done before it to those
up to it when it returns and ending in `F` when it fails, carry `P` over the whole list or end
in `F`. -/
theorem mapM_of_step (P : List β → σ → Prop) {F : ε → σ → Prop} {f : β → ExceptT ε (StateM σ) γ}
    (l : List β) (h : ∀ b ∈ l, ∀ done s, P done s → Ends (f b) s (fun _ s' => P (done ++ [b]) s') F)
    (hs : P [] s) : Ends (l.mapM f) s (fun _ s' => P l s') F := by
  suffices key : ∀ done s, P done s → Ends (l.mapM f) s (fun _ s' => P (done ++ l) s') F
    from key [] s hs
  induction l with
  | nil => simp
  | cons b l ih =>
    intro done s hs
    rw [List.mapM_cons, bind_iff]
    refine (h b List.mem_cons_self done s hs).mono (fun _ s₁ h₁ => ?_) fun _ _ h => h
    rw [bind_iff]
    refine (ih (fun b hb => h b (List.mem_cons_of_mem _ hb)) (done ++ [b]) s₁ h₁).mono
      (fun _ _ h₂ => ?_) fun _ _ h => h
    simpa using h₂

/-- A fold whose every step returns and carries `P` from the members done before it to those up
to it returns and carries `P` over the whole list. -/
theorem foldlM_of_step (P : List β → σ → Prop) {f : γ → β → ExceptT ε (StateM σ) γ} (l : List β)
    (h : ∀ b ∈ l, ∀ done a s, P done s →
      Ends (f a b) s (fun _ s' => P (done ++ [b]) s') fun _ _ => False)
    {a : γ} (hs : P [] s) : Ends (l.foldlM f a) s (fun _ s' => P l s') fun _ _ => False := by
  suffices key : ∀ done a s, P done s →
      Ends (l.foldlM f a) s (fun _ s' => P (done ++ l) s') fun _ _ => False
    from key [] a s hs
  induction l with
  | nil => simp
  | cons b l ih =>
    intro done a s hs
    rw [List.foldlM_cons, bind_iff]
    refine (h b List.mem_cons_self done a s hs).mono (fun a₁ s₁ h₁ => ?_) fun _ _ h => h
    simpa using ih (fun b hb => h b (List.mem_cons_of_mem _ hb)) (done ++ [b]) a₁ s₁ h₁

end Ends

/-- Where `x` returns `b` in `s'`, what follows it runs from there. -/
theorem run_bind_of_ok {x : ExceptT ε (StateM σ) β} {f : β → ExceptT ε (StateM σ) α} {s s' : σ}
    {b : β} (h : x.run.run s = (.ok b, s')) : (x >>= f).run.run s = (f b).run.run s' := by
  rw [ExceptT.run_bind, StateT.run_bind, h]
  rfl

/-- `x` keeps the invariant `I`: from a state where `I` holds it ends in one where `I` holds,
whether it returns or fails. -/
def Keeps (I : σ → Prop) (x : ExceptT ε (StateM σ) α) : Prop :=
  ∀ s, I s → Ends x s (fun _ s' => I s') fun _ s' => I s'

namespace Keeps

variable {I : σ → Prop}

theorem pure {a : α} : Keeps I (Pure.pure a : ExceptT ε (StateM σ) α) := fun _ h => h

theorem throw {f : ε} : Keeps I (MonadExcept.throw f : ExceptT ε (StateM σ) α) := fun _ h => h

/-- What follows a failure never runs. -/
theorem throw_bind {f : ε} {k : γ → ExceptT ε (StateM σ) α} :
    Keeps I (MonadExcept.throw f >>= k) := fun _ h => h

theorem get : Keeps I (MonadState.get : ExceptT ε (StateM σ) σ) := fun _ h => h

theorem modifyGet {f : σ → α × σ} (h : ∀ s, I s → I (f s).2) :
    Keeps I (MonadState.modifyGet f : ExceptT ε (StateM σ) α) := h

theorem bind {x : ExceptT ε (StateM σ) γ} {f : γ → ExceptT ε (StateM σ) α} (hx : Keeps I x)
    (hf : ∀ c, Keeps I (f c)) : Keeps I (x >>= f) := by
  intro s hs
  rw [Ends.bind_iff]
  exact (hx s hs).mono (fun c s₁ h₁ => hf c s₁ h₁) fun _ _ h => h

theorem map {x : ExceptT ε (StateM σ) γ} {f : γ → α} (hx : Keeps I x) : Keeps I (f <$> x) := by
  intro s hs
  rw [Ends.map_iff]
  exact hx s hs

theorem tryCatch {x : ExceptT ε (StateM σ) α} {h : ε → ExceptT ε (StateM σ) α} (hx : Keeps I x)
    (hh : ∀ f, Keeps I (h f)) : Keeps I (MonadExcept.tryCatch x h) := by
  intro s hs
  rw [Ends.tryCatch_iff]
  exact (hx s hs).mono (fun _ _ h => h) fun f s₁ h₁ => hh f s₁ h₁

theorem mapM {f : γ → ExceptT ε (StateM σ) α} (h : ∀ c, Keeps I (f c)) (l : List γ) :
    Keeps I (l.mapM f) := by
  induction l with
  | nil => exact pure
  | cons c l ih =>
    rw [List.mapM_cons]
    exact bind (h c) fun _ => bind ih fun _ => pure

theorem forM {f : γ → ExceptT ε (StateM σ) PUnit} (h : ∀ c, Keeps I (f c)) (l : List γ) :
    Keeps I (l.forM f) := by
  induction l with
  | nil => exact pure
  | cons c l ih => exact bind (h c) fun _ => ih

theorem foldlM {f : α → γ → ExceptT ε (StateM σ) α} (h : ∀ a c, Keeps I (f a c)) (l : List γ)
    (init : α) : Keeps I (l.foldlM f init) := by
  induction l generalizing init with
  | nil => exact pure
  | cons c l ih =>
    rw [List.foldlM_cons]
    exact bind (h init c) fun a => ih a

end Keeps

/-- `x` leaves the view `π` of the state as it is, whether it returns or fails. -/
def Stays (π : σ → β) (x : ExceptT ε (StateM σ) α) : Prop :=
  ∀ v, Keeps (fun s => π s = v) x

namespace Stays

variable {π : σ → β}

/-- An invariant that reads only the view holds through what stays in the view. -/
theorem keeps {x : ExceptT ε (StateM σ) α} (h : Stays π x) (P : β → Prop) :
    Keeps (fun s => P (π s)) x := by
  intro s hs
  refine (h (π s) s rfl).mono ?_ ?_
  · intro _ s' (hs' : π s' = π s)
    simpa [hs'] using hs
  · intro _ s' (hs' : π s' = π s)
    simpa [hs'] using hs

/-- What leaves a view alone leaves alone everything the view decides. -/
theorem comp {x : ExceptT ε (StateM σ) α} (h : Stays π x) (g : β → γ) :
    Stays (fun s => g (π s)) x := by
  intro v s hs
  refine (h (π s) s rfl).mono ?_ ?_
  · intro _ s' (hs' : π s' = π s)
    simpa [hs'] using hs
  · intro _ s' (hs' : π s' = π s)
    simpa [hs'] using hs

theorem pure {a : α} : Stays π (Pure.pure a : ExceptT ε (StateM σ) α) := fun _ => Keeps.pure

theorem throw {f : ε} : Stays π (MonadExcept.throw f : ExceptT ε (StateM σ) α) := fun _ => Keeps.throw

theorem throw_bind {f : ε} {k : γ → ExceptT ε (StateM σ) α} :
    Stays π (MonadExcept.throw f >>= k) := fun _ => Keeps.throw_bind

theorem get : Stays π (MonadState.get : ExceptT ε (StateM σ) σ) := fun _ => Keeps.get

/-- A state change that keeps the view stays in it. -/
theorem modifyGet {f : σ → α × σ} (h : ∀ s, π (f s).2 = π s) :
    Stays π (MonadState.modifyGet f : ExceptT ε (StateM σ) α) :=
  fun _ => Keeps.modifyGet fun s hs => (h s).trans hs

theorem bind {x : ExceptT ε (StateM σ) γ} {f : γ → ExceptT ε (StateM σ) α} (hx : Stays π x)
    (hf : ∀ c, Stays π (f c)) : Stays π (x >>= f) := fun v => Keeps.bind (hx v) fun c => hf c v

theorem map {x : ExceptT ε (StateM σ) γ} {f : γ → α} (hx : Stays π x) : Stays π (f <$> x) :=
  fun v => Keeps.map (hx v)

theorem tryCatch {x : ExceptT ε (StateM σ) α} {h : ε → ExceptT ε (StateM σ) α} (hx : Stays π x)
    (hh : ∀ f, Stays π (h f)) : Stays π (MonadExcept.tryCatch x h) :=
  fun v => Keeps.tryCatch (hx v) fun f => hh f v

theorem mapM {f : γ → ExceptT ε (StateM σ) α} (h : ∀ c, Stays π (f c)) (l : List γ) :
    Stays π (l.mapM f) := fun v => Keeps.mapM (fun c => h c v) l

theorem forM {f : γ → ExceptT ε (StateM σ) PUnit} (h : ∀ c, Stays π (f c)) (l : List γ) :
    Stays π (l.forM f) := fun v => Keeps.forM (fun c => h c v) l

end Stays

end MailStore
