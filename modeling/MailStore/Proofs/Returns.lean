/-!
# What a computation that may fail can return

The library's operations run in `ExceptT ε (StateM σ)`: from a state they either fail with
an `ε` or return a value, and either way leave a new state. `Returns x P` says that every
value `x` can return, from any state, satisfies `P`. It ignores the state and the failures,
so a property of the returned values follows from the shape of the program alone: a `bind`
returns what its continuation returns, whatever the first computation did, and a failure
returns nothing.

This is how the laws about callers of outside code are proved: a store's or a resolver's
answer is unknown, but every path that returns builds its value from that answer in a way
the program text fixes.

## Main statements

* `Returns.pure`, `Returns.bind`, `Returns.throw`, `Returns.tryCatch`: one rule per way of
  building a computation; `Returns.bindOf` lets the continuation use what the first
  computation returns.
* `Returns.imp`: a weaker property of the values follows.
-/

namespace MailStore

variable {ε σ α β : Type}

/-- Every value `x` returns, from whatever state it starts in, satisfies `P`. -/
def Returns (x : ExceptT ε (StateM σ) α) (P : α → Prop) : Prop :=
  ∀ s a s', x.run.run s = (.ok a, s') → P a

namespace Returns

variable {P Q : α → Prop}

/-- A pure computation returns its value. -/
theorem pure {a : α} (h : P a) : Returns (Pure.pure a : ExceptT ε (StateM σ) α) P := by
  intro s b s' hr
  cases hr
  exact h

/-- A `bind` returns what its continuation returns, whatever the first computation gave. -/
theorem bind {x : ExceptT ε (StateM σ) β} {f : β → ExceptT ε (StateM σ) α}
    (h : ∀ b, Returns (f b) P) : Returns (x >>= f) P := by
  intro s a s' hr
  rw [ExceptT.run_bind, StateT.run_bind] at hr
  rcases hx : x.run.run s with ⟨_ | b, s₁⟩
  · rw [hx] at hr
    cases hr
  · rw [hx] at hr
    exact h b s₁ a s' hr

/-- A `bind` returns what its continuation returns from a value the first computation
returns. -/
theorem bindOf {x : ExceptT ε (StateM σ) β} {f : β → ExceptT ε (StateM σ) α} {Q : β → Prop}
    (hx : Returns x Q) (h : ∀ b, Q b → Returns (f b) P) : Returns (x >>= f) P := by
  intro s a s' hr
  rw [ExceptT.run_bind, StateT.run_bind] at hr
  rcases hr₁ : x.run.run s with ⟨_ | b, s₁⟩
  · rw [hr₁] at hr
    cases hr
  · rw [hr₁] at hr
    exact h b (hx s b s₁ hr₁) s₁ a s' hr

/-- A failure returns nothing. -/
theorem throw {e : ε} : Returns (MonadExcept.throw e : ExceptT ε (StateM σ) α) P := by
  intro s a s' hr
  cases hr

/-- A handled computation returns what it returns or what its handler returns. -/
theorem tryCatch {x : ExceptT ε (StateM σ) α} {k : ε → ExceptT ε (StateM σ) α}
    (hx : Returns x P) (hk : ∀ e, Returns (k e) P) : Returns (tryCatch x k) P := by
  intro s a s' hr
  rw [ExceptT.run_tryCatch, StateT.run_bind] at hr
  rcases h : x.run.run s with ⟨_ | b, s₁⟩
  · rw [h] at hr
    exact hk _ s₁ a s' hr
  · rw [h] at hr
    cases hr
    exact hx s a s₁ h

/-- What holds of every returned value implies what follows from it. -/
theorem imp {x : ExceptT ε (StateM σ) α} (hx : Returns x P) (h : ∀ a, P a → Q a) :
    Returns x Q :=
  fun s a s' hr => h a (hx s a s' hr)

/-- Two properties of every returned value hold together. -/
theorem and {x : ExceptT ε (StateM σ) α} (hp : Returns x P) (hq : Returns x Q) :
    Returns x fun a => P a ∧ Q a :=
  fun s a s' hr => ⟨hp s a s' hr, hq s a s' hr⟩

end Returns

end MailStore
