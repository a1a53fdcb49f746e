/-!
# Tallies

A tally counts events by name: calls into a store, requests served from a cache, lookups
that missed. Names appear in the order they were first counted, and a count only grows, so
the difference of two tallies of one history says what happened in between.

## Main statements

* `Tally.count_bump_self`, `Tally.count_bump`: bumping a name adds to its count and to no other.
-/

namespace MailStore

/-- Counts by name, in the order the names were first counted. -/
abbrev Tally := List (String × Nat)

namespace Tally

/-- The count of a name; zero for a name never counted. -/
def count (t : Tally) (name : String) : Nat :=
  ((t.find? fun p => p.1 = name).map Prod.snd).getD 0

/-- Adds `n` to the count of a name. -/
def bump (t : Tally) (name : String) (n : Nat) : Tally :=
  match t with
  | [] => [(name, n)]
  | (k, c) :: rest => if k = name then (k, c + n) :: rest else (k, c) :: bump rest name n

/-- The names whose counts grew from `before` to `after`, with the growth, in the order of
`after`. -/
def growth (before after : Tally) : List (String × Nat) :=
  after.filterMap fun (name, n) =>
    let d := n - before.count name
    if d = 0 then none else some (name, d)

theorem count_bump_self (t : Tally) (name : String) (n : Nat) :
    (t.bump name n).count name = t.count name + n := by
  induction t with
  | nil => simp [bump, count]
  | cons p rest ih =>
    obtain ⟨k, c⟩ := p
    by_cases h : k = name
    · subst h; simp [bump, count]
    · simp only [bump, h, if_false]
      simpa [count, h] using ih

/-- Bumping a name adds to its count and to no other. -/
theorem count_bump (t : Tally) (name name' : String) (n : Nat) :
    (t.bump name n).count name' = t.count name' + if name' = name then n else 0 := by
  by_cases h : name' = name
  · subst h
    simp [count_bump_self]
  · rw [if_neg h, Nat.add_zero]
    induction t with
    | nil => simp [bump, count, Ne.symm h]
    | cons p rest ih =>
      obtain ⟨k, c⟩ := p
      by_cases hk : k = name
      · subst hk
        simp [bump, count, Ne.symm h]
      · simp only [bump, hk, if_false]
        by_cases hk' : k = name'
        · simp [count, hk']
        · simpa [count, hk'] using ih

end Tally

end MailStore
