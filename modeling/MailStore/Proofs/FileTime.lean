import Mathlib
import MailStore.Time.FileTime

/-!
# FILETIME words and instants

A FILETIME word is read by signed 64-bit arithmetic that wraps: the word as a signed count,
less the ticks from 1601 to 1970, split into seconds and a remainder by division that truncates
toward zero, the negative remainder of an instant before 1970 carried into the seconds. An
instant is written back as its whole ticks since 1970 plus the ticks from 1601 to 1970, again
with wrap-around.

Read in integers, the word `ft` stands for the instant `ofTicks T` that lies `T` ticks of 100 ns
after 1970, where `T` is `ft - 116444736000000000` brought into the signed 64-bit range
(`Instant.ofFileTime_eq`); truncating division followed by the carry is floor division
(`Instant.normalize_tdiv_tmod`). Writing an instant gives its tick count `ticks` plus the offset,
modulo `2^64` (`Instant.toFileTime_toNat`), however far the intermediate products wrap. So
reading and then writing a word gives the word back, and writing and then reading an instant
whose tick count fits in 64 signed bits gives the instant rounded down to a whole tick.

## Main statements

* `Instant.toFileTime_ofFileTime`: every word is written back as itself.
* `Instant.ofFileTime_toFileTime`: an instant within the range comes back rounded down to 100 ns.
* `Instant.fileTime_round_trips`: both together.
-/

namespace MailStore

/-! ### Words in integers -/

theorem UInt64.toInt_toInt64 (a : UInt64) : a.toInt64.toInt = (a.toNat : Int).bmod (2 ^ 64) := by
  rw [Int64.toInt, UInt64.toBitVec_toInt64, BitVec.toInt_eq_toNat_bmod]
  rfl

theorem Int64.toNat_toUInt64 (a : Int64) : (a.toUInt64.toNat : Int) = a.toInt % (2 ^ 64 : Nat) := by
  have h : a.toBitVec.toNat < 2 ^ 64 := a.toBitVec.isLt
  rw [Int64.toInt, BitVec.toInt_eq_toNat_bmod, Int.bmod_emod,
    Int.emod_eq_of_lt (by omega) (by omega)]
  rfl

/-- A signed 64-bit residue lies in the signed 64-bit range. -/
theorem bmod_two_pow_64_bounds (x : Int) :
    -(2 ^ 63 : Int) ≤ x.bmod (2 ^ 64) ∧ x.bmod (2 ^ 64) < 2 ^ 63 := by
  have h1 := Int.le_bmod (x := x) (m := 2 ^ 64) (by norm_num)
  have h2 := Int.bmod_lt (x := x) (m := 2 ^ 64) (by norm_num)
  norm_num at h1 h2
  exact ⟨by norm_num; omega, by norm_num; omega⟩

namespace Instant

/-! ### Ticks -/

theorem ext {a b : Instant} (hs : a.sec = b.sec) (hn : a.nsec = b.nsec) : a = b := by
  cases a
  cases b
  simp_all

/-- The instant `T` ticks of 100 ns after the epoch, `T` of either sign. -/
def ofTicks (T : Int) : Instant :=
  ⟨T / 10000000, (T % 10000000).toNat * 100, by omega⟩

/-- The whole ticks of 100 ns from the epoch to an instant. -/
def ticks (t : Instant) : Int := t.sec * 10000000 + (t.nsec / 100 : Nat)

/-- An instant with its nanoseconds rounded down to a multiple of 100. -/
def floorTick (t : Instant) : Instant :=
  ⟨t.sec, t.nsec / 100 * 100, by have := t.nsec_lt; omega⟩

theorem ticks_ofTicks (T : Int) : (ofTicks T).ticks = T := by
  simp only [ticks, ofTicks]
  omega

theorem ofTicks_ticks (t : Instant) : ofTicks t.ticks = t.floorTick := by
  have := t.nsec_lt
  apply ext <;> simp only [ticks, ofTicks, floorTick] <;> omega

/-- Truncating division and remainder, with the remainder's sign carried into the seconds, is
floor division. -/
theorem normalize_tdiv_tmod (T : Int) :
    normalize (T.tdiv 10000000) (T.tmod 10000000 * 100) = ofTicks T := by
  have hs : Int.sign 10000000 = 1 := rfl
  apply ext <;> simp only [normalize, ofTicks, Int.tdiv_eq_ediv, Int.tmod_eq_emod, hs] <;>
    split <;> simp <;> omega

/-! ### Reading and writing a word -/

/-- A word stands for the instant that many ticks after 1601, the difference to 1970 taken in
signed 64-bit arithmetic. -/
theorem ofFileTime_eq (ft : UInt64) :
    ofFileTime ft = ofTicks (((ft.toNat : Int) - 116444736000000000).bmod (2 ^ 64)) := by
  set T := ((ft.toNat : Int) - 116444736000000000).bmod (2 ^ 64) with hT
  have hticks : (ft.toInt64 - fileTimeEpochDelta).toInt = T := by
    rw [Int64.toInt_sub, UInt64.toInt_toInt64,
      show fileTimeEpochDelta.toInt = 116444736000000000 by decide, Int.bmod_sub_bmod]
  have hb := bmod_two_pow_64_bounds ((ft.toNat : Int) - 116444736000000000)
  rw [← hT] at hb
  -- the quotient of a word by ten million is a word again: the division does not wrap
  have hdiv : ((ft.toInt64 - fileTimeEpochDelta) / ticksPerSecond).toInt = T.tdiv 10000000 := by
    rw [Int64.toInt_div, hticks, show ticksPerSecond.toInt = 10000000 by decide]
    have hs : Int.sign 10000000 = 1 := rfl
    apply Int.bmod_eq_of_le_mul_two <;> simp only [Int.tdiv_eq_ediv, hs] <;> split <;>
      push_cast <;> omega
  have hmod : ((ft.toInt64 - fileTimeEpochDelta) % ticksPerSecond).toInt = T.tmod 10000000 := by
    rw [Int64.toInt_mod, hticks, show ticksPerSecond.toInt = 10000000 by decide]
  simp only [ofFileTime, hdiv, hmod, normalize_tdiv_tmod]

/-- An instant is written as its ticks plus the offset from 1601, modulo `2^64`. -/
theorem toFileTime_toNat (t : Instant) :
    ((toFileTime t).toNat : Int) = (t.ticks + 116444736000000000) % (2 ^ 64 : Nat) := by
  have hticks : (t.sec.toInt64 * ticksPerSecond + (Int.ofNat (t.nsec / 100)).toInt64).toInt =
      t.ticks.bmod (2 ^ 64) := by
    rw [Int64.toInt_add, Int64.toInt_mul, show ticksPerSecond.toInt = 10000000 by decide,
      Int.toInt64, Int64.toInt_ofInt, Int64.toInt_ofInt, show Int64.size = 2 ^ 64 from rfl,
      Int.bmod_mul_bmod, Int.bmod_add_bmod, Int.add_bmod_bmod]
    rfl
  rw [toFileTime, UInt64.toNat_add, Int.natCast_emod, Nat.cast_add, Int64.toNat_toUInt64, hticks,
    Int.bmod_emod, show (fileTimeEpochDelta.toUInt64.toNat : Int) = 116444736000000000 by decide,
    Int.emod_add_emod]

/-- Every word is written back as itself, those past `2^63` included. -/
theorem toFileTime_ofFileTime (ft : UInt64) : (ofFileTime ft).toFileTime = ft := by
  apply UInt64.toNat_inj.1
  have hlt : (ft.toNat : Int) < (2 ^ 64 : Nat) := by have := ft.toNat_lt; omega
  have hticks : ((ofFileTime ft).ticks + 116444736000000000) % (2 ^ 64 : Nat) = ft.toNat := by
    rw [ofFileTime_eq, ticks_ofTicks, ← Int.emod_add_emod, Int.bmod_emod, Int.emod_add_emod,
      Int.sub_add_cancel, Int.emod_eq_of_lt (by omega) hlt]
  exact Int.ofNat_inj.1 ((toFileTime_toNat _).trans hticks)

/-- Writing an instant and reading the word back keeps its whole ticks, the count wrapped into
64 signed bits. -/
theorem ofFileTime_toFileTime_wraps (t : Instant) :
    ofFileTime t.toFileTime = ofTicks (t.ticks.bmod (2 ^ 64)) := by
  rw [ofFileTime_eq, toFileTime_toNat, ← Int.bmod_sub_bmod, Int.emod_bmod, Int.bmod_sub_bmod,
    Int.add_sub_cancel]

/-- Within the signed 64-bit range the wrap does nothing, and whole ticks are the instant
rounded down to 100 ns. -/
theorem ofTicks_bmod_ticks {t : Instant} (h : -(2 ^ 63) ≤ t.ticks ∧ t.ticks < 2 ^ 63) :
    ofTicks (t.ticks.bmod (2 ^ 64)) = t.floorTick := by
  rw [Int.bmod_eq_of_le_mul_two (by push_cast; omega) (by push_cast; omega), ofTicks_ticks]

/-- An instant whose tick count fits in 64 signed bits comes back rounded down to 100 ns. -/
theorem ofFileTime_toFileTime (t : Instant) (h : -(2 ^ 63) ≤ t.ticks ∧ t.ticks < 2 ^ 63) :
    ofFileTime t.toFileTime = t.floorTick := by
  rw [ofFileTime_toFileTime_wraps, ofTicks_bmod_ticks h]

/-- **FILETIME round trip**: reading a word and writing the instant gives the word back, for
every word; writing an instant whose tick count fits in 64 signed bits and reading the word
gives the instant with its nanoseconds rounded down to a multiple of 100. -/
theorem fileTime_round_trips :
    (∀ ft : UInt64, (ofFileTime ft).toFileTime = ft) ∧
      ∀ t : Instant, -(2 ^ 63) ≤ t.ticks ∧ t.ticks < 2 ^ 63 →
        ofFileTime t.toFileTime = t.floorTick :=
  ⟨toFileTime_ofFileTime, ofFileTime_toFileTime⟩

/-- An instant a nanosecond before the epoch is one tick before it, and is written and read back
rounded down to that tick. -/
theorem fileTime_round_trip_before_epoch :
    -(2 ^ 63) ≤ (⟨-1, 999999999, by omega⟩ : Instant).ticks ∧
      (⟨-1, 999999999, by omega⟩ : Instant).ticks < 2 ^ 63 ∧
      ofFileTime (⟨-1, 999999999, by omega⟩ : Instant).toFileTime = ⟨-1, 999999900, by omega⟩ := by
  have h : -(2 ^ 63) ≤ (⟨-1, 999999999, by omega⟩ : Instant).ticks ∧
      (⟨-1, 999999999, by omega⟩ : Instant).ticks < 2 ^ 63 := by
    simp only [ticks]
    norm_num
  exact ⟨h.1, h.2, fileTime_round_trips.2 _ h⟩

end Instant

end MailStore
