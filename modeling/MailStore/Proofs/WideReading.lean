import Mathlib
import MailStore.Proofs.DecodeLaw

/-!
# Reading UTF-16 against the standard decoding

The reader of wide text (`Utf16.decode`) drops the trailing zero units of a payload and reads
the rest as UTF-16. This module sets it beside the standard decoding of UTF-16, where a high
surrogate directly followed by a low surrogate is one character and every other surrogate is
read alone as `U+FFFD` (`Utf16.standardChars`).

The two read every unit that is no surrogate as its own character, a byte order mark
included, and every high surrogate alike. They part at a low surrogate that follows no high
surrogate: the standard decoding reads it alone, while the reader takes it together with a low
surrogate right after it as one ill-formed pair, one `U+FFFD` for the two. So the reader gives
the standard decoding exactly when the units hold no such lone low surrogate followed by a low
surrogate (`Utf16.LoneLowPair`), and where they do it gives fewer characters.

Units with no unpaired surrogate (`Utf16.Paired`) are the image of the writer: the reader reads
them as the characters the writer writes back to the same units. So the wide text written from
what is read out of such a payload is the payload less its trailing zero units, counted in pairs
of zero bytes from its end (`Utf16.dropZeroUnits`) as the payload's own reader counts them.

## Main statements

* `Utf16.decodeUnits_eq_standardChars_iff`: the reader agrees with the standard decoding exactly
  when no lone low surrogate is followed by a low surrogate.
* `Utf16.flatMap_encodeChar_decodeUnits`: written back, the characters read from paired units
  are those units.
* `Utf16.decode_eq_standard_iff`: an even payload reads as the standard decoding of its units less
  trailing zeros exactly when those units hold no lone low surrogate followed by a low surrogate.
* `Utf16.map_encode_decode`: when no surrogate is unpaired, the wide text of the text read is the
  payload less its trailing zero units.
* `Utf16.decode_standard_round_trip`: the two together.
-/

namespace MailStore

namespace Utf16

/-! ### The standard decoding -/

/-- Whether a unit is a high (leading) surrogate. -/
def isHigh (u : UInt16) : Bool := 0xD800 ≤ u && u ≤ 0xDBFF

/-- The character of a unit read alone: itself, or `U+FFFD` for a surrogate. -/
def unitChar (u : UInt16) : Char := if isSurrogate u then '�' else Char.ofNat u.toNat

/-- The character a high and a low surrogate encode together. -/
def pairChar (hi lo : UInt16) : Char :=
  Char.ofNat (0x10000 + (hi.toNat - 0xD800) * 0x400 + (lo.toNat - 0xDC00))

/-- The standard decoding of UTF-16 code units: a high surrogate directly followed by a low
surrogate is the character they encode, and every other unit is read alone, a surrogate as
`U+FFFD`. -/
def standardChars : List UInt16 → List Char
  | [] => []
  | [u] => [unitChar u]
  | u :: v :: rest =>
    if isHigh u && isLow v then pairChar u v :: standardChars rest
    else unitChar u :: standardChars (v :: rest)

/-- Units hold a lone low surrogate directly followed by another low surrogate: two low
surrogates in a row, the first not right after a high surrogate. -/
def LoneLowPair (us : List UInt16) : Prop :=
  ∃ pre u v post, us = pre ++ u :: v :: post ∧ isLow u = true ∧ isLow v = true ∧
    pre.getLast?.all (! isHigh ·) = true

/-- Units with no unpaired surrogate: of two neighbouring units the first is a high surrogate
exactly when the second is a low one, the first unit is no low surrogate and the last no high
surrogate. -/
def Paired (us : List UInt16) : Prop :=
  us.IsChain (fun u v => isHigh u = isLow v) ∧ us.head?.all (! isLow ·) = true ∧
    us.getLast?.all (! isHigh ·) = true

instance : DecidablePred Paired := fun _ => inferInstanceAs (Decidable (_ ∧ _ ∧ _))

/-- The front of a byte string read from its end, less its zero units: two zero bytes at a
time. -/
def dropZeroPairs : Bytes → Bytes
  | a :: b :: rest => if a = 0 ∧ b = 0 then dropZeroPairs rest else a :: b :: rest
  | rest => rest

/-- A byte string less its trailing zero code units, the pairs of zero bytes at its end. -/
def dropZeroUnits (b : Bytes) : Bytes := (dropZeroPairs b.reverse).reverse

/-! ### Kinds of units -/

theorem isHigh_iff (u : UInt16) : isHigh u = true ↔ 0xD800 ≤ u.toNat ∧ u.toNat ≤ 0xDBFF := by
  simp [isHigh, UInt16.le_iff_toNat_le]

/-- A surrogate is a high or a low one. -/
theorem isSurrogate_eq (u : UInt16) : isSurrogate u = (isHigh u || isLow u) := by
  rw [Bool.eq_iff_iff, Bool.or_eq_true, isSurrogate_iff, isHigh_iff, isLow_iff]
  omega

theorem isLow_eq_false_of_isHigh {u : UInt16} (h : isHigh u = true) : isLow u = false := by
  rw [isHigh_iff] at h
  rw [← Bool.not_eq_true, isLow_iff]
  omega

theorem isHigh_eq_false_of_isLow {u : UInt16} (h : isLow u = true) : isHigh u = false := by
  rw [isLow_iff] at h
  rw [← Bool.not_eq_true, isHigh_iff]
  omega

theorem isLow_of_isSurrogate {u : UInt16} (hs : isSurrogate u = true) (hu : isHigh u = false) :
    isLow u = true := by
  rwa [isSurrogate_eq, hu, Bool.false_or] at hs

theorem not_isHigh_isLow_of_not_isSurrogate {u : UInt16} (hs : isSurrogate u = false) :
    isHigh u = false ∧ isLow u = false := by
  rwa [isSurrogate_eq, Bool.or_eq_false_iff] at hs

/-! ### The two readers step by step -/

/-- A unit that is no high surrogate is read alone by the standard decoding. -/
theorem standardChars_cons_of_not_isHigh {u : UInt16} (h : isHigh u = false)
    (rest : List UInt16) : standardChars (u :: rest) = unitChar u :: standardChars rest := by
  cases rest with
  | nil => rfl
  | cons v rest => simp [standardChars, h]

theorem standardChars_pair {u v : UInt16} (hu : isHigh u = true) (hv : isLow v = true)
    (rest : List UInt16) : standardChars (u :: v :: rest) = pairChar u v :: standardChars rest := by
  simp [standardChars, hu, hv]

/-- Away from a high surrogate followed by a low surrogate, the standard decoding reads a unit
alone. -/
theorem standardChars_cons_of_not_pair {u v : UInt16} (h : isHigh u = false ∨ isLow v = false)
    (rest : List UInt16) :
    standardChars (u :: v :: rest) = unitChar u :: standardChars (v :: rest) := by
  rcases h with h | h <;> simp [standardChars, h]

theorem decodeUnits_singleton (u : UInt16) : decodeUnits [u] = [unitChar u] := rfl

/-- The reader takes a high surrogate and a low surrogate after it as the character they
encode. -/
theorem decodeUnits_high_low {u v : UInt16} (hu : isHigh u = true) (hv : isLow v = true)
    (rest : List UInt16) : decodeUnits (u :: v :: rest) = pairChar u v :: decodeUnits rest :=
  decodeUnits_pair ((isHigh_iff u).1 hu) ((isLow_iff v).1 hv) rest

/-- The reader takes two low surrogates in a row as one ill-formed pair. -/
theorem decodeUnits_low_low {u v : UInt16} (hu : isLow u = true) (hv : isLow v = true)
    (rest : List UInt16) : decodeUnits (u :: v :: rest) = '�' :: decodeUnits rest := by
  have hs : isSurrogate u = true := by rw [isSurrogate_eq, hu, Bool.or_true]
  have hh : ¬ u ≤ 0xDBFF := by
    rw [isLow_iff] at hu
    simp only [UInt16.le_iff_toNat_le, UInt16.reduceToNat]
    omega
  simp [decodeUnits, hs, hv, hh]

/-- Away from a surrogate followed by a low surrogate, the reader reads a unit alone. -/
theorem decodeUnits_cons_of_not_pair {u v : UInt16}
    (h : isSurrogate u = false ∨ isLow v = false) (rest : List UInt16) :
    decodeUnits (u :: v :: rest) = unitChar u :: decodeUnits (v :: rest) := by
  rcases h with h | h
  · simp [decodeUnits, unitChar, h]
  · by_cases hs : isSurrogate u = true <;> simp [decodeUnits, unitChar, h, hs]

/-! ### Where the two readers part -/

/-- A lone low surrogate followed by a low surrogate stays one when units are put before it,
unless they end in a high surrogate that the first of the two would complete. -/
theorem LoneLowPair.append_left {l : List UInt16} (h : LoneLowPair l) (p : List UInt16)
    (hp : ∀ x ∈ p.getLast?, isHigh x = true → ∀ y ∈ l.head?, isLow y = false) :
    LoneLowPair (p ++ l) := by
  obtain ⟨pre, u, v, post, rfl, hu, hv, hpre⟩ := h
  refine ⟨p ++ pre, u, v, post, by rw [List.append_assoc], hu, hv, ?_⟩
  cases pre with
  | nil =>
    -- the units put before end right before `u`, so they must not end in a high surrogate
    rw [List.append_nil, Option.all_eq_true]
    intro x hx
    by_contra hhigh
    have := hp x hx (by simpa using hhigh) u (by simp)
    rw [hu] at this
    cases this
  | cons a pre => rwa [List.getLast?_append_of_ne_nil _ (List.cons_ne_nil a pre)]

/-- At the head, a lone low surrogate followed by a low surrogate is the first unit and the
next, or it lies further on. -/
theorem LoneLowPair.of_cons {x : UInt16} {l : List UInt16} (h : LoneLowPair (x :: l)) :
    (isLow x = true ∧ ∃ y ∈ l.head?, isLow y = true) ∨ LoneLowPair l := by
  obtain ⟨pre, u, v, post, he, hu, hv, hpre⟩ := h
  cases pre with
  | nil =>
    obtain ⟨rfl, rfl⟩ := List.cons.inj he
    exact .inl ⟨hu, v, by simp, hv⟩
  | cons a pre =>
    obtain ⟨-, rfl⟩ := List.cons.inj he
    refine .inr ⟨pre, u, v, post, rfl, hu, hv, ?_⟩
    cases pre with
    | nil => rfl
    | cons b pre => rwa [← List.getLast?_append_of_ne_nil [a] (List.cons_ne_nil b pre)]

/-- A high surrogate and the unit after it are no part of a lone low surrogate followed by a
low surrogate. -/
theorem LoneLowPair.of_cons_cons {x y : UInt16} {l : List UInt16} (hx : isHigh x = true)
    (h : LoneLowPair (x :: y :: l)) : LoneLowPair l := by
  obtain ⟨pre, u, v, post, he, hu, hv, hpre⟩ := h
  rcases pre with _ | ⟨a, _ | ⟨b, pre⟩⟩
  · obtain ⟨rfl, -⟩ := List.cons.inj he
    rw [isLow_eq_false_of_isHigh hx] at hu
    cases hu
  · obtain ⟨rfl, -⟩ := List.cons.inj he
    simp [hx] at hpre
  · simp only [List.cons_append, List.cons.injEq] at he
    obtain ⟨-, -, rfl⟩ := he
    refine ⟨pre, u, v, post, rfl, hu, hv, ?_⟩
    cases pre with
    | nil => rfl
    | cons c pre => rwa [← List.getLast?_append_of_ne_nil [a, b] (List.cons_ne_nil c pre)]

/-- Without a lone low surrogate followed by a low surrogate, the reader gives the standard
decoding. -/
theorem decodeUnits_eq_standardChars {us : List UInt16} (h : ¬ LoneLowPair us) :
    decodeUnits us = standardChars us := by
  -- along the reader: one case per way it reads the head
  induction us using decodeUnits.induct with
  | case1 => rfl
  | case2 u => rfl
  | case3 u v rest hs hv ih =>
    -- a surrogate before a low one is a high one, or it starts a lone low pair
    have hu : isHigh u = true := by
      by_contra hu
      exact h ⟨[], u, v, rest, rfl, isLow_of_isSurrogate hs (by simpa using hu), hv, rfl⟩
    rw [decodeUnits_high_low hu hv, standardChars_pair hu hv,
      ih fun hl => h (hl.append_left [u, v] (by simp [isHigh_eq_false_of_isLow hv]))]
  | case4 u v rest hs hv ih =>
    have hv : isLow v = false := by simpa using hv
    rw [decodeUnits_cons_of_not_pair (.inr hv), standardChars_cons_of_not_pair (.inr hv),
      ih fun hl => h (hl.append_left [u] (by simp [hv]))]
  | case5 u v rest hs ih =>
    have hs : isSurrogate u = false := by simpa using hs
    have hu := (not_isHigh_isLow_of_not_isSurrogate hs).1
    rw [decodeUnits_cons_of_not_pair (.inl hs), standardChars_cons_of_not_pair (.inl hu),
      ih fun hl => h (hl.append_left [u] (by simp [hu]))]

/-- The reader never gives more characters than the standard decoding. -/
theorem length_decodeUnits_le (us : List UInt16) :
    (decodeUnits us).length ≤ (standardChars us).length := by
  induction us using decodeUnits.induct with
  | case1 => rfl
  | case2 u => rfl
  | case3 u v rest hs hv ih =>
    by_cases hu : isHigh u = true
    · rw [decodeUnits_high_low hu hv, standardChars_pair hu hv]
      simpa using ih
    · -- two low surrogates: one character for the reader, two for the standard decoding
      have hu : isHigh u = false := by simpa using hu
      rw [decodeUnits_low_low (isLow_of_isSurrogate hs hu) hv,
        standardChars_cons_of_not_isHigh hu,
        standardChars_cons_of_not_isHigh (isHigh_eq_false_of_isLow hv)]
      simp only [List.length_cons]
      omega
  | case4 u v rest hs hv ih =>
    have hv : isLow v = false := by simpa using hv
    rw [decodeUnits_cons_of_not_pair (.inr hv), standardChars_cons_of_not_pair (.inr hv)]
    simpa using ih
  | case5 u v rest hs ih =>
    have hs : isSurrogate u = false := by simpa using hs
    rw [decodeUnits_cons_of_not_pair (.inl hs),
      standardChars_cons_of_not_pair (.inl (not_isHigh_isLow_of_not_isSurrogate hs).1)]
    simpa using ih

/-- Where a lone low surrogate is followed by a low surrogate, the reader gives fewer
characters than the standard decoding. -/
theorem length_decodeUnits_lt {us : List UInt16} (h : LoneLowPair us) :
    (decodeUnits us).length < (standardChars us).length := by
  induction us using decodeUnits.induct with
  | case1 => obtain ⟨pre, u, v, post, he, -⟩ := h; simp at he
  | case2 u =>
    obtain ⟨pre, u, v, post, he, -⟩ := h
    have := congrArg List.length he
    simp at this
    omega
  | case3 u v rest hs hv ih =>
    by_cases hu : isHigh u = true
    · rw [decodeUnits_high_low hu hv, standardChars_pair hu hv]
      simpa using ih (h.of_cons_cons hu)
    · -- here are the two low surrogates: one character against two
      have hu : isHigh u = false := by simpa using hu
      rw [decodeUnits_low_low (isLow_of_isSurrogate hs hu) hv,
        standardChars_cons_of_not_isHigh hu,
        standardChars_cons_of_not_isHigh (isHigh_eq_false_of_isLow hv)]
      have := length_decodeUnits_le rest
      simp only [List.length_cons]
      omega
  | case4 u v rest hs hv ih =>
    -- the lone low pair lies further on: it cannot start at `u`, as `v` is no low surrogate
    have hv : isLow v = false := by simpa using hv
    have hl : LoneLowPair (v :: rest) := h.of_cons.resolve_left fun hhead => by
      obtain ⟨-, y, hy, hyl⟩ := hhead
      simp only [List.head?_cons, Option.mem_def, Option.some.injEq] at hy
      rw [← hy, hv] at hyl
      cases hyl
    rw [decodeUnits_cons_of_not_pair (.inr hv), standardChars_cons_of_not_pair (.inr hv)]
    simpa using ih hl
  | case5 u v rest hs ih =>
    have hs : isSurrogate u = false := by simpa using hs
    have hu := not_isHigh_isLow_of_not_isSurrogate hs
    have hl : LoneLowPair (v :: rest) := h.of_cons.resolve_left fun hhead => by
      rw [hu.2] at hhead
      exact Bool.false_ne_true hhead.1
    rw [decodeUnits_cons_of_not_pair (.inl hs), standardChars_cons_of_not_pair (.inl hu.1)]
    simpa using ih hl

/-- **The reader against the standard decoding**: they agree exactly when no lone low
surrogate is directly followed by another low surrogate. -/
theorem decodeUnits_eq_standardChars_iff (us : List UInt16) :
    decodeUnits us = standardChars us ↔ ¬ LoneLowPair us := by
  refine ⟨fun he hl => ?_, decodeUnits_eq_standardChars⟩
  have := length_decodeUnits_lt hl
  rw [he] at this
  exact lt_irrefl _ this

example : decodeUnits [0xDC00, 0xDC00] = ['�'] ∧ standardChars [0xDC00, 0xDC00] = ['�', '�'] := by
  decide

/-! ### Paired units are the writer's image -/

/-- A unit that is no surrogate is written back as itself. -/
theorem encodeChar_unitChar {u : UInt16} (h : isSurrogate u = false) :
    encodeChar (unitChar u) = [u] := by
  have hu : u.toNat < 0xD800 ∨ (0xDFFF < u.toNat ∧ u.toNat < 0x10000) := by
    have := (isSurrogate_iff u).not.1 (by simp [h])
    have := u.toNat_lt
    omega
  have hc : (unitChar u).toNat = u.toNat := by
    rw [unitChar, h, if_neg Bool.false_ne_true]
    exact Text.toNat_scalar (by omega)
  rw [encodeChar, hc, if_pos (by omega), Nat.toUInt16_eq, UInt16.ofNat_toNat]

/-- A high surrogate and a low surrogate are written back as themselves. -/
theorem encodeChar_pairChar {u v : UInt16} (hu : isHigh u = true) (hv : isLow v = true) :
    encodeChar (pairChar u v) = [u, v] := by
  rw [isHigh_iff] at hu
  rw [isLow_iff] at hv
  have hc : (pairChar u v).toNat =
      0x10000 + (u.toNat - 0xD800) * 0x400 + (v.toNat - 0xDC00) :=
    Text.toNat_scalar (by omega)
  -- the offset past `U+10000` splits back into the two ten-bit halves
  have hhi : (0x10000 + (u.toNat - 0xD800) * 0x400 + (v.toNat - 0xDC00) - 0x10000) / 0x400 =
      u.toNat - 0xD800 := by omega
  have hlo : (0x10000 + (u.toNat - 0xD800) * 0x400 + (v.toNat - 0xDC00) - 0x10000) % 0x400 =
      v.toNat - 0xDC00 := by omega
  rw [encodeChar, hc, if_neg (by omega)]
  simp only [hhi, hlo, Nat.add_sub_cancel' hu.1, Nat.add_sub_cancel' hv.1, Nat.toUInt16_eq,
    UInt16.ofNat_toNat]

/-- The units after a unit that is no high surrogate, in a run with no unpaired surrogate up
to its end, have no unpaired surrogate. -/
theorem paired_of_isChain_cons {v : UInt16} {l : List UInt16}
    (hc : (v :: l).IsChain (fun u v => isHigh u = isLow v)) (hv : isHigh v = false)
    (hlast : (v :: l).getLast?.all (! isHigh ·) = true) : Paired l := by
  rw [List.isChain_cons] at hc
  refine ⟨hc.2, ?_, ?_⟩
  · -- the unit after one that is no high surrogate is no low surrogate
    cases l with
    | nil => rfl
    | cons w l =>
      have := hc.1 w rfl
      rw [hv] at this
      simp [← this]
  · cases l with
    | nil => rfl
    | cons w l => rwa [← List.getLast?_append_of_ne_nil [v] (List.cons_ne_nil w l)]

theorem Paired.tail {u : UInt16} {l : List UInt16} (h : Paired (u :: l))
    (hu : isHigh u = false) : Paired l :=
  paired_of_isChain_cons h.1 hu h.2.2

/-- Written back, the characters read from units with no unpaired surrogate are those units. -/
theorem flatMap_encodeChar_decodeUnits {us : List UInt16} (h : Paired us) :
    (decodeUnits us).flatMap encodeChar = us := by
  -- along the reader: a unit that is no surrogate, or a high surrogate with its low one
  induction us using decodeUnits.induct with
  | case1 => rfl
  | case2 u =>
    -- a unit alone is neither the first nor the last of a pair
    have hs : isSurrogate u = false := by
      have hlow : isLow u = false := by simpa using h.2.1
      have hhigh : isHigh u = false := by simpa using h.2.2
      rw [isSurrogate_eq, hlow, hhigh, Bool.or_false]
    rw [decodeUnits_singleton, List.flatMap_singleton, encodeChar_unitChar hs]
  | case3 u v rest hs hv ih =>
    have hc := List.isChain_cons_cons.1 h.1
    have hu : isHigh u = true := by rw [hc.1, hv]
    have hrest : Paired rest := paired_of_isChain_cons hc.2 (isHigh_eq_false_of_isLow hv) (by
      rw [← List.getLast?_append_of_ne_nil [u] (List.cons_ne_nil v rest)]
      exact h.2.2)
    rw [decodeUnits_high_low hu hv, List.flatMap_cons, encodeChar_pairChar hu hv, ih hrest]
    rfl
  | case4 u v rest hs hv ih =>
    -- a surrogate before a unit that is no low surrogate is no high one, so a lone low one
    have hu : isHigh u = false := by
      rw [(List.isChain_cons_cons.1 h.1).1]
      simpa using hv
    have hhead : isLow u = false := by simpa using h.2.1
    rw [isLow_of_isSurrogate hs hu] at hhead
    cases hhead
  | case5 u v rest hs ih =>
    have hs : isSurrogate u = false := by simpa using hs
    rw [decodeUnits_cons_of_not_pair (.inl hs), List.flatMap_cons, encodeChar_unitChar hs,
      ih (h.tail (not_isHigh_isLow_of_not_isSurrogate hs).1)]
    rfl

theorem Paired.of_append_singleton {l : List UInt16} {z : UInt16} (h : Paired (l ++ [z]))
    (hz : isLow z = false) : Paired l := by
  obtain ⟨hc, hl, hnext⟩ := List.isChain_append.1 h.1
  refine ⟨hc, ?_, ?_⟩
  · cases l with
    | nil => rfl
    | cons a l => exact h.2.1
  · -- the last unit is followed by `z`, which is no low surrogate
    rw [Option.all_eq_true]
    intro x hx
    have := hnext x hx z rfl
    simp [this, hz]

/-- Dropping trailing zero units leaves no surrogate unpaired. -/
theorem Paired.trimNul {us : List UInt16} (h : Paired us) : Paired (trimNul us) := by
  induction us using List.reverseRecOn with
  | nil => exact h
  | append_singleton us u ih =>
    by_cases hu : u = 0
    · subst hu
      rw [trimNul_eq, List.rdropWhile_concat_pos _ _ _ (by decide), ← trimNul_eq]
      exact ih (h.of_append_singleton (by decide))
    · rwa [trimNul_eq, List.rdropWhile_concat_neg _ _ _ (by simpa using hu)]

/-! ### Bytes and units -/

/-- The unit of a low and a high byte, in numbers. -/
theorem toNat_unit (lo hi : UInt8) :
    (lo.toUInt16 ||| (hi.toUInt16 <<< 8)).toNat = 256 * hi.toNat + lo.toNat := by
  have hlo := lo.toNat_lt
  have hhi := hi.toNat_lt
  simp only [UInt16.toNat_or, UInt16.toNat_shiftLeft, UInt8.toNat_toUInt16, UInt16.reduceToNat,
    Nat.shiftLeft_eq, Nat.reduceMod, Nat.reducePow]
  rw [Nat.mod_eq_of_lt (by omega), Nat.or_comm, Nat.mul_comm,
    ← Nat.two_pow_add_eq_or_of_lt (i := 8) (by omega)]

/-- The unit of a low and a high byte gives back the two bytes. -/
theorem bytes_of_unit (lo hi : UInt8) :
    (lo.toUInt16 ||| (hi.toUInt16 <<< 8)).toUInt8 = lo ∧
      ((lo.toUInt16 ||| (hi.toUInt16 <<< 8)) >>> 8).toUInt8 = hi := by
  have := lo.toNat_lt
  have := hi.toNat_lt
  constructor <;> apply UInt8.toNat_inj.1
  · rw [UInt16.toNat_toUInt8, toNat_unit]
    omega
  · rw [UInt16.toNat_toUInt8, UInt16.toNat_shiftRight, toNat_unit]
    simp only [UInt16.reduceToNat, Nat.reduceMod, Nat.shiftRight_eq_div_pow, Nat.reducePow]
    omega

/-- An even number of bytes is the bytes of its units. -/
theorem bytesOf_unitsOf {b : Bytes} (h : b.length % 2 = 0) : bytesOf (unitsOf b) = b := by
  induction b using unitsOf.induct with
  | case1 lo hi rest ih =>
    have hrest : rest.length % 2 = 0 := by simp at h; omega
    rw [unitsOf, bytesOf, List.flatMap_cons, ← bytesOf, ih hrest, (bytes_of_unit lo hi).1,
      (bytes_of_unit lo hi).2]
    rfl
  | case2 b hb =>
    -- a byte string that is no two bytes and more is empty, since its length is even
    rcases b with _ | ⟨x, _ | ⟨y, r⟩⟩
    · rfl
    · simp at h
    · exact absurd rfl (hb x y r)

theorem bytesOf_append_singleton (us : List UInt16) (u : UInt16) :
    bytesOf (us ++ [u]) = bytesOf us ++ [u.toUInt8, (u >>> 8).toUInt8] := by
  simp [bytesOf]

/-- Dropping the pairs of zero bytes at the end of the bytes of units drops the trailing zero
units. -/
theorem dropZeroUnits_bytesOf (us : List UInt16) :
    dropZeroUnits (bytesOf us) = bytesOf (trimNul us) := by
  induction us using List.reverseRecOn with
  | nil => rfl
  | append_singleton us u ih =>
    rw [dropZeroUnits, bytesOf_append_singleton, List.reverse_append]
    simp only [List.reverse_cons, List.reverse_nil, List.nil_append, List.cons_append]
    rw [dropZeroPairs]
    by_cases hu : u = 0
    · subst hu
      rw [if_pos (by decide), trimNul_eq, List.rdropWhile_concat_pos _ _ _ (by decide),
        ← trimNul_eq, ← ih]
      rfl
    · -- a unit is zero exactly when both its bytes are
      have hbytes : ¬ ((u >>> 8).toUInt8 = 0 ∧ u.toUInt8 = 0) := by
        rintro ⟨hhi, hlo⟩
        have := unit_of_bytes u
        rw [hhi, hlo] at this
        exact hu (this.symm.trans (by decide))
      rw [if_neg hbytes, trimNul_eq, List.rdropWhile_concat_neg _ _ _ (by simpa using hu),
        bytesOf_append_singleton]
      simp

theorem dropZeroUnits_eq {b : Bytes} (h : b.length % 2 = 0) :
    dropZeroUnits b = bytesOf (trimNul (unitsOf b)) := by
  conv_lhs => rw [← bytesOf_unitsOf h]
  exact dropZeroUnits_bytesOf _

theorem unitsOf_dropZeroUnits {b : Bytes} (h : b.length % 2 = 0) :
    unitsOf (dropZeroUnits b) = trimNul (unitsOf b) := by
  rw [dropZeroUnits_eq h, unitsOf_bytesOf]

/-! ### Reading a payload -/

/-- An even number of bytes reads as the text of given characters exactly when the reader gives
those characters for its units less the trailing zero ones. -/
theorem decode_eq_ofList_iff {b : Bytes} (h : b.length % 2 = 0) (cs : List Char) :
    decode b = .ok (Text.ofString (String.ofList cs)) ↔
      decodeUnits (unitsOf (dropZeroUnits b)) = cs := by
  rw [decode_of_even h, ← trimNul_eq, ← unitsOf_dropZeroUnits h]
  constructor
  · intro he
    have := congrArg Text.chars (Except.ok.inj he)
    rwa [Text.chars_ofString_ofList, Text.chars_ofString_ofList] at this
  · intro he
    rw [he]

/-- An even number of bytes reads as the standard decoding of its units less the trailing zero
ones exactly when those units hold no lone low surrogate followed by a low surrogate. -/
theorem decode_eq_standard_iff {b : Bytes} (h : b.length % 2 = 0) :
    decode b = .ok (Text.ofString (String.ofList (standardChars (unitsOf (dropZeroUnits b))))) ↔
      ¬ LoneLowPair (unitsOf (dropZeroUnits b)) :=
  (decode_eq_ofList_iff h _).trans (decodeUnits_eq_standardChars_iff _)

/-- **Wide text written back from a payload**: when no surrogate of an even payload is unpaired,
the wide text of the text read is the payload less its trailing zero units. -/
theorem map_encode_decode {b : Bytes} (h : b.length % 2 = 0) (hp : Paired (unitsOf b)) :
    (decode b).map encode = .ok (dropZeroUnits b) := by
  have hpaired : Paired (unitsOf (dropZeroUnits b)) := by
    rw [unitsOf_dropZeroUnits h]
    exact hp.trimNul
  have heven : (dropZeroUnits b).length % 2 = 0 := by
    rw [dropZeroUnits_eq h, length_bytesOf]
    omega
  rw [decode_of_even h, ← trimNul_eq, ← unitsOf_dropZeroUnits h]
  -- the wide text of a read text is the bytes of the units of its characters
  show Except.ok (bytesOf (Text.chars _ |>.flatMap encodeChar)) = _
  rw [Text.chars_ofString_ofList, flatMap_encodeChar_decodeUnits hpaired, bytesOf_unitsOf heven]

/-- **Wide text against the standard decoding.** For an even number of bytes, the text read is
the standard decoding of its units less the trailing zero ones exactly when those units hold no
lone low surrogate followed by a low surrogate; and when no surrogate of the payload is
unpaired, the wide text of the text read is the payload less its trailing zero units. -/
theorem decode_standard_round_trip (b : Bytes) (h : b.length % 2 = 0) :
    (decode b = .ok (Text.ofString (String.ofList (standardChars (unitsOf (dropZeroUnits b))))) ↔
      ¬ LoneLowPair (unitsOf (dropZeroUnits b))) ∧
    (Paired (unitsOf b) → (decode b).map encode = .ok (dropZeroUnits b)) :=
  ⟨decode_eq_standard_iff h, map_encode_decode h⟩

/-- A payload with a byte order mark, a zero unit inside, a surrogate pair and a terminator. -/
theorem decode_standard_round_trip_marked :
    let b : Bytes := [0xFF, 0xFE, 0x00, 0x00, 0x3D, 0xD8, 0x00, 0xDE, 0x00, 0x00]
    b.length % 2 = 0 ∧ Paired (unitsOf b) ∧ (decode b).map encode = .ok (dropZeroUnits b) := by
  intro b
  have he : b.length % 2 = 0 := by decide
  have hp : Paired (unitsOf b) := by decide
  exact ⟨he, hp, (decode_standard_round_trip b he).2 hp⟩

/-- Two lone low surrogates read as one `U+FFFD`, where the standard decoding reads two. -/
theorem decode_two_low_surrogates :
    decode [0x00, 0xDC, 0x00, 0xDC] ≠
      .ok (Text.ofString (String.ofList
        (standardChars (unitsOf (dropZeroUnits [0x00, 0xDC, 0x00, 0xDC]))))) := by
  rw [Ne, decode_eq_ofList_iff (by decide)]
  decide

end Utf16

end MailStore
