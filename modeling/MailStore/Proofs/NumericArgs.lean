import Mathlib
import MailStore.Tool.Args
import MailStore.Proofs.TextCodec

/-!
# Numbers and decimal strings as tool arguments

A client may give a numeric tool argument as a JSON number or as a string. The two forms go
through different readers. A number is read as the nearest double and must be whole; a string
is read as an integer literal, and an unsigned one must fit a bit width: 16 bits for a column's
property id, 32 for a sort order's tag.

Below `2^53` every whole number is a double, so the number form reads back exactly
(`Args.wholeValue?_toString`): the decimal digits are summed into `n`, the nearest double has
significand `n · 2^(52 - log₂ n)` and exponent `log₂ n - 52`, and its fields, written to bits and
read back, give `n` again. The decimal string of `n` reads as `n` exactly when it fits the
width and is refused as out of range otherwise (`IntLiteral.parseUnsigned_toString`).

So the two forms agree for counts (`skip`, `take`) always, and for ids and tags only within
their width: past it the string is refused, while the number is accepted and cut to the width
of the field it fills.

## Main statements

* `Args.wholeValue?_toString`: a whole number below `2^53` reads back from its JSON number text.
* `IntLiteral.parseUnsigned_toString`: what the decimal string of a number reads as.
* `Args.numeric_argument_forms`: counts, ids and tags in number and in string form.
-/

namespace MailStore

namespace Text

theorem toString_ofString (s : String) : (ofString s).toString = s := by
  conv_lhs => rw [← String.ofList_toList (s := s)]
  rw [toString, chars_ofString_ofList, String.ofList_toList]

end Text

/-! ### The decimal text of a natural number -/

namespace Decimal

theorem toList_ne_nil (n : Nat) : (toString n).toList ≠ [] := by
  rw [Nat.toString_eq_repr, Nat.toList_repr]
  exact Nat.toDigits_ne_nil

theorem isDigit_of_mem {n : Nat} {c : Char} (h : c ∈ (toString n).toList) : c.isDigit = true := by
  rw [Nat.toString_eq_repr, Nat.toList_repr] at h
  exact Nat.isDigit_of_mem_toDigits (by decide) (by decide) h

theorem ofDigitChars_toList (n : Nat) : Nat.ofDigitChars 10 (toString n).toList 0 = n := by
  rw [Nat.toString_eq_repr, Nat.toList_repr, Nat.ofDigitChars_ten_toDigits]

/-- A digit is none of the marks a literal may carry besides digits: a sign, an underscore. -/
theorem ne_of_isDigit {c d : Char} (hc : c.isDigit = true) (hd : d.isDigit = false) : c ≠ d := by
  rintro rfl
  rw [hc] at hd
  cases hd

/-- A positive number is written without a leading zero. -/
theorem head_ne_zero {n : Nat} (h : n ≠ 0) :
    ∃ c rest, (toString n).toList = c :: rest ∧ c ≠ '0' := by
  rw [Nat.toString_eq_repr, Nat.toList_repr]
  induction n using Nat.strong_induction_on with
  | _ n ih =>
    rw [Nat.toDigits_eq_if (by decide)]
    split
    · refine ⟨n.digitChar, [], rfl, ?_⟩
      have hdigit : ∀ k < 10, k ≠ 0 → k.digitChar ≠ '0' := by decide
      exact hdigit n ‹_› h
    · -- the leading digit is that of `n / 10`
      obtain ⟨c, rest, hcr, hc⟩ := ih (n / 10) (by omega) (by omega)
      exact ⟨c, rest ++ [(n % 10).digitChar], by rw [hcr]; rfl, hc⟩

end Decimal

/-! ### The double nearest a whole number -/

namespace Binary64

section Packing

open Float.Model UnpackedFloat

theorem toNat_unpackMantissa (x : BitVec 64) :
    (@unpackMantissa Format.binary64 x).toNat = x.toNat % 2 ^ 52 := by
  simp [unpackMantissa]

theorem toNat_unpackExponent (x : BitVec 64) :
    (@unpackExponent Format.binary64 x).toNat = x.toNat / 2 ^ 52 % 2 ^ 11 := by
  simp [unpackExponent, Nat.shiftRight_eq_div_pow]

theorem toNat_unpackSign (x : BitVec 64) :
    (@unpackSign Format.binary64 x).toNat = x.toNat / 2 ^ 63 % 2 := by
  simp [unpackSign, Nat.shiftRight_eq_div_pow]

theorem toBitVec_ofBitVec (s : BitVec 1) : (Sign.ofBitVec s).toBitVec = s := by
  revert s
  decide

/-- The sign, exponent and fraction fields of a double put back together give its bits. -/
theorem packComponents_unpack (x : BitVec 64) :
    packComponents Format.binary64 (Sign.ofBitVec (@unpackSign Format.binary64 x))
      (unpackExponent x) (unpackMantissa x) = x := by
  apply BitVec.eq_of_toNat_eq
  rw [packComponents, toBitVec_ofBitVec]
  simp only [BitVec.toNat_append, toNat_unpackMantissa, toNat_unpackExponent, toNat_unpackSign]
  have := x.isLt
  rw [← Nat.shiftLeft_add_eq_or_of_lt (by omega), ← Nat.shiftLeft_add_eq_or_of_lt (by omega),
    Nat.shiftLeft_eq, Nat.shiftLeft_eq]
  omega

/-- Every bit pattern but a NaN's is packed back as it was unpacked: zeros, subnormals and
normal doubles alike. -/
theorem pack_unpack (x : BitVec 64) (h : @unpackExponent Format.binary64 x ≠ -1#11) :
    UnpackedFloat.pack Format.binary64 (UnpackedFloat.unpack Format.binary64 x) = x := by
  unfold UnpackedFloat.unpack
  dsimp only
  rw [if_neg h]
  have hbias : Format.binary64.exponentBias = 1023 := rfl
  have hbits : Format.binary64.mantissaBits = 53 := rfl
  split_ifs with h0 hm
  · -- zero
    rw [UnpackedFloat.pack, packedZero]
    conv_rhs => rw [← packComponents_unpack x, h0, hm]
    rfl
  · -- subnormal: exponent field zero, significand below `2^52`
    have hE : (@unpackExponent Format.binary64 x).toNat = 0 := by rw [h0]; rfl
    have hm0 : (@unpackMantissa Format.binary64 x).toNat ≠ 0 :=
      fun h' => hm (BitVec.eq_of_toNat_eq h')
    have hlog : (@unpackMantissa Format.binary64 x).toNat.log2 < 52 :=
      (Nat.log2_lt hm0).2 (@unpackMantissa Format.binary64 x).isLt
    simp only [UnpackedFloat.pack]
    rw [hbias, hbits, hE, if_neg (by omega), if_neg (by omega)]
    conv_rhs => rw [← packComponents_unpack x, h0]
    rw [BitVec.ofNat_toNat, BitVec.setWidth_eq]
  · -- normal: the implicit leading bit makes the significand `2^52` plus the fraction
    have hE : (@unpackExponent Format.binary64 x).toNat ≠ 0 :=
      fun h' => h0 (BitVec.eq_of_toNat_eq h')
    have hE' : (@unpackExponent Format.binary64 x).toNat ≠ 2047 :=
      fun h' => h (BitVec.eq_of_toNat_eq h')
    have hElt : (@unpackExponent Format.binary64 x).toNat < 2 ^ 11 := BitVec.isLt _
    have hmlt : (@unpackMantissa Format.binary64 x).toNat < 2 ^ 52 := BitVec.isLt _
    have hm : (1#1 ++ @unpackMantissa Format.binary64 x).toNat =
        2 ^ 52 + (@unpackMantissa Format.binary64 x).toNat := by
      rw [BitVec.toNat_append, ← Nat.shiftLeft_add_eq_or_of_lt hmlt, Nat.shiftLeft_eq]
      simp
    have hlog : (1#1 ++ @unpackMantissa Format.binary64 x).toNat.log2 = 52 := by
      rw [hm, Nat.log2_eq_iff (by omega)]
      omega
    simp only [UnpackedFloat.pack]
    rw [hbias, hbits, hlog, if_neg (by omega), if_pos rfl]
    conv_rhs => rw [← packComponents_unpack x]
    congr 1
    · apply BitVec.eq_of_toNat_eq
      simp only [BitVec.toNat_ofNat]
      omega
    · apply BitVec.eq_of_toNat_eq
      rw [BitVec.toNat_ofNat, hm]
      omega

end Packing

/-- A double made from bits that are not a NaN's gives those bits back. -/
theorem toBits_ofBits {b : UInt64} (h : b.toNat / 2 ^ 52 % 2 ^ 11 ≠ 2047) :
    (Float.ofBits b).toBits = b := by
  have hexp : @Float.Model.UnpackedFloat.unpackExponent
      Float.Model.Format.binary64 b.toBitVec ≠ -1#11 := by
    intro he
    have := congrArg BitVec.toNat he
    rw [toNat_unpackExponent] at this
    exact h this
  show UInt64.ofBitVec _ = b
  rw [pack_unpack _ hexp]

/-- The bits of a double with exponent field `E` and fraction `F`. -/
theorem toNat_fields {E F : Nat} (hE : E < 2 ^ 11) (hF : F < 2 ^ 52) :
    (E.toUInt64 <<< 52 ||| F.toUInt64).toNat = E * 2 ^ 52 + F := by
  have h52 : (52 : UInt64).toNat % 64 = 52 := rfl
  rw [UInt64.toNat_or, UInt64.toNat_shiftLeft, h52, Nat.toUInt64_eq, Nat.toUInt64_eq,
    UInt64.toNat_ofNat', UInt64.toNat_ofNat', Nat.mod_eq_of_lt (show E < 2 ^ 64 by omega),
    Nat.mod_eq_of_lt (show F < 2 ^ 64 by omega),
    Nat.mod_eq_of_lt (show E <<< 52 < 2 ^ 64 by rw [Nat.shiftLeft_eq]; omega),
    ← Nat.shiftLeft_add_eq_or_of_lt hF, Nat.shiftLeft_eq]

/-- A positive double that is neither subnormal nor special, by its exponent field `E` and
fraction `F`. -/
theorem decompose_of_fields {f : Float} {E F : Nat} (hb : f.toBits.toNat = E * 2 ^ 52 + F)
    (hE0 : 0 < E) (hE : E < 2047) (hF : F < 2 ^ 52) :
    decompose f = (false, F + 2 ^ 52, (E : Int) - 1075) ∧ isSpecial f = false := by
  have hsign : (f.toBits >>> 63).toNat = 0 := by
    rw [UInt64.toNat_shiftRight, show (63 : UInt64).toNat % 64 = 63 from rfl,
      Nat.shiftRight_eq_div_pow, hb]
    omega
  have hfield : ((f.toBits >>> 52) &&& 0x7FF).toNat = E := by
    rw [UInt64.toNat_and, UInt64.toNat_shiftRight, show (52 : UInt64).toNat % 64 = 52 from rfl,
      Nat.shiftRight_eq_div_pow, hb, show (0x7FF : UInt64).toNat = 2 ^ 11 - 1 from rfl,
      Nat.and_two_pow_sub_one_eq_mod]
    omega
  have hfrac : (f.toBits &&& 0xFFFFFFFFFFFFF).toNat = F := by
    rw [UInt64.toNat_and, hb, show (0xFFFFFFFFFFFFF : UInt64).toNat = 2 ^ 52 - 1 from rfl,
      Nat.and_two_pow_sub_one_eq_mod]
    omega
  have hs : (f.toBits >>> 63) = 0 := UInt64.toNat_inj.1 hsign
  have hne : ((f.toBits >>> 52) &&& 0x7FF) ≠ 0x7FF := fun h => by
    rw [h, show (0x7FF : UInt64).toNat = 2047 from rfl] at hfield
    omega
  unfold decompose isSpecial
  simp [hs, hfield, hfrac, hne, show E ≠ 0 by omega]

/-- The zero double. -/
theorem decompose_zero :
    decompose (Float.ofBits 0) = (false, 0, -1074) ∧ isSpecial (Float.ofBits 0) = false := by
  have hz : (Float.ofBits 0).toBits = 0 := toBits_ofBits (by decide)
  unfold decompose isSpecial
  rw [hz]
  decide

theorem pow2_natCast (k : Nat) : pow2 k = (2 ^ k, 1) := by
  simp [pow2, Nat.pow_eq]

theorem floorLog2_one {n : Nat} (h : n ≠ 0) : floorLog2 n 1 = n.log2 := by
  have hle : 2 ^ n.log2 ≤ n := Nat.log2_self_le h
  have h1 : (1 : Nat).log2 = 0 := by decide
  unfold floorLog2
  simp only [h1, Nat.cast_zero, sub_zero, pow2_natCast, Nat.mul_one]
  rw [if_neg (by omega)]

section Whole

variable {n : Nat} (h0 : n ≠ 0) (hn : n < 2 ^ 53)
include h0 hn

theorem log2_lt : n.log2 < 53 := (Nat.log2_lt h0).2 hn

/-- The significand of a whole number: `n` shifted up until its leading bit is bit 52. -/
theorem significand_lt : n * 2 ^ (52 - n.log2) < 2 ^ 53 :=
  calc n * 2 ^ (52 - n.log2) < 2 ^ (n.log2 + 1) * 2 ^ (52 - n.log2) :=
        Nat.mul_lt_mul_of_pos_right Nat.lt_log2_self (by positivity)
    _ = 2 ^ 53 := by
        have hlog := log2_lt h0 hn
        rw [← Nat.pow_add]
        congr 1
        omega

theorem le_significand : 2 ^ 52 ≤ n * 2 ^ (52 - n.log2) :=
  calc 2 ^ 52 = 2 ^ n.log2 * 2 ^ (52 - n.log2) := by
        have hlog := log2_lt h0 hn
        rw [← Nat.pow_add]
        congr 1
        omega
    _ ≤ n * 2 ^ (52 - n.log2) := Nat.mul_le_mul_right _ (Nat.log2_self_le h0)

/-- A whole number below `2^53` is read as the double with exponent field `log₂ n + 1023` and
its significand less the leading bit as fraction: no rounding happens. -/
theorem ofDecimal?_eq_ofBits :
    ofDecimal? false n 0 = some (Float.ofBits
      ((n.log2 + 1023).toUInt64 <<< 52 ||| (n * 2 ^ (52 - n.log2) - 2 ^ 52).toUInt64)) := by
  have hlog := log2_lt h0 hn
  have hlen : (toString n).length ≤ 16 :=
    (Nat.length_repr_le_iff (by decide)).2 (lt_of_lt_of_le hn (by norm_num))
  have hq := significand_lt h0 hn
  have hq' := le_significand h0 hn
  unfold ofDecimal?
  rw [if_neg h0, if_neg (by omega), if_neg (by omega), show pow10 0 = (1, 1) from rfl]
  -- the binary exponent of the last significand bit, and the scaling it asks for
  have hb : max ((n.log2 : Int) - 52) (-1074) = (n.log2 : Int) - 52 := by omega
  have hp : pow2 (-((n.log2 : Int) - 52)) = (2 ^ (52 - n.log2), 1) := by
    rw [show -((n.log2 : Int) - 52) = ((52 - n.log2 : Nat) : Int) by omega, pow2_natCast]
  -- the remainder is zero, so nothing rounds; the significand stays in `[2^52, 2^53)`
  have hround : ¬ (2 * 0 > 1 ∨ 2 * 0 = 1 ∧ n * 2 ^ (52 - n.log2) % 2 = 1) := by omega
  have hfield : ¬ ((n.log2 : Int) - 52 + 1075 ≥ 2047) := by omega
  have htoNat : ((n.log2 : Int) - 52 + 1075).toNat = n.log2 + 1023 := by omega
  simp only [Nat.mul_one, floorLog2_one h0, hb, hp, Nat.div_one, Nat.mod_one, Nat.pow_eq,
    if_neg hround, if_neg hq.ne, if_neg (not_lt.2 hq'), if_neg hfield, htoNat]
  simp

/-- The double read from a whole number below `2^53` holds it exactly: its significand is
`n · 2^(52 - log₂ n)` and its exponent `log₂ n - 52`. -/
theorem ofDecimal?_whole :
    ∃ f, ofDecimal? false n 0 = some f ∧ isSpecial f = false ∧
      decompose f = (false, n * 2 ^ (52 - n.log2), -((52 - n.log2 : Nat) : Int)) := by
  have hlog := log2_lt h0 hn
  have hq := significand_lt h0 hn
  have hq' := le_significand h0 hn
  have hbits := toNat_fields (E := n.log2 + 1023) (F := n * 2 ^ (52 - n.log2) - 2 ^ 52)
    (by omega) (by omega)
  have htb : (Float.ofBits ((n.log2 + 1023).toUInt64 <<< 52 |||
      (n * 2 ^ (52 - n.log2) - 2 ^ 52).toUInt64)).toBits.toNat =
      (n.log2 + 1023) * 2 ^ 52 + (n * 2 ^ (52 - n.log2) - 2 ^ 52) := by
    rw [toBits_ofBits (by rw [hbits]; omega), hbits]
  obtain ⟨hd, hs⟩ := decompose_of_fields htb (by omega) (by omega) (by omega)
  refine ⟨_, ofDecimal?_eq_ofBits h0 hn, hs, ?_⟩
  have hexp : ((n.log2 + 1023 : Nat) : Int) - 1075 = -((52 - n.log2 : Nat) : Int) := by omega
  rw [hd, Nat.sub_add_cancel hq', hexp]

end Whole

/-- JSON number text of digits only is read as the double nearest their value. -/
theorem parseJsonNumber?_of_digits {cs : List Char} (hne : cs ≠ [])
    (hd : ∀ c ∈ cs, c.isDigit = true) :
    parseJsonNumber? (String.ofList cs) = ofDecimal? false (Nat.ofDigitChars 10 cs 0) 0 := by
  obtain ⟨c, rest, rfl⟩ := List.exists_cons_of_ne_nil hne
  have hc : c ≠ '-' := Decimal.ne_of_isDigit (hd _ List.mem_cons_self) (by decide)
  have htake : (c :: rest).takeWhile Char.isDigit = c :: rest := List.takeWhile_eq_self_iff.2 hd
  have hdrop : (c :: rest).dropWhile Char.isDigit = [] := List.dropWhile_eq_nil_iff.2 hd
  unfold parseJsonNumber?
  simp only [String.toList_ofList]
  split
  · simp_all
  · simp [htake, hdrop, Nat.ofDigitChars]

end Binary64

namespace Args

/-- A double of significand `m · 2^k` and exponent `-k` holds the whole number `m`. -/
theorem wholeValue?_of_decompose {f : Float} {m k : Nat} (hs : Binary64.isSpecial f = false)
    (hd : Binary64.decompose f = (false, m * 2 ^ k, -(k : Int))) :
    wholeValue? f = some (m : Int) := by
  unfold wholeValue?
  rw [hs, hd, if_neg Bool.false_ne_true]
  rcases Nat.eq_zero_or_pos k with rfl | hk
  · simp
  · simp [Nat.pow_eq, Nat.mul_div_cancel _ (Nat.two_pow_pos k), Nat.pos_iff_ne_zero.1 hk]

/-- **A whole number below `2^53` reads back from its JSON number text.** -/
theorem wholeValue?_toString (n : Nat) (hn : n < 2 ^ 53) :
    (Binary64.parseJsonNumber? (toString n)).bind wholeValue? = some (n : Int) := by
  have hd : ∀ c ∈ (toString n).toList, c.isDigit = true := fun _ => Decimal.isDigit_of_mem
  rw [← String.ofList_toList (s := toString n),
    Binary64.parseJsonNumber?_of_digits (Decimal.toList_ne_nil n) hd, Decimal.ofDigitChars_toList]
  rcases Nat.eq_zero_or_pos n with rfl | hpos
  · obtain ⟨hd0, hs0⟩ := Binary64.decompose_zero
    have hd0' : Binary64.decompose (Float.ofBits 0) =
        (false, 0 * 2 ^ 1074, -((1074 : Nat) : Int)) := by
      rw [hd0, Nat.zero_mul]
      rfl
    rw [show Binary64.ofDecimal? false 0 0 = some (Float.ofBits 0) from rfl, Option.bind_some,
      wholeValue?_of_decompose hs0 hd0']
  · obtain ⟨f, hf, hs, hdf⟩ := Binary64.ofDecimal?_whole (Nat.pos_iff_ne_zero.1 hpos) hn
    rw [hf, Option.bind_some, wholeValue?_of_decompose hs hdf]

end Args

/-! ### Integer literals in decimal -/

namespace IntLiteral

theorem digitValue_of_isDigit {c : Char} (h : c.isDigit = true) :
    digitValue c = some (c.toNat - 48) ∧ c.toNat - 48 < 10 := by
  simp only [Char.isDigit, Bool.and_eq_true, decide_eq_true_eq] at h
  have h1 : '0' ≤ c := h.1
  have h2 : c ≤ '9' := h.2
  refine ⟨by simp [digitValue, h1, h2], ?_⟩
  have : c.toNat ≤ 57 := h2
  omega

/-- Decimal digits accumulate to their value, or to a range failure once it passes `max`. -/
theorem accumulate_decimal {max : Nat} {ds : List Char} (hd : ∀ c ∈ ds, c.isDigit = true)
    {a : Nat} (ha : a ≤ max) :
    accumulate 10 max true a ds =
      if Nat.ofDigitChars 10 ds a ≤ max then .ok (Nat.ofDigitChars 10 ds a, false)
      else .error .range := by
  induction ds generalizing a with
  | nil => simp [accumulate, ha]
  | cons c rest ih =>
    have hc := hd c List.mem_cons_self
    obtain ⟨hv, hlt⟩ := digitValue_of_isDigit hc
    have hu : c ≠ '_' := Decimal.ne_of_isDigit hc (by decide)
    -- the value read so far never exceeds the value of the whole literal
    have hge : a * 10 + (c.toNat - 48) ≤ Nat.ofDigitChars 10 rest (a * 10 + (c.toNat - 48)) := by
      rw [Nat.ofDigitChars_eq_ofDigitChars_zero]
      exact le_add_right (Nat.le_mul_of_pos_left _ (Nat.pow_pos (by decide)))
    have hstep : 10 * a + (c.toNat - '0'.toNat) = a * 10 + (c.toNat - 48) := by
      rw [Nat.mul_comm]
      rfl
    rw [accumulate, if_neg (by simp [hu]), hv, Nat.ofDigitChars_cons]
    simp only [show ¬ (c.toNat - 48 ≥ 10) by omega, if_false, hstep]
    by_cases hgt : a * 10 + (c.toNat - 48) > max
    · rw [if_pos hgt, if_neg (by omega)]
    · rw [if_neg hgt, ih (fun x hx => hd x (List.mem_cons_of_mem c hx)) (by omega)]

theorem splitBase_of_ne_zero {c : Char} (rest : List Char) (hc : c ≠ '0') :
    splitBase (c :: rest) = (10, c :: rest) := by
  unfold splitBase
  split <;> simp_all

/-- **The decimal string of a number, read as an unsigned literal:** the number when it fits the
width, a range failure otherwise. -/
theorem parseUnsigned_toString (n bits : Nat) :
    parseUnsigned (toString n) bits = if n < 2 ^ bits then .ok n else .error .range := by
  rcases Nat.eq_zero_or_pos n with rfl | h0
  · simp [parseUnsigned, splitBase, accumulate, bind, Except.bind, pure, Except.pure]
  · obtain ⟨c, rest, hcs, hc⟩ := Decimal.head_ne_zero (Nat.pos_iff_ne_zero.1 h0)
    have hd : ∀ x ∈ c :: rest, x.isDigit = true := fun x hx => Decimal.isDigit_of_mem (hcs ▸ hx)
    have hval := Decimal.ofDigitChars_toList n
    rw [hcs] at hval
    unfold parseUnsigned
    simp only [hcs, List.isEmpty_cons, splitBase_of_ne_zero rest hc,
      accumulate_decimal hd (Nat.zero_le _), hval, Nat.pow_eq, Bool.false_eq_true, if_false]
    have hpos : 0 < 2 ^ bits := Nat.two_pow_pos bits
    by_cases hfit : n < 2 ^ bits
    · simp [hfit, show n ≤ 2 ^ bits - 1 by omega, bind, Except.bind, pure, Except.pure]
    · simp [hfit, show ¬ n ≤ 2 ^ bits - 1 by omega, bind, Except.bind]

/-- The decimal string of a count reads as the count. -/
theorem parseDecimal?_toString {n : Nat} (h : n < 2 ^ 63) :
    parseDecimal? (toString n) = some n := by
  obtain ⟨c, rest, hcs⟩ := List.exists_cons_of_ne_nil (Decimal.toList_ne_nil n)
  have hd : ∀ x ∈ c :: rest, x.isDigit = true := fun x hx => Decimal.isDigit_of_mem (hcs ▸ hx)
  have hval := Decimal.ofDigitChars_toList n
  rw [hcs] at hval
  have hc := hd c List.mem_cons_self
  have hplus : c ≠ '+' := Decimal.ne_of_isDigit hc (by decide)
  have hminus : c ≠ '-' := Decimal.ne_of_isDigit hc (by decide)
  unfold parseDecimal?
  simp only [hcs]
  -- no sign: the whole text is the digits
  split
  · simp_all
  · simp_all
  · have hfold : List.foldl (fun n c => 10 * n + (c.toNat - 48)) (c.toNat - 48) rest = n := by
      rw [← hval]
      simp [Nat.ofDigitChars]
    have h' : n < 9223372036854775808 := h
    simp [List.all_eq_true.2 hd, Nat.pow_eq, hfold, h']

end IntLiteral

/-! ### Tool arguments in both forms -/

namespace Args

variable {n : Nat}

/-- The refusal of a decimal string whose number does not fit the width of argument `name`. -/
def outOfRange (name : String) (n : Nat) : Failure :=
  Failure.other ("invalid " ++ name ++ " " ++ Quote.text (Text.ofString (toString n)) ++ ": " ++
    IntLiteral.message "ParseUint" (toString n) .range)

theorem count_number {args : Json} {name : String} (hn : n < 2 ^ 53)
    (h : args.get? name = some (.nat n)) : count args name = .ok n := by
  have hlt : (n : Int) < 9223372036854775808 := by omega
  simp only [count, h, Json.nat]
  rw [wholeValue?_toString n hn]
  simp [hlt]

theorem count_decimal {args : Json} {name : String} (hn : n < 2 ^ 63)
    (h : args.get? name = some (.str (toString n))) : count args name = .ok n := by
  simp only [count, h, Json.str, Text.toString_ofString]
  rw [IntLiteral.parseDecimal?_toString hn]
  simp

theorem unsigned_number (hn : n < 2 ^ 53) (name : String) (bits : Nat) :
    unsigned (some (.nat n)) name bits = .ok n := by
  have hlt : (n : Int) < 18446744073709551616 := by omega
  obtain ⟨f, hp, hw⟩ := Option.bind_eq_some_iff.1 (wholeValue?_toString n hn)
  simp only [unsigned, Json.nat]
  rw [hp]
  simp only []
  rw [hw]
  simp [hlt]

theorem unsigned_decimal (name : String) (bits : Nat) :
    unsigned (some (.str (toString n))) name bits =
      if n < 2 ^ bits then .ok n else .error (outOfRange name n) := by
  simp only [unsigned, Json.str, Text.toString_ofString, IntLiteral.parseUnsigned_toString]
  split_ifs <;> rfl

/-- A count reads only its own member. -/
theorem count_congr {args args' : Json} {name : String} (h : args.get? name = args'.get? name) :
    count args name = count args' name := by
  unfold count
  rw [h]

/-- A column whose id is a number, and the same column with the id as its decimal string: the
string gives the same column within 16 bits and is refused past them. The number always gives
the id `n`, as a 32-bit property id. -/
theorem column_forms {c c' : Json} (hn : n < 2 ^ 53) (ht : c.get? "type" = c'.get? "type")
    (h : c.get? "id" = some (.nat n)) (h' : c'.get? "id" = some (.str (toString n))) :
    column c' = (column c).bind
        (fun col => if n < 2 ^ 16 then .ok col else .error (outOfRange "id" n)) ∧
      ∀ col, column c = .ok col → col.id = .numeric n.toUInt32 := by
  unfold column
  rw [← ht, h, h']
  simp only [unsigned_number hn, unsigned_decimal]
  cases ColumnType.parse _ with
  | error e => simp [bind, Except.bind]
  | ok type =>
    by_cases hfit : n < 65536 <;> simp [hfit, bind, Except.bind, pure, Except.pure]

/-- Directives with one sort order whose tag is a number, and the same directives with the tag
as its decimal string: the string gives the same directives within 32 bits and is refused past
them. The number always sorts on the tag `n` cut to 32 bits. -/
theorem directives_forms {args args' : Json} {ms ms' : List (String × Json)} (hn : n < 2 ^ 53)
    (hskip : args.get? "skip" = args'.get? "skip") (htake : args.get? "take" = args'.get? "take")
    (ho : args.get? "order_by" = some (.array [.object ms]))
    (ho' : args'.get? "order_by" = some (.array [.object ms']))
    (hdesc : flag (.object ms) "descending" = flag (.object ms') "descending")
    (ht : (Json.object ms).get? "tag" = some (.nat n))
    (ht' : (Json.object ms').get? "tag" = some (.str (toString n))) :
    directives args' = (directives args).bind
        (fun d => if n < 2 ^ 32 then .ok d else .error (outOfRange "tag" n)) ∧
      ∀ d, directives args = .ok d →
        d.orderBy = [⟨⟨n.toUInt32⟩, flag (.object ms) "descending"⟩] := by
  unfold directives
  rw [count_congr hskip, count_congr htake, ho, ho']
  simp only [List.mapM_cons, List.mapM_nil, ht, ht', ← hdesc, unsigned_number hn, unsigned_decimal]
  cases count args' "skip" with
  | error e => simp [bind, Except.bind]
  | ok skip =>
    cases count args' "take" with
    | error e => simp [bind, Except.bind]
    | ok take =>
      by_cases hfit : n < 4294967296 <;> simp [hfit, bind, Except.bind, pure, Except.pure]

/-- **Numeric arguments in number and in string form.** For a whole number `n` below `2^53`: a
count reads as `n` given as a JSON number or as its decimal string; an unsigned argument reads
the number as `n` at every width, and the decimal string as `n` only within the width, refusing
it as out of range past it. Hence a column's id (16 bits) and a sort order's tag (32 bits) read
the same in both forms exactly within their width; past it the string is refused while the
number is taken, as a 32-bit id or tag. -/
theorem numeric_argument_forms (n : Nat) (hn : n < 2 ^ 53) :
    (∀ (args : Json) (name : String),
      args.get? name = some (.nat n) ∨ args.get? name = some (.str (toString n)) →
        count args name = .ok n) ∧
    (∀ (name : String) (bits : Nat), unsigned (some (.nat n)) name bits = .ok n ∧
      unsigned (some (.str (toString n))) name bits =
        if n < 2 ^ bits then .ok n else .error (outOfRange name n)) ∧
    (∀ c c' : Json, c.get? "type" = c'.get? "type" → c.get? "id" = some (.nat n) →
      c'.get? "id" = some (.str (toString n)) →
        column c' = (column c).bind
            (fun col => if n < 2 ^ 16 then .ok col else .error (outOfRange "id" n)) ∧
          ∀ col, column c = .ok col → col.id = .numeric n.toUInt32) ∧
    (∀ (args args' : Json) (ms ms' : List (String × Json)),
      args.get? "skip" = args'.get? "skip" → args.get? "take" = args'.get? "take" →
      args.get? "order_by" = some (.array [.object ms]) →
      args'.get? "order_by" = some (.array [.object ms']) →
      flag (.object ms) "descending" = flag (.object ms') "descending" →
      (Json.object ms).get? "tag" = some (.nat n) →
      (Json.object ms').get? "tag" = some (.str (toString n)) →
        directives args' = (directives args).bind
            (fun d => if n < 2 ^ 32 then .ok d else .error (outOfRange "tag" n)) ∧
          ∀ d, directives args = .ok d →
            d.orderBy = [⟨⟨n.toUInt32⟩, flag (.object ms) "descending"⟩]) := by
  have h63 : n < 2 ^ 63 := lt_of_lt_of_le hn (Nat.pow_le_pow_right (by decide) (by decide))
  refine ⟨?_, fun name bits => ⟨unsigned_number hn name bits, unsigned_decimal name bits⟩,
    fun _ _ ht h h' => column_forms hn ht h h',
    fun _ _ _ _ hs htk ho ho' hd ht ht' => directives_forms hn hs htk ho ho' hd ht ht'⟩
  rintro args name (h | h)
  · exact count_number hn h
  · exact count_decimal h63 h

/-- Id `65536`, one past 16 bits: read as a number, refused as a decimal string. -/
theorem numeric_argument_forms_id_65536 :
    unsigned (some (.nat 65536)) "id" 16 = .ok 65536 ∧
      unsigned (some (.str (toString 65536))) "id" 16 = .error (outOfRange "id" 65536) := by
  obtain ⟨-, hu, -, -⟩ := numeric_argument_forms 65536 (by norm_num)
  refine ⟨(hu "id" 16).1, ?_⟩
  rw [(hu "id" 16).2, if_neg (by norm_num)]

end Args

end MailStore
