import Mathlib
import MailStore.Prop.Codec
import MailStore.Proofs.FileTime
import MailStore.Proofs.TextCodec

/-!
# Writing a value and reading it back

Every value but a stream has a wire form, under a tag that keeps the property id asked for.
Reading that form back gives `Value.onWire v`: integers of every 64-bit value, booleans, GUIDs
and bytes come back as they were; text comes back as the characters its bytes mean as UTF-8,
less trailing U+0000s, since the wide form is UTF-16 and the reader strips NULs; an instant
comes back as its whole ticks of 100 ns, the tick count wrapped into 64 signed bits, since the
wire form is a FILETIME. `Value.Kept` names the values that come back as themselves.

An integer goes out in 32 bits exactly when it fits in 32 signed bits, and otherwise in 64.
Both widths are read as two's complement (`Codec.signed`), which undoes the residue the writer
took (`Codec.signed_of_emod`).

## Main statements

* `Codec.decode_of_encode`: what a written value reads back as.
* `Value.onWire_eq_self_iff`: which values read back as themselves.
* `Codec.encode_decode_round_trip`: the round trip, with the width an integer is written in and
  the instants whose tick count fits in 64 signed bits.
-/

namespace MailStore

/-! ### Little-endian words and GUID bytes -/

namespace Bytes

theorem toNatLE_ofNatLE (w n : Nat) : toNatLE (ofNatLE w n) = n % 256 ^ w := by
  induction w generalizing n with
  | zero => simp [ofNatLE, toNatLE, Nat.mod_one]
  | succ w ih =>
    have h : n % 256 % 2 ^ 8 = n % 256 := Nat.mod_eq_of_lt (by omega)
    rw [ofNatLE, toNatLE, ih, pow_succ', Nat.mod_mul, UInt8.toNat_ofNat', h]

/-- Eight little-endian bytes hold a 64-bit word whole. -/
theorem toNatLE_ofNatLE_uint64 (x : UInt64) : toNatLE (ofNatLE 8 x.toNat) = x.toNat := by
  rw [toNatLE_ofNatLE, Nat.mod_eq_of_lt (lt_of_lt_of_eq x.toNat_lt (by norm_num))]

end Bytes

namespace Guid

/-- A big-endian number is the little-endian number of the reversed bytes. -/
theorem natBE_reverse (l : Bytes) : natBE l.reverse = Bytes.toNatLE l := by
  induction l with
  | nil => rfl
  | cons x l ih =>
    rw [List.reverse_cons, natBE, List.foldl_append, ← natBE, ih]
    simp [Bytes.toNatLE]
    omega

/-- Eight big-endian bytes hold a 64-bit word whole. -/
theorem natBE_ofNatBE_uint64 (x : UInt64) : natBE (Bytes.ofNatBE 8 x.toNat) = x.toNat := by
  rw [Bytes.ofNatBE, natBE_reverse, Bytes.toNatLE_ofNatLE_uint64]

theorem ofBytes?_toBytes (g : Guid) : ofBytes? g.toBytes = some g := by
  have hlen : (Bytes.ofNatBE 8 g.hi.toNat).length = 8 := by
    simp [Bytes.ofNatBE, Bytes.length_ofNatLE]
  rw [ofBytes?, if_pos (length_toBytes g), toBytes, List.take_left' hlen, List.drop_left' hlen,
    natBE_ofNatBE_uint64, natBE_ofNatBE_uint64, Nat.toUInt64_eq, Nat.toUInt64_eq,
    UInt64.ofNat_toNat, UInt64.ofNat_toNat]

end Guid

namespace Codec

/-! ### Two's complement -/

/-- Reading `bits` bits as two's complement is the balanced residue modulo `2 ^ bits`. -/
theorem signed_eq_bmod {bits n : Nat} (hb : 0 < bits) (hn : n < 2 ^ bits) :
    signed bits n = (n : Int).bmod (2 ^ bits) := by
  obtain ⟨k, rfl⟩ : ∃ k, bits = k + 1 := ⟨bits - 1, by omega⟩
  have hs : signed (k + 1) n = if n < 2 ^ k then (n : Int) else n - 2 ^ k * 2 := rfl
  rw [hs, Int.bmod, Int.emod_eq_of_lt (by omega) (by exact_mod_cast hn),
    show (2 : Int) ^ k * 2 = ((2 ^ k * 2 : Nat) : Int) by push_cast; ring, ← pow_succ]
  rw [pow_succ] at hn ⊢
  -- both sides compare `n` with half the modulus; only that half matters
  generalize 2 ^ k = P at hn ⊢
  split <;> split <;> omega

/-- The residue modulo `2 ^ bits` of an integer in the signed range reads back as it. -/
theorem signed_of_emod {bits n : Nat} {x : Int} (hb : 0 < bits)
    (hn : (n : Int) = x % (2 ^ bits : Nat)) (hlo : -((2 ^ bits : Nat) : Int) ≤ x * 2)
    (hhi : x * 2 < (2 ^ bits : Nat)) : signed bits n = x := by
  have hlt : n < 2 ^ bits := by
    have := Int.emod_lt_of_pos x (b := ((2 ^ bits : Nat) : Int)) (by positivity)
    omega
  rw [signed_eq_bmod hb hlt, hn, Int.emod_bmod]
  exact Int.bmod_eq_of_le_mul_two hlo hhi

theorem fitsLong_iff (n : Int64) :
    fitsLong n = true ↔ -(2 ^ 31) ≤ n.toInt ∧ n.toInt < 2 ^ 31 := by
  simp [fitsLong]

/-- A 32-bit payload written from an integer that fits reads back as that integer. -/
theorem signed_long_payload {n : Int64} (h : fitsLong n = true) :
    Int.toInt64 (signed 32 (Bytes.toNatLE (Bytes.ofNatLE 4 (n.toInt % Int.pow 2 32).toNat))) =
      n := by
  have hfit := (fitsLong_iff n).1 h
  have hnn : 0 ≤ n.toInt % Int.pow 2 32 := Int.emod_nonneg _ (by decide)
  have hlt : (n.toInt % Int.pow 2 32).toNat < 256 ^ 4 := by
    have := Int.emod_lt_of_pos n.toInt (b := Int.pow 2 32) (by decide)
    have h32 : Int.pow 2 32 = 4294967296 := rfl
    omega
  rw [Bytes.toNatLE_ofNatLE, Nat.mod_eq_of_lt hlt,
    signed_of_emod (by omega) (by rw [Int.toNat_of_nonneg hnn]; rfl) (by omega) (by omega),
    Int.toInt64, Int64.ofInt_toInt]

/-- A 64-bit payload reads back as the integer it was written from, whatever its sign. -/
theorem signed_i8_payload (n : Int64) :
    Int.toInt64 (signed 64 (Bytes.toNatLE (Bytes.ofNatLE 8 n.toUInt64.toNat))) = n := by
  have hlo := Int64.le_toInt n
  have hhi := Int64.toInt_lt n
  rw [Bytes.toNatLE_ofNatLE_uint64,
    signed_of_emod (by omega) (Int64.toNat_toUInt64 n) (by norm_num at hlo ⊢; omega)
      (by norm_num at hhi ⊢; omega),
    Int.toInt64, Int64.ofInt_toInt]

/-! ### Reading each wire type -/

section Decode

variable (id : UInt16)

theorem decode_long {b : Bytes} (hl : b.length = 4) :
    decode ⟨Tag.make .long id, b⟩ =
      .ok (some (.int (Int.toInt64 (signed 32 (Bytes.toNatLE b))))) := by
  simp +decide [decode, expectLength, hl, bind, Except.bind, pure, Except.pure]

theorem decode_i8 {b : Bytes} (hl : b.length = 8) :
    decode ⟨Tag.make .i8 id, b⟩ =
      .ok (some (.int (Int.toInt64 (signed 64 (Bytes.toNatLE b))))) := by
  simp +decide [decode, expectLength, hl, bind, Except.bind, pure, Except.pure]

theorem decode_boolean {b : Bytes} (hl : b.length = 2) :
    decode ⟨Tag.make .boolean id, b⟩ = .ok (some (.bool (Bytes.toNatLE b != 0))) := by
  simp +decide [decode, expectLength, hl, bind, Except.bind, pure, Except.pure]

theorem decode_unicode (b : Bytes) :
    decode ⟨Tag.make .unicode id, b⟩ = (Utf16.decode b).map fun s => some (.string s) := by
  simp +decide [decode, bind, Except.bind, pure, Except.pure, Except.map]

theorem decode_clsid {b : Bytes} (hl : b.length = 16) :
    decode ⟨Tag.make .clsid id, b⟩ = .ok ((Guid.ofBytes? b).map .guid) := by
  simp +decide [decode, expectLength, hl, bind, Except.bind, pure, Except.pure]

theorem decode_sysTime {b : Bytes} (hl : b.length = 8) :
    decode ⟨Tag.make .sysTime id, b⟩ =
      .ok (some (.dateTime (Instant.ofFileTime (Bytes.toNatLE b).toUInt64))) := by
  simp +decide [decode, expectLength, hl, bind, Except.bind, pure, Except.pure]

theorem decode_binary (b : Bytes) :
    decode ⟨Tag.make .binary id, b⟩ = .ok (some (.binary b)) := by
  simp +decide [decode, pure, Except.pure]

end Decode

end Codec

/-! ### What a value reads back as -/

namespace Value

/-- The value that a property written from `v` reads back as. Text keeps the characters its
bytes mean as UTF-8, less trailing U+0000s; an instant keeps its whole ticks of 100 ns, the
count wrapped into 64 signed bits; every other value is kept. -/
def onWire : Value → Value
  | .string t => .string (Text.ofString (String.ofList (t.chars.rdropWhile (· == Char.ofNat 0))))
  | .dateTime t => .dateTime (Instant.ofTicks (t.ticks.bmod (2 ^ 64)))
  | v => v

/-- The values that read back as themselves: text that is valid UTF-8 and does not end in
U+0000, and instants on a whole tick whose tick count fits in 64 signed bits. -/
def Kept : Value → Prop
  | .string t => t.isValid = true ∧ t.chars.getLast? ≠ some (Char.ofNat 0)
  | .dateTime t => t.nsec % 100 = 0 ∧ -(2 ^ 63) ≤ t.ticks ∧ t.ticks < 2 ^ 63
  | _ => True

end Value

namespace Instant

/-- An instant is its own wrapped whole ticks exactly when it lies on a tick and its tick count
fits in 64 signed bits. -/
theorem ofTicks_bmod_eq_self_iff (t : Instant) :
    ofTicks (t.ticks.bmod (2 ^ 64)) = t ↔
      t.nsec % 100 = 0 ∧ -(2 ^ 63) ≤ t.ticks ∧ t.ticks < 2 ^ 63 := by
  constructor
  · intro h
    have hT : t.ticks.bmod (2 ^ 64) = t.ticks := by
      have := congrArg ticks h
      rwa [ticks_ofTicks] at this
    have hr : -(2 ^ 63) ≤ t.ticks ∧ t.ticks < 2 ^ 63 := by
      have := bmod_two_pow_64_bounds t.ticks
      rwa [hT] at this
    have hn := congrArg nsec ((ofTicks_bmod_ticks hr).symm.trans h)
    simp only [floorTick] at hn
    exact ⟨by omega, hr⟩
  · rintro ⟨h0, hr⟩
    rw [ofTicks_bmod_ticks hr]
    exact ext rfl (by simp only [floorTick]; omega)

end Instant

namespace Value

theorem onWire_eq_self_iff (v : Value) : v.onWire = v ↔ v.Kept := by
  cases v with
  | string t =>
    rw [onWire, Kept, string.injEq, ← Utf16.decode_encode_eq_self_iff, Utf16.decode_encode,
      Except.ok.injEq]
  | dateTime t =>
    rw [onWire, Kept, dateTime.injEq, Instant.ofTicks_bmod_eq_self_iff]
  | _ => simp [onWire, Kept]

end Value

namespace Codec

/-! ### The round trip -/

theorem encode_ok (id : UInt16) {v : Value} (hv : v.kind ≠ .stream) :
    ∃ p, encode id (some v) = .ok p ∧ p.tag.id = id := by
  cases v with
  | int n =>
    by_cases h : fitsLong n
    · rw [encode, if_pos h]
      exact ⟨_, rfl, Tag.id_make _ _⟩
    · rw [encode, if_neg h]
      exact ⟨_, rfl, Tag.id_make _ _⟩
  | stream s => exact absurd rfl hv
  | _ => exact ⟨_, rfl, Tag.id_make _ _⟩

theorem type_of_encode_int {id : UInt16} {n : Int64} {p : RawProp}
    (h : encode id (some (.int n)) = .ok p) :
    p.tag.type = if -(2 ^ 31) ≤ n.toInt ∧ n.toInt < 2 ^ 31 then PropType.long else PropType.i8 := by
  by_cases hf : fitsLong n
  · rw [encode, if_pos hf] at h
    cases h
    rw [Tag.type_make, if_pos ((fitsLong_iff n).1 hf)]
  · rw [encode, if_neg hf] at h
    cases h
    rw [Tag.type_make, if_neg (mt (fitsLong_iff n).2 hf)]

theorem decode_of_encode {id : UInt16} {v : Value} {p : RawProp}
    (h : encode id (some v) = .ok p) : decode p = .ok (some v.onWire) := by
  cases v with
  | int n =>
    rw [encode] at h
    split at h <;> cases h
    · rw [decode_long _ (Bytes.length_ofNatLE _ _), signed_long_payload ‹_›]
      rfl
    · rw [decode_i8 _ (Bytes.length_ofNatLE _ _), signed_i8_payload]
      rfl
  | bool b =>
    cases h
    rw [decode_boolean _ (Bytes.length_ofNatLE _ _)]
    cases b <;> rfl
  | string t =>
    cases h
    rw [decode_unicode, Utf16.decode_encode]
    rfl
  | guid g =>
    cases h
    rw [decode_clsid _ (Guid.length_toBytes g), Guid.ofBytes?_toBytes]
    rfl
  | dateTime t =>
    cases h
    -- the eight bytes hold the whole FILETIME word
    have hw : (Bytes.toNatLE (Bytes.ofNatLE 8 t.toFileTime.toNat)).toUInt64 = t.toFileTime := by
      rw [Bytes.toNatLE_ofNatLE_uint64, Nat.toUInt64_eq, UInt64.ofNat_toNat]
    rw [decode_sysTime _ (Bytes.length_ofNatLE _ _), hw, Instant.ofFileTime_toFileTime_wraps]
    rfl
  | binary b =>
    cases h
    exact decode_binary _ _
  | stream s => cases h

/-- **Value round trip.** Every value but a stream is written under a tag with the property id
asked for, and reads back as `onWire` of itself: as itself exactly when it is `Kept`. An integer
is written in 32 bits exactly when it fits in 32 signed bits, and an instant whose tick count
fits in 64 signed bits reads back rounded down to 100 ns. -/
theorem encode_decode_round_trip (id : UInt16) (v : Value) (hv : v.kind ≠ .stream) :
    ∃ p, encode id (some v) = .ok p ∧ p.tag.id = id ∧
      decode p = .ok (some v.onWire) ∧ (decode p = .ok (some v) ↔ v.Kept) ∧
      (∀ n, v = .int n →
        p.tag.type =
          if -(2 ^ 31) ≤ n.toInt ∧ n.toInt < 2 ^ 31 then PropType.long else PropType.i8) ∧
      ∀ t, v = .dateTime t → -(2 ^ 63) ≤ t.ticks ∧ t.ticks < 2 ^ 63 →
        decode p = .ok (some (.dateTime t.floorTick)) := by
  obtain ⟨p, hp, hid⟩ := encode_ok id hv
  have hdec := decode_of_encode hp
  refine ⟨p, hp, hid, hdec, ?_, ?_, ?_⟩
  · rw [hdec, Except.ok.injEq, Option.some.injEq]
    exact Value.onWire_eq_self_iff v
  · rintro n rfl
    exact type_of_encode_int hp
  · rintro t rfl hr
    rw [hdec, Value.onWire, Instant.ofTicks_bmod_ticks hr]

/-- One below the least 32-bit integer goes out in 64 bits and reads back as itself. -/
theorem encode_decode_below_long :
    (Value.int (-2147483649)).kind ≠ .stream ∧
      ∃ p, encode Tag.messageFlags.id (some (.int (-2147483649))) = .ok p ∧
        p.tag.type = PropType.i8 ∧ decode p = .ok (some (.int (-2147483649))) := by
  obtain ⟨p, hp, -, -, hkept, hint, -⟩ :=
    encode_decode_round_trip Tag.messageFlags.id (.int (-2147483649)) (by decide)
  refine ⟨by decide, p, hp, ?_, hkept.2 trivial⟩
  rw [hint _ rfl, if_neg (by decide)]

end Codec

end MailStore
