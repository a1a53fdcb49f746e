import Mathlib
import MailStore.Proofs.ValueCodec

/-!
# Which payloads the codec refuses

Reading a raw property follows a table of wire types. Six types have a fixed payload width:
two bytes for 16-bit integers and booleans, four for 32-bit integers, eight for 64-bit
integers and FILETIMEs, sixteen for GUIDs (`PropType.fixedWidth?`). Nine types are read at
all, each into one kind of value (`PropType.decodedKind?`); every other type, error codes and
the null and unspecified types among them, reads as no value.

A payload is malformed when its type fixes a width it does not have, or when it is UTF-16
text of an odd number of bytes (`RawProp.Malformed`). The codec fails exactly on malformed
payloads, always as a broken store contract; it gives no value exactly for the types it does
not read; and otherwise it gives a value of the kind the type fixes.

## Main statements

* `Codec.decode_conforms`: every outcome of `decode` is the one the table allows.
* `Codec.decode_law`: the three outcomes apart, with what narrow text, wide text and bytes
  read as.
-/

namespace MailStore

namespace PropType

/-- The payload width of a fixed-width wire type. -/
def fixedWidth? (t : PropType) : Option Nat :=
  if t = i2 ∨ t = boolean then some 2
  else if t = long then some 4
  else if t = i8 ∨ t = sysTime then some 8
  else if t = clsid then some 16
  else none

/-- The kind of value a wire type reads as; none for the types the codec does not read. -/
def decodedKind? (t : PropType) : Option ValueKind :=
  if t = i2 ∨ t = long ∨ t = i8 then some .integer
  else if t = boolean then some .boolean
  else if t = string8 ∨ t = unicode then some .string
  else if t = clsid then some .guid
  else if t = sysTime then some .dateTime
  else if t = binary then some .binary
  else none

/-- Every fixed-width type is read. -/
theorem decodedKind?_ne_none_of_fixedWidth? {t : PropType} {w : Nat}
    (h : t.fixedWidth? = some w) : t.decodedKind? ≠ none := by
  unfold fixedWidth? at h
  split_ifs at h with h2 h4 h8 h16
  · rcases h2 with rfl | rfl <;> decide
  · rw [h4]; decide
  · rcases h8 with rfl | rfl <;> decide
  · rw [h16]; decide

end PropType

namespace RawProp

/-- A payload its wire type cannot hold: a fixed-width type with a payload of another
length, or UTF-16 text of an odd number of bytes. -/
def Malformed (p : RawProp) : Prop :=
  (∃ w, p.tag.type.fixedWidth? = some w ∧ p.data.length ≠ w) ∨
    (p.tag.type = .unicode ∧ p.data.length % 2 = 1)

/-- A payload of a type the codec does not read is never malformed. -/
theorem not_malformed_of_decodedKind? {p : RawProp} (h : p.tag.type.decodedKind? = none) :
    ¬ p.Malformed := by
  rintro (⟨w, hw, -⟩ | ⟨hu, -⟩)
  · exact PropType.decodedKind?_ne_none_of_fixedWidth? hw h
  · rw [hu] at h
    exact absurd h (by decide)

end RawProp

namespace Utf16

/-- An even number of bytes reads as the characters of its units, less trailing zero
units. -/
theorem decode_of_even {b : Bytes} (h : b.length % 2 = 0) :
    decode b =
      .ok (Text.ofString (String.ofList (decodeUnits ((unitsOf b).rdropWhile (· == 0))))) := by
  rw [decode, if_pos h]
  rfl

/-- An odd number of bytes is refused as a broken store contract. -/
theorem decode_of_odd {b : Bytes} (h : b.length % 2 = 1) :
    ∃ f, decode b = .error f ∧ f.cause = .inconsistent := by
  rw [decode, if_neg (by omega)]
  exact ⟨_, rfl, rfl⟩

end Utf16

namespace Codec

/-- The outcomes the wire type table allows for a raw property: a broken-contract failure
for a malformed payload, no value for a type the codec does not read, and a value of the
kind the type fixes otherwise. -/
def Conforms (p : RawProp) : Except Failure (Option Value) → Prop
  | .error f => p.Malformed ∧ f.cause = .inconsistent
  | .ok none => p.tag.type.decodedKind? = none
  | .ok (some v) => ¬ p.Malformed ∧ p.tag.type.decodedKind? = some v.kind

/-- The length check of a fixed-width type, followed by its value. -/
theorem expectLength_then (p : RawProp) (n : Nat) (v : Option Value) :
    (do expectLength p n; pure v : Except Failure (Option Value)) =
      if p.data.length = n then .ok v
      else .error (Failure.inconsistent ("tag " ++ p.tag.toText ++ " has " ++
        toString p.data.length ++ " payload bytes, want " ++ toString n)) := by
  unfold expectLength
  split <;> rfl

/-- A fixed-width row of the table: a value of the type's kind for a payload of the type's
width, a broken-contract failure for any other. -/
theorem conforms_fixed {p : RawProp} {w : Nat} {k : ValueKind} {o : Option Value} (msg : String)
    (hw : p.tag.type.fixedWidth? = some w) (hk : p.tag.type.decodedKind? = some k)
    (ho : p.data.length = w → ∃ v, o = some v ∧ v.kind = k) :
    Conforms p (if p.data.length = w then .ok o else .error (Failure.inconsistent msg)) := by
  have hu : p.tag.type ≠ .unicode := by
    intro h
    have hnone : PropType.unicode.fixedWidth? = none := by decide
    rw [h, hnone] at hw
    cases hw
  split_ifs with hl
  · obtain ⟨v, rfl, hv⟩ := ho hl
    refine ⟨?_, by rw [hv]; exact hk⟩
    rintro (⟨w', hw', hne⟩ | ⟨h, -⟩)
    · exact hne (Option.some.inj (hw'.symm.trans hw) ▸ hl)
    · exact hu h
  · exact ⟨.inl ⟨w, hw, hl⟩, rfl⟩

/-- A row of the table with no width: its value, whatever the payload. -/
theorem conforms_unsized {p : RawProp} {v : Value} (hw : p.tag.type.fixedWidth? = none)
    (hu : p.tag.type ≠ .unicode) (hk : p.tag.type.decodedKind? = some v.kind) :
    Conforms p (.ok (some v)) := by
  refine ⟨?_, hk⟩
  rintro (⟨w, hw', -⟩ | ⟨h, -⟩)
  · exact absurd (hw.symm.trans hw') (Option.some_ne_none w).symm
  · exact hu h

/-- Every outcome of reading a raw property is one the wire type table allows. -/
theorem decode_conforms (p : RawProp) : Conforms p (decode p) := by
  unfold decode
  dsimp only
  -- one branch per wire type the codec reads, in the order it tries them, and one for the rest
  by_cases hi2 : p.tag.type = .i2
  · rw [if_pos hi2, expectLength_then]
    exact conforms_fixed _ (k := .integer) (by rw [hi2]; decide) (by rw [hi2]; decide)
      fun _ => ⟨_, rfl, rfl⟩
  rw [if_neg hi2]
  by_cases hlong : p.tag.type = .long
  · rw [if_pos hlong, expectLength_then]
    exact conforms_fixed _ (k := .integer) (by rw [hlong]; decide) (by rw [hlong]; decide)
      fun _ => ⟨_, rfl, rfl⟩
  rw [if_neg hlong]
  by_cases hi8 : p.tag.type = .i8
  · rw [if_pos hi8, expectLength_then]
    exact conforms_fixed _ (k := .integer) (by rw [hi8]; decide) (by rw [hi8]; decide)
      fun _ => ⟨_, rfl, rfl⟩
  rw [if_neg hi8]
  by_cases hbool : p.tag.type = .boolean
  · rw [if_pos hbool, expectLength_then]
    exact conforms_fixed _ (k := .boolean) (by rw [hbool]; decide) (by rw [hbool]; decide)
      fun _ => ⟨_, rfl, rfl⟩
  rw [if_neg hbool]
  by_cases hs8 : p.tag.type = .string8
  · rw [if_pos hs8]
    exact conforms_unsized (by rw [hs8]; decide) (by rw [hs8]; decide) (by rw [hs8]; rfl)
  rw [if_neg hs8]
  by_cases huni : p.tag.type = .unicode
  · -- wide text, refused exactly for an odd number of bytes
    rw [if_pos huni]
    rcases Nat.mod_two_eq_zero_or_one p.data.length with h | h
    · rw [Utf16.decode_of_even h]
      refine ⟨?_, by rw [huni]; rfl⟩
      rintro (⟨w, hw, -⟩ | ⟨-, hodd⟩)
      · have hnone : PropType.unicode.fixedWidth? = none := by decide
        rw [huni, hnone] at hw
        cases hw
      · omega
    · obtain ⟨f, hf, hc⟩ := Utf16.decode_of_odd h
      rw [hf]
      exact ⟨.inr ⟨huni, h⟩, hc⟩
  rw [if_neg huni]
  by_cases hclsid : p.tag.type = .clsid
  · -- sixteen bytes always make a GUID
    rw [if_pos hclsid, expectLength_then]
    refine conforms_fixed _ (k := .guid) (by rw [hclsid]; decide) (by rw [hclsid]; decide)
      fun hl => ?_
    exact ⟨_, by rw [Guid.ofBytes?, if_pos hl]; rfl, rfl⟩
  rw [if_neg hclsid]
  by_cases htime : p.tag.type = .sysTime
  · rw [if_pos htime, expectLength_then]
    exact conforms_fixed _ (k := .dateTime) (by rw [htime]; decide) (by rw [htime]; decide)
      fun _ => ⟨_, rfl, rfl⟩
  rw [if_neg htime]
  by_cases hbin : p.tag.type = .binary
  · rw [if_pos hbin]
    exact conforms_unsized (by rw [hbin]; decide) (by rw [hbin]; decide) (by rw [hbin]; rfl)
  rw [if_neg hbin]
  show p.tag.type.decodedKind? = none
  simp [PropType.decodedKind?, hi2, hlong, hi8, hbool, hs8, huni, hclsid, htime, hbin]

variable {p : RawProp}

/-- Reading fails exactly on a malformed payload. -/
theorem decode_isError_iff : (∃ f, decode p = .error f) ↔ p.Malformed := by
  have hc := decode_conforms p
  constructor
  · rintro ⟨f, hf⟩
    rw [hf] at hc
    exact hc.1
  · intro hm
    match hd : decode p, hc with
    | .error f, _ => exact ⟨f, rfl⟩
    | .ok none, hk => exact absurd hm (RawProp.not_malformed_of_decodedKind? hk)
    | .ok (some _), hk => exact absurd hm hk.1

/-- Every failure of reading is a broken store contract. -/
theorem cause_of_decode_eq_error {f : Failure} (h : decode p = .error f) :
    f.cause = .inconsistent := by
  have hc := decode_conforms p
  rw [h] at hc
  exact hc.2

/-- Reading gives no value exactly for the types the codec does not read. -/
theorem decode_eq_none_iff : decode p = .ok none ↔ p.tag.type.decodedKind? = none := by
  have hc := decode_conforms p
  constructor
  · intro h
    rw [h] at hc
    exact hc
  · intro hk
    match hd : decode p, hc with
    | .error _, hf => exact absurd hf.1 (RawProp.not_malformed_of_decodedKind? hk)
    | .ok none, _ => rfl
    | .ok (some v), hv => exact absurd (hk.symm.trans hv.2) (Option.some_ne_none v.kind).symm

/-- A value read has the kind its wire type fixes. -/
theorem kind_of_decode_eq_some {v : Value} (h : decode p = .ok (some v)) :
    p.tag.type.decodedKind? = some v.kind := by
  have hc := decode_conforms p
  rw [h] at hc
  exact hc.2

/-- A well-formed payload of a type the codec reads gives a value of that type's kind. -/
theorem decode_eq_some_of {k : ValueKind} (hm : ¬ p.Malformed)
    (hk : p.tag.type.decodedKind? = some k) : ∃ v, decode p = .ok (some v) ∧ v.kind = k := by
  match hd : decode p, decode_conforms p with
  | .error _, hf => exact absurd hf.1 hm
  | .ok none, hn => exact absurd (hk.symm.trans hn) (Option.some_ne_none k)
  | .ok (some v), hv => exact ⟨v, rfl, Option.some.inj (hv.2.symm.trans hk)⟩

/-! ### What text and bytes read as -/

/-- Narrow text keeps its bytes less trailing zero bytes. -/
theorem decode_of_string8 (h : p.tag.type = .string8) :
    decode p = .ok (some (.string ⟨p.data.rdropWhile (· == 0)⟩)) := by
  unfold decode
  simp +decide [h, Text.trimNul, List.rdropWhile, pure, Except.pure]

/-- Wide text of an even number of bytes reads as the characters of its units, less
trailing zero units. -/
theorem decode_of_unicode (h : p.tag.type = .unicode) (he : p.data.length % 2 = 0) :
    decode p = .ok (some (.string (Text.ofString
      (String.ofList (Utf16.decodeUnits ((Utf16.unitsOf p.data).rdropWhile (· == 0))))))) := by
  unfold decode
  simp +decide [h, Utf16.decode_of_even he, bind, Except.bind, pure, Except.pure]

/-- Bytes are kept as they are. -/
theorem decode_of_binary (h : p.tag.type = .binary) :
    decode p = .ok (some (.binary p.data)) := by
  unfold decode
  simp +decide [h, pure, Except.pure]

/-- **The decoding law.** Reading a raw property fails exactly when its payload is
malformed, and then as a broken store contract; it gives no value exactly when its type is
none of the nine the codec reads; otherwise it gives a value of the kind the type fixes:
narrow text less trailing zero bytes, wide text less trailing zero units, bytes as they
are. -/
theorem decode_law (p : RawProp) :
    ((∃ f, decode p = .error f) ↔ p.Malformed) ∧
      (∀ f, decode p = .error f → f.cause = .inconsistent) ∧
      (decode p = .ok none ↔ p.tag.type.decodedKind? = none) ∧
      (∀ k, ¬ p.Malformed → p.tag.type.decodedKind? = some k →
        ∃ v, decode p = .ok (some v) ∧ v.kind = k) ∧
      (∀ v, decode p = .ok (some v) → p.tag.type.decodedKind? = some v.kind) ∧
      (p.tag.type = .string8 → decode p = .ok (some (.string ⟨p.data.rdropWhile (· == 0)⟩))) ∧
      (p.tag.type = .unicode → p.data.length % 2 = 0 →
        decode p = .ok (some (.string (Text.ofString
          (String.ofList (Utf16.decodeUnits ((Utf16.unitsOf p.data).rdropWhile (· == 0)))))))) ∧
      (p.tag.type = .binary → decode p = .ok (some (.binary p.data))) :=
  ⟨decode_isError_iff, fun _ => cause_of_decode_eq_error, decode_eq_none_iff,
    fun _ => decode_eq_some_of, fun _ => kind_of_decode_eq_some, decode_of_string8,
    decode_of_unicode, decode_of_binary⟩

end Codec

end MailStore
