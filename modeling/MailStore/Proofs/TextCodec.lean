import Mathlib
import MailStore.Text.Utf16

/-!
# Reading text back through UTF-8 and UTF-16

A text property keeps bytes meant as UTF-8 (`Text`), and a wide string property keeps a text as
UTF-16 code units. This module proves what the readers and the writers do to each other.

The UTF-8 reader takes a head sequence exactly when it is the encoding of a character, and then
gives that character: `Text.decodeHead_utf8EncodeChar` reads every encoded character back, and
`Text.eq_utf8EncodeChar_of_decodeHead` says that whatever the reader accepts is such an encoding.
The byte ranges of the reader (no overlong form, no surrogate, nothing past `U+10FFFF`) are
exactly the ranges the encoding produces, so well-formed byte strings are the encodings of
strings, and such a byte string is the encoding of the characters read from it.

The UTF-16 writer and reader are inverse on characters; the only character written as a zero
unit is `U+0000`, and a character written as two units ends in a low surrogate. So the reader's
dropping of trailing zero units drops exactly the text's trailing `U+0000` characters. The same
holds of UTF-8 and zero bytes, for the same reason (`Text.rdropWhile_flatMap_of_terminator`
states it once for any such encoding), and what the UTF-16 reader gives once the trailing zero
units are gone never ends in `U+0000`.

## Main statements

* `Text.decodeHead_utf8EncodeChar`, `Text.eq_utf8EncodeChar_of_decodeHead`: the UTF-8 reader
  accepts at the head exactly an encoded character.
* `Text.chars_ofString_ofList`, `Text.isValid_ofString_ofList`, `Text.ofString_ofList_chars`:
  the encoding of a string is well-formed and reads back as the string; a well-formed text is
  the encoding of its characters.
* `Utf16.decode_encode`: the wide text of a text reads back as the text's characters less the
  trailing `U+0000` ones.
* `Utf16.decode_encode_eq_self_iff`: it reads back as the text itself exactly when the text is
  well-formed and does not end in `U+0000`.
* `Utf16.rdropWhile_decodeUnits_trimNul`: the characters read from units less their trailing
  zeros end in no `U+0000`.
-/

namespace MailStore

/-- A byte array lists its bytes in order. -/
theorem ByteArray.toList_loop (bs : ByteArray) (i : Nat) (r : List UInt8) :
    ByteArray.toList.loop bs i r = r.reverse ++ bs.data.toList.drop i := by
  fun_induction ByteArray.toList.loop bs i r with
  | case1 i r h ih =>
    have hi : i < bs.data.toList.length := by simpa using h
    rw [ih, List.drop_eq_getElem_cons (l := bs.data.toList) hi]
    simp [ByteArray.get!, h]
  | case2 i r h =>
    rw [List.drop_eq_nil_of_le (by simpa using h), List.append_nil]

theorem ByteArray.toList_eq_data_toList (bs : ByteArray) : bs.toList = bs.data.toList := by
  simp [ByteArray.toList, ByteArray.toList_loop]

namespace Text

/-! ### Characters and their UTF-8 bytes -/

/-- A character's code point is a scalar value: below the surrogates, or past them and below
`0x110000`. -/
theorem toNat_valid (c : Char) : c.toNat < 0xD800 ∨ (0xDFFF < c.toNat ∧ c.toNat < 0x110000) :=
  c.valid

theorem toNat_scalar {n : Nat} (h : n < 0xD800 ∨ (0xDFFF < n ∧ n < 0x110000)) :
    (scalar n).toNat = n := by
  simp only [scalar, Char.ofNat, Nat.isValidChar, h, dite_true]
  rfl

theorem scalar_eq {n : Nat} {c : Char} (h : n = c.toNat) : scalar n = c := by
  rw [h]
  exact Char.ofNat_toNat c

theorem utf8Size_eq (c : Char) :
    c.utf8Size = if c.toNat < 0x80 then 1 else if c.toNat < 0x800 then 2
      else if c.toNat < 0x10000 then 3 else 4 := by
  have hc : c.val.toNat = c.toNat := rfl
  simp only [Char.utf8Size, UInt32.le_iff_toNat_le, hc, UInt32.toNat_ofNatLT]
  split_ifs <;> omega

-- The encoding, one lemma per length, in numbers; each is a branch of `String.utf8EncodeChar`.

theorem utf8EncodeChar_one {c : Char} (h : c.toNat < 0x80) :
    String.utf8EncodeChar c = [UInt8.ofNat c.toNat] := by
  have hc : c.val.toNat = c.toNat := rfl
  simp only [String.utf8EncodeChar, hc]
  rw [if_pos (by omega)]

theorem utf8EncodeChar_two {c : Char} (h1 : 0x80 ≤ c.toNat) (h2 : c.toNat < 0x800) :
    String.utf8EncodeChar c =
      [UInt8.ofNat (c.toNat / 64 % 32 + 0xC0), UInt8.ofNat (c.toNat % 64 + 0x80)] := by
  have hc : c.val.toNat = c.toNat := rfl
  simp only [String.utf8EncodeChar, hc]
  rw [if_neg (by omega), if_pos (by omega)]

theorem utf8EncodeChar_three {c : Char} (h1 : 0x800 ≤ c.toNat) (h2 : c.toNat < 0x10000) :
    String.utf8EncodeChar c =
      [UInt8.ofNat (c.toNat / 4096 % 16 + 0xE0), UInt8.ofNat (c.toNat / 64 % 64 + 0x80),
        UInt8.ofNat (c.toNat % 64 + 0x80)] := by
  have hc : c.val.toNat = c.toNat := rfl
  simp only [String.utf8EncodeChar, hc]
  rw [if_neg (by omega), if_neg (by omega), if_pos (by omega)]

theorem utf8EncodeChar_four {c : Char} (h1 : 0x10000 ≤ c.toNat) :
    String.utf8EncodeChar c =
      [UInt8.ofNat (c.toNat / 262144 % 8 + 0xF0), UInt8.ofNat (c.toNat / 4096 % 64 + 0x80),
        UInt8.ofNat (c.toNat / 64 % 64 + 0x80), UInt8.ofNat (c.toNat % 64 + 0x80)] := by
  have hc : c.val.toNat = c.toNat := rfl
  simp only [String.utf8EncodeChar, hc]
  rw [if_neg (by omega), if_neg (by omega), if_neg (by omega)]

/-! ### Reading one sequence -/

theorem isCont_iff (b : UInt8) : isCont b = true ↔ 0x80 ≤ b.toNat ∧ b.toNat ≤ 0xBF := by
  simp [isCont, UInt8.le_iff_toNat_le]

/-- The range of the second byte of a three- or four-byte sequence, in numbers: a
continuation byte, at least `lo` after the lead byte `a` (no overlong form) and at most `hi`
after the lead byte `z` (no surrogate, or nothing past `U+10FFFF`). -/
theorem second_byte_iff (a z lo hi : UInt8) (haz : a.toNat ≠ z.toNat) (hlo : 0x80 ≤ lo.toNat)
    (hhi : hi.toNat ≤ 0xBF) (b0 b1 : UInt8) (P : Prop) :
    ((if b0 = a then lo else 0x80) ≤ b1 ∧ b1 ≤ (if b0 = z then hi else 0xBF) ∧ P) ↔
      (0x80 ≤ b1.toNat ∧ b1.toNat ≤ 0xBF ∧ (b0.toNat = a.toNat → lo.toNat ≤ b1.toNat) ∧
        (b0.toNat = z.toNat → b1.toNat ≤ hi.toNat)) ∧ P := by
  have e0 : b0 = a ↔ b0.toNat = a.toNat := by simp [← UInt8.toNat_inj]
  have e1 : b0 = z ↔ b0.toNat = z.toNat := by simp [← UInt8.toNat_inj]
  rw [← and_assoc]
  refine and_congr_left' ?_
  by_cases h0 : b0.toNat = a.toNat <;> by_cases h1 : b0.toNat = z.toNat <;>
    simp [e0, e1, h0, h1, haz, Ne.symm haz, UInt8.le_iff_toNat_le] <;> omega

-- What the reader gives for a sequence of each length whose bytes lie in their ranges.

theorem decodeHead_one {b0 : UInt8} (h0 : b0.toNat < 128) (rest : Bytes) :
    decodeHead (b0 :: rest) = some (scalar b0.toNat, 0) := by
  simp [decodeHead, UInt8.lt_iff_toNat_lt, h0]

theorem decodeHead_two {b0 b1 : UInt8} (h0 : 194 ≤ b0.toNat ∧ b0.toNat ≤ 223)
    (h1 : 128 ≤ b1.toNat ∧ b1.toNat ≤ 191) (rest : Bytes) :
    decodeHead (b0 :: b1 :: rest) = some (scalar (b0.toNat % 32 * 64 + b1.toNat % 64), 1) := by
  simp only [decodeHead]
  simp only [isCont_iff, UInt8.lt_iff_toNat_lt, UInt8.le_iff_toNat_le, UInt8.reduceToNat]
  rw [if_neg (by omega), if_pos h0, if_pos h1]

theorem decodeHead_three {b0 b1 b2 : UInt8} (h0 : 224 ≤ b0.toNat ∧ b0.toNat ≤ 239)
    (h1 : 128 ≤ b1.toNat ∧ b1.toNat ≤ 191 ∧ (b0.toNat = 224 → 160 ≤ b1.toNat) ∧
      (b0.toNat = 237 → b1.toNat ≤ 159))
    (h2 : 128 ≤ b2.toNat ∧ b2.toNat ≤ 191) (rest : Bytes) :
    decodeHead (b0 :: b1 :: b2 :: rest) =
      some (scalar (b0.toNat % 16 * 4096 + b1.toNat % 64 * 64 + b2.toNat % 64), 2) := by
  simp only [decodeHead, second_byte_iff 0xE0 0xED 0xA0 0x9F (by decide) (by decide) (by decide)]
  simp only [isCont_iff, UInt8.lt_iff_toNat_lt, UInt8.le_iff_toNat_le, UInt8.reduceToNat]
  rw [if_neg (by omega), if_neg (by omega), if_pos h0, if_pos ⟨h1, h2⟩]

theorem decodeHead_four {b0 b1 b2 b3 : UInt8} (h0 : 240 ≤ b0.toNat ∧ b0.toNat ≤ 244)
    (h1 : 128 ≤ b1.toNat ∧ b1.toNat ≤ 191 ∧ (b0.toNat = 240 → 144 ≤ b1.toNat) ∧
      (b0.toNat = 244 → b1.toNat ≤ 143))
    (h2 : 128 ≤ b2.toNat ∧ b2.toNat ≤ 191) (h3 : 128 ≤ b3.toNat ∧ b3.toNat ≤ 191)
    (rest : Bytes) :
    decodeHead (b0 :: b1 :: b2 :: b3 :: rest) =
      some (scalar (b0.toNat % 8 * 262144 + b1.toNat % 64 * 4096 + b2.toNat % 64 * 64 +
        b3.toNat % 64), 3) := by
  simp only [decodeHead, second_byte_iff 0xF0 0xF4 0x90 0x8F (by decide) (by decide) (by decide)]
  simp only [isCont_iff, UInt8.lt_iff_toNat_lt, UInt8.le_iff_toNat_le, UInt8.reduceToNat]
  rw [if_neg (by omega), if_neg (by omega), if_neg (by omega), if_pos h0, if_pos ⟨h1, h2, h3⟩]

-- The same ranges, read the other way: the character the reader makes encodes back to the
-- bytes it was read from.

theorem one_byte_eq {b0 : UInt8} (h0 : b0.toNat < 128) :
    String.utf8EncodeChar (scalar b0.toNat) = [b0] := by
  rw [utf8EncodeChar_one (by rw [toNat_scalar (by omega)]; omega), toNat_scalar (by omega)]
  simp

theorem two_bytes_eq {b0 b1 : UInt8} (h0 : 194 ≤ b0.toNat ∧ b0.toNat ≤ 223)
    (h1 : 128 ≤ b1.toNat ∧ b1.toNat ≤ 191) :
    String.utf8EncodeChar (scalar (b0.toNat % 32 * 64 + b1.toNat % 64)) = [b0, b1] := by
  have hn := toNat_scalar (n := b0.toNat % 32 * 64 + b1.toNat % 64) (by omega)
  rw [utf8EncodeChar_two (by omega) (by omega), hn]
  simp only [List.cons.injEq, ← UInt8.toNat_inj, UInt8.toNat_ofNat', and_true]
  omega

theorem three_bytes_eq {b0 b1 b2 : UInt8} (h0 : 224 ≤ b0.toNat ∧ b0.toNat ≤ 239)
    (h1 : 128 ≤ b1.toNat ∧ b1.toNat ≤ 191 ∧ (b0.toNat = 224 → 160 ≤ b1.toNat) ∧
      (b0.toNat = 237 → b1.toNat ≤ 159))
    (h2 : 128 ≤ b2.toNat ∧ b2.toNat ≤ 191) :
    String.utf8EncodeChar (scalar (b0.toNat % 16 * 4096 + b1.toNat % 64 * 64 + b2.toNat % 64)) =
      [b0, b1, b2] := by
  have hn := toNat_scalar (n := b0.toNat % 16 * 4096 + b1.toNat % 64 * 64 + b2.toNat % 64)
    (by omega)
  rw [utf8EncodeChar_three (by omega) (by omega), hn]
  simp only [List.cons.injEq, ← UInt8.toNat_inj, UInt8.toNat_ofNat', and_true]
  omega

theorem four_bytes_eq {b0 b1 b2 b3 : UInt8} (h0 : 240 ≤ b0.toNat ∧ b0.toNat ≤ 244)
    (h1 : 128 ≤ b1.toNat ∧ b1.toNat ≤ 191 ∧ (b0.toNat = 240 → 144 ≤ b1.toNat) ∧
      (b0.toNat = 244 → b1.toNat ≤ 143))
    (h2 : 128 ≤ b2.toNat ∧ b2.toNat ≤ 191) (h3 : 128 ≤ b3.toNat ∧ b3.toNat ≤ 191) :
    String.utf8EncodeChar (scalar (b0.toNat % 8 * 262144 + b1.toNat % 64 * 4096 +
      b2.toNat % 64 * 64 + b3.toNat % 64)) = [b0, b1, b2, b3] := by
  have hn := toNat_scalar (n := b0.toNat % 8 * 262144 + b1.toNat % 64 * 4096 +
      b2.toNat % 64 * 64 + b3.toNat % 64) (by omega)
  rw [utf8EncodeChar_four (by omega), hn]
  simp only [List.cons.injEq, ← UInt8.toNat_inj, UInt8.toNat_ofNat', and_true]
  omega

/-- The reader reads every encoded character back, using as many bytes as the encoding has. -/
theorem decodeHead_utf8EncodeChar (c : Char) (rest : Bytes) :
    decodeHead (String.utf8EncodeChar c ++ rest) =
      some (c, ⟨c.utf8Size - 1, by have := c.utf8Size_le_four; have := c.utf8Size_pos; omega⟩) := by
  have hv := toNat_valid c
  have hs := utf8Size_eq c
  by_cases h1 : c.toNat < 0x80
  · rw [utf8EncodeChar_one h1, List.cons_append, decodeHead_one (by simp; omega)]
    simp only [hs, if_pos h1]
    congr
    exact scalar_eq (by simp; omega)
  by_cases h2 : c.toNat < 0x800
  · rw [utf8EncodeChar_two (by omega) h2, List.cons_append, List.cons_append,
      decodeHead_two (by simp; omega) (by simp; omega)]
    simp only [hs, if_neg h1, if_pos h2]
    congr
    exact scalar_eq (by simp; omega)
  by_cases h3 : c.toNat < 0x10000
  · rw [utf8EncodeChar_three (by omega) h3, List.cons_append, List.cons_append, List.cons_append,
      decodeHead_three (by simp; omega) (by simp; omega) (by simp; omega)]
    simp only [hs, if_neg h1, if_neg h2, if_pos h3]
    congr
    exact scalar_eq (by simp; omega)
  · rw [utf8EncodeChar_four (by omega), List.cons_append, List.cons_append, List.cons_append,
      List.cons_append, decodeHead_four (by simp; omega) (by simp; omega) (by simp; omega)
        (by simp; omega)]
    simp only [hs, if_neg h1, if_neg h2, if_neg h3]
    congr
    exact scalar_eq (by simp; omega)

/-- Whatever the reader accepts at the head is the encoding of the character it gives. -/
theorem eq_utf8EncodeChar_of_decodeHead {b : Bytes} {c : Char} {w : Fin 4}
    (h : decodeHead b = some (c, w)) : b = String.utf8EncodeChar c ++ b.drop (w.val + 1) := by
  match b, h with
  | b0 :: r0, h =>
    -- the byte ranges first, in numbers, so that only the lengths are left to split on
    simp only [decodeHead, second_byte_iff 0xE0 0xED 0xA0 0x9F (by decide) (by decide) (by decide),
      second_byte_iff 0xF0 0xF4 0x90 0x8F (by decide) (by decide) (by decide)] at h
    simp only [isCont_iff, UInt8.lt_iff_toNat_lt, UInt8.le_iff_toNat_le, UInt8.reduceToNat] at h
    split_ifs at h with h0 h1 h2 h3
    · obtain ⟨rfl, rfl⟩ := Prod.mk.inj (Option.some.inj h)
      simp [one_byte_eq h0]
    · split at h
      · split_ifs at h with hc
        obtain ⟨rfl, rfl⟩ := Prod.mk.inj (Option.some.inj h)
        simp [two_bytes_eq h1 hc]
      · cases h
    · split at h
      · split_ifs at h with hc
        obtain ⟨rfl, rfl⟩ := Prod.mk.inj (Option.some.inj h)
        simp [three_bytes_eq h2 hc.1 hc.2]
      · cases h
    · split at h
      · split_ifs at h with hc
        obtain ⟨rfl, rfl⟩ := Prod.mk.inj (Option.some.inj h)
        simp [four_bytes_eq h3 hc.1 hc.2.1 hc.2.2]
      · cases h

/-! ### Reading a byte string -/

/-- An encoded character followed by more bytes, as the readers see it: a head byte, and after
the character's width the bytes that followed. -/
theorem utf8EncodeChar_append_eq (c : Char) (rest : Bytes) :
    ∃ x more, String.utf8EncodeChar c ++ rest = x :: more ∧
      decodeHead (x :: more) =
        some (c, ⟨c.utf8Size - 1, by have := c.utf8Size_le_four; have := c.utf8Size_pos; omega⟩) ∧
      more.drop (c.utf8Size - 1) = rest := by
  obtain ⟨x, tl, hx⟩ : ∃ x tl, String.utf8EncodeChar c = x :: tl :=
    List.exists_cons_of_ne_nil (by simp)
  have hlen : tl.length = c.utf8Size - 1 := by
    have := String.length_utf8EncodeChar c
    rw [hx, List.length_cons] at this
    omega
  refine ⟨x, tl ++ rest, by rw [hx, List.cons_append], ?_, by simp [hlen]⟩
  rw [← List.cons_append, ← hx]
  exact decodeHead_utf8EncodeChar c rest

theorem runes_utf8EncodeChar_append (c : Char) (rest : Bytes) :
    runes (String.utf8EncodeChar c ++ rest) = c :: runes rest := by
  obtain ⟨x, more, he, hd, hdrop⟩ := utf8EncodeChar_append_eq c rest
  rw [he, runes, hd]
  simp only [hdrop]

theorem validBytes_utf8EncodeChar_append (c : Char) (rest : Bytes) :
    validBytes (String.utf8EncodeChar c ++ rest) = validBytes rest := by
  obtain ⟨x, more, he, hd, hdrop⟩ := utf8EncodeChar_append_eq c rest
  rw [he, validBytes, hd]
  simp only [hdrop]

theorem runes_flatMap_utf8EncodeChar (cs : List Char) :
    runes (cs.flatMap String.utf8EncodeChar) = cs := by
  induction cs with
  | nil => simp [runes]
  | cons c cs ih => rw [List.flatMap_cons, runes_utf8EncodeChar_append, ih]

theorem validBytes_flatMap_utf8EncodeChar (cs : List Char) :
    validBytes (cs.flatMap String.utf8EncodeChar) = true := by
  induction cs with
  | nil => simp [validBytes]
  | cons c cs ih => rw [List.flatMap_cons, validBytes_utf8EncodeChar_append, ih]

/-- A well-formed byte string is the encoding of the characters read from it. -/
theorem flatMap_runes_of_validBytes (b : Bytes) (h : validBytes b = true) :
    (runes b).flatMap String.utf8EncodeChar = b := by
  -- one character at a time, along the reader's own recursion
  fun_induction runes b with
  | case1 => rfl
  | case2 x rest c w hd ih =>
    rw [validBytes, hd] at h
    rw [List.flatMap_cons, ih h]
    have := eq_utf8EncodeChar_of_decodeHead hd
    simp only [List.drop_succ_cons] at this
    exact this.symm
  | case3 x rest hd =>
    rw [validBytes, hd] at h
    cases h

/-! ### Trailing `U+0000`s -/

/-- Dropping the trailing zeros of an encoded text drops exactly its trailing `U+0000`s, for an
encoding that writes `U+0000` as one zero and ends every other character in something else. -/
theorem rdropWhile_flatMap_of_terminator {α : Type} [BEq α] [LawfulBEq α] {z : α}
    {enc : Char → List α} (h0 : enc (Char.ofNat 0) = [z])
    (hlast : ∀ c, c ≠ Char.ofNat 0 → ∃ init u, enc c = init ++ [u] ∧ u ≠ z) (cs : List Char) :
    (cs.flatMap enc).rdropWhile (· == z) = (cs.rdropWhile (· == Char.ofNat 0)).flatMap enc := by
  -- from the end of the text: a trailing `U+0000` is one zero, any other last character ends
  -- in something that stops the dropping
  induction cs using List.reverseRecOn with
  | nil => rfl
  | append_singleton cs c ih =>
    rw [List.flatMap_append, List.flatMap_singleton]
    by_cases hc : c = Char.ofNat 0
    · subst hc
      rw [h0, List.rdropWhile_concat_pos _ _ _ (by simp),
        List.rdropWhile_concat_pos _ _ _ (by simp)]
      exact ih
    · obtain ⟨init, u, he, hu⟩ := hlast c hc
      rw [he, ← List.append_assoc, List.rdropWhile_concat_neg _ _ _ (by simpa using hu),
        List.rdropWhile_concat_neg _ _ _ (by simpa using hc), List.flatMap_append,
        List.flatMap_singleton, he, List.append_assoc]

/-- Only `U+0000` is encoded as a zero byte; every other character's encoding ends in a byte
that is not zero. -/
theorem utf8EncodeChar_eq_concat {c : Char} (hc : c ≠ Char.ofNat 0) :
    ∃ init b, String.utf8EncodeChar c = init ++ [b] ∧ b ≠ 0 := by
  have h0 : c.toNat ≠ 0 := fun h => hc (by rw [← Char.ofNat_toNat c, h])
  -- a one-byte character is its own byte; a longer one ends in a continuation byte
  have hcont : ∀ n, UInt8.ofNat (n % 64 + 0x80) ≠ 0 := by
    intro n h
    have := congrArg UInt8.toNat h
    simp [UInt8.toNat_ofNat] at this
    omega
  by_cases h1 : c.toNat < 0x80
  · refine ⟨[], _, utf8EncodeChar_one h1, fun h => h0 ?_⟩
    have := congrArg UInt8.toNat h
    simpa [UInt8.toNat_ofNat, Nat.mod_eq_of_lt (by omega : c.toNat < 256)] using this
  by_cases h2 : c.toNat < 0x800
  · exact ⟨[_], _, utf8EncodeChar_two (by omega) h2, hcont _⟩
  by_cases h3 : c.toNat < 0x10000
  · exact ⟨[_, _], _, utf8EncodeChar_three (by omega) h3, hcont _⟩
  · exact ⟨[_, _, _], _, utf8EncodeChar_four (by omega), hcont _⟩

/-- Dropping trailing zero bytes from encoded text drops exactly its trailing `U+0000`s. -/
theorem rdropWhile_flatMap_utf8EncodeChar (cs : List Char) :
    (cs.flatMap String.utf8EncodeChar).rdropWhile (· == 0) =
      (cs.rdropWhile (· == Char.ofNat 0)).flatMap String.utf8EncodeChar :=
  rdropWhile_flatMap_of_terminator (by decide) (fun _ => utf8EncodeChar_eq_concat) cs

/-! ### Texts -/

theorem ofString_ofList (cs : List Char) :
    ofString (String.ofList cs) = ⟨cs.flatMap String.utf8EncodeChar⟩ := by
  simp [ofString, String.toUTF8, ByteArray.toList_eq_data_toList, List.utf8Encode]

/-- The text of a string reads back as the string. -/
theorem chars_ofString_ofList (cs : List Char) : (ofString (String.ofList cs)).chars = cs := by
  rw [ofString_ofList, chars, runes_flatMap_utf8EncodeChar]

/-- The text of a string is well-formed. -/
theorem isValid_ofString_ofList (cs : List Char) :
    (ofString (String.ofList cs)).isValid = true := by
  rw [ofString_ofList, isValid, validBytes_flatMap_utf8EncodeChar]

/-- A well-formed text is the text of its characters. -/
theorem ofString_ofList_chars {t : Text} (h : t.isValid = true) :
    ofString (String.ofList t.chars) = t := by
  rw [ofString_ofList, chars, flatMap_runes_of_validBytes t.bytes h]

end Text

/-! ### UTF-16 -/

namespace Utf16

/-- A unit is its low byte and its high byte, put back together. -/
theorem unit_of_bytes (u : UInt16) :
    (u.toUInt8.toUInt16 ||| ((u >>> 8).toUInt8.toUInt16 <<< 8)) = u := by
  apply UInt16.toNat_inj.1
  have hu := u.toNat_lt
  simp only [UInt16.toNat_or, UInt16.toNat_shiftLeft, UInt8.toNat_toUInt16, UInt16.toNat_toUInt8,
    UInt16.toNat_shiftRight, UInt16.reduceToNat, Nat.shiftLeft_eq, Nat.shiftRight_eq_div_pow,
    Nat.reduceMod, Nat.reducePow]
  have hlo : u.toNat % 256 < 2 ^ 8 := Nat.mod_lt _ (by norm_num)
  rw [Nat.or_comm, Nat.mod_eq_of_lt (a := u.toNat / 256) (by omega),
    Nat.mod_eq_of_lt (by omega), Nat.mul_comm, ← Nat.two_pow_add_eq_or_of_lt hlo]
  omega

theorem unitsOf_bytesOf (us : List UInt16) : unitsOf (bytesOf us) = us := by
  induction us with
  | nil => rfl
  | cons u us ih =>
    simp only [bytesOf, List.flatMap_cons, List.cons_append, List.nil_append] at ih ⊢
    rw [unitsOf, unit_of_bytes, ih]

theorem isSurrogate_iff (u : UInt16) :
    isSurrogate u = true ↔ 0xD800 ≤ u.toNat ∧ u.toNat ≤ 0xDFFF := by
  simp [isSurrogate, UInt16.le_iff_toNat_le]

theorem isLow_iff (u : UInt16) : isLow u = true ↔ 0xDC00 ≤ u.toNat ∧ u.toNat ≤ 0xDFFF := by
  simp [isLow, UInt16.le_iff_toNat_le]

theorem decodeUnits_cons_of_not_surrogate {u : UInt16} (h : isSurrogate u = false)
    (rest : List UInt16) : decodeUnits (u :: rest) = Char.ofNat u.toNat :: decodeUnits rest := by
  cases rest with
  | nil => simp [decodeUnits, h]
  | cons v rest => simp [decodeUnits, h]

theorem decodeUnits_pair {hi lo : UInt16} (hh : 0xD800 ≤ hi.toNat ∧ hi.toNat ≤ 0xDBFF)
    (hl : 0xDC00 ≤ lo.toNat ∧ lo.toNat ≤ 0xDFFF) (rest : List UInt16) :
    decodeUnits (hi :: lo :: rest) =
      Char.ofNat (0x10000 + (hi.toNat - 0xD800) * 0x400 + (lo.toNat - 0xDC00)) ::
        decodeUnits rest := by
  have h1 : isSurrogate hi = true := (isSurrogate_iff hi).2 (by omega)
  have h2 : isLow lo = true := (isLow_iff lo).2 hl
  have h3 : hi ≤ 0xDBFF := by simp [UInt16.le_iff_toNat_le]; omega
  simp [decodeUnits, h1, h2, h3]

/-- The reader gives back each written character: one unit below `U+10000`, which is no
surrogate, or a high and a low surrogate. -/
theorem decodeUnits_encodeChar_append (c : Char) (rest : List UInt16) :
    decodeUnits (encodeChar c ++ rest) = c :: decodeUnits rest := by
  have hv := Text.toNat_valid c
  simp only [encodeChar]
  split_ifs with h
  · have hu : c.toNat.toUInt16.toNat = c.toNat := by simp [Nat.toUInt16]; omega
    rw [List.singleton_append, decodeUnits_cons_of_not_surrogate
      (by rw [← Bool.not_eq_true, isSurrogate_iff, hu]; omega), hu, Char.ofNat_toNat]
  · have hhi : (0xD800 + (c.toNat - 0x10000) / 0x400).toUInt16.toNat =
        0xD800 + (c.toNat - 0x10000) / 0x400 := by simp [Nat.toUInt16]; omega
    have hlo : (0xDC00 + (c.toNat - 0x10000) % 0x400).toUInt16.toNat =
        0xDC00 + (c.toNat - 0x10000) % 0x400 := by simp [Nat.toUInt16]; omega
    rw [List.cons_append, List.singleton_append, decodeUnits_pair (by omega) (by omega), hhi, hlo]
    rw [List.cons.injEq]
    exact ⟨Text.scalar_eq (by omega), rfl⟩

theorem decodeUnits_flatMap_encodeChar (cs : List Char) :
    decodeUnits (cs.flatMap encodeChar) = cs := by
  induction cs with
  | nil => rfl
  | cons c cs ih => rw [List.flatMap_cons, decodeUnits_encodeChar_append, ih]

/-- Only `U+0000` is written as a zero unit; every other character is written ending in a unit
that is not zero. -/
theorem encodeChar_eq_concat {c : Char} (hc : c ≠ Char.ofNat 0) :
    ∃ init u, encodeChar c = init ++ [u] ∧ u ≠ 0 := by
  have hv := Text.toNat_valid c
  have h0 : c.toNat ≠ 0 := fun h => hc (by rw [← Char.ofNat_toNat c, h])
  simp only [encodeChar]
  split_ifs with h
  · refine ⟨[], _, rfl, fun hu => h0 ?_⟩
    have := congrArg UInt16.toNat hu
    simp [Nat.toUInt16] at this
    omega
  · refine ⟨[_], _, rfl, fun hu => ?_⟩
    have := congrArg UInt16.toNat hu
    simp [Nat.toUInt16] at this
    omega

theorem trimNul_eq (us : List UInt16) : trimNul us = us.rdropWhile (· == 0) := rfl

/-- Dropping trailing zero units from written text drops exactly its trailing `U+0000`s. -/
theorem trimNul_flatMap_encodeChar (cs : List Char) :
    trimNul (cs.flatMap encodeChar) = (cs.rdropWhile (· == Char.ofNat 0)).flatMap encodeChar := by
  rw [trimNul_eq]
  exact Text.rdropWhile_flatMap_of_terminator (by decide) (fun _ => encodeChar_eq_concat) cs

/-- The wide text of a text reads back as the text of its characters less the trailing
`U+0000`s: ill-formed bytes come back as replacement characters, and the terminator the
reader drops takes those characters with it. -/
theorem decode_encode (t : Text) :
    decode (encode t) =
      .ok (Text.ofString (String.ofList (t.chars.rdropWhile (· == Char.ofNat 0)))) := by
  rw [decode, encode, if_pos (by rw [length_bytesOf]; omega), unitsOf_bytesOf,
    trimNul_flatMap_encodeChar, decodeUnits_flatMap_encodeChar]

/-- **Wide text round trip**: a text reads back from its wide text exactly when it is
well-formed UTF-8 and does not end in `U+0000`. -/
theorem decode_encode_eq_self_iff (t : Text) :
    decode (encode t) = .ok t ↔ t.isValid = true ∧ t.chars.getLast? ≠ some (Char.ofNat 0) := by
  rw [decode_encode]
  constructor
  · intro h
    have ht := Except.ok.inj h
    have hchars : t.chars = t.chars.rdropWhile (· == Char.ofNat 0) := by
      conv_lhs => rw [← ht, Text.chars_ofString_ofList]
    refine ⟨ht ▸ Text.isValid_ofString_ofList _, fun hl => ?_⟩
    have hne : t.chars ≠ [] := fun hn => by simp [hn] at hl
    have := List.rdropWhile_eq_self_iff.1 hchars.symm hne
    rw [List.getLast?_eq_some_getLast hne, Option.some.injEq] at hl
    simp [hl] at this
  · rintro ⟨hv, hl⟩
    rw [List.rdropWhile_eq_self_iff.2 fun hne => by
      rw [List.getLast?_eq_some_getLast hne, Ne, Option.some.injEq] at hl
      simpa using hl, Text.ofString_ofList_chars hv]

/-! ### Text read from UTF-16 -/

theorem decodeUnits_ne_nil {us : List UInt16} (h : us ≠ []) : decodeUnits us ≠ [] := by
  fun_cases decodeUnits us <;> simp_all

/-- The reader gives `U+0000` only for a zero unit on its own, so the characters of units that
do not end in a zero unit do not end in `U+0000`. -/
theorem getLast?_of_decodeUnits {us : List UInt16}
    (h : (decodeUnits us).getLast? = some (Char.ofNat 0)) : us.getLast? = some 0 := by
  -- a replacement character and a character of a surrogate pair are not `U+0000`
  have hrep : '�' ≠ Char.ofNat 0 := by decide
  fun_induction decodeUnits us with
  | case1 => simp at h
  | case2 u =>
    simp only [List.getLast?_singleton, Option.some.injEq] at h ⊢
    split at h
    · exact absurd h hrep
    · have hu : u.toNat < 0xD800 ∨ (0xDFFF < u.toNat ∧ u.toNat < 0x110000) := by
        have := (isSurrogate_iff u).not.1 (by simpa using ‹¬isSurrogate u = true›)
        have := u.toNat_lt
        omega
      have := congrArg Char.toNat h
      rw [show Char.ofNat u.toNat = Text.scalar u.toNat from rfl, Text.toNat_scalar hu] at this
      exact UInt16.toNat_inj.1 (by simpa using this)
  | case3 u v rest hs hl ih =>
    cases rest with
    | nil =>
      simp only [decodeUnits, List.getLast?_singleton, Option.some.injEq] at h
      split at h
      · have hu := (isSurrogate_iff u).1 hs
        have hv := (isLow_iff v).1 hl
        have hhi : u.toNat ≤ 0xDBFF := by simpa [UInt16.le_iff_toNat_le] using ‹u ≤ 0xDBFF›
        have := congrArg Char.toNat h
        rw [show Char.ofNat (0x10000 + (u.toNat - 0xD800) * 0x400 + (v.toNat - 0xDC00)) =
          Text.scalar (0x10000 + (u.toNat - 0xD800) * 0x400 + (v.toNat - 0xDC00)) from rfl,
          Text.toNat_scalar (by omega)] at this
        simp at this
      · exact absurd h hrep
    | cons w rest =>
      rw [List.getLast?_cons_of_ne_nil (decodeUnits_ne_nil (List.cons_ne_nil _ _))] at h
      rw [List.getLast?_cons_cons, List.getLast?_cons_cons]
      exact ih h
  | case4 u v rest hs hl ih =>
    rw [List.getLast?_cons_of_ne_nil (decodeUnits_ne_nil (List.cons_ne_nil _ _))] at h
    rw [List.getLast?_cons_cons]
    exact ih h
  | case5 u v rest hs ih =>
    rw [List.getLast?_cons_of_ne_nil (decodeUnits_ne_nil (List.cons_ne_nil _ _))] at h
    rw [List.getLast?_cons_cons]
    exact ih h

/-- Text read from UTF-16 does not end in `U+0000`: the reader drops the trailing zero units
that would give them. -/
theorem rdropWhile_decodeUnits_trimNul (us : List UInt16) :
    (decodeUnits (trimNul us)).rdropWhile (· == Char.ofNat 0) = decodeUnits (trimNul us) := by
  rw [List.rdropWhile_eq_self_iff]
  intro hne hlast
  have hz := getLast?_of_decodeUnits (by rw [List.getLast?_eq_some_getLast hne]; simpa using hlast)
  have htrim : trimNul us ≠ [] := fun h => hne (by rw [h]; rfl)
  rw [List.getLast?_eq_some_getLast htrim, Option.some.injEq] at hz
  exact List.rdropWhile_last_not (· == 0) us htrim (beq_iff_eq.2 hz)

end Utf16

end MailStore
