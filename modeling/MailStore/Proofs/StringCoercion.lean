import Mathlib
import MailStore.Db.Reader
import MailStore.Entity.Columns
import MailStore.Proofs.DecodeLaw

/-!
# The two string types read alike

A property database stores text as narrow text (bytes meant as UTF-8) or as wide text (UTF-16),
and hands a stored property out in the type a caller asks for. Asking for the stored type, or for
no type, gives the property as it is; asking for the other string type converts it: wide text is
read and its characters written as UTF-8, narrow text is written as UTF-16 character by
character. Every other request for another type reads as "not found".

The conversions keep the text. Narrow text that is well-formed UTF-8 is the encoding of its
characters, and the wide reader's dropping of trailing zero units drops exactly the text's
trailing `U+0000`s, which the narrow reader drops as zero bytes. Wide text read and written as
UTF-8 never ends in `U+0000`, so the narrow reader drops nothing from it. A column of text on an
entity therefore reads the same characters whichever string type the writer stored.

## Main statements

* `PropertyDb.decode_widen`, `PropertyDb.decode_narrow`: a string property reads the same after
  conversion to the other string type.
* `PropertyDb.project_string_types`: what a projection of a stored property gives, for each
  requested type.
-/

namespace MailStore

namespace RawProp

/-- Text that reads the same in both string types: narrow text that is well-formed UTF-8, or
wide text of an even number of bytes. -/
def IsText (p : RawProp) : Prop :=
  (p.tag.type = .string8 ∧ (Text.mk p.data).isValid = true) ∨
    (p.tag.type = .unicode ∧ p.data.length % 2 = 0)

end RawProp

namespace PropertyDb

variable {p : RawProp}

/-! ### Converting between the string types -/

/-- The wide text read from a payload of an even number of bytes. -/
def wideText (b : Bytes) : Text :=
  Text.ofString (String.ofList (Utf16.decodeUnits ((Utf16.unitsOf b).rdropWhile (· == 0))))

theorem coerce_same {want : PropType} (h : want = .unspecified ∨ want = p.tag.type) :
    coerce p want = some p := by
  unfold coerce
  rw [if_pos h]

theorem coerce_widen (h : p.tag.type = .string8) :
    coerce p .unicode = some ⟨Tag.make .unicode p.tag.id, Utf16.encode ⟨p.data⟩⟩ := by
  unfold coerce
  simp +decide [h]

theorem coerce_narrow (h : p.tag.type = .unicode) (he : p.data.length % 2 = 0) :
    coerce p .string8 = some ⟨Tag.make .string8 p.tag.id, (wideText p.data).bytes⟩ := by
  unfold coerce
  simp +decide [h, Utf16.decode_of_even he, wideText]

/-- Only the two string types convert into each other. -/
theorem coerce_eq_none {want : PropType} (ht : want ≠ p.tag.type) (hu : want ≠ .unspecified)
    (hw : ¬ (p.tag.type = .string8 ∧ want = .unicode))
    (hn : ¬ (p.tag.type = .unicode ∧ want = .string8)) : coerce p want = none := by
  unfold coerce
  rw [if_neg (by rintro (h | h) <;> contradiction), if_neg (by rintro ⟨h₁, h₂⟩; exact hn ⟨h₁, h₂⟩),
    if_neg (by rintro ⟨h₁, h₂⟩; exact hw ⟨h₁, h₂⟩)]

/-- Narrow text that is well-formed UTF-8 reads the same once written as UTF-16. -/
theorem decode_widen (h : p.tag.type = .string8) (hv : (Text.mk p.data).isValid = true) :
    Codec.decode ⟨Tag.make .unicode p.tag.id, Utf16.encode ⟨p.data⟩⟩ = Codec.decode p := by
  have hbytes : Text.ofString (String.ofList ((Text.mk p.data).chars.rdropWhile
      (· == Char.ofNat 0))) = ⟨p.data.rdropWhile (· == 0)⟩ := by
    rw [Text.ofString_ofList, ← Text.rdropWhile_flatMap_utf8EncodeChar, Text.chars,
      Text.flatMap_runes_of_validBytes _ hv]
  calc Codec.decode ⟨Tag.make .unicode p.tag.id, Utf16.encode ⟨p.data⟩⟩
      = (Utf16.decode (Utf16.encode ⟨p.data⟩)).map fun s => some (.string s) :=
        Codec.decode_unicode _ _
    _ = .ok (some (.string ⟨p.data.rdropWhile (· == 0)⟩)) := by
        rw [Utf16.decode_encode, hbytes]
        rfl
    _ = Codec.decode p := (Codec.decode_of_string8 h).symm

/-- Wide text of an even number of bytes reads the same once written as UTF-8: its characters
do not end in `U+0000`, so the narrow reader keeps all its bytes. -/
theorem decode_narrow (h : p.tag.type = .unicode) (he : p.data.length % 2 = 0) :
    Codec.decode ⟨Tag.make .string8 p.tag.id, (wideText p.data).bytes⟩ = Codec.decode p := by
  have hkeep : (wideText p.data).bytes.rdropWhile (· == 0) = (wideText p.data).bytes := by
    rw [wideText, Text.ofString_ofList, Text.rdropWhile_flatMap_utf8EncodeChar,
      ← Utf16.trimNul_eq, Utf16.rdropWhile_decodeUnits_trimNul]
  have hwide : Codec.decode p = .ok (some (.string ⟨(wideText p.data).bytes⟩)) :=
    Codec.decode_of_unicode h he
  rw [Codec.decode_of_string8 (Tag.type_make _ _), hkeep, hwide]

/-! ### Projecting a stored property -/

/-- In a list of properties with distinct ids, a property is the one found by its id. -/
theorem find?_id_of_mem {props : List RawProp} (hids : (props.map (·.tag.id)).Nodup)
    (hp : p ∈ props) : props.find? (fun q => decide (q.tag.id = p.tag.id)) = some p := by
  obtain ⟨q, hq⟩ : ∃ q, props.find? (fun q => decide (q.tag.id = p.tag.id)) = some q := by
    cases h : props.find? (fun q => decide (q.tag.id = p.tag.id)) with
    | some q => exact ⟨q, rfl⟩
    | none => simp [List.find?_eq_none] at h; exact absurd rfl (h p hp)
  have hid : q.tag.id = p.tag.id := by simpa using List.find?_some hq
  rw [hq, List.inj_on_of_nodup_map hids (List.mem_of_find?_eq_some hq) hp hid]

/-- A projection of a tag whose id finds a stored property: that property in the tag's type, or
an error property. -/
theorem project_of_find? {props : List RawProp} {id : UInt16} (want : PropType) (limit : Nat)
    (inline : Bool) (hf : props.find? (fun q => decide (q.tag.id = id)) = some p) :
    project props limit (Tag.make want id) inline =
      match coerce p want with
      | none => RawProp.errorProp id ErrorCode.notFound
      | some v =>
        if inline ∧ v.data.length > limit then RawProp.errorProp id ErrorCode.notEnoughMemory
        else v := by
  unfold project
  rw [Tag.id_make, Tag.type_make]
  split
  · next hnone => simp [hnone] at hf
  · next stored hsome =>
    rw [hf, Option.some.injEq] at hsome
    subst hsome
    rfl

/-- An entity's text column reads a string property of either type as the text it decodes
to. -/
theorem text?_of_decode {v : RawProp} {s : Text}
    (ht : v.tag.type = .unicode ∨ v.tag.type = .string8)
    (hd : Codec.decode v = .ok (some (.string s))) : Row.text? [v] 0 = some s := by
  rcases ht with ht | ht
  · simp [Row.text?, Row.column, ht, hd]
  · have hne : PropType.string8 ≠ PropType.unicode := by decide
    simp [Row.text?, Row.column, ht, hne, hd]

/-- A text property converted to a requested string type, or to no type, reads as it did. -/
theorem coerce_text (hp : p.IsText) {want : PropType}
    (hw : want = .string8 ∨ want = .unicode ∨ want = .unspecified) :
    ∃ v, coerce p want = some v ∧ Codec.decode v = Codec.decode p ∧
      (v.tag.type = .unicode ∨ v.tag.type = .string8) := by
  have htype : p.tag.type = .unicode ∨ p.tag.type = .string8 := by
    rcases hp with ⟨h, -⟩ | ⟨h, -⟩
    · exact .inr h
    · exact .inl h
  -- a request for the stored type or for none gives the property as it is
  by_cases hsame : want = .unspecified ∨ want = p.tag.type
  · exact ⟨p, coerce_same hsame, rfl, htype⟩
  -- otherwise the request is for the other string type
  rcases hp with ⟨h, hv⟩ | ⟨h, he⟩
  · have hwant : want = .unicode := by
      rcases hw with rfl | rfl | rfl <;> simp_all
    subst hwant
    exact ⟨_, coerce_widen h, decode_widen h hv, .inl (Tag.type_make _ _)⟩
  · have hwant : want = .string8 := by
      rcases hw with rfl | rfl | rfl <;> simp_all
    subst hwant
    exact ⟨_, coerce_narrow h he, decode_narrow h he, .inr (Tag.type_make _ _)⟩

/-- **Projection between the string types.** In a property list with distinct ids, a stored text
property (narrow text that is well-formed UTF-8, or wide text of an even number of bytes)
projected in either string type or in no type is a property that reads as the stored one does,
unless the bulk read reports it as too large; an entity's text column reads it as the same text.
A request for another type than the stored one, other than no type and the other string type,
reads as "not found". -/
theorem project_string_types {props : List RawProp} (hids : (props.map (·.tag.id)).Nodup)
    (hp : p ∈ props) (limit : Nat) (inline : Bool) :
    (p.IsText → ∀ want, (want = .string8 ∨ want = .unicode ∨ want = .unspecified) →
      ∃ v s, coerce p want = some v ∧ Codec.decode v = Codec.decode p ∧
        project props limit (Tag.make want p.tag.id) inline =
          (if inline ∧ v.data.length > limit then
            RawProp.errorProp p.tag.id ErrorCode.notEnoughMemory else v) ∧
        Codec.decode p = .ok (some (.string s)) ∧ Row.text? [v] 0 = some s) ∧
    (∀ want, want ≠ p.tag.type → want ≠ .unspecified →
      ¬ (p.tag.type = .string8 ∧ want = .unicode) → ¬ (p.tag.type = .unicode ∧ want = .string8) →
      project props limit (Tag.make want p.tag.id) inline =
        RawProp.errorProp p.tag.id ErrorCode.notFound) := by
  have hf := find?_id_of_mem hids hp
  constructor
  · intro htext want hw
    obtain ⟨v, hc, hd, ht⟩ := coerce_text htext hw
    -- text decodes to a string: narrow text always, wide text of an even length
    obtain ⟨s, hs⟩ : ∃ s, Codec.decode p = .ok (some (.string s)) := by
      rcases htext with ⟨h, -⟩ | ⟨h, he⟩
      · exact ⟨_, Codec.decode_of_string8 h⟩
      · exact ⟨_, Codec.decode_of_unicode h he⟩
    refine ⟨v, s, hc, hd, ?_, hs, text?_of_decode ht (hd.trans hs)⟩
    rw [project_of_find? want limit inline hf, hc]
  · intro want ht hu hw hn
    rw [project_of_find? want limit inline hf, coerce_eq_none ht hu hw hn]

/-- A wide subject `hi`, alone in its list, projected with the inline limit on. -/
theorem project_string_types_wide_hi :
    let p : RawProp := ⟨Tag.make .unicode 0x0037, [104, 0, 105, 0]⟩
    ([p].map (·.tag.id)).Nodup ∧ p ∈ [p] ∧ p.IsText ∧
      (p.IsText → ∀ want, (want = .string8 ∨ want = .unicode ∨ want = .unspecified) →
        ∃ v s, coerce p want = some v ∧ Codec.decode v = Codec.decode p ∧
          project [p] 32 (Tag.make want p.tag.id) true =
            (if true ∧ v.data.length > 32 then
              RawProp.errorProp p.tag.id ErrorCode.notEnoughMemory else v) ∧
          Codec.decode p = .ok (some (.string s)) ∧ Row.text? [v] 0 = some s) ∧
      (∀ want, want ≠ p.tag.type → want ≠ .unspecified →
        ¬ (p.tag.type = .string8 ∧ want = .unicode) → ¬ (p.tag.type = .unicode ∧ want = .string8) →
        project [p] 32 (Tag.make want p.tag.id) true =
          RawProp.errorProp p.tag.id ErrorCode.notFound) :=
  ⟨by decide, List.mem_singleton_self _, .inr ⟨by decide, by decide⟩,
    project_string_types (by decide) (List.mem_singleton_self _) 32 true⟩

end PropertyDb

end MailStore
