import Mathlib
import MailStore.Proofs.StringCoercion

/-!
# Two readings of the read flag

Whether a message has been read is bit 0 of its flags property, and the property database
reads that bit in two places. When a message is written, every integer or boolean payload is
mirrored into a number, and a folder's unread count takes the messages whose flags number is
missing or even. An item, on the other hand, takes its flags from its row of the contents
table, where the flags column is asked for as a 32-bit integer: the stored property is handed
out only when it was stored in that type, and as "not found" otherwise, which the item reads
as zero.

So the item sees a message as read exactly when the number the count filters on is odd, the
flags were stored as a 32-bit integer, and the bulk read does not report them as too large
(`PropertyDb.item_read_iff_counted_read`). Flags stored as a 16-bit or 64-bit integer or as a
boolean, with the read bit set, are read by the count and unread by the item.
-/

namespace MailStore

namespace Row

/-- An integer column depends only on the property at its position. -/
theorem long_of_getElem? {row : List RawProp} {idx : Nat} {p : RawProp} (h : row[idx]? = some p) :
    long row idx = long [p] 0 := by
  simp [long, column, h]

/-- An error property never reads as a 32-bit integer. -/
theorem long_errorProp (id : UInt16) (code : UInt32) : long [RawProp.errorProp id code] 0 = 0 := by
  have herr : PropType.error ≠ PropType.long := by decide
  simp [long, column, RawProp.errorProp, Tag.type_make, herr]

/-- A property stored as a 32-bit integer reads as the number its payload is mirrored into,
and as zero when it is mirrored into none. -/
theorem long_of_type_long {p : RawProp} (ht : p.tag.type = .long) :
    long [p] 0 = ((PropWrite.ofRaw p).numeric).getD 0 := by
  simp only [long, column, List.getElem?_cons_zero, ht, ↓reduceIte, PropWrite.numeric,
    PropWrite.ofRaw]
  -- a 32-bit payload reads as an integer or not at all, never as a boolean
  have hnot_bool : ∀ b, Codec.decode p ≠ .ok (some (.bool b)) := by
    intro b hb
    have hk := Codec.kind_of_decode_eq_some hb
    rw [ht, Value.kind] at hk
    exact absurd hk (by decide)
  cases hd : Codec.decode p with
  | error f => rfl
  | ok v =>
    rcases v with _ | v
    · rfl
    · cases v with
      | int n => rfl
      | bool b => exact absurd hd (hnot_bool b)
      | _ => rfl

end Row

namespace PropertyDb

/-- The flags column of an item row is the projection of the flags tag. -/
theorem item_flags_column (props : List RawProp) (limit : Nat) :
    (Columns.item.map fun c => project props limit c true)[6]? =
      some (project props limit Tag.messageFlags true) := rfl

/-- **The item's read flag and the unread count.** In an item's row of the contents table, the
flags column reads as odd exactly when the entry's flags property is stored as a 32-bit
integer, no longer than the inline limit, and the number its payload is mirrored into, the one
the folder's unread count tests, is odd. -/
theorem item_read_iff_counted_read (props : List RawProp) (limit : Nat) :
    Row.long (Columns.item.map fun c => project props limit c true) 6 % 2 = 1 ↔
      ∃ p, props.find? (fun q => decide (q.tag.id = Tag.messageFlags.id)) = some p ∧
        p.tag.type = .long ∧ p.data.length ≤ limit ∧
        ∃ n, (PropWrite.ofRaw p).numeric = some n ∧ n % 2 = 1 := by
  rw [Row.long_of_getElem? (item_flags_column props limit)]
  have hid : Tag.messageFlags.id = 0x0E07 := by decide
  have hmake : Tag.messageFlags = Tag.make .long 0x0E07 := by decide
  rw [hid, hmake]
  cases hf : props.find? (fun q => decide (q.tag.id = 0x0E07)) with
  | none =>
    -- no flags property: the column is an error property, and there is nothing to count
    have hproj : project props limit (Tag.make .long 0x0E07) true =
        RawProp.errorProp 0x0E07 ErrorCode.notFound := by
      unfold project
      rw [Tag.id_make, hf]
    simp [hproj, Row.long_errorProp]
  | some p =>
    rw [project_of_find? .long limit true hf]
    by_cases ht : p.tag.type = .long
    · rw [coerce_same (.inr ht.symm)]
      dsimp only
      by_cases hl : p.data.length > limit
      · -- too large for a bulk read
        simp [hl, Row.long_errorProp]
      · rw [if_neg (fun h => hl h.2), Row.long_of_type_long ht]
        cases hn : (PropWrite.ofRaw p).numeric with
        | none => simp [hn]
        | some n => simp [hn, ht, Nat.le_of_not_gt hl]
    · -- stored in another type: the 32-bit request reads as "not found"
      have hne : ¬ (p.tag.type = .unicode ∧ PropType.long = .string8) := fun h => absurd h.2 (by decide)
      have hne' : ¬ (p.tag.type = .string8 ∧ PropType.long = .unicode) := fun h => absurd h.2 (by decide)
      rw [coerce_eq_none (Ne.symm ht) (by decide) hne' hne]
      simp [Row.long_errorProp, ht]

end PropertyDb

end MailStore
