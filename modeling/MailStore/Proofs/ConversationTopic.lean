import Mathlib
import MailStore.Mail.Message

/-!
# Conversation topics

The conversation topic of a subject is the subject with white space trimmed and its reply and
forward prefixes (`re:`, `fw:`, `fwd:`, `aw:`, `sv:`, in any letter case) stripped one after the
other, trimming again after each. The stripping loop is run with one step of fuel for each
character of the subject, and a step shortens the text by at least its colon, so the fuel never
runs out: the loop always stops because the text no longer starts with a prefix
(`Mail.stripOne?_topic`).

A topic is therefore a normal form: trimmed, free of a leading prefix, and its own topic. A
prefix in front of a subject does not change its topic, so a reply and the message it answers are
written with the same topic property and the same conversation id; their properties differ only
in the subject.

## Main statements

* `Mail.stripOne?_topic`, `Mail.trim_topic`, `Mail.topic_topic`: the topic is a normal form.
* `Mail.topic_reply`: a prefix in front of a subject leaves its topic as it was.
* `Mail.topic_normal_form`: all of it, and what it means for the properties of a reply.
-/

namespace MailStore

/-! ### Dropping from both ends -/

namespace List

variable {α : Type} {p : α → Bool}

/-- Dropping from the front and dropping from the back commute. -/
theorem dropWhile_rdropWhile (l : List α) :
    (l.rdropWhile p).dropWhile p = (l.dropWhile p).rdropWhile p := by
  induction l using List.reverseRecOn with
  | nil => rfl
  | append_singleton l b ih =>
    by_cases hb : p b
    · rw [List.rdropWhile_concat_pos _ _ _ hb, ih, List.dropWhile_append]
      split
      · rename_i hnil
        rw [List.isEmpty_iff.1 hnil, List.dropWhile_cons_of_pos hb]
        rfl
      · rw [List.rdropWhile_concat_pos _ _ _ hb]
    -- a last element that stays ends both sides
    · rw [List.rdropWhile_concat_neg _ _ _ hb, List.dropWhile_append]
      split
      · rw [List.dropWhile_cons_of_neg hb, List.rdropWhile_singleton, if_neg hb]
      · rw [List.rdropWhile_concat_neg _ _ _ hb]

/-- Dropping from the back stops at an element that stays. -/
theorem rdropWhile_append_cons {a : α} (ha : ¬ p a) (l m : List α) :
    (l ++ a :: m).rdropWhile p = l ++ a :: m.rdropWhile p := by
  induction m using List.reverseRecOn with
  | nil => rw [List.rdropWhile_concat_neg _ _ _ ha, List.rdropWhile_nil]
  | append_singleton m b ih =>
    rw [← List.cons_append, ← List.append_assoc]
    by_cases hb : p b
    · rw [List.rdropWhile_concat_pos _ _ _ hb, List.rdropWhile_concat_pos _ _ _ hb, ih]
    · rw [List.rdropWhile_concat_neg _ _ _ hb, List.rdropWhile_concat_neg _ _ _ hb]
      simp

/-- The first index of an element that a prefix does not hold is the prefix's length. -/
theorem idxOf?_append_cons [BEq α] [LawfulBEq α] {a : α} {l : List α} (ha : a ∉ l) (m : List α) :
    (l ++ a :: m).idxOf? a = some l.length := by
  rw [List.idxOf?_eq_some_iff]
  refine ⟨by simp, by simp, fun j hj => ?_⟩
  rw [List.getElem_append_left hj]
  exact fun h => ha (h ▸ List.getElem_mem hj)

end List

/-! ### Trimming -/

namespace Case

theorem toList_trim (s : String) :
    (trim s).toList = (s.toList.dropWhile isSpace).rdropWhile isSpace := by
  simp [trim, List.rdropWhile]

theorem length_trim_le (s : String) : (trim s).length ≤ s.length := by
  rw [← String.length_toList, ← String.length_toList, toList_trim]
  calc ((s.toList.dropWhile isSpace).rdropWhile isSpace).length
      ≤ (s.toList.dropWhile isSpace).length := (List.rdropWhile_prefix _ _).length_le
    _ ≤ s.toList.length := (List.dropWhile_suffix _).length_le

/-- Trimming twice trims once. -/
theorem trim_trim (s : String) : trim (trim s) = trim s := by
  apply String.ext
  rw [toList_trim, toList_trim]
  -- what is left after trimming starts where the dropping from the front stopped
  have hfront : ((s.toList.dropWhile isSpace).rdropWhile isSpace).dropWhile isSpace =
      (s.toList.dropWhile isSpace).rdropWhile isSpace := by
    rw [List.dropWhile_rdropWhile, List.dropWhile_idempotent]
  rw [hfront, List.rdropWhile_idempotent]

/-- Trimming does not see white space already dropped from the back. -/
theorem trim_rdropWhile (cs : List Char) :
    trim (String.ofList (cs.rdropWhile isSpace)) = trim (String.ofList cs) := by
  apply String.ext
  rw [toList_trim, toList_trim, String.toList_ofList, String.toList_ofList,
    List.dropWhile_rdropWhile, List.rdropWhile_idempotent]

/-- A text that starts with something other than white space and has a character that is not
white space keeps its front and loses the white space after that character. -/
theorem trim_append_cons {c a : Char} (hc : isSpace c = false) (ha : isSpace a = false)
    (l m : List Char) :
    (trim (String.ofList (c :: l ++ a :: m))).toList = c :: l ++ a :: m.rdropWhile isSpace := by
  rw [toList_trim, String.toList_ofList, List.cons_append,
    List.dropWhile_cons_of_neg (by simp [hc]), ← List.cons_append,
    List.rdropWhile_append_cons (by simp [ha])]

end Case

/-! ### Letter case of the prefixes -/

namespace Case

/-- The lower-case mapping agrees with ASCII lowering on ASCII. -/
theorem lowerChar_ascii : ∀ n < 128, lowerChar (Char.ofNat n) = (Char.ofNat n).toLower := by
  decide +kernel

/-- An ASCII character that lowers to a small letter is no white space. -/
theorem isSpace_ascii :
    ∀ n < 128, (Char.ofNat n).toLower.isLower → isSpace (Char.ofNat n) = false := by
  decide +kernel

theorem lowerChar_of_lt {c : Char} (h : c.toNat < 128) : lowerChar c = c.toLower := by
  rw [← Char.ofNat_toNat c]
  exact lowerChar_ascii _ h

/-- Outside ASCII, ASCII lowering changes nothing. -/
theorem toLower_of_le {c : Char} (h : 128 ≤ c.toNat) : c.toLower = c := by
  unfold Char.toLower
  rw [dif_neg]
  rintro ⟨-, hz⟩
  have : c.toNat ≤ 90 := UInt32.le_iff_toNat_le.1 hz
  omega

end Case

namespace Mail

/-- The characters of the prefixes: lower-case ASCII letters. -/
theorem ascii_lower_of_mem_prefixes :
    ∀ p ∈ prefixes, ∀ d ∈ p.toList, d.toNat < 128 ∧ d.isLower := by
  intro p hp d hd
  simp only [prefixes, List.mem_cons, List.not_mem_nil, or_false] at hp
  -- one prefix at a time, one letter at a time
  rcases hp with rfl | rfl | rfl | rfl | rfl <;> simp at hd <;>
    rcases hd with rfl | rfl | rfl <;> simp

/-- A character that lowers to ASCII is ASCII. -/
theorem lt_of_toLower_lt {c : Char} (h : c.toLower.toNat < 128) : c.toNat < 128 := by
  by_contra hc
  rw [Case.toLower_of_le (by omega)] at h
  exact hc h

/-- A prefix in any ASCII letter case lowers to itself. -/
theorem lower_of_map_toLower {p p' : String} (hp : p ∈ prefixes) (h : p'.map Char.toLower = p) :
    Case.lower p' = p := by
  rw [← h]
  apply String.ext
  rw [Case.lower, String.toList_ofList, String.toList_map]
  refine List.map_congr_left fun c hc => Case.lowerChar_of_lt (lt_of_toLower_lt ?_)
  refine (ascii_lower_of_mem_prefixes p hp c.toLower ?_).1
  rw [← h, String.toList_map]
  exact List.mem_map_of_mem hc

/-- A prefix in any letter case has no colon. -/
theorem colon_not_mem {p p' : String} (hp : p ∈ prefixes) (h : p'.map Char.toLower = p) :
    ':' ∉ p'.toList := by
  intro hc
  have : ':' ∈ p.toList := by
    rw [← h, String.toList_map]
    exact List.mem_map_of_mem (f := Char.toLower) hc
  have := (ascii_lower_of_mem_prefixes p hp ':' this).2
  exact absurd this (by decide)

/-- A prefix in any letter case starts with a letter. -/
theorem eq_cons_of_map_toLower {p p' : String} (hp : p ∈ prefixes) (h : p'.map Char.toLower = p) :
    ∃ c l, p'.toList = c :: l ∧ Case.isSpace c = false := by
  obtain ⟨d, k, hdk⟩ : ∃ d k, p.toList = d :: k := by
    simp only [prefixes, List.mem_cons, List.not_mem_nil, or_false] at hp
    rcases hp with rfl | rfl | rfl | rfl | rfl <;> exact ⟨_, _, rfl⟩
  rw [← h, String.toList_map] at hdk
  obtain ⟨c, l, hcl, hd, -⟩ := List.map_eq_cons_iff.1 hdk
  refine ⟨c, l, hcl, ?_⟩
  have hd' : d ∈ p.toList := by rw [← h, String.toList_map, hcl]; simp [hd]
  obtain ⟨hlt, hlow⟩ := ascii_lower_of_mem_prefixes p hp d hd'
  have hc : c.toNat < 128 := lt_of_toLower_lt (hd ▸ hlt)
  rw [← Char.ofNat_toNat c] at hd ⊢
  exact Case.isSpace_ascii _ hc (hd ▸ hlow)

end Mail

/-! ### Stripping prefixes -/

namespace Mail

/-- One step of stripping: the rest of a text after its first reply or forward prefix,
trimmed, when it starts with one. -/
def stripOne? (s : String) : Option String :=
  match s.toList.idxOf? ':' with
  | none => none
  | some i =>
    if prefixes.contains (Case.lower (String.ofList (s.toList.take i))) then
      some (Case.trim (String.ofList (s.toList.drop (i + 1))))
    else none

theorem stripPrefixes_succ (fuel : Nat) (s : String) :
    stripPrefixes (fuel + 1) s =
      match stripOne? s with
      | none => s
      | some s' => stripPrefixes fuel s' := by
  rw [stripPrefixes, stripOne?]
  cases s.toList.idxOf? ':' with
  | none => rfl
  | some i =>
    dsimp only
    split <;> rfl

/-- What a step of stripping leaves: the trimmed text after a colon of the text. -/
theorem stripOne?_eq_some {s s' : String} (h : stripOne? s = some s') :
    ∃ i < s.length, s' = Case.trim (String.ofList (s.toList.drop (i + 1))) := by
  unfold stripOne? at h
  cases hi : s.toList.idxOf? ':' with
  | none => simp only [hi] at h; cases h
  | some i =>
    simp only [hi] at h
    have hlt : i < s.length := by
      rw [← String.length_toList]
      exact (List.idxOf?_eq_some_iff.1 hi).1
    split at h
    · exact ⟨i, hlt, (Option.some.inj h).symm⟩
    · cases h

/-- A step of stripping shortens the text. -/
theorem length_lt_of_stripOne? {s s' : String} (h : stripOne? s = some s') :
    s'.length < s.length := by
  obtain ⟨i, hi, rfl⟩ := stripOne?_eq_some h
  calc (Case.trim (String.ofList (s.toList.drop (i + 1)))).length
      ≤ (String.ofList (s.toList.drop (i + 1))).length := Case.length_trim_le _
    _ < s.length := by
      rw [String.length_ofList, List.length_drop, String.length_toList]
      omega

/-- With a step of fuel for each character, stripping stops because no prefix is left. -/
theorem stripOne?_stripPrefixes {fuel : Nat} {s : String} (h : s.length < fuel) :
    stripOne? (stripPrefixes fuel s) = none := by
  induction fuel generalizing s with
  | zero => omega
  | succ fuel ih =>
    rw [stripPrefixes_succ]
    cases hs : stripOne? s with
    | none => exact hs
    | some s' => exact ih (by have := length_lt_of_stripOne? hs; omega)

/-- Enough fuel gives one answer, however much of it there is. -/
theorem stripPrefixes_congr {f₁ f₂ : Nat} {s : String} (h₁ : s.length < f₁) (h₂ : s.length < f₂) :
    stripPrefixes f₁ s = stripPrefixes f₂ s := by
  induction f₁ generalizing s f₂ with
  | zero => omega
  | succ f₁ ih =>
    obtain ⟨f₂, rfl⟩ : ∃ f, f₂ = f + 1 := ⟨f₂ - 1, by omega⟩
    rw [stripPrefixes_succ, stripPrefixes_succ]
    cases hs : stripOne? s with
    | none => rfl
    | some s' =>
      have := length_lt_of_stripOne? hs
      exact ih (by omega) (by omega)

/-- Stripping keeps a trimmed text trimmed: each step trims what it leaves. -/
theorem trim_stripPrefixes {fuel : Nat} {s : String} (h : Case.trim s = s) :
    Case.trim (stripPrefixes fuel s) = stripPrefixes fuel s := by
  induction fuel generalizing s with
  | zero => exact h
  | succ fuel ih =>
    rw [stripPrefixes_succ]
    cases hs : stripOne? s with
    | none => exact h
    | some s' =>
      obtain ⟨i, -, rfl⟩ := stripOne?_eq_some hs
      exact ih (Case.trim_trim _)

/-- A text that starts with a prefix in any letter case loses it and the white space after. -/
theorem stripOne?_prefix {p p' : String} (hp : p ∈ prefixes) (h : p'.map Char.toLower = p)
    (y : String) : stripOne? (p' ++ ":" ++ y) = some (Case.trim y) := by
  have hl : (p' ++ ":" ++ y).toList = p'.toList ++ ':' :: y.toList := by simp
  have hcontains : prefixes.contains (Case.lower p') = true := by
    rw [lower_of_map_toLower hp h]
    exact List.elem_iff.2 hp
  have htake : (p'.toList ++ ':' :: y.toList).take p'.toList.length = p'.toList := by simp
  have hdrop : (p'.toList ++ ':' :: y.toList).drop (p'.toList.length + 1) = y.toList := by simp
  rw [stripOne?, hl, List.idxOf?_append_cons (colon_not_mem hp h)]
  dsimp only
  rw [htake, hdrop, String.ofList_toList, String.ofList_toList, if_pos hcontains]

end Mail

/-! ### The topic -/

namespace Mail

theorem topic_eq (s : String) : topic s = stripPrefixes (s.length + 1) (Case.trim s) := rfl

/-- The topic starts with no prefix: the stripping stopped on its own. -/
theorem stripOne?_topic (s : String) : stripOne? (topic s) = none :=
  stripOne?_stripPrefixes (Nat.lt_succ_of_le (Case.length_trim_le s))

/-- The topic is trimmed. -/
theorem trim_topic (s : String) : Case.trim (topic s) = topic s :=
  trim_stripPrefixes (Case.trim_trim s)

/-- A topic is its own topic. -/
theorem topic_topic (s : String) : topic (topic s) = topic s := by
  rw [topic_eq (topic s), trim_topic, stripPrefixes_succ, stripOne?_topic]

/-- No topic starts with a prefix, in any letter case. -/
theorem topic_ne_prefix {p p' : String} (hp : p ∈ prefixes) (h : p'.map Char.toLower = p)
    (s rest : String) : topic s ≠ p' ++ ":" ++ rest := by
  intro he
  have := stripOne?_topic s
  rw [he, stripOne?_prefix hp h] at this
  cases this

/-- A prefix in front of a subject, in any letter case, leaves its topic as it was. -/
theorem topic_reply {p p' : String} (hp : p ∈ prefixes) (h : p'.map Char.toLower = p)
    (x : String) : topic (p' ++ ":" ++ x) = topic x := by
  obtain ⟨c, l, hcl, hc⟩ := eq_cons_of_map_toLower hp h
  -- trimming the reply drops white space only at the end of `x`
  have htrim : Case.trim (p' ++ ":" ++ x) =
      p' ++ ":" ++ String.ofList (x.toList.rdropWhile Case.isSpace) := by
    apply String.ext
    have hl : (p' ++ ":" ++ x).toList = c :: l ++ ':' :: x.toList := by simp [hcl]
    rw [← String.ofList_toList (s := p' ++ ":" ++ x), hl,
      Case.trim_append_cons hc (by decide)]
    simp [hcl]
  have hlen : (Case.trim x).length < (p' ++ ":" ++ x).length := by
    have := Case.length_trim_le x
    have hcolon : ":".length = 1 := rfl
    simp only [String.length_append]
    omega
  rw [topic_eq, htrim, stripPrefixes_succ, stripOne?_prefix hp h, Case.trim_rdropWhile,
    String.ofList_toList, topic_eq x]
  exact stripPrefixes_congr hlen (Nat.lt_succ_of_le (Case.length_trim_le x))

/-! ### The properties of a reply -/

/-- The properties of a message depend on its subject only through the subject property and
the topic: a subject with the same topic changes the subject property alone. -/
theorem messageProps_subject (m : MailMessage) (named : List Tag) {s : String}
    (h : topic s = topic m.subject) :
    messageProps { m with subject := s } named =
      (messageProps m named).map (·.set 0 (textProp Tag.subject s)) := by
  unfold messageProps
  simp only [h]
  split <;> rfl

/-- **Topics are a normal form.** The stripping of every subject stops because no prefix is
left, not for lack of fuel; every topic is trimmed, starts with no reply or forward prefix in
any ASCII letter case, and is its own topic. A prefix in front of a subject leaves the topic
as it was, so a reply is written with the properties of the message it answers, its subject
alone changed: the same topic property and, when the topic is not empty, the same conversation
id. -/
theorem topic_normal_form :
    (∀ s : String, stripOne? (topic s) = none ∧ Case.trim (topic s) = topic s ∧
      topic (topic s) = topic s ∧
      ∀ p ∈ prefixes, ∀ p' rest : String, p'.map Char.toLower = p → topic s ≠ p' ++ ":" ++ rest) ∧
    (∀ p ∈ prefixes, ∀ p' x : String, p'.map Char.toLower = p →
      topic (p' ++ ":" ++ x) = topic x ∧
      ∀ (m : MailMessage) (named : List Tag), m.subject = x →
        messageProps { m with subject := p' ++ ":" ++ x } named =
          (messageProps m named).map (·.set 0 (textProp Tag.subject (p' ++ ":" ++ x)))) := by
  refine ⟨fun s => ⟨stripOne?_topic s, trim_topic s, topic_topic s,
      fun p hp p' rest h => topic_ne_prefix hp h s rest⟩,
    fun p hp p' x h => ⟨topic_reply hp h x, fun m named hm => ?_⟩⟩
  exact messageProps_subject m named (by rw [topic_reply hp h, hm])

end Mail

end MailStore
