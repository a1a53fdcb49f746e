import Mathlib
import MailStore.Json.Parse

/-!
# Reading a stream of JSON values to its end

`Json.next` reads the next value of a stream and gives back the rest. Every value it reads
takes at least one character off the stream (`Json.length_next_value`): a read that succeeds
has consumed the value's first character, and each reader it calls leaves a suffix of what it
was given. So reading value after value comes to an end, either where only whitespace is left
or at the first value that cannot be read, and `Json.Reads cs js stop` holds of exactly one
list of values and one way of stopping for every stream (`Json.Reads.exists_of`,
`Json.Reads.determ`).

The readers of values run on fuel and call each other; what they leave is bounded for all of
them at once by induction on the fuel (`Json.length_read`).

## Main statements

* `Json.length_next_value`: a value read from a stream leaves a shorter stream.
* `Json.Reads.exists_of`, `Json.Reads.determ`: every stream is read to its end in exactly one
  way.
-/

namespace MailStore

namespace Json

theorem length_skipSpace_le (cs : List Char) : (skipSpace cs).length ≤ cs.length :=
  List.length_dropWhile_le _ _

theorem length_digits_le (cs : List Char) : (digits cs).2.length ≤ cs.length :=
  List.length_dropWhile_le _ _

/-- What follows leading whitespace and a character is shorter than the stream. -/
theorem length_lt_of_skipSpace {cs rest : List Char} {c : Char} (h : skipSpace cs = c :: rest) :
    rest.length < cs.length := by
  have := length_skipSpace_le cs
  rw [h, List.length_cons] at this
  omega

/-! ### The readers of single tokens

Each lemma says what a successful read leaves: never more than it was given, and for a
string (its closing quote) and a number (its first digit) strictly less. The proofs split the
reader's cases; what is left is arithmetic on lengths. -/

theorem length_readHex4 {cs : List Char} {p : Nat × List Char} (h : readHex4 cs = .ok p) :
    p.2.length ≤ cs.length := by
  unfold readHex4 at h
  dsimp only at h
  repeat' split at h
  all_goals grind

/-- A string body is read up to its closing quote, which is consumed. -/
theorem length_readString : ∀ (fuel : Nat) (acc cs : List Char) {q : String × List Char},
    readString fuel acc cs = .ok q → q.2.length < cs.length
  | 0, _, _, _, h => by simp only [readString, reduceCtorEq] at h
  | _ + 1, _, [], _, h => by simp only [readString, reduceCtorEq] at h
  | fuel + 1, acc, c :: rest, q, h => by
    -- every branch reads on from a suffix of `rest`: an escape and its digits are taken first
    have ih := length_readString fuel
    simp only [readString, bind, Except.bind] at h
    repeat' split at h
    all_goals grind [→ length_readHex4]

theorem length_readWord {word : String} {value : Json} :
    ∀ {ws cs : List Char} {p : Json × List Char}, readWord word value ws cs = .ok p →
      p.2.length ≤ cs.length
  | [], cs, p, h => by simp only [readWord] at h; grind
  | _ :: _, [], p, h => by simp only [readWord, reduceCtorEq] at h
  | w :: ws, c :: rest, p, h => by
    simp only [readWord] at h
    split at h
    · have := length_readWord h
      grind
    · cases h

theorem length_readExponent {cs : List Char} {p : List Char × List Char}
    (h : readExponent cs = .ok p) : p.2.length ≤ cs.length := by
  unfold readExponent at h
  repeat' split at h
  all_goals grind [length_digits_le]

theorem length_readNumberTail {cs : List Char} {p : List Char × List Char}
    (h : readNumberTail cs = .ok p) : p.2.length ≤ cs.length := by
  unfold readNumberTail at h
  simp only [bind, Except.bind, pure, Except.pure] at h
  repeat' split at h
  all_goals grind [length_digits_le, → length_readExponent]

/-- A number takes at least its first character. -/
theorem length_readNumber {c : Char} {rest : List Char} {p : Json × List Char}
    (h : readNumber (c :: rest) = .ok p) : p.2.length ≤ rest.length := by
  unfold readNumber at h
  simp only [bind, Except.bind, pure, Except.pure] at h
  repeat' split at h
  -- the integer part starts with a digit, which `digits` takes
  all_goals grind [length_digits_le, → length_readNumberTail, digits, List.dropWhile_cons,
    List.length_dropWhile_le]

/-! ### Values

The readers of values call each other on less fuel; each step lemma takes what the readers it
calls leave as hypotheses, and `length_read` ties them together by induction on the fuel. -/

section Readers

variable (fuel : Nat) {depth : Nat}

theorem length_readValue_succ
    (hobj : ∀ depth cs {p : Json × List Char}, readObject fuel depth cs = .ok p →
      p.2.length < cs.length)
    (harr : ∀ depth cs {p : Json × List Char}, readArray fuel depth cs = .ok p →
      p.2.length < cs.length)
    {cs : List Char} {p : Json × List Char} (h : readValue (fuel + 1) depth cs = .ok p) :
    p.2.length < cs.length := by
  simp only [readValue, Except.map] at h
  split at h
  · cases h
  · rename_i c rest hc
    -- the value starts at `c`, after the whitespace; each kind of value reads on from `rest`
    have hlen : rest.length < cs.length := length_lt_of_skipSpace hc
    split at h
    · exact (hobj _ rest h).trans hlen
    split at h
    · exact (harr _ rest h).trans hlen
    split at h
    · split at h
      · cases h
      · rename_i q hq
        cases h
        exact (length_readString _ _ _ hq).trans hlen
    split at h
    · exact lt_of_le_of_lt (length_readNumber h) hlen
    split at h
    · exact lt_of_le_of_lt (length_readWord h) hlen
    split at h
    · exact lt_of_le_of_lt (length_readWord h) hlen
    split at h
    · exact lt_of_le_of_lt (length_readWord h) hlen
    · cases h

theorem length_readObject_succ
    (hmem : ∀ depth acc cs {p : Json × List Char}, readMembers fuel depth acc cs = .ok p →
      p.2.length < cs.length)
    {cs : List Char} {p : Json × List Char} (h : readObject (fuel + 1) depth cs = .ok p) :
    p.2.length < cs.length := by
  simp only [readObject] at h
  -- past the depth limit nothing is read
  split at h
  · cases h
  split at h
  · cases h
  · cases h
    exact length_lt_of_skipSpace ‹_›
  · rename_i c rest _ hc
    split at h
    · exact lt_of_lt_of_le (hmem _ _ _ h) (hc ▸ length_skipSpace_le cs)
    · cases h

theorem length_readMembers_succ
    (hval : ∀ cs {p : Json × List Char}, readValue fuel depth cs = .ok p →
      p.2.length < cs.length)
    (hmem : ∀ acc cs {p : Json × List Char}, readMembers fuel depth acc cs = .ok p →
      p.2.length < cs.length)
    {acc : List (String × Json)} {cs : List Char} {p : Json × List Char}
    (h : readMembers (fuel + 1) depth acc cs = .ok p) : p.2.length < cs.length := by
  simp only [readMembers, bind, Except.bind] at h
  split at h
  · -- the key, a colon, the value, then a comma and the next key or the closing brace
    rename_i rest
    split at h
    · cases h
    · rename_i key hkey
      have h1 := length_readString _ _ _ hkey
      split at h
      · cases h
      · rename_i afterColon hcolon
        have h2 := length_lt_of_skipSpace hcolon
        split at h
        · cases h
        · rename_i v hv
          have h3 := hval _ hv
          split at h
          · cases h
          · rename_i more hcomma
            have h4 := length_lt_of_skipSpace hcomma
            split at h
            · cases h
            · rename_i c more2 hnext
              have h5 := hnext ▸ length_skipSpace_le more
              split at h
              · have := hmem _ _ h
                simp only [List.length_cons] at h5 this ⊢
                omega
              · cases h
          · rename_i more hclose
            have h4 := length_lt_of_skipSpace hclose
            cases h
            simp only [List.length_cons]
            omega
          · cases h
      · cases h
  · cases h
  · cases h

theorem length_readArray_succ
    (hel : ∀ depth acc cs {p : Json × List Char}, readElements fuel depth acc cs = .ok p →
      p.2.length < cs.length)
    {cs : List Char} {p : Json × List Char} (h : readArray (fuel + 1) depth cs = .ok p) :
    p.2.length < cs.length := by
  simp only [readArray] at h
  split at h
  · cases h
  split at h
  · cases h
  · cases h
    exact length_lt_of_skipSpace ‹_›
  · exact lt_of_lt_of_le (hel _ _ _ h) (length_skipSpace_le cs)

theorem length_readElements_succ
    (hval : ∀ cs {p : Json × List Char}, readValue fuel depth cs = .ok p →
      p.2.length < cs.length)
    (hel : ∀ acc cs {p : Json × List Char}, readElements fuel depth acc cs = .ok p →
      p.2.length < cs.length)
    {acc : List Json} {cs : List Char} {p : Json × List Char}
    (h : readElements (fuel + 1) depth acc cs = .ok p) : p.2.length < cs.length := by
  simp only [readElements, bind, Except.bind] at h
  split at h
  · cases h
  · rename_i v hv
    have h1 := hval _ hv
    split at h
    · cases h
    · exact lt_of_lt_of_le (hel _ _ h) (by have := length_lt_of_skipSpace ‹_›; omega)
    · cases h
      have := length_lt_of_skipSpace ‹_›
      dsimp only
      omega
    · cases h

end Readers

/-- Every reader of values, on any fuel and at any depth, leaves a shorter stream when it
succeeds. -/
theorem length_read : ∀ fuel : Nat,
    (∀ depth cs {p : Json × List Char}, readValue fuel depth cs = .ok p →
      p.2.length < cs.length) ∧
    (∀ depth cs {p : Json × List Char}, readObject fuel depth cs = .ok p →
      p.2.length < cs.length) ∧
    (∀ depth acc cs {p : Json × List Char}, readMembers fuel depth acc cs = .ok p →
      p.2.length < cs.length) ∧
    (∀ depth cs {p : Json × List Char}, readArray fuel depth cs = .ok p →
      p.2.length < cs.length) ∧
    (∀ depth acc cs {p : Json × List Char}, readElements fuel depth acc cs = .ok p →
      p.2.length < cs.length)
  | 0 => by
    refine ⟨fun _ _ _ h => ?_, fun _ _ _ h => ?_, fun _ _ _ _ h => ?_, fun _ _ _ h => ?_,
      fun _ _ _ _ h => ?_⟩ <;>
      simp [readValue, readObject, readMembers, readArray, readElements] at h
  | fuel + 1 => by
    obtain ⟨hval, hobj, hmem, harr, hel⟩ := length_read fuel
    exact ⟨fun _ _ _ => length_readValue_succ fuel hobj harr,
      fun _ _ _ => length_readObject_succ fuel hmem,
      fun d _ _ _ => length_readMembers_succ fuel (hval d) (hmem d),
      fun _ _ _ => length_readArray_succ fuel hel,
      fun d _ _ _ => length_readElements_succ fuel (hval d) (hel d)⟩

/-- A value read from a stream leaves a shorter stream. -/
theorem length_next_value {cs rest : List Char} {j : Json} (h : next cs = .value j rest) :
    rest.length < cs.length := by
  unfold next at h
  split at h
  · cases h
  · split at h
    · rename_i hread
      cases h
      exact lt_of_lt_of_le ((length_read _).1 _ _ hread) (length_skipSpace_le cs)
    · cases h

/-! ### Streams -/

/-- A stream read value after value to its end: the values it holds, in order, and why
reading stopped early (`none` when only whitespace was left). -/
inductive Reads : List Char → List Json → Option Stop → Prop
  /-- Only whitespace is left. -/
  | finished {cs : List Char} : next cs = .finished → Reads cs [] none
  /-- The next value cannot be read. -/
  | stopped {cs : List Char} {why : Stop} : next cs = .stopped why → Reads cs [] (some why)
  /-- A value, then the rest of the stream. -/
  | value {cs rest : List Char} {j : Json} {js : List Json} {stop : Option Stop} :
      next cs = .value j rest → Reads rest js stop → Reads cs (j :: js) stop

namespace Reads

/-- Every stream is read to its end. -/
theorem exists_of (cs : List Char) : ∃ js stop, Reads cs js stop := by
  induction h : cs.length using Nat.strong_induction_on generalizing cs with
  | _ n ih =>
    rcases hn : next cs with ⟨j, rest⟩ | _ | why
    · obtain ⟨js, stop, hr⟩ := ih rest.length (h ▸ length_next_value hn) rest rfl
      exact ⟨j :: js, stop, .value hn hr⟩
    · exact ⟨[], none, .finished hn⟩
    · exact ⟨[], some why, .stopped hn⟩

/-- A stream is read to its end in one way only. -/
theorem determ {cs : List Char} {js js' : List Json} {stop stop' : Option Stop}
    (h : Reads cs js stop) (h' : Reads cs js' stop') : js = js' ∧ stop = stop' := by
  induction h generalizing js' with
  | finished hn =>
    cases h' with
    | finished => exact ⟨rfl, rfl⟩
    | stopped hn' => rw [hn] at hn'; cases hn'
    | value hn' => rw [hn] at hn'; cases hn'
  | stopped hn =>
    cases h' with
    | finished hn' => rw [hn] at hn'; cases hn'
    | stopped hn' => rw [hn] at hn'; cases hn'; exact ⟨rfl, rfl⟩
    | value hn' => rw [hn] at hn'; cases hn'
  | value hn _ ih =>
    cases h' with
    | finished hn' => rw [hn] at hn'; cases hn'
    | stopped hn' => rw [hn] at hn'; cases hn'
    | value hn' hr' =>
      rw [hn] at hn'
      cases hn'
      obtain ⟨rfl, rfl⟩ := ih hr'
      exact ⟨rfl, rfl⟩

end Reads

end Json

end MailStore
