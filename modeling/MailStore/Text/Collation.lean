import MailStore.Text.Collation.Weights

/-!
# Case-insensitive multilingual order

Text is ordered as the root collation of the Unicode Collation Algorithm orders it when
case and width are ignored. Each text becomes a sequence of collation elements, each with a
primary weight (the base letter or symbol) and a secondary weight (its accents); two texts
compare first by their sequences of non-zero primary weights, then by their sequences of
non-zero secondary weights, and are equal when both agree. So `B`, `b` and the fullwidth
`Ｂ` are equal, `á` lies between `a` and `b`, and a sort that keeps equal texts in place
keeps them in the order they came.

The elements of a text are found from left to right: the longest sequence of characters
that the table weights as one (a contraction) takes its elements, otherwise the character
its own. A Hangul syllable is first taken apart into its conjoining letters. A character
without an entry gets one element with an implicit primary weight above every weight of
the table: its code point above a base that puts the unified ideographs first, then the
other ideographs, then everything else.

## Main definitions

* `Collation.elements`: the collation elements of a text.
* `Collation.compare`: the order of two texts.
-/

namespace MailStore

namespace Collation

/-- A collation element: a primary and a secondary weight; a zero weight is skipped at its
level. -/
structure Element where
  /-- The weight of the base character. -/
  primary : Nat
  /-- The weight of accents. -/
  secondary : Nat
deriving DecidableEq, Repr, Inhabited

/-- The weights of the code points from `first` to `last`: with one element listed for a
span of several code points, the primary weight rises by one per code point. -/
structure Span where
  /-- The first code point. -/
  first : Nat
  /-- The last code point. -/
  last : Nat
  /-- The elements as listed. -/
  elements : List Element
deriving Repr, Inhabited

/-- The elements of a code point of a span. -/
def Span.weights (s : Span) (n : Nat) : List Element :=
  match s.elements with
  | [e] => [{ e with primary := e.primary + (n - s.first) }]
  | es => es

/-! ### Reading the table -/

/-- The value of a hexadecimal numeral (uppercase digits). -/
def hexNat (s : String) : Nat :=
  s.foldl (fun n c => 16 * n + (if c.isDigit then c.toNat - 48 else c.toNat - 55)) 0

/-- The elements of an entry's text, `primary.secondary` pairs separated by commas. -/
def elementsOf (text : String) : List Element :=
  ((text.splitOn ",").filter (· ≠ "")).map fun e =>
    match e.splitOn "." with
    | [p, s] => ⟨hexNat p, hexNat s⟩
    | _ => ⟨hexNat e, 0⟩

/-- The entries of a table's text: each key with its elements. -/
def entries (text : String) : List (String × List Element) :=
  ((text.splitOn " ").filter (· ≠ "")).map fun entry =>
    match entry.splitOn "=" with
    | [key, value] => (key, elementsOf value)
    | _ => (entry, [])

/-- The span of an entry. -/
def spanOf (key : String) (es : List Element) : Span :=
  match key.splitOn "-" with
  | [a, b] => ⟨hexNat a, hexNat b, es⟩
  | _ => ⟨hexNat key, hexNat key, es⟩

/-- The spans of single characters, sorted by code point. -/
def spans : Array Span :=
  ((entries singleText).map fun (k, es) => spanOf k es).toArray

/-- The contractions: each sequence of code points with its elements. -/
def contractionList : List (List Nat × List Element) :=
  (entries contractionText).map fun (k, es) => ((k.splitOn "+").map hexNat, es)

/-- The contractions grouped by their first code point, sorted by it. -/
def contractions : Array (Nat × List (List Nat × List Element)) :=
  let firsts := (contractionList.filterMap fun (k, _) => k.head?).eraseDups
  ((firsts.mergeSort (· ≤ ·)).map fun f =>
    (f, contractionList.filter fun (k, _) => k.head? = some f)).toArray

/-! ### Looking up -/

/-- The entry of a sorted array that `probe` places at the point sought (`.eq`), among the
indices from `lo` up to (not including) `hi`, found by halving; `probe x` tells whether
the point sought lies below `x` (`.lt`) or above it (`.gt`). -/
def search {α : Type} (arr : Array α) (probe : α → Ordering) (lo hi : Nat) : Option α :=
  if lo < hi then
    let mid := (lo + hi) / 2
    match arr[mid]? with
    | some x =>
      match probe x with
      | .lt => search arr probe lo mid
      | .gt => search arr probe (mid + 1) hi
      | .eq => some x
    | none => none
  else none
termination_by hi - lo

/-- The span holding a code point. -/
def spanAt? (n : Nat) : Option Span :=
  search spans (fun s => if n < s.first then .lt else if s.last < n then .gt else .eq) 0
    spans.size

/-- The contractions starting with a code point. -/
def contractionsAt (n : Nat) : List (List Nat × List Element) :=
  match search contractions (fun (f, _) => Ord.compare n f) 0 contractions.size with
  | some (_, cs) => cs
  | none => []

/-- The ideographs: the code point ranges of the Ideographic property. -/
def ideographs : List (Nat × Nat) :=
  [(0x3006, 0x3007), (0x3021, 0x3029), (0x3038, 0x303A), (0x3400, 0x4DBF), (0x4E00, 0x9FFF),
   (0xF900, 0xFA6D), (0xFA70, 0xFAD9), (0x16FE4, 0x16FE4), (0x17000, 0x187FF),
   (0x18800, 0x18CD5), (0x18CFF, 0x18D1E), (0x1B170, 0x1B2FB), (0x20000, 0x2A6DF),
   (0x2A700, 0x2B81D), (0x2B820, 0x2CEAD), (0x2CEB0, 0x2EBE0), (0x2EBF0, 0x2EE5D),
   (0x2F800, 0x2FA1D), (0x30000, 0x3134A), (0x31350, 0x33479)]

/-- The implicit primary weight of a code point without an entry: the unified ideographs
first, then the other ideographs, then every other code point, each by code point. -/
def implicitPrimary (n : Nat) : Nat :=
  if ideographs.any fun (a, b) => a ≤ n ∧ n ≤ b then
    if (0x4E00 ≤ n ∧ n ≤ 0x9FFF) ∨ (0xF900 ≤ n ∧ n ≤ 0xFAFF) then n + 0x10000
    else n + 0x20000
  else n + 0x50000

/-- The secondary weight of a character without accents. -/
def commonSecondary : Nat := 0x20

/-- The elements of a single code point. -/
def single (n : Nat) : List Element :=
  match spanAt? n with
  | some s => s.weights n
  | none => [⟨implicitPrimary n, commonSecondary⟩]

/-- The conjoining letters of a code point: those of a Hangul syllable, or itself. -/
def jamo (n : Nat) : List Nat :=
  if 0xAC00 ≤ n ∧ n ≤ 0xD7A3 then
    let i := n - 0xAC00
    let t := i % 28
    [0x1100 + i / 588, 0x1161 + (i % 588) / 28] ++ (if t = 0 then [] else [0x11A7 + t])
  else [n]

/-- The longest contraction that the code points start with. -/
def longestContraction (ns : List Nat) : Option (List Nat × List Element) :=
  match ns with
  | [] => none
  | n :: _ =>
    (contractionsAt n).foldl (fun best (k, es) =>
      if k.isPrefixOf ns then
        match best with
        | some (b, _) => if b.length < k.length then some (k, es) else best
        | none => some (k, es)
      else best) none

/-- The elements of code points, at most `fuel` steps. -/
def elementsFrom : Nat → List Nat → List Element
  | 0, _ => []
  | _, [] => []
  | fuel + 1, n :: rest =>
    match longestContraction (n :: rest) with
    | some (k, es) => es ++ elementsFrom fuel ((n :: rest).drop (max k.length 1))
    | none => single n ++ elementsFrom fuel rest

/-- The collation elements of a text. -/
def elements (s : String) : List Element :=
  let ns := s.toList.flatMap fun c => jamo c.toNat
  elementsFrom (ns.length + 1) ns

/-- The non-zero primary weights of elements. -/
def primaries (es : List Element) : List Nat := (es.map Element.primary).filter (· ≠ 0)

/-- The non-zero secondary weights of elements. -/
def secondaries (es : List Element) : List Nat := (es.map Element.secondary).filter (· ≠ 0)

/-- Weight sequences in order: element by element, a prefix first. -/
def weightsOrder : List Nat → List Nat → Ordering
  | [], [] => .eq
  | [], _ :: _ => .lt
  | _ :: _, [] => .gt
  | a :: as, b :: bs => if a < b then .lt else if b < a then .gt else weightsOrder as bs

/-- The order of two texts: by primary weights, then by secondary weights. -/
def compare (a b : String) : Ordering :=
  let ea := elements a
  let eb := elements b
  match weightsOrder (primaries ea) (primaries eb) with
  | .eq => weightsOrder (secondaries ea) (secondaries eb)
  | o => o

theorem weightsOrder_self (ws : List Nat) : weightsOrder ws ws = .eq := by
  induction ws with
  | nil => rfl
  | cons w ws ih => simp [weightsOrder, ih]

theorem compare_self (s : String) : compare s s = .eq := by
  simp [compare, weightsOrder_self]

end Collation

end MailStore
