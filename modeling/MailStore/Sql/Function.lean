import MailStore.Sql.Schema

/-!
# Operations on values

What the operators and the built-in functions of the database do to values:

* comparison under an affinity and a collation (`compareUnder`): a comparison applies one
  affinity to both operands first, so that a numeric column compares with text that is a
  number as with the number, and a text column with a number as with its text;
* arithmetic (`arith`): on integers while the result fits 64 bits, on doubles otherwise;
  text reads as the number it starts with; a division by zero is null;
* bitwise operations on the integers of the operands;
* pattern matching: `LIKE` with `%`, `_` and ASCII letters matched without case, `GLOB`
  with `*`, `?` and character classes;
* the scalar functions (`scalar`) and the aggregates (`aggregate`).

Null goes in, null comes out, except where a function says otherwise (`coalesce`,
`ifnull`, `typeof`, `quote`, `count`).
-/

namespace MailStore

namespace Sql

/-! ### Truth -/

/-- An integer for a truth value. -/
def ofBool (b : Bool) : Value := .integer (if b then 1 else 0)

/-- A value for a truth value that may be unknown. -/
def ofTruth : Option Bool → Value
  | none => .null
  | some b => ofBool b

/-- Conjunction with unknowns: false wins over unknown. -/
def and3 : Option Bool → Option Bool → Option Bool
  | some false, _ => some false
  | _, some false => some false
  | some true, some true => some true
  | _, _ => none

/-- Disjunction with unknowns: true wins over unknown. -/
def or3 : Option Bool → Option Bool → Option Bool
  | some true, _ => some true
  | _, some true => some true
  | some false, some false => some false
  | _, _ => none

/-! ### Comparison -/

/-- The affinity a comparison applies to both operands: numeric when either operand is a
column of a numeric affinity, none when both are columns of other affinities, otherwise
the affinity of the operand that has one. -/
def comparisonAffinity : Option Affinity → Option Affinity → Option Affinity
  | some a, some b => if a.isNumeric || b.isNumeric then some .numeric else none
  | some a, none => some a
  | none, b => b

/-- A value as a comparison under an affinity sees it: under a numeric affinity text that
is a number becomes the number, under text affinity numbers become their text. -/
def Value.compared (aff : Option Affinity) (v : Value) : Value :=
  match aff, v with
  | some a, .text t => if a.isNumeric then Value.numericText t false else v
  | some .text, .integer _ => v.withAffinity .text
  | some .text, .real _ => v.withAffinity .text
  | _, _ => v

/-- The order of two values compared under an affinity and a collation; none when either
is null. -/
def compareUnder (aff : Option Affinity) (coll : Collation) (a b : Value) : Option Ordering :=
  if a.isNull || b.isNull then none
  else some (Value.order coll (a.compared aff) (b.compared aff))

/-- Whether an order satisfies a comparison operator. -/
def holds (op : BinaryOp) (o : Ordering) : Bool :=
  match op with
  | .eq | .is => o == .eq
  | .ne | .isNot => o != .eq
  | .lt => o == .lt
  | .le => o != .gt
  | .gt => o == .gt
  | .ge => o != .lt
  | _ => false

/-- Two values as one when rows are grouped or made distinct: nulls alike, others by
value. -/
def sameForGrouping (a b : Value) : Bool :=
  match a, b with
  | .null, .null => true
  | .null, _ => false
  | _, .null => false
  | _, _ => Value.order .binary a b == .eq

/-- Two rows of values as one when rows are grouped or made distinct. -/
def sameRow : List Value → List Value → Bool
  | [], [] => true
  | a :: as, b :: bs => sameForGrouping a b && sameRow as bs
  | _, _ => false

/-- The order of two values for sorting: nulls first, then by value. -/
def sortOrder (coll : Collation) (a b : Value) : Ordering := Value.order coll a b

/-! ### Arithmetic -/

/-- An arithmetic operator. -/
inductive ArithOp where
  | add | sub | mul | div | rem
deriving DecidableEq, Repr, Inhabited

/-- A double as a value: not-a-number is null. -/
def ofReal (x : Float) : Value := if Real.isNaN x then .null else .real x

/-- Arithmetic on doubles; the remainder works on the integers of the operands. -/
def realArith (op : ArithOp) (a b : Value) : Value :=
  let x := a.toReal
  let y := b.toReal
  match op with
  | .add => ofReal (x + y)
  | .sub => ofReal (x - y)
  | .mul => ofReal (x * y)
  | .div => if y == 0 then .null else ofReal (x / y)
  | .rem =>
    let d := b.toInt
    if d = 0 then .null
    else ofReal (Real.ofInt (a.toInt.tmod (if d = -1 then 1 else d)))

/-- Arithmetic on two values: on integers while the result fits, on doubles otherwise;
null when either is null or when dividing by zero. -/
def arith (op : ArithOp) (a b : Value) : Value :=
  match a.toNumeric, b.toNumeric with
  | .null, _ => .null
  | _, .null => .null
  | .integer x, .integer y =>
    match op with
    | .add => if fits (x + y) then .integer (x + y) else realArith op (.integer x) (.integer y)
    | .sub => if fits (x - y) then .integer (x - y) else realArith op (.integer x) (.integer y)
    | .mul => if fits (x * y) then .integer (x * y) else realArith op (.integer x) (.integer y)
    | .div =>
      if y = 0 then .null
      else if x = minInt ∧ y = -1 then realArith op (.integer x) (.integer y)
      else .integer (x.tdiv y)
    | .rem => if y = 0 then .null else .integer (x.tmod (if y = -1 then 1 else y))
  | _, _ => realArith op a b

/-- An integer as the 64 bits of its two's complement. -/
def toBits (i : Int) : Nat := (i % Int.pow 2 64).toNat

/-- The integer of 64 bits in two's complement. -/
def ofBits (n : Nat) : Int := if n ≥ Nat.pow 2 63 then (n : Int) - Int.pow 2 64 else n

/-- Bitwise and. -/
def bitAnd (a b : Value) : Value :=
  if a.isNull || b.isNull then .null else .integer (ofBits (toBits a.toInt &&& toBits b.toInt))

/-- Bitwise or. -/
def bitOr (a b : Value) : Value :=
  if a.isNull || b.isNull then .null else .integer (ofBits (toBits a.toInt ||| toBits b.toInt))

/-- A shift of an integer: left for `left`, otherwise right with the sign kept; a negative
amount shifts the other way, and 64 or more places leave zero or minus one. -/
def shiftInt (left : Bool) (x n : Int) : Int :=
  let (left, n) := if n < 0 then (!left, if n > -64 then -n else 64) else (left, n)
  if n ≥ 64 then (if x ≥ 0 ∨ left then 0 else -1)
  else if left then ofBits ((toBits x * Nat.pow 2 n.toNat) % Nat.pow 2 64)
  else Int.fdiv x (Int.pow 2 n.toNat)

/-- A shift of a value by another. -/
def shift (left : Bool) (a b : Value) : Value :=
  if a.isNull || b.isNull then .null else .integer (shiftInt left a.toInt b.toInt)

/-- Bitwise complement. -/
def bitNot (a : Value) : Value :=
  if a.isNull then .null else .integer (ofBits ((Nat.pow 2 64 - 1) - toBits a.toInt))

/-- Concatenation of the texts of two values. -/
def concat (a b : Value) : Value :=
  match a.toText?, b.toText? with
  | some x, some y => .text (x ++ y)
  | _, _ => .null

/-! ### Text as characters -/

/-- The bytes of a text split into its characters: each lead byte with the continuation
bytes after it. -/
def chunksFrom : Nat → Bytes → List Bytes
  | 0, _ => []
  | _, [] => []
  | fuel + 1, b :: rest => (b :: rest.takeWhile Text.isCont) :: chunksFrom fuel (rest.dropWhile Text.isCont)

/-- The bytes of a text split into its characters. -/
def chunks (bs : Bytes) : List Bytes := chunksFrom bs.length bs

/-- The characters of a text before its first zero byte. -/
def textChunks (t : Text) : List Bytes := chunks (t.bytes.takeWhile (· != 0))

/-- An ASCII letter folded to lower case. -/
def lowerByte (b : UInt8) : UInt8 := if 65 ≤ b && b ≤ 90 then b + 32 else b

/-- An ASCII letter folded to upper case. -/
def upperByte (b : UInt8) : UInt8 := if 97 ≤ b && b ≤ 122 then b - 32 else b

/-- A character folded for a match without case: ASCII letters only. -/
def foldChar (c : Char) : Char := if 'A' ≤ c ∧ c ≤ 'Z' then Char.ofNat (c.toNat + 32) else c

/-- Whether text matches a `LIKE` pattern: `%` stands for any run of characters, `_` for
one, ASCII letters match without case, and the escape character makes the one after it
stand for itself. -/
def likeMatch (esc : Option Char) : List Char → List Char → Bool
  | [], s => s.isEmpty
  | p :: ps, s =>
    if some p = esc then
      match ps, s with
      | q :: qs, c :: cs => foldChar q == foldChar c && likeMatch esc qs cs
      | _, _ => false
    else if p = '%' then
      (List.range (s.length + 1)).any fun i => likeMatch esc ps (s.drop i)
    else if p = '_' then
      match s with
      | _ :: cs => likeMatch esc ps cs
      | [] => false
    else
      match s with
      | c :: cs => foldChar p == foldChar c && likeMatch esc ps cs
      | [] => false

/-- The members of a `GLOB` character class up to its closing bracket: ranges and single
characters, with the pattern after the bracket; none when the bracket never closes. -/
def globClass : List Char → List (Char × Char) → Option (List (Char × Char) × List Char)
  | [], _ => none
  | ']' :: rest, acc => if acc.isEmpty then globClass rest [(']', ']')] else some (acc, rest)
  | a :: '-' :: b :: rest, acc =>
    if b = ']' then globClass (b :: rest) ((a, a) :: ('-', '-') :: acc)
    else globClass rest ((a, b) :: acc)
  | a :: rest, acc => globClass rest ((a, a) :: acc)

/-- Whether text matches a `GLOB` pattern: `*` stands for any run of characters, `?` for
one, `[…]` for one of a class (`[^…]` for one outside it), everything else for itself. -/
def globMatch : List Char → List Char → Bool
  | [], s => s.isEmpty
  | p :: ps, s =>
    if p = '*' then (List.range (s.length + 1)).any fun i => globMatch ps (s.drop i)
    else if p = '?' then
      match s with
      | _ :: cs => globMatch ps cs
      | [] => false
    else if p = '[' then
      match s with
      | [] => false
      | c :: cs =>
        let (invert, body) := match ps with
          | '^' :: more => (true, more)
          | _ => (false, ps)
        match globClass body [] with
        | some (ranges, rest) =>
          let inside := ranges.any fun (a, b) => a ≤ c ∧ c ≤ b
          inside != invert && globMatch (List.drop (ps.length - rest.length) ps) cs
        | none => false
    else
      match s with
      | c :: cs => p == c && globMatch ps cs
      | [] => false
termination_by p => p.length
decreasing_by
  all_goals simp only [List.length_cons, List.length_drop]
  all_goals omega

/-! ### Scalar functions -/

/-- The text of a value as functions on text see it; null has none. -/
def textArg (v : Value) : Option Text := v.toText?

/-- The number of characters of text, or of bytes of a byte string. -/
def lengthOf : Value → Value
  | .null => .null
  | .blob b => .integer b.length
  | v => match v.toText? with
    | some t => .integer (textChunks t).length
    | none => .null

/-- A text with every byte mapped. -/
def mapText (f : UInt8 → UInt8) (v : Value) : Value :=
  match v.toText? with
  | some t => .text ⟨t.bytes.map f⟩
  | none => .null

/-- The absolute value: integers stay integers, everything else becomes a double. -/
def absOf : Value → Except Fault Value
  | .null => .ok .null
  | .integer n =>
    if n = minInt then .error (Fault.logic "integer overflow") else .ok (.integer n.natAbs)
  | v => .ok (.real (let x := v.toReal; if x < 0 then -x else x))

/-- The hexadecimal digits of the bytes of a value, in capitals. -/
def hexOf (v : Value) : Value :=
  let bs := match v with
    | .blob b => b
    | _ => (v.toText?.map Text.bytes).getD []
  .ofString (String.join (bs.map fun b =>
    String.ofList [Bytes.hexDigitUpper (b.toNat / 16), Bytes.hexDigitUpper (b.toNat % 16)]))

/-- A value written as a literal that reads back as it. -/
def quoteOf : Value → Value
  | .null => .ofString "NULL"
  | .integer n => .ofString (toString n)
  | .real x => .ofString (Real.text x)
  | .text t =>
    .text ⟨[39] ++ t.bytes.flatMap (fun b => if b = 39 then [39, 39] else [b]) ++ [39]⟩
  | .blob b => match hexOf (.blob b) with
    | .text h => .text ⟨[88, 39] ++ h.bytes ++ [39]⟩
    | other => other

/-- Characters from a position for a length, as `substr` counts them: positions from one,
a negative position from the end, a negative length before the position. -/
def substrOf (v : Value) (start : Int) (len : Option Int) : Value :=
  let isBlob := match v with
    | .blob _ => true
    | _ => false
  let units : List Bytes := match v with
    | .blob b => b.map fun x => [x]
    | _ => match v.toText? with
      | some t => textChunks t
      | none => []
  let size : Int := units.length
  let (p2, neg) := match len with
    | some l => if l < 0 then (-l, true) else (l, false)
    | none => (1000000000, false)
  let (p1, p2) :=
    if start < 0 then
      let p1 := start + size
      if p1 < 0 then (0, max (p2 + p1) 0) else (p1, p2)
    else if start > 0 then (start - 1, p2)
    else if p2 > 0 then (0, p2 - 1) else (0, p2)
  let (p1, p2) :=
    if neg then
      let q := p1 - p2
      if q < 0 then (0, max (p2 + q) 0) else (q, p2)
    else (p1, p2)
  let taken := (units.drop p1.toNat).take p2.toNat
  if isBlob then .blob taken.flatten else .text ⟨taken.flatten⟩

/-- Text with the given characters taken off its start and end. -/
def trimOf (v : Value) (chars : Option Value) (front back : Bool) : Value :=
  match v.toText? with
  | none => .null
  | some t =>
    let set : List Bytes := match chars with
      | some c => match c.toText? with
        | some ct => textChunks ct
        | none => []
      | none => [[32]]
    let cs := textChunks t
    let cs := if front then cs.dropWhile (set.contains ·) else cs
    let cs := if back then (cs.reverse.dropWhile (set.contains ·)).reverse else cs
    .text ⟨cs.flatten⟩

/-- Every occurrence of a byte string replaced, from left to right. -/
def replaceBytes (pat rep : Bytes) : Nat → Bytes → Bytes
  | 0, s => s
  | _, [] => []
  | fuel + 1, b :: rest =>
    if pat.isPrefixOf (b :: rest) then rep ++ replaceBytes pat rep fuel ((b :: rest).drop pat.length)
    else b :: replaceBytes pat rep fuel rest

/-- The text with every occurrence of a pattern replaced. -/
def replaceOf (v p r : Value) : Value :=
  match v.toText?, p.toText?, r.toText? with
  | some t, some pt, some rt =>
    if pt.bytes.isEmpty then .text t
    else .text ⟨replaceBytes pt.bytes rt.bytes (t.bytes.length + 1) t.bytes⟩
  | _, _, _ => .null

/-- The position of the first occurrence of one text in another, from one; zero when it
does not occur. -/
def instrOf (a b : Value) : Value :=
  if a.isNull || b.isNull then .null
  else
    let (hay, needle, isBlob) := match a, b with
      | .blob x, .blob y => (x.map fun c => [c], y.map fun c => [c], true)
      | _, _ => (textChunks ((a.toText?).getD Text.empty), textChunks ((b.toText?).getD Text.empty),
          false)
    let _ := isBlob
    let n := hay.length
    let found := (List.range (n + 1)).find? fun i => needle.isPrefixOf (hay.drop i)
    match found with
    | some i => .integer (i + 1)
    | none => .integer 0

/-- A double rounded to a number of decimal places, halves away from zero. -/
def roundOf (v : Value) (places : Int) : Value :=
  if v.isNull then .null
  else
    let x := v.toReal
    let p := if places < 0 then 0 else if places > 30 then 30 else places.toNat
    if Real.isNaN x ∨ Real.isInf x then .real x
    else
      let scale : Float := (10 : Float) ^ (Float.ofNat p)
      let y := x * scale
      let r := if y < 0 then -(Float.floor (-y + 0.5)) else Float.floor (y + 0.5)
      .real (if p = 0 then r else r / scale)

/-- The text of code points. -/
def charOf (vs : List Value) : Value :=
  .text (Text.ofString (String.ofList (vs.map fun v => Char.ofNat v.toInt.toNat)))

/-- The code point of the first character of a text. -/
def unicodeOf (v : Value) : Value :=
  match v.toText? with
  | some t => match t.chars with
    | c :: _ => .integer c.toNat
    | [] => .null
  | none => .null

/-- The larger or smaller of values under a collation: null when any is null. -/
def extremeOf (greater : Bool) (coll : Collation) (vs : List Value) : Value :=
  if vs.any Value.isNull then .null
  else
    vs.foldl (fun best v =>
      match best with
      | .null => v
      | _ =>
        let o := Value.order coll v best
        if (greater ∧ o == .gt) ∨ (!greater ∧ o == .lt) then v else best) .null

/-- The texts of the values that are not null, joined by a separator. -/
def joinedOf (sep : Bytes) (vs : List Value) : Value :=
  .text ⟨sep.intercalate (vs.filterMap Value.toBytes?)⟩

/-- Whether a byte is a hexadecimal digit. -/
def isHexByte (b : UInt8) : Bool :=
  (48 ≤ b && b ≤ 57) || (65 ≤ b && b ≤ 70) || (97 ≤ b && b ≤ 102)

/-- The value of a hexadecimal digit. -/
def hexValue (b : UInt8) : UInt8 :=
  if b ≤ 57 then b - 48 else if b ≤ 70 then b - 55 else b - 87

/-- The bytes written by pairs of hexadecimal digits, the characters of `pass` allowed
between pairs; none when anything else stands there. -/
def unhexChars (pass : List Char) : List Char → Option Bytes
  | [] => some []
  | [c] => if !(c.toNat < 128 && isHexByte c.toNat.toUInt8) && pass.contains c then some [] else none
  | c :: d :: rest =>
    if c.toNat < 128 && isHexByte c.toNat.toUInt8 then
      if d.toNat < 128 && isHexByte d.toNat.toUInt8 then
        (unhexChars pass rest).map
          fun bs => (hexValue c.toNat.toUInt8 * 16 + hexValue d.toNat.toUInt8) :: bs
      else none
    else if pass.contains c then unhexChars pass (d :: rest)
    else none

/-- The bytes of hexadecimal text, null when it is not such text. -/
def unhexOf (v : Value) (pass : Option Value) : Value :=
  match v.toText?, (pass.map Value.toText?).getD (some Text.empty) with
  | some t, some p =>
    match unhexChars p.chars (t.chars.takeWhile (· != Char.ofNat 0)) with
    | some bs => .blob bs
    | none => .null
  | _, _ => .null

/-- The sign of a number as `-1`, `0` or `1`; null for what is no number. -/
def signOf (v : Value) : Value :=
  let n := match v with
    | .text t => Value.numericText t false
    | other => other
  match n with
  | .integer i => .integer (if i < 0 then -1 else if i > 0 then 1 else 0)
  | .real x => .integer (if x < 0 then -1 else if x > 0 then 1 else 0)
  | _ => .null

/-- The names of the scalar functions with the numbers of arguments they take; `none`
for any number from the least given. -/
def scalarArity : List (String × List Nat × Option Nat) :=
  [("abs", [1], none), ("coalesce", [], some 2), ("ifnull", [2], none), ("iif", [3], none),
   ("nullif", [2], none), ("length", [1], none), ("lower", [1], none), ("upper", [1], none),
   ("typeof", [1], none), ("substr", [2, 3], none), ("substring", [2, 3], none),
   ("hex", [1], none), ("quote", [1], none), ("round", [1, 2], none), ("trim", [1, 2], none),
   ("ltrim", [1, 2], none), ("rtrim", [1, 2], none), ("replace", [3], none),
   ("instr", [2], none), ("char", [], some 0), ("unicode", [1], none),
   ("zeroblob", [1], none), ("max", [], some 2), ("min", [], some 2), ("likely", [1], none),
   ("unlikely", [1], none), ("likelihood", [2], none), ("sqlite_version", [0], none),
   ("like", [2, 3], none), ("glob", [2], none), ("octet_length", [1], none),
   ("concat", [], some 1), ("concat_ws", [], some 2), ("unhex", [1, 2], none),
   ("sign", [1], none)]

/-- The aggregate functions with the numbers of arguments they take. -/
def aggregateArity : List (String × List Nat) :=
  [("count", [0, 1]), ("max", [1]), ("min", [1]), ("sum", [1]), ("total", [1]), ("avg", [1]),
   ("group_concat", [1, 2])]

/-- Whether a call is of an aggregate. -/
def isAggregateCall (name : String) (args : Nat) : Bool :=
  match aggregateArity.lookup name.toLower with
  | some ns => ns.contains args
  | none => false

/-- Whether a function of a name takes a number of arguments; none when no function has
the name. -/
def takesArgs (name : String) (args : Nat) : Option Bool :=
  let n := name.toLower
  let agg := (aggregateArity.lookup n).map fun ns => ns.contains args
  let sc := (scalarArity.lookup n).map fun (ns, least) => ns.contains args || match least with
    | some l => args ≥ l
    | none => false
  match agg, sc with
  | some a, some s => some (a || s)
  | some a, none => some a
  | none, some s => some s
  | none, none => none

/-- A scalar function applied to evaluated arguments; `coll` is the collation of the
first argument. -/
def scalar (name : String) (coll : Collation) (args : List Value) : Except Fault Value :=
  let a0 := args.headD .null
  let a1 := (args.drop 1).headD .null
  let a2 := (args.drop 2).headD .null
  match name.toLower with
  | "abs" => absOf a0
  | "nullif" => .ok (if compareUnder none coll a0 a1 == some .eq then .null else a0)
  | "length" => .ok (lengthOf a0)
  | "octet_length" => .ok (match a0 with
    | .null => .null
    | .blob b => .integer b.length
    | v => .integer ((v.toText?.map fun t => t.bytes.length).getD 0))
  | "lower" => .ok (mapText lowerByte a0)
  | "upper" => .ok (mapText upperByte a0)
  | "typeof" => .ok (.ofString a0.typeName)
  | "substr" | "substring" =>
    if a0.isNull || a1.isNull || (args.length = 3 && a2.isNull) then .ok .null
    else .ok (substrOf a0 a1.toInt (if args.length = 3 then some a2.toInt else none))
  | "hex" => .ok (hexOf a0)
  | "quote" => .ok (quoteOf a0)
  | "round" => .ok (roundOf a0 (if args.length = 2 then a1.toInt else 0))
  | "trim" => .ok (trimOf a0 (if args.length = 2 then some a1 else none) true true)
  | "ltrim" => .ok (trimOf a0 (if args.length = 2 then some a1 else none) true false)
  | "rtrim" => .ok (trimOf a0 (if args.length = 2 then some a1 else none) false true)
  | "replace" => .ok (replaceOf a0 a1 a2)
  | "instr" => .ok (instrOf a0 a1)
  | "char" => .ok (charOf args)
  | "unicode" => .ok (unicodeOf a0)
  | "zeroblob" => .ok (.blob (List.replicate (max a0.toInt 0).toNat 0))
  | "max" => .ok (extremeOf true coll args)
  | "min" => .ok (extremeOf false coll args)
  | "likely" | "unlikely" | "likelihood" => .ok a0
  | "sqlite_version" => .ok (.ofString "3.45.1")
  | "concat" => .ok (joinedOf [] args)
  | "concat_ws" => .ok (match a0.toBytes? with
    | some sep => joinedOf sep (args.drop 1)
    | none => .null)
  | "unhex" => .ok (unhexOf a0 (if args.length = 2 then some a1 else none))
  | "sign" => .ok (signOf a0)
  | "like" =>
    match a0.toText?, a1.toText? with
    | some p, some s =>
      let esc := if args.length = 3 then (a2.toText?.bind fun t => t.chars.head?) else none
      .ok (ofBool (likeMatch esc p.chars s.chars))
    | _, _ => .ok .null
  | "glob" =>
    match a0.toText?, a1.toText? with
    | some p, some s => .ok (ofBool (globMatch p.chars s.chars))
    | _, _ => .ok .null
  | _ => .error (Fault.logic ("no such function: " ++ name))

/-! ### Aggregates -/

/-- A value as `sum` adds it: an integer, or a double. -/
def summand (v : Value) : Value :=
  match v with
  | .integer _ => v
  | .real _ => v
  | .text t => match Value.numericText t false with
    | .integer n => .integer n
    | other => .real other.toReal
  | other => .real other.toReal

/-- The sum of values that are not null: an integer while every value is one (failing
when it overflows), a double otherwise, null for none. -/
def sumOf (vs : List Value) : Except Fault Value :=
  let xs := (vs.filter fun v => !v.isNull).map summand
  if xs.isEmpty then .ok .null
  else if xs.all fun v => match v with
      | .integer _ => true
      | _ => false then
    let s := xs.foldl (fun acc v => acc + v.toInt) (0 : Int)
    if fits s then .ok (.integer s) else .error (Fault.logic "integer overflow")
  else .ok (.real (xs.foldl (fun acc v => acc + v.toReal) 0))

/-- Values without repeats, the first of each kept. -/
def distinctValues (vs : List Value) : List Value :=
  (vs.foldl (fun acc v => if acc.any (sameForGrouping v) then acc else v :: acc) []).reverse

/-- An aggregate over the values of its argument in each row of a group (the rows
themselves for `count(*)`); `coll` is the collation of the argument and `sep` the
separator of `group_concat`. -/
def aggregate (name : String) (coll : Collation) (distinct : Bool) (rows : Nat)
    (vals : List Value) (sep : Value) : Except Fault Value :=
  let vals := if distinct then distinctValues vals else vals
  let present := vals.filter fun v => !v.isNull
  match name.toLower with
  | "count" => .ok (.integer (if vals.isEmpty ∧ !distinct then rows else present.length))
  | "max" =>
    .ok (present.foldl (fun best v => match best with
      | .null => v
      | _ => if Value.order coll v best == .gt then v else best) .null)
  | "min" =>
    .ok (present.foldl (fun best v => match best with
      | .null => v
      | _ => if Value.order coll v best == .lt then v else best) .null)
  | "sum" => sumOf present
  | "total" => .ok (.real (present.foldl (fun acc v => acc + (summand v).toReal) 0))
  | "avg" =>
    if present.isEmpty then .ok .null
    else .ok (.real ((present.foldl (fun acc v => acc + (summand v).toReal) 0) /
      Float.ofNat present.length))
  | "group_concat" =>
    if present.isEmpty then .ok .null
    else
      let s := (sep.toText?).getD (Text.ofString ",")
      let texts := present.filterMap Value.toText?
      .ok (.text ⟨(texts.map Text.bytes).intersperse s.bytes |>.flatten⟩)
  | _ => .error (Fault.logic ("no such function: " ++ name))

theorem likeMatch_nil (esc : Option Char) : likeMatch esc [] [] = true := rfl

theorem unhexChars_nil (pass : List Char) : unhexChars pass [] = some [] := by
  simp [unhexChars]

end Sql

end MailStore
