import MailStore.Number.IntLiteral
import MailStore.Number.Binary64

/-!
# What a scalar means

A YAML scalar is text; its tag says how to read it. A plain scalar without a tag gets the
tag its text looks like:

* `true`, `false`, `null`, `~`, the empty text, `.nan`, `.inf`, `-.inf`, `-0` and a few
  spellings of each are booleans, nulls and floats;
* text that starts with four digits and a dash, and reads as a date, a date and time, or a
  date and time with a zone, is a timestamp;
* text that starts with a digit or a sign reads, with its underscores dropped, as an
  integer literal with an optional base prefix (`0x`, `0o`, `0b`, or a leading `0` for
  octal) that fits 64 bits signed, else one that fits 64 bits unsigned, else as a decimal
  float, else as `0b` or `0o` followed by a signed binary or octal integer;
* anything else is a string.

A scalar with an explicit tag is read the same way and must come out with that tag: a
`!!float` may come out as an integer, which is then a float, and `!!str` and `!!binary`
take any text; any other mismatch is the failure ``cannot decode !!str `abc` as a !!int``.
A tag outside the core schema leaves the text as it is.

## Main definitions

* `Scalar.resolve`: the tag and value of a scalar's text under a tag.
* `Scalar.toInt?`: the value a 64-bit integer setting takes from a scalar.
* `Scalar.isTimestamp`: the timestamp forms.
* `Scalar.decodeBase64?`: the bytes of a `!!binary` scalar.
-/

namespace MailStore

namespace Yaml

/-- The prefix of the core schema's long tags. -/
def longTagPrefix : String := "tag:yaml.org,2002:"

/-- A tag in its short form: `tag:yaml.org,2002:int` is `!!int`; other tags stay. -/
def shortTag (tag : String) : String :=
  if longTagPrefix.isPrefixOf tag then "!!" ++ String.ofList (tag.toList.drop longTagPrefix.length)
  else tag

/-- The tags of the core schema. -/
def strTag : String := "!!str"
def boolTag : String := "!!bool"
def intTag : String := "!!int"
def floatTag : String := "!!float"
def nullTag : String := "!!null"
def timestampTag : String := "!!timestamp"
def binaryTag : String := "!!binary"
def mergeTag : String := "!!merge"
def seqTag : String := "!!seq"
def mapTag : String := "!!map"

/-- What a scalar's text means. -/
inductive Scalar where
  | null
  | bool (b : Bool)
  /-- An integer in the signed 64-bit range. -/
  | int (n : Int)
  /-- An integer above the signed 64-bit range that fits 64 bits unsigned. -/
  | uint (n : Nat)
  | float (f : Float)
  | timestamp
  /-- Text: a string, or the text of a scalar whose tag is outside the core schema. -/
  | str (s : String)
deriving Inhabited

namespace Scalar

/-! ### Timestamps -/

/-- Reads one or two digits. -/
def digits12 : List Char → Option (Nat × List Char)
  | a :: b :: rest =>
    if a.isDigit then
      if b.isDigit then some ((a.toNat - 48) * 10 + (b.toNat - 48), rest)
      else some (a.toNat - 48, b :: rest)
    else none
  | [a] => if a.isDigit then some (a.toNat - 48, []) else none
  | [] => none

/-- Reads exactly two digits. -/
def digits2 : List Char → Option (Nat × List Char)
  | a :: b :: rest =>
    if a.isDigit ∧ b.isDigit then some ((a.toNat - 48) * 10 + (b.toNat - 48), rest) else none
  | _ => none

/-- Whether a year is a leap year. -/
def isLeap (y : Nat) : Bool := y % 4 = 0 ∧ (y % 100 ≠ 0 ∨ y % 400 = 0)

/-- The number of days of a month. -/
def daysIn (y m : Nat) : Nat :=
  if m = 2 then (if isLeap y then 29 else 28)
  else if m = 4 ∨ m = 6 ∨ m = 9 ∨ m = 11 then 30 else 31

/-- Reads `YYYY-M-D` (month and day of one or two digits) and gives the rest, checking the
month's range; the day is checked once everything is read. -/
def readDate (cs : List Char) : Option ((Nat × Nat × Nat) × List Char) := do
  let y4 := cs.take 4
  if y4.length < 4 ∨ ¬ y4.all Char.isDigit then none
  let y := y4.foldl (fun n c => 10 * n + (c.toNat - 48)) 0
  let rest := cs.drop 4
  let rest ← match rest with
    | '-' :: r => some r
    | _ => none
  let (m, rest) ← digits12 rest
  if m = 0 ∨ m > 12 then none
  let rest ← match rest with
    | '-' :: r => some r
    | _ => none
  let (d, rest) ← digits12 rest
  pure ((y, m, d), rest)

/-- Reads `H:M:S` with an optional fraction of a second, each of one or two digits, checking
their ranges. -/
def readTime (cs : List Char) : Option (List Char) := do
  let (h, rest) ← digits12 cs
  if h ≥ 24 then none
  let rest ← match rest with
    | ':' :: r => some r
    | _ => none
  let (mi, rest) ← digits12 rest
  if mi ≥ 60 then none
  let rest ← match rest with
    | ':' :: r => some r
    | _ => none
  let (s, rest) ← digits12 rest
  if s ≥ 60 then none
  match rest with
  | c :: d :: more =>
    if (c = '.' ∨ c = ',') ∧ d.isDigit then some (more.dropWhile Char.isDigit) else some rest
  | _ => some rest

/-- Reads a zone: `Z`, or a sign and `hh:mm`. -/
def readZone (cs : List Char) : Option (List Char) :=
  match cs with
  | 'Z' :: rest => some rest
  | s :: h1 :: h2 :: ':' :: m1 :: m2 :: rest =>
    if (s = '+' ∨ s = '-') ∧ h1.isDigit ∧ h2.isDigit ∧ m1.isDigit ∧ m2.isDigit then
      let h := (h1.toNat - 48) * 10 + (h2.toNat - 48)
      let m := (m1.toNat - 48) * 10 + (m2.toNat - 48)
      if h > 24 ∨ m > 60 then none else some rest
    else none
  | _ => none

/-- Whether a date read as `(y, m, d)` has a day its month has. -/
def dayFits : Nat × Nat × Nat → Bool
  | (y, m, d) => d ≥ 1 ∧ d ≤ daysIn y m

/-- Whether a text is a timestamp: four digits and a dash, then a date alone, a date and
time after a space, or a date and time after `T` or `t` with a zone. -/
def isTimestamp (s : String) : Bool :=
  let cs := s.toList
  let lead := cs.takeWhile Char.isDigit
  if lead.length ≠ 4 ∨ (cs.drop 4).head? ≠ some '-' then false
  else match readDate cs with
    | none => false
    | some (date, rest) =>
      let tail := match rest with
        | [] => some []
        | 'T' :: more => (readTime more).bind readZone
        | 't' :: more => (readTime more).bind readZone
        | ' ' :: more => readTime more
        | _ => none
      tail = some [] ∧ dayFits date

/-! ### Numbers -/

/-- Whether a text has the form of a decimal float:
`[-+]?(\.[0-9]+|[0-9]+(\.[0-9]*)?)([eE][-+]?[0-9]+)?`. -/
def isFloatText (s : String) : Bool :=
  let cs := s.toList
  let cs := match cs with
    | '+' :: r => r
    | '-' :: r => r
    | _ => cs
  let mantissaRest : Option (List Char) := match cs with
    | '.' :: r =>
      let ds := r.takeWhile Char.isDigit
      if ds.isEmpty then none else some (r.dropWhile Char.isDigit)
    | _ =>
      let ds := cs.takeWhile Char.isDigit
      if ds.isEmpty then none
      else match cs.dropWhile Char.isDigit with
        | '.' :: r => some (r.dropWhile Char.isDigit)
        | r => some r
  match mantissaRest with
  | none => false
  | some [] => true
  | some (e :: r) =>
    if e = 'e' ∨ e = 'E' then
      let r := match r with
        | '+' :: t => t
        | '-' :: t => t
        | _ => r
      !r.isEmpty ∧ r.all Char.isDigit
    else false

/-- The double nearest to a decimal float text (of the form `isFloatText` accepts), or
`none` when it lies beyond the largest double. -/
def floatOf? (s : String) : Option Float :=
  let cs := s.toList
  let (neg, cs) := match cs with
    | '-' :: r => (true, r)
    | '+' :: r => (false, r)
    | _ => (false, cs)
  let intPart := cs.takeWhile Char.isDigit
  let rest := cs.dropWhile Char.isDigit
  let (fracPart, rest) := match rest with
    | '.' :: more => (more.takeWhile Char.isDigit, more.dropWhile Char.isDigit)
    | _ => ([], rest)
  let expValue : Int := match rest with
    | _ :: more =>
      let (eneg, ds) := match more with
        | '-' :: ds => (true, ds)
        | '+' :: ds => (false, ds)
        | ds => (false, ds)
      let n : Nat := ds.foldl (fun n c => 10 * n + (c.toNat - 48)) 0
      if eneg then -(n : Int) else n
    | [] => 0
  let m : Nat := (intPart ++ fracPart).foldl (fun n c => 10 * n + (c.toNat - 48)) 0
  Binary64.ofDecimal? neg m (expValue - fracPart.length)

/-- The largest signed 64-bit integer. -/
def maxInt64 : Int := Int.pow 2 63 - 1

/-- An integer literal's value: a signed one in range, or an unsigned one above it. -/
def ofLiteral (signed : Except IntLiteral.Problem Int) (unsigned : Except IntLiteral.Problem Nat) :
    Option Scalar :=
  match signed with
  | .ok n => some (.int n)
  | .error _ => match unsigned with
    | .ok n => some (.uint n)
    | .error _ => none

/-- Reads a text that starts with a digit or a sign: an integer, a float, or nothing. -/
def number? (plain : String) : Option Scalar :=
  match ofLiteral (IntLiteral.parseSigned plain 64) (IntLiteral.parseUnsigned plain 64) with
  | some v => some v
  | none =>
    let asFloat := if isFloatText plain then (floatOf? plain).map Scalar.float else none
    match asFloat with
    | some v => some v
    | none =>
      let cs := plain.toList
      -- a binary or octal body after the prefix, with an optional sign
      let inBase (base : Nat) (body : List Char) : Option Scalar :=
        let (neg, signed, ds) := match body with
          | '-' :: r => (true, true, r)
          | '+' :: r => (false, true, r)
          | _ => (false, false, body)
        if ds.isEmpty ∨ !(ds.all fun c => c.isDigit ∧ c.toNat - 48 < base) then none
        else
          let n : Nat := ds.foldl (fun n c => base * n + (c.toNat - 48)) 0
          if neg then (if n ≤ Nat.pow 2 63 then some (.int (-(n : Int))) else none)
          else if n ≤ maxInt64.toNat then some (.int n)
          else if !signed ∧ n < Nat.pow 2 64 then some (.uint n)
          else none
      -- a negative binary or octal body after a minus and the prefix
      let negated (base : Nat) (body : List Char) : Option Scalar :=
        if body.head? = some '-' ∨ body.head? = some '+' then none else inBase base ('-' :: body)
      match cs with
      | '0' :: 'b' :: body => inBase 2 body
      | '-' :: '0' :: 'b' :: body => negated 2 body
      | '0' :: 'o' :: body => inBase 8 body
      | '-' :: '0' :: 'o' :: body => negated 8 body
      | _ => none

/-- The spellings the core schema reads without looking further. -/
def known? (s : String) : Option (String × Scalar) :=
  if s = "true" ∨ s = "True" ∨ s = "TRUE" then some (boolTag, .bool true)
  else if s = "false" ∨ s = "False" ∨ s = "FALSE" then some (boolTag, .bool false)
  else if s = "" ∨ s = "~" ∨ s = "null" ∨ s = "Null" ∨ s = "NULL" then some (nullTag, .null)
  else if s = ".nan" ∨ s = ".NaN" ∨ s = ".NAN" then some (floatTag, .float (0.0 / 0.0))
  else if s = ".inf" ∨ s = ".Inf" ∨ s = ".INF" ∨ s = "+.inf" ∨ s = "+.Inf" ∨ s = "+.INF" then
    some (floatTag, .float (1.0 / 0.0))
  else if s = "-.inf" ∨ s = "-.Inf" ∨ s = "-.INF" then some (floatTag, .float (-1.0 / 0.0))
  else if s = "-0" ∨ s = "-0.0" then some (floatTag, .float (Float.ofBits 0x8000000000000000))
  else none

/-- How the first character of a text hints at its reading: `N` for the empty text, `S` a
sign, `D` a digit, `M` a letter that may start a known spelling, `.` a dot. -/
def hint (s : String) : Option Char :=
  match s.toList with
  | [] => some 'N'
  | c :: _ =>
    if c = '+' ∨ c = '-' then some 'S'
    else if c.isDigit then some 'D'
    else if "yYnNtTfFoO~".toList.contains c then some 'M'
    else if c = '.' then some '.'
    else none

/-- The tags whose scalars are read by their text. -/
def resolvable (tag : String) : Bool :=
  tag = "" ∨ tag = strTag ∨ tag = boolTag ∨ tag = intTag ∨ tag = floatTag ∨ tag = nullTag ∨
    tag = timestampTag

/-- A scalar's text read without regard to its tag's demands: the tag it comes out with and
its value. -/
def reading (tag text : String) : String × Scalar :=
  match hint text with
  | none => (strTag, .str text)
  | some h =>
    if tag = strTag ∨ tag = binaryTag then (strTag, .str text)
    else match known? text with
      | some r => r
      | none =>
        if h = '.' then
          if isFloatText text then
            match floatOf? text with
            | some f => (floatTag, .float f)
            | none => (strTag, .str text)
          else (strTag, .str text)
        else if h = 'D' ∨ h = 'S' then
          if (tag = "" ∨ tag = timestampTag) ∧ isTimestamp text then (timestampTag, .timestamp)
          else
            let plain := String.ofList (text.toList.filter (· ≠ '_'))
            match number? plain with
            | some v@(.float _) => (floatTag, v)
            | some v => (intTag, v)
            | none => (strTag, .str text)
        else (strTag, .str text)

/-- The tag and value of a scalar's text under a tag; a tag of the core schema that the text
does not fit is a failure. -/
def resolve (tag text : String) : Except String (String × Scalar) :=
  let tag := shortTag tag
  if !resolvable tag then .ok (tag, .str text)
  else
    let (rtag, v) := reading tag text
    if tag = "" ∨ tag = rtag ∨ tag = strTag ∨ tag = binaryTag then .ok (rtag, v)
    else if tag = floatTag ∧ rtag = intTag then
      match v with
      | .int n => .ok (floatTag, .float (Float.ofInt n))
      | _ => .error ("cannot decode " ++ shortTag rtag ++ " " ++ String.singleton (Char.ofNat 96) ++
          text ++ String.singleton (Char.ofNat 96) ++ " as a " ++ tag)
    else .error ("cannot decode " ++ shortTag rtag ++ " " ++ String.singleton (Char.ofNat 96) ++
      text ++ String.singleton (Char.ofNat 96) ++ " as a " ++ tag)

/-! ### Into a 64-bit integer -/

/-- `2^63` as a double. -/
def twoTo63 : Float := Float.ofBits 0x43E0000000000000

/-- The integer part of a finite double, toward zero. -/
def truncate (f : Float) : Int :=
  let (neg, m, e) := Binary64.decompose f
  let mag : Nat := if e ≥ 0 then m * Nat.pow 2 e.toNat else m / Nat.pow 2 e.natAbs
  if neg then -(mag : Int) else mag

/-- The value a 64-bit integer setting takes from a scalar, if it takes one: an integer in
range; a float no larger than `2^63`, cut toward zero, where one that does not fit (and
`-∞`) becomes the smallest integer. -/
def toInt? : Scalar → Option Int
  | .int n => some n
  | .uint n => if n ≤ maxInt64.toNat then some n else none
  | .float f =>
    if f.isNaN ∨ f > twoTo63 then none
    else if f.isInf ∨ f ≥ twoTo63 ∨ f < -twoTo63 then some (-(Int.pow 2 63))
    else some (truncate f)
  | _ => none

/-! ### Binary -/

/-- The value of a base64 digit. -/
def base64Digit (c : Char) : Option Nat :=
  if 'A' ≤ c ∧ c ≤ 'Z' then some (c.toNat - 65)
  else if 'a' ≤ c ∧ c ≤ 'z' then some (c.toNat - 71)
  else if '0' ≤ c ∧ c ≤ '9' then some (c.toNat + 4)
  else if c = '+' then some 62
  else if c = '/' then some 63
  else none

/-- Decodes groups of four base64 characters with `=` padding at the end; line breaks are
ignored. -/
def decodeGroups : List Char → Option (List UInt8)
  | [] => some []
  | a :: b :: c :: d :: rest => do
    let va ← base64Digit a
    let vb ← base64Digit b
    if c = '=' then
      if d ≠ '=' ∨ !rest.isEmpty then none
      pure [((va <<< 2) ||| (vb >>> 4)).toUInt8]
    else
      let vc ← base64Digit c
      if d = '=' then
        if !rest.isEmpty then none
        pure [((va <<< 2) ||| (vb >>> 4)).toUInt8, (((vb &&& 15) <<< 4) ||| (vc >>> 2)).toUInt8]
      else
        let vd ← base64Digit d
        let more ← decodeGroups rest
        pure ([((va <<< 2) ||| (vb >>> 4)).toUInt8, (((vb &&& 15) <<< 4) ||| (vc >>> 2)).toUInt8,
          (((vc &&& 3) <<< 6) ||| vd).toUInt8] ++ more)
  | _ => none

/-- The bytes of a `!!binary` scalar's text, or `none` when it is not base64. -/
def decodeBase64? (text : String) : Option (List UInt8) :=
  decodeGroups (text.toList.filter fun c => c ≠ '\n' ∧ c ≠ '\r')

end Scalar

end Yaml

end MailStore
