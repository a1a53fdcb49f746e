/-!
# Double-precision numbers as decimal text

JSON numbers that reach the tools are double-precision floating-point numbers. This module
reads decimal text into the nearest double (ties to the even significand, overflow past
the largest double refused) and writes a double back as the fewest significant digits that
read back to it, the nearest such digits when several do.

Two layouts of those digits are used. The general layout writes positional notation for
decimal exponents from -4 to 5 and scientific notation (`1.5e+07`, at least two exponent
digits) otherwise. The JSON layout writes positional notation for magnitudes from `1e-6`
up to below `1e21` and scientific notation otherwise, with single-digit negative exponents
unpadded (`1e-7`).

All arithmetic here is exact, on natural numbers.
-/

namespace MailStore

namespace Binary64

/-! ### Bits -/

/-- The sign, significand and binary exponent of a finite double: it is `±m · 2^e`. -/
def decompose (f : Float) : Bool × Nat × Int :=
  let bits := f.toBits
  let sign := (bits >>> 63) == 1
  let field := ((bits >>> 52) &&& 0x7FF).toNat
  let frac := (bits &&& 0xFFFFFFFFFFFFF).toNat
  if field = 0 then (sign, frac, -1074) else (sign, frac + Nat.pow 2 52, (field : Int) - 1075)

/-- Whether a double is infinite or not a number. -/
def isSpecial (f : Float) : Bool := ((f.toBits >>> 52) &&& 0x7FF) == 0x7FF

/-! ### Reading -/

/-- The power of two `2^e` as a fraction's numerator and denominator. -/
def pow2 (e : Int) : Nat × Nat :=
  if e ≥ 0 then (Nat.pow 2 e.toNat, 1) else (1, Nat.pow 2 e.natAbs)

/-- The power of ten `10^e` as a fraction's numerator and denominator. -/
def pow10 (e : Int) : Nat × Nat :=
  if e ≥ 0 then (Nat.pow 10 e.toNat, 1) else (1, Nat.pow 10 e.natAbs)

/-- The largest `t` with `2^t ≤ num / den`, for a positive fraction. -/
def floorLog2 (num den : Nat) : Int :=
  let t : Int := (num.log2 : Int) - den.log2
  let (a, b) := pow2 t
  -- `num / den < 2^t` exactly when `num * b < a * den`
  if num * b < a * den then t - 1 else t

/-- The double nearest to `m · 10^x`, or `none` when it lies beyond the largest double. -/
def ofDecimal? (negative : Bool) (m : Nat) (x : Int) : Option Float :=
  let signBit : UInt64 := if negative then (1 : UInt64) <<< 63 else 0
  if m = 0 then some (Float.ofBits signBit)
  else if x + (toString m).length > 310 then none
  else if x + (toString m).length < -330 then some (Float.ofBits signBit)
  else
    let (tn, td) := pow10 x
    let num := m * tn
    let den := td
    let t := floorLog2 num den
    -- the exponent of the last significand bit: 52 bits below the leading one, but no
    -- lower than that of the smallest subnormal
    let b : Int := max (t - 52) (-1074)
    let (bn, bd) := pow2 (-b)
    let scaledNum := num * bn
    let scaledDen := den * bd
    let q := scaledNum / scaledDen
    let r := scaledNum % scaledDen
    let q := if 2 * r > scaledDen ∨ (2 * r = scaledDen ∧ q % 2 = 1) then q + 1 else q
    let (q, b) := if q = Nat.pow 2 53 then (Nat.pow 2 52, b + 1) else (q, b)
    if q < Nat.pow 2 52 then
      -- subnormal (or rounded up into the smallest normal when `q = 2^52`)
      some (Float.ofBits (signBit ||| q.toUInt64))
    else
      let field := b + 1075
      if field ≥ 2047 then none
      else
        some (Float.ofBits
          (signBit ||| (field.toNat.toUInt64 <<< 52) ||| (q - Nat.pow 2 52).toUInt64))

/-- Reads the digits of a JSON number: an optional minus sign, digits with an optional
fraction, an optional exponent. The text is assumed well formed. -/
def parseJsonNumber? (s : String) : Option Float :=
  let cs := s.toList
  let (neg, cs) := match cs with
    | '-' :: rest => (true, rest)
    | _ => (false, cs)
  let intPart := cs.takeWhile Char.isDigit
  let rest := cs.dropWhile Char.isDigit
  let (fracPart, rest) := match rest with
    | '.' :: more => (more.takeWhile Char.isDigit, more.dropWhile Char.isDigit)
    | _ => ([], rest)
  let expValue : Int := match rest with
    | e :: more =>
      if e = 'e' ∨ e = 'E' then
        let (eneg, ds) := match more with
          | '-' :: ds => (true, ds)
          | '+' :: ds => (false, ds)
          | ds => (false, ds)
        let n : Nat := ds.foldl (fun n c => 10 * n + (c.toNat - 48)) 0
        if eneg then -(n : Int) else n
      else 0
    | [] => 0
  let digits := intPart ++ fracPart
  let m : Nat := digits.foldl (fun n c => 10 * n + (c.toNat - 48)) 0
  ofDecimal? neg m (expValue - fracPart.length)

/-! ### Writing -/

/-- The fewest significant digits that read back to `m · 2^e` (for `m > 0`), and the
decimal point position `dp`: the value is `0.d₁d₂… · 10^dp`. -/
def shortest (m : Nat) (e : Int) : List Nat × Int :=
  -- the rounding interval, as numerators over `2^(e-2)`
  let lowerGapHalf := m = Nat.pow 2 52 ∧ e > -1074
  let v := 4 * m
  let hi := 4 * m + 2
  let lo := if lowerGapHalf then 4 * m - 1 else 4 * m - 2
  let inclusive := m % 2 = 0
  let (sn, sd) := pow2 (e - 2)
  -- `c / 2^(e-2)` as a fraction, for a decimal `d · 10^p`
  let scaled : Nat → Int → Nat × Nat := fun d p =>
    let (pn, pd) := pow10 p
    (d * pn * sd, pd * sn)
  let inside : Nat → Int → Bool := fun d p =>
    let (a, b) := scaled d p
    if inclusive then lo * b ≤ a ∧ a ≤ hi * b else lo * b < a ∧ a < hi * b
  -- the decimal exponent of the leading digit
  let guess : Int := ((m.log2 : Int) + e) * 30103 / 100000
  let below : Int → Bool := fun k =>
    -- whether `10^k ≤ m · 2^e`
    let (pn, pd) := pow10 k
    let (qn, qd) := pow2 e
    pn * qd ≤ m * qn * pd
  let lead := if below (guess + 1) then guess + 1 else if below guess then guess else guess - 1
  let rec search : Nat → Nat → List Nat × Int
    | 0, _ => ([], 0)
    | fuel + 1, k =>
      let p : Int := lead + 1 - k
      let (pn, pd) := pow10 p
      let (qn, qd) := pow2 e
      let dLo := (m * qn * pd) / (qd * pn)
      let dHi := dLo + 1
      let okLo := inside dLo p
      let okHi := inside dHi p
      if okLo ∨ okHi then
        let d :=
          if okLo ∧ okHi then
            -- the nearer of the two, measured in units of `2^(e-2)` over a common scale
            let (a, b) := scaled dLo p
            let (c, _) := scaled dHi p
            let below := v * b - a
            let above := c - v * b
            if below < above then dLo else if above < below then dHi
            else if dLo % 2 = 0 then dLo else dHi
          else if okLo then dLo else dHi
        let ds := (Nat.toDigits 10 d).map fun c => c.toNat - 48
        let trimmed := (ds.reverse.dropWhile (· == 0)).reverse
        (trimmed, p + ds.length)
      else search fuel (k + 1)
  search 18 1

/-- Digits as characters. -/
def digitChars (ds : List Nat) : List Char := ds.map fun d => Char.ofNat (48 + d)

/-- Scientific notation `d.ddde±XX` with at least `width` exponent digits. -/
def scientific (ds : List Nat) (dp : Int) (width : Nat) : String :=
  let x := dp - 1
  let mant := match ds with
    | [] => "0"
    | [d] => String.ofList (digitChars [d])
    | d :: rest => String.ofList (digitChars [d] ++ '.' :: digitChars rest)
  let expDigits := toString x.natAbs
  let padded := String.ofList (List.replicate (width - expDigits.length) '0') ++ expDigits
  mant ++ "e" ++ (if x < 0 then "-" else "+") ++ padded

/-- Positional notation of the digits with the point at `dp`. -/
def positional (ds : List Nat) (dp : Int) : String :=
  let n := ds.length
  if dp ≤ 0 then
    String.ofList ('0' :: '.' :: List.replicate dp.natAbs '0' ++ digitChars ds)
  else if dp.toNat ≥ n then
    String.ofList (digitChars ds ++ List.replicate (dp.toNat - n) '0')
  else
    String.ofList (digitChars (ds.take dp.toNat) ++ '.' :: digitChars (ds.drop dp.toNat))

/-- The general layout of a finite double. -/
def formatGeneral (f : Float) : String :=
  let (neg, m, e) := decompose f
  let sign := if neg then "-" else ""
  if m = 0 then sign ++ "0"
  else
    let (ds, dp) := shortest m e
    let x := dp - 1
    if x < -4 ∨ x ≥ 6 then sign ++ scientific ds dp 2 else sign ++ positional ds dp

/-- The JSON layout of a finite double. -/
def formatJson (f : Float) : String :=
  let (neg, m, e) := decompose f
  let sign := if neg then "-" else ""
  if m = 0 then sign ++ "0"
  else
    let (ds, dp) := shortest m e
    -- magnitude below 1e-6 means dp ≤ -6; at or above 1e21 means dp ≥ 22
    if dp ≤ -6 ∨ dp ≥ 22 then sign ++ scientific ds dp 1
    else sign ++ positional ds dp

end Binary64

end MailStore
