/-!
# Instants and their RFC 3339 text

An instant is a count of seconds since 1970-01-01T00:00:00Z and the nanoseconds into that
second, on the proleptic Gregorian calendar with no leap seconds. Its text is RFC 3339 in
UTC: the year with at least four digits (a minus sign before a negative year), a fraction
of the second only when it is not zero and without trailing zeros, and `Z`.

Reading accepts RFC 3339 as it is commonly accepted: a fraction of any length after a point
or a comma (digits past the ninth are dropped), an hour of one digit, and a `Z` or a
numeric offset up to `±24:60`; the day must exist in its month.
-/

namespace MailStore

/-- A point in time: seconds since the Unix epoch and the nanoseconds into that second. -/
structure Instant where
  /-- Whole seconds since 1970-01-01T00:00:00Z, negative before it. -/
  sec : Int
  /-- Nanoseconds into the second. -/
  nsec : Nat
  nsec_lt : nsec < 1000000000 := by omega
deriving DecidableEq

namespace Instant

/-- The instant `sec` seconds and `nsec` nanoseconds after the epoch, either count of any
sign; nanoseconds beyond a second carry into the seconds. -/
def normalize (sec nsec : Int) : Instant :=
  { sec := sec + nsec / 1000000000
    nsec := (nsec % 1000000000).toNat
    nsec_lt := by omega }

/-- The epoch itself. -/
def epoch : Instant := ⟨0, 0, by omega⟩

instance : Inhabited Instant := ⟨epoch⟩

/-- Instants in time order. -/
def compare (a b : Instant) : Ordering :=
  match Ord.compare a.sec b.sec with
  | .eq => Ord.compare a.nsec b.nsec
  | o => o

/-! ### Calendar -/

/-- The days from 1970-01-01 to a date of the proleptic Gregorian calendar. -/
def daysFromCivil (y : Int) (m d : Nat) : Int :=
  let y := if m ≤ 2 then y - 1 else y
  let era := y / 400
  let yoe := y - era * 400
  let mp : Int := if m > 2 then m - 3 else m + 9
  let doy := (153 * mp + 2) / 5 + d - 1
  let doe := yoe * 365 + yoe / 4 - yoe / 100 + doy
  era * 146097 + doe - 719468

/-- The date (year, month, day) of a count of days since 1970-01-01. -/
def civilFromDays (days : Int) : Int × Nat × Nat :=
  let z := days + 719468
  let era := z / 146097
  let doe := z - era * 146097
  let yoe := (doe - doe / 1460 + doe / 36524 - doe / 146096) / 365
  let doy := doe - (365 * yoe + yoe / 4 - yoe / 100)
  let mp := (5 * doy + 2) / 153
  let d := doy - (153 * mp + 2) / 5 + 1
  let m := if mp < 10 then mp + 3 else mp - 9
  let y := yoe + era * 400 + (if m ≤ 2 then 1 else 0)
  (y, m.toNat, d.toNat)

/-- Whether a year has a 29th of February. -/
def isLeap (y : Int) : Bool := y % 4 == 0 && (y % 100 != 0 || y % 400 == 0)

/-- The number of days of a month. -/
def daysIn (y : Int) (m : Nat) : Nat :=
  match m with
  | 2 => if isLeap y then 29 else 28
  | 4 | 6 | 9 | 11 => 30
  | _ => 31

/-! ### Text -/

/-- The decimal digits of `n`, padded with zeros on the left to `width`. -/
def padded (width n : Nat) : String :=
  let s := toString n
  String.ofList (List.replicate (width - s.length) '0') ++ s

/-- A year as the calendar text writes it: four digits at least, a minus sign when negative. -/
def yearText (y : Int) : String :=
  if y < 0 then "-" ++ padded 4 y.natAbs else padded 4 y.toNat

/-- The nine digits of the nanoseconds with the trailing zeros dropped, after a point;
nothing for a whole second. -/
def fractionText (nsec : Nat) : String :=
  if nsec = 0 then ""
  else
    let digits := (padded 9 nsec).toList
    "." ++ String.ofList (digits.reverse.dropWhile (· == '0')).reverse

/-- The RFC 3339 text of an instant in UTC, nanoseconds as needed. -/
def rfc3339 (t : Instant) : String :=
  let days := t.sec / 86400
  let secOfDay := (t.sec % 86400).toNat
  let (y, m, d) := civilFromDays days
  yearText y ++ "-" ++ padded 2 m ++ "-" ++ padded 2 d ++ "T" ++
    padded 2 (secOfDay / 3600) ++ ":" ++ padded 2 (secOfDay / 60 % 60) ++ ":" ++
    padded 2 (secOfDay % 60) ++ fractionText t.nsec ++ "Z"

/-- The value of a run of decimal digits, if every character is one. -/
def digitsValue? (cs : List Char) : Option Nat :=
  if cs.all Char.isDigit then
    some (cs.foldl (fun n c => 10 * n + (c.toNat - 48)) 0)
  else none

/-- The nanoseconds of the digits after a decimal point: the first nine count, the rest
are dropped. -/
def fractionValue (ds : List Char) : Nat :=
  let nine := (ds.take 9) ++ List.replicate (9 - (ds.take 9).length) '0'
  (digitsValue? nine).getD 0

/-- Exactly two digits at the front, as a number, and what follows them. -/
def twoDigits : List Char → Option (Nat × List Char)
  | a :: b :: rest => if a.isDigit ∧ b.isDigit then some (10 * (a.toNat - 48) + (b.toNat - 48), rest)
    else none
  | _ => none

/-- One or two digits at the front (two when there are two), as a number, and what follows
them. -/
def oneOrTwoDigits : List Char → Option (Nat × List Char)
  | a :: b :: rest =>
    if a.isDigit then
      if b.isDigit then some (10 * (a.toNat - 48) + (b.toNat - 48), rest) else some (a.toNat - 48, b :: rest)
    else none
  | [a] => if a.isDigit then some (a.toNat - 48, []) else none
  | [] => none

/-- What follows a given character at the front. -/
def after (c : Char) : List Char → Option (List Char)
  | d :: rest => if d = c then some rest else none
  | [] => none

/-- A fraction of a second at the front: a point or a comma and at least one digit, as
nanoseconds, and what follows it; no fraction is zero. -/
def fraction : List Char → Nat × List Char
  | c :: d :: more =>
    if (c = '.' ∨ c = ',') ∧ d.isDigit then
      (fractionValue ((d :: more).takeWhile Char.isDigit), (d :: more).dropWhile Char.isDigit)
    else (0, c :: d :: more)
  | cs => (0, cs)

/-- The offset from UTC at the front, in seconds: `Z`, or a sign, two digits of hours up to
24, a colon and two digits of minutes up to 60. -/
def zoneOffset : List Char → Option (Int × List Char)
  | 'Z' :: rest => some (0, rest)
  | sign :: h1 :: h2 :: ':' :: m1 :: m2 :: rest => do
    let (hh, _) ← twoDigits [h1, h2]
    let (mm, _) ← twoDigits [m1, m2]
    if hh > 24 ∨ mm > 60 then none
    let seconds : Int := (hh * 60 + mm) * 60
    if sign = '+' then some (seconds, rest)
    else if sign = '-' then some (-seconds, rest)
    else none
  | _ => none

/-- Reads RFC 3339 text as it is commonly accepted: a four-digit year, two-digit month and
day, an hour of one or two digits, two-digit minutes and seconds, an optional fraction after
a point or a comma, and `Z` or an offset of at most 24 hours and 60 minutes. The month, the
day in its month, the hour, the minutes and the seconds must lie in their ranges. -/
def parseRfc3339? (s : String) : Option Instant := do
  let cs := s.toList
  let year ← digitsValue? (cs.take 4)
  if cs.length < 4 then none
  let rest ← after '-' (cs.drop 4)
  let (month, rest) ← twoDigits rest
  let rest ← after '-' rest
  let (day, rest) ← twoDigits rest
  let rest ← after 'T' rest
  let (hour, rest) ← oneOrTwoDigits rest
  let rest ← after ':' rest
  let (minute, rest) ← twoDigits rest
  let rest ← after ':' rest
  let (second, rest) ← twoDigits rest
  let (nsec, rest) := fraction rest
  let (offset, rest) ← zoneOffset rest
  unless rest.isEmpty do none
  unless 1 ≤ month ∧ month ≤ 12 ∧ hour < 24 ∧ minute < 60 ∧ second < 60 do none
  unless 1 ≤ day ∧ day ≤ daysIn year month do none
  let days := daysFromCivil year month day
  let sec := days * 86400 + hour * 3600 + minute * 60 + second - offset
  some (normalize sec nsec)

end Instant

end MailStore
