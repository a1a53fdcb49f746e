import MailStore.Time.Instant

/-!
# Instants relative to now

An instant is described by how far it lies from now, in the largest unit that fits, with
`ago` or `from now` after it: `now` within a second, then seconds, minutes, hours, days,
weeks, months of 30 days and years of 12 such months, and `a long while` from 37 years on.
The boundaries are those of the table `magnitudes`: below twice a unit the count is spelled
`1 unit`, and 18 months up to two years is `1 year`.

The distance is counted in nanoseconds and stops growing at the largest 64-bit count.
-/

namespace MailStore

namespace Instant

/-- A second in nanoseconds. -/
def nanosPerSecond : Int := 1000000000

/-- The nanoseconds since the epoch. -/
def nanos (t : Instant) : Int := t.sec * nanosPerSecond + t.nsec

/-- The rows of the description table: below a distance, the words, and the unit the count
is given in (none when the words have no count). -/
def magnitudes : List (Int × String × Option Int) :=
  let s := nanosPerSecond
  let day := 86400 * s
  let week := 7 * day
  let month := 30 * day
  let year := 12 * month
  [(s, "now", none), (2 * s, "1 second", none), (60 * s, "seconds", some s),
   (120 * s, "1 minute", none), (3600 * s, "minutes", some (60 * s)),
   (7200 * s, "1 hour", none), (day, "hours", some (3600 * s)), (2 * day, "1 day", none),
   (week, "days", some day), (2 * week, "1 week", none), (month, "weeks", some week),
   (2 * month, "1 month", none), (year, "months", some month), (18 * month, "1 year", none),
   (2 * year, "2 years", none), (37 * year, "years", some year),
   (Int.pow 2 63 - 1, "a long while", none)]

/-- How an instant lies from now: `3 days ago`, `a long while from now`, `now`. -/
def relativeTo (t now : Instant) : String :=
  let later := t.nanos > now.nanos
  let label := if later then "from now" else "ago"
  let diff := min (if later then t.nanos - now.nanos else now.nanos - t.nanos) (Int.pow 2 63 - 1)
  let row := (magnitudes.find? fun (bound, _) => bound > diff).getD
    (Int.pow 2 63 - 1, "a long while", none)
  match row with
  | (_, "now", _) => "now"
  | (_, words, some unit) => toString (diff / unit) ++ " " ++ words ++ " " ++ label
  | (_, words, none) => words ++ " " ++ label

theorem relativeTo_self (t : Instant) : relativeTo t t = "now" := by
  have hdiff : min (t.nanos - t.nanos) (Int.pow 2 63 - 1) = 0 := by
    rw [Int.sub_self]
    exact Int.min_eq_left (by decide)
  simp only [relativeTo, gt_iff_lt, Int.lt_irrefl, if_false, hdiff]
  rfl

end Instant

end MailStore
