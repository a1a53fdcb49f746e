import MailStore.Time.Instant

/-!
# FILETIME

A FILETIME counts 100-nanosecond ticks since 1601-01-01T00:00:00Z in an unsigned 64-bit
word. Converting works in 64-bit two's complement arithmetic that wraps: the word is read
as a signed count, the ticks between 1601 and 1970 are subtracted with wrap-around, and
the result is split into seconds and a remainder by division that truncates toward zero.
So every word denotes an instant, those at and past `2^63` included, and converting back
recovers the word; an instant converts to ticks rounded down to a multiple of 100 ns.
-/

namespace MailStore

/-- The ticks from 1601-01-01 to 1970-01-01. -/
def fileTimeEpochDelta : Int64 := 116444736000000000

/-- Ticks per second. -/
def ticksPerSecond : Int64 := 10000000

namespace Instant

/-- The instant of a FILETIME word. -/
def ofFileTime (ft : UInt64) : Instant :=
  let ticks := ft.toInt64 - fileTimeEpochDelta
  normalize (ticks / ticksPerSecond).toInt ((ticks % ticksPerSecond).toInt * 100)

/-- The FILETIME word of an instant: its whole ticks since 1970 in wrapping 64-bit
arithmetic, plus the ticks from 1601 to 1970. -/
def toFileTime (t : Instant) : UInt64 :=
  let ticks := t.sec.toInt64 * ticksPerSecond + (Int.ofNat (t.nsec / 100)).toInt64
  ticks.toUInt64 + fileTimeEpochDelta.toUInt64

end Instant

end MailStore
