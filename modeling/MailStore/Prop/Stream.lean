import MailStore.Prop.Value
import MailStore.Text.Utf16

/-!
# Property streams

A property too large for a bulk fetch is opened as a stream. A stream value is read at most
once: the first `materialize` reads the whole stream, decodes it by its encoding, releases
the stream, and remembers the outcome, value or failure, for every later call. Closing a
stream value that was never read releases the stream and makes every later read fail as
closed; closing one that was read does nothing.

Reading checks the size the stream reports against a limit of `2^32 - 1` bytes, reads until
that many bytes arrived or the stream ended, and insists that the two counts agree. A
stream that ends before its first byte is a read failure of its own (`EOF`).

## Main statements

* `sizeText_small`: sizes below ten bytes are written in bytes.
-/

namespace MailStore

/-- What is known of a stream value. -/
inductive StreamState where
  /-- The stream is open and has not been read. -/
  | unread
  /-- The stream was read or closed, with the outcome every read now gives. -/
  | settled (outcome : Except Failure (Option Value))

/-- How a read loop ended short of the size it wanted. -/
inductive ReadEnd where
  /-- The stream had no more bytes. -/
  | endOfStream
  /-- A read failed. -/
  | failed (f : Failure)

/-- The operations a store offers on its open streams, each known by a handle, and where
the outcome of each stream value is kept. -/
structure StreamStore (m : Type → Type) where
  /-- The size the stream reports. -/
  size : Nat → m Nat
  /-- At most `n` further bytes of the stream, at least one; `none` once it has no more. -/
  read : Nat → Nat → m (Option Bytes)
  /-- Releases the stream. -/
  close : Nat → m Unit
  /-- What is known of the stream value. -/
  lookup : Nat → m StreamState
  /-- Records what became of the stream value. -/
  record : Nat → StreamState → m Unit

namespace Stream

/-- The largest stream that is read: `2^32 - 1` bytes. -/
def maxSize : Nat := 4294967295

/-- A size in binary units as people read it: whole bytes below ten, else the largest unit
of 1024 powers not above the size, with one decimal below ten units and none from ten on;
the figure is rounded to tenths first and a half goes up, then a whole figure rounds a
half to the even neighbour. -/
def sizeText (s : Nat) : String :=
  if s < 10 then toString s ++ " B"
  else
    let units := ["B", "KiB", "MiB", "GiB", "TiB", "PiB", "EiB"]
    let f := s.toUInt64.toFloat
    let e := (Float.floor (Float.log f / Float.log 1024)).toUInt64.toNat
    let scaled := f / Float.pow 1024 e.toUInt64.toFloat * 10 + 0.5
    let m := (Float.floor scaled).toUInt64.toNat
    let unit := units.getD e "B"
    if m < 100 then toString (m / 10) ++ "." ++ toString (m % 10) ++ " " ++ unit
    else
      let q := m / 10
      let r := m % 10
      let whole := if r > 5 ∨ (r = 5 ∧ q % 2 = 1) then q + 1 else q
      toString whole ++ " " ++ unit

theorem sizeText_small (s : Nat) (h : s < 10) : sizeText s = toString s ++ " B" := by
  simp [sizeText, h]

variable {m : Type → Type} [Monad m] [MonadExcept Failure m]

/-- Reads from a stream until `want` bytes arrived, the stream ended, or a read failed;
gives the bytes and, when fewer than `want` arrived, how reading ended. At most `fuel`
reads are made. -/
def readFull (s : StreamStore m) (h want : Nat) : Nat → Bytes → m (Bytes × Option ReadEnd)
  | 0, acc => pure (acc, none)
  | fuel + 1, acc =>
    if acc.length ≥ want then pure (acc, none)
    else do
      let step ← tryCatch (do let c ← s.read h (want - acc.length); pure (Except.ok c))
        fun f => pure (Except.error f)
      match step with
      | .error f => pure (acc, some (.failed f))
      | .ok none => pure (acc, some .endOfStream)
      | .ok (some c) => readFull s h want fuel (acc ++ c)

/-- The value of a stream's bytes under an encoding: text for UTF-8 and UTF-16, bytes
otherwise. -/
def decodeAs (e : StreamEncoding) (b : Bytes) : Except Failure Value :=
  match e with
  | .utf8 => .ok (.string ⟨b⟩)
  | .utf16 => (Utf16.decode b).map Value.string
  | _ => .ok (.binary b)

/-- Reads a whole stream and decodes it. -/
def readAll (s : StreamStore m) (h : Nat) (e : StreamEncoding) : m Value := do
  let size ← tryCatch (s.size h) fun f => throw (f.wrap "failed to stat property stream")
  if size > maxSize then throw (Failure.because .streamTooLarge (sizeText size))
  let (data, stop) ← readFull s h size (size + 1) []
  if data.length < size then
    match stop with
    | some (.failed f) => throw (f.wrap "failed to read property stream")
    | some .endOfStream =>
      if data.isEmpty then throw (Failure.other "failed to read property stream: EOF")
    | none => pure ()
  unless data.length = size do
    throw (Failure.inconsistent ("stream reported " ++ toString size ++ " bytes, read " ++
      toString data.length))
  match decodeAs e data with
  | .ok v => pure v
  | .error f => throw f

/-- Lifts a kept outcome. -/
def replay {α : Type} : Except Failure α → m α
  | .ok a => pure a
  | .error f => throw f

/-- The value of a stream: read, decoded and released on the first call, the kept outcome
on every later one. A failure to release the stream spoils a read that went well. -/
def materialize (s : StreamStore m) (r : StreamRef) : m (Option Value) := do
  match ← s.lookup r.handle with
  | .settled outcome => replay outcome
  | .unread =>
    let read ← tryCatch (do let v ← readAll s r.handle r.encoding; pure (Except.ok (some v)))
      fun f => pure (Except.error f)
    let released ← tryCatch (do s.close r.handle; pure none) fun f => pure (some f)
    let outcome := match read, released with
      | .ok _, some f => .error (f.wrap "failed to close property stream")
      | o, _ => o
    s.record r.handle (.settled outcome)
    replay outcome

/-- Releases a stream value that was never read; later reads fail as closed. A stream value
that was read is left as it is. -/
def close (s : StreamStore m) (r : StreamRef) : m Unit := do
  match ← s.lookup r.handle with
  | .settled _ => pure ()
  | .unread =>
    s.record r.handle (.settled (.error (Failure.bare .streamClosed)))
    s.close r.handle

end Stream

end MailStore
