/-!
# Failures

An operation of this library either answers or fails, and a failure carries two things: a
cause that callers can branch on, and the message a user sees. Messages grow outward: each
layer that passes a failure on puts what it was doing in front (`failed to open folder …:
entry not found: …`), and the cause stays the one of the innermost failure.

The causes with a fixed wording of their own (`Cause.text`) start their message with that
wording; `Failure.because` builds such a failure with a detail after a colon.
-/

namespace MailStore

/-- What went wrong, as far as a caller can tell causes apart. -/
inductive Cause where
  /-- A store broke its contract: a payload of the wrong size, a reply of the wrong length. -/
  | inconsistent
  /-- A property stream reported more than four gibibytes. -/
  | streamTooLarge
  /-- A property stream was closed before it was read. -/
  | streamClosed
  /-- No entity has the requested id in a collection. -/
  | notFound
  /-- The store behind an entity is gone. -/
  | storeReleased
  /-- The store has no entry with the requested id. -/
  | noEntry
  /-- The entry exists but is an object of another kind. -/
  | wrongType
  /-- No mail account of that name is configured. -/
  | unknownAccount
  /-- A failure scripted into an in-memory store or mail source. -/
  | injected
  /-- A request that is malformed in itself. -/
  | badRequest
  /-- A script named something it never introduced. -/
  | unknownName
  /-- Any other failure, known only by its message. -/
  | other
deriving DecidableEq, Repr, Inhabited

/-- The fixed wording a cause's messages start with, if it has one. -/
def Cause.text : Cause → String
  | .inconsistent => "internal consistency violation"
  | .streamTooLarge => "stream is too large to read"
  | .streamClosed => "property stream closed"
  | .notFound => "not found"
  | .storeReleased => "store has been released"
  | .noEntry => "entry not found"
  | .wrongType => "entry has the wrong object type"
  | .unknownAccount => "account not found"
  | .injected => "injected failure"
  | .badRequest => ""
  | .unknownName => ""
  | .other => ""

/-- A failed operation: its cause and its message. -/
structure Failure where
  /-- The innermost cause. -/
  cause : Cause
  /-- The full message, outermost context first. -/
  message : String
deriving DecidableEq, Repr, Inhabited

namespace Failure

/-- A failure whose message is the cause's own wording alone. -/
def bare (c : Cause) : Failure := ⟨c, c.text⟩

/-- A failure whose message is the cause's wording, a colon and a detail. -/
def because (c : Cause) (detail : String) : Failure := ⟨c, c.text ++ ": " ++ detail⟩

/-- A failure known only by its message. -/
def other (message : String) : Failure := ⟨.other, message⟩

/-- A store that broke its contract, with what it did. -/
def inconsistent (detail : String) : Failure := because .inconsistent detail

/-- Puts what the caller was doing in front of the message; the cause is kept. -/
def wrap (context : String) (f : Failure) : Failure := ⟨f.cause, context ++ ": " ++ f.message⟩

theorem cause_wrap (context : String) (f : Failure) : (f.wrap context).cause = f.cause := rfl

theorem cause_because (c : Cause) (detail : String) : (because c detail).cause = c := rfl

end Failure

/-- Puts a context in front of the message of a failed result. -/
def within {α : Type} (context : String) : Except Failure α → Except Failure α
  | .ok a => .ok a
  | .error f => .error (f.wrap context)

end MailStore
