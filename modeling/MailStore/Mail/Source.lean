import MailStore.Mail.Message

/-!
# Mail sources

A mail account lists its mailboxes and fetches the most recent messages of one: with a
positive limit, the last `limit` messages when there are more, otherwise all of them.

Two kinds of source exist. A scripted source holds its mailboxes and messages and fails
where its script says: listing, fetching some mailboxes, or closing. A server source talks
to an IMAP server over TLS; no server is reachable from where the library runs, so
connecting fails with the network's answer, and closing a source that never connected
succeeds.
-/

namespace MailStore

/-- Where an account's mail comes from. -/
inductive MailSource where
  /-- Mailboxes with their messages, and the failures to play. -/
  | scripted (boxes : List (Mailbox × List MailMessage)) (failList : Bool)
      (failFetch : List String) (failClose : Option String)
  /-- An IMAP server at a host and port, with credentials. -/
  | server (host : String) (port : Int) (username password : String)
deriving Inhabited

namespace MailSource

/-- A scripted failure. -/
def injected (what : String) : Failure := Failure.because .injected what

/-- Why connecting to a server fails. -/
def unreachable (host : String) (port : Int) : Failure :=
  Failure.other ("failed to connect to IMAP server: dial tcp " ++ host ++ ":" ++ toString port ++
    ": connect: network is unreachable")

/-- The mailboxes of a source. -/
def list : MailSource → Except Failure (List Mailbox)
  | .scripted boxes failList _ _ =>
    if failList then .error (injected "list mailboxes") else .ok (boxes.map Prod.fst)
  | .server host port _ _ => .error (unreachable host port)

/-- The last `limit` messages of a list when the limit is positive and there are more. -/
def recent {α : Type} (limit : Nat) (ms : List α) : List α :=
  if limit > 0 ∧ ms.length > limit then ms.drop (ms.length - limit) else ms

/-- The most recent messages of a mailbox. -/
def fetch (s : MailSource) (mailbox : String) (limit : Nat) : Except Failure (List MailMessage) :=
  match s with
  | .scripted boxes _ failFetch _ =>
    if failFetch.contains mailbox then .error (injected ("fetch " ++ mailbox))
    else .ok (recent limit ((boxes.find? fun (b, _) => b.name = mailbox).map Prod.snd |>.getD []))
  | .server host port _ _ => .error (unreachable host port)

/-- Closes the source. -/
def close : MailSource → Except Failure Unit
  | .scripted _ _ _ (some what) => .error (injected what)
  | _ => .ok ()

theorem recent_zero {α : Type} (ms : List α) : recent 0 ms = ms := by
  simp [recent]

end MailSource

/-- A configured mail account. -/
structure MailAccount where
  /-- The account's name, which is also the name of its store. -/
  name : String
  /-- Where its mail comes from. -/
  source : MailSource
deriving Inhabited

end MailStore
