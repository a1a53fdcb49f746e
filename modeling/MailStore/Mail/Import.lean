import MailStore.Mail.Source
import MailStore.Db.Reader
import MailStore.Tool.Registry

/-!
# Importing mail accounts

An importer mirrors mail accounts into a property database, one store per account, named
after it. Syncing an account:

* finds the account's store by name, or creates it;
* registers the importer's named properties in the store;
* lists the account's mailboxes and syncs each, or only the one asked for.

Syncing a mailbox finds or creates its folder path below the IPM subtree (the name split at
the mailbox's delimiter, empty parts skipped, new folders of class `IPF.Note`), marks the
folder as the inbox when its name is `INBOX` in any case and as a special folder for each
special-use attribute it has, fetches its most recent messages and writes each one: a
message of the folder that already has the message's UID is updated, otherwise a message
is created.

Counts grow as the work is done, so a mailbox that fails halfway leaves the messages it
wrote counted. When every mailbox is synced, a failing mailbox is skipped and the next one
is tried; when one mailbox is asked for, its failure is the sync's failure.

`syncAll` syncs the accounts in the order of their names and stops at the first failure.
-/

namespace MailStore

/-- What one sync of an account wrote. -/
structure SyncResult where
  /-- The account's name. -/
  account : String
  /-- The mailboxes synced to the end. -/
  folders : Nat
  /-- The messages created. -/
  created : Nat
  /-- The messages updated. -/
  updated : Nat
deriving DecidableEq, Repr, Inhabited

/-- A sync result as JSON, members in the order `account`, `folders`, `created`, `updated`. -/
def SyncResult.toJson (r : SyncResult) : Json :=
  .object [("account", .str r.account), ("folders", .nat r.folders), ("created", .nat r.created),
    ("updated", .nat r.updated)]

/-- The accounts to import and how many recent messages of a mailbox to fetch (all of them
when zero). -/
structure Importer where
  /-- The accounts; a later account replaces an earlier one of the same name. -/
  accounts : List MailAccount
  /-- The number of recent messages fetched per mailbox. -/
  limit : Nat
deriving Inhabited

namespace Importer

open PropertyDb

/-- The container class of the folders an import creates. -/
def mailClass : String := "IPF.Note"

/-- The special-use attributes a mailbox may have, with the property that names the folder
and whether that property is on the store object (otherwise on the IPM subtree). -/
def specialUse : List (String × Tag × Bool) :=
  [("\\Sent", Tag.ipmSentMail, true), ("\\Trash", Tag.ipmWastebasket, true),
   ("\\Drafts", Tag.ipmDrafts, false), ("\\Archive", Tag.ipmArchive, false)]

/-- Strings in byte order, without repeats. -/
def sortedNames (names : List String) : List String :=
  (names.foldl (fun acc n => if acc.contains n then acc else acc ++ [n]) []).mergeSort
    fun a b => !decide (b < a)

/-- The names of the accounts, sorted. -/
def names (imp : Importer) : List String := sortedNames (imp.accounts.map MailAccount.name)

/-- The account with a name. -/
def account? (imp : Importer) (name : String) : Option MailAccount :=
  imp.accounts.reverse.find? fun a => a.name = name

/-- Runs a database operation, putting what the importer was doing in front of a failure. -/
def wrapDb {α : Type} (context : String) (x : DbM α) : DbM α :=
  tryCatch x fun f => throw (f.wrap context)

/-- Runs a database operation and gives its failure as a value. -/
def attempt {α : Type} (x : DbM α) : DbM (Except Failure α) :=
  tryCatch (Except.ok <$> x) fun f => pure (.error f)

/-- Finds something, or makes it when it is not there. -/
def findOrMake {α : Type} (find make : DbM α) : DbM α :=
  tryCatch find fun f => if f.cause = .noEntry then make else throw f

/-- A failure of the mail source as a database operation's. -/
def fromSource {α : Type} (context : String) (x : Except Failure α) : DbM α :=
  match x with
  | .ok a => pure a
  | .error f => throw (f.wrap context)

/-- The pieces of a text between the occurrences of a separator, at most `fuel` cuts. -/
def splitAt (sep : List Char) : Nat → List Char → List Char → List String
  | 0, acc, rest => [String.ofList (acc ++ rest)]
  | _ + 1, acc, [] => [String.ofList acc]
  | fuel + 1, acc, c :: rest =>
    if sep.isPrefixOf (c :: rest) then String.ofList acc :: splitAt sep fuel [] ((c :: rest).drop sep.length)
    else splitAt sep fuel (acc ++ [c]) rest

/-- The folder path of a mailbox: its name split at the delimiter. -/
def pathOf (mb : Mailbox) : List String :=
  if mb.delimiter.isEmpty then [mb.name]
  else splitAt mb.delimiter.toList (mb.name.length + 1) [] mb.name.toList

/-- The store of an account: found by name, or created. -/
def ensureStore (name : String) : DbM (Bytes × Bytes) :=
  wrapDb ("failed to open store for " ++ name) (findOrMake (findStore name) (createStore name))

/-- The folder of a mailbox below the IPM subtree, created part by part where missing. -/
def ensureFolder (root : Bytes) (mb : Mailbox) : DbM Bytes :=
  (pathOf mb).foldlM (fun parent part =>
    if part.isEmpty then pure parent
    else wrapDb ("failed to open folder " ++ part)
      (findOrMake (findChildFolder parent part) (createFolder parent part mailClass))) root

/-- Marks a mailbox's folder as the inbox and as the special folders its attributes name. -/
def markSpecial (store root folder : Bytes) (mb : Mailbox) : DbM Unit := do
  if Fold.equal mb.name "INBOX" then setReceiveFolder folder
  mb.attributes.forM fun attr =>
    match specialUse.find? fun (a, _) => a = attr with
    | none => pure ()
    | some (_, tag, onStore) =>
      wrapDb ("failed to mark " ++ attr)
        (setProps (if onStore then store else root) [⟨tag, some folder⟩])

/-- Writes one message into a folder: updates the message with its UID, or creates one.
Gives whether it created one. -/
def syncMessage (folder : Bytes) (named : List Tag) (m : MailMessage) : DbM Bool := do
  let props ← MonadExcept.ofExcept (Mail.messageProps m named)
  match ← attempt (findMessage folder (named.headD Tag.null) (Mail.uidValue m.uid)) with
  | .ok existing =>
    wrapDb ("failed to update message " ++ toString m.uid) (setProps existing props)
    pure false
  | .error f =>
    if f.cause = .noEntry then
      wrapDb ("failed to create message " ++ toString m.uid) (discard (createMessage folder props))
      pure true
    else throw f

/-- Writes messages into a folder, counting them; stops at the first failure, which it
gives with the counts so far. -/
def syncMessages (folder : Bytes) (named : List Tag) :
    SyncResult → List MailMessage → DbM (SyncResult × Option Failure)
  | res, [] => pure (res, none)
  | res, m :: rest => do
    match ← attempt (syncMessage folder named m) with
    | .ok true => syncMessages folder named { res with created := res.created + 1 } rest
    | .ok false => syncMessages folder named { res with updated := res.updated + 1 } rest
    | .error f => pure (res, some f)

/-- Syncs one mailbox; gives the counts and the failure, if it failed. -/
def syncMailbox (imp : Importer) (source : MailSource) (store root : Bytes) (named : List Tag)
    (mb : Mailbox) (res : SyncResult) : DbM (SyncResult × Option Failure) := do
  let prepared ← attempt do
    let folder ← ensureFolder root mb
    markSpecial store root folder mb
    let messages ← fromSource "failed to fetch messages" (source.fetch mb.name imp.limit)
    pure (folder, messages)
  match prepared with
  | .error f => pure (res, some f)
  | .ok (folder, messages) =>
    let (res, failed) ← syncMessages folder named res messages
    match failed with
    | some f => pure (res, some f)
    | none => pure ({ res with folders := res.folders + 1 }, none)

/-- Syncs the mailboxes, or only the one named (when `only` is not empty); gives the counts
and whether the named one was there. -/
def syncBoxes (imp : Importer) (source : MailSource) (store root : Bytes) (named : List Tag)
    (only : String) : SyncResult → Bool → List Mailbox → DbM (SyncResult × Bool)
  | res, found, [] => pure (res, found)
  | res, found, mb :: rest => do
    if !only.isEmpty ∧ mb.name ≠ only then syncBoxes imp source store root named only res found rest
    else
      let (res, failed) ← syncMailbox imp source store root named mb res
      match failed with
      | some f =>
        if !only.isEmpty then throw (f.wrap ("failed to sync mailbox " ++ mb.name))
        else syncBoxes imp source store root named only res true rest
      | none => syncBoxes imp source store root named only res true rest

/-- Syncs an account: every mailbox, or only `mailbox` when it is not empty. -/
def syncAccount (imp : Importer) (name mailbox : String) : DbM SyncResult := do
  let some acct := imp.account? name
    | throw (Failure.because .unknownAccount name)
  let (store, root) ← ensureStore name
  let named ← wrapDb "failed to register named properties" (registerNames store Mail.namedProps)
  let boxes ← fromSource "failed to list mailboxes" acct.source.list
  let (res, found) ← syncBoxes imp acct.source store root named mailbox ⟨name, 0, 0, 0⟩ false boxes
  if !mailbox.isEmpty ∧ !found then throw (Failure.because .noEntry ("mailbox " ++ mailbox))
  pure res

/-- Syncs every account in the order of their names; the first failure ends it. -/
def syncAll (imp : Importer) : DbM (List SyncResult) :=
  imp.names.mapM fun n => wrapDb ("failed to sync account " ++ n) (imp.syncAccount n "")

/-- Closes every account's source; the failures, one line each as `name: message`. -/
def close (imp : Importer) : Option Failure :=
  let failures := imp.names.filterMap fun n =>
    match imp.account? n with
    | some a => match a.source.close with
      | .error f => some (f.wrap n)
      | .ok () => none
    | none => none
  match failures with
  | [] => none
  | f :: _ => some ⟨f.cause, "\n".intercalate (failures.map Failure.message)⟩

/-! ### The sync tool -/

/-- The name of the sync tool. -/
def toolName : String := "sync_account"

/-- What the sync tool does. -/
def toolDescription : String :=
  "Import messages from IMAP into the property store for one account, or all accounts"

/-- The arguments of the sync tool: an account among the importer's, and a mailbox. -/
def toolSchema (imp : Importer) : Json :=
  .object [("type", .str "object"), ("properties", .object [
    ("account_name", .object [("type", .str "string"), ("enum", .array (imp.names.map Json.str)),
      ("description", .str "Optional: specific account name, or all accounts if omitted")]),
    ("mailbox", .object [("type", .str "string"),
      ("description", .str "Optional: single mailbox to sync, e.g. INBOX")])])]

/-- Runs the sync tool: every account without `account_name`, otherwise that account (and
only `mailbox` when given). -/
def runTool (imp : Importer) (args : Json) : DbM Json :=
  match Args.string? args "account_name" with
  | none => do
    let rs ← imp.syncAll
    pure (.array (rs.map SyncResult.toJson))
  | some name => do
    let mailbox := ((Args.string? args "mailbox").map Text.toString).getD ""
    let r ← wrapDb "failed to sync account" (imp.syncAccount name.toString mailbox)
    pure (.array [r.toJson])

theorem sortedNames_nil : sortedNames [] = [] := by
  simp [sortedNames]

end Importer

end MailStore
