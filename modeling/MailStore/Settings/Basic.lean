import MailStore.Failure

/-!
# Settings

What the bridge is set up with: where the property database lives, the largest property
value kept inline, the log level, the address for metrics, how many recent messages of a
mailbox an import fetches, and the mail accounts to import.

Settings are checked in a fixed order and the first problem is reported: a database path
must be given, the inline size must lie between one kibibyte and 64 mebibytes, the message
limit between 1 and 10000, and each account, in order, must have a name that no earlier
account has, a host, and a port from 1 to 65535.

## Main definitions

* `Settings.defaults`: the settings before any file or variable is read.
* `Settings.validate`: the first problem of the settings, if any.
* `Settings.account?`: the first account with a name.
-/

namespace MailStore

/-- A mail account as the settings give it. -/
structure AccountSettings where
  /-- The account's name. -/
  name : String := ""
  /-- The IMAP server's host. -/
  host : String := ""
  /-- The IMAP server's port; zero until a default is given. -/
  port : Int := 0
  /-- The user name. -/
  username : String := ""
  /-- The password. -/
  password : String := ""
deriving DecidableEq, Repr, Inhabited

/-- The settings of the bridge. -/
structure Settings where
  /-- The path of the property database. -/
  storePath : String
  /-- The largest property value kept inline, in bytes. -/
  maxInlineValueSize : Int
  /-- The log level. -/
  logLevel : String
  /-- The address metrics are served on; empty for none. -/
  metricsAddr : String
  /-- How many recent messages an import fetches per mailbox. -/
  syncMessageLimit : Int
  /-- The mail accounts. -/
  accounts : List AccountSettings
deriving DecidableEq, Repr, Inhabited

/-- Why settings are refused. -/
inductive SettingsProblem where
  | noStorePath
  | inlineSizeOutOfRange
  | messageLimitOutOfRange
  /-- The account at a position (from one) has no name. -/
  | unnamedAccount (position : Nat)
  /-- An earlier account has the same name. -/
  | duplicateAccount (name : String)
  /-- The account has no host. -/
  | noHost (name : String)
  /-- The account's port is not from 1 to 65535. -/
  | badPort (name : String)
deriving DecidableEq, Repr

/-- The wording of a problem. -/
def SettingsProblem.message : SettingsProblem → String
  | .noStorePath => "STORE_PATH is required"
  | .inlineSizeOutOfRange => "MAX_INLINE_VALUE_SIZE must be between 1KiB and 64MiB"
  | .messageLimitOutOfRange => "SYNC_MESSAGE_LIMIT must be between 1 and 10000"
  | .unnamedAccount i => "account " ++ toString i ++ ": name is required"
  | .duplicateAccount n => "account " ++ n ++ ": duplicate name"
  | .noHost n => "account " ++ n ++ ": IMAP_HOST is required"
  | .badPort n => "account " ++ n ++ ": invalid IMAP_PORT"

namespace Settings

/-- The settings before any file or variable is read. -/
def defaults : Settings :=
  ⟨"/data/mapi_store.db", 32 * 1024, "info", "", 100, []⟩

/-- The first problem among accounts from a position on, given the names seen before. -/
def accountProblem : Nat → List String → List AccountSettings → Option SettingsProblem
  | _, _, [] => none
  | i, seen, a :: rest =>
    if a.name.isEmpty then some (.unnamedAccount i)
    else if seen.contains a.name then some (.duplicateAccount a.name)
    else if a.host.isEmpty then some (.noHost a.name)
    else if a.port < 1 ∨ a.port > 65535 then some (.badPort a.name)
    else accountProblem (i + 1) (a.name :: seen) rest

/-- The first problem of the settings, if any. -/
def validate (s : Settings) : Option SettingsProblem :=
  if s.storePath.isEmpty then some .noStorePath
  else if s.maxInlineValueSize < 1024 ∨ s.maxInlineValueSize > 64 * 1024 * 1024 then
    some .inlineSizeOutOfRange
  else if s.syncMessageLimit < 1 ∨ s.syncMessageLimit > 10000 then some .messageLimitOutOfRange
  else accountProblem 1 [] s.accounts

/-- The first account with a name. -/
def account? (s : Settings) (name : String) : Except Failure AccountSettings :=
  match s.accounts.find? fun a => a.name = name with
  | some a => .ok a
  | none => .error (Failure.other ("account not found: " ++ name))

/-- The names of the accounts, in order. -/
def accountNames (s : Settings) : List String := s.accounts.map AccountSettings.name

theorem validate_defaults : defaults.validate = none := by
  decide

theorem accountNames_length (s : Settings) : s.accountNames.length = s.accounts.length := by
  simp [accountNames]

end Settings

end MailStore
