import MailStore.Settings.Yaml
import MailStore.Number.IntLiteral

/-!
# Loading settings

Settings come from three places, each over the one before: the defaults; the YAML file
that the variable `CONFIG_FILE` names, if it names one; and the environment.

* `STORE_PATH`, `LOG_LEVEL` and `METRICS_ADDR` replace their settings when not empty;
  `MAX_INLINE_VALUE_SIZE` and `SYNC_MESSAGE_LIMIT` when they are decimal integers.
* With `IMAP_HOST` set, the environment gives one account, named by `ACCOUNT_NAME`
  (`default` when unset), from `IMAP_HOST`, `IMAP_PORT` (993 when unset or not a number),
  `IMAP_USERNAME` and `IMAP_PASSWORD`. Otherwise it gives the accounts
  `ACCOUNT_1_NAME`, `ACCOUNT_2_NAME`, … up to the first unset name, each from the same
  variables under its prefix `ACCOUNT_n_`. An account without a host, or without a user
  name or password, is refused.
* Accounts from the environment replace those of the file, when there are any.
* An account left without a port gets 993.

A variable that is set to the empty text counts as unset.

## Main definitions

* `Settings.load`: the settings from an environment and the files it can read.
-/

namespace MailStore

namespace Settings

/-- An environment: variables and their values. -/
abbrev Environment := List (String × String)

/-- A variable's value, or a default when it is unset or empty. -/
def getEnv (env : Environment) (key default : String) : String :=
  match env.lookup key with
  | some v => if v.isEmpty then default else v
  | none => default

/-- A variable's value as a decimal integer, or a default when it is unset, empty or not
a decimal integer of the 64-bit range. -/
def getEnvInt (env : Environment) (key : String) (default : Int) : Int :=
  let v := getEnv env key ""
  if v.isEmpty then default else (IntLiteral.parseDecimal? v).getD default

/-- The standard IMAP-over-TLS port. -/
def imapsPort : Int := 993

/-- The account the variables under a prefix describe, or why it is refused. -/
def loadAccount (env : Environment) (pre name : String) : Except String AccountSettings :=
  let a : AccountSettings :=
    { name, host := getEnv env (pre ++ "IMAP_HOST") "", port := getEnvInt env (pre ++ "IMAP_PORT") imapsPort,
      username := getEnv env (pre ++ "IMAP_USERNAME") "",
      password := getEnv env (pre ++ "IMAP_PASSWORD") "" }
  if a.host.isEmpty then .error "IMAP_HOST is required"
  else if a.username.isEmpty ∨ a.password.isEmpty then
    .error "IMAP_USERNAME and IMAP_PASSWORD are required"
  else .ok a

/-- The numbered accounts from `ACCOUNT_n_` on, up to the first unset name. -/
def loadNumbered (env : Environment) : Nat → Nat → Except String (List AccountSettings)
  | 0, _ => .ok []
  | fuel + 1, n =>
    let pre := "ACCOUNT_" ++ toString n ++ "_"
    let name := getEnv env (pre ++ "NAME") ""
    if name.isEmpty then .ok []
    else match loadAccount env pre name with
      | .error e => .error ("account " ++ toString n ++ ": " ++ e)
      | .ok a => (loadNumbered env fuel (n + 1)).map (a :: ·)

/-- The accounts the environment gives. -/
def loadAccounts (env : Environment) : Except String (List AccountSettings) :=
  if !(getEnv env "IMAP_HOST" "").isEmpty then
    (loadAccount env "" (getEnv env "ACCOUNT_NAME" "default")).map fun a => [a]
  else loadNumbered env (env.length + 1) 1

/-- The settings after the environment's variables are applied. -/
def withEnvironment (env : Environment) (s : Settings) : Except String Settings := do
  let s := { s with
    storePath := getEnv env "STORE_PATH" s.storePath
    maxInlineValueSize := getEnvInt env "MAX_INLINE_VALUE_SIZE" s.maxInlineValueSize
    logLevel := getEnv env "LOG_LEVEL" s.logLevel
    metricsAddr := getEnv env "METRICS_ADDR" s.metricsAddr
    syncMessageLimit := getEnvInt env "SYNC_MESSAGE_LIMIT" s.syncMessageLimit }
  let accounts ← match loadAccounts env with
    | .ok as => pure as
    | .error e => throw ("failed to load accounts: " ++ e)
  let s := if accounts.isEmpty then s else { s with accounts }
  pure { s with accounts := s.accounts.map fun a => if a.port = 0 then { a with port := imapsPort } else a }

/-- The settings from an environment, reading the file `CONFIG_FILE` names with `read`,
which gives the file's text or the system's reason it cannot be read. -/
def load (env : Environment) (read : String → Except String String) : Except Failure Settings :=
  let fromFile : Except String Settings :=
    let path := getEnv env "CONFIG_FILE" ""
    if path.isEmpty then .ok defaults
    else match read path with
      | .error why => .error ("failed to read config file: " ++ why)
      | .ok text => match readYaml text defaults with
        | .ok s => .ok s
        | .error e => .error ("failed to parse config file " ++ path ++ ": " ++ e)
  match fromFile >>= withEnvironment env with
  | .ok s => .ok s
  | .error e => .error (Failure.other e)

theorem getEnv_nil (key default : String) : getEnv [] key default = default := rfl

end Settings

end MailStore
