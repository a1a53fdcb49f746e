import MailStore.Console.Request
import MailStore.Settings.Load
import MailStore.Path

/-!
# Settings requests

A `config` request loads settings from an environment it gives (`env`, nothing else
set), with a settings file when it gives the file's text (`yaml`) or asks for a file that
does not exist (`missing_file`). The file is known by the name `<config>`, which is how
failures show its path.

The answer shows the loaded settings, every account with its fields, the account names,
the first problem `validate` finds (or `null`), and, when the request names an account in
`lookup`, that account's host or the failure of looking it up. A failure to load is the
answer's failure.
-/

namespace MailStore

namespace Console

/-- The name the settings file is known by. -/
def settingsFilePath : String := "<config>"

/-- The environment a request gives: the string members of its `env` object, a later
variable over an earlier one of the same name; members that are no strings are not set. -/
def environmentField (req : Json) : Settings.Environment :=
  match req.get? "env" with
  | some (.object members) =>
    members.reverse.filterMap fun (k, v) => match v with
      | .string t => some (k, t.toString)
      | _ => none
  | _ => []

/-- An account as the answer shows it. -/
def accountJson (a : AccountSettings) : Json :=
  .object [("name", .str a.name), ("imap_host", .str a.host), ("imap_port", .int a.port),
    ("imap_username", .str a.username), ("imap_password", .str a.password)]

/-- Settings as the answer shows them. -/
def settingsJson (s : Settings) : List (String × Json) :=
  [("store_path", .str s.storePath), ("max_inline_value_size", .int s.maxInlineValueSize),
   ("log_level", .str s.logLevel), ("metrics_addr", .str s.metricsAddr),
   ("sync_message_limit", .int s.syncMessageLimit),
   ("accounts", .array (s.accounts.map accountJson)),
   ("account_names", .array (s.accountNames.map Json.str)),
   ("validate", Json.opt (fun p => Json.str p.message) s.validate)]

/-- The answer to a `config` request. Members of the wrong shape count as absent: `yaml`
and `lookup` have to be strings, `missing_file` a boolean. -/
def settingsRequest (req : Json) : Except Failure Json := do
  let env := environmentField req
  let missing := match req.get? "missing_file" with
    | some (.bool b) => b
    | _ => false
  let yaml := (req.get? "yaml").bind Json.str?
  let lookup := (req.get? "lookup").bind Json.str?
  let env := if yaml.isSome || missing then (("CONFIG_FILE", settingsFilePath) :: env) else env
  let read := fun path => if path = settingsFilePath then
      match yaml with
      | some text => .ok text
      | none => .error ("open " ++ path ++ ": no such file or directory")
    else Path.readSystem path
  let s ← Settings.load env read
  let found := match lookup with
    | none => []
    | some name => [("lookup", match s.account? name with
      | .ok a => Json.str a.host
      | .error f => failed f)]
  pure (.object (settingsJson s ++ found))

end Console

end MailStore
