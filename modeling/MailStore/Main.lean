import MailStore.Console.SqlScript

/-!
# The `mapi-bridge` command line

Runs the command line over a property database held in memory, which starts empty: reads
the arguments, the environment variables the settings use, the settings file that
`CONFIG_FILE` names and standard input, then writes what the run printed and exits with
its status.
-/

namespace MailStore

namespace Cli

/-- The environment variables the settings read, apart from the numbered accounts. -/
def settingVariables : List String :=
  ["STORE_PATH", "CONFIG_FILE", "MAX_INLINE_VALUE_SIZE", "LOG_LEVEL", "METRICS_ADDR",
   "SYNC_MESSAGE_LIMIT", "IMAP_HOST", "IMAP_PORT", "IMAP_USERNAME", "IMAP_PASSWORD",
   "ACCOUNT_NAME"]

/-- The variables of one numbered account. -/
def accountVariables (n : Nat) : List String :=
  ["NAME", "IMAP_HOST", "IMAP_PORT", "IMAP_USERNAME", "IMAP_PASSWORD"].map fun k =>
    "ACCOUNT_" ++ toString n ++ "_" ++ k

/-- The values of the variables that are set. -/
def lookupAll (names : List String) : IO (List (String × String)) :=
  names.filterMapM fun k => do return (← IO.getEnv k).map fun v => (k, v)

/-- The variables of the numbered accounts from `n` on, up to the first without a name. -/
partial def numberedAccounts (n : Nat) : IO (List (String × String)) := do
  match ← IO.getEnv ("ACCOUNT_" ++ toString n ++ "_NAME") with
  | some name =>
    if name.isEmpty then return []
    return (← lookupAll (accountVariables n)) ++ (← numberedAccounts (n + 1))
  | none => return []

/-- Everything standard input holds. -/
partial def readAll (stream : IO.FS.Stream) (acc : String) : IO String := do
  let line ← stream.getLine
  if line.isEmpty then return acc
  readAll stream (acc ++ line)

end Cli

end MailStore

open MailStore in
/-- Runs the command line. -/
def main (args : List String) : IO UInt32 := do
  let env := (← Cli.lookupAll Cli.settingVariables) ++ (← Cli.numberedAccounts 1)
  let configText : Except String String ← match env.lookup "CONFIG_FILE" with
    | some path =>
      try (.ok <$> IO.FS.readFile path)
        catch e => match e with
          | .inappropriateType .. => pure (.error ("read " ++ path ++ ": is a directory"))
          | .noFileOrDirectory .. => pure (.error ("open " ++ path ++ ": no such file or directory"))
          | _ => pure (.error ("open " ++ path ++ ": " ++ toString e))
    | none => pure (.error "no such file or directory")
  let read := fun p => if env.lookup "CONFIG_FILE" = some p then configText
    else .error ("open " ++ p ++ ": no such file or directory")
  let stdin ← Cli.readAll (← IO.getStdin) ""
  let bench := Console.SqlBench.start 0 none
  let (result, _) := (Console.SqlBench.runCli ⟨args, env, read, stdin⟩).run.run bench
  let outcome := match result with
    | .ok o => o
    | .error f => ⟨1, "", f.message ++ "\n"⟩
  IO.print outcome.stdout
  IO.eprint outcome.stderr
  return outcome.exit.toUInt32
