import MailStore.Cli.Command
import MailStore.Settings.Load
import MailStore.Mail.Import
import MailStore.Mcp.Server
import MailStore.Net.ListenAddress
import MailStore.Time.Relative
import MailStore.Entity.Query

/-!
# The command line

A run of the command line reads its arguments, then, for the commands that work on the
property database, sets itself up:

1. loads the settings from the environment and the settings file
   (`failed to load configuration: …`) and checks them (`invalid configuration: …`);
2. opens the property database at the settings' path with their inline limit
   (`failed to open property store: …`);
3. makes an importer of the settings' mail accounts, when there are any.

Then:

* `dump` prints each store as `Name [id]` and below it the folders of its IPM subtree,
  breadth first, each indented two spaces per level as `Name (N items, M unread)` with
  the special folder it is; with `--items`, each folder's items follow as
  `- subject | sender | when`, `when` being the delivery time relative to now, or `-`;
* `serve` answers MCP requests from standard input with the query tools (and the sync tool
  when there is an importer), after checking the metrics address when one is set;
* `sync` imports every account, or the one `--account` names (only the mailbox
  `--mailbox` names, when given), and prints the results as indented JSON.

A failure ends the run with status 1 and its message on standard error; what was printed
before stays printed.

## Main definitions

* `Cli.Host`: what the command line needs from where it runs.
* `Cli.run`: a whole run: standard output, standard error and exit status.
-/

namespace MailStore

namespace Cli

/-- What a run printed and how it ended. -/
structure Outcome where
  /-- The exit status. -/
  exit : Nat
  /-- What went to standard output. -/
  stdout : String
  /-- What went to standard error. -/
  stderr : String
deriving DecidableEq, Repr

/-- What a run is given: its arguments, its environment, the files it can read, and its
standard input. -/
structure Invocation where
  /-- The arguments. -/
  args : List String
  /-- The environment. -/
  env : Settings.Environment
  /-- The text of a file, by path, or the system's reason it cannot be read. -/
  read : String → Except String String
  /-- Standard input. -/
  stdin : String

/-- What the command line needs from where it runs: the store driver of a session, a way to
run database operations, a way to open the database at a path with an inline limit, and
the time now. -/
structure Host (σ : Type) where
  /-- The store driver. -/
  driver : Driver (EntityM σ)
  /-- Runs an operation on the open database. -/
  onDb : {α : Type} → DbM α → EntityM σ α
  /-- Opens the database at a path with an inline limit; fails with why it cannot. -/
  openStore : String → Nat → EntityM σ Unit
  /-- The time now. -/
  now : Instant

variable {σ : Type} [EntityHost σ]

/-- The importer of the accounts the settings give. -/
def importerOf (s : Settings) : Option Importer :=
  if s.accounts.isEmpty then none
  else some ⟨s.accounts.map fun a => ⟨a.name, .server a.host a.port a.username a.password⟩,
    s.syncMessageLimit.toNat⟩

/-- Sets up a run: settings, database and importer. -/
def setUp (h : Host σ) (inv : Invocation) : EntityM σ (Settings × Option Importer) := do
  let s ← match Settings.load inv.env inv.read with
    | .ok s => pure s
    | .error f => throw (f.wrap "failed to load configuration")
  if let some p := s.validate then throw (Failure.other ("invalid configuration: " ++ p.message))
  tryCatch (h.openStore s.storePath s.maxInlineValueSize.toNat) fun f =>
    throw (f.wrap "failed to open property store")
  modify fun st => EntityHost.setEntities st Entities.empty
  pure (s, importerOf s)

/-- Runs work that prints, keeping what it printed when it fails. -/
def keeping (out : String) (x : EntityM σ String) : EntityM σ (String × Option Failure) :=
  tryCatch (do pure (← x, none)) fun f => pure (out, some f)

/-! ### dump -/

/-- The line of a folder, indented for its depth. -/
def folderLine (h : Host σ) (indent : String) (f : FolderRef) : EntityM σ String := do
  let fs ← Entities.folder f
  let special ← tryCatch (f.specialFolder h.driver .stored) fun _ => pure none
  pure (indent ++ (Row.text fs.columns 2).toString ++ " (" ++ toString (Row.long fs.columns 4) ++
    " items, " ++ toString (Row.long fs.columns 5) ++ " unread)" ++
    (match special with
      | some k => " " ++ k.name
      | none => "") ++ "\n")

/-- The lines of a folder's items. -/
def itemLines (h : Host σ) (indent : String) (f : FolderRef) : EntityM σ String := do
  let items ← f.items h.driver none Directives.none
  let lines ← items.mapM fun i => do
    let s ← Entities.item i
    let when := match Row.time? s.columns 7 with
      | some t => t.relativeTo h.now
      | none => "-"
    pure (indent ++ "  - " ++ (Row.text s.columns 2).toString ++ " | " ++
      (Row.text s.columns 3).toString ++ " | " ++ when ++ "\n")
  pure (String.join lines)

/-- Prints folders at their depths, given the depths of the folders seen. -/
def dumpFolders (h : Host σ) (items : Bool) :
    List (Bytes × Nat) → List FolderRef → String → EntityM σ (String × Option Failure)
  | _, [], out => pure (out, none)
  | depths, f :: rest, out => do
    let fs ← Entities.folder f
    let d := ((depths.lookup fs.parentId).getD 0) + 1
    let indent := String.ofList (List.replicate (2 * d) ' ')
    let out := out ++ (← folderLine h indent f)
    let (out, failed) ← if items then keeping out (do pure (out ++ (← itemLines h indent f)))
      else pure (out, none)
    match failed with
    | some e => pure (out, some e)
    | none => dumpFolders h items ((fs.id, d) :: depths) rest out

/-- Runs work and gives its failure as a value. -/
def attempt {α : Type} (x : EntityM σ α) : EntityM σ (Except Failure α) :=
  tryCatch (do pure (.ok (← x))) fun f => pure (.error f)

/-- Prints the stores, their folders and, when asked, their items. -/
def dumpStores (h : Host σ) (items : Bool) : List StoreRef → String → EntityM σ (String × Option Failure)
  | [], out => pure (out, none)
  | r :: rest, out => do
    let s ← Entities.store r
    let out := out ++ s.name.toString ++ " [" ++ Bytes.toHex s.id ++ "]\n"
    match ← attempt (do pure (← r.rootId h.driver, ← r.folderHierarchy h.driver [] false)) with
    | .error e => pure (out, some e)
    | .ok (root, folders) =>
      let (out, failed) ← dumpFolders h items [(root, 0)] folders out
      match failed with
      | some e => pure (out, some e)
      | none =>
        Entities.clearCaches h.driver
        dumpStores h items rest out

/-- The `dump` command: what it printed, and its failure if it failed. -/
def dump (h : Host σ) (items : Bool) : EntityM σ (String × Option Failure) := do
  let r ← match ← attempt (Entities.stores h.driver none Directives.none) with
    | .error e => pure ("", some e)
    | .ok stores => dumpStores h items stores ""
  discard (Entities.close h.driver)
  pure r

/-! ### serve and sync -/

/-- The tools served: the query tools, and the sync tool when there is an importer. -/
def tools (h : Host σ) (importer : Option Importer) : Registry (EntityM σ) :=
  let extra : List (ToolEntry (EntityM σ)) := match importer with
    | some imp => [⟨Importer.toolName, Importer.toolDescription, imp.toolSchema,
        fun args => do pure (.ok (← h.onDb (imp.runTool args)))⟩]
    | none => []
  Registry.ofDriver h.driver extra

/-- The `serve` command: the answers, one JSON line each, and why serving stopped early. -/
def serve (h : Host σ) (s : Settings) (importer : Option Importer) (stdin : String) :
    EntityM σ (String × Option Failure) := do
  if !s.metricsAddr.isEmpty then
    if let .error f := ListenAddress.check s.metricsAddr then return ("", some f)
  let (answers, stop) ← Mcp.serve h.driver (tools h importer) version stdin
  discard (Entities.close h.driver)
  let out := String.join (answers.map fun a => a.sortKeys.render ++ "\n")
  pure (out, stop.error?.map Failure.other)

/-- The `sync` command: the results as indented JSON. -/
def sync (h : Host σ) (importer : Option Importer) (account mailbox : String) : EntityM σ String := do
  let some imp := importer | throw (Failure.other "no accounts configured")
  let results ← if account.isEmpty then do
      if !mailbox.isEmpty then throw (Failure.other "--mailbox needs --account")
      h.onDb imp.syncAll
    else do
      let r ← h.onDb (imp.syncAccount account mailbox)
      pure [r]
  pure (Json.renderIndented "" (.array (results.map SyncResult.toJson)) ++ "\n")

/-! ### A whole run -/

/-- The outcome of work that printed and may have failed. -/
def finish (printed : String × Option Failure) : Outcome :=
  match printed with
  | (out, none) => ⟨0, out, ""⟩
  | (out, some f) => ⟨1, out, f.message ++ "\n"⟩

/-- A whole run of the command line. -/
def run (h : Host σ) (inv : Invocation) : EntityM σ Outcome := do
  let work (x : Settings → Option Importer → EntityM σ (String × Option Failure)) :
      EntityM σ Outcome := do
    match ← attempt (setUp h inv) with
    | .error f => pure (finish ("", some f))
    | .ok (s, importer) => pure (finish (← x s importer))
  match Action.ofArgs inv.args with
  | .print text => pure ⟨0, text, ""⟩
  | .printError text => pure ⟨0, "", text⟩
  | .fail message => pure ⟨1, "", message ++ "\n"⟩
  | .completion _ => pure ⟨0, "", ""⟩
  | .dump items => work fun _ _ => dump h items
  | .serve => work fun s importer => serve h s importer inv.stdin
  | .sync account mailbox => work fun _ importer => keeping "" (sync h importer account mailbox)

theorem finish_ok (out : String) : finish (out, none) = ⟨0, out, ""⟩ := rfl

end Cli

end MailStore
