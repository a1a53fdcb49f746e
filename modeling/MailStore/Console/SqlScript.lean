import MailStore.Console.EntityScript
import MailStore.Mail.Import
import MailStore.Cli.Program
import MailStore.Path

/-!
# Scripts over a property database

An `sql` request starts from an empty property database and runs steps against it: the
writer's operations, finds, reads through the objects and tables a session opens, changes
made to the rows directly in SQL, watches on tables, the tools and the MCP server over a
fresh session, and the importer over scripted mail accounts.

Entry ids in steps are written in hexadecimal, or as `$name` for an id a step bound with
`as`. In tool arguments, MCP request objects and properties, every string `$name` is
replaced by the hexadecimal of the id bound to `name`; a name never bound makes the step a
malformed request.

After every step, each stored modification time is set to the fixed time the database's
clock shows, by a direct update that is skipped when it fails.

A `cli` step runs the command line as a separate process would: in the scenario's
directory, with the scenario's database at `STORE_PATH`, its own entry ids, and the
environment, settings file and standard input the step gives. It sees the files earlier
runs left: the databases they opened, the directories they made, the settings files.
-/

namespace MailStore

namespace Console

/-- The files command line runs see: the directories they made, the databases by path, and
the text files written for them. -/
structure Disk where
  /-- Directories made, by full path. -/
  dirs : List String
  /-- Databases, by full path. -/
  databases : List (String × Sql.Database)
  /-- Text files, by full path. -/
  texts : List (String × String)
deriving Inhabited

namespace Disk

/-- The directory runs work in, as paths show it. -/
def home : String := "<dir>"

/-- The path of the scenario's database. -/
def scenarioDb : String := home ++ "/store.db"

/-- The full path of a path given relative to the working directory. -/
def resolve (p : String) : String :=
  Path.clean (if p.startsWith "/" ∨ p.startsWith home then p else home ++ "/" ++ p)

/-- The directory part of a path. -/
def dirOf (p : String) : String := Path.dirOf p

/-- Whether a full path is a directory. -/
def isDir (d : Disk) (r : String) : Bool := r = home ∨ Path.systemDirs.contains r ∨ d.dirs.contains r

/-- Whether a full path is a file. -/
def isFile (d : Disk) (r : String) : Bool :=
  r = "/dev/null" ∨ (d.databases.lookup r).isSome ∨ (d.texts.lookup r).isSome

/-- Makes a directory and the directories above it; fails at a part that is a file. -/
def mkdirAll (d : Disk) : Nat → String → Except String Disk
  | 0, _ => .ok d
  | fuel + 1, p =>
    let r := resolve p
    if d.isDir r then .ok d
    else if d.isFile r then .error ("mkdir " ++ p ++ ": not a directory")
    else
      let cs := p.toList
      let i := (cs.reverse.dropWhile (· = '/')).length
      let j := ((cs.take i).reverse.dropWhile (· ≠ '/')).length
      let above := if j > 1 then d.mkdirAll fuel (String.ofList (cs.take (j - 1))) else .ok d
      above.map fun d => { d with dirs := r :: d.dirs }

/-- Reads a text file, failing with the system's reason; a database is a file that is not
read as text here. -/
def read (d : Disk) (p : String) : Except String String :=
  Path.read d.isDir (fun r => (d.texts.lookup r).orElse fun _ => List.lookup r Path.systemFiles)
    (fun r => (d.databases.lookup r).isSome) (resolve p) p

/-- Keeps a database at a full path. -/
def put (d : Disk) (r : String) (db : Sql.Database) : Disk :=
  { d with databases := (r, db) :: d.databases.filter (·.1 ≠ r) }

theorem put_lookup (d : Disk) (r : String) (db : Sql.Database) : (d.put r db).databases.lookup r = some db := by
  simp [put]

end Disk

/-- The state of a database script. -/
structure SqlBench where
  /-- The database. -/
  db : PropertyDb
  /-- The streams the session opened. -/
  rig : Rig
  /-- The session of the current tool or MCP step. -/
  entities : Entities
  /-- The objects the session opened, by handle. -/
  objects : Array Db.EntryRow
  /-- The tables the session opened, by handle. -/
  tables : Array DbTable
  /-- Entry ids bound to names. -/
  bindings : List (String × Bytes)
  /-- Watches bound to names. -/
  subs : List (String × Nat)
  /-- How many delivered notices were already reported. -/
  seen : Nat
  /-- The importer, when the request has accounts. -/
  importer : Option Importer
  /-- The number of the current step. -/
  stepNo : Nat
  /-- The files command line runs left. -/
  disk : Disk
  /-- The database a command line run opened, by full path. -/
  opened : Option String

instance : Rigged SqlBench := ⟨SqlBench.rig, fun s r => { s with rig := r }⟩

instance : EntityHost SqlBench := ⟨SqlBench.entities, fun s e => { s with entities := e }⟩

namespace SqlBench

/-- The time the database's clock shows: 2021-06-15T12:00:00Z. -/
def clock : Instant := Instant.normalize 1623758400 0

/-- Runs a database operation on the script's database. -/
def onDb {α : Type} (x : DbM α) : ScriptM SqlBench α := do
  let s ← get
  let (r, db) := (x.run).run s.db
  set { s with db := db }
  match r with
  | .ok a => pure a
  | .error f => throw f

/-! ### The database as a store driver -/

/-- Keeps an opened object; gives its handle. -/
def addObject (e : Db.EntryRow) : ScriptM SqlBench Nat := do
  let s ← get
  set { s with objects := s.objects.push e }
  pure s.objects.size

/-- Keeps an opened table; gives its handle. -/
def addTable (t : DbTable) : ScriptM SqlBench Nat := do
  let s ← get
  set { s with tables := s.tables.push t }
  pure s.tables.size

/-- The object of a handle. -/
def objectAt (h : Nat) : ScriptM SqlBench Db.EntryRow := do
  match (← get).objects[h]? with
  | some e => pure e
  | none => throw (Failure.other "no such object")

/-- The table of a handle. -/
def tableAt (h : Nat) : ScriptM SqlBench DbTable := do
  match (← get).tables[h]? with
  | some t => pure t
  | none => throw (Failure.other "no such table")

/-- Watches a table of the database; fails once the database is closed. -/
def watch (key : String) : ScriptM SqlBench Nat := do
  let s ← get
  if s.db.notifier.closed then throw (Failure.other "property store is closed")
  let (i, n) := s.db.notifier.watch key
  set { s with db := { s.db with notifier := n } }
  pure i

/-- Ends a watch. -/
def unwatch (i : Nat) : ScriptM SqlBench Unit :=
  modify fun s => { s with db := { s.db with notifier := s.db.notifier.unwatch i } }

/-- The database as the store of a session. -/
def driver : Driver (ScriptM SqlBench) where
  storesTable := addTable .stores
  openStore id := do addObject (← onDb (PropertyDb.openStore id))
  getProps h tags := do
    let e ← objectAt h
    onDb (PropertyDb.getProps e tags)
  openStream h t := do
    let e ← objectAt h
    let data ← onDb (PropertyDb.openStream e t)
    Script.openStream data data.length false
  streams := Script.streams
  idsOfNames h names := do
    let e ← objectAt h
    onDb (PropertyDb.idsFromNames e.store names)
  namesOfIds h tags := do
    let e ← objectAt h
    onDb (PropertyDb.namesFromIds e.store tags)
  openFolder h id := do
    let st ← objectAt h
    addObject (← onDb (PropertyDb.openChild st id Db.EntryKind.folder))
  openMessage h id := do
    let st ← objectAt h
    addObject (← onDb (PropertyDb.openChild st id Db.EntryKind.message))
  receiveFolder h := do
    let st ← objectAt h
    onDb (PropertyDb.receiveFolder st.id)
  hierarchyTable h := do addTable (.hierarchy (← objectAt h).id)
  contentsTable h := do addTable (.contents (← objectAt h).id)
  read t req := do
    let table ← tableAt t
    onDb (table.read req)
  subscribe t _ := do watch (← tableAt t).key
  unsubscribe w := unwatch w

/-! ### Names -/

/-- The id bound to a name. -/
def bound (name : String) : ScriptM SqlBench Bytes := do
  match (← get).bindings.lookup name with
  | some id => pure id
  | none => throw (badRequest ("unbound $" ++ name))

/-- Binds a name to an id, replacing an earlier binding. -/
def bind (name : String) (id : Bytes) : ScriptM SqlBench Unit :=
  modify fun s => { s with bindings := (name, id) :: s.bindings.filter (·.1 ≠ name) }

/-- Binds the name a step gives with `as`, if it gives one. -/
def bindAs (req : Json) (id : Bytes) : ScriptM SqlBench Unit := do
  match field? req "as" with
  | some (.string t) => bind t.toString id
  | _ => pure ()

/-- An entry id written as `$name` or in hexadecimal. -/
def idText (s : String) : ScriptM SqlBench Bytes :=
  if s.startsWith "$" then bound (s.drop 1).toString
  else Script.read (hexOf "id" (.str s))

/-- The entry id in a field of a step. -/
def idField (req : Json) (key : String) : ScriptM SqlBench Bytes := do
  idText (← Script.read (strField req key))

mutual
/-- A value with every string `$name` replaced by the hexadecimal of its id. -/
def substitute (b : List (String × Bytes)) : Json → Except Failure Json
  | .string t =>
    let s := t.toString
    if s.startsWith "$" then
      match b.lookup (s.drop 1).toString with
      | some id => .ok (.str (Bytes.toHex id))
      | none => .error (badRequest ("unbound " ++ s))
    else .ok (.string t)
  | .array xs => do pure (.array (← substituteItems b xs))
  | .object ms => do pure (.object (← substituteMembers b ms))
  | other => .ok other

/-- Elements with their names replaced. -/
def substituteItems (b : List (String × Bytes)) : List Json → Except Failure (List Json)
  | [] => .ok []
  | x :: rest => do pure ((← substitute b x) :: (← substituteItems b rest))

/-- Members with their names replaced. -/
def substituteMembers (b : List (String × Bytes)) :
    List (String × Json) → Except Failure (List (String × Json))
  | [] => .ok []
  | (k, v) :: rest => do pure ((k, ← substitute b v) :: (← substituteMembers b rest))
end

/-- A field of a step with its names replaced; `fallback` when absent. -/
def substituted (req : Json) (key : String) (fallback : Json) : ScriptM SqlBench Json := do
  Script.read (substitute (← get).bindings ((field? req key).getD fallback))

/-! ### Reading steps -/

/-- A property to write: an empty binary value is written as no payload. -/
def writeOf (j : Json) : Except Failure PropWrite := do
  let raw ← rawPropOf j
  match j.get? "value" with
  | some (.object ms) =>
    match ← valueOf 0 (.object ms) with
    | .binary [] => pure ⟨raw.tag, none⟩
    | _ => pure (PropWrite.ofRaw raw)
  | _ => pure (PropWrite.ofRaw raw)

/-- The properties of a step. -/
def propsArg (req : Json) : ScriptM SqlBench (List PropWrite) := do
  match ← substituted req "props" (.array []) with
  | .array xs => Script.read (xs.mapM writeOf)
  | _ => throw (badRequest "props: list expected")

/-- The named ids of a step. -/
def namesArg (req : Json) : ScriptM SqlBench (List NamedId) := do
  Script.read ((← Script.read (listField req "names")).mapM namedIdOf)

/-- The tags of a step. -/
def tagsArg (req : Json) (key : String) : ScriptM SqlBench (List Tag) := do
  Script.read ((← Script.read (listField req key)).mapM tagOf)

/-- The object a step addresses: its store, then its folder or message if it names one. -/
def objectArg (req : Json) : ScriptM SqlBench Db.EntryRow := do
  let d := driver
  let st ← d.openStore (← idField req "store")
  if (field? req "folder").isSome then objectAt (← d.openFolder st (← idField req "folder"))
  else if (field? req "message").isSome then objectAt (← d.openMessage st (← idField req "message"))
  else objectAt st

/-- The table a step addresses. -/
def tableArg (req : Json) : ScriptM SqlBench Nat := do
  let d := driver
  match ← Script.read (strField req "table") with
  | "stores" => d.storesTable
  | "hierarchy" =>
    let st ← d.openStore (← idField req "store")
    d.hierarchyTable (← d.openFolder st (← idField req "folder"))
  | "contents" =>
    let st ← d.openStore (← idField req "store")
    d.contentsTable (← d.openFolder st (← idField req "folder"))
  | other => throw (badRequest ("unknown table " ++ Quote.string other))

/-- A sort order `{"tag", "descending"}`. -/
def sortArg (j : Json) : Except Failure SortOrder := do
  let t ← match field? j "tag" with
    | some tj => tagOf tj
    | none => pure Tag.null
  pure ⟨t, ← boolField j "descending"⟩

/-- The directives of a step; none when `dirs` is absent. -/
def dirsArg (req : Json) : Except Failure Directives := do
  match field? req "dirs" with
  | none => pure Directives.none
  | some d =>
    let order ← (← listField d "order_by").mapM sortArg
    pure ⟨order, ← intField d "skip", ← intField d "take"⟩

/-- Bytes in hexadecimal. -/
def hex (b : Bytes) : Json := .str (Bytes.toHex b)

/-- A store's ids. -/
def storeIds (ids : Bytes × Bytes) : Json := .object [("store_id", hex ids.1), ("root_id", hex ids.2)]

/-! ### Mail accounts -/

/-- A list of strings in a field. -/
def stringsField (j : Json) (key : String) : Except Failure (List String) := do
  (← listField j key).mapM fun x => match x with
    | .string t => pure t.toString
    | _ => throw (badRequest (key ++ ": strings expected"))

/-- A scripted message. Its UID is read as a signed integer and taken modulo `2^32`; a
header whose value is no string is present with empty text. -/
def messageOf (j : Json) : Except Failure MailMessage := do
  let uid := ((← intField j "uid") % Int.pow 2 32).toNat
  let date ← match field? j "date" with
    | some (.string t) =>
      match Instant.parseRfc3339? t.toString with
      | some i => pure i
      | none => throw (badRequest ("invalid date " ++ Quote.string t.toString))
    | _ => pure Mail.zeroTime
  let headers := match field? j "headers" with
    | some (.object ms) => ms.reverse.map fun (k, v) => (k, stringOr v)
    | _ => []
  pure ⟨uid, ← strField j "message_id", ← strField j "subject", ← strField j "sender_name",
    ← strField j "sender_email", ← stringsField j "to", ← stringsField j "cc", date,
    ← boolField j "seen", ← strField j "body_text", ← strField j "body_html", headers⟩

/-- A scripted mailbox with its messages. -/
def mailboxOf (j : Json) : Except Failure (Mailbox × List MailMessage) := do
  let messages ← (← listField j "messages").mapM messageOf
  pure (⟨← strField j "name", ← strField j "delimiter", ← stringsField j "attributes"⟩, messages)

/-- A scripted account. -/
def accountOf (j : Json) : Except Failure MailAccount := do
  let boxes ← (← listField j "mailboxes").mapM mailboxOf
  let failClose := match field? j "fail_close" with
    | some (.string t) => some t.toString
    | _ => none
  pure ⟨← strField j "name",
    .scripted boxes (← boolField j "fail_list") (← stringsField j "fail_fetch") failClose⟩

/-- An account on an IMAP server. -/
def serverAccountOf (j : Json) : Except Failure MailAccount := do
  let port ← match field? j "port" with
    | some (.string t) => pure (Int.ofNat t.toString.length)
    | some other => intOf other
    | none => pure 0
  pure ⟨← strField j "name",
    .server (← strField j "host") port (← strField j "username") (← strField j "password")⟩

/-- The importer. -/
def importerArg : ScriptM SqlBench Importer := do
  match (← get).importer with
  | some imp => pure imp
  | none => throw (badRequest "no accounts")

/-- Runs a database operation that gives a value the importer computes. -/
def sync {α : Type} (f : Importer → DbM α) : ScriptM SqlBench α := do
  onDb (f (← importerArg))

/-! ### Tools -/

/-- The tools of a fresh session, with the sync tool when there is an importer. -/
def tools : ScriptM SqlBench (Registry (ScriptM SqlBench)) := do
  let extra : List (ToolEntry (ScriptM SqlBench)) := match (← get).importer with
    | some imp => [⟨Importer.toolName, Importer.toolDescription, imp.toolSchema,
        fun args => do pure (.ok (← onDb (imp.runTool args)))⟩]
    | none => []
  pure (Registry.ofDriver driver extra)

/-- Runs work on a fresh session that is closed afterwards. -/
def withSession {α : Type} (x : ScriptM SqlBench α) : ScriptM SqlBench α := do
  modify fun s => { s with entities := Entities.empty }
  tryFinally x (discard (Entities.close driver))

/-! ### Watches -/

/-- A notice as the answers show it. -/
def noticeJson (n : Notice) : Json :=
  .object [("type", .str n.kind.name), ("entry_id", hex n.entry)]

/-- The notices delivered since the last report, grouped by the name of their watch. -/
def report : ScriptM SqlBench Json := do
  let s ← get
  let fresh := s.db.notifier.delivered.drop s.seen
  set { s with seen := s.db.notifier.delivered.length }
  let groups := s.subs.reverse.filterMap fun (name, w) =>
    match (fresh.filter fun (i, _) => i = w).map Prod.snd with
    | [] => none
    | ns => some (name, Json.array (ns.map noticeJson))
  pure (.object groups)

/-! ### The command line -/

/-- The time command line runs take as now: 2026-01-01T00:00:00Z. -/
def cliNow : Instant := Instant.normalize 1767225600 0

/-- The values of the placeholders in a step's environment and settings file. -/
def placeholders : List (String × String) :=
  [("$db", Disk.scenarioDb), ("$dir", Disk.home), ("$metrics", "127.0.0.1:9464"),
   ("$tls", "9931"), ("$mismatch", "9932"), ("$untrusted", "9933"), ("$plain", "9934")]

/-- A text with its placeholders filled in. -/
def fillIn (text : String) : String := placeholders.foldl (fun t (k, v) => t.replace k v) text

/-- Opens the database at a path for a command line run: makes its directory, refuses a
directory, and applies the schema to the database found there or to a new one. -/
def openAt (path : String) (maxInline : Nat) : ScriptM SqlBench Unit := do
  let s ← get
  let disk ← match s.disk.mkdirAll (path.length + 1) (Disk.dirOf path) with
    | .ok d => pure d
    | .error e => throw (Failure.other ("failed to create store directory: " ++ e))
  let r := Disk.resolve path
  if disk.isDir r then
    throw (Failure.other "failed to enable foreign keys: unable to open database file: out of memory (14)")
  let (conn, failed) := Db.openConnection ((disk.databases.lookup r).getD Sql.Database.empty)
  match failed with
  | some f => throw (Failure.other ("failed to initialize schema: " ++ f.text))
  | none => pure ()
  let db := PropertyDb.openOn conn (0xC0000000 + s.stepNo) clock maxInline
  set { s with disk := disk.put r conn.db, db, opened := some r }

/-- What the command line needs of a script. -/
def host : Cli.Host SqlBench := ⟨driver, onDb, openAt, cliNow⟩

/-- Runs the command line as a separate process: its own session and database connection,
the scenario's database among the files it can open. -/
def runCli (inv : Cli.Invocation) : ScriptM SqlBench Cli.Outcome := do
  let saved ← get
  let disk := saved.disk.put Disk.scenarioDb saved.db.data
  set { saved with disk, entities := Entities.empty, objects := #[], tables := #[], opened := none }
  let outcome ← tryCatch (Cli.run host inv) fun f => pure ⟨1, "", f.message ++ "\n"⟩
  let after ← get
  let disk := match after.opened with
    | some r => after.disk.put r after.db.data
    | none => after.disk
  let data := (disk.databases.lookup Disk.scenarioDb).getD saved.db.data
  let db := { saved.db with conn := { saved.db.conn with db := data } }
  let disk := { disk with databases := disk.databases.filter (·.1 ≠ Disk.scenarioDb) }
  set { saved with db, disk }
  pure outcome

/-- The environment of a step, names sorted, with placeholders filled in. -/
def cliEnvironment (req : Json) : Except Failure (List (String × String)) := do
  match field? req "env" with
  | none => pure []
  | some (.object ms) =>
    let vars ← ms.mapM fun (k, v) => match v with
      | .string t => pure (k, fillIn t.toString)
      | _ => throw (badRequest ("env." ++ k ++ ": string expected"))
    pure (vars.mergeSort fun a b => decide (a.1 ≤ b.1))
  | some _ => throw (badRequest "env: object expected")

/-- The answer to a command line run: exit status, standard output, and the lines of
standard error that are not empty and not log records. -/
def outcomeJson (o : Cli.Outcome) : Json :=
  .object [("exit", .nat o.exit), ("stdout", .str o.stdout),
    ("stderr", .array (((o.stderr.splitOn "\n").filter fun l => l ≠ "" ∧ !l.startsWith "\x7b").map Json.str))]

/-- Runs the command line as a step asks. -/
def cliStep (req : Json) : ScriptM SqlBench Json := do
  let args ← Script.read (stringsField req "args")
  let vars ← Script.read (cliEnvironment req)
  let config ← match field? req "config" with
    | some (.string t) => pure (some (fillIn t.toString))
    | some _ => throw (badRequest "config: string expected")
    | none => pure none
  let lines ← Script.read (listField req "stdin")
  let stdin := String.join (lines.map fun l => match l with
    | .string t => t.toString ++ "\n"
    | other => other.render ++ "\n")
  let configPath := Disk.home ++ "/config.yaml"
  match config with
  | some text => modify fun s =>
      let texts := (configPath, text) :: s.disk.texts.filter (·.1 ≠ configPath)
      { s with disk := { s.disk with texts } }
  | none => pure ()
  let base := [("STORE_PATH", Disk.scenarioDb), ("ORACLE_UUID_PREFIX", "00000000" ++ Bytes.toHex (Bytes.ofNatBE 4 (0xC0000000 + (← get).stepNo)))] ++
    (if config.isSome then [("CONFIG_FILE", configPath)] else [])
  let env := (base ++ vars).reverse
  let disk := (← get).disk
  let read := fun path => disk.read path
  pure (outcomeJson (← runCli ⟨args, env, read, stdin⟩))

/-! ### Steps -/

/-- The direct update that sets every modification time to the clock's time. -/
def pinText : String :=
  "UPDATE props SET value = X'" ++ Bytes.toHex (Bytes.ofNatLE 8 (Instant.toFileTime clock).toNat) ++ "' WHERE prop_id = " ++
    toString Tag.lastModified.id.toNat

/-- Sets every stored modification time to the clock's time, unless that fails. -/
def pin : ScriptM SqlBench Unit :=
  modify fun s =>
    match (Sql.Connection.connect s.db.data false).runScript pinText with
    | (c, none) => { s with db := { s.db with conn := { s.db.conn with db := c.db } } }
    | (_, some _) => s

/-- Runs one step. -/
def step (req : Json) : ScriptM SqlBench Json := do
  let d := driver
  match ← Script.read (strField req "do") with
  | "create_store" =>
    let name ← Script.read (strField req "name")
    let ids ← onDb (PropertyDb.createStore name)
    match field? req "as" with
    | some (.string t) =>
      bind t.toString ids.1
      bind (t.toString ++ ".root") ids.2
    | _ => pure ()
    pure (storeIds ids)
  | "create_folder" =>
    let parent ← idField req "parent"
    let name ← Script.read (strField req "name")
    let cls ← Script.read (strField req "class")
    let id ← onDb (PropertyDb.createFolder parent name cls)
    bindAs req id
    pure (hex id)
  | "create_message" =>
    let folder ← idField req "folder"
    let props ← propsArg req
    let id ← onDb (PropertyDb.createMessage folder props)
    bindAs req id
    pure (hex id)
  | "set_props" =>
    let id ← idField req "id"
    let props ← propsArg req
    onDb (PropertyDb.setProps id props)
    pure .null
  | "delete" =>
    onDb (PropertyDb.deleteEntry (← idField req "id"))
    pure .null
  | "set_receive_folder" =>
    onDb (PropertyDb.setReceiveFolder (← idField req "folder"))
    pure .null
  | "register_names" =>
    let store ← idField req "store"
    let names ← namesArg req
    pure (.array ((← onDb (PropertyDb.registerNames store names)).map tag))
  | "find_store" =>
    let name ← Script.read (strField req "name")
    let ids ← onDb (PropertyDb.findStore name)
    match field? req "as" with
    | some (.string t) =>
      bind t.toString ids.1
      bind (t.toString ++ ".root") ids.2
    | _ => pure ()
    pure (storeIds ids)
  | "find_child_folder" =>
    let parent ← idField req "parent"
    let name ← Script.read (strField req "name")
    let id ← onDb (PropertyDb.findChildFolder parent name)
    bindAs req id
    pure (hex id)
  | "find_message" =>
    let folder ← idField req "folder"
    let t ← Script.read (tagOf ((field? req "tag").getD (.number "0")))
    let value ← Script.read (hexField req "value")
    let id ← onDb (PropertyDb.findMessage folder t value)
    bindAs req id
    pure (hex id)
  | "open" =>
    discard (objectArg req)
    pure (.str "ok")
  | "get_props" =>
    let e ← objectArg req
    let tags ← match field? req "tags" with
      | some _ => some <$> tagsArg req "tags"
      | none => pure none
    pure (.array ((← onDb (PropertyDb.getProps e tags)).map rawProp))
  | "open_stream" =>
    let e ← objectArg req
    let t ← Script.read (tagOf ((field? req "tag").getD (.number "0")))
    pure (value (some (.binary (← onDb (PropertyDb.openStream e t)))))
  | "ids_from_names" =>
    let st ← objectAt (← d.openStore (← idField req "store"))
    let names ← namesArg req
    pure (.array ((← onDb (PropertyDb.idsFromNames st.store names)).map tag))
  | "names_from_ids" =>
    let st ← objectAt (← d.openStore (← idField req "store"))
    let tags ← tagsArg req "tags"
    pure (.array ((← onDb (PropertyDb.namesFromIds st.store tags)).map (Json.opt namedId)))
  | "receive_folder" =>
    let st ← objectAt (← d.openStore (← idField req "store"))
    let id ← onDb (PropertyDb.receiveFolder st.id)
    pure (if id.isEmpty then .null else hex id)
  | "read_table" =>
    let t ← tableArg req
    let columns ← tagsArg req "columns"
    let sorts ← Script.read ((← Script.read (listField req "sorts")).mapM sortArg)
    let dirs ← Script.read (dirsArg req)
    let rows ← d.read t ⟨columns, sorts, dirs⟩
    pure (.array (rows.map fun r => .array (r.map rawProp)))
  | "tool" =>
    let name ← Script.read (strField req "name")
    let args ← substituted req "args" (.object [])
    let args := match args with
      | .object ms => Json.object ms
      | _ => .object []
    withSession do
      match ← (← tools).call d name args with
      | .ok j => pure j
      | .error e => throw (Failure.other ("failed to encode result: " ++ e))
  | "mcp" =>
    let lines ← Script.read (listField req "lines")
    let b := (← get).bindings
    let texts ← Script.read (lines.mapM fun l => match l with
      | .string t => .ok t.toString
      | other => do pure (← substitute b other).render)
    withSession do
      let (responses, stop) ← Mcp.serve d (← tools) "test" ("\n".intercalate texts)
      pure (.object [("responses", if responses.isEmpty then .null else .array responses),
      ("serve_error", Json.opt Json.str stop.error?)])
  | "sync" =>
    let account ← Script.read (strField req "account")
    let mailbox ← Script.read (strField req "mailbox")
    pure (← sync fun imp => imp.syncAccount account mailbox).toJson
  | "sync_all" => pure (.array ((← sync Importer.syncAll).map SyncResult.toJson))
  | "accounts" => pure (.array ((← importerArg).names.map Json.str))
  | "close_importer" =>
    match (← importerArg).close with
    | some f => throw f
    | none => pure .null
  | "close_db" =>
    modify fun s =>
      let notifier := { s.db.notifier with closed := true }
      { s with db := { s.db with closed := true, notifier := notifier } }
    pure .null
  | "uuid_seek" =>
    let next ← Script.read (intField req "next")
    modify fun s => { s with db := { s.db with ids := { s.db.ids with next := next.toNat } } }
    pure .null
  | "raw_sql" =>
    let text ← Script.read (strField req "sql")
    let (c, failed) := (Sql.Connection.connect (← get).db.data false).runScript text
    let data := c.began.getD c.db
    modify fun s => { s with db := { s.db with conn := { s.db.conn with db := data } } }
    match failed with
    | some f => throw (Failure.other f.text)
    | none => pure .null
  | "subscribe" =>
    let name ← Script.read (strField req "as")
    let t ← tableArg req
    let w ← d.subscribe t .stores
    modify fun s => { s with subs := (name, w) :: s.subs.filter (·.1 ≠ name) }
    pure .null
  | "unsubscribe" =>
    let name ← Script.read (strField req "sub")
    match (← get).subs.lookup name with
    | some w =>
      unwatch w
      pure .null
    | none => throw ⟨.unknownName, "no subscription " ++ Quote.string name⟩
  | "notifications" => report
  | "cli" => cliStep req
  | other => throw (badRequest ("unknown step " ++ Quote.string other))

/-- A script's state before its first step: an empty database with an inline limit (zero
for the default), and the importer. -/
def start (maxInline : Nat) (importer : Option Importer) : SqlBench :=
  ⟨PropertyDb.create 0 clock maxInline, Rig.empty, Entities.empty, #[], #[], [], [], 0, importer, 0,
    ⟨[], [], []⟩, none⟩

/-- Runs a step, then sets the modification times. -/
def run (req : Json) : ScriptM SqlBench Json := do
  tryFinally (step req) do
    pin
    modify fun s => { s with stepNo := s.stepNo + 1 }

end SqlBench

/-- The answer to an `sql` request. -/
def sqlRequest (req : Json) : Except Failure Json := do
  let maxInline ← intField req "max_inline"
  let limit ← match field? req "sync_limit" with
    | some j => intOf j
    | none => pure 100
  let accounts ← (← listField req "accounts").mapM SqlBench.accountOf
  let servers ← (← listField req "imap_accounts").mapM SqlBench.serverAccountOf
  let importer := if (field? req "accounts").isNone ∧ (field? req "imap_accounts").isNone then none
    else some ⟨accounts ++ servers, limit.toNat⟩
  let steps ← listField req "steps"
  let start := SqlBench.start maxInline.toNat importer
  pure (.array (Script.answerSteps SqlBench.run (fun _ _ => []) steps start).1)

end Console

end MailStore
