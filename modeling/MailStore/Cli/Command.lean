import MailStore.Text.Quote
import MailStore.Text.Case

/-!
# The command tree of the command line

The command line `mapi-bridge` has three commands of its own, `serve`, `sync` (with the
options `--account` and `--mailbox`) and `dump` (with `--items`), and two that every such
tool has: `help`, and `completion` with one command per shell. Every command takes `-h`
and `--help`; the top command also takes `-v` and `--version`.

Reading the arguments happens in two passes:

* **finding the command**: walk down the tree by the words that are not options, skipping
  the value after an option that may take one (the options of a command are known here
  only as far as it declares them itself);
* **reading the options** of the command found: long options `--name`, `--name=value`,
  `--name value`; short ones `-n`, grouped `-abc`, `-nvalue`, `-n=value`; `--` ends the
  options; other words are the command's arguments.

Then `--help` shows the command's help, `--version` the version, a command that does
nothing itself shows its help, a command that takes no arguments refuses any, and the rest
runs. Help goes to standard output; failures are reported by the caller.

## Main definitions

* `Cli.Command`: the commands, with their names, descriptions and options.
* `Cli.Command.helpText`, `Cli.Command.usageText`: the help and usage texts.
* `Cli.Action.ofArgs`: what a list of arguments asks for.
-/

namespace MailStore

namespace Cli

/-- The version the command line reports. -/
def version : String := "dev"

/-- An option of a command. -/
structure Flag where
  /-- The long name. -/
  name : String
  /-- The one-letter name, if any. -/
  shorthand : Option Char
  /-- Whether it is a switch (otherwise it takes a text). -/
  isBool : Bool
  /-- What it does. -/
  usage : String
deriving DecidableEq, Repr

/-- The commands. -/
inductive Command where
  | root | serve | sync | dump | help | completion | bash | zsh | fish | powershell
deriving DecidableEq, Repr

namespace Command

/-- A command's name. -/
def name : Command → String
  | .root => "mapi-bridge"
  | .serve => "serve"
  | .sync => "sync"
  | .dump => "dump"
  | .help => "help"
  | .completion => "completion"
  | .bash => "bash"
  | .zsh => "zsh"
  | .fish => "fish"
  | .powershell => "powershell"

/-- The command a command belongs to. -/
def parent? : Command → Option Command
  | .root => none
  | .serve | .sync | .dump | .help | .completion => some .root
  | .bash | .zsh | .fish | .powershell => some .completion

/-- A command's commands, in the order they were added. -/
def children : Command → List Command
  | .root => [.serve, .sync, .dump, .help, .completion]
  | .completion => [.bash, .zsh, .fish, .powershell]
  | _ => []

/-- The names of a command's commands, sorted, and the commands. -/
def sortedChildren (c : Command) : List Command :=
  c.children.mergeSort fun a b => decide (a.name ≤ b.name)

/-- The words that lead to a command. -/
def path (c : Command) : String :=
  match c.parent? with
  | none => c.name
  | some .root => Command.root.name ++ " " ++ c.name
  | some p => Command.root.name ++ " " ++ p.name ++ " " ++ c.name

/-- The name of the tool as a shell sees it. -/
def tool : String := Command.root.name

/-- A command's one-line description. -/
def short : Command → String
  | .root => "Query MAPI-style property stores over MCP"
  | .serve => "Serve the query tools over stdio"
  | .sync => "Import IMAP accounts into the property store"
  | .dump => "Print the stores and folder trees of the property store"
  | .help => "Help about any command"
  | .completion => "Generate the autocompletion script for the specified shell"
  | .bash => "Generate the autocompletion script for bash"
  | .zsh => "Generate the autocompletion script for zsh"
  | .fish => "Generate the autocompletion script for fish"
  | .powershell => "Generate the autocompletion script for powershell"

/-- A command's longer description; empty when it has none. -/
def long : Command → String
  | .help => "Help provides help for any command in the application.\nSimply type " ++ tool ++
      " help [path to command] for full details."
  | .completion => "Generate the autocompletion script for " ++ tool ++
      " for the specified shell.\nSee each sub-command's help for details on how to use the generated script.\n"
  | .bash => "Generate the autocompletion script for the bash shell.\n\n" ++
      "This script depends on the 'bash-completion' package.\n" ++
      "If it is not installed already, you can install it via your OS's package manager.\n\n" ++
      "To load completions in your current shell session:\n\n\tsource <(" ++ tool ++
      " completion bash)\n\nTo load completions for every new session, execute once:\n\n" ++
      "#### Linux:\n\n\t" ++ tool ++ " completion bash > /etc/bash_completion.d/" ++ tool ++
      "\n\n#### macOS:\n\n\t" ++ tool ++ " completion bash > $(brew --prefix)/etc/bash_completion.d/" ++
      tool ++ "\n\nYou will need to start a new shell for this setup to take effect.\n"
  | .zsh => "Generate the autocompletion script for the zsh shell.\n\n" ++
      "If shell completion is not already enabled in your environment you will need\n" ++
      "to enable it.  You can execute the following once:\n\n" ++
      "\techo \"autoload -U compinit; compinit\" >> ~/.zshrc\n\n" ++
      "To load completions in your current shell session:\n\n\tsource <(" ++ tool ++
      " completion zsh)\n\nTo load completions for every new session, execute once:\n\n" ++
      "#### Linux:\n\n\t" ++ tool ++ " completion zsh > \"$\x7bfpath[1]\x7d/_" ++ tool ++
      "\"\n\n#### macOS:\n\n\t" ++ tool ++
      " completion zsh > $(brew --prefix)/share/zsh/site-functions/_" ++ tool ++
      "\n\nYou will need to start a new shell for this setup to take effect.\n"
  | .fish => "Generate the autocompletion script for the fish shell.\n\n" ++
      "To load completions in your current shell session:\n\n\t" ++ tool ++
      " completion fish | source\n\nTo load completions for every new session, execute once:\n\n\t" ++
      tool ++ " completion fish > ~/.config/fish/completions/" ++ tool ++
      ".fish\n\nYou will need to start a new shell for this setup to take effect.\n"
  | .powershell => "Generate the autocompletion script for powershell.\n\n" ++
      "To load completions in your current shell session:\n\n\t" ++ tool ++
      " completion powershell | Out-String | Invoke-Expression\n\n" ++
      "To load completions for every new session, add the output of the above command\n" ++
      "to your powershell profile.\n"
  | _ => ""

/-- How a command is written in its usage line, after its parent's path. -/
def use : Command → String
  | .help => "help [command]"
  | c => c.name

/-- Whether a command does something itself (otherwise it only holds commands). -/
def runnable : Command → Bool
  | .root | .completion => false
  | _ => true

/-- Whether a command refuses arguments. -/
def takesNoArgs : Command → Bool
  | .root | .help => false
  | _ => true

/-- Whether a command's usage line leaves out `[flags]`. -/
def plainUseLine : Command → Bool
  | .bash | .zsh | .fish | .powershell => true
  | _ => false

/-- The options a command declares itself. -/
def declaredFlags : Command → List Flag
  | .sync => [⟨"account", none, false, "sync only this account"⟩,
      ⟨"mailbox", none, false, "sync only this mailbox of --account"⟩]
  | .dump => [⟨"items", none, true, "list the items of every folder"⟩]
  | .bash | .zsh | .fish | .powershell => [⟨"no-descriptions", none, true, "disable completion descriptions"⟩]
  | _ => []

/-- Every option of a command, sorted by name: its own, `--help`, and `--version` on the
top command. -/
def flags (c : Command) : List Flag :=
  let helpFlag : Flag := ⟨"help", some 'h', true, "help for " ++ c.name⟩
  let versionFlag : List Flag := if c = .root then [⟨"version", some 'v', true, "version for " ++ c.name⟩] else []
  (c.declaredFlags ++ [helpFlag] ++ versionFlag).mergeSort fun a b => decide (a.name ≤ b.name)

/-- Whether a command can be offered: it runs, or it holds commands that can. -/
def available (c : Command) : Bool :=
  c ≠ .help ∧ (c.runnable ∨ c.children.any fun k => k.runnable)

/-- Whether a command holds commands that can be offered. -/
def hasAvailableChildren (c : Command) : Bool := c.children.any available

/-! ### Help texts -/

/-- A text padded with spaces to a width. -/
def rpad (s : String) (width : Nat) : String := s ++ String.ofList (List.replicate (width - s.length) ' ')

/-- A text without its trailing white space. -/
def trimEnd (s : String) : String := String.ofList (s.toList.reverse.dropWhile Char.isWhitespace).reverse

/-- The option part of an option's line, before its description. -/
def flagHead (f : Flag) : String :=
  (match f.shorthand with
    | some c => "  -" ++ String.singleton c ++ ", --" ++ f.name
    | none => "      --" ++ f.name) ++ (if f.isBool then "" else " string")

/-- The lines describing options, their descriptions aligned. -/
def flagUsages (fs : List Flag) : String :=
  let width := (fs.map fun f => (flagHead f).length + 1).foldl max 0
  String.join (fs.map fun f =>
    let head := flagHead f
    head ++ " " ++ String.ofList (List.replicate (width - head.length) ' ') ++ " " ++ f.usage ++ "\n")

/-- The usage line of a command. -/
def useLine (c : Command) : String :=
  let line := match c.parent? with
    | some p => p.path ++ " " ++ c.use
    | none => c.use
  if c.plainUseLine then line else line ++ " [flags]"

/-- A command's usage with the options it has so far: how to call it, its commands and
those options (the section is left out when there are none). -/
def usageWith (c : Command) (fs : List Flag) : String :=
  let listed := c.sortedChildren.filter fun k => k.available ∨ k = .help
  let padding := max 11 ((c.children.map fun k => k.name.length).foldl max 0)
  "Usage:" ++ (if c.runnable then "\n  " ++ c.useLine else "") ++
  (if c.hasAvailableChildren then "\n  " ++ c.path ++ " [command]" else "") ++
  (if c.hasAvailableChildren then
    "\n\nAvailable Commands:" ++ String.join (listed.map fun k => "\n  " ++ rpad k.name padding ++ " " ++ k.short)
   else "") ++
  (if fs.isEmpty then "" else "\n\nFlags:\n" ++ trimEnd (flagUsages fs)) ++
  (if c.hasAvailableChildren then
    "\n\nUse \"" ++ c.path ++ " [command] --help\" for more information about a command."
   else "") ++ "\n"

/-- A command's usage once it runs or is the subject of help, with all its options. -/
def usageText (c : Command) : String := c.usageWith c.flags

/-- A command's help: its description, then its usage. -/
def helpText (c : Command) : String :=
  let about := if c.long.isEmpty then c.short else c.long
  trimEnd about ++ "\n\n" ++ c.usageText

/-- The line the version option prints. -/
def versionText : String := tool ++ " version " ++ version ++ "\n"

end Command

/-! ### Finding the command -/

/-- Whether an option of a command, by long name, is a switch that needs no value. -/
def switchNamed (fs : List Flag) (name : String) : Bool :=
  fs.any fun f => f.name = name ∧ f.isBool

/-- Whether an option of a command, by one-letter name, is a switch that needs no value. -/
def switchLettered (fs : List Flag) (letter : String) : Bool :=
  match letter.toList with
  | c :: _ => fs.any fun f => f.shorthand = some c ∧ f.isBool
  | [] => false

/-- Whether a word is an option that may take the next word as its value. -/
def takesNext (fs : List Flag) (s : String) : Bool :=
  (s.startsWith "--" ∧ !s.contains '=' ∧ !switchNamed fs (s.drop 2).toString) ∨
  (s.startsWith "-" ∧ !s.contains '=' ∧ s.length = 2 ∧ !switchLettered fs (s.drop 1).toString)

/-- The words of a list that are not options or their values. A word that may be an
option's value is skipped with it, unless it is the last word. -/
def stripFlags (fs : List Flag) : Nat → List String → List String
  | 0, _ => []
  | _ + 1, [] => []
  | fuel + 1, s :: rest =>
    if s = "--" then []
    else if takesNext fs s then
      match rest with
      | _ :: after@(_ :: _) => stripFlags fs fuel after
      | _ => []
    else if s ≠ "" ∧ !s.startsWith "-" then s :: stripFlags fs fuel rest
    else stripFlags fs fuel rest

/-- The words without the first occurrence of a command's name that is not an option's
value. -/
def withoutWord (fs : List Flag) (x : String) : Nat → List String → List String
  | 0, args => args
  | _ + 1, [] => []
  | fuel + 1, s :: rest =>
    if s = "--" then s :: rest
    else if takesNext fs s then
      match rest with
      | v :: after => s :: v :: withoutWord fs x fuel after
      | [] => [s]
    else if !s.startsWith "-" ∧ s = x then rest
    else s :: withoutWord fs x fuel rest

/-- Walks down the command tree by the words of the arguments. -/
def find : Nat → Command → List String → Command × List String
  | 0, c, args => (c, args)
  | fuel + 1, c, args =>
    match stripFlags c.declaredFlags (args.length + 1) args with
    | [] => (c, args)
    | next :: _ =>
      match c.children.find? fun k => k.name = next with
      | some k => find fuel k (withoutWord c.declaredFlags next (args.length + 1) args)
      | none => (c, args)

/-- The edit distance of two texts in bytes of UTF-8, ignoring case. -/
def distance (a b : String) : Nat :=
  let s := (Case.lower a).toUTF8.toList
  let t := (Case.lower b).toUTF8.toList
  let first := List.range (t.length + 1)
  let last := s.foldl (fun (prev : List Nat) (x : UInt8) =>
    let row := (t.zip (prev.zip prev.tail)).foldl (fun (acc : List Nat) (y, diag, up) =>
      let left := acc.headD 0
      let cost := if x = y then 0 else 1
      (min (min (up + 1) (left + 1)) (diag + cost)) :: acc) [prev.headD 0 + 1]
    row.reverse) first
  last.getLast?.getD 0

/-- The commands to suggest for a word that names none: those within two edits of it, or
whose name starts with it. -/
def suggestions (typed : String) : List String :=
  (Command.root.children.filter fun k =>
    k.available ∧ (distance typed k.name ≤ 2 ∨ (Case.lower k.name).startsWith (Case.lower typed))).map
    Command.name

/-- The failure for a word that names no command. -/
def unknownCommand (typed : String) (c : Command) (suggest : Bool) : String :=
  let offered := if suggest then suggestions typed else []
  "unknown command " ++ Quote.string typed ++ " for " ++ Quote.string c.path ++
    (if offered.isEmpty then ""
     else "\n\nDid you mean this?\n" ++ String.join (offered.map fun n => "\t" ++ n ++ "\n"))

/-- Finds the command the arguments name, with the arguments left for it; fails for a word
after the top command that names none of its commands. -/
def findCommand (args : List String) : Except String (Command × List String) :=
  let (c, rest) := find 4 .root args
  if c = .root then
    match stripFlags c.declaredFlags (rest.length + 1) rest with
    | typed :: _ => .error (unknownCommand typed c true)
    | [] => .ok (c, rest)
  else .ok (c, rest)

/-! ### Reading the options -/

/-- The options read so far and the other words. -/
structure Parsed where
  /-- Option values by long name, latest first. -/
  values : List (String × String)
  /-- The words that are not options. -/
  args : List String

/-- The first byte of a character's UTF-8 form, read as a character: options are read byte
by byte, so a failure names a letter outside ASCII by its first byte. -/
def leadByte (c : Char) : Char := Char.ofNat ((String.singleton c).toUTF8.toList.headD 0).toNat

/-- A character in single quotes, as a failure shows an option letter. -/
def quoteLetter (c : Char) : String :=
  let inner := if c = '\'' then "\\'" else
    let q := Quote.escapeChar c
    if q = ['\\', '"'] then "\"" else String.ofList q
  "'" ++ inner ++ "'"

/-- Whether a switch's value is true, false, or neither. -/
def parseBool? (s : String) : Option Bool :=
  if ["1", "t", "T", "TRUE", "true", "True"].contains s then some true
  else if ["0", "f", "F", "FALSE", "false", "False"].contains s then some false
  else none

/-- Sets an option, checking a switch's value. -/
def setFlag (f : Flag) (value : String) (p : Parsed) : Except String Parsed :=
  if f.isBool ∧ (parseBool? value).isNone then
    let shown := match f.shorthand with
      | some c => "-" ++ String.singleton c ++ ", --" ++ f.name
      | none => "--" ++ f.name
    .error ("invalid argument " ++ Quote.string value ++ " for " ++ Quote.string shown ++
      " flag: strconv.ParseBool: parsing " ++ Quote.string value ++ ": invalid syntax")
  else .ok { p with values := (f.name, value) :: p.values }

/-- Reads a long option; gives the words after it. -/
def parseLong (fs : List Flag) (s : String) (rest : List String) (p : Parsed) :
    Except String (Parsed × List String) := do
  let body := (s.drop 2).toString
  if body.isEmpty ∨ body.startsWith "-" ∨ body.startsWith "=" then
    throw ("bad flag syntax: " ++ s)
  let (name, given) := match body.splitOn "=" with
    | n :: v :: more => (n, some ("=".intercalate (v :: more)))
    | _ => (body, none)
  let some f := fs.find? fun f => f.name = name
    | throw ("unknown flag: --" ++ name)
  match given with
  | some v => pure (← setFlag f v p, rest)
  | none =>
    if f.isBool then pure (← setFlag f "true" p, rest)
    else match rest with
      | v :: after => pure (← setFlag f v p, after)
      | [] => throw ("flag needs an argument: " ++ s)

/-- Reads a group of one-letter options; gives the words after it. -/
def parseShort (fs : List Flag) (args : List String) : Nat → List Char → List String → Parsed →
    Except String (Parsed × List String)
  | 0, _, rest, p => .ok (p, rest)
  | _ + 1, [], rest, p => .ok (p, rest)
  | fuel + 1, c :: more, rest, p => do
    let group := String.ofList (c :: more)
    let some f := fs.find? fun f => f.shorthand = some c
      | throw ("unknown shorthand flag: " ++ quoteLetter (leadByte c) ++ " in -" ++ group)
    match more with
    | '=' :: v@(_ :: _) => pure (← setFlag f (String.ofList v) p, rest)
    | _ =>
      if f.isBool then parseShort fs args fuel more rest (← setFlag f "true" p)
      else if !more.isEmpty then pure (← setFlag f (String.ofList more) p, rest)
      else match args with
        | v :: after => pure (← setFlag f v p, after)
        | [] => throw ("flag needs an argument: " ++ quoteLetter c ++ " in -" ++ group)

/-- Reads the options and arguments of a command. -/
def parseFlags (fs : List Flag) : Nat → List String → Parsed → Except String Parsed
  | 0, _, p => .ok p
  | _ + 1, [], p => .ok p
  | fuel + 1, s :: rest, p => do
    if s.length < 2 ∨ !s.startsWith "-" then
      parseFlags fs fuel rest { p with args := p.args ++ [s] }
    else if s = "--" then pure { p with args := p.args ++ rest }
    else if s.startsWith "--" then
      let (p, rest) ← parseLong fs s rest p
      parseFlags fs fuel rest p
    else
      let (p, rest) ← parseShort fs rest (s.length + 1) (s.toList.drop 1) rest p
      parseFlags fs fuel rest p

/-- The value of a switch. -/
def Parsed.flag (p : Parsed) (name : String) : Bool :=
  ((p.values.lookup name).bind parseBool?).getD false

/-- The value of a text option. -/
def Parsed.text (p : Parsed) (name : String) : String := (p.values.lookup name).getD ""

/-! ### What the arguments ask for -/

/-- What a run of the command line does. -/
inductive Action where
  /-- Prints a text on standard output and succeeds. -/
  | print (text : String)
  /-- Prints a text on standard error and succeeds. -/
  | printError (text : String)
  /-- Fails with a message. -/
  | fail (message : String)
  /-- Serves the tools over standard input and output. -/
  | serve
  /-- Imports the accounts, or one account, or one mailbox of it. -/
  | sync (account mailbox : String)
  /-- Prints the stores and their folders, with their items when asked. -/
  | dump (items : Bool)
  /-- Prints a shell's completion script. -/
  | completion (shell : Command)
deriving DecidableEq, Repr

/-- Whether a word can stand between backquotes: it holds no backquote, no control
character but the tab, no delete and no byte-order mark. -/
def backquotable (w : String) : Bool :=
  w.all fun c => c ≠ Char.ofNat 96 ∧ c ≠ Char.ofNat 0xFEFF ∧ c ≠ Char.ofNat 127 ∧
    (c.toNat ≥ 32 ∨ c = '\t')

/-- A list of words as the help command's failure shows them: each in backquotes when it
can stand there, else quoted. -/
def quoteWords (ws : List String) : String :=
  let bq := String.singleton (Char.ofNat 96)
  "[" ++ " ".intercalate (ws.map fun w =>
    if backquotable w then bq ++ w ++ bq else Quote.string w) ++ "]"

/-- What the help command prints for the words after it. -/
def helpTopic (words : List String) : Action :=
  match findCommand words with
  | .ok (c, _) => .print c.helpText
  | .error _ => .printError ("Unknown help topic " ++ quoteWords words ++ "\n" ++
      Command.root.usageWith Command.root.declaredFlags)

/-- What a list of arguments asks for. -/
def Action.ofArgs (args : List String) : Action :=
  match findCommand args with
  | .error e => .fail e
  | .ok (c, rest) =>
    match parseFlags c.flags (rest.length + 1) rest ⟨[], []⟩ with
    | .error e => .fail e
    | .ok p =>
      if p.flag "help" then .print c.helpText
      else if c = .root ∧ p.flag "version" then .print Command.versionText
      else if !c.runnable then .print c.helpText
      else if c.takesNoArgs ∧ !p.args.isEmpty then
        .fail ("unknown command " ++ Quote.string (p.args.headD "") ++ " for " ++ Quote.string c.path)
      else match c with
        | .serve => .serve
        | .sync => .sync (p.text "account") (p.text "mailbox")
        | .dump => .dump (p.flag "items")
        | .help => helpTopic p.args
        | shell => .completion shell

theorem parent_children (c k : Command) (h : k ∈ c.children) : k.parent? = some c := by
  cases c <;> simp [Command.children] at h <;> rcases h with rfl | rfl | rfl | rfl | rfl <;> rfl

end Cli

end MailStore
