import MailStore.Settings.Basic
import MailStore.Yaml.Node
import MailStore.Text.Quote

/-!
# Settings from a YAML document

A settings file is a YAML mapping whose keys name settings (`store_path`,
`max_inline_value_size`, `log_level`, `metrics_addr`, `sync_message_limit`, `accounts`);
`accounts` is a sequence of mappings with `name`, `imap_host`, `imap_port`,
`imap_username` and `imap_password`. The file changes only what it names; other keys are
ignored.

Reading a node into a setting:

* a null leaves a text, a number or an account as it was, empties the account list, and
  drops an item of the account list;
* a text setting takes the text of any other scalar;
* a number setting takes an integer of the signed 64-bit range, or a float no larger than
  `2^63` cut toward zero; any other scalar is a type error;
* a sequence fills the account list afresh, and is a type error anywhere else; a mapping
  fills a record, and is a type error anywhere else;
* a mapping with two equal keys is a type error for each repeat and is not read; a record
  key given twice is a type error at the repeat;
* the key `<<` merges a mapping, an alias of one, or a sequence of them read last to
  first, into the record at that point.

Type errors are collected and reported together, one line each, as
``line 3: cannot unmarshal !!str `abc` into int``; a few problems stop reading at once:
an alias inside the node it names, a scalar that does not fit its explicit tag, a
`!!binary` scalar that is not base64, and a merge of anything but mappings.

## Main definitions

* `Settings.readYaml`: the settings a YAML text makes of given settings, or the failure's
  message.
-/

namespace MailStore

namespace Settings

open Yaml

/-- Reading a document: a problem that stops it, or type errors collected on the way. -/
abbrev ReadM := ExceptT String (StateM (Array String))

/-- The names of the kinds of value a node is read into. -/
def configType : String := "config.Config"
def accountType : String := "config.AccountConfig"
def accountsType : String := "[]config.AccountConfig"
def textType : String := "string"
def numberType : String := "int"

/-- A backquote. -/
def backquote : String := String.singleton (Char.ofNat 96)

/-- Records a type error: a node that cannot be read as a kind of value. Its tag is shown in
short form, and a scalar's text after it, cut to seven bytes when longer than ten. -/
def typeError (n : Node) (tag target : String) : ReadM Unit := do
  let tag := if n.tag ≠ "" then n.tag else tag
  let shown :=
    if tag = seqTag ∨ tag = mapTag then ""
    else
      let bytes := (Text.ofString n.text).bytes
      if bytes.length > 10 then " " ++ backquote ++ (Text.mk (bytes.take 7)).toString ++ "..." ++ backquote
      else " " ++ backquote ++ n.text ++ backquote
  modify fun es => es.push ("line " ++ toString n.line ++ ": cannot unmarshal " ++ shortTag tag ++
    shown ++ " into " ++ target)

/-- The type errors for the repeated keys of a mapping: one for each later key equal to an
earlier one. -/
def repeatedKeys (pairs : List (Node × Node)) : List String :=
  let keys := pairs.map Prod.fst
  (List.range keys.length).flatMap fun i =>
    ((keys.drop (i + 1)).filter fun kj =>
      match keys[i]? with
      | some ki => ki.kind = kj.kind ∧ ki.text = kj.text
      | none => false).map fun kj =>
      "line " ++ toString kj.line ++ ": mapping key " ++ Quote.string kj.text ++
        " already defined at line " ++ toString ((keys[i]?.map Node.line).getD 0)

/-- Records the repeated keys of a mapping; whether there were none. -/
def checkKeys (pairs : List (Node × Node)) : ReadM Bool := do
  let errs := repeatedKeys pairs
  modify fun es => es ++ errs.toArray
  pure errs.isEmpty

/-- What a scalar reads as: its tag and value. Quoted scalars and `!!str` are text; a
`!!binary` scalar is its decoded bytes as text. -/
def scalarValue (n : Node) : ReadM (String × Scalar) := do
  if n.isIndicatedString then return (strTag, .str n.text)
  match Scalar.resolve n.tag n.text with
  | .error e => throw e
  | .ok (tag, v) =>
    if tag = binaryTag then
      match Scalar.decodeBase64? n.text with
      | some bytes => pure (tag, .str (Text.mk bytes).toString)
      | none => throw "!!binary value contains invalid base64 data"
    else pure (tag, v)

/-- The node an alias names, failing when the alias is inside it. -/
def follow (doc : Document) (active : List Nat) (name : String) (target : Nat) :
    ReadM (List Nat × Node) :=
  if active.contains target then throw ("anchor '" ++ name ++ "' value contains itself")
  else match doc.anchored.lookup target with
    | some n => pure (target :: active, n)
    | none => throw ("unknown anchor '" ++ name ++ "' referenced")

/-- Reads a node into a text setting; gives the setting and whether the node was read. -/
def readText (doc : Document) : Nat → List Nat → Node → String → ReadM (String × Bool)
  | 0, _, _, cur => pure (cur, false)
  | fuel + 1, active, n, cur =>
    match n with
    | .aliasOf name target _ => do
      let (active, m) ← follow doc active name target
      readText doc fuel active m cur
    | .scalar _ text _ _ => do
      let (tag, v) ← scalarValue n
      match v with
      | .null => pure (cur, false)
      | .str s => pure (if tag = binaryTag then s else text, true)
      | _ => pure (text, true)
    | .sequence .. => do
      typeError n seqTag textType
      pure (cur, false)
    | .mapping _ pairs _ => do
      if ← checkKeys pairs then typeError n mapTag textType
      pure (cur, false)

/-- Reads a node into a number setting; gives the setting and whether the node was read. -/
def readNumber (doc : Document) : Nat → List Nat → Node → Int → ReadM (Int × Bool)
  | 0, _, _, cur => pure (cur, false)
  | fuel + 1, active, n, cur =>
    match n with
    | .aliasOf name target _ => do
      let (active, m) ← follow doc active name target
      readNumber doc fuel active m cur
    | .scalar .. => do
      let (tag, v) ← scalarValue n
      match v with
      | .null => pure (cur, false)
      | _ =>
        match v.toInt? with
        | some i => pure (i, true)
        | none =>
          typeError n tag numberType
          pure (cur, false)
    | .sequence .. => do
      typeError n seqTag numberType
      pure (cur, false)
    | .mapping _ pairs _ => do
      if ← checkKeys pairs then typeError n mapTag numberType
      pure (cur, false)

/-- A record's fields: its type's name, and for a key the field's number and how a node is
read into the field. -/
structure Fields (σ : Type) where
  /-- The record type's name. -/
  typeName : String
  /-- The field a key names: its number and its reader. -/
  field : String → Option (Nat × (Nat → List Nat → Node → σ → ReadM σ))

/-- Whether a node is a mapping, or an alias of one. -/
def isMappingLike (doc : Document) : Node → Bool
  | .mapping .. => true
  | .aliasOf _ target _ => match doc.anchored.lookup target with
    | some (.mapping ..) => true
    | _ => false
  | _ => false

/-- The failure of a merge that is not of mappings. -/
def mergeFailure : String := "map merge requires map or sequence of maps as the value"

mutual

/-- Reads a node into a record; gives the record and whether the node was read. -/
def readRecord {σ : Type} (doc : Document) (fs : Fields σ) :
    Nat → List Nat → Node → σ → ReadM (σ × Bool)
  | 0, _, _, cur => pure (cur, false)
  | fuel + 1, active, n, cur =>
    match n with
    | .aliasOf name target _ => do
      let (active, m) ← follow doc active name target
      readRecord doc fs fuel active m cur
    | .scalar .. => do
      let (tag, v) ← scalarValue n
      match v with
      | .null => pure (cur, false)
      | _ =>
        typeError n tag fs.typeName
        pure (cur, false)
    | .sequence .. => do
      typeError n seqTag fs.typeName
      pure (cur, false)
    | .mapping _ pairs _ => do
      if !(← checkKeys pairs) then return (cur, false)
      let r ← readPairs doc fs fuel active [] pairs cur
      pure (r, true)

/-- Reads a record's pairs in order, given the fields already set. -/
def readPairs {σ : Type} (doc : Document) (fs : Fields σ) :
    Nat → List Nat → List Nat → List (Node × Node) → σ → ReadM σ
  | 0, _, _, _, cur => pure cur
  | _ + 1, _, _, [], cur => pure cur
  | fuel + 1, active, done, (k, v) :: rest, cur => do
    if k.isMerge then
      let cur ← merge doc fs fuel active v cur
      readPairs doc fs fuel active done rest cur
    else
      let (key, good) ← readText doc fuel active k ""
      if !good then readPairs doc fs fuel active done rest cur
      else match fs.field key with
        | none => readPairs doc fs fuel active done rest cur
        | some (i, reader) =>
          if done.contains i then
            modify fun es => es.push ("line " ++ toString k.line ++ ": field " ++ key ++
              " already set in type " ++ fs.typeName)
            readPairs doc fs fuel active done rest cur
          else
            let cur ← reader fuel active v cur
            readPairs doc fs fuel active (i :: done) rest cur

/-- Merges the value of a `<<` key into a record. -/
def merge {σ : Type} (doc : Document) (fs : Fields σ) :
    Nat → List Nat → Node → σ → ReadM σ
  | 0, _, _, cur => pure cur
  | fuel + 1, active, v, cur =>
    match v with
    | .mapping .. => do
      let (r, _) ← readRecord doc fs fuel active v cur
      pure r
    | .aliasOf .. => do
      if !isMappingLike doc v then throw mergeFailure
      let (r, _) ← readRecord doc fs fuel active v cur
      pure r
    | .sequence _ items _ => do
      if !items.all (isMappingLike doc) then throw mergeFailure
      mergeAll doc fs fuel active items.reverse cur
    | .scalar .. => throw mergeFailure

/-- Merges mappings into a record, in order. -/
def mergeAll {σ : Type} (doc : Document) (fs : Fields σ) :
    Nat → List Nat → List Node → σ → ReadM σ
  | 0, _, _, cur => pure cur
  | _ + 1, _, [], cur => pure cur
  | fuel + 1, active, m :: rest, cur => do
    let (r, _) ← readRecord doc fs fuel active m cur
    mergeAll doc fs fuel active rest r

end

/-- The fields of an account. -/
def accountFields (doc : Document) : Fields AccountSettings where
  typeName := accountType
  field
    | "name" => some (0, fun fuel active n a => do
        let (s, _) ← readText doc fuel active n a.name
        pure { a with name := s })
    | "imap_host" => some (1, fun fuel active n a => do
        let (s, _) ← readText doc fuel active n a.host
        pure { a with host := s })
    | "imap_port" => some (2, fun fuel active n a => do
        let (p, _) ← readNumber doc fuel active n a.port
        pure { a with port := p })
    | "imap_username" => some (3, fun fuel active n a => do
        let (s, _) ← readText doc fuel active n a.username
        pure { a with username := s })
    | "imap_password" => some (4, fun fuel active n a => do
        let (s, _) ← readText doc fuel active n a.password
        pure { a with password := s })
    | _ => none

/-- Reads accounts from the items of a sequence; an item not read is dropped. -/
def readItems (doc : Document) (fuel : Nat) (active : List Nat) : List Node → ReadM (List AccountSettings)
  | [] => pure []
  | item :: rest => do
    let (a, good) ← readRecord doc (accountFields doc) fuel active item {}
    let more ← readItems doc fuel active rest
    pure (if good then a :: more else more)

/-- Reads a node into the account list; gives the list and whether the node was read. -/
def readAccounts (doc : Document) : Nat → List Nat → Node → List AccountSettings →
    ReadM (List AccountSettings × Bool)
  | 0, _, _, cur => pure (cur, false)
  | fuel + 1, active, n, cur =>
    match n with
    | .aliasOf name target _ => do
      let (active, m) ← follow doc active name target
      readAccounts doc fuel active m cur
    | .scalar .. => do
      let (tag, v) ← scalarValue n
      match v with
      | .null => pure ([], true)
      | _ =>
        typeError n tag accountsType
        pure (cur, false)
    | .sequence _ items _ => do
      let accounts ← readItems doc fuel active items
      pure (accounts, true)
    | .mapping _ pairs _ => do
      if ← checkKeys pairs then typeError n mapTag accountsType
      pure (cur, false)

/-- The fields of the settings. -/
def settingsFields (doc : Document) : Fields Settings where
  typeName := configType
  field
    | "store_path" => some (0, fun fuel active n s => do
        let (v, _) ← readText doc fuel active n s.storePath
        pure { s with storePath := v })
    | "max_inline_value_size" => some (1, fun fuel active n s => do
        let (v, _) ← readNumber doc fuel active n s.maxInlineValueSize
        pure { s with maxInlineValueSize := v })
    | "log_level" => some (2, fun fuel active n s => do
        let (v, _) ← readText doc fuel active n s.logLevel
        pure { s with logLevel := v })
    | "metrics_addr" => some (3, fun fuel active n s => do
        let (v, _) ← readText doc fuel active n s.metricsAddr
        pure { s with metricsAddr := v })
    | "sync_message_limit" => some (4, fun fuel active n s => do
        let (v, _) ← readNumber doc fuel active n s.syncMessageLimit
        pure { s with syncMessageLimit := v })
    | "accounts" => some (5, fun fuel active n s => do
        let (v, _) ← readAccounts doc fuel active n s.accounts
        pure { s with accounts := v })
    | _ => none

/-- The settings a YAML text makes of given settings, or the failure's full message. -/
def readYaml (text : String) (base : Settings) : Except String Settings :=
  match Document.ofText text with
  | .error e => .error ("yaml: " ++ e)
  | .ok none => .ok base
  | .ok (some doc) =>
    -- deep enough for every node, through every chain of aliases
    let fuel := (doc.anchored.length + 2) * (8 * text.length + 72)
    match ((readRecord doc (settingsFields doc) fuel [] doc.root base).run).run #[] with
    | (.error e, _) => .error ("yaml: " ++ e)
    | (.ok (s, _), errs) =>
      if errs.isEmpty then .ok s
      else .error ("yaml: unmarshal errors:\n  " ++ "\n  ".intercalate errs.toList)

end Settings

end MailStore
