import MailStore.Tool.Args
import MailStore.Tool.Shape
import MailStore.Entity.Query

/-!
# Tools

The service offers its entities as named tools, each with a description and a JSON schema
of its arguments. A tool reads its arguments, finds the store (and folder or item) they
name, asks the entities, and writes the answer in the shapes of `Shape`. Failures of the
entities are put in context (`failed to list items: …`); failures to read an argument are
passed on as they are.

Every call, whether it succeeds or not, ends by clearing the caches of the session, so
that no entity outlives the request that loaded it.

An importer of mail, when the service has one, adds one more tool, `sync_account`.
-/

namespace MailStore

/-- The tools over entities. -/
inductive ToolKind where
  | listStores | listRootFolders | listSpecialFolders | listSubFolders | folderHierarchy
  | getFolderProperties | listItems | listConversations | getItem | getItemProperties
deriving DecidableEq, Repr, Inhabited

namespace ToolKind

/-- Every tool over entities. -/
def all : List ToolKind :=
  [.listStores, .listRootFolders, .listSpecialFolders, .listSubFolders, .folderHierarchy,
    .getFolderProperties, .listItems, .listConversations, .getItem, .getItemProperties]

/-- The name a client calls a tool by. -/
def name : ToolKind → String
  | .listStores => "list_stores"
  | .listRootFolders => "list_root_folders"
  | .listSpecialFolders => "list_special_folders"
  | .listSubFolders => "list_sub_folders"
  | .folderHierarchy => "folder_hierarchy"
  | .getFolderProperties => "get_folder_properties"
  | .listItems => "list_items"
  | .listConversations => "list_conversations"
  | .getItem => "get_item"
  | .getItemProperties => "get_item_properties"

/-- What a tool does, for a client. -/
def description : ToolKind → String
  | .listStores => "List message stores, optionally with every extra column of the store row"
  | .listRootFolders => "List the top-level folders of a store"
  | .listSpecialFolders =>
    "Resolve special folders (INBOX, SENT, DRAFTS, ...) of a store; every named kind must exist"
  | .listSubFolders => "List the child folders of a folder"
  | .folderHierarchy => "List every folder below a folder, breadth first, or only its direct children"
  | .getFolderProperties =>
    "Read properties of a folder by numeric id or named property; all properties when no columns are given"
  | .listItems => "List the items of a folder with subject, sender, read state and preview"
  | .listConversations =>
    "List the conversations of a folder; each groups the items sharing a conversation id"
  | .getItem => "Retrieve an item by id including its plain text body"
  | .getItemProperties =>
    "Read properties of an item by numeric id or named property; all properties when no columns are given"

end ToolKind

/-! ### Schemas -/

namespace Schema

/-- A described value of a type. -/
def typed (type description : String) : Json :=
  .object [("type", .str type), ("description", .str description)]

/-- An entry id. -/
def entryId (description : String) : Json := typed "string" description

/-- The store argument. -/
def storeId : Json := entryId "Hex entry id of the store"

/-- The explicit ids argument. -/
def ids : Json :=
  .object [("type", .str "array"), ("items", .object [("type", .str "string")]),
    ("description", .str "Optional: hex entry ids to return, in order. Unknown ids are an error")]

/-- The sort orders argument. -/
def orderBy : Json :=
  .object [("type", .str "array"),
    ("items", .object [("type", .str "object"),
      ("properties", .object [("tag", typed "string" "Property tag, e.g. 0x0E060040"),
        ("descending", .object [("type", .str "boolean")])]),
      ("required", .array [.str "tag"])]),
    ("description", .str "Optional: sort orders replacing the default order")]

/-- The columns argument. -/
def columns : Json :=
  .object [("type", .str "array"),
    ("items", .object [("type", .str "object"),
      ("properties", .object [
        ("id", .object [("description", .str "Numeric property id, e.g. 0x0037")]),
        ("propset", typed "string" "Property set GUID of a named property"),
        ("name", typed "string" "String name of a named property"),
        ("lid", typed "integer" "Numeric name of a named property"),
        ("type", .object [("type", .str "string"), ("enum", .array
          (["integer", "boolean", "string", "guid", "datetime", "binary"].map Json.str))])]),
      ("required", .array [.str "type"])]),
    ("description", .str "Optional: properties to fetch; all properties when omitted")]

/-- Properties with the directive arguments added. -/
def withDirectives (props : List (String × Json)) : List (String × Json) :=
  props ++ [("ids", ids), ("skip", typed "integer" "Optional: rows to skip"),
    ("take", typed "integer" "Optional: maximum rows to return"), ("order_by", orderBy)]

/-- An object schema with properties and required members. -/
def object (props : List (String × Json)) (required : List String) : Json :=
  .object ([("type", .str "object"), ("properties", Json.sortedObject props)] ++
    (if required.isEmpty then [] else [("required", .array (required.map Json.str))]))

end Schema

/-- The schema of a tool's arguments. -/
def ToolKind.schema : ToolKind → Json
  | .listStores => Schema.object (Schema.withDirectives [("include_columns",
      Schema.typed "boolean" "Optional: include the non-default columns of each store")]) []
  | .listRootFolders => Schema.object (Schema.withDirectives [("store_id", Schema.storeId)]) ["store_id"]
  | .listSpecialFolders => Schema.object [("store_id", Schema.storeId),
      ("kinds", .object [("type", .str "array"),
        ("items", .object [("type", .str "string"),
          ("enum", .array (SpecialFolder.all.map fun k => .str k.name))]),
        ("description", .str "Special folder kinds to resolve, in order")])] ["store_id", "kinds"]
  | .listSubFolders => Schema.object (Schema.withDirectives [("store_id", Schema.storeId),
      ("folder_id", Schema.entryId "Hex entry id of the parent folder")]) ["store_id", "folder_id"]
  | .folderHierarchy => Schema.object [("store_id", Schema.storeId),
      ("folder_id", Schema.entryId
        "Optional: hex entry id of the start folder; the IPM subtree when omitted"),
      ("only_children", Schema.typed "boolean" "Optional: stop after the direct children")]
      ["store_id"]
  | .getFolderProperties => Schema.object [("store_id", Schema.storeId),
      ("folder_id", Schema.entryId "Hex entry id of the folder"), ("columns", Schema.columns)]
      ["store_id", "folder_id"]
  | .listItems | .listConversations => Schema.object (Schema.withDirectives [("store_id", Schema.storeId),
      ("folder_id", Schema.entryId "Hex entry id of the folder")]) ["store_id", "folder_id"]
  | .getItem => Schema.object [("store_id", Schema.storeId),
      ("item_id", Schema.entryId "Hex entry id of the item")] ["store_id", "item_id"]
  | .getItemProperties => Schema.object [("store_id", Schema.storeId),
      ("item_id", Schema.entryId "Hex entry id of the item"), ("columns", Schema.columns)]
      ["store_id", "item_id"]

/-! ### Running tools -/

namespace ToolKind

variable {σ : Type} [EntityHost σ] (d : Driver (EntityM σ))

/-- Reads an argument, failing the call when it is malformed. -/
def arg {α : Type} (x : Except Failure α) : EntityM σ α := MonadExcept.ofExcept x

/-- The store the arguments name. -/
def store (args : Json) : EntityM σ StoreRef := do
  let id ← arg (Args.id args "store_id")
  match ← wrapping "failed to look up store" (Entities.lookupStore d id) with
  | some r => pure r
  | none => throw (Failure.because .notFound ("store with id=" ++ Bytes.toHex id))

/-- The folder the arguments name; the IPM subtree without `folder_id`. -/
def folder (args : Json) : EntityM σ FolderRef := do
  let r ← store d args
  let id ← arg (Args.optionalId args "folder_id")
  r.openFolder d id

/-- The special folders named in `kinds`, by number. -/
def kinds (args : Json) : Except Failure (List Int) := do
  let raw := match args.get? "kinds" with
    | some (.array xs) => xs
    | _ => []
  if raw.isEmpty then throw (Failure.other "kinds is required")
  raw.mapM fun v =>
    let name := match v with
      | .string t => t.toString
      | _ => ""
    match SpecialFolder.parse name with
    | .ok k => pure (k.index : Int)
    | .error f => throw (Failure.other (f.message ++ " (one of " ++
        ", ".intercalate (SpecialFolder.all.map SpecialFolder.name) ++ ")"))

/-- Runs a tool on its arguments. -/
def run (t : ToolKind) (args : Json) : EntityM σ Written := do
  match t with
  | .listStores =>
    let ids ← arg (Args.ids args)
    let dirs ← arg (Args.directives args)
    let stores ← wrapping "failed to list stores" (Entities.stores d ids dirs)
    let withColumns := Args.flag args "include_columns"
    let shown ← stores.mapM fun r => do
      let name := (← Entities.store r).name
      wrapping ("failed to read store " ++ name.toString) (Shape.store d r withColumns)
    pure (.ok (.array shown))
  | .listRootFolders =>
    let r ← store d args
    let ids ← arg (Args.ids args)
    let dirs ← arg (Args.directives args)
    Shape.folders d (← wrapping "failed to list root folders" (r.rootFolders d ids dirs))
  | .listSpecialFolders =>
    let r ← store d args
    let ks ← arg (kinds args)
    Shape.folders d (← wrapping "failed to resolve special folders" (r.specialFolders d ks))
  | .listSubFolders =>
    let f ← folder d args
    let ids ← arg (Args.ids args)
    let dirs ← arg (Args.directives args)
    Shape.folders d (← wrapping "failed to list sub folders" (f.subFolders d ids dirs))
  | .folderHierarchy =>
    let r ← store d args
    let parent ← arg (Args.optionalId args "folder_id")
    Shape.folders d (← wrapping "failed to walk folder hierarchy"
      (r.folderHierarchy d parent (Args.flag args "only_children")))
  | .getFolderProperties =>
    let r ← store d args
    let id ← arg (Args.id args "folder_id")
    let cols ← arg (Args.columns args)
    let props ← wrapping "failed to get folder properties" (do
      let f ← r.openFolder d id
      f.properties d (cols.getD []))
    pure (.ok (.array (← Shape.properties d props)))
  | .listItems =>
    let f ← folder d args
    let ids ← arg (Args.ids args)
    let dirs ← arg (Args.directives args)
    let items ← wrapping "failed to list items" (f.items d ids dirs)
    let shown ← items.mapM fun i => do pure (Shape.item (← Entities.item i) none)
    pure (Shape.list shown)
  | .listConversations =>
    let f ← folder d args
    let ids ← arg (Args.ids args)
    let dirs ← arg (Args.directives args)
    let convs ← wrapping "failed to list conversations" (f.conversations d ids dirs)
    let shown ← convs.mapM fun c => do pure (Shape.conversation (← Entities.conversation c))
    pure (Shape.list shown)
  | .getItem =>
    let r ← store d args
    let id ← arg (Args.id args "item_id")
    let i ← wrapping "failed to open item" (r.openItem d id)
    let body ← wrapping "failed to read item body" (i.body d)
    pure (Shape.item (← Entities.item i) (some body))
  | .getItemProperties =>
    let r ← store d args
    let id ← arg (Args.id args "item_id")
    let cols ← arg (Args.columns args)
    let props ← wrapping "failed to get item properties" (do
      let i ← r.openItem d id
      i.properties d (cols.getD []))
    pure (.ok (.array (← Shape.properties d props)))

end ToolKind

/-- A tool a registry offers: one over entities, or one the registry's owner adds. -/
structure ToolEntry (m : Type → Type) where
  /-- The name. -/
  name : String
  /-- What it does. -/
  description : String
  /-- The schema of its arguments. -/
  schema : Json
  /-- Runs it. -/
  run : Json → m Written

/-- The tools of a session: those over entities and any added ones. -/
def Registry (m : Type → Type) := List (ToolEntry m)

namespace Registry

variable {σ : Type} [EntityHost σ] (d : Driver (EntityM σ))

/-- The tools over the entities of a session, with the added ones. -/
def ofDriver (extra : List (ToolEntry (EntityM σ))) : Registry (EntityM σ) :=
  (ToolKind.all.map fun t => ⟨t.name, t.description, t.schema, t.run d⟩) ++ extra

/-- The tool with a name. -/
def find? {m : Type → Type} (r : Registry m) (name : String) : Option (ToolEntry m) :=
  List.find? (fun t => t.name = name) r

/-- The definitions of the tools for a client, sorted by name. -/
def definitions {m : Type → Type} (r : Registry m) : List Json :=
  let sorted := List.mergeSort r fun a b => decide (a.name.toUTF8.toList ≤ b.name.toUTF8.toList)
  sorted.map fun t => Json.sortedObject [("name", .str t.name), ("description", .str t.description),
    ("inputSchema", t.schema)]

/-- Calls a tool by name; the session's caches are cleared afterwards, also on failure. -/
def call (r : Registry (EntityM σ)) (name : String) (args : Json) : EntityM σ Written := do
  match r.find? name with
  | none => throw (Failure.other ("tool not found: " ++ name))
  | some t => tryFinally (t.run args) (Entities.clearCaches d)

end Registry

end MailStore
