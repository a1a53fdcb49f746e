import MailStore.Sql.Session
import MailStore.Sql.Parse

/-!
# The layout of a property database

A property database keeps four tables:

* `stores`: one row per message store, with its unique name, the id of its IPM subtree
  folder and of its inbox;
* `entries`: every addressable object (the store object itself, folders and messages),
  with its store, its parent and its kind;
* `props`: the raw properties of entries, one row per entry and property id, with the
  property type, the payload, and the payload as a number when it is an integer or a
  boolean;
* `named_props`: the named properties registered in each store, with the property ids
  given to them.

Deleting a store deletes its entries, deleting an entry deletes its children and its
properties, all through foreign keys.

The statements the store runs are kept here as text, read once.
-/

namespace MailStore

namespace Db

/-- The kind of an entry, as stored: 0 for a store object, 1 for a folder, 2 for a
message. -/
abbrev EntryKind := Int

namespace EntryKind

/-- A store object. -/
def store : EntryKind := 0
/-- A folder. -/
def folder : EntryKind := 1
/-- A message. -/
def message : EntryKind := 2

/-- The name of a kind in messages. -/
def name (k : EntryKind) : String :=
  if k = store then "store"
  else if k = folder then "folder"
  else if k = message then "message"
  else "entryKind(" ++ toString k ++ ")"

end EntryKind

/-- An entry as the store reads it. -/
structure EntryRow where
  /-- The entry id. -/
  id : Bytes
  /-- The entry id of its store. -/
  store : Bytes
  /-- The entry id of its parent; empty when null. -/
  parent : Bytes
  /-- Its kind. -/
  kind : EntryKind
deriving DecidableEq, Repr, Inhabited

/-- The schema a property database is opened with. -/
def schemaText : String :=
  "-- Message stores
CREATE TABLE IF NOT EXISTS stores (
    id BLOB PRIMARY KEY,
    name TEXT NOT NULL UNIQUE,
    root_id BLOB NOT NULL,
    receive_folder BLOB,
    created_at DATETIME DEFAULT CURRENT_TIMESTAMP
);

-- Every addressable object: the store object itself, folders and messages
CREATE TABLE IF NOT EXISTS entries (
    id BLOB PRIMARY KEY,
    store_id BLOB NOT NULL,
    parent_id BLOB,
    kind INTEGER NOT NULL,
    created_at DATETIME DEFAULT CURRENT_TIMESTAMP,
    FOREIGN KEY (store_id) REFERENCES stores(id) ON DELETE CASCADE,
    FOREIGN KEY (parent_id) REFERENCES entries(id) ON DELETE CASCADE
);

-- Typed raw properties; num mirrors integer payloads for filtering
CREATE TABLE IF NOT EXISTS props (
    entry_id BLOB NOT NULL,
    prop_id INTEGER NOT NULL,
    prop_type INTEGER NOT NULL,
    value BLOB NOT NULL,
    num INTEGER,
    PRIMARY KEY (entry_id, prop_id),
    FOREIGN KEY (entry_id) REFERENCES entries(id) ON DELETE CASCADE
);

-- Named property registry, one id space per store
CREATE TABLE IF NOT EXISTS named_props (
    store_id BLOB NOT NULL,
    prop_id INTEGER NOT NULL,
    propset BLOB NOT NULL,
    kind INTEGER NOT NULL,
    lid INTEGER NOT NULL DEFAULT 0,
    name TEXT NOT NULL DEFAULT '',
    PRIMARY KEY (store_id, prop_id),
    UNIQUE (store_id, propset, kind, lid, name),
    FOREIGN KEY (store_id) REFERENCES stores(id) ON DELETE CASCADE
);

CREATE INDEX IF NOT EXISTS idx_entries_parent_id ON entries(parent_id, kind);
CREATE INDEX IF NOT EXISTS idx_entries_store_id ON entries(store_id);
CREATE INDEX IF NOT EXISTS idx_props_lookup ON props(prop_id, value);
"

/-- Opens a connection to a database the way the store does: foreign keys enforced and
the schema applied; the failure of the schema, if any. -/
def openConnection (db : Sql.Database) : Sql.Connection × Option Sql.Fault :=
  (Sql.Connection.connect db true).runScript schemaText

/-- A statement of the store's own, read once. -/
def prepared (text : String) : Sql.Stmt :=
  match Sql.parseStatement text with
  | .ok (st, _) => st
  | .error _ => .other text

namespace Query

/-- The store, parent and kind of an entry. -/
def entry : Sql.Stmt := prepared "SELECT store_id, parent_id, kind FROM entries WHERE id = ?"

/-- The stored properties of an entry. -/
def props : Sql.Stmt :=
  prepared "SELECT prop_id, prop_type, value FROM props WHERE entry_id = ?"

/-- The numbers of messages, unread messages and child folders of a folder. -/
def folderCounts : Sql.Stmt :=
  prepared "
    SELECT
      (SELECT COUNT(*) FROM entries WHERE parent_id = ?1 AND kind = ?2),
      (SELECT COUNT(*) FROM entries e
        LEFT JOIN props p ON p.entry_id = e.id AND p.prop_id = ?3
        WHERE e.parent_id = ?1 AND e.kind = ?2 AND (p.num IS NULL OR (p.num & ?4) = 0)),
      (SELECT COUNT(*) FROM entries WHERE parent_id = ?1 AND kind = ?5)
  "

/-- The property id registered for a name. -/
def namedId : Sql.Stmt :=
  prepared "SELECT prop_id FROM named_props WHERE store_id = ? AND propset = ? AND kind = ? AND lid = ? AND name = ?"

/-- The name registered for a property id. -/
def nameOfId : Sql.Stmt :=
  prepared "SELECT propset, kind, lid, name FROM named_props WHERE store_id = ? AND prop_id = ?"

/-- The inbox of a store. -/
def receiveFolder : Sql.Stmt := prepared "SELECT receive_folder FROM stores WHERE id = ?"

/-- The store objects, in creation order. -/
def storeRows : Sql.Stmt :=
  prepared "SELECT id, store_id, parent_id, kind FROM entries WHERE kind = ? ORDER BY created_at, rowid"

/-- The children of a kind of a folder, in creation order. -/
def childRows : Sql.Stmt :=
  prepared "SELECT id, store_id, parent_id, kind FROM entries WHERE parent_id = ? AND kind = ? ORDER BY created_at, rowid"

/-- Adds an entry. -/
def insertEntry : Sql.Stmt :=
  prepared "INSERT INTO entries (id, store_id, parent_id, kind) VALUES (?, ?, ?, ?)"

/-- Stores a property, replacing the one with its id. -/
def upsertProp : Sql.Stmt :=
  prepared "
    INSERT INTO props (entry_id, prop_id, prop_type, value, num)
    VALUES (?, ?, ?, ?, ?)
    ON CONFLICT(entry_id, prop_id) DO UPDATE SET
      prop_type = excluded.prop_type,
      value = excluded.value,
      num = excluded.num
  "

/-- The number of stores. -/
def countStores : Sql.Stmt := prepared "SELECT COUNT(*) FROM stores"

/-- Adds a store. -/
def insertStore : Sql.Stmt := prepared "INSERT INTO stores (id, name, root_id) VALUES (?, ?, ?)"

/-- Deletes an entry. -/
def deleteEntry : Sql.Stmt := prepared "DELETE FROM entries WHERE id = ?"

/-- Deletes a store. -/
def deleteStore : Sql.Stmt := prepared "DELETE FROM stores WHERE id = ?"

/-- Names the inbox of a store. -/
def setReceiveFolder : Sql.Stmt := prepared "UPDATE stores SET receive_folder = ? WHERE id = ?"

/-- The next free property id of the named range of a store. -/
def nextNamedId : Sql.Stmt :=
  prepared "SELECT COALESCE(MAX(prop_id), ?) + 1 FROM named_props WHERE store_id = ?"

/-- Registers a name. -/
def insertName : Sql.Stmt :=
  prepared "INSERT INTO named_props (store_id, prop_id, propset, kind, lid, name) VALUES (?, ?, ?, ?, ?, ?)"

/-- The store and IPM subtree of the store with a name. -/
def findStore : Sql.Stmt := prepared "SELECT id, root_id FROM stores WHERE name = ?"

/-- The first child of a kind of a folder whose property has a payload. -/
def findChild : Sql.Stmt :=
  prepared "
    SELECT e.id FROM entries e
    JOIN props p ON p.entry_id = e.id AND p.prop_id = ?
    WHERE e.parent_id = ? AND e.kind = ? AND p.value = ?
    LIMIT 1
  "

end Query

theorem EntryKind.name_folder : EntryKind.name EntryKind.folder = "folder" := by decide

end Db

end MailStore
