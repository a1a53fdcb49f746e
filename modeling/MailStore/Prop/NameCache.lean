import MailStore.Prop.Named
import MailStore.Failure

/-!
# The named-property cache

A store names some of its properties by a named identifier (a property set and a local id
or a string) and gives each such name a numeric id at or above `0x8000`. A session keeps
what it has learned in a `NameCache`, in both directions, and asks the store only for what
it does not know yet, in one batch per request.

Entries are never dropped or changed. A name that is cached keeps its entry for good: a
later answer from the store with another id for it is ignored, so repeated resolutions of
one name return the same entry. Each entry carries a serial number, which tells entries
apart even when their names and tags agree.

## Main statements

* `NameCache.insert_find`: after an insertion the name is cached.
* `NameCache.insert_of_find`: inserting a cached name changes nothing.
* `NameCache.lookupNamed_length`: the first pass gives one tag per requested id.
-/

namespace MailStore

/-- An order in which the entries of a map are visited. A map is visited in no fixed order,
one that may change from one visit to the next: any permutation of its entries. -/
structure MapOrder (α : Type) where
  /-- The entries as visited, given them as stored. -/
  visit : List α → List α
  /-- Every entry is visited once. -/
  perm : ∀ l, (visit l).Perm l

/-- Visiting the entries of a map in the order they were stored. -/
def MapOrder.stored {α : Type} : MapOrder α := ⟨id, List.Perm.refl⟩

/-- An entry of the cache: the name, the tag it resolves to, and the serial number that
identifies the entry. -/
structure CachedName where
  /-- The entry's serial number, unique within its cache. -/
  serial : Nat
  /-- The named identifier. -/
  name : NamedId
  /-- The tag the name resolves to, with no wire type. -/
  tag : Tag
deriving DecidableEq, Inhabited, Repr

/-- The resolved tag a cache entry gives. -/
def CachedName.resolved (e : CachedName) : ResolvedTag := ⟨e.tag, some (e.serial, e.name)⟩

/-- What a store answers about names, in some effect `m`, and how lookups are reported.

* `idsOfNames` gives one tag per name, of the error type for a name the store does not know.
* `namesOfIds` gives one name per tag, `none` for an id the store cannot name.
* `observe hits misses` is told the outcome of each lookup in the cache. -/
structure NameResolver (m : Type → Type) where
  /-- The tags of names. -/
  idsOfNames : List NamedId → m (List Tag)
  /-- The names of tags. -/
  namesOfIds : List Tag → m (List (Option NamedId))
  /-- Receives the hit and miss counts of each lookup. -/
  observe : Nat → Nat → m Unit

/-- The cache of one store session. -/
structure NameCache where
  /-- One entry per cached name, oldest first. -/
  entries : List CachedName
  /-- The entry that answers for each numeric id. -/
  byId : List (UInt16 × CachedName)
  /-- The serial number of the next entry. -/
  issued : Nat
deriving Inhabited

namespace NameCache

/-- The cache that knows nothing. -/
def empty : NameCache := ⟨[], [], 0⟩

/-- The entry of a name. -/
def find? (c : NameCache) (n : NamedId) : Option CachedName :=
  c.entries.find? fun e => e.name = n

/-- The entry that answers for a numeric id. -/
def findId? (c : NameCache) (id : UInt16) : Option CachedName :=
  (c.byId.find? fun p => p.1 = id).map Prod.snd

/-- Makes an entry answer for a numeric id, replacing the one that did. -/
def setId (c : NameCache) (id : UInt16) (e : CachedName) : NameCache :=
  { c with byId := (id, e) :: c.byId.filter fun p => p.1 ≠ id }

/-- The number of cached names. -/
def size (c : NameCache) : Nat := c.entries.length

/-- The cached names in identifier order, sorted from the order in which `order` visits
them; names that compare equal keep that order. -/
def names (order : MapOrder NamedId) (c : NameCache) : List NamedId :=
  (order.visit (c.entries.map CachedName.name)).mergeSort fun a b => NamedId.compare a b ≠ .gt

/-- Adds a name with its tag unless the name is cached; either way gives the entry that
holds the name. A new entry also answers for its id when no entry does yet. -/
def insert (c : NameCache) (n : NamedId) (t : Tag) : CachedName × NameCache :=
  match c.find? n with
  | some e => (e, c)
  | none =>
    let e : CachedName := ⟨c.issued, n, t⟩
    let c' : NameCache := { c with entries := c.entries ++ [e], issued := c.issued + 1 }
    (e, if (c'.findId? t.id).isSome then c' else c'.setId t.id e)

/-- The tag with no wire type of a numeric id. -/
def untyped (id : UInt16) : Tag := Tag.make PropType.unspecified id

/-! ### From property ids to tags -/

/-- What the cache alone says of requested property ids: a tag for each (zero where the
store must be asked), the names to ask for with their positions, and the number of names
found in the cache. A numeric id maps to its own tag, or to zero past sixteen bits. -/
def lookupNamed (c : NameCache) : Nat → List PropertyId →
    List ResolvedTag × List (Nat × NamedId) × Nat
  | _, [] => ([], [], 0)
  | i, .numeric n :: rest =>
    let (rs, pending, hits) := lookupNamed c (i + 1) rest
    let t := if n > 0xFFFF then Tag.null else untyped n.toUInt16
    (⟨t, none⟩ :: rs, pending, hits)
  | i, .named nm :: rest =>
    let (rs, pending, hits) := lookupNamed c (i + 1) rest
    match c.find? nm with
    | some e => (e.resolved :: rs, pending, hits + 1)
    | none => (⟨Tag.null, none⟩ :: rs, (i, nm) :: pending, hits)

/-- Files the store's tags for the asked names: a tag of the error type or below the named
range is skipped, any other is cached (unless the name is) and fills its position. -/
def fileIds (acc : List ResolvedTag × NameCache) : List ((Nat × NamedId) × Tag) →
    List ResolvedTag × NameCache
  | [] => acc
  | ((i, nm), t) :: rest =>
    if t.type = PropType.error ∨ !t.isNamed then fileIds acc rest
    else
      let (e, c) := acc.2.insert nm (untyped t.id)
      fileIds (acc.1.set i e.resolved, c) rest

/-- Resolves property ids to tags, asking the store once for all names the cache lacks.
The answer has one entry per id, in order, and a zero tag where an id could not be
resolved. A store answer of the wrong length is a broken contract. -/
def resolveNamed {m : Type → Type} [Monad m] [MonadExcept Failure m] (r : NameResolver m)
    (c : NameCache) (ids : List PropertyId) : m (List ResolvedTag × NameCache) := do
  let (first, pending, hits) := c.lookupNamed 0 ids
  r.observe hits pending.length
  if pending.isEmpty then return (first, c)
  let tags ← tryCatch (r.idsOfNames (pending.map Prod.snd))
    fun f => throw (f.wrap "failed to resolve named properties")
  unless tags.length = pending.length do
    throw (Failure.inconsistent ("requested " ++ toString pending.length ++
      " names, store returned " ++ toString tags.length ++ " ids"))
  return fileIds (first, c) (pending.zip tags)

/-! ### From tags to names -/

/-- What the cache alone says of tags: ids below the named range map to themselves, named
ids to their entry; the ids to ask for come with their positions. -/
def lookupIds (c : NameCache) : Nat → List Tag → List ResolvedTag × List (Nat × Tag) × Nat
  | _, [] => ([], [], 0)
  | i, t :: rest =>
    let (rs, pending, hits) := lookupIds c (i + 1) rest
    if t.id < Tag.namedThreshold then (⟨untyped t.id, none⟩ :: rs, pending, hits)
    else
      match c.findId? t.id with
      | some e => (e.resolved :: rs, pending, hits + 1)
      | none => (⟨Tag.null, none⟩ :: rs, (i, untyped t.id) :: pending, hits)

/-- Files the store's names for the asked ids: each name found is cached (unless it is)
and its entry answers for the id from now on. -/
def fileNames (acc : List ResolvedTag × NameCache) : List ((Nat × Tag) × Option NamedId) →
    List ResolvedTag × NameCache
  | [] => acc
  | ((_, _), none) :: rest => fileNames acc rest
  | ((i, t), some nm) :: rest =>
    let (e, c) := acc.2.insert nm t
    fileNames (acc.1.set i e.resolved, c.setId t.id e) rest

/-- Resolves the tags of an object's properties to names, asking the store once for all
named ids the cache lacks. Ids the store cannot name give a zero tag. -/
def resolveIds {m : Type → Type} [Monad m] [MonadExcept Failure m] (r : NameResolver m)
    (c : NameCache) (tags : List Tag) : m (List ResolvedTag × NameCache) := do
  let (first, pending, hits) := c.lookupIds 0 tags
  r.observe hits pending.length
  if pending.isEmpty then return (first, c)
  let names ← tryCatch (r.namesOfIds (pending.map Prod.snd))
    fun f => throw (f.wrap "failed to resolve property names")
  unless names.length = pending.length do
    throw (Failure.inconsistent ("requested " ++ toString pending.length ++
      " ids, store returned " ++ toString names.length ++ " names"))
  return fileNames (first, c) (pending.zip names)

/-! ### Laws -/

theorem insert_find (c : NameCache) (n : NamedId) (t : Tag) :
    ((c.insert n t).2.find? n).isSome := by
  unfold insert
  cases h : c.find? n with
  | some e => simp [h]
  | none =>
    simp only
    split <;> simp [find?, setId]

theorem insert_of_find (c : NameCache) (n : NamedId) (t : Tag) (h : (c.find? n).isSome) :
    (c.insert n t).2 = c := by
  unfold insert
  cases h' : c.find? n with
  | some e => rfl
  | none => simp [h'] at h

theorem lookupNamed_length (c : NameCache) (i : Nat) (ids : List PropertyId) :
    (c.lookupNamed i ids).1.length = ids.length := by
  induction ids generalizing i with
  | nil => rfl
  | cons p rest ih =>
    cases p with
    | numeric n => simp [lookupNamed, ih]
    | named nm =>
      simp only [lookupNamed]
      split <;> simp [ih]

end NameCache

end MailStore
