import MailStore.Console.Scripted
import MailStore.Prop.NameCache

/-!
# Scripts over the name cache

An `idcache` request runs a list of steps against one `NameCache` whose store is a
registry of names. Steps resolve ids or tags, list the cached names, count them, add names
to the registry, or queue faults for the store's next answers. Every step's answer shows
the store calls it caused (`calls`) and the cache hits and misses it reported (`lookups`).

Resolved tags are shown with the number of the cache entry they came from (`ref`), entries
numbered in the order the answers first show them, so that two answers from one entry can
be told from two equal entries.
-/

namespace MailStore

namespace Console

/-- A resolved tag as the console shows it, numbering its cache entry by `number`. -/
def resolvedTag {σ : Type} (number : Nat → σ → Nat × σ) (r : ResolvedTag) (s : σ) :
    Json × σ :=
  let (ref, s) := match r.name with
    | some (serial, _) =>
      let (n, s) := number serial s
      (Json.nat n, s)
    | none => (Json.null, s)
  (.object [("tag", tag r.tag), ("absent", .bool r.absent),
    ("pid", .str r.propertyId.toText), ("name", Json.opt (namedId ∘ Prod.snd) r.name),
    ("ref", ref)], s)

/-- A list of resolved tags as the console shows it. -/
def resolvedTags {σ : Type} (number : Nat → σ → Nat × σ) : List ResolvedTag → σ → Json × σ
  | [], s => (.array [], s)
  | r :: rest, s =>
    let (j, s) := resolvedTag number r s
    match resolvedTags number rest s with
    | (.array js, s) => (.array (j :: js), s)
    | (other, s) => (other, s)

/-- The state of a name-cache script: the store's registry, the rig, the lookups reported
during the current step, the cache, and the numbers given to cache entries. -/
structure NameBench where
  /-- The store's named properties. -/
  registry : NameRegistry
  /-- Faults and call counts. -/
  rig : Rig
  /-- Cache hits reported during the step. -/
  hits : Nat
  /-- Cache misses reported during the step. -/
  misses : Nat
  /-- The cache under test. -/
  cache : NameCache
  /-- Cache entries in the order answers showed them. -/
  refs : RefTable Nat

instance : Rigged NameBench := ⟨NameBench.rig, fun s r => { s with rig := r }⟩

namespace NameBench

/-- The registry as the cache's store. -/
def resolver : NameResolver (ScriptM NameBench) :=
  Script.registryResolver (do return (← get).registry) none true
    fun h m => modify fun s => { s with hits := s.hits + h, misses := s.misses + m }

/-- Shows resolved tags, numbering the entries they came from. -/
def showResolved (rs : List ResolvedTag) : ScriptM NameBench Json := do
  let s ← get
  let (j, refs) := resolvedTags (fun serial t => t.number serial) rs s.refs
  set { s with refs := refs }
  pure j

/-- A named identifier given under `name`. -/
def nameOf (req : Json) : Except Failure NamedId :=
  match field? req "name" with
  | some j => namedIdOf j
  | none => namedIdOf (.object [])

/-- Queues the fault a step describes. -/
def queueFault {σ : Type} [Rigged σ] (req : Json) : ScriptM σ Json := do
  let callName ← Script.read (strField req "call")
  let kind ← Script.read (strField req "kind")
  let kind := if kind.isEmpty then "fail" else kind
  Script.modifyRig fun r => { r with faults := r.faults.push callName kind 1 }
  pure .null

/-- Runs one step. -/
def step (req : Json) : ScriptM NameBench Json := do
  modify fun s => { s with hits := 0, misses := 0 }
  let what ← Script.read (strField req "do")
  match what with
  | "resolve_named" =>
    let ids ← Script.read ((← Script.read (listField req "ids")).mapM propertyIdOf)
    let (rs, cache) ← (← get).cache.resolveNamed resolver ids
    modify fun s => { s with cache := cache }
    showResolved rs
  | "resolve_ids" =>
    let tags ← Script.read ((← Script.read (listField req "tags")).mapM tagOf)
    let (rs, cache) ← (← get).cache.resolveIds resolver tags
    modify fun s => { s with cache := cache }
    showResolved rs
  | "names" => pure (.array (((← get).cache.names .stored).map namedId))
  | "len" => pure (Json.nat (← get).cache.size)
  | "register" =>
    let n ← Script.read (nameOf req)
    let id ← Script.read (natField req "id" 16)
    modify fun s => { s with registry := s.registry ++ [(n, id.toUInt16)] }
    pure .null
  | "fault" => queueFault req
  | other => throw (badRequest ("unknown step " ++ Quote.string other))

/-- The calls and lookups of a step. -/
def extra (before after : NameBench) : List (String × Json) :=
  [("calls", Script.callChanges before after),
   ("lookups", .object [("hits", Json.nat after.hits), ("misses", Json.nat after.misses)])]

end NameBench

/-- The answer to an `idcache` request. -/
def nameCacheRequest (req : Json) : Except Failure Json := do
  let registry ← NameRegistry.ofJson (← listField req "names")
  let steps ← listField req "steps"
  let start : NameBench := ⟨registry, Rig.empty, 0, 0, NameCache.empty, []⟩
  pure (.array (Script.answerSteps NameBench.step NameBench.extra steps start).1)

end Console

end MailStore
