import MailStore.Console.NameScript

/-!
# Scripts over property fetches

A `props` request runs steps against one object held in memory, with a registry of names
for its store. Steps fetch properties (some columns, or all), decode raw properties the
way a fetch of all properties does, list the cached names, or queue faults. A fetched
stream is read as many times as the step asks, optionally closed before or after; each
read shows its own outcome. The request's answer also counts the streams that were opened
and never released.
-/

namespace MailStore

namespace Console

section Fetched

variable {σ : Type} [Rigged σ]

/-- Runs a step part and keeps its failure as a value. -/
def attempt {α : Type} (x : ScriptM σ α) : ScriptM σ (Except Failure α) :=
  tryCatch (do pure (Except.ok (← x))) fun f => pure (Except.error f)

/-- The outcome of closing a stream: `ok` or the failure. -/
def closeOutcome : Except Failure Unit → Json
  | .ok () => .str "ok"
  | .error f => failed f

/-- A fetched property as the console shows it. A stream is closed first when
`closeFirst` is set, then read `reads` times (a list of outcomes, `null` for none), then
closed when `closeAfter` is set. -/
def showProperty (reads : Nat) (closeFirst closeAfter : Bool) (p : Property) :
    ScriptM σ Json := do
  let base := [("id", propertyId p.id), ("value", value p.value)]
  match p.value with
  | some (.stream r) =>
    let first ← if closeFirst then do
        let c ← attempt (Stream.close Script.streams r)
        pure [("close", closeOutcome c)]
      else pure []
    let outcomes ← (List.replicate reads ()).mapM fun _ => do
      let v ← attempt (Stream.materialize Script.streams r)
      pure (answer (v.map value))
    let shown := if outcomes.isEmpty then Json.null else .array outcomes
    let after ← if closeAfter then do
        let c ← attempt (Stream.close Script.streams r)
        pure [("close_after", closeOutcome c)]
      else pure []
    pure (.object (base ++ first ++ [("reads", shown)] ++ after))
  | _ => pure (.object base)

/-- How a step wants fetched streams handled: reads (one by default), `close_first`,
`close_after`. -/
def streamHandling (req : Json) : Except Failure (Nat × Bool × Bool) := do
  let reads ← match field? req "reads" with
    | some j => intOf j
    | none => pure 1
  pure (reads.toNat, ← boolField req "close_first", ← boolField req "close_after")

/-- The columns of a step; none when absent or not a list. -/
def columnsOf (req : Json) : Except Failure (List Column) :=
  match field? req "columns" with
  | some (.array xs) => xs.mapM columnOf
  | _ => .ok []

end Fetched

/-- The state of a property script: the object's properties, inline limit and reported
stream sizes, its store's registry, the name cache, and the rig. -/
structure PropBench where
  /-- The stored properties, in order. -/
  props : List RawProp
  /-- The longest value fetched in bulk. -/
  limit : Int
  /-- Sizes that streams of some property ids report instead of their length. -/
  sizes : List (UInt16 × Nat)
  /-- The store's named properties. -/
  registry : NameRegistry
  /-- The session's name cache. -/
  cache : NameCache
  /-- Faults, call counts and streams. -/
  rig : Rig

instance : Rigged PropBench := ⟨PropBench.rig, fun s r => { s with rig := r }⟩

namespace PropBench

/-- The object in memory: fetches count as `get_props`, stream openings as `open_stream`. -/
def object : PropObject (ScriptM PropBench) where
  getProps tags := do
    let kind ← Script.enter (Script.Call.on "get_props" none)
    let s ← get
    let reply := match tags with
      | none => s.props.map fun p => project s.props s.limit p.tag
      | some ts => ts.map (project s.props s.limit)
    pure (reshape kind ⟨Tag.null, []⟩ reply)
  openStream t := do
    discard (Script.enter (Script.Call.on "open_stream" none))
    let s ← get
    match s.props.find? fun p => p.tag.id = t.id with
    | none => throw (Failure.because .noEntry ("property " ++ t.toText))
    | some p =>
      let size := ((s.sizes.find? fun e => e.1 = t.id).map Prod.snd).getD p.data.length
      Script.openStream p.data size true

/-- The registry as the store's resolver. -/
def resolver : NameResolver (ScriptM PropBench) :=
  Script.registryResolver (do return (← get).registry) none true fun _ _ => pure ()

/-- Keeps the name cache. -/
def keep (c : NameCache) : ScriptM PropBench Unit := modify fun s => { s with cache := c }

/-- Runs one step. -/
def step (req : Json) : ScriptM PropBench Json := do
  let what ← Script.read (strField req "do")
  match what with
  | "get" =>
    let columns ← Script.read (columnsOf req)
    let (reads, closeFirst, closeAfter) ← Script.read (streamHandling req)
    let props ← Fetch.getProperties object Script.streams resolver (← get).cache keep columns
    pure (.array (← props.mapM (showProperty reads closeFirst closeAfter)))
  | "decode_all" =>
    let raws ← Script.read ((← Script.read (listField req "raws")).mapM rawPropOf)
    let props ← Fetch.decodeAll resolver (← get).cache keep raws
    pure (.array (← props.mapM (showProperty 0 false false)))
  | "names" => pure (.array (((← get).cache.names .stored).map namedId))
  | "fault" => NameBench.queueFault req
  | other => throw (badRequest ("unknown step " ++ Quote.string other))

/-- The calls of a step. -/
def extra (before after : PropBench) : List (String × Json) :=
  [("calls", Script.callChanges before after)]

end PropBench

/-- Sizes by property id, given as an object whose names are numbers. -/
def streamSizesOf (j : Option Json) : Except Failure (List (UInt16 × Nat)) :=
  match j with
  | some (.object ms) => ms.mapM fun (k, v) => do
    let id ← IntLiteral.readUnsigned k 64
    let n ← match numberText? v with
      | some t => IntLiteral.readUnsigned t 64
      | none => throw (badRequest "stream size: number expected")
    pure (id.toUInt16, n)
  | _ => .ok []

/-- The answer to a `props` request. -/
def propertiesRequest (req : Json) : Except Failure Json := do
  let registry ← NameRegistry.ofJson (← listField req "names")
  let obj := (field? req "object").getD (.object [])
  let props ← (← listField obj "props").mapM rawPropOf
  let limit ← match field? obj "inline_limit" with
    | some j => intOf j
    | none => pure 64
  let sizes ← streamSizesOf (field? obj "stream_sizes")
  let steps ← listField req "steps"
  let start : PropBench := ⟨props, limit, sizes, registry, NameCache.empty, Rig.empty⟩
  let (answers, final) := Script.answerSteps PropBench.step PropBench.extra steps start
  let unclosed := (final.rig.streams.filter fun st => !st.closed).length
  pure (.object [("steps", .array answers), ("unclosed_streams", Json.nat unclosed)])

end Console

end MailStore
