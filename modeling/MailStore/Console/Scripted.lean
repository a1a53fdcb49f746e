import MailStore.Console.Request
import MailStore.Prop.Fetch
import MailStore.Tally

/-!
# Scripted stores

The console drives the library against stores that live in memory and behave as a script
says. Three pieces are common to all of them:

* a `Tally` counts the calls a store receives, under names such as `get_props` or
  `open_folder:inbox`; an answer shows how the counts changed during one step;
* a `FaultQueue` holds failures queued for later calls: each call takes the first fault
  queued under its own key, or else the first under its general key;
* a `NameRegistry` is a store's table of named properties, searched in order;
* a `MemStream` is a property opened as a stream, served from memory.

A script's state holds these in a `Rig`; the steps of a script run in `ScriptM`, where a
failure leaves behind what the step did before it.

A scripted object answers a fetch of a tag from its stored properties: the first property
with the tag's id answers, unless the tag asks for another type (error `0x8004010F`, as for
a missing property) or the value is longer than the object's inline limit (error
`0x8007000E`).

A fault's kind says what it does to the call that takes it: `fail` makes the call fail,
`short` and `long` make a reply one entry shorter or one zero entry longer, and other
kinds are taken without effect.
-/

namespace MailStore

namespace Console

/-! ### Call counts -/

/-- How the counts grew from `before` to `after`, names whose count did not change left
out, as an object sorted by name. -/
def tallyChanges (before after : Tally) : Json :=
  Json.sortedObject ((Tally.growth before after).map fun (name, d) => (name, Json.nat d))

/-! ### Queued faults -/

/-- A queued fault: the key it waits under and its kind. -/
structure Fault where
  /-- The call, or a call and its target as `call:target`. -/
  key : String
  /-- What the fault does: `fail`, `short`, `long`, or a kind a call reads itself. -/
  kind : String
deriving DecidableEq, Repr, Inhabited

/-- Faults in the order they were queued. -/
abbrev FaultQueue := List Fault

namespace FaultQueue

/-- Queues `times` faults of a kind under a key. -/
def push (q : FaultQueue) (key kind : String) (times : Nat) : FaultQueue :=
  q ++ List.replicate times ⟨key, kind⟩

/-- Takes the first fault queued under a key. -/
def takeKey (q : FaultQueue) (key : String) : Option String × FaultQueue :=
  match q.findIdx? fun f => f.key = key with
  | some i => ((q[i]?).map Fault.kind, q.eraseIdx i)
  | none => (none, q)

/-- Takes the fault for a call: the first under any of the keys, tried in order. -/
def take (q : FaultQueue) : List String → Option String × FaultQueue
  | [] => (none, q)
  | key :: rest =>
    match q.takeKey key with
    | (some k, q') => (some k, q')
    | (none, _) => take q rest

end FaultQueue

/-- The failure a `fail` fault gives: the call and its target after the fixed wording. -/
def injected (what : String) : Failure := Failure.because .injected what

/-- A reply as a fault reshapes it: one entry fewer for `short`, one `zero` entry more for
`long`, unchanged otherwise. -/
def reshape {α : Type} (kind : Option String) (zero : α) (reply : List α) : List α :=
  match kind with
  | some "short" => reply.dropLast
  | some "long" => reply ++ [zero]
  | _ => reply

/-! ### Named-property registries -/

/-- A store's named properties with their ids, searched in order. -/
abbrev NameRegistry := List (NamedId × UInt16)

namespace NameRegistry

/-- The tag of each name: the id of the first entry with that name, or the error type
when there is none. -/
def idsOf (r : NameRegistry) (names : List NamedId) : List Tag :=
  names.map fun n =>
    match r.find? fun p => p.1 = n with
    | some (_, id) => Tag.make PropType.unspecified id
    | none => Tag.make PropType.error 0

/-- The name of each tag: that of the first entry with the tag's id, if any. -/
def namesOf (r : NameRegistry) (tags : List Tag) : List (Option NamedId) :=
  tags.map fun t => (r.find? fun p => p.2 = t.id).map Prod.fst

/-- A registry given as `[{"name": id, "id": n}, ...]`. -/
def ofJson (entries : List Json) : Except Failure NameRegistry :=
  entries.mapM fun e => do
    let n ← match field? e "name" with
      | some j => namedIdOf j
      | none => namedIdOf (.object [])
    let id ← natField e "id" 16
    pure (n, id.toUInt16)

end NameRegistry

/-! ### Objects in memory -/

/-- The answer of an object with stored properties to a fetch of one tag. The limit is a
signed number: below zero, every value is too large, the empty one too. -/
def project (props : List RawProp) (limit : Int) (t : Tag) : RawProp :=
  match props.find? fun p => p.tag.id = t.id with
  | none => RawProp.errorProp t.id ErrorCode.notFound
  | some p =>
    if t.type ≠ PropType.unspecified ∧ t.type ≠ p.tag.type then
      RawProp.errorProp t.id ErrorCode.notFound
    else if (p.data.length : Int) > limit then RawProp.errorProp t.id ErrorCode.notEnoughMemory
    else p

/-- A property opened as a stream and served from memory. -/
structure MemStream where
  /-- The bytes not read yet. -/
  rest : Bytes
  /-- The size the stream reports. -/
  size : Nat
  /-- Whether the stream was released. -/
  closed : Bool
  /-- What is known of the stream's value. -/
  state : StreamState
  /-- Whether the stream answers to queued faults and counts its releases. -/
  scripted : Bool

/-- The common part of a script's state: queued faults, call counts and open streams. -/
structure Rig where
  /-- Faults waiting for later calls. -/
  faults : FaultQueue
  /-- Calls received. -/
  tally : Tally
  /-- Streams by handle. -/
  streams : List MemStream

/-- The empty rig. -/
def Rig.empty : Rig := ⟨[], [], []⟩

/-- A script state that holds a rig. -/
class Rigged (σ : Type) where
  /-- The rig of a state. -/
  rig : σ → Rig
  /-- The state with another rig. -/
  setRig : σ → Rig → σ

/-- Steps of a script over a state `σ`: they fail with a failure, and what they did to the
state stays when they fail. -/
abbrev ScriptM (σ : Type) := ExceptT Failure (StateM σ)

namespace Script

variable {σ : Type} [Rigged σ]

/-- Changes the rig. -/
def modifyRig (f : Rig → Rig) : ScriptM σ Unit :=
  modify fun s => Rigged.setRig s (f (Rigged.rig s))

/-- The rig. -/
def rig : ScriptM σ Rig := do return Rigged.rig (← get)

/-- Counts `n` calls under a name. -/
def count (name : String) (n : Nat) : ScriptM σ Unit :=
  modifyRig fun r => { r with tally := r.tally.bump name n }

/-- Takes the fault queued for a call under the first of the keys that has one; a `fail`
fault fails the call with `injected failure: what`. -/
def fault (keys : List String) (what : String) : ScriptM σ (Option String) := do
  let (kind, faults) := (← rig).faults.take keys
  modifyRig fun r => { r with faults := faults }
  if kind = some "fail" then throw (injected what)
  pure kind

/-- Lifts a request reading into a step. -/
def read {α : Type} (r : Except Failure α) : ScriptM σ α :=
  match r with
  | .ok a => pure a
  | .error f => throw f

/-- Opens a stream over bytes that reports `size` bytes, and gives its handle. -/
def openStream (data : Bytes) (size : Nat) (scripted : Bool) : ScriptM σ Nat := do
  let r ← rig
  modifyRig fun r => { r with streams := r.streams ++ [⟨data, size, false, .unread, scripted⟩] }
  pure r.streams.length

/-- The stream of a handle. -/
def stream (h : Nat) : ScriptM σ MemStream := do
  match (← rig).streams[h]? with
  | some st => pure st
  | none => throw (Failure.other "no such stream")

/-- Changes the stream of a handle. -/
def setStream (h : Nat) (f : MemStream → MemStream) : ScriptM σ Unit :=
  modifyRig fun r => { r with streams := r.streams.modify h f }

/-- The streams in memory. A scripted stream counts its releases as `stream_close` and
answers to the faults `stream_size`, `stream_read` and `stream_close`. -/
def streams : StreamStore (ScriptM σ) where
  size h := do
    let st ← stream h
    if st.scripted then discard (fault ["stream_size"] "stream_size")
    pure st.size
  read h n := do
    let st ← stream h
    if st.scripted then discard (fault ["stream_read"] "stream_read")
    if st.rest.isEmpty then pure none
    else
      setStream h fun st => { st with rest := st.rest.drop n }
      pure (some (st.rest.take n))
  close h := do
    let st ← stream h
    if st.scripted then
      count "stream_close" 1
      discard (fault ["stream_close"] "stream_close")
    setStream h fun st => { st with closed := true }
  lookup h := do pure (← stream h).state
  record h state := setStream h fun st => { st with state := state }

/-- A call on a target, as counters, faults and failures name it: the counter
`call:target`, the failure text `call target`, and the fault keys `call:target` then `call`.
Without a target all three are the call alone. -/
structure Call where
  /-- The call's counter. -/
  counter : String
  /-- The call as a failure names it. -/
  what : String
  /-- The keys of the faults it takes, in order. -/
  keys : List String

/-- The call `call` on an optional target. -/
def Call.on (call : String) : Option String → Call
  | some t => ⟨call ++ ":" ++ t, call ++ " " ++ t, [call ++ ":" ++ t, call]⟩
  | none => ⟨call, call, [call]⟩

/-- Counts a call and takes its fault. -/
def enter (c : Call) : ScriptM σ (Option String) := do
  count c.counter 1
  fault c.keys c.what

/-- A registry as a store's resolver: each call is counted (with the number of entries
under the counter and `_entries` when `entries` is set), takes its faults, and answers from
the registry; lookups are reported to `observe`. -/
def registryResolver (registry : ScriptM σ NameRegistry) (target : Option String)
    (entries : Bool) (observe : Nat → Nat → ScriptM σ Unit) : NameResolver (ScriptM σ) where
  idsOfNames names := do
    let c := Call.on "ids_from_names" target
    count c.counter 1
    if entries then count (c.counter ++ "_entries") names.length
    let kind ← fault c.keys c.what
    pure (reshape kind Tag.null ((← registry).idsOf names))
  namesOfIds tags := do
    let c := Call.on "names_from_ids" target
    count c.counter 1
    if entries then count (c.counter ++ "_entries") tags.length
    let kind ← fault c.keys c.what
    pure (reshape kind none ((← registry).namesOf tags))
  observe := observe

/-- The answer to one step: its outcome with the members `extra` gives for the state
before and after it. -/
def answerStep (step : Json → ScriptM σ Json) (extra : σ → σ → List (String × Json))
    (req : Json) (s : σ) : Json × σ :=
  let (outcome, s') := (step req).run s
  let main := match outcome with
    | .ok j => [("result", j)]
    | .error f => [("error", Json.str (kindName f.cause)), ("message", Json.str f.message)]
  (.object (main ++ extra s s'), s')

/-- The answers to steps run in order, and the state after the last. -/
def answerSteps (step : Json → ScriptM σ Json) (extra : σ → σ → List (String × Json)) :
    List Json → σ → List Json × σ
  | [], s => ([], s)
  | req :: rest, s =>
    let (j, s) := answerStep step extra req s
    let (js, s) := answerSteps step extra rest s
    (j :: js, s)

/-- The counts of calls that changed from one state to the next. -/
def callChanges (before after : σ) : Json :=
  tallyChanges (Rigged.rig before).tally (Rigged.rig after).tally

end Script

/-! ### Numbering shared entries -/

/-- Keys of shared objects in the order they were first shown; an object's number is its
position, from 1. -/
abbrev RefTable (α : Type) := List α

/-- The number of an object, numbering it if it is new. -/
def RefTable.number {α : Type} [DecidableEq α] (t : RefTable α) (key : α) : Nat × RefTable α :=
  match t.idxOf? key with
  | some i => (i + 1, t)
  | none => (t.length + 1, t ++ [key])

end Console

end MailStore
