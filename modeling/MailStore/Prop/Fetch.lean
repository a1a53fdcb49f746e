import MailStore.Prop.NameCache
import MailStore.Prop.Column
import MailStore.Prop.Codec
import MailStore.Prop.Stream

/-!
# Fetching properties

An object's properties are fetched in two passes. The first asks for every requested
column in one bulk call, with named columns resolved through the session's name cache.
A value that is too large for the bulk call comes back as the error `0x8007000E`; the
second pass opens each of those as a stream, which the caller reads later. A column whose
name could not be resolved is never streamed.

Asked for no columns, an object gives all its properties, and their named ids are
recovered through the cache; ids that the store cannot name keep their numeric identity.

When a fetch fails after some streams were opened, those streams are released first.
-/

namespace MailStore

/-- The operations of an object whose properties can be fetched. -/
structure PropObject (m : Type → Type) where
  /-- One raw property per tag, or every property for `none`. -/
  getProps : Option (List Tag) → m (List RawProp)
  /-- Opens one property as a stream and gives the stream's handle. -/
  openStream : Tag → m Nat

namespace Fetch

variable {m : Type → Type} [Monad m] [MonadExcept Failure m]

/-- Lifts a result into the effect. -/
def lift {α : Type} : Except Failure α → m α
  | .ok a => pure a
  | .error f => throw f

/-- Releases every unread stream among properties; failures are ignored. -/
def closeAll (s : StreamStore m) : List Property → m Unit
  | [] => pure ()
  | p :: rest => do
    match p.value with
    | some (.stream r) => tryCatch (Stream.close s r) fun _ => pure ()
    | _ => pure ()
    closeAll s rest

/-- Decodes properties whose ids were not known in advance, recovering the names of ids in
the named range through the cache. The cache as it stands after the lookups is passed to
`keep` before anything else can fail. -/
def decodeAll (r : NameResolver m) (cache : NameCache) (keep : NameCache → m Unit)
    (raw : List RawProp) : m (List Property) := do
  let (resolved, cache) ← cache.resolveIds r (raw.map RawProp.tag)
  keep cache
  unless resolved.length = raw.length do
    throw (Failure.inconsistent ("resolved " ++ toString resolved.length ++ " of " ++
      toString raw.length ++ " properties"))
  (raw.zip resolved).mapM fun (p, rt) => do
    let id := if rt.absent then PropertyId.numeric p.tag.id.toUInt32 else rt.propertyId
    pure ⟨id, ← lift (Codec.decode p)⟩

/-- The second pass over the bulk answer: decodes each property, or opens it as a stream
when it was too large and its column resolved. On a failure the streams opened so far are
released. -/
def settle (obj : PropObject m) (s : StreamStore m) (done : List Property) :
    List (Column × Tag × RawProp × Bool) → m (List Property)
  | [] => pure done.reverse
  | (col, t, p, resolved) :: rest => do
    let value ←
      if p.errorCode? = some ErrorCode.notEnoughMemory ∧ resolved then
        tryCatch (do
            let h ← obj.openStream t
            pure (some (Value.stream ⟨h, col.type.streamEncoding⟩)))
          fun f => do
            closeAll s done.reverse
            throw (f.wrap ("failed to open property stream " ++ t.toText))
      else
        match Codec.decode p with
        | .ok v => pure v
        | .error f => do
          closeAll s done.reverse
          throw f
    settle obj s (⟨col.id, value⟩ :: done) rest

/-- Fetches properties of an object: the requested columns in order, or every property
when no column is requested. -/
def getProperties (obj : PropObject m) (s : StreamStore m) (r : NameResolver m)
    (cache : NameCache) (keep : NameCache → m Unit) (columns : List Column) :
    m (List Property) := do
  if columns.isEmpty then
    let raw ← tryCatch (obj.getProps none) fun f => throw (f.wrap "failed to get properties")
    return ← decodeAll r cache keep raw
  let (resolved, cache) ← cache.resolveNamed r (columns.map Column.id)
  keep cache
  unless resolved.length = columns.length do
    throw (Failure.inconsistent ("resolved " ++ toString resolved.length ++ " of " ++
      toString columns.length ++ " columns"))
  let tags ← (columns.zip resolved).mapM fun (col, rt) => do
    let wire ← lift col.type.wireType
    pure (Tag.make wire rt.tag.id)
  let raw ← tryCatch (obj.getProps (some tags)) fun f => throw (f.wrap "failed to get properties")
  unless raw.length = tags.length do
    throw (Failure.inconsistent ("requested " ++ toString tags.length ++ " properties, store returned " ++
      toString raw.length))
  let work := (columns.zip (tags.zip (raw.zip (resolved.map fun rt => !rt.absent)))).map
    fun (c, t, p, ok) => (c, t, p, ok)
  settle obj s [] work

end Fetch

end MailStore
