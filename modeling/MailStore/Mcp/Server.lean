import MailStore.Tool.Registry
import MailStore.Json.Parse

/-!
# The MCP server

Clients talk to the service in JSON-RPC 2.0 over a stream of JSON values, one request per
value. The server answers `initialize`, `ping`, `tools/list` and `tools/call`, and every
other method with the error `-32601`. A request without an id whose method starts with
`notifications/` is a notification and gets no answer; every other request gets one, with
the request's id (or `null`).

A tool call answers with the tool's result written as JSON text in a single text content
item; a tool that fails answers with the error `-32603` and the failure's message, and so
does a result that cannot be written.

The stream is read value after value. A value that is not an object is skipped (`null`
counts as an empty request), and so is an object holding a number beyond the range of a
double. A stream that is not JSON cannot be read past the first
malformed character: serving stops there with `failed to decode request: …`. A stream that
ends inside a value is not a syntax error, which the server skips to read again; but the
decoder keeps the error and gives it on every read after it, so serving never returns.
-/

namespace MailStore

namespace Mcp

/-- The protocol version the server speaks. -/
def protocolVersion : String := "2024-11-05"

mutual
/-- A request id as the answer carries it: numbers pass through a double. -/
def echo : Json → Json
  | .number t =>
    match Binary64.parseJsonNumber? t with
    | some f => .number (Binary64.formatJson f)
    | none => .number t
  | .array xs => .array (echoItems xs)
  | .object ms => .object (echoMembers ms)
  | other => other

/-- Elements as an answer carries them. -/
def echoItems : List Json → List Json
  | [] => []
  | x :: rest => echo x :: echoItems rest

/-- Members as an answer carries them. -/
def echoMembers : List (String × Json) → List (String × Json)
  | [] => []
  | (k, v) :: rest => (k, echo v) :: echoMembers rest
end

mutual
/-- Whether every number in a value lies within the range of a double; a request with a
number beyond it cannot be read into the server's request type and is skipped. -/
def numbersFit : Json → Bool
  | .number t => (Binary64.parseJsonNumber? t).isSome
  | .array xs => numbersFitItems xs
  | .object ms => numbersFitMembers ms
  | _ => true

/-- Whether the numbers of every element fit. -/
def numbersFitItems : List Json → Bool
  | [] => true
  | x :: rest => numbersFit x && numbersFitItems rest

/-- Whether the numbers of every member fit. -/
def numbersFitMembers : List (String × Json) → Bool
  | [] => true
  | (_, v) :: rest => numbersFit v && numbersFitMembers rest
end

/-- An answer. -/
def answer (id result : Json) : Json :=
  Json.sortedObject [("jsonrpc", .str "2.0"), ("id", id), ("result", result)]

/-- An error answer. -/
def failure (id : Json) (code : Int) (message : String) : Json :=
  Json.sortedObject [("jsonrpc", .str "2.0"), ("id", id),
    ("error", Json.sortedObject [("code", .int code), ("message", .str message)])]

/-- A string member of an object; empty when absent or not a string. -/
def text (j : Json) (name : String) : String :=
  match j.get? name with
  | some (.string t) => t.toString
  | _ => ""

/-- An object member of an object; empty when absent or not an object. -/
def objectMember (j : Json) (name : String) : Json :=
  match j.get? name with
  | some (.object ms) => .object ms
  | _ => .object []

variable {σ : Type} [EntityHost σ] (d : Driver (EntityM σ))

/-- Runs a part of a request and keeps its failure as a value. -/
def attempt {α : Type} (x : EntityM σ α) : EntityM σ (Except Failure α) :=
  tryCatch (do pure (.ok (← x))) fun f => pure (.error f)

/-- The answer to one request, if it gets one. -/
def handle (tools : Registry (EntityM σ)) (version : String) (req : Json) :
    EntityM σ (Option Json) := do
  let method := text req "method"
  let id? := req.get? "id"
  if id?.isNone ∧ method.startsWith "notifications/" then return none
  let id := echo (id?.getD .null)
  match method with
  | "initialize" =>
    return some (answer id (Json.sortedObject [("protocolVersion", .str protocolVersion),
      ("capabilities", .object [("tools", .object [])]),
      ("serverInfo", Json.sortedObject [("name", .str "mapi-bridge"), ("version", .str version)])]))
  | "ping" => return some (answer id (.object []))
  | "tools/list" => return some (answer id (.object [("tools", .array tools.definitions)]))
  | "tools/call" =>
    let params := objectMember req "params"
    let name := text params "name"
    if (tools.find? name).isNone then
      return some (failure id (-32601) ("Tool not found: " ++ name))
    match ← attempt (tools.call d name (objectMember params "arguments")) with
    | .error f => return some (failure id (-32603) f.message)
    | .ok (.error e) => return some (failure id (-32603) ("failed to encode result: " ++ e))
    | .ok (.ok j) =>
      return some (answer id (.object [("content", .array [Json.sortedObject
        [("type", .str "text"), ("text", .str j.render)]])]))
  | other => return some (failure id (-32601) ("Method not found: " ++ other))

/-- How serving a stream ends. -/
inductive Ending where
  /-- The stream ended between values: serving returns. -/
  | drained
  /-- A value could not be read: serving returns this error. -/
  | failed (message : String)
  /-- Serving had not returned when its reads ran out. -/
  | spins
  deriving DecidableEq, Repr

/-- The error serving returns. A serve that does not return by itself returns without an
error once its caller cancels it. -/
def Ending.error? : Ending → Option String
  | .failed message => some message
  | _ => none

/-- Answers the requests of a stream, reading it at most `fuel` times; gives the answers
written and how serving ends. -/
def serveChars (tools : Registry (EntityM σ)) (version : String) :
    Nat → List Char → List Json → EntityM σ (List Json × Ending)
  | 0, _, acc => pure (acc.reverse, .spins)
  | fuel + 1, cs, acc =>
    match Json.next cs with
    | .finished => pure (acc.reverse, .drained)
    | .stopped (.malformed m) => pure (acc.reverse, .failed ("failed to decode request: " ++ m))
    -- the cut is no syntax error: it is skipped, and the decoder gives it again
    | .stopped .cutOff => serveChars tools version fuel cs acc
    | .value j rest => do
      let req? := match j with
        | .object ms => if numbersFit (.object ms) then some (Json.object ms) else none
        | .null => some (Json.object [])
        | _ => none
      match req? with
      | some req =>
        match ← handle d tools version req with
        | some r => serveChars tools version fuel rest (r :: acc)
        | none => serveChars tools version fuel rest acc
      | none => serveChars tools version fuel rest acc

/-- Answers every request of a stream, with a read for each character and one more: enough
for every stream that serving returns from. -/
def serve (tools : Registry (EntityM σ)) (version : String) (input : String) :
    EntityM σ (List Json × Ending) :=
  serveChars d tools version (input.length + 1) input.toList []

end Mcp

end MailStore
