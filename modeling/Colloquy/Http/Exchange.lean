import Colloquy.Invoker.Transport
import Colloquy.Text.Hexadecimal
/-!
# The service over HTTP

A request to the service is a POST to a path that names the model.  The guardrail goes into headers, the
request itself into the body.  A reply is read as a complete response or as a stream of events.
-/
namespace Colloquy

/-- An HTTP request to the service; header names are in lower case. -/
structure HttpRequest where
  method : String
  path : String
  headers : List (String × String)
  body : String
deriving DecidableEq, Repr

/-- The body of an HTTP reply: plain bytes, or the events of an event stream. -/
inductive HttpBody where
  | bytes (bytes : ByteArray)
  | events (events : List SourceItem)

/-- What came of an HTTP request. -/
inductive HttpReply where
  /-- The connection failed. -/
  | unreachable
  | response (status : Nat) (headers : List Header) (body : HttpBody)

namespace HttpRequest

/-- A byte that stands for itself in a path. -/
def isPlain (b : UInt8) : Bool :=
  let c := Char.ofNat b.toNat
  c.isAlphanum || c == '-' || c == '.' || c == '_' || c == '~'

/-- A byte as it is written in a path. -/
def pathByte (b : UInt8) : List Char :=
  if isPlain b then [Char.ofNat b.toNat]
  else ['%', upperHexDigit (b.toNat / 16), upperHexDigit (b.toNat % 16)]

/-- A text as one segment of a path. -/
def pathSegment (text : String) : String := String.ofList (text.toUTF8.data.toList.flatMap pathByte)

/-- A header value may hold anything but control characters other than tab. -/
def isHeaderValue (text : String) : Bool :=
  text.toList.all fun c => c == '\t' || (decide (' ' ≤ c) && c != '\x7f')

def guardrailHeaders : Option GuardrailTarget → List (String × String)
  | none => []
  | some guardrail =>
    [("x-amzn-bedrock-guardrailidentifier", guardrail.identifier),
      ("x-amzn-bedrock-guardrailversion", guardrail.version)]
      ++ (if guardrail.trace then [("x-amzn-bedrock-trace", "ENABLED")] else [])

/-- The HTTP request that carries a request; none for an empty model id or a guardrail that cannot stand
in a header. -/
def ofRequest? (streaming : Bool) (request : InvokeRequest) : Option HttpRequest :=
  let guardrail := guardrailHeaders request.guardrail
  if request.modelId.isEmpty || !guardrail.all fun header => isHeaderValue header.2 then none
  else
    let action := if streaming then "invoke-with-response-stream" else "invoke"
    let accept := if streaming then "x-amzn-bedrock-accept" else "accept"
    some {
      method := "POST"
      path := "/model/" ++ pathSegment request.modelId ++ "/" ++ action
      headers := [("content-type", request.contentType), (accept, request.accept)] ++ guardrail
      body := request.body }

end HttpRequest

namespace HttpReply

/-- A request failed; its cause is not told. -/
def requestFailed : TransportFailure := ⟨.request, none⟩

def isSuccess (status : Nat) : Bool := decide (200 ≤ status ∧ status < 300)

/-- The headers of a reply that have one value, next to that of its content type. -/
def singleHeaders : List String :=
  ["x-amzn-bedrock-performanceconfig-latency", "x-amzn-bedrock-service-tier"]

/-- Whether a reply succeeds: by its status, and with one value for each header that has one. -/
def succeeds (contentType : String) (status : Nat) (headers : List Header) : Bool :=
  isSuccess status && (contentType :: singleHeaders).all (Header.isNotRepeated headers)

/-- A reply as a complete response.  Events arrive in frames, which are no text. -/
def complete : HttpReply → Except TransportFailure InvokeOutput
  | unreachable => .error requestFailed
  | response status headers body =>
    if succeeds "content-type" status headers then
      match body with
      | .bytes bytes => .ok ⟨bytes, headers⟩
      | .events [] => .ok ⟨ByteArray.empty, headers⟩
      | .events (_ :: _) => .ok ⟨ByteArray.mk #[0], headers⟩
    else .error requestFailed

/-- A reply as a stream.  Plain bytes are no event frames: reading them fails. -/
def events : HttpReply → Except TransportFailure (List SourceItem)
  | unreachable => .error requestFailed
  | response status headers body =>
    if succeeds "x-amzn-bedrock-content-type" status headers then
      match body with
      | .bytes bytes => .ok (if bytes.isEmpty then [] else [.failure ⟨.stream, none⟩])
      | .events events => .ok events
    else .error requestFailed

end HttpReply

namespace Transport

/-- The transport over HTTP that gets a given reply. -/
def http (reply : HttpReply) : Transport :=
  { invoke := fun request =>
      match HttpRequest.ofRequest? false request with
      | some _ => reply.complete
      | none => .error HttpReply.requestFailed
    openStream := fun request =>
      match HttpRequest.ofRequest? true request with
      | some _ => reply.events
      | none => .error HttpReply.requestFailed }

end Transport

end Colloquy
