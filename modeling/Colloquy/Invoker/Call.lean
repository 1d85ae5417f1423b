import Colloquy.Guardrail
import Colloquy.Json.Writer
import Colloquy.Request.Body
import Colloquy.Stream.Decoder
import Colloquy.Target
/-!
# Preparing a call

An invoker sends calls to one model.  Before anything is sent, a call is prepared: its fields are put over
the defaults of the model, the request body is written, and it is settled how a stream of the answer will
be decoded.  Whatever is wrong with the call itself shows here.
-/
namespace Colloquy

/-- One call of a model. -/
structure Call where
  input : Input
  system : Option String
  tools : Option (List ToolSpec)
  /-- Stop sequences: sent along for a stream, enforced on the text of a complete reply. -/
  stops : List String
  /-- Fields of this call, over the defaults of the model. -/
  overrides : Fields
deriving DecidableEq, Repr

/-- A request as it is handed to the transport. -/
structure InvokeRequest where
  modelId : String
  /-- The body as JSON text. -/
  body : String
  accept : String
  contentType : String
  guardrail : Option GuardrailTarget
deriving DecidableEq, Repr

/-- A call that is ready to be sent. -/
structure Prepared where
  request : InvokeRequest
  body : Json
  decode : DecodeOptions
deriving DecidableEq, Repr

/-- A model with its defaults. -/
structure Invoker where
  target : Target
  provider : Provider
  defaults : Params
  guardrails : Guardrails
deriving DecidableEq, Repr

namespace InvokeRequest

def jsonType : String := "application/json"

/-- A request with a JSON body and a JSON response. -/
def json (modelId : String) (body : Json) (guardrail : Option GuardrailTarget) : InvokeRequest :=
  ⟨modelId, body.compact, jsonType, jsonType, guardrail⟩

end InvokeRequest

namespace Call

/-- Whether a call brings tools of its own. -/
def hasTools (call : Call) : Bool :=
  match call.tools with
  | some tools => !tools.isEmpty
  | none => false

end Call

namespace Invoker

/-- An invoker for a target; its provider is resolved once. -/
def ofTarget (target : Target) (defaults : Params) (guardrails : Guardrails) :
    Except Failure Invoker :=
  target.resolveProvider.map fun provider => ⟨target, provider, defaults, guardrails⟩

def paramsOf (invoker : Invoker) (call : Call) : Params := invoker.defaults.merged call.overrides

/-- The input of a call; a Claude model that shows its reasoning gets it in front of every earlier turn. -/
def inputOf (invoker : Invoker) (call : Call) : Input :=
  match call.input with
  | .conversation messages =>
    if invoker.target.isClaude && (invoker.paramsOf call).thinkingEnabled then
      .conversation (thinkingFirstInHistory messages)
    else .conversation messages
  | .prompt text => .prompt text

/-- Whether the text of a stream comes as plain text: not for a Claude model with tools or reasoning. -/
def coercesToText (invoker : Invoker) (call : Call) : Bool :=
  let params := invoker.paramsOf call
  !(invoker.target.isClaude && (call.hasTools || params.toolsRequested || params.thinkingEnabled))

/-- How a stream of the answer is decoded. -/
def decodeOptionsOf (invoker : Invoker) (call : Call) : DecodeOptions :=
  if invoker.provider.profile.speaksMessages && call.input.isConversation then
    .messages (invoker.coercesToText call)
  else .completion

/-- The request of a call without anything that streaming adds. -/
def requestOf (invoker : Invoker) (call : Call) : Request :=
  { provider := invoker.provider
    params := invoker.paramsOf call
    input := invoker.inputOf call
    system := call.system
    tools := call.tools }

/-- The request with the field that switches streaming on, where the provider has one. -/
def withStreamFlag (request : Request) : Request :=
  if request.provider = .cohere then
    let extra := Fields.insert request.params.extra "stream" (.bool true)
    { request with params := { request.params with extra := extra } }
  else request

/-- The request of a streaming call; fails if its events could not be decoded or the provider takes no
stop sequences. -/
def streamingRequestOf (invoker : Invoker) (call : Call) : Except Failure Request := do
  let _ ← EventDecoder.ofOptions invoker.provider (invoker.decodeOptionsOf call)
  let request ← (invoker.requestOf call).withStops call.stops
  return withStreamFlag request

/-- Prepares a call without sending it. -/
def prepare (invoker : Invoker) (call : Call) (streaming : Bool) : Except Failure Prepared := do
  let request ← if streaming then invoker.streamingRequestOf call else .ok (invoker.requestOf call)
  let body ← request.body
  return {
    request := .json invoker.target.modelId body invoker.guardrails.target?
    body := body
    decode := invoker.decodeOptionsOf call }

end Invoker

end Colloquy
