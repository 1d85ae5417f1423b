import Colloquy.Failure
import Colloquy.Params
import Colloquy.Prompt
import Colloquy.Request.Reasoning
import Colloquy.Tool
/-!
# Request bodies

A generation request is the same for every provider; its body is not.  The body starts as a copy of the
free-form parameters; the keys of the provider's request shape are put over them.
-/
namespace Colloquy

/-- What a model is asked to continue. -/
inductive Input where
  | prompt (text : String)
  | conversation (messages : List Message)
deriving DecidableEq, Repr

namespace Input

def isConversation : Input → Bool
  | conversation _ => true
  | prompt _ => false

end Input

/-- A generation request. -/
structure Request where
  provider : Provider
  params : Params
  input : Input
  /-- The system prompt of a conversation. -/
  system : Option String
  /-- The tools of a conversation. -/
  tools : Option (List ToolSpec)
deriving DecidableEq, Repr

namespace Request

/-- The version of the conversation protocol that is spoken. -/
def protocolVersion : String := "bedrock-2023-05-31"

/-- The token limit of a conversation or completion that sets none. -/
def defaultLimit : UInt32 := 1024

/-- Sets the token limit under a key, if one is in force. -/
def withLimit (body : Fields) (key : String) (params : Params) : Fields :=
  match params.limit? with
  | some limit => Fields.insert body key (.ofIndex limit)
  | none => body

/-- Sets the token limit under a key: the one in force, or else what the body has already, or else the
default. -/
def withLimitOrDefault (body : Fields) (key : String) (params : Params) : Fields :=
  match params.limit? with
  | some limit => Fields.insert body key (.ofIndex limit)
  | none =>
    if Fields.contains body key then body else Fields.insert body key (.ofIndex defaultLimit)

/-- Sets the temperature, if there is one. -/
def withTemperature (body : Fields) (params : Params) : Fields :=
  match params.temperature with
  | some temperature => Fields.insert body "temperature" (.ofFloat temperature)
  | none => body

/-- Sets a key to a value, if there is one. -/
def withOption (body : Fields) (key : String) : Option Json → Fields
  | some value => Fields.insert body key value
  | none => body

/-- The tools as they are sent: only a list that is not empty. -/
def toolsValue? (request : Request) : Option Json :=
  match request.tools with
  | some (tool :: tools) => some (.arr ((tool :: tools).map ToolSpec.toJson))
  | _ => none

/-- The system prompt as it is sent: only a text that is not empty. -/
def systemValue? (request : Request) : Option Json :=
  (request.system.filter fun text => !text.isEmpty).map .str

/-- The messages as they are sent. -/
def sentMessages (params : Params) (messages : List Message) : List Message :=
  if params.thinkingEnabled then thinkingBeforeToolResult messages else messages

def conversationBody (request : Request) (messages : List Message) : Fields :=
  let params := request.params
  let body := withOption params.extra "tools" request.toolsValue?
  let body := Fields.insert body "anthropic_version" (.str protocolVersion)
  let body := Fields.insert body "messages" (.arr ((sentMessages params messages).map Message.toJson))
  let body := withOption body "system" request.systemValue?
  let body := withLimitOrDefault body "max_tokens" params
  withTemperature body params

/-- The body of a prompt with turns. -/
def turnsBody (params : Params) (prompt : String) : Fields :=
  let text := String.ofList (Prompt.format prompt).text
  let body := Fields.insert params.extra "prompt" (.str text)
  let body := withLimitOrDefault body "max_tokens_to_sample" params
  withTemperature body params

/-- The body of a plain prompt beside its parameters. -/
def flatBody (params : Params) (limitKey : Option String) (prompt : String) : Fields :=
  let body := Fields.insert params.extra "prompt" (.str prompt)
  let body :=
    match limitKey with
    | some key => withLimit body key params
    | none => body
  withTemperature body params

/-- The parameters of a plain prompt that has them in an object of their own. -/
def generationConfig (params : Params) : Fields :=
  withTemperature (withLimit params.extra "maxTokenCount" params) params

/-- The members of the body of a request. -/
def fields (request : Request) : Except Failure Fields :=
  match request.provider.profile.request, request.input with
  | .conversation, .conversation messages => .ok (request.conversationBody messages)
  | .conversation, .prompt text => .ok (turnsBody request.params text)
  | .flat limitKey, .prompt text => .ok (flatBody request.params limitKey text)
  | .textGeneration, .prompt text =>
    .ok [("inputText", .str text), ("textGenerationConfig", .obj (generationConfig request.params))]
  | .flat _, .conversation _ | .textGeneration, .conversation _ =>
    .error (.configuration (.conversationRefused request.provider))

/-- The body of a request; it fails exactly for a conversation with a provider that takes prompts
only. -/
def body (request : Request) : Except Failure Json := request.fields.map .obj

/-- The request with stop sequences among its parameters, under the provider's key for them. -/
def withStops (request : Request) (stops : List String) : Except Failure Request :=
  if stops.isEmpty then .ok request
  else
    match request.provider.profile.stopKey with
    | some key =>
      let extra := Fields.insert request.params.extra key (.arr (stops.map .str))
      .ok { request with params := { request.params with extra := extra } }
    | none => .error (.configuration (.stopsRefused request.provider))

end Request

end Colloquy
