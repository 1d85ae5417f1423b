import Colloquy.Provider
/-!
# Failures

What can go wrong between a call and its answer, as causes.  `Failure.message` gives each its wording.
Configuration failures are found before anything is sent; all others come after.
-/
namespace Colloquy

/-- The stage at which the transport failed. -/
inductive TransportStage where
  /-- The request was refused or could not be sent. -/
  | request
  /-- The event stream broke after it was opened. -/
  | stream
  /-- The task that ran a blocking transport in the background broke down. -/
  | background
deriving DecidableEq, Repr

/-- A failure of the transport itself, with what it tells about the cause. -/
structure TransportFailure where
  stage : TransportStage
  detail : Option String
deriving DecidableEq, Repr

namespace TransportStage

def text : TransportStage → String
  | request => "request failed"
  | stream => "event stream failed"
  | background => "background task failed"

end TransportStage

namespace TransportFailure

def message (failure : TransportFailure) : String :=
  match failure.detail with
  | some detail => failure.stage.text ++ ": " ++ detail
  | none => failure.stage.text

end TransportFailure

/-- Why a call cannot be made in this configuration. -/
inductive ConfigurationFault where
  /-- The model id is a resource name, which does not name its provider. -/
  | providerNeeded (modelId : String)
  /-- A conversation for a provider that takes prompts only. -/
  | conversationRefused (provider : Provider)
  /-- Stop sequences for a provider without a key for them. -/
  | stopsRefused (provider : Provider)
  /-- Messages events of a provider that does not stream them. -/
  | messagesNotStreamed (provider : Provider)
  /-- Completion events of a provider whose output key is not known. -/
  | outputKeyUnknown (provider : Provider)
deriving DecidableEq, Repr

namespace ConfigurationFault

def message : ConfigurationFault → String
  | providerNeeded modelId =>
    "model id " ++ modelId ++ " is an ARN, set the provider explicitly"
  | conversationRefused provider =>
    "provider " ++ provider.name ++ " does not accept chat messages, send a prompt instead"
  | stopsRefused provider => "stop sequences are not supported by provider " ++ provider.name
  | messagesNotStreamed provider =>
    "provider " ++ provider.name ++ " does not stream the messages protocol"
  | outputKeyUnknown provider => "unknown streaming output field for provider " ++ provider.name

end ConfigurationFault

/-- Why something received cannot be understood. -/
inductive DecodeFault where
  /-- The bytes of an event are not JSON. -/
  | event
  /-- The bytes of a response body are not JSON. -/
  | body
  /-- A messages event is not of the form of its type. -/
  | messagesEvent
  /-- The block of a block start is not of the form of its type. -/
  | blockStart
  /-- The delta of a block delta is not of the form of its type. -/
  | blockDelta
  /-- The content of a response body is not a list of blocks. -/
  | responseContent
  | eventNotObject (provider : Provider)
  | eventTextMissing (provider : Provider) (outputKey : String)
  | bodyTextMissing (provider : Provider) (path : List Step)
  | completionNotText
  | contentMissing
  | headerNotCount (name : String) (shown : String)
  | callWithoutId (index : UInt32)
  | callWithoutName (index : UInt32)
  | callArguments (index : UInt32)
deriving DecidableEq, Repr

namespace DecodeFault

def message : DecodeFault → String
  | event => "stream event"
  | body => "response body"
  | messagesEvent => "messages event"
  | blockStart => "content block start"
  | blockDelta => "content block delta"
  | responseContent => "response content"
  | eventNotObject provider => provider.name ++ " stream event is not an object"
  | eventTextMissing provider outputKey =>
    provider.name ++ " stream event is missing text under " ++ outputKey
  | bodyTextMissing provider path =>
    provider.name ++ " response is missing text at " ++ describePath path
  | completionNotText => "completion is not a string"
  | contentMissing => Provider.anthropic.name ++ " response has neither completion nor content"
  | headerNotCount name shown => "header " ++ name ++ " is not a token count: " ++ shown
  | callWithoutId index => "tool call " ++ toString index ++ " has no id"
  | callWithoutName index => "tool call " ++ toString index ++ " has no name"
  | callArguments index => "tool call " ++ toString index ++ " arguments"

end DecodeFault

/-- Why a call or a stream of it failed. -/
inductive Failure where
  | unknownProvider (id : String)
  | configuration (fault : ConfigurationFault)
  | transport (failure : TransportFailure)
  | decode (fault : DecodeFault)
  /-- A request body could not be written.  No definition comes to this: bodies are JSON values, and all of these
  can be written. -/
  | encode (detail : String)
deriving DecidableEq, Repr

namespace Failure

def message : Failure → String
  | unknownProvider id => "unknown provider: " ++ id
  | configuration fault => "configuration error: " ++ fault.message
  | transport failure => "upstream invocation failed: " ++ failure.message
  | decode fault => "decode error: " ++ fault.message
  | encode detail => "failed to encode request body: " ++ detail

/-- Whether the failure was found before anything was sent. -/
def isConfiguration : Failure → Bool
  | unknownProvider _ | configuration _ => true
  | transport _ | decode _ | encode _ => false

end Failure

namespace Provider

/-- The provider with an id, or the failure that says there is none. -/
def resolve (id : String) : Except Failure Provider :=
  match ofName? id with
  | some provider => .ok provider
  | none => .error (.unknownProvider id)

end Provider

end Colloquy
