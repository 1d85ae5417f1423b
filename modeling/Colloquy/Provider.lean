import Colloquy.Json.Path
/-!
# Model providers

Each provider behind the invoke interface has its own request body, response body and stream events.
What they differ in is data: one `Profile` per provider.
-/
namespace Colloquy

/-- The providers that are known. -/
inductive Provider where
  | anthropic
  | amazon
  | ai21
  | cohere
  | metaAI
  | mistral
  | deepseek
  | writer
deriving DecidableEq, Repr

/-- How a request body is laid out. -/
inductive RequestShape where
  /-- `messages` for a conversation, `prompt` with Human and Assistant turns for a prompt. -/
  | conversation
  /-- `prompt` beside the other fields, with the provider's own key for the token limit, if it has
  one. -/
  | flat (limitKey : Option String)
  /-- `inputText`, with all other fields inside `textGenerationConfig`. -/
  | textGeneration
deriving DecidableEq, Repr

/-- Where a complete response body holds the generated text. -/
inductive ResponseShape where
  /-- In `completion`, or else in the text blocks of `content`. -/
  | conversation
  /-- At the end of a path. -/
  | path (steps : List Step)
deriving DecidableEq, Repr

/-- Where the reason for stopping stands in a stream event. -/
inductive ReasonScope where
  /-- In the event itself. -/
  | event
  /-- In the first item under the output key. -/
  | firstOutput
deriving DecidableEq, Repr

/-- The rule by which an event stream in the completion format ends. -/
inductive Ending where
  /-- It ends with its last event. -/
  | exhausted
  /-- It ends before an event that is this text. -/
  | sentinel (text : String)
  /-- It ends before an event with this flag set or with this text under the output key. -/
  | flagged (flag : String) (text : String)
  /-- It ends behind an event with one of these reasons. -/
  | reason (scope : ReasonScope) (stopReasons finishReasons : List String)
deriving DecidableEq, Repr

/-- What distinguishes a provider from the others. -/
structure Profile where
  /-- The key of the generated text in stream events of the completion format. -/
  outputKey : Option String
  /-- Whether the text is under `text` in the first item of an array under `outputKey`. -/
  outputWrapped : Bool
  /-- The request key for stop sequences. -/
  stopKey : Option String
  /-- The metadata key of the reason for stopping. -/
  stopReasonKey : String
  /-- Whether conversations are accepted, and streamed as messages events. -/
  speaksMessages : Bool
  request : RequestShape
  response : ResponseShape
  ending : Ending
deriving DecidableEq, Repr

namespace Provider

def all : List Provider := [anthropic, amazon, ai21, cohere, metaAI, mistral, deepseek, writer]

/-- The id of a provider, as it stands in model ids. -/
def name : Provider → String
  | anthropic => "anthropic"
  | amazon => "amazon"
  | ai21 => "ai21"
  | cohere => "cohere"
  | metaAI => "meta"
  | mistral => "mistral"
  | deepseek => "deepseek"
  | writer => "writer"

/-- The provider with an id; letter case counts. -/
def ofName? (id : String) : Option Provider := all.find? fun p => p.name == id

def profile : Provider → Profile
  | anthropic =>
    { outputKey := some "completion"
      outputWrapped := false
      stopKey := some "stop_sequences"
      stopReasonKey := "stop_reason"
      speaksMessages := true
      request := .conversation
      response := .conversation
      ending := .exhausted }
  | amazon =>
    { outputKey := some "outputText"
      outputWrapped := false
      stopKey := some "stopSequences"
      stopReasonKey := "completionReason"
      speaksMessages := false
      request := .textGeneration
      response := .path [.key "results", .index 0, .key "outputText"]
      ending := .exhausted }
  | ai21 =>
    { outputKey := none
      outputWrapped := false
      stopKey := some "stop_sequences"
      stopReasonKey := "finishReason"
      speaksMessages := false
      request := .flat none
      response := .path [.key "completions", .index 0, .key "data", .key "text"]
      ending := .exhausted }
  | cohere =>
    { outputKey := some "text"
      outputWrapped := false
      stopKey := some "stop_sequences"
      stopReasonKey := "finish_reason"
      speaksMessages := false
      request := .flat (some "max_tokens")
      response := .path [.key "generations", .index 0, .key "text"]
      ending := .flagged "is_finished" "<EOS_TOKEN>" }
  | metaAI =>
    { outputKey := some "generation"
      outputWrapped := false
      stopKey := none
      stopReasonKey := "stop_reason"
      speaksMessages := false
      request := .flat (some "max_gen_len")
      response := .path [.key "generation"]
      ending := .reason .event ["stop"] [] }
  | mistral =>
    { outputKey := some "outputs"
      outputWrapped := true
      stopKey := some "stop_sequences"
      stopReasonKey := "stop_reason"
      speaksMessages := false
      request := .flat (some "max_tokens")
      response := .path [.key "outputs", .index 0, .key "text"]
      ending := .reason .firstOutput ["stop"] [] }
  | deepseek =>
    { outputKey := some "choices"
      outputWrapped := true
      stopKey := none
      stopReasonKey := "stop_reason"
      speaksMessages := false
      request := .flat (some "max_tokens")
      response := .path [.key "choices", .index 0, .key "text"]
      ending := .reason .firstOutput ["stop", "length"] ["eos_token"] }
  | writer =>
    { outputKey := some "choices"
      outputWrapped := true
      stopKey := none
      stopReasonKey := "stop_reason"
      speaksMessages := false
      request := .flat (some "max_tokens")
      response := .path [.key "choices", .index 0, .key "text"]
      ending := .sentinel "[DONE]" }

@[simp] theorem ofName?_name (p : Provider) : ofName? p.name = some p := by
  cases p <;> decide

end Provider

namespace Ending

/-- Whether an event ends the stream before anything of it is passed on. -/
def endsBefore (ending : Ending) (event : Json) (outputKey : String) : Bool :=
  match ending with
  | sentinel text => event.asString? == some text
  | flagged flag text =>
    ((event.get? flag).bind Json.asBool?).getD false
      || (event.get? outputKey).bind Json.asString? == some text
  | exhausted | reason _ _ _ => false

/-- Where an event states its reason for stopping. -/
def reasonHolder? (scope : ReasonScope) (event : Json) (outputKey : String) : Option Json :=
  match scope with
  | .event => some event
  | .firstOutput => (event.get? outputKey).bind fun output => output.item? 0

/-- Whether the text under a key is one of the accepted ones. -/
def namesReason (holder : Json) (key : String) (accepted : List String) : Bool :=
  match (holder.get? key).bind Json.asString? with
  | some text => accepted.contains text
  | none => false

/-- Whether an event ends the stream once it has been passed on. -/
def endsAfter (ending : Ending) (event : Json) (outputKey : String) : Bool :=
  match ending with
  | reason scope stopReasons finishReasons =>
    match reasonHolder? scope event outputKey with
    | some holder =>
      namesReason holder "stop_reason" stopReasons || namesReason holder "finish_reason" finishReasons
    | none => false
  | exhausted | sentinel _ | flagged _ _ => false

end Ending

end Colloquy
