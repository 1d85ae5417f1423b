import Colloquy.Guardrail
import Colloquy.Params
import Colloquy.Settings.Placeholder
import Colloquy.Target
/-!
# Settings

The settings of a client: which model it talks to with which defaults, how it reaches the service, which
guardrail is in force, and what is logged.
-/
namespace Colloquy

/-- The model and the defaults of its calls. -/
structure ModelSettings where
  id : String
  baseModelId : Option String
  provider : Option String
  /-- Whether replies are to be streamed. -/
  streaming : Bool
  temperature : Option Binary64
  maxTokens : Option UInt32
  /-- Free-form fields of every request. -/
  extra : Fields
deriving DecidableEq, Repr

/-- How the service is reached. -/
structure AccessSettings where
  region : Option String
  profile : Option String
  accessKeyId : Option String
  secretAccessKey : Option String
  sessionToken : Option String
  /-- Another address of the service, in its normal form. -/
  endpointUrl : Option String
deriving DecidableEq, Repr

/-- What is logged, and in which form. -/
structure TelemetrySettings where
  logFilter : String
  json : Bool
deriving DecidableEq, Repr

structure Settings where
  model : ModelSettings
  access : AccessSettings
  guardrails : Guardrails
  telemetry : TelemetrySettings
deriving DecidableEq, Repr

/-- Why settings are not accepted. -/
inductive SettingsFault where
  | placeholder (fault : PlaceholderFault)
  /-- The text is not a document of the right form. -/
  | unreadable
  | blankModelId
  /-- The model id is a resource name, and no provider is set. -/
  | providerMissing
  /-- One of the two keys is set without the other. -/
  | halfCredentials
  /-- A session token is set without keys. -/
  | looseSessionToken
  /-- One of identifier and version of a guardrail is set without the other. -/
  | halfGuardrail
deriving DecidableEq, Repr

namespace SettingsFault

def message : SettingsFault → String
  | placeholder _ => "config variable expansion failed"
  | unreadable => "failed to parse config"
  | blankModelId => "model.id must not be empty"
  | providerMissing => "model.provider is required when model.id is an ARN"
  | halfCredentials => "aws.access_key_id and aws.secret_access_key must be set together"
  | looseSessionToken => "aws.session_token requires aws.access_key_id and aws.secret_access_key"
  | halfGuardrail => "guardrails.identifier and guardrails.version must be set together"

end SettingsFault

namespace ModelSettings

/-- The target that the settings name. -/
def target (model : ModelSettings) : Target := ⟨model.id, model.baseModelId, model.provider⟩

def params (model : ModelSettings) : Params := ⟨model.temperature, model.maxTokens, model.extra⟩

/-- Moves `temperature` and `max_tokens` out of the free-form fields.  A field that is set already stays;
a value that does not fit the field is dropped. -/
def hoisted (model : ModelSettings) : ModelSettings :=
  { model with
    temperature := model.temperature.orElse fun _ =>
      (Fields.get? model.extra "temperature").bind Json.asFloat?
    maxTokens := model.maxTokens.orElse fun _ =>
      (Fields.get? model.extra "max_tokens").bind Json.asIndex?
    extra := Fields.erase (Fields.erase model.extra "temperature") "max_tokens" }

end ModelSettings

namespace AccessSettings

def empty : AccessSettings := ⟨none, none, none, none, none, none⟩

end AccessSettings

namespace TelemetrySettings

def standard : TelemetrySettings := ⟨"info", false⟩

end TelemetrySettings

namespace Settings

def modelFault? (settings : Settings) : Option SettingsFault :=
  if allBlank settings.model.id then some .blankModelId
  else if Target.isResourceName settings.model.id && settings.model.provider.isNone then
    some .providerMissing
  else none

def accessFault? (settings : Settings) : Option SettingsFault :=
  let access := settings.access
  if access.accessKeyId.isSome != access.secretAccessKey.isSome then some .halfCredentials
  else if access.accessKeyId.isNone && access.sessionToken.isSome then some .looseSessionToken
  else none

def guardrailFault? (settings : Settings) : Option SettingsFault :=
  if settings.guardrails.identifier.isSome != settings.guardrails.version.isSome then
    some .halfGuardrail
  else none

/-- The first thing that is wrong with settings. -/
def fault? (settings : Settings) : Option SettingsFault :=
  (settings.modelFault?.or settings.accessFault?).or settings.guardrailFault?

end Settings

end Colloquy
