import Colloquy.Json.Basic
/-!
# Guardrails

A guardrail of the service may block or change what a model is told or says.  A response body or event
then carries an action and, if asked for, a trace.
-/
namespace Colloquy

/-- The guardrail settings of a model. -/
structure Guardrails where
  identifier : Option String
  version : Option String
  /-- Whether to ask for a trace and report interventions. -/
  trace : Bool
deriving DecidableEq, Repr

/-- The guardrail that a request names. -/
structure GuardrailTarget where
  identifier : String
  version : String
  trace : Bool
deriving DecidableEq, Repr

/-- What a response body or event says about guardrails. -/
structure GuardrailSignal where
  intervened : Bool
  reason : Option String
  trace : Option Json
deriving DecidableEq, Repr

namespace Guardrails

def none : Guardrails := ⟨Option.none, Option.none, false⟩

/-- The identifier and version, if both are set and not empty. -/
def pair? (guardrails : Guardrails) : Option (String × String) := do
  let identifier ← guardrails.identifier.filter fun text => !text.isEmpty
  let version ← guardrails.version.filter fun text => !text.isEmpty
  some (identifier, version)

/-- Whether requests name a guardrail. -/
def isEnabled (guardrails : Guardrails) : Bool := guardrails.pair?.isSome

/-- Whether interventions are reported. -/
def reports (guardrails : Guardrails) : Bool := guardrails.isEnabled && guardrails.trace

def target? (guardrails : Guardrails) : Option GuardrailTarget :=
  guardrails.pair?.map fun (identifier, version) => ⟨identifier, version, guardrails.trace⟩

end Guardrails

namespace GuardrailSignal

def actionKey : String := "amazon-bedrock-guardrailAction"

def traceKey : String := "amazon-bedrock-trace"

/-- No intervention. -/
def silent : GuardrailSignal := ⟨false, none, none⟩

/-- Whether the members of a body or event state an intervention. -/
def isIntervention (fields : Fields) : Bool :=
  (Fields.get? fields actionKey).bind Json.asString? == some "INTERVENED"

/-- What the members of a body or event say. -/
def ofFields (fields : Fields) : GuardrailSignal :=
  if isIntervention fields then
    ⟨true, some "GUARDRAIL_INTERVENED", Fields.get? fields traceKey⟩
  else silent

/-- What a value says; only an object says anything. -/
def ofJson (value : Json) : GuardrailSignal :=
  match value.asObject? with
  | some fields => ofFields fields
  | none => silent

end GuardrailSignal

end Colloquy
