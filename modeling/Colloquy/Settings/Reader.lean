import Colloquy.Invoker.Call
import Colloquy.Settings.Basic
import Colloquy.Toml.Reader
import Colloquy.Url.Reader
/-!
# Reading settings

Settings are a TOML text with placeholders.  Every key must be a known one; all sections but the model
may be missing.  A section is a table, or an array of its fields in order.

* `Settings.ofText`: fills in the placeholders, reads the document, and checks it.
-/
namespace Colloquy

/-- The fields of a section by their position. -/
abbrev Section := Nat → Option Toml

namespace Toml

/-- A value as a section with named fields; other names are refused. -/
def section? (names : List String) : Toml → Option Section
  | table _ entries =>
    if entries.all fun entry => names.contains entry.1 then
      some fun position => names[position]?.bind fun name => find? name entries
    else none
  | array _ items => some fun position => items[position]?
  | _ => none

def asString? : Toml → Option String
  | string s => some s
  | _ => none

def asBool? : Toml → Option Bool
  | boolean b => some b
  | _ => none

/-- Whole numbers are read if 64 bits hold them, with or without sign. -/
def inRange (n : Int) : Bool := decide (-9223372036854775808 ≤ n ∧ n < (UInt64.size : Int))

def asFloat? : Toml → Option Binary64
  | float x => some x
  | integer n => if inRange n then some (Binary64.ofInt n) else none
  | _ => none

def asLimit? : Toml → Option UInt32
  | integer n => if 0 ≤ n ∧ n.toNat < UInt32.size then some (UInt32.ofNat n.toNat) else none
  | _ => none

mutual

/-- A value as free-form JSON.  A date or time becomes an object with its text as only member. -/
def toJson? : Toml → Option Json
  | string s => some (.str s)
  | integer n => if inRange n then some (.int n) else none
  | float x => some (.ofFloat x)
  | boolean b => some (.bool b)
  | datetime text => some (.obj [("$__toml_private_datetime", .str text)])
  | array _ items => (itemsToJson? items).map .arr
  | table _ entries => (entriesToJson? entries).map fun entries => .object entries

def itemsToJson? : List Toml → Option (List Json)
  | [] => some []
  | item :: rest => do
    let item ← toJson? item
    let rest ← itemsToJson? rest
    some (item :: rest)

def entriesToJson? : List (String × Toml) → Option (List (String × Json))
  | [] => some []
  | (key, value) :: rest => do
    let value ← toJson? value
    let rest ← entriesToJson? rest
    some ((key, value) :: rest)

end

/-- A value as free-form fields. -/
def fields? (value : Toml) : Option Fields := value.toJson?.bind Json.asObject?

end Toml

namespace Section

def optional (fields : Section) (position : Nat) (read : Toml → Option α) : Option (Option α) :=
  match fields position with
  | some value => (read value).map some
  | none => some none

def defaulted (fields : Section) (position : Nat) (default : α) (read : Toml → Option α) : Option α :=
  match fields position with
  | some value => read value
  | none => some default

end Section

namespace ModelSettings

def ofToml? (value : Toml) : Option ModelSettings := do
  let fields ← value.section?
    ["id", "base_model_id", "provider", "streaming", "temperature", "max_tokens", "kwargs"]
  let id ← (fields 0).bind Toml.asString?
  let baseModelId ← Section.optional fields 1 Toml.asString?
  let provider ← Section.optional fields 2 Toml.asString?
  let streaming ← Section.defaulted fields 3 false Toml.asBool?
  let temperature ← Section.optional fields 4 Toml.asFloat?
  let maxTokens ← Section.optional fields 5 Toml.asLimit?
  let extra ← Section.defaulted fields 6 [] Toml.fields?
  some ⟨id, baseModelId, provider, streaming, temperature, maxTokens, extra⟩

end ModelSettings

namespace AccessSettings

/-- An address in its normal form. -/
def address? (value : Toml) : Option String :=
  (value.asString?.bind Url.ofText?).map Url.toText

def ofToml? (value : Toml) : Option AccessSettings := do
  let fields ← value.section?
    ["region", "profile", "access_key_id", "secret_access_key", "session_token", "endpoint_url"]
  let region ← Section.optional fields 0 Toml.asString?
  let profile ← Section.optional fields 1 Toml.asString?
  let accessKeyId ← Section.optional fields 2 Toml.asString?
  let secretAccessKey ← Section.optional fields 3 Toml.asString?
  let sessionToken ← Section.optional fields 4 Toml.asString?
  let endpointUrl ← Section.optional fields 5 address?
  some ⟨region, profile, accessKeyId, secretAccessKey, sessionToken, endpointUrl⟩

end AccessSettings

namespace Guardrails

def ofToml? (value : Toml) : Option Guardrails := do
  let fields ← value.section? ["identifier", "version", "trace"]
  let identifier ← Section.optional fields 0 Toml.asString?
  let version ← Section.optional fields 1 Toml.asString?
  let trace ← Section.defaulted fields 2 false Toml.asBool?
  some ⟨identifier, version, trace⟩

end Guardrails

namespace TelemetrySettings

def ofToml? (value : Toml) : Option TelemetrySettings := do
  let fields ← value.section? ["log_filter", "json"]
  let logFilter ← Section.defaulted fields 0 standard.logFilter Toml.asString?
  let json ← Section.defaulted fields 1 standard.json Toml.asBool?
  some ⟨logFilter, json⟩

end TelemetrySettings

namespace Settings

def ofToml? (document : List (String × Toml)) : Option Settings := do
  let fields ← (Toml.table .header document).section? ["model", "aws", "guardrails", "telemetry"]
  let model ← (fields 0).bind ModelSettings.ofToml?
  let access ← Section.defaulted fields 1 .empty AccessSettings.ofToml?
  let guardrails ← Section.defaulted fields 2 .none Guardrails.ofToml?
  let telemetry ← Section.defaulted fields 3 .standard TelemetrySettings.ofToml?
  some ⟨model, access, guardrails, telemetry⟩

/-- The settings in a text whose placeholders are filled in, before any check. -/
def read? (text : String) : Option Settings :=
  ((Toml.ofText? text).bind ofToml?).map fun settings =>
    { settings with model := settings.model.hoisted }

/-- The settings in a text, or why they are not accepted. -/
def ofText (env : Environment) (text : String) : Except SettingsFault Settings :=
  match fillPlaceholders env text with
  | .error fault => .error (.placeholder fault)
  | .ok filled =>
    match read? filled with
    | none => .error .unreadable
    | some settings =>
      match settings.fault? with
      | some fault => .error fault
      | none => .ok settings

end Settings

namespace Invoker

/-- The invoker for the model and guardrail of some settings. -/
def ofSettings (model : ModelSettings) (guardrails : Guardrails) : Except Failure Invoker :=
  ofTarget model.target model.params guardrails

end Invoker

end Colloquy
