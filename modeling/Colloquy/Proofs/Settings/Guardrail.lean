import Colloquy.Proofs.Invoker.Refusal
import Colloquy.Settings.Reader
/-!
# The guardrail of accepted settings

Settings are accepted only if identifier and version of the guardrail are set together; a text counts as
set even when it is empty.  Requests name the guardrail only if neither text is empty.  So settings with one
text that is empty and one that is not are accepted, and requests go out without a guardrail.

Results:
* `Invoker.names`: every request of an invoker names the guardrail of its settings.
* `Settings.guardrail_set_together`: what is known of the guardrail of accepted settings.
* `Settings.named_guardrail_sent`: which guardrail the requests of accepted settings name.
-/
namespace Colloquy

namespace Guardrails

/-- Whether the settings name a guardrail: by an identifier or a version that is not empty. -/
def IsNamed (guardrails : Guardrails) : Prop :=
  (∃ identifier, guardrails.identifier = some identifier ∧ identifier ≠ "") ∨
    ∃ version, guardrails.version = some version ∧ version ≠ ""

theorem pair?_eq {guardrails : Guardrails} {identifier version : String}
    (hi : guardrails.identifier = some identifier) (hv : guardrails.version = some version) :
    guardrails.pair? =
      if identifier = "" ∨ version = "" then Option.none else some (identifier, version) := by
  rw [pair?, hi, hv]
  by_cases ei : identifier = ""
  · simp [ei]
  · by_cases ev : version = "" <;> simp [ei, ev, Option.filter]

theorem isEnabled_iff {guardrails : Guardrails} {identifier version : String}
    (hi : guardrails.identifier = some identifier) (hv : guardrails.version = some version) :
    guardrails.isEnabled = true ↔ identifier ≠ "" ∧ version ≠ "" := by
  rw [isEnabled, pair?_eq hi hv]
  by_cases h : identifier = "" ∨ version = ""
  · rw [if_pos h]
    exact iff_of_false nofun fun ⟨hi, hv⟩ => h.elim hi hv
  · rw [if_neg h]
    exact iff_of_true rfl (not_or.mp h)

theorem target?_eq {guardrails : Guardrails} {identifier version : String}
    (hi : guardrails.identifier = some identifier) (hv : guardrails.version = some version) :
    guardrails.target? =
      if identifier = "" ∨ version = "" then Option.none
      else some ⟨identifier, version, guardrails.trace⟩ := by
  rw [target?, pair?_eq hi hv]
  split <;> rfl

end Guardrails

namespace Invoker

/-- Whether all requests of an invoker name the same guardrail, or all none: those that it prepares, and
those that it sends. -/
structure Names (invoker : Invoker) (target : Option GuardrailTarget) : Prop where
  prepared : ∀ call streaming prepared, invoker.prepare call streaming = .ok prepared →
    prepared.request.guardrail = target
  invoked : ∀ transport call, ∀ request ∈ (invoker.invoke transport call).sent,
    request.guardrail = target
  streamed : ∀ transport call, ∀ request ∈ (invoker.stream transport call).sent,
    request.guardrail = target
  polled : ∀ transport waits call, ∀ request ∈ (invoker.streamPolled transport waits call).sent,
    request.guardrail = target

theorem prepare_guardrail {invoker : Invoker} {call : Call} {streaming : Bool} {prepared : Prepared}
    (h : invoker.prepare call streaming = .ok prepared) :
    prepared.request.guardrail = invoker.guardrails.target? := by
  rw [prepare_eq] at h
  obtain ⟨request, -, hm⟩ := exists_of_bind h
  obtain ⟨body, -, rfl⟩ := exists_of_map hm
  rfl

/-- Nothing but prepared requests is sent. -/
theorem sent_guardrail {invoker : Invoker} {call : Call} {streaming : Bool} {exchange : Exchange α}
    (h : exchange.Honours (invoker.prepare call streaming)) {request : InvokeRequest}
    (hr : request ∈ exchange.sent) : request.guardrail = invoker.guardrails.target? := by
  cases hp : invoker.prepare call streaming with
  | error failure =>
    obtain ⟨-, he⟩ := h.refused failure hp
    rw [he] at hr
    cases hr
  | ok prepared =>
    obtain ⟨hs, -⟩ := h.sent prepared hp
    rw [hs] at hr
    rw [List.mem_singleton.mp hr]
    exact prepare_guardrail hp

theorem names (invoker : Invoker) : invoker.Names invoker.guardrails.target? where
  prepared _ _ _ h := prepare_guardrail h
  invoked transport call _ h := sent_guardrail (invoker.invoke_honours transport call) h
  streamed transport call _ h := sent_guardrail (invoker.stream_opening transport call).honours h
  polled transport waits call _ h :=
    sent_guardrail (invoker.streamPolled_opening transport waits call).honours h

theorem guardrails_of_ofSettings {model : ModelSettings} {guardrails : Guardrails} {invoker : Invoker}
    (h : ofSettings model guardrails = .ok invoker) : invoker.guardrails = guardrails := by
  obtain ⟨provider, -, rfl⟩ := exists_of_map h
  rfl

end Invoker

namespace Settings

theorem fault?_of_ofText {env : Environment} {text : String} {settings : Settings}
    (h : ofText env text = .ok settings) : settings.fault? = none := by
  unfold ofText at h
  split at h
  · cases h
  · split at h
    · cases h
    · split at h
      · cases h
      · rename_i hf
        cases h
        exact hf

theorem guardrail_set_together {env : Environment} {text : String} {settings : Settings}
    (h : ofText env text = .ok settings) :
    settings.guardrails.identifier.isSome = settings.guardrails.version.isSome := by
  have hf := fault?_of_ofText h
  rw [fault?, Option.or_eq_none_iff] at hf
  have hg := hf.2
  unfold guardrailFault? at hg
  split at hg
  · cases hg
  · rename_i hne
    simpa using hne

/-- The guardrail of accepted settings that name one has an identifier and a version.  It is in force, and
every request of an invoker for these settings names it, exactly if neither of the two is empty; otherwise
no request names a guardrail. -/
theorem named_guardrail_sent {env : Environment} {text : String} {settings : Settings}
    (h : ofText env text = .ok settings) (hn : settings.guardrails.IsNamed) :
    ∃ identifier version, settings.guardrails.identifier = some identifier ∧
      settings.guardrails.version = some version ∧
      (settings.guardrails.isEnabled = true ↔ identifier ≠ "" ∧ version ≠ "") ∧
      ∀ invoker, Invoker.ofSettings settings.model settings.guardrails = .ok invoker →
        invoker.Names (if identifier = "" ∨ version = "" then none
          else some ⟨identifier, version, settings.guardrails.trace⟩) := by
  have together := guardrail_set_together h
  obtain ⟨identifier, hi⟩ : ∃ identifier, settings.guardrails.identifier = some identifier := by
    rcases hn with ⟨identifier, hi, -⟩ | ⟨version, hv, -⟩
    · exact ⟨identifier, hi⟩
    · rw [hv] at together
      exact Option.isSome_iff_exists.mp together
  obtain ⟨version, hv⟩ : ∃ version, settings.guardrails.version = some version := by
    rw [hi] at together
    exact Option.isSome_iff_exists.mp together.symm
  refine ⟨identifier, version, hi, hv, Guardrails.isEnabled_iff hi hv, fun invoker ho => ?_⟩
  have names := invoker.names
  rw [Invoker.guardrails_of_ofSettings ho, Guardrails.target?_eq hi hv] at names
  exact names

/-- A guardrail with identifier and version. -/
theorem named_guardrail_sent_complete :
    ∃ settings, ofText (fun _ => none)
        "[model]\nid=\"meta.a\"\n[guardrails]\nidentifier=\"gr\"\nversion=\"1\"" = .ok settings ∧
      settings.guardrails.IsNamed ∧ settings.guardrails.isEnabled = true ∧
      ∃ invoker, Invoker.ofSettings settings.model settings.guardrails = .ok invoker ∧
        invoker.Names (some ⟨"gr", "1", false⟩) := by
  have h : ofText (fun _ => none)
      "[model]\nid=\"meta.a\"\n[guardrails]\nidentifier=\"gr\"\nversion=\"1\"" =
        .ok ⟨⟨"meta.a", none, none, false, none, none, []⟩, .empty, ⟨some "gr", some "1", false⟩,
          .standard⟩ := eq_ok_of_toOption (by decide +kernel)
  have hn : Guardrails.IsNamed ⟨some "gr", some "1", false⟩ := .inl ⟨"gr", rfl, by decide⟩
  obtain ⟨_, _, hi, hv, enabled, names⟩ := named_guardrail_sent h hn
  cases hi
  cases hv
  exact ⟨_, h, hn, enabled.mpr (by decide), _, rfl, names _ rfl⟩

/-- A guardrail whose version is filled in from a variable that is set to the empty text: the settings are
accepted, and a call goes out without a guardrail. -/
theorem half_named_guardrail_accepted :
    ∃ settings, ofText (fun _ => some "")
        "[model]\nid=\"meta.a\"\n[guardrails]\nidentifier=\"gr\"\nversion=\"\x7b\x7benv.V\x7d\x7d\"" =
          .ok settings ∧
      settings.guardrails.IsNamed ∧ settings.guardrails.isEnabled = false ∧
      ∃ invoker, Invoker.ofSettings settings.model settings.guardrails = .ok invoker ∧
        ∃ prepared, invoker.prepare ⟨.prompt "hi", none, none, [], []⟩ false = .ok prepared ∧
          prepared.request.guardrail = none := by
  have h : ofText (fun _ => some "")
      "[model]\nid=\"meta.a\"\n[guardrails]\nidentifier=\"gr\"\nversion=\"\x7b\x7benv.V\x7d\x7d\"" =
        .ok ⟨⟨"meta.a", none, none, false, none, none, []⟩, .empty, ⟨some "gr", some "", false⟩,
          .standard⟩ := eq_ok_of_toOption (by decide +kernel)
  exact ⟨_, h, .inl ⟨"gr", rfl, by decide⟩, rfl, _, rfl, _, rfl, rfl⟩

end Settings

end Colloquy
