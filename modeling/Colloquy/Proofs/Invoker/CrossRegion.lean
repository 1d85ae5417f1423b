import Colloquy.Proofs.Invoker.Conversation
import Colloquy.Proofs.Target
/-!
# Calls for cross-region model ids

A model can be reached through a cross-region profile, whose id is that of the model with a region in front.
Of its target an invoker uses the provider, whether the model is a Claude model, and the model id itself, which
is only handed on.  So a call is prepared for the profile as for the model, and goes to the other id.

Results:
* `Invoker.prepare_withTarget`: what a call has of the target of its invoker.
* `Invoker.region_transparent`: the invokers for a model id with and without a region in front.
-/
namespace Colloquy

/-- The same request for another model id. -/
def InvokeRequest.withModelId (request : InvokeRequest) (modelId : String) : InvokeRequest :=
  { request with modelId }

def Prepared.withModelId (prepared : Prepared) (modelId : String) : Prepared :=
  { prepared with request := prepared.request.withModelId modelId }

namespace Invoker

theorem ofTarget_of_takesProvider {target : Target} {provider : Provider}
    (h : target.TakesProvider provider.name) (defaults : Params) (guardrails : Guardrails) :
    ofTarget target defaults guardrails = .ok ⟨target, provider, defaults, guardrails⟩ := by
  rw [ofTarget, Target.resolveProvider_eq_ok_iff.mpr h]
  rfl

section

variable {invoker : Invoker} {target : Target} (h : target.isClaude = invoker.target.isClaude)

include h

theorem requestOf_withTarget (call : Call) :
    { invoker with target }.requestOf call = invoker.requestOf call := by
  have input : { invoker with target }.inputOf call = invoker.inputOf call := by
    unfold inputOf
    rw [h]
    rfl
  rw [requestOf, input]
  rfl

theorem decodeOptionsOf_withTarget (call : Call) :
    { invoker with target }.decodeOptionsOf call = invoker.decodeOptionsOf call := by
  have coerces : { invoker with target }.coercesToText call = invoker.coercesToText call := by
    unfold coercesToText
    rw [h]
    rfl
  rw [decodeOptionsOf, coerces]
  rfl

theorem streamingRequestOf_withTarget (call : Call) :
    { invoker with target }.streamingRequestOf call = invoker.streamingRequestOf call := by
  rw [streamingRequestOf, requestOf_withTarget h, decodeOptionsOf_withTarget h]
  rfl

theorem preparedOf_withTarget (call : Call) (body : Json) :
    { invoker with target }.preparedOf call body
      = (invoker.preparedOf call body).withModelId target.modelId := by
  rw [preparedOf, decodeOptionsOf_withTarget h]
  rfl

/-- For another target of the same family the same call is prepared, or fails in the same way; only the model id
is that of the other target. -/
theorem prepare_withTarget (call : Call) (streaming : Bool) :
    { invoker with target }.prepare call streaming
      = (invoker.prepare call streaming).map fun prepared => prepared.withModelId target.modelId := by
  rw [prepare_eq, prepare_eq, streamingRequestOf_withTarget h, requestOf_withTarget h]
  cases (if streaming then invoker.streamingRequestOf call else .ok (invoker.requestOf call)) with
  | error failure => rfl
  | ok request =>
    show request.body.map _ = (request.body.map _).map _
    cases request.body with
    | error failure => rfl
    | ok body => exact congrArg Except.ok (preparedOf_withTarget h call body)

end

/-- A region in front of a model id that starts with the name of a provider is seen by no call: the invokers for
both ids have this provider and agree on whether the model is a Claude model, and whatever call one of them
prepares, streaming or not, the other one prepares too, with the same body, guardrail and way to decode the
answer, or refuses with the same failure.  The requests differ in the model id only. -/
theorem region_transparent {region modelId : String} (hr : Target.IsRegion region) (provider : Provider)
    (hm : Target.firstSegment modelId = provider.name) (defaults : Params) (guardrails : Guardrails) :
    let plain : Target := ⟨modelId, none, none⟩
    let regional : Target := ⟨region ++ "." ++ modelId, none, none⟩
    ofTarget plain defaults guardrails = .ok ⟨plain, provider, defaults, guardrails⟩ ∧
      ofTarget regional defaults guardrails = .ok ⟨regional, provider, defaults, guardrails⟩ ∧
      regional.isClaude = plain.isClaude ∧
      ∀ call streaming, prepare ⟨regional, provider, defaults, guardrails⟩ call streaming
        = (prepare ⟨plain, provider, defaults, guardrails⟩ call streaming).map
            fun prepared => prepared.withModelId (region ++ "." ++ modelId) := by
  intro plain regional
  have family : regional.isClaude = plain.isClaude := Target.isClaude_regional hm hr
  refine ⟨ofTarget_of_takesProvider (Target.takesProvider_plain hm) defaults guardrails,
    ofTarget_of_takesProvider (Target.takesProvider_regional hm hr) defaults guardrails, family, ?_⟩
  exact @prepare_withTarget ⟨plain, provider, defaults, guardrails⟩ regional family

/-- A Claude model behind a region in capital letters: its answer is streamed as it is, since the call has
tools. -/
theorem region_transparent_claude :
    let plain : Target := ⟨"anthropic.claude-3-haiku-20240307-v1:0", none, none⟩
    let regional : Target := ⟨"US-Gov.anthropic.claude-3-haiku-20240307-v1:0", none, none⟩
    let call : Call := ⟨.conversation [], none, none, [], [("tools", .arr [])]⟩
    Target.IsRegion "US-Gov" ∧ Target.firstSegment plain.modelId = Provider.anthropic.name ∧
      regional.isClaude = true ∧
      ∃ invoker, ofTarget regional .empty .none = .ok invoker ∧ invoker.provider = .anthropic ∧
        ∃ prepared, invoker.prepare call true = .ok prepared ∧ prepared.decode = .messages false ∧
          prepared.request.modelId = regional.modelId := by
  intro plain regional call
  have hr : Target.IsRegion "US-Gov" := by decide
  have hm : Target.firstSegment plain.modelId = Provider.anthropic.name := by decide
  obtain ⟨-, built, family, same⟩ := region_transparent hr .anthropic hm .empty .none
  have plainly := @prepare_conversation ⟨plain, .anthropic, .empty, .none⟩ call [] rfl rfl true
  have regionally := same call true
  rw [plainly] at regionally
  exact ⟨hr, hm, family.trans (by decide), _, built, rfl, _, regionally, by decide, rfl⟩

end Invoker

end Colloquy
