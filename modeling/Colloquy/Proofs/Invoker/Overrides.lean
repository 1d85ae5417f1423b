import Colloquy.Proofs.Invoker.Opening
import Colloquy.Proofs.Request.Layers
/-!
# The fields of one call

The fields of a call are put over the free-form parameters of the model before the body is written.  The
temperature and the token limit of the model are no free-form parameters: they are put into the body later,
over the fields of the call.

Results:
* `Invoker.prepare_layers`: the layers of the body of a prepared call.
* `Invoker.overrides_sent`: a field of a call is sent unless the model has a temperature or token limit
  under its key.
-/
namespace Colloquy

theorem Provider.stopKey_ne_thinking (provider : Provider) :
    provider.profile.stopKey ≠ some "thinking" := by
  cases provider <;> decide

namespace Invoker

open Request (Holds generationFields? stopLayer)

/-- The flag that switches streaming on, where the provider has one. -/
def flagLayer (provider : Provider) : Fields :=
  if provider = .cohere then [("stream", .bool true)] else []

theorem withStreamFlag_eq (request : Request) :
    ∃ extra, withStreamFlag request = request.withExtra extra ∧
      Holds extra (flagLayer request.provider ++ request.params.extra) := by
  have same := Holds.refl request.params.extra
  rw [withStreamFlag, flagLayer]
  by_cases hc : request.provider = .cohere
  · rw [if_pos hc, if_pos hc]
    exact ⟨_, rfl, same.insert "stream" (.bool true)⟩
  · rw [if_neg hc, if_neg hc]
    exact ⟨_, rfl, same⟩

/-- What streaming adds to the parameters of a call. -/
def added (invoker : Invoker) (call : Call) (streaming : Bool) : Fields :=
  if streaming then flagLayer invoker.provider ++ stopLayer invoker.provider call.stops else []

theorem get?_added_thinking (invoker : Invoker) (call : Call) (streaming : Bool) :
    Fields.get? (invoker.added call streaming) "thinking" = none := by
  refine Fields.get?_eq_none fun h => ?_
  cases streaming with
  | false => cases h
  | true =>
    rw [added, if_pos rfl, List.map_append, List.mem_append] at h
    rcases h with h | h
    · unfold flagLayer at h
      split at h
      · exact absurd h (by decide)
      · cases h
    · unfold stopLayer at h
      split at h
      · cases h
      · rw [List.map_map] at h
        obtain ⟨key, hk, he⟩ := List.mem_map.mp h
        cases he
        exact invoker.provider.stopKey_ne_thinking (Option.mem_toList.mp hk)

/-- A call is sent as it is but for what streaming adds. -/
theorem requested_eq {invoker : Invoker} {call : Call} {streaming : Bool} {request : Request}
    (h : (if streaming then invoker.streamingRequestOf call else .ok (invoker.requestOf call))
      = .ok request) :
    ∃ extra, request = (invoker.requestOf call).withExtra extra ∧
      Holds extra (invoker.added call streaming ++ (invoker.paramsOf call).extra) := by
  cases streaming with
  | false => cases h; exact ⟨_, rfl, .refl _⟩
  | true =>
    obtain ⟨_, -, hb⟩ := exists_of_bind h
    obtain ⟨stopped, hs, he⟩ := exists_of_bind hb
    cases he
    obtain ⟨extra, rfl, hx⟩ := Request.withStops_eq hs
    obtain ⟨flagged, hf, hy⟩ := withStreamFlag_eq ((invoker.requestOf call).withExtra extra)
    rw [hf]
    refine ⟨flagged, rfl, ?_⟩
    rw [added, if_pos rfl, List.append_assoc]
    exact hy.trans hx

theorem paramsOf_holds (invoker : Invoker) {call : Call} (h : call.overrides.Distinct) :
    Holds (invoker.paramsOf call).extra (call.overrides ++ invoker.defaults.extra) := by
  intro key
  rw [Fields.get?_append]
  exact Fields.get?_merge h invoker.defaults.extra key

/-- The layers of the generation fields of a call, the first one on top. -/
def layers (invoker : Invoker) (call : Call) (streaming : Bool) : Fields :=
  let request := invoker.requestOf call
  request.settled ++ request.spoken
    ++ (invoker.added call streaming ++ (call.overrides ++ invoker.defaults.extra))
    ++ request.fallback

/-- The body of a prepared call is what is sent, and its generation fields hold the layers of the call. -/
theorem prepare_layers {invoker : Invoker} {call : Call} (hd : call.overrides.Distinct)
    {streaming : Bool} {prepared : Prepared} (hp : invoker.prepare call streaming = .ok prepared) :
    prepared.request.body = prepared.body.compact ∧
    ∃ generation,
      generationFields? invoker.provider.profile.request prepared.body = some generation ∧
        Holds generation (invoker.layers call streaming) := by
  rw [prepare_eq] at hp
  obtain ⟨request, hr, hm⟩ := exists_of_bind hp
  obtain ⟨body, hb, rfl⟩ := exists_of_map hm
  obtain ⟨fields, hf, rfl⟩ := exists_of_map hb
  obtain ⟨extra, rfl, hx⟩ := requested_eq hr
  have he := hx.trans (invoker.paramsOf_holds hd)
  obtain ⟨generation, hg, hl⟩ := Request.fields_layers hf
  refine ⟨rfl, generation, hg, ?_⟩
  have ht : Fields.get? extra "thinking" = Fields.get? (invoker.paramsOf call).extra "thinking" := by
    rw [hx, Fields.get?_append, invoker.get?_added_thinking call streaming, Option.none_or]
  intro key
  have hk := hl key
  rw [Request.layers, Request.spoken_withExtra ht, Fields.get?_append, Fields.get?_append] at hk
  rw [layers, Fields.get?_append, Fields.get?_append, ← he key]
  exact hk

/-- A call can be sent unless it is a conversation with a provider that takes prompts only. -/
theorem exists_prepared_iff (invoker : Invoker) (call : Call) :
    (∃ prepared, invoker.prepare call false = .ok prepared) ↔
      (call.input.isConversation = true → invoker.provider.profile.speaksMessages = true) := by
  obtain ⟨target, provider, defaults, guardrails⟩ := invoker
  obtain ⟨input, system, tools, stops, overrides⟩ := call
  rw [prepare_eq, if_neg Bool.false_ne_true]
  cases input with
  | prompt text =>
    have hi : (Input.prompt text).isConversation ≠ true := Bool.false_ne_true
    cases provider <;> exact iff_of_true ⟨_, rfl⟩ fun h => absurd h hi
  | conversation messages =>
    have hi : ∃ sent, inputOf ⟨target, provider, defaults, guardrails⟩
        ⟨.conversation messages, system, tools, stops, overrides⟩ = .conversation sent := by
      unfold inputOf
      simp only
      split <;> exact ⟨_, rfl⟩
    obtain ⟨sent, hi⟩ := hi
    simp only [requestOf, Request.body, Request.fields, hi]
    cases provider with
    | anthropic => exact iff_of_true ⟨_, rfl⟩ fun _ => rfl
    | _ =>
      refine iff_of_false ?_ fun h => Bool.false_ne_true (h rfl)
      rintro ⟨prepared, h⟩
      cases h

/-- The keys under which a call itself says something: those of its input, its system prompt, its tools and
the version of the protocol, and when it is streamed those of the flag and the stop sequences. -/
def takenKeys (invoker : Invoker) (call : Call) (streaming : Bool) : List String :=
  ((invoker.requestOf call).spoken ++ invoker.added call streaming).map Prod.fst

/-- What generation fields hold of a call and of the model's defaults. -/
structure Carries (generation : Fields) (invoker : Invoker) (call : Call) (streaming : Bool) : Prop where
  /-- The temperature of the model stands above whatever the call has there. -/
  temperature : ∀ temperature, invoker.defaults.temperature = some temperature →
    Fields.get? generation "temperature" = some (.ofFloat temperature)
  /-- So does its token limit, under the provider's key for it. -/
  limit : ∀ key limit, (invoker.requestOf call).limitKey? = some key →
    invoker.defaults.limit? = some limit → Fields.get? generation key = some (.ofIndex limit)
  /-- Everywhere else the fields of the call are what is sent, whatever the model has. -/
  overrides : ∀ key value, (key, value) ∈ call.overrides → key ∉ invoker.takenKeys call streaming →
    (key = "temperature" → invoker.defaults.temperature = none) →
    ((invoker.requestOf call).limitKey? = some key → invoker.defaults.limit? = none) →
    Fields.get? generation key = some value

theorem carries_of_holds {invoker : Invoker} {call : Call} (hd : call.overrides.Distinct)
    {streaming : Bool} {generation : Fields} (h : Holds generation (invoker.layers call streaming)) :
    Carries generation invoker call streaming where
  temperature := by
    intro temperature ht
    have settled := @Request.get?_settled_temperature (invoker.requestOf call) temperature ht
    rw [h, layers]
    simp only [Fields.get?_append, settled, Option.some_or]
  limit := by
    intro key limit hk hl
    have settled := @Request.get?_settled_limit (invoker.requestOf call) key limit hk hl
    rw [h, layers]
    simp only [Fields.get?_append, settled, Option.some_or]
  overrides := by
    intro key value hm hk ht hl
    obtain ⟨hs, ha⟩ : key ∉ (invoker.requestOf call).spoken.map Prod.fst ∧
        key ∉ (invoker.added call streaming).map Prod.fst := by
      simpa only [takenKeys, List.map_append, List.mem_append, not_or] using hk
    -- None of the layers above those of the call has the key.
    have settled := @Request.get?_settled_eq_none (invoker.requestOf call) key ht hl
    rw [h, layers]
    simp only [Fields.get?_append, settled, Fields.get?_eq_none hs, Fields.get?_eq_none ha,
      Fields.get?_of_mem hd hm, Option.none_or, Option.some_or]

/-- A call can be sent unless it is a conversation with a provider that takes prompts only.  Its body then
carries every field of the call, except those for which the model has a default temperature or a default
token limit: such a default is put over what the call asks for. -/
theorem overrides_sent (invoker : Invoker) (call : Call) (hd : call.overrides.Distinct) :
    ((∃ prepared, invoker.prepare call false = .ok prepared) ↔
      (call.input.isConversation = true → invoker.provider.profile.speaksMessages = true)) ∧
    ∀ streaming prepared, invoker.prepare call streaming = .ok prepared →
      prepared.request.body = prepared.body.compact ∧
      ∃ generation,
        generationFields? invoker.provider.profile.request prepared.body = some generation ∧
          Carries generation invoker call streaming := by
  refine ⟨exists_prepared_iff invoker call, fun streaming prepared hp => ?_⟩
  obtain ⟨hb, generation, hg, hl⟩ := prepare_layers hd hp
  exact ⟨hb, generation, hg, carries_of_holds hd hl⟩

/-- A model without a default temperature, and a call that has one. -/
theorem overrides_sent_temperature :
    let invoker : Invoker :=
      ⟨⟨"mistral.mistral-7b-instruct", none, none⟩, .mistral, ⟨none, some 100, []⟩, .none⟩
    let call : Call := ⟨.prompt "hi", none, none, [], [("temperature", .int 1), ("top_k", .int 5)]⟩
    call.overrides.Distinct ∧
    ∃ prepared generation, invoker.prepare call false = .ok prepared ∧
      generationFields? invoker.provider.profile.request prepared.body = some generation ∧
      Fields.get? generation "temperature" = some (.int 1) ∧
      Fields.get? generation "top_k" = some (.int 5) ∧
      Fields.get? generation "max_tokens" = some (.int 100) := by
  intro invoker call
  have hd : call.overrides.Distinct := by decide
  obtain ⟨-, hs⟩ := overrides_sent invoker call hd
  obtain ⟨-, generation, hg, carries⟩ := hs false _ rfl
  refine ⟨hd, _, generation, rfl, hg, ?_, ?_, carries.limit _ _ rfl rfl⟩
  · exact carries.overrides _ _ (by decide) (by decide) (fun _ => rfl) (by decide)
  · exact carries.overrides _ _ (by decide) (by decide) (by decide) (by decide)

/-- A model with a default temperature and a default token limit: what the call asks for is not sent. -/
theorem defaults_sent_over_overrides :
    let half : Binary64 := ⟨4602678819172646912⟩
    let invoker : Invoker :=
      ⟨⟨"mistral.mistral-7b-instruct", none, none⟩, .mistral, ⟨some half, some 100, []⟩, .none⟩
    let call : Call := ⟨.prompt "hi", none, none, [], [("max_tokens", .int 7), ("temperature", .int 1)]⟩
    call.overrides.Distinct ∧
    "max_tokens" ∉ invoker.takenKeys call false ∧ "temperature" ∉ invoker.takenKeys call false ∧
    ∃ prepared generation, invoker.prepare call false = .ok prepared ∧
      generationFields? invoker.provider.profile.request prepared.body = some generation ∧
      Fields.get? generation "max_tokens" = some (.int 100) ∧
      Fields.get? generation "temperature" = some (.float half) :=
  ⟨by decide, by decide, by decide, _, _, rfl, rfl, rfl, rfl⟩

end Invoker

end Colloquy
