import Colloquy.Proofs.Invoker.Overrides
import Colloquy.Proofs.Request.Frame
/-!
# What streaming adds to a call

A call can be prepared in two ways, to be answered in one piece or as a stream.  For a stream the stop
sequences are sent along and the provider may want a flag; they go into the free-form parameters before the
body is written.  No request shape has a use for their keys, so both preparations come to the same but for
these fields.

Results:
* `Invoker.streamingRequestOf_eq`: the request of a streaming call.
* `Invoker.streamingRequestOf_fails_iff`: the calls that can only be answered in one piece.
* `Invoker.prepare_plain`, `Invoker.prepare_streamed`: what is prepared, from the fields of a request.
* `Invoker.streaming_only_adds`: the two preparations side by side.
-/
namespace Colloquy

namespace Request

theorem stopKey_not_mem_shapeKeys {request : Request} {key : String}
    (h : request.provider.profile.stopKey = some key) : key ∉ request.shapeKeys := by
  obtain ⟨provider, params, input, system, tools⟩ := request
  cases provider <;> cases h <;> cases input <;> simp [shapeKeys, Provider.profile]

theorem stream_not_mem_shapeKeys (request : Request) : "stream" ∉ request.shapeKeys := by
  obtain ⟨provider, params, input, system, tools⟩ := request
  cases provider <;> cases input <;> simp [shapeKeys, Provider.profile]

theorem withStops_eq_error_iff {request : Request} {stops : List String} :
    (∃ failure, request.withStops stops = .error failure) ↔
      stops ≠ [] ∧ request.provider.profile.stopKey = none := by
  unfold withStops
  cases stops with
  | nil => exact iff_of_false (fun ⟨_, h⟩ => by cases h) fun h => h.1 rfl
  | cons stop stops =>
    cases request.provider.profile.stopKey with
    | some key => exact iff_of_false (fun ⟨_, h⟩ => by cases h) fun h => by cases h.2
    | none => exact iff_of_true ⟨_, rfl⟩ ⟨List.cons_ne_nil _ _, rfl⟩

end Request

namespace Invoker

open Request (Holds stopLayer)

/-- The fields that streaming puts over the free-form parameters. -/
def streamingFields (provider : Provider) (stops : List String) : Fields :=
  stopLayer provider stops ++ flagLayer provider

/-- The request of a call with the fields of streaming put over its free-form parameters. -/
def streamedRequest (invoker : Invoker) (call : Call) : Request :=
  (invoker.requestOf call).withExtra (Fields.merge (invoker.paramsOf call).extra
    (streamingFields invoker.provider call.stops))

theorem withStops_merged {request stopped : Request} {stops : List String}
    (h : request.withStops stops = .ok stopped) :
    stopped = request.withExtra
      (Fields.merge request.params.extra (stopLayer request.provider stops)) := by
  unfold Request.withStops at h
  unfold stopLayer
  by_cases he : stops.isEmpty = true
  · rw [if_pos he] at h ⊢
    cases h
    rfl
  · rw [if_neg he] at h ⊢
    cases hk : request.provider.profile.stopKey with
    | none => simp only [hk] at h; cases h
    | some key =>
      simp only [hk] at h
      cases h
      rfl

theorem withStreamFlag_merged (request : Request) :
    withStreamFlag request
      = request.withExtra (Fields.merge request.params.extra (flagLayer request.provider)) := by
  unfold withStreamFlag flagLayer
  split <;> rfl

theorem streamingRequestOf_eq {invoker : Invoker} {call : Call} {request : Request}
    (h : invoker.streamingRequestOf call = .ok request) : request = invoker.streamedRequest call := by
  obtain ⟨_, -, hb⟩ := exists_of_bind h
  obtain ⟨stopped, hs, he⟩ := exists_of_bind hb
  cases he
  rw [withStops_merged hs, withStreamFlag_merged]
  simp only [streamedRequest, Request.withExtra, requestOf, streamingFields, Fields.merge,
    List.foldl_append]

theorem decoder_fails_iff (invoker : Invoker) (call : Call) :
    (∃ failure, EventDecoder.ofOptions invoker.provider (invoker.decodeOptionsOf call) = .error failure) ↔
      invoker.provider.profile.outputKey = none := by
  obtain ⟨target, provider, defaults, guardrails⟩ := invoker
  obtain ⟨input, system, tools, stops, overrides⟩ := call
  cases provider with
  | ai21 => exact iff_of_true ⟨_, rfl⟩ rfl
  | _ => cases input <;> exact iff_of_false (fun ⟨_, h⟩ => by cases h) fun h => by cases h

/-- A call can be streamed unless its events could not be decoded, or it has stop sequences that the provider
does not take. -/
theorem streamingRequestOf_fails_iff (invoker : Invoker) (call : Call) :
    (∃ failure, invoker.streamingRequestOf call = .error failure) ↔
      invoker.provider.profile.outputKey = none ∨
        (call.stops ≠ [] ∧ invoker.provider.profile.stopKey = none) := by
  have decoder := decoder_fails_iff invoker call
  have stops := @Request.withStops_eq_error_iff (invoker.requestOf call) call.stops
  unfold streamingRequestOf
  constructor
  · rintro ⟨failure, h⟩
    rcases bind_eq_error_iff.mp h with hd | ⟨_, -, h⟩
    · exact .inl (decoder.mp ⟨failure, hd⟩)
    · rcases bind_eq_error_iff.mp h with hs | ⟨_, -, h⟩
      · exact .inr (stops.mp ⟨failure, hs⟩)
      · cases h
  · intro h
    cases hd : EventDecoder.ofOptions invoker.provider (invoker.decodeOptionsOf call) with
    | error failure => exact ⟨failure, rfl⟩
    | ok _ =>
      have hk : invoker.provider.profile.outputKey ≠ none := by
        intro hn
        obtain ⟨failure, he⟩ := decoder.mpr hn
        rw [hd] at he
        cases he
      obtain ⟨failure, hs⟩ := stops.mpr (h.resolve_left hk)
      exact ⟨failure, bind_eq_error_iff.mpr (.inr ⟨_, rfl, bind_eq_error_iff.mpr (.inl hs)⟩)⟩

/-! ## Both preparations -/

section

variable {invoker : Invoker} {call : Call} {fields : Fields}

theorem prepare_plain (hf : (invoker.requestOf call).fields = .ok fields) :
    invoker.prepare call false = .ok (invoker.preparedOf call (.obj fields)) := by
  rw [prepare_eq, if_neg Bool.false_ne_true]
  show (invoker.requestOf call).body.map (invoker.preparedOf call) = _
  rw [Request.body, hf]
  rfl

theorem exists_plain_fields {plain : Prepared} (h : invoker.prepare call false = .ok plain) :
    ∃ fields, (invoker.requestOf call).fields = .ok fields ∧
      plain = invoker.preparedOf call (.obj fields) := by
  rw [prepare_eq, if_neg Bool.false_ne_true] at h
  obtain ⟨request, hr, hm⟩ := exists_of_bind h
  cases hr
  obtain ⟨body, hb, rfl⟩ := exists_of_map hm
  obtain ⟨fields, hf, rfl⟩ := exists_of_map hb
  exact ⟨fields, hf, rfl⟩

theorem prepare_streamed (hr : ¬ ∃ failure, invoker.streamingRequestOf call = .error failure)
    (hf : (invoker.streamedRequest call).fields = .ok fields) :
    invoker.prepare call true = .ok (invoker.preparedOf call (.obj fields)) := by
  rw [prepare_eq, if_pos rfl]
  cases hs : invoker.streamingRequestOf call with
  | error failure => exact absurd ⟨failure, hs⟩ hr
  | ok request =>
    rw [streamingRequestOf_eq hs]
    show (invoker.streamedRequest call).body.map (invoker.preparedOf call) = _
    rw [Request.body, hf]
    rfl

theorem exists_streamed_fields {streamed : Prepared} (h : invoker.prepare call true = .ok streamed) :
    ∃ fields, (invoker.streamedRequest call).fields = .ok fields ∧
      streamed = invoker.preparedOf call (.obj fields) := by
  rw [prepare_eq, if_pos rfl] at h
  obtain ⟨request, hr, hm⟩ := exists_of_bind h
  obtain ⟨body, hb, rfl⟩ := exists_of_map hm
  obtain ⟨fields, hf, rfl⟩ := exists_of_map hb
  rw [streamingRequestOf_eq hr] at hf
  exact ⟨fields, hf, rfl⟩

/-- A call that has a body for an answer in one piece has one for a stream too: what fails is the request. -/
theorem prepare_streaming_fails_iff (ha : ¬ (invoker.requestOf call).IsRefused) :
    (∃ failure, invoker.prepare call true = .error failure) ↔
      ∃ failure, invoker.streamingRequestOf call = .error failure := by
  constructor
  · rintro ⟨failure, h⟩
    by_contra hr
    -- Whether there is a body depends on provider and input, which streaming leaves alone.
    obtain ⟨fields, hf⟩ := (invoker.streamedRequest call).exists_fields_iff.mpr ha
    rw [prepare_streamed hr hf] at h
    cases h
  · rintro ⟨failure, hr⟩
    rw [prepare_eq, if_pos rfl]
    exact ⟨failure, bind_eq_error_iff.mpr (.inl hr)⟩

end

/-! ## What streaming adds -/

/-- What streaming adds to generation fields, and nothing else. -/
structure StreamingAdds (provider : Provider) (stops : List String) (plain streamed : Fields) :
    Prop where
  sequences : stops ≠ [] → ∀ key, provider.profile.stopKey = some key →
    Fields.get? streamed key = some (.arr (stops.map .str))
  flag : provider = .cohere → Fields.get? streamed "stream" = some (.bool true)
  others : ∀ key, (provider.profile.stopKey = some key → stops = []) →
    (provider = .cohere → key ≠ "stream") → Fields.get? streamed key = Fields.get? plain key

theorem streamingFields_distinct (provider : Provider) (stops : List String) :
    (streamingFields provider stops).Distinct := by
  unfold streamingFields stopLayer flagLayer
  split <;> cases provider <;> simp [Provider.profile, Fields.Distinct]

theorem mem_streamingFields_iff {provider : Provider} {stops : List String} {key : String} :
    key ∈ (streamingFields provider stops).map Prod.fst ↔
      (stops ≠ [] ∧ provider.profile.stopKey = some key) ∨ (provider = .cohere ∧ key = "stream") := by
  have hs : key ∈ (stopLayer provider stops).map Prod.fst ↔
      stops ≠ [] ∧ provider.profile.stopKey = some key := by
    unfold stopLayer
    by_cases he : stops = []
    · simp [he]
    · cases hk : provider.profile.stopKey with
      | none => simp [he]
      | some stopKey =>
        simp only [ne_eq, he, List.isEmpty_iff, if_false, not_false_eq_true, true_and]
        exact List.mem_singleton.trans (eq_comm.trans (Option.some_inj).symm)
  have hf : key ∈ (flagLayer provider).map Prod.fst ↔ provider = .cohere ∧ key = "stream" := by
    unfold flagLayer
    by_cases hp : provider = .cohere <;> simp [hp]
  rw [streamingFields, List.map_append, List.mem_append, hs, hf]

theorem not_mem_shapeKeys {request : Request} {stops : List String} {key : String}
    (h : key ∈ (streamingFields request.provider stops).map Prod.fst) : key ∉ request.shapeKeys := by
  rcases mem_streamingFields_iff.mp h with ⟨-, hk⟩ | ⟨-, rfl⟩
  · exact Request.stopKey_not_mem_shapeKeys hk
  · exact request.stream_not_mem_shapeKeys

theorem thinking_not_mem_streamingFields (provider : Provider) (stops : List String) :
    "thinking" ∉ (streamingFields provider stops).map Prod.fst := by
  intro h
  rcases mem_streamingFields_iff.mp h with ⟨-, hk⟩ | ⟨-, hk⟩
  · exact provider.stopKey_ne_thinking hk
  · exact absurd hk (by decide)

theorem get?_thinking_merged (extra : Fields) (provider : Provider) (stops : List String) :
    Fields.get? (Fields.merge extra (streamingFields provider stops)) "thinking"
      = Fields.get? extra "thinking" := by
  rw [Fields.get?_merge (streamingFields_distinct provider stops),
    Fields.get?_eq_none (thinking_not_mem_streamingFields provider stops), Option.none_or]

/-- Generation fields that hold the same but for what streaming adds. -/
theorem streamingAdds_of_get? {provider : Provider} {stops : List String} {plain streamed : Fields}
    (h : ∀ key, Fields.get? streamed key
      = (Fields.get? (streamingFields provider stops) key).or (Fields.get? plain key)) :
    StreamingAdds provider stops plain streamed := by
  have distinct := streamingFields_distinct provider stops
  refine ⟨fun hs key hk => ?_, fun hp => ?_, fun key hk hf => ?_⟩
  · have hm : (key, Json.arr (stops.map .str)) ∈ streamingFields provider stops := by
      simp [streamingFields, stopLayer, hs, hk]
    rw [h, Fields.get?_of_mem distinct hm, Option.some_or]
  · have hm : ("stream", Json.bool true) ∈ streamingFields provider stops := by
      simp [streamingFields, flagLayer, hp]
    rw [h, Fields.get?_of_mem distinct hm, Option.some_or]
  · have hn : key ∉ (streamingFields provider stops).map Prod.fst := by
      intro hm
      rcases mem_streamingFields_iff.mp hm with ⟨hs, he⟩ | ⟨hp, he⟩
      · exact hs (hk he)
      · exact hf hp he
    rw [h, Fields.get?_eq_none hn, Option.none_or]

section

variable {request : Request} {generation streamed : Fields} {stops : List String}

theorem get?_streamed (h : Holds generation request.layers)
    (hs : Holds streamed (request.withExtra (Fields.merge request.params.extra
      (streamingFields request.provider stops))).layers) (key : String) :
    Fields.get? streamed key
      = (Fields.get? (streamingFields request.provider stops) key).or (Fields.get? generation key) := by
  have extra (key : String) := Fields.get?_merge (streamingFields_distinct request.provider stops)
    request.params.extra key
  by_cases hk : key ∈ (streamingFields request.provider stops).map Prod.fst
  · have hn := not_mem_shapeKeys hk
    rw [Request.get?_of_not_mem_shapeKeys h hn]
    exact (Request.get?_of_not_mem_shapeKeys hs hn).trans (extra key)
  · have thinking := get?_thinking_merged request.params.extra request.provider stops
    rw [Fields.get?_eq_none hk, Option.none_or, Request.get?_of_holds h, Request.get?_of_holds hs,
      Request.spoken_withExtra thinking]
    have same : Fields.get? (request.withExtra (Fields.merge request.params.extra
        (streamingFields request.provider stops))).params.extra key
          = Fields.get? request.params.extra key := by
      rw [Request.withExtra, extra key, Fields.get?_eq_none hk, Option.none_or]
    rw [same]
    rfl

end

/-- Streaming only adds the fields of streaming.  A call that can be prepared for a stream can be prepared
for an answer in one piece, with the same request but for its body and to be decoded in the same way.  Both
bodies are built around generation fields that differ in the stop sequences and the flag only; where the
defaults of the model are in order, as those of a map are, the streaming ones are the other ones with these
fields put over them.  Of the calls that can be answered in one piece, those of a provider without stream
events cannot be streamed, nor can those with stop sequences that the provider does not take. -/
theorem streaming_only_adds (invoker : Invoker) (call : Call) :
    (∀ streamed, invoker.prepare call true = .ok streamed →
      ∃ plain, invoker.prepare call false = .ok plain ∧
        plain.decode = streamed.decode ∧
        streamed.request = { plain.request with body := streamed.body.compact } ∧
        plain.request.body = plain.body.compact ∧
        ∃ generation streamedGeneration,
          plain.body = .obj ((invoker.requestOf call).around generation) ∧
          streamed.body = .obj ((invoker.requestOf call).around streamedGeneration) ∧
          StreamingAdds invoker.provider call.stops generation streamedGeneration ∧
          (invoker.defaults.extra.Sorted → streamedGeneration
            = Fields.merge generation (streamingFields invoker.provider call.stops))) ∧
    ∀ plain, invoker.prepare call false = .ok plain →
      ((∃ failure, invoker.prepare call true = .error failure) ↔
        invoker.provider.profile.outputKey = none ∨
          (call.stops ≠ [] ∧ invoker.provider.profile.stopKey = none)) := by
  refine ⟨fun streamed hs => ?_, fun plain hp => ?_⟩
  · obtain ⟨fields, hf, rfl⟩ := exists_streamed_fields hs
    have ha : ¬ (invoker.requestOf call).IsRefused :=
      (invoker.streamedRequest call).exists_fields_iff.mp ⟨fields, hf⟩
    obtain ⟨plainFields, hp⟩ := (invoker.requestOf call).exists_fields_iff.mpr ha
    obtain ⟨streamedGeneration, rfl, hsl, hss⟩ := Request.exists_generation hf
    obtain ⟨generation, rfl, hgl, hgs⟩ := Request.exists_generation hp
    have agree := get?_streamed hgl hsl
    refine ⟨_, prepare_plain hp, rfl, rfl, rfl, generation, streamedGeneration, rfl, rfl,
      streamingAdds_of_get? agree, fun hd => ?_⟩
    have extra : (invoker.paramsOf call).extra.Sorted := hd.merge call.overrides
    refine (hss (extra.merge _)).ext ((hgs extra).merge _) fun key => (agree key).trans ?_
    exact (Fields.get?_merge (streamingFields_distinct _ _) generation key).symm
  · obtain ⟨fields, hf, -⟩ := exists_plain_fields hp
    have ha : ¬ (invoker.requestOf call).IsRefused :=
      (invoker.requestOf call).exists_fields_iff.mp ⟨fields, hf⟩
    rw [prepare_streaming_fails_iff ha, streamingRequestOf_fails_iff]

/-- A provider that wants both, and a call whose fields have the key of the stop sequences already. -/
theorem streaming_only_adds_flag :
    let invoker : Invoker :=
      ⟨⟨"cohere.command-text-v14", none, none⟩, .cohere, ⟨none, some 100, [("p", .int 1)]⟩, .none⟩
    let call : Call := ⟨.prompt "hi", none, none, ["END"], [("stop_sequences", .null)]⟩
    ∃ plain streamed generation, invoker.prepare call true = .ok streamed ∧
      invoker.prepare call false = .ok plain ∧ plain.body = .obj generation ∧
      Fields.get? generation "stop_sequences" = some .null ∧
      streamed.body = .obj (Fields.merge generation
        [("stop_sequences", .arr [.str "END"]), ("stream", .bool true)]) := by
  intro invoker call
  obtain ⟨hs, -⟩ := streaming_only_adds invoker call
  obtain ⟨plain, hp, -, -, -, generation, streamedGeneration, hb, hsb, -, merged⟩ := hs _ rfl
  have sorted : invoker.defaults.extra.Sorted := by decide
  rw [merged sorted] at hsb
  refine ⟨plain, _, generation, rfl, hp, hb, ?_, hsb⟩
  cases hp
  cases hb
  rfl

end Invoker

end Colloquy
