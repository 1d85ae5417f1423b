import Colloquy.Proofs.Request.Layers
import Colloquy.Proofs.Result
/-!
# What a body takes from the free-form parameters

A request shape has a few keys of its own.  Under all other keys the generation fields of a body hold what
the free-form parameters hold there, and nothing where these hold nothing; under its own keys a shape writes
what the request says, and the free-form parameters show only where it says nothing.

Results:
* `Request.exists_generation`: the generation fields inside a body.
* `Request.body_key_by_key`: which requests have a body, and what its generation fields hold.
-/
namespace Colloquy

namespace Request

/-- The keys of its own that a request shape has among the generation fields. -/
def shapeKeys (request : Request) : List String :=
  match request.provider.profile.request, request.input with
  | .conversation, .conversation _ =>
    ["anthropic_version", "max_tokens", "messages", "system", "temperature", "tools"]
  | .conversation, .prompt _ => ["max_tokens_to_sample", "prompt", "temperature"]
  | .flat limitKey, _ => limitKey.toList ++ ["prompt", "temperature"]
  | .textGeneration, _ => ["maxTokenCount", "temperature"]

/-- The members of a body with given generation fields. -/
def around (request : Request) (generation : Fields) : Fields :=
  match request.provider.profile.request, request.input with
  | .textGeneration, .prompt text =>
    [("inputText", .str text), ("textGenerationConfig", .obj generation)]
  | _, _ => generation

/-- Whether a request is a conversation with a provider that takes prompts only. -/
def IsRefused (request : Request) : Prop :=
  request.input.isConversation = true ∧ request.provider.profile.speaksMessages = false

/-- What the generation fields of a body hold, key by key. -/
structure KeyByKey (request : Request) (generation : Fields) : Prop where
  /-- The shape has no use for any other key. -/
  others : ∀ key, key ∉ request.shapeKeys →
    Fields.get? generation key = Fields.get? request.params.extra key
  /-- A temperature that is no finite number has no JSON form: it is written as null. -/
  temperature : Fields.get? generation "temperature"
    = (request.params.temperature.map Json.ofFloat).or (Fields.get? request.params.extra "temperature")
  limit : ∀ key, request.limitKey? = some key → ∀ limit, request.params.maxTokens = some limit →
    0 < limit → Fields.get? generation key = some (.ofIndex limit)
  /-- Without a limit, or with the limit zero, the free-form parameters come before the default. -/
  noLimit : ∀ key, request.limitKey? = some key →
    (request.params.maxTokens = none ∨ request.params.maxTokens = some 0) →
    Fields.get? generation key
      = (Fields.get? request.params.extra key).or
        (if request.provider = .anthropic then some (.int 1024) else none)
  prompt : ∀ text, request.input = .prompt text →
    (request.provider = .anthropic →
      Fields.get? generation "prompt" = some (.str (String.ofList (Prompt.format text).text))) ∧
    (request.provider ≠ .anthropic → request.provider ≠ .amazon →
      Fields.get? generation "prompt" = some (.str text))
  messages : ∀ messages, request.input = .conversation messages →
    Fields.get? generation "messages"
      = some (.arr ((sentMessages request.params messages).map Message.toJson))
  version : request.input.isConversation = true →
    Fields.get? generation "anthropic_version" = some (.str "bedrock-2023-05-31")
  tools : request.input.isConversation = true →
    Fields.get? generation "tools"
      = request.toolsValue?.or (Fields.get? request.params.extra "tools")
  system : request.input.isConversation = true →
    Fields.get? generation "system"
      = request.systemValue?.or (Fields.get? request.params.extra "system")
  /-- The keys stay in order, every key once. -/
  order : request.params.extra.Sorted → generation.Sorted

/-! ## The keys of the layers -/

theorem limitKey_mem_shapeKeys {request : Request} {key : String} (h : request.limitKey? = some key) :
    key ∈ request.shapeKeys := by
  unfold limitKey? at h
  unfold shapeKeys
  split at h <;> simp_all

theorem temperature_mem_shapeKeys (request : Request) : "temperature" ∈ request.shapeKeys := by
  unfold shapeKeys
  split <;> simp

theorem spoken_subset_shapeKeys (request : Request) :
    request.spoken.map Prod.fst ⊆ request.shapeKeys := by
  unfold spoken shapeKeys
  split <;> simp_all [layer]
  all_goals cases request.systemValue? <;> cases request.toolsValue? <;> simp

/-- Only one provider has a default for its token limit. -/
theorem get?_fallback (request : Request) (key : String) :
    Fields.get? request.fallback key =
      if request.limitKey? = some key ∧ request.provider = .anthropic then some (.int 1024)
      else none := by
  obtain ⟨provider, params, input, system, tools⟩ := request
  cases provider with
  | anthropic =>
    cases input <;>
      simp [fallback, limitKey?, Provider.profile, Fields.get?, defaultLimit, Json.ofIndex]
  | _ => simp [fallback, Provider.profile, Fields.get?]

/-- What the request says itself stands under neither the key of the temperature nor that of the limit. -/
theorem get?_spoken_eq_none {request : Request} {key : String}
    (h : key = "temperature" ∨ request.limitKey? = some key) : Fields.get? request.spoken key = none := by
  obtain ⟨provider, params, input, system, tools⟩ := request
  rcases h with rfl | h
  · cases provider <;> cases input <;>
      simp [spoken, Provider.profile, Fields.get?, Fields.get?_append, get?_layer]
  · cases provider <;> cases input <;> simp [limitKey?, Provider.profile] at h <;> subst h <;>
      simp [spoken, Provider.profile, Fields.get?, Fields.get?_append, get?_layer]

theorem exists_messages {input : Input} (h : input.isConversation = true) :
    ∃ messages, input = .conversation messages := by
  cases input with
  | conversation messages => exact ⟨messages, rfl⟩
  | prompt text => cases h

/-! ## The layers, key by key -/

section

variable {request : Request} {generation : Fields} {key : String}

/-- What is found in generation fields that hold the layers of a request. -/
theorem get?_of_holds (h : Holds generation request.layers) (key : String) :
    Fields.get? generation key =
      ((Fields.get? request.settled key).or (Fields.get? request.spoken key)).or
        ((Fields.get? request.params.extra key).or (Fields.get? request.fallback key)) := by
  rw [h, layers]
  simp only [Fields.get?_append, Option.or_assoc]

/-- Under a key that is neither that of the temperature nor that of the limit, what the request says comes
before its free-form parameters. -/
theorem get?_of_holds_unsettled (h : Holds generation request.layers) (ht : key ≠ "temperature")
    (hl : request.limitKey? ≠ some key) :
    Fields.get? generation key =
      (Fields.get? request.spoken key).or (Fields.get? request.params.extra key) := by
  have settled : Fields.get? request.settled key = none :=
    get?_settled_eq_none (fun he => absurd he ht) fun he => absurd he hl
  have fallback : Fields.get? request.fallback key = none := by
    rw [get?_fallback, if_neg fun he => hl he.1]
  rw [get?_of_holds h, settled, fallback, Option.none_or, Option.or_none]

/-- Under a key that the shape has no use for, the free-form parameters are seen. -/
theorem get?_of_not_mem_shapeKeys (h : Holds generation request.layers) (hk : key ∉ request.shapeKeys) :
    Fields.get? generation key = Fields.get? request.params.extra key := by
  have ht : key ≠ "temperature" := by
    rintro rfl
    exact hk request.temperature_mem_shapeKeys
  have hl : request.limitKey? ≠ some key := fun he => hk (limitKey_mem_shapeKeys he)
  have hs : key ∉ request.spoken.map Prod.fst := fun hm => hk (request.spoken_subset_shapeKeys hm)
  rw [get?_of_holds_unsettled h ht hl, Fields.get?_eq_none hs, Option.none_or]

/-- Under the key of the temperature and that of the limit, the request itself says nothing. -/
theorem get?_of_holds_settled (h : Holds generation request.layers)
    (hk : key = "temperature" ∨ request.limitKey? = some key) :
    Fields.get? generation key =
      (Fields.get? request.settled key).or
        ((Fields.get? request.params.extra key).or (Fields.get? request.fallback key)) := by
  rw [get?_of_holds h, get?_spoken_eq_none hk, Option.or_none]

theorem get?_temperature_of_holds (h : Holds generation request.layers) :
    Fields.get? generation "temperature"
      = (request.params.temperature.map Json.ofFloat).or
        (Fields.get? request.params.extra "temperature") := by
  have settled : Fields.get? request.settled "temperature"
      = request.params.temperature.map Json.ofFloat := by
    rw [get?_settled, if_pos rfl, if_neg request.limitKey?_ne_temperature, Option.or_none]
  have fallback : Fields.get? request.fallback "temperature" = none := by
    rw [get?_fallback, if_neg fun he => request.limitKey?_ne_temperature he.1]
  rw [get?_of_holds_settled h (.inl rfl), settled, fallback, Option.or_none]

/-- A limit above zero is in force; zero is as good as none. -/
theorem limit?_eq (params : Params) :
    params.limit? = if params.maxTokens = some 0 then none else params.maxTokens := by
  rw [Params.limit?]
  cases params.maxTokens with
  | none => rfl
  | some limit =>
    by_cases hl : limit = 0
    · subst hl; rfl
    · have hp : 0 < limit := UInt32.pos_iff_ne_zero.mpr hl
      simp [Option.filter, hl, hp]

theorem get?_limit_of_holds (h : Holds generation request.layers)
    (hk : request.limitKey? = some key) :
    Fields.get? generation key
      = (request.params.limit?.map Json.ofIndex).or
        ((Fields.get? request.params.extra key).or
          (if request.provider = .anthropic then some (.int 1024) else none)) := by
  have ht : "temperature" ≠ key := by
    rintro rfl
    exact request.limitKey?_ne_temperature hk
  have settled : Fields.get? request.settled key = request.params.limit?.map Json.ofIndex := by
    rw [get?_settled, if_neg ht, if_pos hk, Option.none_or]
  rw [get?_of_holds_settled h (.inr hk), settled, get?_fallback]
  simp only [hk, true_and]

theorem provider_of_conversation (hi : request.input.isConversation = true)
    (ha : ¬ request.IsRefused) : request.provider = .anthropic := by
  have hs : request.provider.profile.speaksMessages = true := by
    by_contra hn
    exact ha ⟨hi, by simpa using hn⟩
  cases hp : request.provider <;> rw [hp] at hs <;> first | rfl | cases hs

theorem get?_conversation_of_holds (h : Holds generation request.layers) {messages : List Message}
    (hp : request.provider = .anthropic) (hi : request.input = .conversation messages)
    (ht : key ≠ "temperature") (hl : key ≠ "max_tokens") :
    Fields.get? generation key =
      (((if "system" = key then request.systemValue? else none).or
        (Fields.get? [("messages", .arr ((sentMessages request.params messages).map Message.toJson)),
          ("anthropic_version", .str protocolVersion)] key)).or
        (if "tools" = key then request.toolsValue? else none)).or
        (Fields.get? request.params.extra key) := by
  have limit : request.limitKey? ≠ some key := by
    simp only [limitKey?, hp, hi, Provider.profile]
    exact fun he => hl (Option.some.inj he).symm
  have spoken : request.spoken = layer "system" request.systemValue?
      ++ [("messages", .arr ((sentMessages request.params messages).map Message.toJson)),
        ("anthropic_version", .str protocolVersion)]
      ++ layer "tools" request.toolsValue? := by
    simp only [spoken, hp, hi, Provider.profile]
  rw [get?_of_holds_unsettled h ht limit, spoken]
  simp only [Fields.get?_append, get?_layer]

theorem get?_prompt_of_holds (h : Holds generation request.layers) {text : String}
    (hi : request.input = .prompt text) (hp : request.provider ≠ .amazon) :
    Fields.get? generation "prompt" = some (.str
      (if request.provider = .anthropic then String.ofList (Prompt.format text).text else text)) := by
  have limit : request.limitKey? ≠ some "prompt" := by
    obtain ⟨provider, params, input, system, tools⟩ := request
    cases provider <;> cases input <;> simp [limitKey?, Provider.profile]
  have spoken : request.spoken = [("prompt", .str
      (if request.provider = .anthropic then String.ofList (Prompt.format text).text else text))] := by
    obtain ⟨provider, params, input, system, tools⟩ := request
    cases hi
    cases provider with
    | amazon => exact absurd rfl hp
    | _ => rfl
  rw [get?_of_holds_unsettled h (by decide) limit, spoken]
  simp [Fields.get?]

theorem keyByKey_of_holds (h : Holds generation request.layers) (ha : ¬ request.IsRefused)
    (hs : request.params.extra.Sorted → generation.Sorted) : request.KeyByKey generation where
  others := fun key hk => get?_of_not_mem_shapeKeys h hk
  temperature := get?_temperature_of_holds h
  limit := by
    intro key hk limit hm hp
    have hz : limit ≠ 0 := UInt32.pos_iff_ne_zero.mp hp
    rw [get?_limit_of_holds h hk, limit?_eq, hm, if_neg fun he => hz (Option.some.inj he)]
    rfl
  noLimit := by
    intro key hk hm
    have hn : request.params.limit? = none := by
      rw [limit?_eq]
      rcases hm with hm | hm <;> rw [hm] <;> rfl
    rw [get?_limit_of_holds h hk, hn]
    rfl
  prompt := by
    intro text hi
    refine ⟨fun hp => ?_, fun hp hq => ?_⟩
    · rw [get?_prompt_of_holds h hi (by rw [hp]; decide), if_pos hp]
    · rw [get?_prompt_of_holds h hi hq, if_neg hp]
  messages := by
    intro messages hi
    have hp := provider_of_conversation (by rw [hi]; rfl) ha
    rw [get?_conversation_of_holds h hp hi (by decide) (by decide)]
    rfl
  version := by
    intro hc
    obtain ⟨messages, hi⟩ := exists_messages hc
    rw [get?_conversation_of_holds h (provider_of_conversation hc ha) hi (by decide) (by decide)]
    rfl
  tools := by
    intro hc
    obtain ⟨messages, hi⟩ := exists_messages hc
    rw [get?_conversation_of_holds h (provider_of_conversation hc ha) hi (by decide) (by decide)]
    rfl
  system := by
    intro hc
    obtain ⟨messages, hi⟩ := exists_messages hc
    rw [get?_conversation_of_holds h (provider_of_conversation hc ha) hi (by decide) (by decide)]
    simp [Fields.get?]
  order := hs

end

/-! ## The order of the keys -/

section

variable {body : Fields}

theorem withOption_sorted (h : body.Sorted) (key : String) (value : Option Json) :
    (withOption body key value).Sorted := by
  cases value with
  | none => exact h
  | some value => exact h.insert key value

theorem withTemperature_sorted (h : body.Sorted) (params : Params) :
    (withTemperature body params).Sorted := by
  rw [withTemperature_eq]
  exact withOption_sorted h _ _

theorem withLimit_sorted (h : body.Sorted) (key : String) (params : Params) :
    (withLimit body key params).Sorted := by
  rw [withLimit_eq]
  exact withOption_sorted h _ _

theorem withLimitOrDefault_sorted (h : body.Sorted) (key : String) (params : Params) :
    (withLimitOrDefault body key params).Sorted := by
  unfold withLimitOrDefault
  split
  · exact h.insert _ _
  · split
    · exact h
    · exact h.insert _ _

end

theorem conversationBody_sorted {request : Request} (h : request.params.extra.Sorted)
    (messages : List Message) : (request.conversationBody messages).Sorted := by
  have tools := withOption_sorted h "tools" request.toolsValue?
  refine withTemperature_sorted (withLimitOrDefault_sorted (withOption_sorted ?_ _ _) _ _) _
  exact (tools.insert "anthropic_version" _).insert "messages" _

theorem turnsBody_sorted {params : Params} (h : params.extra.Sorted) (prompt : String) :
    (turnsBody params prompt).Sorted :=
  withTemperature_sorted (withLimitOrDefault_sorted (h.insert "prompt" _) _ _) _

theorem flatBody_sorted {params : Params} (h : params.extra.Sorted) (limitKey : Option String)
    (prompt : String) : (flatBody params limitKey prompt).Sorted := by
  refine withTemperature_sorted ?_ _
  cases limitKey with
  | none => exact h.insert "prompt" _
  | some key => exact withLimit_sorted (h.insert "prompt" _) _ _

theorem generationConfig_sorted {params : Params} (h : params.extra.Sorted) :
    (generationConfig params).Sorted :=
  withTemperature_sorted (withLimit_sorted h _ _) _

/-! ## The body -/

theorem exists_generation {request : Request} {fields : Fields} (h : request.fields = .ok fields) :
    ∃ generation, fields = request.around generation ∧ Holds generation request.layers ∧
      (request.params.extra.Sorted → generation.Sorted) := by
  obtain ⟨generation, hg, hl⟩ := fields_layers h
  refine ⟨generation, ?_, hl, fun hs => ?_⟩
  · obtain ⟨provider, params, input, system, tools⟩ := request
    cases provider <;> cases input <;> cases h <;> cases hg <;> rfl
  · obtain ⟨provider, params, input, system, tools⟩ := request
    cases input with
    | conversation messages =>
      cases provider <;> cases h
      cases hg
      exact conversationBody_sorted hs messages
    | prompt text =>
      cases provider <;> cases h <;> cases hg
      · exact turnsBody_sorted hs text
      · exact generationConfig_sorted hs
      all_goals exact flatBody_sorted hs _ text

theorem fields_eq_error_iff (request : Request) (failure : Failure) :
    request.fields = .error failure ↔
      failure = .configuration (.conversationRefused request.provider) ∧ request.IsRefused := by
  obtain ⟨provider, params, input, system, tools⟩ := request
  cases input with
  | prompt text =>
    refine iff_of_false ?_ fun h => Bool.false_ne_true h.2.1
    cases provider <;> (intro h; cases h)
  | conversation messages =>
    cases provider with
    | anthropic =>
      refine iff_of_false ?_ fun h => Bool.false_ne_true h.2.2.symm
      intro h
      cases h
    | _ =>
      constructor
      · intro h
        cases h
        exact ⟨rfl, rfl, rfl⟩
      · rintro ⟨rfl, -⟩
        rfl

theorem exists_fields_iff (request : Request) :
    (∃ fields, request.fields = .ok fields) ↔ ¬ request.IsRefused := by
  have refused := request.fields_eq_error_iff (.configuration (.conversationRefused request.provider))
  cases hf : request.fields with
  | ok fields =>
    refine iff_of_true ⟨fields, rfl⟩ fun hr => ?_
    have he := refused.mpr ⟨rfl, hr⟩
    rw [hf] at he
    cases he
  | error failure =>
    refine iff_of_false (fun ⟨fields, h⟩ => by cases h) fun hn => hn ?_
    exact ((request.fields_eq_error_iff failure).mp hf).2

/-- A request has no body exactly if it is a conversation with a provider that takes prompts only.  The body
of any other request is built around generation fields that hold under each key of the request shape what the
request says, as far as it says something, and under all other keys its free-form parameters. -/
theorem body_key_by_key (request : Request) :
    (∀ failure, request.body = .error failure ↔
      failure = .configuration (.conversationRefused request.provider) ∧ request.IsRefused) ∧
    ∀ body, request.body = .ok body →
      ∃ generation, body = .obj (request.around generation) ∧ request.KeyByKey generation := by
  refine ⟨fun failure => ?_, fun body hb => ?_⟩
  · rw [← request.fields_eq_error_iff failure]
    unfold body
    cases request.fields with
    | error other => constructor <;> (intro h; cases h; rfl)
    | ok fields => constructor <;> (intro h; cases h)
  · obtain ⟨fields, hf, rfl⟩ := exists_of_map hb
    have ha := request.exists_fields_iff.mp ⟨fields, hf⟩
    obtain ⟨generation, rfl, hl, hs⟩ := exists_generation hf
    exact ⟨generation, rfl, keyByKey_of_holds hl ha hs⟩

/-- A limit of zero leaves what the free-form parameters hold; the prompt of the request does not. -/
example :
    let extra : Fields := [("max_tokens", .int 5), ("prompt", .str "x"), ("top_k", .null)]
    body ⟨.cohere, ⟨none, some 0, extra⟩, .prompt "hi", none, none⟩
      = .ok (.obj [("max_tokens", .int 5), ("prompt", .str "hi"), ("top_k", .null)]) := by
  decide

end Request

end Colloquy
