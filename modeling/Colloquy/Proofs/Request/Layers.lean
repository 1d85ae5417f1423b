import Colloquy.Proofs.Json.Fields
import Colloquy.Request.Body
/-!
# The layers of a request body

The generation fields of a body are those that steer the generation: the members of the body itself, or of
the object that holds the parameters.  They are laid over each other: temperature and token limit come
first, then what the request says itself, then the free-form parameters, and last the default of the token
limit.

Results:
* `Request.fields_layers`: under each key the generation fields of a body hold what its first layer with
  this key holds.
* `Request.withStops_eq`: stop sequences are a layer over the free-form parameters.
-/
namespace Colloquy

namespace Request

/-- The generation fields of a body with a request shape. -/
def generationFields? (shape : RequestShape) (body : Json) : Option Fields :=
  match shape with
  | .textGeneration => (body.get? "textGenerationConfig").bind Json.asObject?
  | .conversation | .flat _ => body.asObject?

/-- A value under a key, if there is one. -/
def layer (key : String) (value : Option Json) : Fields := (value.map fun value => (key, value)).toList

def limitKey? (request : Request) : Option String :=
  match request.provider.profile.request, request.input with
  | .conversation, .conversation _ => some "max_tokens"
  | .conversation, .prompt _ => some "max_tokens_to_sample"
  | .flat key, _ => key
  | .textGeneration, _ => some "maxTokenCount"

/-- The temperature and the token limit that is in force. -/
def settled (request : Request) : Fields :=
  layer "temperature" (request.params.temperature.map .ofFloat)
    ++ request.limitKey?.toList.flatMap fun key => layer key (request.params.limit?.map .ofIndex)

/-- What a request itself says: its input, and with a conversation its system prompt, its tools and the
version of the protocol.  An input that stands beside the generation fields is not among them. -/
def spoken (request : Request) : Fields :=
  match request.provider.profile.request, request.input with
  | .conversation, .conversation messages =>
    layer "system" request.systemValue?
      ++ [("messages", .arr ((sentMessages request.params messages).map Message.toJson)),
        ("anthropic_version", .str protocolVersion)]
      ++ layer "tools" request.toolsValue?
  | .conversation, .prompt text => [("prompt", .str (String.ofList (Prompt.format text).text))]
  | .flat _, .prompt text => [("prompt", .str text)]
  | .flat _, .conversation _ | .textGeneration, _ => []

/-- The default of the token limit, where the provider needs one. -/
def fallback (request : Request) : Fields :=
  match request.provider.profile.request with
  | .conversation => request.limitKey?.toList.map fun key => (key, .ofIndex defaultLimit)
  | .flat _ | .textGeneration => []

/-- The layers of the generation fields, the first one on top. -/
def layers (request : Request) : Fields :=
  request.settled ++ request.spoken ++ request.params.extra ++ request.fallback

/-- Whether fields hold under each key what the first of some layers with this key holds. -/
def Holds (fields layers : Fields) : Prop := ∀ key, Fields.get? fields key = Fields.get? layers key

theorem get?_layer (key : String) (value : Option Json) (other : String) :
    Fields.get? (layer key value) other = if key = other then value else none := by
  cases value <;> by_cases h : key = other <;> simp [layer, Fields.get?, h]

theorem withTemperature_eq (body : Fields) (params : Params) :
    withTemperature body params
      = withOption body "temperature" (params.temperature.map .ofFloat) := by
  rw [withTemperature]
  cases params.temperature <;> rfl

theorem withLimit_eq (body : Fields) (key : String) (params : Params) :
    withLimit body key params = withOption body key (params.limit?.map .ofIndex) := by
  rw [withLimit]
  cases params.limit? <;> rfl

namespace Holds

variable {body layers : Fields}

theorem refl (fields : Fields) : Holds fields fields := fun _ => rfl

theorem withOption (h : Holds body layers) (key : String) (value : Option Json) :
    Holds (withOption body key value) (layer key value ++ layers) := by
  intro other
  rw [Fields.get?_append, get?_layer, ← h other]
  cases value with
  | none => simp [Request.withOption]
  | some value =>
    rw [Request.withOption, Fields.get?_insert]
    by_cases hk : key = other <;> simp [hk]

theorem insert (h : Holds body layers) (key : String) (value : Json) :
    Holds (Fields.insert body key value) ((key, value) :: layers) :=
  h.withOption key (some value)

theorem withTemperature (h : Holds body layers) (params : Params) :
    Holds (withTemperature body params)
      (layer "temperature" (params.temperature.map .ofFloat) ++ layers) := by
  rw [withTemperature_eq]
  exact h.withOption _ _

theorem withLimit (h : Holds body layers) (key : String) (params : Params) :
    Holds (withLimit body key params) (layer key (params.limit?.map .ofIndex) ++ layers) := by
  rw [withLimit_eq]
  exact h.withOption _ _

/-- The default of the limit stands below all that the body has already. -/
theorem withLimitOrDefault (h : Holds body layers) (key : String) (params : Params) :
    Holds (withLimitOrDefault body key params)
      (layer key (params.limit?.map .ofIndex) ++ (layers ++ [(key, .ofIndex defaultLimit)])) := by
  intro other
  rw [Fields.get?_append, Fields.get?_append, get?_layer, ← h other, Request.withLimitOrDefault]
  cases params.limit? with
  | some limit =>
    simp only [Fields.get?_insert]
    by_cases hk : key = other <;> simp [hk, Fields.get?]
  | none =>
    by_cases hk : key = other
    · subst hk
      -- Only under its own key the default can be seen, and only if the body has nothing there.
      by_cases hb : Fields.contains body key = true
      · obtain ⟨value, hv⟩ := Option.isSome_iff_exists.mp hb
        simp [hb, hv]
      · have hn : Fields.get? body key = none := by simpa [Fields.contains] using hb
        simp [hb, hn, Fields.get?]
    · have hd : Fields.get? [(key, .ofIndex defaultLimit)] other = none := by simp [Fields.get?, hk]
      simp only [hd, hk, Option.map_none, ite_self, Option.none_or, Option.or_none]
      split <;> simp [Fields.get?_insert, hk]

/-- Where fields hold what stands in layers above others, the layers of these others can stand in. -/
theorem trans {above others : Fields} (h : Holds body (above ++ others)) (ho : Holds others layers) :
    Holds body (above ++ layers) := by
  intro key
  rw [h key, Fields.get?_append, Fields.get?_append, ho key]

end Holds

/-! ## What is settled -/

theorem limitKey?_ne_temperature (request : Request) : request.limitKey? ≠ some "temperature" := by
  obtain ⟨provider, params, input, system, tools⟩ := request
  cases provider <;> cases input <;> simp [limitKey?, Provider.profile]

theorem get?_settled (request : Request) (key : String) :
    Fields.get? request.settled key =
      (if "temperature" = key then request.params.temperature.map .ofFloat else none).or
        (if request.limitKey? = some key then request.params.limit?.map .ofIndex else none) := by
  rw [settled, Fields.get?_append, get?_layer]
  congr 1
  cases request.limitKey? with
  | none => simp [Fields.get?]
  | some limitKey => simp [get?_layer]

theorem get?_settled_temperature {request : Request} {temperature : Binary64}
    (h : request.params.temperature = some temperature) :
    Fields.get? request.settled "temperature" = some (.ofFloat temperature) := by
  rw [get?_settled, if_pos rfl, h]
  rfl

/-- No provider has its token limit under the key of the temperature, which stands above it. -/
theorem get?_settled_limit {request : Request} {key : String} {limit : UInt32}
    (hk : request.limitKey? = some key) (h : request.params.limit? = some limit) :
    Fields.get? request.settled key = some (.ofIndex limit) := by
  have ht : "temperature" ≠ key := by
    rintro rfl
    exact request.limitKey?_ne_temperature hk
  rw [get?_settled, if_neg ht, if_pos hk, h]
  rfl

theorem get?_settled_eq_none {request : Request} {key : String}
    (ht : key = "temperature" → request.params.temperature = none)
    (hl : request.limitKey? = some key → request.params.limit? = none) :
    Fields.get? request.settled key = none := by
  have temperature : (if "temperature" = key then
      request.params.temperature.map Json.ofFloat else none) = none := by
    by_cases hkey : "temperature" = key
    · rw [if_pos hkey, ht hkey.symm]
      rfl
    · rw [if_neg hkey]
  have limit : (if request.limitKey? = some key then
      request.params.limit?.map Json.ofIndex else none) = none := by
    by_cases hkey : request.limitKey? = some key
    · rw [if_pos hkey, hl hkey]
      rfl
    · rw [if_neg hkey]
  rw [get?_settled, temperature, limit]
  rfl

/-! ## The four kinds of bodies -/

theorem conversationBody_holds (request : Request) (messages : List Message) :
    Holds (request.conversationBody messages)
      (layer "temperature" (request.params.temperature.map .ofFloat)
        ++ (layer "max_tokens" (request.params.limit?.map .ofIndex)
          ++ (layer "system" request.systemValue?
            ++ (("messages", .arr ((sentMessages request.params messages).map Message.toJson))
              :: ("anthropic_version", .str protocolVersion)
              :: (layer "tools" request.toolsValue? ++ request.params.extra))
            ++ [("max_tokens", .ofIndex defaultLimit)]))) := by
  have extra := Holds.refl request.params.extra
  exact ((((extra.withOption _ _).insert _ _).insert _ _).withOption _ _).withLimitOrDefault _ _
    |>.withTemperature _

theorem turnsBody_holds (params : Params) (prompt : String) :
    Holds (turnsBody params prompt)
      (layer "temperature" (params.temperature.map .ofFloat)
        ++ (layer "max_tokens_to_sample" (params.limit?.map .ofIndex)
          ++ (("prompt", .str (String.ofList (Prompt.format prompt).text)) :: params.extra
            ++ [("max_tokens_to_sample", .ofIndex defaultLimit)]))) := by
  have extra := Holds.refl params.extra
  exact ((extra.insert _ _).withLimitOrDefault _ _).withTemperature _

theorem flatBody_holds (params : Params) (limitKey : Option String) (prompt : String) :
    Holds (flatBody params limitKey prompt)
      (layer "temperature" (params.temperature.map .ofFloat)
        ++ ((limitKey.toList.flatMap fun key => layer key (params.limit?.map .ofIndex))
          ++ (("prompt", .str prompt) :: params.extra))) := by
  have extra := Holds.refl params.extra
  cases limitKey with
  | none => exact (extra.insert _ _).withTemperature _
  | some key =>
    simp only [Option.toList_some, List.flatMap_cons, List.flatMap_nil, List.append_nil]
    exact ((extra.insert _ _).withLimit _ _).withTemperature _

theorem generationConfig_holds (params : Params) :
    Holds (generationConfig params)
      (layer "temperature" (params.temperature.map .ofFloat)
        ++ (layer "maxTokenCount" (params.limit?.map .ofIndex) ++ params.extra)) := by
  have extra := Holds.refl params.extra
  exact (extra.withLimit _ _).withTemperature _

/-- Under each key the generation fields of a body hold what its first layer with this key holds. -/
theorem fields_layers {request : Request} {fields : Fields} (h : request.fields = .ok fields) :
    ∃ generation, generationFields? request.provider.profile.request (.obj fields) = some generation ∧
      Holds generation request.layers := by
  obtain ⟨provider, params, input, system, tools⟩ := request
  simp only [Request.fields] at h
  simp only [layers, settled, spoken, fallback, limitKey?]
  cases hs : provider.profile.request with
  | conversation =>
    cases input with
    | conversation messages =>
      rw [hs] at h
      cases h
      refine ⟨_, rfl, ?_⟩
      have hb := conversationBody_holds ⟨provider, params, .conversation messages, system, tools⟩ messages
      simpa [List.append_assoc] using hb
    | prompt text =>
      rw [hs] at h
      cases h
      refine ⟨_, rfl, ?_⟩
      simpa [List.append_assoc] using turnsBody_holds params text
  | flat limitKey =>
    cases input with
    | conversation messages => rw [hs] at h; cases h
    | prompt text =>
      rw [hs] at h
      cases h
      refine ⟨_, rfl, ?_⟩
      simpa [List.append_assoc] using flatBody_holds params limitKey text
  | textGeneration =>
    cases input with
    | conversation messages => rw [hs] at h; cases h
    | prompt text =>
      rw [hs] at h
      cases h
      refine ⟨_, rfl, ?_⟩
      simpa [List.append_assoc] using generationConfig_holds params

/-! ## Other free-form parameters -/

def withExtra (request : Request) (extra : Fields) : Request :=
  { request with params := { request.params with extra := extra } }

/-- Of the free-form parameters only the one that asks for reasoning decides on the messages that are sent. -/
theorem sentMessages_withExtra {request : Request} {extra : Fields}
    (h : Fields.get? extra "thinking" = Fields.get? request.params.extra "thinking")
    (messages : List Message) :
    sentMessages (request.withExtra extra).params messages = sentMessages request.params messages := by
  have ht : (request.withExtra extra).params.thinkingEnabled = request.params.thinkingEnabled := by
    simp only [withExtra, Params.thinkingEnabled, h]
  rw [sentMessages, sentMessages, ht]

/-- Of the free-form parameters only the one that asks for reasoning changes what a request itself says. -/
theorem spoken_withExtra {request : Request} {extra : Fields}
    (h : Fields.get? extra "thinking" = Fields.get? request.params.extra "thinking") :
    (request.withExtra extra).spoken = request.spoken := by
  unfold spoken
  simp only [sentMessages_withExtra h]
  rfl

/-- The stop sequences, under the key of the provider for them. -/
def stopLayer (provider : Provider) (stops : List String) : Fields :=
  if stops.isEmpty then []
  else provider.profile.stopKey.toList.map fun key => (key, .arr (stops.map .str))

theorem withStops_eq {request stopped : Request} {stops : List String}
    (h : request.withStops stops = .ok stopped) :
    ∃ extra, stopped = request.withExtra extra ∧
      Holds extra (stopLayer request.provider stops ++ request.params.extra) := by
  have same := Holds.refl request.params.extra
  rw [withStops] at h
  rw [stopLayer]
  by_cases he : stops.isEmpty = true
  · rw [if_pos he] at h ⊢
    cases h
    exact ⟨_, rfl, same⟩
  · rw [if_neg he] at h ⊢
    cases hk : request.provider.profile.stopKey with
    | none => simp only [hk] at h; cases h
    | some key =>
      simp only [hk] at h
      cases h
      exact ⟨_, rfl, same.insert key _⟩

end Request

end Colloquy
