import Colloquy.Proofs.Invoker.Conversation
import Colloquy.Proofs.Json.NormalForm
import Colloquy.Proofs.Settings.Acceptance
import Colloquy.Proofs.Settings.Fields
/-!
# Temperature and token limit of settings

Temperature and token limit have fields of their own, and may be written among the free-form fields of the model
as well.  From there they are taken over if they are not written in their own fields, and in any case they are
taken out.  So each reaches a body from one place only, and under one key: the limit under the one that the
request shape has for it.

The free-form value is taken out before it is known whether it fits.  One that does not fit is lost, although
the same value in the field of its own would not be accepted.

Results:
* `Settings.takesOver_of_read?`: where temperature, limit and free-form fields come from.
* `Settings.hoisted_sent_once`: what the generation fields of a body hold of them.
* `Settings.free_form_taken_over`: which free-form values are taken over.
-/
namespace Colloquy

namespace Json

/-- Only a whole number that fits is read as one of 32 bits. -/
theorem asIndex?_eq_some_iff {json : Json} {index : UInt32} :
    json.asIndex? = some index ↔ json = .ofIndex index := by
  constructor
  · intro h
    cases json with
    | int n =>
      rw [asIndex?] at h
      split at h
      · rename_i hn
        cases h
        rw [ofIndex, UInt32.toNat_ofNat_of_lt' hn.2, Int.toNat_of_nonneg hn.1]
      · cases h
    | _ => cases h
  · rintro rfl
    exact asIndex?_ofIndex index

theorem asFloat?_eq_some_iff {json : Json} {x : Binary64} :
    json.asFloat? = some x ↔ json = .float x ∨ ∃ n, json = .int n ∧ Binary64.ofInt n = x := by
  cases json <;> simp [asFloat?]

end Json

theorem Toml.fields?_sorted {item : Toml} {fields : Fields} (h : item.fields? = some fields) :
    fields.Sorted := by
  rw [fields?_eq_some_iff] at h
  cases item with
  | table origin entries =>
    obtain ⟨members, -, he⟩ := Option.map_eq_some_iff.mp h
    obtain ⟨_, hw, sorted⟩ := Json.object_sorted members
    rw [he] at hw
    cases hw
    exact sorted
  | datetime text =>
    cases h
    exact List.pairwise_singleton _ _
  | string text => cases h
  | boolean b => cases h
  | integer n =>
    rw [toJson?] at h
    split at h <;> cases h
  | float x =>
    rw [toJson?, Json.ofFloat] at h
    split at h <;> cases h
  | array extendable items =>
    obtain ⟨_, -, he⟩ := Option.map_eq_some_iff.mp h
    cases he

/-! ## From the document to the settings -/

open Settings (Field)

/-- How the temperature, the token limit and the free-form fields of a model come from a document. -/
structure ModelSettings.TakesOver (model : ModelSettings) (document : List (String × Toml)) : Prop where
  /-- A temperature in its own field is the temperature, whatever the free-form fields have. -/
  temperature : ∀ item, Field.temperature.item? document = some item →
    ∃ x, item.asFloat? = some x ∧ model.temperature = some x
  /-- So is a limit. -/
  limit : ∀ item, Field.maxTokens.item? document = some item →
    ∃ limit, item.asLimit? = some limit ∧ model.maxTokens = some limit
  freeTemperature : Field.temperature.item? document = none →
    model.temperature = ((Field.extra [.key "temperature"]).written? document).bind Json.asFloat?
  freeLimit : Field.maxTokens.item? document = none →
    model.maxTokens = ((Field.extra [.key "max_tokens"]).written? document).bind Json.asIndex?
  /-- The free-form fields are those that are written, without the two. -/
  extra : ∀ key, Fields.get? model.extra key =
    if key = "temperature" ∨ key = "max_tokens" then none else (Field.extra [.key key]).written? document
  order : model.extra.Sorted

namespace Settings

section

variable {document : List (String × Toml)}

/-- What is written under a key of the free-form part is what the free-form fields have there. -/
theorem written?_key {fields : Section} {extra : Fields} (hi : (Field.extra []).item? document = fields 6)
    (h : Section.defaulted fields 6 [] Toml.fields? = some extra) (key : String) :
    (Field.extra [.key key]).written? document = Fields.get? extra key := by
  unfold Section.defaulted at h
  split at h
  · rename_i item he
    have hf : ((Field.extra []).item? document).bind Toml.fields? = some extra := by
      rw [hi, he]
      exact h
    rw [Field.written?_extra hf, Json.lookup_key]
  · rename_i he
    cases h
    have hn : (Field.extra [.key key]).item? document = none := hi.trans he
    rw [Field.written?, hn]
    rfl

theorem defaulted_sorted {fields : Section} {extra : Fields}
    (h : Section.defaulted fields 6 [] Toml.fields? = some extra) : extra.Sorted := by
  unfold Section.defaulted at h
  split at h
  · exact Toml.fields?_sorted h
  · cases h
    exact List.Pairwise.nil

/-- The model of settings, before anything is taken over, and the section from which it is read. -/
theorem exists_model {text : String} {settings : Settings} (h : read? text = some settings)
    (hd : Toml.ofText? text = some document) :
    ∃ fields found, settings.model = ModelSettings.hoisted found ∧
      Section.optional fields 4 Toml.asFloat? = some found.temperature ∧
      Section.optional fields 5 Toml.asLimit? = some found.maxTokens ∧
      Section.defaulted fields 6 [] Toml.fields? = some found.extra ∧
      ∀ {field : Field} {position : Nat}, field.place = (0, position) →
        field.item? document = fields position := by
  obtain ⟨found, hfound, rfl⟩ := Option.map_eq_some_iff.mp h
  rw [hd, Option.bind_some] at hfound
  simp only [ofToml?, Option.bind_eq_bind, Option.bind_eq_some_iff] at hfound
  obtain ⟨sections, hs, model, ⟨item, hi, hmodel⟩, -, -, -, -, -, -, ⟨⟩⟩ := hfound
  simp only [ModelSettings.ofToml?, Option.bind_eq_bind, Option.bind_eq_some_iff] at hmodel
  obtain ⟨fields, hfields, -, -, -, -, -, -, -, -, temperature, htemperature, limit, hlimit, extra, hextra,
    ⟨⟩⟩ := hmodel
  exact ⟨fields, _, rfl, htemperature, hlimit, hextra, fun hp => Field.item?_eq_some hs hp hi hfields⟩

theorem takesOver_of_read? {text : String} {settings : Settings} (h : read? text = some settings)
    (hd : Toml.ofText? text = some document) : settings.model.TakesOver document := by
  obtain ⟨fields, found, hm, htemperature, hlimit, hextra, hentry⟩ := exists_model h hd
  have written := written?_key (hentry rfl) hextra
  rw [hm]
  constructor
  · intro item hi
    obtain ⟨x, hx, ht⟩ := Section.exists_of_optional htemperature ((hentry rfl).symm.trans hi)
    exact ⟨x, hx, by rw [ModelSettings.hoisted, ht]; rfl⟩
  · intro item hi
    obtain ⟨limit, hx, hl⟩ := Section.exists_of_optional hlimit ((hentry rfl).symm.trans hi)
    exact ⟨limit, hx, by rw [ModelSettings.hoisted, hl]; rfl⟩
  · intro hn
    have hi : fields 4 = none := (hentry rfl).symm.trans hn
    have ht : found.temperature = none := by rw [Section.optional_eq_some htemperature, hi, Option.bind_none]
    rw [ModelSettings.hoisted, ht, written]
    rfl
  · intro hn
    have hi : fields 5 = none := (hentry rfl).symm.trans hn
    have hl : found.maxTokens = none := by rw [Section.optional_eq_some hlimit, hi, Option.bind_none]
    rw [ModelSettings.hoisted, hl, written]
    rfl
  · intro key
    by_cases hk : key = "temperature" ∨ key = "max_tokens"
    · rw [if_pos hk]
      rcases hk with rfl | rfl
      · exact found.get?_temperature_hoisted
      · exact found.get?_maxTokens_hoisted
    · obtain ⟨ht, hl⟩ := not_or.mp hk
      rw [if_neg hk, ModelSettings.hoisted, Fields.get?_erase_of_ne _ hl, Fields.get?_erase_of_ne _ ht, written]
  · exact ((defaulted_sorted hextra).erase _).erase _

end

end Settings

/-! ## From the settings to the body -/

/-- What the generation fields of a body hold of the temperature and the token limit of a model. -/
structure ModelSettings.SentOnce (model : ModelSettings) (request : Request) (generation : Fields) : Prop where
  /-- A temperature that is no finite number has no JSON form: it is written as null. -/
  temperature : Fields.get? generation "temperature" = model.temperature.map Json.ofFloat
  /-- A limit above zero stands under the key of the request shape for it. -/
  limit : ∀ key, request.limitKey? = some key → ∀ limit, model.maxTokens = some limit → 0 < limit →
    Fields.get? generation key = some (.ofIndex limit)
  /-- Without one there is nothing under `max_tokens`, or the default of the provider that needs a limit. -/
  noLimit : request.limitKey? = some "max_tokens" → (model.maxTokens = none ∨ model.maxTokens = some 0) →
    Fields.get? generation "max_tokens" = if request.provider = .anthropic then some (.int 1024) else none
  /-- A request shape that has another key for the limit, or none, is not given this one. -/
  otherKey : request.limitKey? ≠ some "max_tokens" → Fields.get? generation "max_tokens" = none
  /-- Every key stands once. -/
  order : generation.Sorted

theorem Request.maxTokens_not_mem_shapeKeys {request : Request} (h : request.limitKey? ≠ some "max_tokens") :
    "max_tokens" ∉ request.shapeKeys := by
  obtain ⟨provider, params, input, system, tools⟩ := request
  cases provider <;> cases input <;> simp_all [shapeKeys, limitKey?, Provider.profile]

namespace Invoker

theorem temperature_not_mem_streamingFields (request : Request) (stops : List String) :
    "temperature" ∉ (streamingFields request.provider stops).map Prod.fst :=
  fun hm => not_mem_shapeKeys hm request.temperature_mem_shapeKeys

theorem maxTokens_not_mem_streamingFields (provider : Provider) (stops : List String) :
    "max_tokens" ∉ (streamingFields provider stops).map Prod.fst := by
  intro hm
  rcases mem_streamingFields_iff.mp hm with ⟨-, hk⟩ | ⟨-, hk⟩
  · cases provider <;> exact absurd hk (by decide)
  · exact absurd hk (by decide)

theorem defaults_of_ofSettings {model : ModelSettings} {guardrails : Guardrails} {invoker : Invoker}
    (h : ofSettings model guardrails = .ok invoker) : invoker.defaults = model.params := by
  obtain ⟨provider, -, rfl⟩ := exists_of_map h
  rfl

/-- A model whose free-form fields have neither temperature nor token limit sends both once, with a call that
has no fields of its own. -/
theorem sentOnce_of_prepare {model : ModelSettings} {invoker : Invoker} (hd : invoker.defaults = model.params)
    (ht : Fields.get? model.extra "temperature" = none) (hl : Fields.get? model.extra "max_tokens" = none)
    (hs : model.extra.Sorted) {call : Call} (ho : call.overrides = []) {streaming : Bool} {prepared : Prepared}
    (hp : invoker.prepare call streaming = .ok prepared) :
    ∃ generation, prepared.body = .obj ((invoker.requestOf call).around generation) ∧
      model.SentOnce (invoker.requestOf call) generation := by
  have params : invoker.paramsOf call = model.params := by
    rw [paramsOf, ho, hd]
    rfl
  have extra : (invoker.paramsOf call).extra = model.extra := congrArg Params.extra params
  -- What streaming adds leaves both keys free.
  have free : Fields.get? (invoker.extraOf call streaming) "temperature" = none := by
    rw [get?_extraOf (temperature_not_mem_streamingFields (invoker.requestOf call) _), extra, ht]
  have freeLimit : Fields.get? (invoker.extraOf call streaming) "max_tokens" = none := by
    rw [get?_extraOf (maxTokens_not_mem_streamingFields _ _), extra, hl]
  obtain ⟨fields, hf, rfl⟩ := exists_prepared_fields hp
  obtain ⟨generation, rfl, holds, order⟩ := Request.exists_generation hf
  have keys := Request.keyByKey_of_holds holds ((Request.exists_fields_iff _).mp ⟨_, hf⟩) order
  have limits : (invoker.requestOf call).params.maxTokens = model.maxTokens := congrArg Params.maxTokens params
  refine ⟨generation, rfl, ?_, fun key hk limit hm hlt => ?_, fun hk hm => ?_, fun hk => ?_, order ?_⟩
  · rw [keys.temperature, Request.withExtra, free, Option.or_none]
    exact congrArg (fun params => params.temperature.map Json.ofFloat) params
  · exact keys.limit key hk limit (limits.trans hm) hlt
  · rw [← limits] at hm
    rw [keys.noLimit "max_tokens" hk hm, Request.withExtra, freeLimit, Option.none_or]
  · rw [keys.others "max_tokens" (Request.maxTokens_not_mem_shapeKeys hk), Request.withExtra, freeLimit]
  · exact extraOf_sorted (extra ▸ hs) streaming

end Invoker

namespace Settings

/-- The temperature and the token limit of accepted settings are those of their own fields where these are
written, whatever the free-form fields have.  A call without fields of its own sends them once: the generation
fields of its body hold the temperature if there is one, and they hold the limit under the key of the request
shape for it, and nothing under `max_tokens` if that is another one. -/
theorem hoisted_sent_once {env : Environment} {text : String} {settings : Settings}
    (h : ofText env text = .ok settings) :
    (∃ filled document, fillPlaceholders env text = .ok filled ∧ Toml.ofText? filled = some document ∧
      settings.model.TakesOver document) ∧
    ∀ invoker, Invoker.ofSettings settings.model settings.guardrails = .ok invoker →
      ∀ call streaming prepared, call.overrides = [] → invoker.prepare call streaming = .ok prepared →
        prepared.request.body = prepared.body.compact ∧
        ∃ generation, prepared.body = .obj ((invoker.requestOf call).around generation) ∧
          settings.model.SentOnce (invoker.requestOf call) generation := by
  obtain ⟨⟨filled, hf, hr⟩, -⟩ := ofText_eq_ok_iff.mp h
  obtain ⟨found, hd, -⟩ := Option.map_eq_some_iff.mp hr
  obtain ⟨document, hd, -⟩ := Option.bind_eq_some_iff.mp hd
  have takes := takesOver_of_read? hr hd
  refine ⟨⟨filled, document, hf, hd, takes⟩, fun invoker hi call streaming prepared ho hp => ⟨?_, ?_⟩⟩
  · obtain ⟨_, -, rfl⟩ := Invoker.exists_prepared_fields hp
    rfl
  · have temperature := (takes.extra "temperature").trans (if_pos (.inl rfl))
    have limit := (takes.extra "max_tokens").trans (if_pos (.inr rfl))
    exact Invoker.sentOnce_of_prepare (Invoker.defaults_of_ofSettings hi) temperature limit takes.order ho hp

/-- A temperature in its own field and a limit among the free-form fields, for a provider that has another key
for the limit. -/
theorem hoisted_sent_once_renamed :
    let half : Binary64 := ⟨4602678819172646912⟩
    let call : Call := ⟨.prompt "hi", none, none, [], []⟩
    ∃ settings, ofText (fun _ => none)
        "[model]\nid=\"meta.a\"\ntemperature=0.5\n[model.kwargs]\ntemperature=1\nmax_tokens=7" = .ok settings ∧
      ∃ invoker, Invoker.ofSettings settings.model settings.guardrails = .ok invoker ∧
        call.overrides = [] ∧
        ∃ prepared generation, invoker.prepare call false = .ok prepared ∧ prepared.body = .obj generation ∧
          Fields.get? generation "temperature" = some (.float half) ∧
          Fields.get? generation "max_gen_len" = some (.int 7) ∧
          Fields.get? generation "max_tokens" = none := by
  intro half call
  let model : ModelSettings := ⟨"meta.a", none, none, false, some half, some 7, []⟩
  have h : ofText (fun _ => none)
      "[model]\nid=\"meta.a\"\ntemperature=0.5\n[model.kwargs]\ntemperature=1\nmax_tokens=7" =
        .ok ⟨model, .empty, .none, .standard⟩ := eq_ok_of_toOption (by decide +kernel)
  have hi : Invoker.ofSettings model .none = .ok ⟨model.target, .metaAI, model.params, .none⟩ :=
    eq_ok_of_toOption (by decide)
  have finite : Binary64.isFinite ⟨4602678819172646912⟩ = true := by decide
  obtain ⟨-, sent⟩ := hoisted_sent_once h
  obtain ⟨-, generation, hb, once⟩ := sent _ hi call false _ rfl rfl
  exact ⟨_, h, _, hi, rfl, _, generation, rfl, hb, once.temperature.trans (congrArg some (if_pos finite)),
    once.limit _ rfl 7 rfl (by decide), once.otherKey (by decide)⟩

/-- Where the limit is written among the free-form fields only, accepted settings have it if it is a whole
number of 32 bits, and otherwise none.  In the same way they have a temperature that is a number; a whole one is
rounded to the nearest. -/
theorem free_form_taken_over {env : Environment} {text filled : String} {document : List (String × Toml)}
    {settings : Settings} (hf : fillPlaceholders env text = .ok filled)
    (hd : Toml.ofText? filled = some document) (h : ofText env text = .ok settings) :
    (∀ value, Field.maxTokens.item? document = none →
      (Field.extra [.key "max_tokens"]).written? document = some value →
      ∀ limit, settings.model.maxTokens = some limit ↔ value = .ofIndex limit) ∧
    ∀ value, Field.temperature.item? document = none →
      (Field.extra [.key "temperature"]).written? document = some value →
      ∀ x, settings.model.temperature = some x ↔
        value = .float x ∨ ∃ n, value = .int n ∧ Binary64.ofInt n = x := by
  obtain ⟨other, ho, hr⟩ := read?_of_ofText h
  obtain rfl : other = filled := Except.ok.inj (ho.symm.trans hf)
  have takes := takesOver_of_read? hr hd
  refine ⟨fun value hn hw limit => ?_, fun value hn hw x => ?_⟩
  · rw [takes.freeLimit hn, hw, Option.bind_some, Json.asIndex?_eq_some_iff]
  · rw [takes.freeTemperature hn, hw, Option.bind_some, Json.asFloat?_eq_some_iff]

/-- What can be decided of a document is decided by reading it. -/
theorem exists_document {text : String} {p : List (String × Toml) → Prop} [DecidablePred p]
    (h : (Toml.ofText? text).any (fun document => decide (p document)) = true) :
    ∃ document, Toml.ofText? text = some document ∧ p document := by
  obtain ⟨document, hd, hp⟩ := (Option.any_eq_true _ _).mp h
  exact ⟨document, hd, of_decide_eq_true hp⟩

/-- The greatest limit, and a temperature that is a whole number. -/
theorem free_form_taken_over_greatest :
    let text := "[model]\nid=\"meta.a\"\n[model.kwargs]\nmax_tokens=4294967295\ntemperature=1"
    ∃ document settings, fillPlaceholders (fun _ => none) text = .ok text ∧ Toml.ofText? text = some document ∧
      ofText (fun _ => none) text = .ok settings ∧
      Field.maxTokens.item? document = none ∧
      (Field.extra [.key "max_tokens"]).written? document = some (.int 4294967295) ∧
      settings.model.maxTokens = some 4294967295 ∧
      Field.temperature.item? document = none ∧
      (Field.extra [.key "temperature"]).written? document = some (.int 1) ∧
      settings.model.temperature = some (Binary64.ofInt 1) := by
  intro text
  have hf : fillPlaceholders (fun _ => none) text = .ok text := eq_ok_of_toOption (by decide +kernel)
  obtain ⟨document, hd, hl, hwl, ht, hwt⟩ : ∃ document, Toml.ofText? text = some document ∧
      Field.maxTokens.item? document = none ∧
      (Field.extra [.key "max_tokens"]).written? document = some (.int 4294967295) ∧
      Field.temperature.item? document = none ∧
      (Field.extra [.key "temperature"]).written? document = some (.int 1) :=
    exists_document (by decide +kernel)
  have h : ofText (fun _ => none) text = .ok ⟨⟨"meta.a", none, none, false, some (Binary64.ofInt 1),
      some 4294967295, []⟩, .empty, .none, .standard⟩ := eq_ok_of_toOption (by decide +kernel)
  obtain ⟨limit, temperature⟩ := free_form_taken_over hf hd h
  exact ⟨document, _, hf, hd, h, hl, hwl, (limit _ hl hwl _).mpr rfl, ht, hwt,
    (temperature _ ht hwt _).mpr (.inr ⟨1, rfl, rfl⟩)⟩

/-- A limit of more than 32 bits among the free-form fields is lost, and so is a temperature that is text.  In
the field of its own the same limit is refused. -/
theorem unfit_free_form_dropped :
    let text := "[model]\nid=\"meta.a\"\n[model.kwargs]\nmax_tokens=4294967296\ntemperature=\"0.5\""
    let typed := "[model]\nid=\"meta.a\"\nmax_tokens=4294967296"
    ∃ document settings, Toml.ofText? text = some document ∧ ofText (fun _ => none) text = .ok settings ∧
      Field.maxTokens.item? document = none ∧
      (Field.extra [.key "max_tokens"]).written? document = some (.int 4294967296) ∧
      settings.model.maxTokens = none ∧
      Field.temperature.item? document = none ∧
      (Field.extra [.key "temperature"]).written? document = some (.str "0.5") ∧
      settings.model.temperature = none ∧ settings.model.extra = [] ∧
      ofText (fun _ => none) typed = .error .unreadable := by
  intro text typed
  obtain ⟨document, hd, hl, hwl, ht, hwt⟩ : ∃ document, Toml.ofText? text = some document ∧
      Field.maxTokens.item? document = none ∧
      (Field.extra [.key "max_tokens"]).written? document = some (.int 4294967296) ∧
      Field.temperature.item? document = none ∧
      (Field.extra [.key "temperature"]).written? document = some (.str "0.5") :=
    exists_document (by decide +kernel)
  have h : ofText (fun _ => none) text = .ok ⟨⟨"meta.a", none, none, false, none, none, []⟩, .empty, .none,
      .standard⟩ := eq_ok_of_toOption (by decide +kernel)
  have hf : fillPlaceholders (fun _ => none) typed = .ok typed := eq_ok_of_toOption (by decide +kernel)
  have hr : read? typed = none := by decide +kernel
  exact ⟨document, _, hd, h, hl, hwl, rfl, ht, hwt, rfl, rfl, by simp only [ofText, hf, hr]⟩

end Settings

end Colloquy
