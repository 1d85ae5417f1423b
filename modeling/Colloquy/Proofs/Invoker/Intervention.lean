import Colloquy.Proofs.Invoker.Opening
import Colloquy.Proofs.Invoker.Reading
import Colloquy.Proofs.Stream.Completion
import Mathlib.Data.List.Basic
/-!
# Which interventions are reported

A response body or an event may state that a guardrail intervened.  An observer that asked for it is told of
the bodies that could be read, and of the completion events that are passed on.  It is not told of bodies that
could not be read, of events that end a stream before they are passed on or that cannot be decoded, and of
messages events, whose metadata holds nothing but the reasons for stopping.

Results:
* `EventDecoder.signals_itemsOf`: what an item of the source makes heard.
* `Invoker.interventions_reported`: what is heard of a complete response and of a stream that was read to
  its end.
-/
namespace Colloquy

namespace Notice

def signal? : Notice → Option GuardrailSignal
  | guardrail signal => some signal
  | failure _ => none

def signals (notices : List Notice) : List GuardrailSignal := notices.filterMap signal?

theorem signals_flatMap (items : List α) (f : α → List Notice) :
    signals (items.flatMap f) = items.flatMap fun item => signals (f item) :=
  List.filterMap_flatMap

end Notice

namespace GuardrailSignal

/-- The intervention that the members of an object state: at most one. -/
def statedBy (fields : Fields) : List GuardrailSignal :=
  match Fields.get? fields actionKey with
  | some (.str "INTERVENED") => [⟨true, some "GUARDRAIL_INTERVENED", Fields.get? fields traceKey⟩]
  | _ => []

/-- The intervention that the bytes of a body or event state.  Only an object states one. -/
def statedIn (payload : ByteArray) : List GuardrailSignal :=
  match (Json.ofBytes? payload).bind Json.asObject? with
  | some fields => statedBy fields
  | none => []

theorem signals_guardrailNotices (fields : Fields) :
    Notice.signals (guardrailNotices true fields) = statedBy fields := by
  rw [guardrailNotices, ofFields, statedBy, isIntervention]
  cases Fields.get? fields actionKey with
  | none => rfl
  | some value =>
    cases value with
    | str text =>
      by_cases h : text = "INTERVENED"
      · subst h; rfl
      · simp [Json.asString?, silent, h, Notice.signals]
    | _ => rfl

/-- Only the members under the two keys matter. -/
theorem statedBy_congr {fields other : Fields}
    (ha : Fields.get? fields actionKey = Fields.get? other actionKey)
    (ht : Fields.get? fields traceKey = Fields.get? other traceKey) :
    statedBy fields = statedBy other := by
  rw [statedBy, statedBy, ha, ht]

end GuardrailSignal

namespace EventDecoder

open GuardrailSignal (statedBy actionKey traceKey)

/-- The interventions that a source states in completion events that are read and passed on. -/
def passedOn (decoder : EventDecoder) (source : List SourceItem) : List GuardrailSignal :=
  ((decoder.portion source).filterMap decoder.passedFields?).flatMap statedBy

/-- No messages event is passed on as a whole. -/
theorem passedOn_messages (coerceToText : Bool) (source : List SourceItem) :
    (messages coerceToText).passedOn source = [] := by
  have hn : ∀ item ∈ (messages coerceToText).portion source,
      (messages coerceToText).passedFields? item = none := by
    intro item _
    cases item <;> rfl
  rw [passedOn, List.filterMap_eq_nil_iff.mpr hn]
  rfl

/-- The interventions that some chunks make an observer hear. -/
def signalsOf (chunks : List Chunk) : List GuardrailSignal :=
  chunks.flatMap fun chunk => Notice.signals (itemNotices true (.ok chunk))

theorem signalsOf_metadata (fields : Fields) : signalsOf [.metadata fields] = statedBy fields := by
  rw [← GuardrailSignal.signals_guardrailNotices]
  exact List.append_nil _

/-- The metadata of a completion event state what the event states. -/
theorem signalsOf_metadataChunks {outputKey : String} (ha : actionKey ≠ outputKey)
    (ht : traceKey ≠ outputKey) (fields : Fields) :
    signalsOf (metadataChunks outputKey fields) = statedBy fields := by
  have hs : statedBy (metadataOf outputKey fields) = statedBy fields :=
    GuardrailSignal.statedBy_congr (get?_metadataOf ha (by decide) fields)
      (get?_metadataOf ht (by decide) fields)
  rw [← hs, metadataChunks]
  split
  · rename_i he
    rw [List.isEmpty_iff.mp he]
    rfl
  · exact signalsOf_metadata _

theorem signalsOf_usageChunks (ends : Bool) (event : Json) : signalsOf (usageChunks ends event) = [] := by
  cases ends <;> rfl

theorem signalsOf_decodeBlockStart {index : UInt32} {block : Option Json} {chunks : List Chunk}
    (h : decodeBlockStart index block = .ok chunks) : signalsOf chunks = [] := by
  unfold decodeBlockStart at h
  split at h
  · cases h; rfl
  · split at h
    · rename_i opened _
      cases h
      cases opened <;> rfl
    · cases h

theorem signalsOf_decodeDelta {coerceToText : Bool} {index : UInt32} {delta : Option Json}
    {chunks : List Chunk} (h : decodeDelta coerceToText index delta = .ok chunks) :
    signalsOf chunks = [] := by
  unfold decodeDelta at h
  split at h
  · cases h; rfl
  · split at h
    · rename_i delta _
      cases h
      cases delta <;> cases coerceToText <;> rfl
    · cases h

/-- The metadata of a message delta state no intervention, and no other chunk of a messages event is
metadata. -/
theorem signalsOf_decodeEvent {coerceToText : Bool} {usage : Usage} {event : MessagesEvent}
    {decoded : Decoded} (h : decodeEvent coerceToText usage event = .ok decoded) :
    signalsOf decoded.chunks = [] := by
  cases event with
  | blockStart index block =>
    obtain ⟨chunks, hc, rfl⟩ := exists_of_map h
    exact signalsOf_decodeBlockStart hc
  | blockDelta index delta =>
    obtain ⟨chunks, hc, rfl⟩ := exists_of_map h
    exact signalsOf_decodeDelta hc
  | messageStart => cases h; cases coerceToText <;> rfl
  | messageDelta stopReason stopSequence => cases h; exact signalsOf_metadata _
  | blockStop | messageStop | ping | other => cases h; rfl

theorem signalsOf_decodeMessages {coerceToText : Bool} {event : Json} {decoded : Decoded}
    (h : decodeMessages coerceToText event = .ok decoded) : signalsOf decoded.chunks = [] := by
  unfold decodeMessages at h
  split at h
  · exact signalsOf_decodeEvent h
  · cases h

theorem outputKey_of_ofOptions {given provider : Provider} {options : DecodeOptions}
    {outputKey : String} (h : ofOptions given options = .ok (completion provider outputKey)) :
    provider.profile.outputKey = some outputKey := by
  unfold ofOptions at h
  split at h <;> split at h <;> cases h
  assumption

theorem outputKey_ne {provider : Provider} {outputKey : String}
    (h : provider.profile.outputKey = some outputKey) :
    actionKey ≠ outputKey ∧ traceKey ≠ outputKey := by
  cases provider <;> cases h <;> decide

theorem signals_okItems (chunks : List Chunk) :
    Notice.signals ((chunks.map Except.ok).flatMap (itemNotices true)) = signalsOf chunks := by
  rw [Notice.signals_flatMap, List.flatMap_map]
  rfl

theorem signals_messages (coerceToText : Bool) (item : SourceItem) :
    Notice.signals (((messages coerceToText).itemsOf item).flatMap (itemNotices true)) = [] := by
  cases item with
  | empty | failure | breakdown => rfl
  | event payload =>
    simp only [itemsOf, decode]
    cases Json.ofBytes? payload with
    | none => rfl
    | some event =>
      simp only [decodeJson]
      cases hd : decodeMessages coerceToText event with
      | error failure => rfl
      | ok decoded => exact (signals_okItems decoded.chunks).trans (signalsOf_decodeMessages hd)

/-- What an item of the source makes heard: what it states, if it is a completion event that is passed on. -/
theorem signals_itemsOf {provider : Provider} {options : DecodeOptions} {decoder : EventDecoder}
    (h : ofOptions provider options = .ok decoder) (item : SourceItem) :
    Notice.signals ((decoder.itemsOf item).flatMap (itemNotices true))
      = (decoder.passedFields? item).toList.flatMap statedBy := by
  cases decoder with
  | messages coerceToText => rw [signals_messages]; cases item <;> rfl
  | completion provider outputKey =>
    obtain ⟨ha, ht⟩ := outputKey_ne (outputKey_of_ofOptions h)
    have hp := itemsOf_passage provider outputKey item
    generalize (completion provider outputKey).passedFields? item = passed,
      (completion provider outputKey).itemsOf item = items at hp ⊢
    cases hp with
    | silent => rfl
    | fails failure => rfl
    | passedOn fields text ends =>
      have hm := signalsOf_metadataChunks ha ht fields
      have hu := signalsOf_usageChunks ends (.obj fields)
      rw [signals_okItems]
      rw [signalsOf] at hm hu ⊢
      rw [List.flatMap_cons, List.flatMap_append, hm, hu]
      rfl

theorem signals_portion {provider : Provider} {options : DecodeOptions} {decoder : EventDecoder}
    (h : ofOptions provider options = .ok decoder) (source : List SourceItem) :
    Notice.signals (((decoder.portion source).flatMap decoder.itemsOf).flatMap (itemNotices true))
      = decoder.passedOn source := by
  rw [List.flatMap_assoc, Notice.signals_flatMap, passedOn, List.filterMap_eq_flatMap_toList,
    List.flatMap_assoc]
  exact congrArg (decoder.portion source).flatMap (funext fun item => signals_itemsOf h item)

end EventDecoder

/-! ## Whole exchanges -/

/-- Whether some answers go on to the end of a stream. -/
def Drained (answers : List (Option Item × DecoderState)) : Prop := ∃ state, (none, state) ∈ answers

namespace LiveStream

theorem signals_of_drained {provider : Provider} {options : DecodeOptions} {decoder : EventDecoder}
    (h : EventDecoder.ofOptions provider options = .ok decoder) {source : List SourceItem} {n : Nat}
    (hd : Drained (answers ⟨.opened decoder source, true⟩ n)) :
    Notice.signals (heard ⟨.opened decoder source, true⟩ n) = decoder.passedOn source := by
  obtain ⟨state, hm⟩ := hd
  rw [answers_eq] at hm
  obtain ⟨k, hk, he⟩ := List.mem_map.mp hm
  have ho : ((StreamDecoder.opened decoder source).sighting k).outcome = none := congrArg Prod.fst he
  rw [StreamDecoder.outcome_opened, StreamDecoder.items_opened, List.getElem?_eq_none_iff] at ho
  have hn := List.mem_range.mp hk
  rw [heard_opened, List.take_of_length_le (by omega), EventDecoder.signals_portion h]

theorem exists_drained (decoder : EventDecoder) (source : List SourceItem) (reports : Bool) :
    ∃ n, Drained (answers ⟨.opened decoder source, reports⟩ n) := by
  let k := (StreamDecoder.opened decoder source).items.length
  refine ⟨k + 1, ((StreamDecoder.opened decoder source).sighting k).state, ?_⟩
  rw [answers_eq]
  refine List.mem_map.mpr ⟨k, List.mem_range.mpr (Nat.lt_succ_self k), ?_⟩
  refine Prod.ext ?_ rfl
  show ((StreamDecoder.opened decoder source).sighting k).outcome = none
  rw [StreamDecoder.outcome_opened]
  exact List.getElem?_eq_none (Nat.le_refl k)

end LiveStream

theorem PolledStream.exists_drained (decoder : EventDecoder) (waits : List Nat)
    (source : List SourceItem) (reports : Bool) :
    ∃ n, Drained (answers ⟨⟨.start decoder, .resting waits source, 0⟩, reports⟩ n) := by
  obtain ⟨m, hm⟩ := LiveStream.exists_drained decoder source reports
  obtain ⟨n, ha, -⟩ := exists_polls m (.opened decoder waits source reports)
  exact ⟨n, by rwa [ha]⟩

theorem PolledStream.signals_of_drained {provider : Provider} {options : DecodeOptions}
    {decoder : EventDecoder} (h : EventDecoder.ofOptions provider options = .ok decoder)
    {waits : List Nat} {source : List SourceItem} {n : Nat}
    (hd : Drained (answers ⟨⟨.start decoder, .resting waits source, 0⟩, true⟩ n)) :
    Notice.signals (heard ⟨⟨.start decoder, .resting waits source, 0⟩, true⟩ n)
      = decoder.passedOn source := by
  obtain ⟨m, -, ha, hh⟩ := exists_calls n (.opened decoder waits source true)
  rw [hh]
  exact LiveStream.signals_of_drained h (by rwa [← ha])

theorem Reply.body_of_parse {provider : Provider} {bytes : ByteArray} {headers : List Header}
    {reply : Reply} (h : Reply.parse provider bytes headers = .ok reply) :
    Json.ofBytes? bytes = some reply.body := by
  unfold Reply.parse at h
  split at h
  · cases h
  · rename_i body hb
    obtain ⟨answer, -, h⟩ := exists_of_bind h
    obtain ⟨usage, -, h⟩ := exists_of_bind h
    cases h
    exact hb

namespace Invoker

/-- The body of the complete response to a call, if one arrives and can be read. -/
def readBody? (invoker : Invoker) (transport : Transport) (call : Call) : Option ByteArray :=
  match invoker.prepare call false with
  | .error _ => none
  | .ok prepared =>
    match transport.invoke prepared.request with
    | .error _ => none
    | .ok output =>
      match Reply.parse invoker.provider output.body output.headers with
      | .error _ => none
      | .ok _ => some output.body

theorem signals_replyNotices {invoker : Invoker} (h : invoker.guardrails.reports = true)
    {reply : Reply} {bytes : ByteArray} (hb : Json.ofBytes? bytes = some reply.body) :
    Notice.signals (invoker.replyNotices reply) = GuardrailSignal.statedIn bytes := by
  rw [replyNotices, GuardrailSignal.statedIn, hb, Option.bind_some, h]
  cases reply.body.asObject? with
  | none => rfl
  | some fields => exact GuardrailSignal.signals_guardrailNotices fields

theorem signals_invoke {invoker : Invoker} (h : invoker.guardrails.reports = true)
    (transport : Transport) (call : Call) :
    Notice.signals (invoker.invoke transport call).notices
      = (invoker.readBody? transport call).toList.flatMap GuardrailSignal.statedIn := by
  rw [invoke, readBody?]
  cases invoker.prepare call false with
  | error failure => rfl
  | ok prepared =>
    simp only [receive]
    cases transport.invoke prepared.request with
    | error failure => rfl
    | ok output =>
      simp only [readReply]
      cases hr : Reply.parse invoker.provider output.body output.headers with
      | error failure => rfl
      | ok reply =>
        have hb := Reply.body_of_parse hr
        exact (signals_replyNotices h hb).trans (List.append_nil _).symm

/-- An observer that asked for interventions is told, once each and with their traces, of those that are
stated in the body of a complete response that could be read, or in completion events that are read and
passed on until the stream ends, and of no others: never of those in messages events. -/
theorem interventions_reported {invoker : Invoker} (h : invoker.guardrails.reports = true)
    (transport : Transport) (call : Call) :
    Notice.signals (invoker.invoke transport call).notices
      = (invoker.readBody? transport call).toList.flatMap GuardrailSignal.statedIn ∧
    Notice.signals (invoker.stream transport call).notices = [] ∧
    (∀ waits, Notice.signals (invoker.streamPolled transport waits call).notices = []) ∧
    (∀ coerceToText source, (EventDecoder.messages coerceToText).passedOn source = []) ∧
    ∀ prepared events, invoker.prepare call true = .ok prepared →
      transport.openStream prepared.request = .ok events →
      ∃ decoder, EventDecoder.ofOptions invoker.provider prepared.decode = .ok decoder ∧
        (∃ live, (invoker.stream transport call).result = .ok live ∧
          (∃ n, Drained (live.answers n)) ∧
          ∀ n, Drained (live.answers n) → Notice.signals (live.heard n) = decoder.passedOn events) ∧
        ∀ waits, ∃ polled, (invoker.streamPolled transport waits call).result = .ok polled ∧
          (∃ n, Drained (polled.answers n)) ∧
          ∀ n, Drained (polled.answers n) →
            Notice.signals (polled.heard n) = decoder.passedOn events := by
  have silent : ∀ {α : Type} {opened : EventDecoder → List SourceItem → α} {exchange : Exchange α},
      invoker.Opening transport call opened exchange → Notice.signals exchange.notices = [] := by
    intro α opened exchange ho
    cases ho <;> rfl
  have reading := invoker.stream_opening transport call
  have polling := fun waits => invoker.streamPolled_opening transport waits call
  rw [h] at reading polling
  refine ⟨signals_invoke h transport call, silent reading, fun waits => silent (polling waits),
    EventDecoder.passedOn_messages, ?_⟩
  intro prepared events hp ho
  obtain ⟨decoder, hd⟩ := exists_decoder hp
  refine ⟨decoder, hd, ⟨_, reading.result_eq hp ho hd, LiveStream.exists_drained _ _ _, ?_⟩, ?_⟩
  · intro n hn
    exact LiveStream.signals_of_drained hd hn
  · intro waits
    refine ⟨_, (polling waits).result_eq hp ho hd, PolledStream.exists_drained _ _ _ _, ?_⟩
    intro n hn
    exact PolledStream.signals_of_drained hd hn

/-- A completion event that states an intervention behind one that states none. -/
theorem interventions_reported_completion :
    let transport : Transport := ⟨fun _ => .error ⟨.request, none⟩, fun _ => .ok
      [.event "\x7b\"outputText\":\"Sorry\"\x7d".toUTF8,
        .event "\x7b\"outputText\":\".\",\"amazon-bedrock-guardrailAction\":\"INTERVENED\"\x7d".toUTF8]⟩
    let invoker : Invoker :=
      ⟨⟨"amazon.titan-text-express-v1", none, none⟩, .amazon, .empty, ⟨some "gr", some "1", true⟩⟩
    let call : Call := ⟨.prompt "hi", none, none, [], []⟩
    invoker.guardrails.reports = true ∧
    ∃ live, (invoker.stream transport call).result = .ok live ∧ (∃ n, Drained (live.answers n)) ∧
      ∀ n, Drained (live.answers n) →
        Notice.signals (live.heard n) = [⟨true, some "GUARDRAIL_INTERVENED", none⟩] := by
  intro transport invoker call
  obtain ⟨-, -, -, -, hs⟩ := @interventions_reported invoker rfl transport call
  subst transport invoker call
  refine ⟨rfl, ?_⟩
  obtain ⟨decoder, hd, ⟨live, hl, he, hn⟩, -⟩ := hs _ _ rfl rfl
  cases hd
  exact ⟨live, hl, he, hn⟩

/-- A messages event that states an intervention: the stream is read to its end, and nothing is heard. -/
theorem messages_intervention_unreported :
    let payload :=
      "\x7b\"type\":\"message_stop\",\"amazon-bedrock-guardrailAction\":\"INTERVENED\"\x7d".toUTF8
    let transport : Transport := ⟨fun _ => .error ⟨.request, none⟩, fun _ => .ok [.event payload]⟩
    let invoker : Invoker :=
      ⟨⟨"anthropic.claude-v2", none, none⟩, .anthropic, .empty, ⟨some "gr", some "1", true⟩⟩
    let call : Call := ⟨.conversation [⟨.user, .text "hi"⟩], none, none, [], []⟩
    invoker.guardrails.reports = true ∧
    GuardrailSignal.statedIn payload = [⟨true, some "GUARDRAIL_INTERVENED", none⟩] ∧
    ∃ live, (invoker.stream transport call).result = .ok live ∧ Drained (live.answers 2) ∧
      (live.decoder.after 2).eventsRead = 1 ∧ live.heard 2 = [] :=
  ⟨rfl, rfl, _, rfl, ⟨.terminated, List.mem_cons_of_mem _ (List.mem_cons_self ..)⟩, rfl, rfl⟩

end Invoker

end Colloquy
