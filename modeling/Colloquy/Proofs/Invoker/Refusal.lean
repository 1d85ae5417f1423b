import Colloquy.Proofs.Invoker.Opening
import Colloquy.Proofs.Invoker.Reading
/-!
# Refused before sending, or sent once

A call is refused with a configuration failure and nothing is sent, or one request is sent, and whatever
fails behind that is a failure of the transport or of reading what it brought.

Results:
* `EventDecoder.isUpstream_of_itemsOf`, `Reply.parse_failsOnly`: what can fail in reading.
* `Invoker.invoke_honours`, `Invoker.Opening.honours`: refused, or sent once.
* `Invoker.refused_or_sent`: calls of all kinds, with everything that their streams hand out.
-/
namespace Colloquy

/-- Whether a failure is one of the transport, or of reading what it brought. -/
def Failure.IsUpstream (failure : Failure) : Prop :=
  (∃ cause, failure = .transport cause) ∨ ∃ fault, failure = .decode fault

namespace Failure

theorem IsUpstream.transport (cause : TransportFailure) : IsUpstream (.transport cause) :=
  .inl ⟨cause, rfl⟩

theorem IsUpstream.decode (fault : DecodeFault) : IsUpstream (.decode fault) := .inr ⟨fault, rfl⟩

theorem IsUpstream.not_configuration {failure : Failure} (h : failure.IsUpstream) :
    failure.isConfiguration = false := by
  rcases h with ⟨_, rfl⟩ | ⟨_, rfl⟩ <;> rfl

theorem IsUpstream.not_encode {failure : Failure} (h : failure.IsUpstream) (detail : String) :
    failure ≠ .encode detail := by
  rcases h with ⟨_, rfl⟩ | ⟨_, rfl⟩ <;> exact nofun

end Failure

/-! ## Reading events -/

namespace EventDecoder

open Failure (IsUpstream)

theorem decodeCompletion_failsOnly (provider : Provider) (outputKey : String) (event : Json) :
    FailsOnly IsUpstream (decodeCompletion provider outputKey event) := by
  unfold decodeCompletion
  simp only
  split
  · exact .ok _
  split
  · exact .error (.decode _)
  split
  · exact .error (.decode _)
  split <;> exact .ok _

theorem decodeEvent_failsOnly (coerceToText : Bool) (usage : Usage) (event : MessagesEvent) :
    FailsOnly IsUpstream (decodeEvent coerceToText usage event) := by
  cases event with
  | blockStart index block =>
    refine .map ?_ _
    unfold decodeBlockStart
    split
    · exact .ok _
    · split <;> first | exact .ok _ | exact .error (.decode _)
  | blockDelta index delta =>
    refine .map ?_ _
    unfold decodeDelta
    split
    · exact .ok _
    · split <;> first | exact .ok _ | exact .error (.decode _)
  | _ => exact .ok _

theorem decode_failsOnly (decoder : EventDecoder) (payload : ByteArray) :
    FailsOnly IsUpstream (decoder.decode payload) := by
  unfold decode
  split
  · cases decoder with
    | messages coerceToText =>
      simp only [decodeJson, decodeMessages]
      split
      · exact decodeEvent_failsOnly _ _ _
      · exact .error (.decode _)
    | completion provider outputKey => exact decodeCompletion_failsOnly provider outputKey _
  · exact .error (.decode _)

theorem isUpstream_of_itemsOf {decoder : EventDecoder} {item : SourceItem} {failure : Failure}
    (h : .error failure ∈ decoder.itemsOf item) : failure.IsUpstream := by
  cases item with
  | empty => cases h
  | failure cause => cases List.mem_singleton.mp h; exact .transport _
  | breakdown => cases List.mem_singleton.mp h; exact .transport _
  | event payload =>
    simp only [itemsOf] at h
    split at h
    · obtain ⟨chunk, -, hc⟩ := List.mem_map.mp h
      cases hc
    · rename_i fault hd
      cases List.mem_singleton.mp h
      exact decoder.decode_failsOnly payload _ hd

end EventDecoder

/-! ## Reading a complete response -/

theorem Header.count_failsOnly (headers : List Header) (name : String) :
    FailsOnly Failure.IsUpstream (count headers name) := by
  unfold count
  split
  · exact .ok _
  · split
    · exact .ok _
    · exact .error (.decode _)

theorem Usage.ofHeaders_failsOnly (headers : List Header) :
    FailsOnly Failure.IsUpstream (Usage.ofHeaders headers) :=
  .bind (Header.count_failsOnly _ _) fun _ _ => .bind (Header.count_failsOnly _ _) fun _ _ =>
    .bind (Header.count_failsOnly _ _) fun _ _ => .bind (Header.count_failsOnly _ _) fun _ _ => .ok _

theorem Answer.ofBody_failsOnly (provider : Provider) (body : Json) :
    FailsOnly Failure.IsUpstream (Answer.ofBody provider body) := by
  unfold Answer.ofBody Answer.ofConversation
  repeat' split
  all_goals first | exact .ok _ | exact .error (.decode _)

theorem Reply.parse_failsOnly (provider : Provider) (bytes : ByteArray) (headers : List Header) :
    FailsOnly Failure.IsUpstream (Reply.parse provider bytes headers) := by
  unfold Reply.parse
  split
  · exact .error (.decode _)
  · exact .bind (Answer.ofBody_failsOnly _ _) fun _ _ =>
      .bind (Usage.ofHeaders_failsOnly _) fun _ _ => .ok _

/-! ## Whole exchanges -/

/-- Whether an exchange keeps to what preparing its call came to. -/
structure Exchange.Honours (exchange : Exchange α) (prepared : Except Failure Prepared) : Prop where
  /-- A call that could not be prepared is refused, and nothing else happens. -/
  refused : ∀ failure, prepared = .error failure →
    failure.isConfiguration = true ∧ exchange = .refused failure
  /-- One request is sent, the prepared one, and what fails behind that lies with the other side. -/
  sent : ∀ call, prepared = .ok call →
    exchange.sent = [call.request] ∧ FailsOnly Failure.IsUpstream exchange.result
  /-- A failure is one of the configuration exactly if nothing was sent. -/
  apart : ∀ failure, exchange.result = .error failure →
    (failure.isConfiguration = true ↔ exchange.sent = [])

namespace Exchange

theorem Honours.ofRefusal {failure : Failure} (h : failure.isConfiguration = true) :
    (Exchange.refused failure : Exchange α).Honours (.error failure) where
  refused := by rintro other ⟨⟩; exact ⟨h, rfl⟩
  sent := nofun
  apart := by rintro other ⟨⟩; exact iff_of_true h rfl

theorem Honours.ofSent {call : Prepared} {notices : List Notice} {result : Except Failure α}
    (h : FailsOnly Failure.IsUpstream result) :
    (Exchange.mk [call.request] notices result).Honours (.ok call) where
  refused := nofun
  sent := by rintro other ⟨⟩; exact ⟨rfl, h⟩
  apart := by
    intro failure hf
    have := (h failure hf).not_configuration
    exact iff_of_false (by rw [this]; exact nofun) nofun

end Exchange

namespace Invoker

theorem Opening.honours {invoker : Invoker} {transport : Transport} {call : Call}
    {opened : EventDecoder → List SourceItem → α} {exchange : Exchange α}
    (h : invoker.Opening transport call opened exchange) :
    exchange.Honours (invoker.prepare call true) := by
  cases h with
  | refused failure hp =>
    rw [hp]
    exact .ofRefusal (invoker.prepare_failsOnly call true failure hp)
  | failed prepared hp failure ho => rw [hp]; exact .ofSent (.error (.transport failure))
  | opens prepared hp events ho decoder hd => rw [hp]; exact .ofSent (.ok _)

theorem invoke_honours (invoker : Invoker) (transport : Transport) (call : Call) :
    (invoker.invoke transport call).Honours (invoker.prepare call false) := by
  rw [invoke]
  cases hp : invoker.prepare call false with
  | error failure => exact .ofRefusal (invoker.prepare_failsOnly call false failure hp)
  | ok prepared =>
    simp only [receive]
    cases transport.invoke prepared.request with
    | error failure => exact .ofSent (.error (.transport failure))
    | ok output =>
      have hf : FailsOnly Failure.IsUpstream (invoker.readReply output call.stops) :=
        .map (Reply.parse_failsOnly _ _ _) _
      simp only
      cases hr : invoker.readReply output call.stops with
      | error failure => exact .ofSent (.error (hf failure hr))
      | ok reply => exact .ofSent (.ok _)

end Invoker

/-! ## Streams -/

theorem LiveStream.isUpstream_of_answers {decoder : EventDecoder} {source : List SourceItem}
    {reports : Bool} {n : Nat} {failure : Failure} {state : DecoderState}
    (h : (some (.error failure), state) ∈ answers ⟨.opened decoder source, reports⟩ n) :
    failure.IsUpstream := by
  rw [answers_eq] at h
  obtain ⟨k, -, hk⟩ := List.mem_map.mp h
  have ho : ((StreamDecoder.opened decoder source).sighting k).outcome = some (.error failure) :=
    congrArg Prod.fst hk
  rw [StreamDecoder.outcome_opened, StreamDecoder.items_opened] at ho
  obtain ⟨item, -, hi⟩ := List.mem_flatMap.mp (List.mem_of_getElem? ho)
  exact EventDecoder.isUpstream_of_itemsOf hi

theorem PolledStream.isUpstream_of_answers {decoder : EventDecoder} {waits : List Nat}
    {source : List SourceItem} {reports : Bool} {n : Nat} {failure : Failure} {state : DecoderState}
    (h : (some (.error failure), state)
      ∈ answers ⟨⟨.start decoder, .resting waits source, 0⟩, reports⟩ n) : failure.IsUpstream := by
  obtain ⟨m, -, ha, -⟩ := exists_calls n (.opened decoder waits source reports)
  rw [ha] at h
  exact LiveStream.isUpstream_of_answers h

namespace Invoker

/-- A call is refused with a configuration failure and nothing is sent, or exactly its prepared request is
sent and no failure behind that, returned or handed out by the stream, is one of the configuration or of
writing the request.  So the two go together: a failure is one of the configuration exactly if nothing was
sent.  Decoding the events of a prepared call can always be started. -/
theorem refused_or_sent (invoker : Invoker) (transport : Transport) (call : Call) :
    (invoker.invoke transport call).Honours (invoker.prepare call false) ∧
    (∀ waits, (invoker.invokeAwaited transport waits call).Honours (invoker.prepare call false)) ∧
    (invoker.stream transport call).Honours (invoker.prepare call true) ∧
    (∀ waits, (invoker.streamPolled transport waits call).Honours (invoker.prepare call true)) ∧
    (∀ live, (invoker.stream transport call).result = .ok live →
      ∀ n failure state, (some (.error failure), state) ∈ live.answers n → failure.IsUpstream) ∧
    (∀ waits polled, (invoker.streamPolled transport waits call).result = .ok polled →
      ∀ n failure state, (some (.error failure), state) ∈ polled.answers n → failure.IsUpstream) ∧
    (∀ prepared, invoker.prepare call true = .ok prepared → ∀ waits events,
      (∃ stream, StreamDecoder.start invoker.provider prepared.decode events = .ok stream) ∧
      ∃ stream, PolledDecoder.start invoker.provider prepared.decode waits events = .ok stream) ∧
    (∀ failure : Failure, failure.IsUpstream →
      failure.isConfiguration = false ∧ ∀ detail, failure ≠ .encode detail) := by
  have reading := invoker.stream_opening transport call
  have polling := fun waits => invoker.streamPolled_opening transport waits call
  have invoked := invoker.invoke_honours transport call
  refine ⟨invoked, fun waits => ?_, reading.honours, fun waits => (polling waits).honours, ?_, ?_, ?_,
    fun failure h => ⟨h.not_configuration, h.not_encode⟩⟩
  · rw [invokeAwaited_eq]
    exact invoked
  · intro live hl n failure state h
    generalize invoker.stream transport call = exchange at reading hl
    cases reading with
    | refused | failed => cases hl
    | opens prepared hp events ho decoder hd => cases hl; exact LiveStream.isUpstream_of_answers h
  · intro waits polled hl n failure state h
    have polling := polling waits
    generalize invoker.streamPolled transport waits call = exchange at polling hl
    cases polling with
    | refused | failed => cases hl
    | opens prepared hp events ho decoder hd => cases hl; exact PolledStream.isUpstream_of_answers h
  · intro prepared hp waits events
    obtain ⟨decoder, hd⟩ := exists_decoder hp
    exact ⟨⟨_, StreamDecoder.start_eq hd events⟩, ⟨_, by rw [PolledDecoder.start, hd]; rfl⟩⟩

/-- A call that is prepared and sent, to a transport that loses it: the one request of its preparation goes out,
and the failure is not one of the configuration. -/
theorem refused_or_sent_lost :
    let cause : TransportFailure := ⟨.request, none⟩
    let transport : Transport := ⟨fun _ => .error cause, fun _ => .error cause⟩
    let invoker : Invoker :=
      ⟨⟨"amazon.titan-text-express-v1", none, none⟩, .amazon, .empty, .none⟩
    let call : Call := ⟨.prompt "hi", none, none, [], []⟩
    ∃ prepared, invoker.prepare call false = .ok prepared ∧
      (invoker.invoke transport call).sent = [prepared.request] ∧
      (invoker.invoke transport call).result = .error (.transport cause) ∧
      (Failure.transport cause).isConfiguration = false := by
  intro cause transport invoker call
  obtain ⟨invoked, -⟩ := refused_or_sent invoker transport call
  have hr : (invoker.invoke transport call).result = .error (.transport cause) := rfl
  obtain ⟨hs, hf⟩ := invoked.sent _ rfl
  exact ⟨_, rfl, hs, hr, (hf _ hr).not_configuration⟩

end Invoker

end Colloquy
