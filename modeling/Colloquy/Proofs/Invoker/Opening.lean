import Colloquy.Invoker.Exchange
import Colloquy.Proofs.Result
import Colloquy.Proofs.Stream.Run
/-!
# Preparing a call and opening its stream

Whatever is wrong with a call itself shows when it is prepared: as a configuration failure, and before
anything is sent.  Behind that only the transport can keep a stream from being opened, since it was settled
before that its events can be decoded.

Results:
* `Invoker.prepare_failsOnly`: a call that cannot be prepared fails with a configuration failure.
* `Invoker.exists_decoder`: the events of a prepared streaming call can be decoded.
* `Invoker.stream_opening`, `Invoker.streamPolled_opening`: what opening a stream can come to.
-/
namespace Colloquy

abbrev Failure.IsConfiguration (failure : Failure) : Prop := failure.isConfiguration = true

theorem EventDecoder.ofOptions_failsOnly (provider : Provider) (options : DecodeOptions) :
    FailsOnly Failure.IsConfiguration (ofOptions provider options) := by
  unfold ofOptions
  split <;> split <;> first | exact .ok _ | exact .error rfl

namespace Request

theorem withStops_failsOnly (request : Request) (stops : List String) :
    FailsOnly Failure.IsConfiguration (request.withStops stops) := by
  unfold withStops
  split
  · exact .ok _
  · split
    · exact .ok _
    · exact .error rfl

theorem body_failsOnly (request : Request) : FailsOnly Failure.IsConfiguration request.body := by
  refine .map ?_ _
  unfold fields
  split <;> first | exact .ok _ | exact .error rfl

end Request

namespace Invoker

/-- A call as it is prepared once its body is written. -/
def preparedOf (invoker : Invoker) (call : Call) (body : Json) : Prepared :=
  ⟨.json invoker.target.modelId body invoker.guardrails.target?, body, invoker.decodeOptionsOf call⟩

theorem prepare_eq (invoker : Invoker) (call : Call) (streaming : Bool) :
    invoker.prepare call streaming =
      (if streaming then invoker.streamingRequestOf call else .ok (invoker.requestOf call)) >>=
        fun request => request.body.map (invoker.preparedOf call) := by
  cases streaming <;> rfl

theorem streamingRequestOf_failsOnly (invoker : Invoker) (call : Call) :
    FailsOnly Failure.IsConfiguration (invoker.streamingRequestOf call) :=
  .bind (EventDecoder.ofOptions_failsOnly _ _) fun _ _ =>
    .bind (Request.withStops_failsOnly _ _) fun _ _ => .ok _

theorem prepare_failsOnly (invoker : Invoker) (call : Call) (streaming : Bool) :
    FailsOnly Failure.IsConfiguration (invoker.prepare call streaming) := by
  rw [prepare_eq]
  refine .bind ?_ fun request _ => .map request.body_failsOnly _
  cases streaming with
  | false => exact .ok _
  | true => exact invoker.streamingRequestOf_failsOnly call

/-- The events of a streaming call that could be prepared can be decoded. -/
theorem exists_decoder {invoker : Invoker} {call : Call} {prepared : Prepared}
    (h : invoker.prepare call true = .ok prepared) :
    ∃ decoder, EventDecoder.ofOptions invoker.provider prepared.decode = .ok decoder := by
  rw [prepare_eq, if_pos rfl] at h
  obtain ⟨request, hr, hm⟩ := exists_of_bind h
  obtain ⟨decoder, hd, -⟩ := exists_of_bind hr
  obtain ⟨body, -, rfl⟩ := exists_of_map hm
  exact ⟨decoder, hd⟩

/-- What opening a stream can come to. -/
inductive Opening (invoker : Invoker) (transport : Transport) (call : Call)
    (opened : EventDecoder → List SourceItem → α) : Exchange α → Prop where
  /-- The call could not be prepared. -/
  | refused (failure : Failure) (hp : invoker.prepare call true = .error failure) :
      Opening invoker transport call opened (.refused failure)
  /-- The transport opened no stream. -/
  | failed (prepared : Prepared) (hp : invoker.prepare call true = .ok prepared)
      (failure : TransportFailure) (ho : transport.openStream prepared.request = .error failure) :
      Opening invoker transport call opened (.failed prepared.request (.transport failure))
  | opens (prepared : Prepared) (hp : invoker.prepare call true = .ok prepared)
      (events : List SourceItem) (ho : transport.openStream prepared.request = .ok events)
      (decoder : EventDecoder)
      (hd : EventDecoder.ofOptions invoker.provider prepared.decode = .ok decoder) :
      Opening invoker transport call opened ⟨[prepared.request], [], .ok (opened decoder events)⟩

theorem Opening.result_eq {invoker : Invoker} {transport : Transport} {call : Call}
    {opened : EventDecoder → List SourceItem → α} {exchange : Exchange α}
    (h : invoker.Opening transport call opened exchange) {prepared : Prepared}
    (hp : invoker.prepare call true = .ok prepared) {events : List SourceItem}
    (ho : transport.openStream prepared.request = .ok events) {decoder : EventDecoder}
    (hd : EventDecoder.ofOptions invoker.provider prepared.decode = .ok decoder) :
    exchange.result = .ok (opened decoder events) := by
  cases h with
  | refused failure hr => rw [hr] at hp; cases hp
  | failed other hq failure hf => rw [hq] at hp; cases hp; rw [hf] at ho; cases ho
  | opens other hq others hs another hc =>
    rw [hq] at hp; cases hp
    rw [hs] at ho; cases ho
    rw [hc] at hd; cases hd
    rfl

theorem streamWith_opening (invoker : Invoker) (transport : Transport) (call : Call)
    {start : DecodeOptions → List SourceItem → Except Failure α}
    {opened : EventDecoder → List SourceItem → α}
    (h : ∀ options events decoder, EventDecoder.ofOptions invoker.provider options = .ok decoder →
      start options events = .ok (opened decoder events)) :
    Opening invoker transport call opened (invoker.streamWith transport call start) := by
  rw [streamWith]
  cases hp : invoker.prepare call true with
  | error failure => exact .refused failure hp
  | ok prepared =>
    simp only
    cases ho : transport.openStream prepared.request with
    | error failure => exact .failed prepared hp failure ho
    | ok events =>
      obtain ⟨decoder, hd⟩ := exists_decoder hp
      simp only [h prepared.decode events decoder hd]
      exact .opens prepared hp events ho decoder hd

theorem stream_opening (invoker : Invoker) (transport : Transport) (call : Call) :
    Opening invoker transport call
      (fun decoder events => ⟨.opened decoder events, invoker.guardrails.reports⟩)
      (invoker.stream transport call) := by
  refine streamWith_opening invoker transport call fun options events decoder hd => ?_
  rw [StreamDecoder.start_eq hd]
  rfl

theorem streamPolled_opening (invoker : Invoker) (transport : Transport) (waits : List Nat)
    (call : Call) :
    Opening invoker transport call
      (fun decoder events =>
        ⟨⟨.start decoder, .resting waits events, 0⟩, invoker.guardrails.reports⟩)
      (invoker.streamPolled transport waits call) := by
  refine streamWith_opening invoker transport call fun options events decoder hd => ?_
  rw [PolledDecoder.start, hd]
  rfl

end Invoker

end Colloquy
