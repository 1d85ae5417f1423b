import Colloquy.Invoker.Transport
import Colloquy.Response.Parser
import Colloquy.StopText
import Colloquy.Stream.Blocking
import Colloquy.Stream.Polled
/-!
# Sending calls

An invoker prepares a call, sends it and reads the answer.  An observer is told of every failure after
the request was sent, before the caller learns of it, and of every intervention of a guardrail if they
are to be reported.

* `Invoker.invoke`: a complete reply.
* `Invoker.invokeAwaited`: the same, with a transport that works in the background.
* `Invoker.stream`, `LiveStream.next`: a stream, decoded as it is read.
* `Invoker.streamPolled`, `PolledStream.poll`: the same by polling; `PolledStream.next` waits for an item.
-/
namespace Colloquy

/-- What an observer is told. -/
inductive Notice where
  | failure (failure : Failure)
  | guardrail (signal : GuardrailSignal)
deriving DecidableEq, Repr

/-- What came of a call: the requests that were sent, what the observer was told, and the result. -/
structure Exchange (α : Type) where
  sent : List InvokeRequest
  notices : List Notice
  result : Except Failure α

namespace Exchange

/-- Nothing was sent because the call could not be prepared. -/
def refused (failure : Failure) : Exchange α := ⟨[], [], .error failure⟩

/-- The request was sent and the call failed; the observer is told. -/
def failed (request : InvokeRequest) (failure : Failure) : Exchange α :=
  ⟨[request], [.failure failure], .error failure⟩

end Exchange

/-- What the members of a body or event make an observer hear, if interventions are reported. -/
def guardrailNotices (reports : Bool) (fields : Fields) : List Notice :=
  let signal := GuardrailSignal.ofFields fields
  if reports && signal.intervened then [.guardrail signal] else []

/-- What an item of a stream makes an observer hear. -/
def itemNotices (reports : Bool) : Item → List Notice
  | .ok (.metadata fields) => guardrailNotices reports fields
  | .ok (.text _) | .ok (.content _) | .ok (.toolCall _) | .ok (.usage _) => []
  | .error failure => [.failure failure]

namespace Invoker

/-- Reads a complete response: its text ends in front of the first stop sequence. -/
def readReply (invoker : Invoker) (output : InvokeOutput) (stops : List String) :
    Except Failure Reply :=
  (Reply.parse invoker.provider output.body output.headers).map fun reply =>
    { reply with text := cutAtStops stops reply.text }

/-- What a complete reply makes an observer hear. -/
def replyNotices (invoker : Invoker) (reply : Reply) : List Notice :=
  match reply.body.asObject? with
  | some fields => guardrailNotices invoker.guardrails.reports fields
  | none => []

/-- What comes of a request whose complete response, or failure, is there. -/
def receive (invoker : Invoker) (call : Call) (request : InvokeRequest) :
    Except TransportFailure InvokeOutput → Exchange Reply
  | .error failure => .failed request (.transport failure)
  | .ok output =>
    match invoker.readReply output call.stops with
    | .error failure => .failed request failure
    | .ok reply => ⟨[request], invoker.replyNotices reply, .ok reply⟩

/-- Sends a call and waits for the complete reply. -/
def invoke (invoker : Invoker) (transport : Transport) (call : Call) : Exchange Reply :=
  match invoker.prepare call false with
  | .error failure => .refused failure
  | .ok prepared => invoker.receive call prepared.request (transport.invoke prepared.request)

/-- Polls for an answer that comes in the background until it is there; `waits` polls find nothing. -/
def awaitAnswer (answer : α) : Nat → α
  | 0 => answer
  | waits + 1 => awaitAnswer answer waits

/-- Sends a call and awaits the complete reply; so many polls find the transport at work. -/
def invokeAwaited (invoker : Invoker) (transport : Transport) (waits : Nat) (call : Call) :
    Exchange Reply :=
  match invoker.prepare call false with
  | .error failure => .refused failure
  | .ok prepared =>
    invoker.receive call prepared.request (awaitAnswer (transport.invoke prepared.request) waits)

theorem awaitAnswer_eq (answer : α) (waits : Nat) : awaitAnswer answer waits = answer := by
  induction waits with
  | zero => rfl
  | succ waits ih => exact ih

/-- Whether the caller blocks or awaits the reply, the exchange is the same. -/
theorem invokeAwaited_eq (invoker : Invoker) (transport : Transport) (waits : Nat) (call : Call) :
    invoker.invokeAwaited transport waits call = invoker.invoke transport call := by
  simp only [invokeAwaited, invoke, awaitAnswer_eq]

end Invoker

/-- An open stream with its observer. -/
structure LiveStream where
  decoder : StreamDecoder
  /-- Whether interventions of a guardrail are reported. -/
  reports : Bool

/-- An open stream that is polled, with its observer. -/
structure PolledStream where
  decoder : PolledDecoder
  /-- Whether interventions of a guardrail are reported. -/
  reports : Bool

/-- What the end of a stream or an item makes an observer hear. -/
def readNotices (reports : Bool) (item : Option Item) : List Notice :=
  match item with
  | some item => itemNotices reports item
  | none => []

namespace LiveStream

/-- The next item, what the observer hears before the caller gets it, and the stream behind it. -/
def next (stream : LiveStream) : Option Item × List Notice × LiveStream :=
  let (item, decoder) := stream.decoder.next
  (item, readNotices stream.reports item, { stream with decoder := decoder })

end LiveStream

namespace PolledStream

/-- Polls for the next item: the outcome, what the observer hears before the caller gets it, and the stream
behind it.  A poll that finds nothing makes nothing heard. -/
def poll (stream : PolledStream) : Poll (Option Item) × List Notice × PolledStream :=
  match stream.decoder.poll with
  | (.pending, decoder) => (.pending, [], { stream with decoder := decoder })
  | (.ready item, decoder) =>
    (.ready item, readNotices stream.reports item, { stream with decoder := decoder })

/-- The next item, what the observer hears before the caller gets it, and the stream behind it. -/
def next (stream : PolledStream) : Option Item × List Notice × PolledStream :=
  let (item, decoder) := stream.decoder.next
  (item, readNotices stream.reports item, { stream with decoder := decoder })

end PolledStream

namespace Invoker

/-- Sends a streaming call and opens its stream with `start`. -/
def streamWith (invoker : Invoker) (transport : Transport) (call : Call)
    (start : DecodeOptions → List SourceItem → Except Failure α) : Exchange α :=
  match invoker.prepare call true with
  | .error failure => .refused failure
  | .ok prepared =>
    match transport.openStream prepared.request with
    | .error failure => .failed prepared.request (.transport failure)
    | .ok events => ⟨[prepared.request], [], start prepared.decode events⟩

/-- Opens a stream that is read item by item. -/
def stream (invoker : Invoker) (transport : Transport) (call : Call) : Exchange LiveStream :=
  invoker.streamWith transport call fun options events =>
    (StreamDecoder.start invoker.provider options events).map fun decoder =>
      ⟨decoder, invoker.guardrails.reports⟩

/-- Opens a stream that is polled; `waits` tells how often a poll finds nothing before each event. -/
def streamPolled (invoker : Invoker) (transport : Transport) (waits : List Nat) (call : Call) :
    Exchange PolledStream :=
  invoker.streamWith transport call fun options events =>
    (PolledDecoder.start invoker.provider options waits events).map fun decoder =>
      ⟨decoder, invoker.guardrails.reports⟩

end Invoker

end Colloquy
