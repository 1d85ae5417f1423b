import Colloquy.Stream.Decoder
/-!
# The stream machine

Between the events of a transport and the items of a stream stands a machine with a queue of chunks.  It
asks for an event only when the queue is empty, and never again once the stream has ended: at the end of
the events, at a failure, or behind a terminal event.
-/
namespace Colloquy

/-- What a transport hands over for an open stream. -/
inductive SourceItem where
  /-- An event with its bytes. -/
  | event (payload : ByteArray)
  /-- An event that carries nothing. -/
  | empty
  /-- The stream broke. -/
  | failure (failure : TransportFailure)
  /-- The task that should fetch the next event broke down, so nothing was fetched. -/
  | breakdown

namespace SourceItem

/-- How many events were taken from the transport for an item. -/
def taken : SourceItem → Nat
  | event _ | empty | failure _ => 1
  | breakdown => 0

end SourceItem

/-- An item of a stream: a chunk, or the failure that ends the stream. -/
abbrev Item := Except Failure Chunk

/-- How far a stream has come. -/
inductive DecoderState where
  /-- No event has been decoded yet. -/
  | idle
  | streaming
  /-- The stream has ended; chunks may still be queued. -/
  | terminated
deriving DecidableEq, Repr

namespace DecoderState

def name : DecoderState → String
  | idle => "Idle"
  | streaming => "Streaming"
  | terminated => "Terminated"

end DecoderState

/-- A machine that turns events into chunks. -/
structure Machine where
  decoder : EventDecoder
  /-- Chunks that have been decoded and not yet handed out. -/
  queue : List Chunk
  state : DecoderState
deriving DecidableEq, Repr

/-- What a machine does when asked for an item. -/
inductive Pull where
  /-- It hands out a chunk; the machine is the one that follows. -/
  | yields (chunk : Chunk) (next : Machine)
  | done
  | needsEvent
deriving DecidableEq, Repr

namespace Machine

def start (decoder : EventDecoder) : Machine := ⟨decoder, [], .idle⟩

def pull (machine : Machine) : Pull :=
  match machine.queue with
  | chunk :: rest => .yields chunk { machine with queue := rest }
  | [] => if machine.state = .terminated then .done else .needsEvent

/-- The machine at the end of its stream. -/
def terminate (machine : Machine) : Machine := { machine with queue := [], state := .terminated }

/-- Takes in the bytes of an event; the second part is the failure to hand out, if there is one. -/
def feedPayload (machine : Machine) (payload : ByteArray) : Machine × Option Failure :=
  match machine.decoder.decode payload with
  | .ok decoded =>
    ({ machine with
        queue := machine.queue ++ decoded.chunks
        state := if decoded.terminal then .terminated else .streaming }, none)
  | .error failure => (machine.terminate, some failure)

/-- Takes in what the transport hands over; nothing is the end of the events. -/
def feed (machine : Machine) : Option SourceItem → Machine × Option Failure
  | none => ({ machine with state := .terminated }, none)
  | some (.failure failure) => ({ machine with state := .terminated }, some (.transport failure))
  | some .breakdown =>
    ({ machine with state := .terminated }, some (.transport ⟨.background, none⟩))
  | some .empty => (machine, none)
  | some (.event payload) => machine.feedPayload payload

end Machine

end Colloquy
