import Colloquy.Stream.Machine
/-!
# Reading a stream item by item

A stream decoder asks its machine for an item and feeds it events until there is one.  It reads no event
before it needs it.
-/
namespace Colloquy

/-- A stream that is being decoded, with the events that are still to come. -/
structure StreamDecoder where
  machine : Machine
  events : List SourceItem
  /-- How many events have been taken from the transport. -/
  eventsRead : Nat
  /-- How often the transport has been asked for an event; the end of the events counts too. -/
  asked : Nat

namespace StreamDecoder

/-- Opens a stream of a provider; fails before any event is read if they could not be decoded. -/
def start (provider : Provider) (options : DecodeOptions) (events : List SourceItem) :
    Except Failure StreamDecoder :=
  (EventDecoder.ofOptions provider options).map fun decoder => ⟨.start decoder, events, 0, 0⟩

def state (stream : StreamDecoder) : DecoderState := stream.machine.state

/-- The next item of a machine whose events are still to come, and the stream behind it. -/
def nextFrom (machine : Machine) (eventsRead asked : Nat) :
    List SourceItem → Option Item × StreamDecoder
  | [] =>
    match machine.pull with
    | .yields chunk next => (some (.ok chunk), ⟨next, [], eventsRead, asked⟩)
    | .done => (none, ⟨machine, [], eventsRead, asked⟩)
    | .needsEvent => (none, ⟨(machine.feed none).1, [], eventsRead, asked + 1⟩)
  | item :: rest =>
    match machine.pull with
    | .yields chunk next => (some (.ok chunk), ⟨next, item :: rest, eventsRead, asked⟩)
    | .done => (none, ⟨machine, item :: rest, eventsRead, asked⟩)
    | .needsEvent =>
      match machine.feed (some item) with
      | (next, some failure) =>
        (some (.error failure), ⟨next, rest, eventsRead + item.taken, asked + 1⟩)
      | (next, none) => nextFrom next (eventsRead + item.taken) (asked + 1) rest

/-- The next item, and the stream behind it. -/
def next (stream : StreamDecoder) : Option Item × StreamDecoder :=
  nextFrom stream.machine stream.eventsRead stream.asked stream.events

end StreamDecoder

end Colloquy
