import Colloquy.Stream.Machine
/-!
# Polling a stream

An asynchronous stream is polled: an item may not be there yet.  Its events come from a blocking
transport that runs in the background, one pull at a time.  How long each pull takes is a schedule: how
often a poll finds nothing before each event.
-/
namespace Colloquy

/-- The outcome of a poll. -/
inductive Poll (α : Type) where
  | pending
  | ready (value : α)
deriving DecidableEq, Repr

/-- The events of a transport that runs in the background, between two polls.  Each pull takes the events
still to come into a task, which brings them back with the next one. -/
inductive BackgroundEvents where
  /-- No pull is under way.  The waits tell how many polls find nothing before each event and the end. -/
  | resting (waits : List Nat) (events : List SourceItem)
  /-- A pull is under way and has the events; so many polls more find it unfinished. -/
  | pulling (left : Nat) (waits : List Nat) (events : List SourceItem)
  /-- A pull broke down and took the events with it; the next poll finds the end. -/
  | broken
  /-- The end has been found; how often it was polled since, which it must not be. -/
  | spent (overruns : Nat)

namespace BackgroundEvents

/-- What a finished pull brings: the next event or the end, and what is left to pull. -/
def finish (waits : List Nat) : List SourceItem → Option SourceItem × BackgroundEvents
  | [] => (none, spent 0)
  | .breakdown :: _ => (some .breakdown, broken)
  | item :: rest => (some item, resting waits rest)

/-- Polls a pull that is under way. -/
def pollPull (waits : List Nat) (events : List SourceItem) :
    Nat → Poll (Option SourceItem) × BackgroundEvents
  | 0 => (.ready (finish waits events).1, (finish waits events).2)
  | left + 1 => (.pending, pulling left waits events)

/-- Polls for the next event; nothing is the end of the events.  A pull is started if none is under
way. -/
def poll : BackgroundEvents → Poll (Option SourceItem) × BackgroundEvents
  | resting waits events => pollPull waits.tail events (waits.headD 0)
  | pulling left waits events => pollPull waits events left
  | broken => (.ready none, spent 0)
  | spent overruns => (.ready none, spent (overruns + 1))

end BackgroundEvents

/-- A stream that is being decoded by polling. -/
structure PolledDecoder where
  machine : Machine
  source : BackgroundEvents
  /-- How many events have been taken from the transport. -/
  eventsRead : Nat

namespace PolledDecoder

/-- Opens a stream of a provider; fails before any event is polled if they could not be decoded. -/
def start (provider : Provider) (options : DecodeOptions) (waits : List Nat)
    (events : List SourceItem) : Except Failure PolledDecoder :=
  (EventDecoder.ofOptions provider options).map fun decoder =>
    ⟨.start decoder, .resting waits events, 0⟩

def state (stream : PolledDecoder) : DecoderState := stream.machine.state

/-- Polls a machine that needs an event and gets `source` to poll for it; `again` goes on with the
machine that has taken an event in. -/
def pollSource (machine : Machine) (eventsRead : Nat) (source : BackgroundEvents)
    (again : Machine → Nat → BackgroundEvents → Poll (Option Item) × PolledDecoder) :
    Poll (Option Item) × PolledDecoder :=
  match source.poll with
  | (.pending, source) => (.pending, ⟨machine, source, eventsRead⟩)
  | (.ready none, source) => (.ready none, ⟨(machine.feed none).1, source, eventsRead⟩)
  | (.ready (some item), source) =>
    match machine.feed (some item) with
    | (next, some failure) =>
      (.ready (some (.error failure)), ⟨next, source, eventsRead + item.taken⟩)
    | (next, none) => again next (eventsRead + item.taken) source

/-- Polls with at most `rounds` events taken in. -/
def pollWithin : Nat → Machine → Nat → BackgroundEvents → Poll (Option Item) × PolledDecoder
  | 0, machine, eventsRead, source => (.pending, ⟨machine, source, eventsRead⟩)
  | rounds + 1, machine, eventsRead, source =>
    match machine.pull with
    | .yields chunk next => (.ready (some (.ok chunk)), ⟨next, source, eventsRead⟩)
    | .done => (.ready none, ⟨machine, source, eventsRead⟩)
    | .needsEvent => pollSource machine eventsRead source (pollWithin rounds)

/-- How many events a source can still hand over. -/
def eventsLeft : BackgroundEvents → Nat
  | .resting _ events | .pulling _ _ events => events.length
  | .broken | .spent _ => 0

def poll (stream : PolledDecoder) : Poll (Option Item) × PolledDecoder :=
  pollWithin (eventsLeft stream.source + 1) stream.machine stream.eventsRead stream.source

/-- How many polls can find nothing. -/
def waitsLeft : BackgroundEvents → Nat
  | .resting waits _ => waits.foldr (· + ·) 0
  | .pulling left waits _ => left + waits.foldr (· + ·) 0
  | .broken | .spent _ => 0

/-- Polls until there is an item, at most `rounds` times more. -/
def awaitWithin : Nat → PolledDecoder → Option Item × PolledDecoder
  | rounds, stream =>
    match stream.poll with
    | (.ready item, stream) => (item, stream)
    | (.pending, stream) =>
      match rounds with
      | 0 => (none, stream)
      | rounds + 1 => awaitWithin rounds stream

def next (stream : PolledDecoder) : Option Item × PolledDecoder :=
  awaitWithin (waitsLeft stream.source) stream

end PolledDecoder

end Colloquy
