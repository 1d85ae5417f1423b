import Colloquy.Stream.Blocking
/-!
# The items of a whole stream

Read to its end, a stream is a list of items: the chunks of its events in order, up to the event that ends
it, or up to a failure.
-/
namespace Colloquy

namespace Machine

/-- The items of a machine and the events that are still to come. -/
def items (machine : Machine) : List SourceItem → List Item
  | [] => machine.queue.map .ok
  | item :: rest =>
    if machine.state = .terminated then machine.queue.map .ok
    else
      match { machine with queue := [] }.feed (some item) with
      | (next, some failure) => machine.queue.map .ok ++ .error failure :: next.items rest
      | (next, none) => machine.queue.map .ok ++ next.items rest

end Machine

namespace StreamDecoder

/-- All items that a stream still has. -/
def items (stream : StreamDecoder) : List Item := stream.machine.items stream.events

end StreamDecoder

end Colloquy
