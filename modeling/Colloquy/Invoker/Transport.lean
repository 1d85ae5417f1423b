import Colloquy.Invoker.Call
import Colloquy.Response.Headers
import Colloquy.Stream.Machine
/-!
# Transports

A transport carries a request to the service and brings back a complete response or the events of a
stream.  It answers each request on its own.
-/
namespace Colloquy

/-- A complete response as it arrives. -/
structure InvokeOutput where
  body : ByteArray
  headers : List Header

/-- What a transport answers to a request. -/
structure Transport where
  /-- Waits for the complete response. -/
  invoke : InvokeRequest → Except TransportFailure InvokeOutput
  /-- Opens a stream. -/
  openStream : InvokeRequest → Except TransportFailure (List SourceItem)

end Colloquy
