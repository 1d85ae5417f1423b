import Colloquy.Usage
/-!
# Invocation metrics

At the end of a stream the service puts an object with token counts and latencies into the event.  Where
it is missing or not of this form, all counts are zero.
-/
namespace Colloquy

/-- The counts that the service states for an invocation. -/
structure Metrics where
  input : UInt64
  output : UInt64
  cacheRead : UInt64
  cacheWrite : UInt64
  /-- Milliseconds until the end. -/
  latency : Option UInt64
  /-- Milliseconds until the first byte. -/
  firstByteLatency : Option UInt64
deriving DecidableEq, Repr

namespace Metrics

def key : String := "amazon-bedrock-invocationMetrics"

def zero : Metrics := ⟨0, 0, 0, 0, none, none⟩

def ofJson? (value : Json) : Option Metrics := do
  let fields ← Record.ofJson? 6 value
  let input ← fields.defaulted 0 "inputTokenCount" 0 Json.asCount?
  let output ← fields.defaulted 1 "outputTokenCount" 0 Json.asCount?
  let cacheRead ← fields.defaulted 2 "cacheReadInputTokenCount" 0 Json.asCount?
  let cacheWrite ← fields.defaulted 3 "cacheWriteInputTokenCount" 0 Json.asCount?
  let latency ← fields.optional 4 "invocationLatency" Json.asCount?
  let firstByteLatency ← fields.optional 5 "firstByteLatency" Json.asCount?
  some ⟨input, output, cacheRead, cacheWrite, latency, firstByteLatency⟩

def ofEvent (event : Json) : Metrics := ((event.get? key).bind ofJson?).getD zero

def usage (metrics : Metrics) : Usage :=
  { prompt := metrics.input
    completion := metrics.output
    cacheRead := metrics.cacheRead
    cacheWrite := metrics.cacheWrite
    total := capAdd metrics.input metrics.output }

end Metrics

end Colloquy
