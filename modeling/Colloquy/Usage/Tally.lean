import Colloquy.Chunk
import Colloquy.Json.Writer
import Colloquy.Usage.Metrics
/-!
# Tallying the usage of a stream

Token counts reach a client on two ways: in metadata, and as usage chunks.  A tally adds up both apart
and answers with those of the metadata if any metadata carried a count, so that what comes on both ways
is not counted twice.  Sums are capped.  The last reason for stopping that says something is kept.
-/
namespace Colloquy

/-- What a whole stream used, and why it stopped. -/
structure Combined where
  usage : Usage
  stopReason : Option String
deriving DecidableEq, Repr

/-- The counts of a stream so far. -/
structure Tally where
  /-- The metadata key of the reason for stopping. -/
  stopReasonKey : String
  fromMetadata : Usage
  /-- Whether some metadata carried a count of prompt or completion tokens. -/
  metadataCounted : Bool
  fromChunks : Usage
  stopReason : Option String
deriving DecidableEq, Repr

namespace Tally

def start (stopReasonKey : String) : Tally := ⟨stopReasonKey, .zero, false, .zero, none⟩

/-- A count, or the sum of the counts in an array; what is no count adds nothing. -/
def sumCounts : Json → UInt64
  | .arr items => (items.filterMap Json.asCount?).foldl capAdd 0
  | value => value.asCount?.getD 0

/-- The text of a reason for stopping.  Null and the empty text say nothing; a value that is no text
stands as JSON. -/
def reasonText? : Json → Option String
  | .null => none
  | .str text => if text.isEmpty then none else some text
  | value => some value.compact

/-- Adds what metadata counts; `counted` tells whether prompt or completion tokens are among it. -/
def addCounts (tally : Tally) (usage : Usage) (counted : Bool) : Tally :=
  { tally with
    fromMetadata := tally.fromMetadata.add usage
    metadataCounted := tally.metadataCounted || counted }

/-- Adds the counts under `usage`. -/
def addUsageField (tally : Tally) (fields : Fields) : Tally :=
  match (Fields.get? fields "usage").bind Json.asObject? with
  | some usage =>
    let prompt := (Fields.get? usage "input_tokens").map sumCounts
    let completion := (Fields.get? usage "output_tokens").map sumCounts
    tally.addCounts
      { Usage.zero with prompt := prompt.getD 0, completion := completion.getD 0 }
      (prompt.isSome || completion.isSome)
  | none => tally

/-- Adds the counts in the invocation metrics. -/
def addMetricsField (tally : Tally) (fields : Fields) : Tally :=
  match (Fields.get? fields Metrics.key).bind Json.asObject? with
  | some metrics =>
    let count := fun key => (Fields.get? metrics key).bind Json.asCount?
    let prompt := count "inputTokenCount"
    let completion := count "outputTokenCount"
    tally.addCounts
      { prompt := prompt.getD 0
        completion := completion.getD 0
        cacheRead := (count "cacheReadInputTokenCount").getD 0
        cacheWrite := (count "cacheWriteInputTokenCount").getD 0
        total := 0 }
      (prompt.isSome || completion.isSome)
  | none => tally

/-- Keeps the reason for stopping, if the metadata has one. -/
def keepReason (tally : Tally) (fields : Fields) : Tally :=
  match (Fields.get? fields tally.stopReasonKey).bind reasonText? with
  | some reason => { tally with stopReason := some reason }
  | none => tally

/-- Takes in the metadata of an event. -/
def addMetadata (tally : Tally) (fields : Fields) : Tally :=
  ((tally.addUsageField fields).addMetricsField fields).keepReason fields

def add (tally : Tally) : Chunk → Tally
  | .metadata fields => tally.addMetadata fields
  | .usage usage => { tally with fromChunks := tally.fromChunks.add usage }
  | .text _ | .content _ | .toolCall _ => tally

/-- The result; the total is that of prompt and completion tokens. -/
def combined (tally : Tally) : Combined :=
  let usage := if tally.metadataCounted then tally.fromMetadata else tally.fromChunks
  { usage := { usage with total := capAdd usage.prompt usage.completion }
    stopReason := tally.stopReason }

def ofChunks (stopReasonKey : String) (chunks : List Chunk) : Tally :=
  chunks.foldl add (start stopReasonKey)

end Tally

namespace Combined

def ofMetadata (stopReasonKey : String) (maps : List Fields) : Combined :=
  (maps.foldl Tally.addMetadata (Tally.start stopReasonKey)).combined

end Combined

end Colloquy
