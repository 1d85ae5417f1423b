import Colloquy.Usage
/-!
# Chunks of a streamed reply

A stream is a sequence of chunks: text, deltas of content blocks, fragments of tool calls, metadata and
usage.  Blocks and calls carry an index, which joins what belongs together.
-/
namespace Colloquy

/-- What is added to a content block. -/
inductive BlockDelta where
  | text (text : String)
  /-- More reasoning, or the signature that closes it. -/
  | thinking (thinking signature : Option String)
  /-- The start of a tool call. -/
  | toolUse (id name : String) (input : Json)
deriving DecidableEq, Repr

/-- A delta with the index of its block. -/
structure TaggedBlock where
  index : UInt32
  delta : BlockDelta
deriving DecidableEq, Repr

/-- A fragment of a tool call.  The arguments of all fragments of an index, joined in order, are the
arguments of the call. -/
structure CallFragment where
  index : UInt32
  id : Option String
  name : Option String
  args : String
deriving DecidableEq, Repr

/-- A piece of a streamed reply. -/
inductive Chunk where
  | text (text : String)
  /-- Deltas of content blocks; none at the start of a structured message. -/
  | content (blocks : List TaggedBlock)
  | toolCall (fragment : CallFragment)
  | metadata (fields : Fields)
  /-- The usage seen at one point, not a running total. -/
  | usage (usage : Usage)
deriving DecidableEq, Repr

namespace BlockDelta

def kinds : List String := ["text", "thinking", "tool_use"]

def ofFields? (kind : String) (fields : Record) : Option BlockDelta :=
  match kind with
  | "text" => do
    guard (fields.fits 1)
    let t ← fields.required 0 "text" Json.asString?
    some (text t)
  | "thinking" => do
    guard (fields.fits 2)
    let t ← fields.optional 0 "thinking" Json.asString?
    let s ← fields.optional 1 "signature" Json.asString?
    some (thinking t s)
  | "tool_use" => do
    guard (fields.fits 3)
    let id ← fields.required 0 "id" Json.asString?
    let name ← fields.required 1 "name" Json.asString?
    let input ← fields.defaulted 2 "input" .null some
    some (toolUse id name input)
  | _ => none

def ofJson? (value : Json) : Option BlockDelta :=
  (value.tagged? []).bind fun tagged => ofFields? tagged.1 tagged.2

/-- The members of a delta, its kind first. -/
def members : BlockDelta → List (String × Json)
  | text t => [("type", .str "text"), ("text", .str t)]
  | thinking t s =>
    [("type", .str "thinking")]
      ++ (t.map fun t => ("thinking", Json.str t)).toList
      ++ (s.map fun s => ("signature", Json.str s)).toList
  | toolUse id name input =>
    [("type", .str "tool_use"), ("id", .str id), ("name", .str name), ("input", input)]

def toJson (delta : BlockDelta) : Json := .object delta.members

end BlockDelta

namespace TaggedBlock

/-- Reads an object that holds the index beside the members of the delta, whose kind may also be given
by number. -/
def ofJson? : Json → Option TaggedBlock
  | .obj fields => do
    let index ← (Fields.get? fields "index").bind Json.asIndex?
    let tagged ← Json.tagged? BlockDelta.kinds (.obj fields)
    let delta ← BlockDelta.ofFields? tagged.1 tagged.2
    some ⟨index, delta⟩
  | _ => none

def members (block : TaggedBlock) : List (String × Json) :=
  ("index", .ofIndex block.index) :: block.delta.members

def toJson (block : TaggedBlock) : Json := .object block.members

end TaggedBlock

namespace CallFragment

def ofJson? (value : Json) : Option CallFragment := do
  let fields ← Record.ofJson? 4 value
  let index ← fields.required 0 "index" Json.asIndex?
  let id ← fields.optional 1 "id" Json.asString?
  let name ← fields.optional 2 "name" Json.asString?
  let args ← fields.defaulted 3 "args" "" Json.asString?
  some ⟨index, id, name, args⟩

def members (fragment : CallFragment) : List (String × Json) :=
  [("index", .ofIndex fragment.index)]
    ++ (fragment.id.map fun i => ("id", Json.str i)).toList
    ++ (fragment.name.map fun n => ("name", Json.str n)).toList
    ++ [("args", .str fragment.args)]

def toJson (fragment : CallFragment) : Json := .object fragment.members

end CallFragment

namespace Chunk

def ofData? (kind : String) (data : Json) : Option Chunk :=
  match kind with
  | "text" => data.asString?.map text
  | "content" => (data.list? TaggedBlock.ofJson?).map content
  | "tool_call" => (CallFragment.ofJson? data).map toolCall
  | "metadata" => data.asObject?.map metadata
  | "usage" => (Usage.ofJson? data).map usage
  | _ => none

/-- The kind that a chunk is written with.  Only under a name may it be an object. -/
def writtenKind? (fields : Record) : Option String :=
  match fields with
  | .named _ => fields.required 0 "type" Json.choice?
  | .ordered _ => fields.required 0 "type" Json.asString?

/-- Reads a chunk from its kind under `type` and its data under `data`. -/
def ofJson? (value : Json) : Option Chunk := do
  let fields ← Record.ofJson? 2 value
  let kind ← writtenKind? fields
  let data ← fields.field? 1 "data"
  ofData? kind data

def kind : Chunk → String
  | text _ => "text"
  | content _ => "content"
  | toolCall _ => "tool_call"
  | metadata _ => "metadata"
  | usage _ => "usage"

/-- The data of a chunk; `build` makes an object of its members in declared order. -/
def data (build : List (String × Json) → Json) : Chunk → Json
  | text t => .str t
  | content blocks => .arr (blocks.map fun block => build block.members)
  | toolCall fragment => build fragment.members
  | metadata fields => .obj fields
  | usage u => build u.members

def toJson (chunk : Chunk) : Json :=
  .object [("type", .str chunk.kind), ("data", chunk.data .object)]

/-- A chunk whose members stand in declared order, the kind first; only free-form objects are sorted. -/
def toJsonInOrder (chunk : Chunk) : Json :=
  .obj [("type", .str chunk.kind), ("data", chunk.data .obj)]

def text? : Chunk → Option String
  | text t => some t
  | content _ | toolCall _ | metadata _ | usage _ => none

/-- Whether a chunk carries structured content and not plain text. -/
def isStructured : Chunk → Bool
  | content _ | toolCall _ => true
  | text _ | metadata _ | usage _ => false

def isUsage : Chunk → Bool
  | usage _ => true
  | text _ | content _ | toolCall _ | metadata _ => false

end Chunk

end Colloquy
