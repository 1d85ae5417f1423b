import Colloquy.Chunk
import Colloquy.Message
import Colloquy.Proofs.Json.Fields
import Colloquy.Proofs.Stream.Kind
import Colloquy.Reply
/-!
# Normal forms of typed values

A typed value may be written in several forms: with members that mean nothing, without those that have a
default, with nulls for those that are not set, or as an array.  Writing it gives one form, an object in the
order of its keys, and that form is kept: it is read as the same value, and so written as it was.

Blocks of one kind cannot be read from what is written for them: results of tools whose content is set to
null, because null counts as no content.  No such block is ever read.

Results:
* `Json.HasNormalForm`: when the form in which values are written is a normal form for a reader.
* `ContentBlock.ofFields?_isNormal`, `ContentBlock.read_written`: which blocks are read, and that these are
  read from what is written for them, alone and inside a message.
* `Json.typed_values_have_normal_form`: messages, tools, replies and chunks with all their parts.
-/
namespace Colloquy

namespace Json

/-- Whether what is written for values is a normal form for their reader. -/
structure HasNormalForm (read : Json → Option α) (write : α → Json) : Prop where
  /-- What is written is an object with its keys in order. -/
  isObject : ∀ json value, read json = some value → ∃ fields, write value = .obj fields ∧ Fields.Sorted fields
  /-- It is read as the value for which it was written. -/
  read_write : ∀ json value, read json = some value → read (write value) = some value
  /-- Writing what was read from it changes nothing. -/
  write_read : ∀ json value, read json = some value → (read (write value)).map write = some (write value)

variable {read : Json → Option α} {write : α → Json}

theorem object_sorted (members : List (String × Json)) :
    ∃ fields, object members = .obj fields ∧ Fields.Sorted fields :=
  ⟨_, rfl, Fields.Sorted.merge List.Pairwise.nil members⟩

/-- It is enough that a value that is read is read again from its members. -/
theorem HasNormalForm.of_read_write (members : α → List (String × Json))
    (hw : ∀ value, write value = object (members value))
    (h : ∀ json value, read json = some value → read (write value) = some value) :
    HasNormalForm read write where
  isObject _ value _ := by
    rw [hw]
    exact object_sorted (members value)
  read_write := h
  write_read json value hr := by rw [h json value hr, Option.map_some]

theorem list?_map {values : List α} (h : ∀ value ∈ values, read (write value) = some value) :
    list? read (.arr (values.map write)) = some values := by
  rw [list?]
  induction values with
  | nil => rfl
  | cons value rest ih =>
    obtain ⟨hv, hr⟩ := List.forall_mem_cons.mp h
    rw [List.map_cons, List.mapM_cons, hv, ih hr]
    rfl

/-- Every value of a list was read from one of its items. -/
theorem exists_of_mapM {items : List Json} {values : List α} (h : items.mapM read = some values) :
    ∀ value ∈ values, ∃ item, read item = some value := by
  induction items generalizing values with
  | nil =>
    cases h
    intro value hv
    cases hv
  | cons item rest ih =>
    simp only [List.mapM_cons, Option.bind_eq_bind, Option.bind_eq_some_iff] at h
    obtain ⟨first, hf, others, ho, he⟩ := h
    cases he
    exact List.forall_mem_cons.mpr ⟨⟨item, hf⟩, ih ho⟩

end Json

theorem Record.optional_ne_null {record : Record} {position : Nat} {name : String} {value : Option Json}
    (h : record.optional position name some = some value) : value ≠ some .null := by
  unfold optional at h
  split at h
  · cases h
    exact nofun
  · cases h
    exact nofun
  · rename_i written hn hw
    cases h
    rintro ⟨⟩
    exact hn rfl

/-! ## Messages -/

namespace ContentBlock

/-- Whether a block is one that is read: the result of a tool has content other than null, or none. -/
def IsNormal : ContentBlock → Prop
  | toolResult _ content _ => content ≠ some .null
  | text _ | thinking _ _ | redactedThinking _ | toolUse _ _ _ => True

theorem ofFields?_isNormal {kind : String} {record : Record} {block : ContentBlock}
    (h : ofFields? kind record = some block) : block.IsNormal := by
  unfold ofFields? at h
  split at h
  case h_6 => cases h
  all_goals simp only [Option.bind_eq_bind, Option.bind_eq_some_iff] at h
  case h_5 =>
    obtain ⟨-, -, -, -, content, hc, -, -, ⟨⟩⟩ := h
    exact Record.optional_ne_null hc
  case h_1 => obtain ⟨-, -, -, -, ⟨⟩⟩ := h; trivial
  case h_2 => obtain ⟨-, -, -, -, -, -, ⟨⟩⟩ := h; trivial
  case h_3 => obtain ⟨-, -, -, -, ⟨⟩⟩ := h; trivial
  case h_4 => obtain ⟨-, -, -, -, -, -, -, -, ⟨⟩⟩ := h; trivial

/-- A block is read from what is written for it, whether it stands alone or inside a message. -/
theorem read_written {block : ContentBlock} (h : block.IsNormal) (numbered : List String) :
    ((block.toJson.tagged? numbered).bind fun tagged => ofFields? tagged.1 tagged.2) = some block := by
  cases block with
  | toolResult id content isError =>
    cases content with
    | none =>
      cases isError <;>
        simp [toJson, members, Json.object, Fields.ofList, Fields.get?_insert, Fields.get?, Json.tagged?,
          Json.tag?, ofFields?, Record.required, Record.optional]
    | some content =>
      have hn : content ≠ .null := by
        intro he
        exact h (by rw [he])
      cases isError <;>
        simp [toJson, members, Json.object, Fields.ofList, Fields.get?_insert, Fields.get?, Json.tagged?,
          Json.tag?, ofFields?, Record.required, Record.optional]
  | _ =>
    simp [toJson, members, Json.object, Fields.ofList, Fields.get?_insert, Json.tagged?, Json.tag?,
      ofFields?, Record.required, Record.defaulted]

end ContentBlock

namespace Content

theorem read_written {content : Content} (h : ∀ block ∈ content.structuredBlocks, block.IsNormal) :
    ofJson? content.toJson = some content := by
  cases content with
  | text t => rfl
  | blocks bs =>
    have hb : Json.list? ContentBlock.ofNestedJson? (.arr (bs.map ContentBlock.toJson)) = some bs :=
      Json.list?_map fun block hm => ContentBlock.read_written (h block hm) ContentBlock.kinds
    rw [Json.list?] at hb
    rw [toJson, ofJson?, hb, Option.map_some]

theorem isNormal_of_ofJson? {json : Json} {content : Content} (h : ofJson? json = some content) :
    ∀ block ∈ content.structuredBlocks, block.IsNormal := by
  unfold ofJson? at h
  split at h
  · cases h
    intro block hb
    cases hb
  · rename_i items
    obtain ⟨blocks, hm, rfl⟩ := Option.map_eq_some_iff.mp h
    intro block hb
    obtain ⟨item, hi⟩ := Json.exists_of_mapM hm block hb
    obtain ⟨tagged, -, hf⟩ := Option.bind_eq_some_iff.mp hi
    exact ContentBlock.ofFields?_isNormal hf
  · cases h

end Content

namespace Message

theorem read_written {message : Message} (h : ∀ block ∈ message.content.structuredBlocks, block.IsNormal) :
    ofJson? message.toJson = some message := by
  have hc := Content.read_written h
  obtain ⟨role, content⟩ := message
  cases role <;>
    simp [ofJson?, toJson, Json.object, Fields.ofList, Fields.get?_insert, Record.ofJson?, Record.required,
      Role.ofJson?, Role.toJson, Role.name, Role.ofName?, Json.choice?, hc]

theorem isNormal_of_ofJson? {json : Json} {message : Message} (h : ofJson? json = some message) :
    ∀ block ∈ message.content.structuredBlocks, block.IsNormal := by
  simp only [ofJson?, Option.bind_eq_bind, Option.bind_eq_some_iff] at h
  obtain ⟨record, -, role, -, content, hc, ⟨⟩⟩ := h
  obtain ⟨written, -, hw⟩ := Option.bind_eq_some_iff.mp hc
  exact Content.isNormal_of_ofJson? hw

end Message

/-! ## Tools, usage and replies -/

theorem ToolSpec.read_written (tool : ToolSpec) : ofJson? tool.toJson = some tool := by
  obtain ⟨name, description, inputSchema⟩ := tool
  cases description <;>
    simp [ofJson?, toJson, Json.object, Fields.ofList, Fields.get?_insert, Fields.get?, Record.ofJson?,
      Record.required, Record.optional]

theorem ToolCall.read_written (call : ToolCall) : ofJson? call.toJson = some call := by
  simp [ofJson?, toJson, members, Json.object, Fields.ofList, Fields.get?_insert, Record.ofJson?,
    Record.required]

theorem Usage.read_written (usage : Usage) : ofJson? usage.toJson = some usage := by
  simp [ofJson?, toJson, members, Json.object, Fields.ofList, Fields.get?_insert, Record.ofJson?,
    Record.required]

theorem Thinking.read_written (thinking : Thinking) : ofJson? thinking.toJson = some thinking := by
  simp [ofJson?, toJson, Json.object, Fields.ofList, Fields.get?_insert, Record.ofJson?, Record.required]

theorem Reply.read_written (reply : Reply) : ofJson? reply.toJson = some reply := by
  obtain ⟨text, thinking, toolCalls, body, usage, stopReason⟩ := reply
  have hc : Json.list? ToolCall.ofJson? (.arr (toolCalls.map ToolCall.toJson)) = some toolCalls :=
    Json.list?_map fun call _ => call.read_written
  have ht (t : Thinking) : t.toJson ≠ .null := nofun
  by_cases he : toolCalls = []
  · cases thinking <;> cases stopReason <;>
      simp [ofJson?, toJson, Json.object, Fields.ofList, Fields.get?_insert, Fields.get?, Record.ofJson?,
        Record.required, Record.optional, Record.defaulted, he, ht, Thinking.read_written, Usage.read_written]
  · cases thinking <;> cases stopReason <;>
      simp [ofJson?, toJson, Json.object, Fields.ofList, Fields.get?_insert, Fields.get?, Record.ofJson?,
        Record.required, Record.optional, Record.defaulted, he, ht, hc, Thinking.read_written,
        Usage.read_written]

/-! ## Chunks -/

theorem BlockDelta.read_written (delta : BlockDelta) : ofJson? delta.toJson = some delta := by
  cases delta with
  | thinking t s =>
    cases t <;> cases s <;>
      simp [ofJson?, toJson, members, Json.object, Fields.ofList, Fields.get?_insert, Fields.get?,
        Json.tagged?, Json.tag?, ofFields?, Record.optional]
  | _ =>
    simp [ofJson?, toJson, members, Json.object, Fields.ofList, Fields.get?_insert, Json.tagged?,
      Json.tag?, ofFields?, Record.required, Record.defaulted]

/-- The members of a delta are read beside the index of its block. -/
theorem TaggedBlock.read_written (block : TaggedBlock) : ofJson? block.toJson = some block := by
  obtain ⟨index, delta⟩ := block
  cases delta with
  | thinking t s =>
    cases t <;> cases s <;>
      simp [ofJson?, toJson, members, BlockDelta.members, Json.object, Fields.ofList, Fields.get?_insert,
        Fields.get?, Json.tagged?, Json.tag?, BlockDelta.ofFields?, Record.optional]
  | _ =>
    simp [ofJson?, toJson, members, BlockDelta.members, Json.object, Fields.ofList, Fields.get?_insert,
      Json.tagged?, Json.tag?, BlockDelta.ofFields?, Record.required, Record.defaulted]

theorem CallFragment.read_written (fragment : CallFragment) : ofJson? fragment.toJson = some fragment := by
  obtain ⟨index, id, name, args⟩ := fragment
  cases id <;> cases name <;>
    simp [ofJson?, toJson, members, Json.object, Fields.ofList, Fields.get?_insert, Fields.get?,
      Record.ofJson?, Record.required, Record.optional, Record.defaulted]

namespace Chunk

theorem ofData?_data (chunk : Chunk) : ofData? chunk.kind (chunk.data .object) = some chunk := by
  cases chunk with
  | text t => rfl
  | content blocks =>
    have hb : Json.list? TaggedBlock.ofJson? (.arr (blocks.map TaggedBlock.toJson)) = some blocks :=
      Json.list?_map fun block _ => block.read_written
    exact congrArg (Option.map content) hb
  | toolCall fragment => exact congrArg (Option.map toolCall) fragment.read_written
  | metadata fields => rfl
  | usage u => exact congrArg (Option.map usage) u.read_written

theorem read_written (chunk : Chunk) : ofJson? chunk.toJson = some chunk := by
  simp [ofJson?, toJson, Json.object, Fields.ofList, Fields.get?_insert, Record.ofJson?, Record.required,
    writtenKind?, Json.choice?, ofData?_data]

end Chunk

/-! ## All of them -/

namespace Json

/-- What is written for a message, a tool, a reply or a chunk, or for a part of one, is a normal form: an
object in the order of its keys, read as what was read before, in whichever form that was written, and
written again as it is. -/
theorem typed_values_have_normal_form :
    HasNormalForm Message.ofJson? Message.toJson ∧
      HasNormalForm ContentBlock.ofJson? ContentBlock.toJson ∧
      HasNormalForm ToolSpec.ofJson? ToolSpec.toJson ∧
      HasNormalForm ToolCall.ofJson? ToolCall.toJson ∧
      HasNormalForm Usage.ofJson? Usage.toJson ∧
      HasNormalForm Thinking.ofJson? Thinking.toJson ∧
      HasNormalForm Reply.ofJson? Reply.toJson ∧
      HasNormalForm Chunk.ofJson? Chunk.toJson ∧
      HasNormalForm TaggedBlock.ofJson? TaggedBlock.toJson ∧
      HasNormalForm BlockDelta.ofJson? BlockDelta.toJson ∧
      HasNormalForm CallFragment.ofJson? CallFragment.toJson := by
  refine ⟨?_, ?_, ?_, ?_, ?_, ?_, ?_, ?_, ?_, ?_, ?_⟩
  · exact .of_read_write _ (fun _ => rfl) fun _ _ h => Message.read_written (Message.isNormal_of_ofJson? h)
  · refine .of_read_write _ (fun _ => rfl) fun json block h => ?_
    obtain ⟨tagged, -, hf⟩ := Option.bind_eq_some_iff.mp h
    exact ContentBlock.read_written (ContentBlock.ofFields?_isNormal hf) []
  · exact .of_read_write _ (fun _ => rfl) fun _ tool _ => tool.read_written
  · exact .of_read_write _ (fun _ => rfl) fun _ call _ => call.read_written
  · exact .of_read_write _ (fun _ => rfl) fun _ usage _ => usage.read_written
  · exact .of_read_write _ (fun _ => rfl) fun _ thinking _ => thinking.read_written
  · exact .of_read_write _ (fun _ => rfl) fun _ reply _ => reply.read_written
  · exact .of_read_write _ (fun _ => rfl) fun _ chunk _ => chunk.read_written
  · exact .of_read_write _ (fun _ => rfl) fun _ block _ => block.read_written
  · exact .of_read_write _ (fun _ => rfl) fun _ delta _ => delta.read_written
  · exact .of_read_write _ (fun _ => rfl) fun _ fragment _ => fragment.read_written

/-- Four forms of one fragment of a call: an array that ends early, with null for the id; an object without the
text, which has a default; one with a member that means nothing; and the normal form.  Beside them a block of a
message whose kind and members stand in an array. -/
theorem typed_values_have_normal_form_forms :
    let normal : Json := .obj [("args", .str ""), ("index", .int 3), ("name", .str "f")]
    (∀ json ∈ [.arr [.int 3, .null, .str "f"], .obj [("id", .null), ("index", .int 3), ("name", .str "f")],
        .obj [("args", .str ""), ("index", .int 3), ("kind", .str "call"), ("name", .str "f")], normal],
      ∃ fragment, CallFragment.ofJson? json = some fragment ∧ fragment.toJson = normal ∧
        CallFragment.ofJson? fragment.toJson = some fragment) ∧
    ∃ block, ContentBlock.ofJson? (.arr [.str "text", .str "hi"]) = some block ∧
      block.toJson = .obj [("text", .str "hi"), ("type", .str "text")] ∧
      ContentBlock.ofJson? block.toJson = some block := by
  intro normal
  obtain ⟨-, blocks, -, -, -, -, -, -, -, -, fragments⟩ := typed_values_have_normal_form
  refine ⟨fun json hj => ?_, ?_⟩
  · have hr : CallFragment.ofJson? json = some ⟨3, none, some "f", ""⟩ := by
      revert json
      decide
    exact ⟨_, hr, rfl, fragments.read_write json _ hr⟩
  · have hr : ContentBlock.ofJson? (.arr [.str "text", .str "hi"]) = some (.text "hi") := by decide
    exact ⟨_, hr, rfl, blocks.read_write _ _ hr⟩

end Json

end Colloquy
