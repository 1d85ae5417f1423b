import Colloquy.Proofs.Stream.Message
import Colloquy.Response.Content
/-!
# What the chunks of a message show

Chunks show text, plain or in text blocks; reasoning and signatures, each part under the index of its
block; and the fragments of tool calls.  Altogether they show what the blocks of the message say, however
the blocks were cut and whether or not text comes as plain text.

Results:
* `StreamedMessage.shownText_chunks`: the text of the text blocks.
* `StreamedMessage.shownReasoning_chunks`: the reasoning of each block.
* `StreamedMessage.finish_chunks`: the tool calls, all of them complete.
-/
namespace Colloquy

/-! ## What chunks show -/

namespace BlockDelta

def textPart : BlockDelta → String
  | text t => t
  | thinking _ _ | toolUse _ _ _ => ""

def thinkingPart : BlockDelta → String
  | thinking t _ => t.getD ""
  | text _ | toolUse _ _ _ => ""

def signaturePart : BlockDelta → String
  | thinking _ s => s.getD ""
  | text _ | toolUse _ _ _ => ""

end BlockDelta

namespace Chunk

/-- The text of a chunk, plain or in text blocks. -/
def shownText : Chunk → String
  | text t => t
  | content blocks => String.join (blocks.map fun block => block.delta.textPart)
  | toolCall _ | metadata _ | usage _ => ""

/-- What a chunk adds to the block of an index. -/
def shownAt (part : BlockDelta → String) (index : UInt32) : Chunk → String
  | content blocks =>
    String.join (blocks.map fun block => if block.index = index then part block.delta else "")
  | text _ | toolCall _ | metadata _ | usage _ => ""

def fragment? : Chunk → Option CallFragment
  | toolCall fragment => some fragment
  | text _ | content _ | metadata _ | usage _ => none

end Chunk

def shownText (chunks : List Chunk) : String := String.join (chunks.map Chunk.shownText)

/-- All reasoning that some chunks show for the block of an index. -/
def shownReasoning (index : UInt32) (chunks : List Chunk) : Thinking where
  text := String.join (chunks.map (Chunk.shownAt BlockDelta.thinkingPart index))
  signature := String.join (chunks.map (Chunk.shownAt BlockDelta.signaturePart index))

theorem ToolCalls.foldl_add (calls : ToolCalls) (chunks : List Chunk) :
    chunks.foldl add calls = (chunks.filterMap Chunk.fragment?).foldl push calls := by
  induction chunks generalizing calls with
  | nil => rfl
  | cons chunk rest ih =>
    rw [List.foldl_cons, ih]
    cases chunk <;> rfl

/-! ## What a block says -/

namespace MessageBlock

/-- A block as the body of a complete response shows it. -/
def response : MessageBlock → ResponseBlock
  | text t => .text t
  | thinking t s => .thinking t s
  | toolUse id name input => .toolUse id name input

def reasoning : MessageBlock → Thinking
  | thinking t s => ⟨t, s⟩
  | text _ | toolUse _ _ _ => ⟨"", ""⟩

def isThinking : MessageBlock → Bool
  | thinking _ _ => true
  | text _ | toolUse _ _ _ => false

end MessageBlock

/-! ## Joining parts -/

theorem join_eq_empty {texts : List String} (h : ∀ text ∈ texts, text = "") :
    String.join texts = "" := by
  induction texts with
  | nil => rfl
  | cons text rest ih =>
    have ht : text = "" := h text List.mem_cons_self
    have hr : String.join rest = "" := ih fun other ho => h other (List.mem_cons_of_mem _ ho)
    rw [String.join_cons, ht, hr]
    rfl

theorem join_map_eq_empty {items : List α} {part : α → String} (h : ∀ item ∈ items, part item = "") :
    String.join (items.map part) = "" := by
  refine join_eq_empty fun text ht => ?_
  obtain ⟨item, hi, rfl⟩ := List.mem_map.mp ht
  exact h item hi

theorem join_map_flatMap (items : List α) (chunks : α → List β) (part : β → String) :
    String.join ((items.flatMap chunks).map part)
      = String.join (items.map fun item => String.join ((chunks item).map part)) := by
  induction items with
  | nil => rfl
  | cons item rest ih =>
    rw [List.flatMap_cons, List.map_append, String.join_append, ih, List.map_cons, String.join_cons]

/-- Of parts that are empty but for one item, only that one is left. -/
theorem join_map_eq_of_mem {items : List α} {key : α → κ} {part : α → String}
    (hk : items.Pairwise fun a b => key a ≠ key b) {item : α} (hm : item ∈ items)
    (h : ∀ other ∈ items, key other ≠ key item → part other = "") :
    String.join (items.map part) = part item := by
  induction items with
  | nil => cases hm
  | cons first rest ih =>
    obtain ⟨hfirst, hrest⟩ := List.pairwise_cons.mp hk
    rw [List.map_cons, String.join_cons]
    rcases List.mem_cons.mp hm with rfl | hm
    · have hr : String.join (rest.map part) = "" := join_map_eq_empty fun other ho =>
        h other (List.mem_cons_of_mem _ ho) (hfirst other ho).symm
      rw [hr, String.append_empty]
    · have hf : part first = "" := h first List.mem_cons_self (hfirst item hm)
      rw [hf, String.empty_append]
      exact ih hrest hm fun other ho => h other (List.mem_cons_of_mem _ ho)

/-! ## What the deltas of a block add up to -/

namespace MessageBlock

theorem CutInto.text {deltas : List WireDelta} {block : MessageBlock} (h : block.CutInto deltas) :
    String.join (deltas.map WireDelta.textPart) = block.response.addedText := by
  cases block with
  | text t =>
    obtain ⟨parts, rfl, hj⟩ := h
    have hp : WireDelta.textPart ∘ WireDelta.text = id := rfl
    rw [List.map_map, hp, List.map_id, hj]
    rfl
  | thinking t s =>
    refine join_map_eq_empty fun delta hd => ?_
    have hr := h.1 delta hd
    cases delta <;> first | rfl | cases hr
  | toolUse id name input =>
    obtain ⟨-, -, parts, rfl, -⟩ := h
    refine join_map_eq_empty fun delta hd => ?_
    obtain ⟨part, -, rfl⟩ := List.mem_map.mp hd
    rfl

theorem reasoning_eq_empty {deltas : List WireDelta}
    (h : ∀ delta ∈ deltas, delta.isReasoning = false) :
    String.join (deltas.map WireDelta.thinkingPart) = "" ∧
      String.join (deltas.map WireDelta.signaturePart) = "" := by
  have hd : ∀ delta ∈ deltas, delta.thinkingPart = "" ∧ delta.signaturePart = "" := by
    intro delta hm
    have hr := h delta hm
    cases delta <;> first | exact ⟨rfl, rfl⟩ | cases hr
  exact ⟨join_map_eq_empty fun delta hm => (hd delta hm).1,
    join_map_eq_empty fun delta hm => (hd delta hm).2⟩

theorem CutInto.reasoning {deltas : List WireDelta} {block : MessageBlock} (h : block.CutInto deltas) :
    String.join (deltas.map WireDelta.thinkingPart) = block.reasoning.text ∧
      String.join (deltas.map WireDelta.signaturePart) = block.reasoning.signature := by
  cases block with
  | thinking t s => exact h.2
  | text t =>
    obtain ⟨parts, rfl, -⟩ := h
    exact reasoning_eq_empty (by simp [WireDelta.isReasoning])
  | toolUse id name input =>
    obtain ⟨-, -, parts, rfl, -⟩ := h
    exact reasoning_eq_empty (by simp [WireDelta.isReasoning])

end MessageBlock

/-! ## What the chunks of a message show -/

/-- The fragment of a tool call that a delta is, if it is one. -/
def WireDelta.fragments (index : UInt32) : WireDelta → List CallFragment
  | inputJson t => [⟨index, none, none, t⟩]
  | text _ | thinking _ | signature _ | other => []

/-- The fragment that opens a tool call. -/
def MessageBlock.fragments (index : UInt32) : MessageBlock → List CallFragment
  | toolUse id name _ => [⟨index, some id, some name, ""⟩]
  | text _ | thinking _ _ => []

namespace MessagePiece

/-- The part of the delta that a piece is, if it is one. -/
def partBy (part : UInt32 → WireDelta → String) : MessagePiece → String
  | blockDelta index delta => part index delta
  | messageStart | blockStart _ _ | blockStop _ | messageDelta _ _ => ""

/-- The fragments of tool calls in a piece. -/
def fragments : MessagePiece → List CallFragment
  | blockStart index block => block.fragments index
  | blockDelta index delta => delta.fragments index
  | messageStart | blockStop _ | messageDelta _ _ => []

theorem shownText_chunks (coerceToText : Bool) (piece : MessagePiece) :
    String.join ((piece.chunks coerceToText).map Chunk.shownText)
      = piece.partBy fun _ delta => delta.textPart := by
  cases piece with
  | messageStart => cases coerceToText <;> rfl
  | blockStart index block => cases block <;> rfl
  | blockDelta index delta =>
    cases delta with
    | text t => cases coerceToText <;> simp [chunks, EventDecoder.deltaChunks, Chunk.shownText,
        BlockDelta.textPart, partBy, WireDelta.textPart]
    | _ => simp [chunks, EventDecoder.deltaChunks, Chunk.shownText, BlockDelta.textPart, partBy,
        WireDelta.textPart]
  | blockStop index => rfl
  | messageDelta stopReason stopSequence => rfl

theorem shownReasoning_chunks (coerceToText : Bool) (index : UInt32) (piece : MessagePiece) :
    shownReasoning index (piece.chunks coerceToText)
      = ⟨piece.partBy fun j delta => if j = index then delta.thinkingPart else "",
        piece.partBy fun j delta => if j = index then delta.signaturePart else ""⟩ := by
  cases piece with
  | messageStart => cases coerceToText <;> rfl
  | blockStart j block =>
    cases block with
    | toolUse id name input =>
      simp [shownReasoning, chunks, MessageBlock.opened, EventDecoder.blockStartChunks,
        Chunk.shownAt, BlockDelta.thinkingPart, BlockDelta.signaturePart, partBy]
    | _ => rfl
  | blockDelta j delta =>
    cases delta with
    | text t =>
      cases coerceToText <;>
        simp [shownReasoning, chunks, EventDecoder.deltaChunks, Chunk.shownAt,
          BlockDelta.thinkingPart, BlockDelta.signaturePart, partBy, WireDelta.thinkingPart,
          WireDelta.signaturePart]
    | _ =>
      simp [shownReasoning, chunks, EventDecoder.deltaChunks, Chunk.shownAt,
        BlockDelta.thinkingPart, BlockDelta.signaturePart, partBy, WireDelta.thinkingPart,
        WireDelta.signaturePart]
  | blockStop j => rfl
  | messageDelta stopReason stopSequence => rfl

theorem fragments_chunks (coerceToText : Bool) (piece : MessagePiece) :
    (piece.chunks coerceToText).filterMap Chunk.fragment? = piece.fragments := by
  cases piece with
  | messageStart => cases coerceToText <;> rfl
  | blockStart index block => cases block <;> rfl
  | blockDelta index delta => cases delta <;> cases coerceToText <;> rfl
  | blockStop index => rfl
  | messageDelta stopReason stopSequence => rfl

end MessagePiece

namespace StreamedBlock

theorem join_partBy (streamed : StreamedBlock) (part : UInt32 → WireDelta → String) :
    String.join (streamed.pieces.map (MessagePiece.partBy part))
      = String.join (streamed.deltas.map (part streamed.index)) := by
  have hd : MessagePiece.partBy part ∘ MessagePiece.blockDelta streamed.index
      = part streamed.index := rfl
  simp only [pieces, List.map_cons, List.map_append, List.map_map, hd, List.map_nil, String.join_cons,
    String.join_append, String.join_nil, MessagePiece.partBy, String.empty_append,
    String.append_empty]

/-- The call that the fragments of a block make. -/
def pending? (streamed : StreamedBlock) : Option PendingCall :=
  match streamed.block with
  | .toolUse id name _ =>
    some ⟨streamed.index, some id, some name, String.join (streamed.deltas.map WireDelta.inputPart)⟩
  | .text _ | .thinking _ _ => none

theorem index_of_pending? {streamed : StreamedBlock} {call : PendingCall}
    (h : streamed.pending? = some call) : call.index = streamed.index := by
  unfold pending? at h
  split at h <;> cases h
  rfl

theorem fragments_pieces (streamed : StreamedBlock) :
    streamed.pieces.flatMap MessagePiece.fragments
      = streamed.block.fragments streamed.index
        ++ streamed.deltas.flatMap (WireDelta.fragments streamed.index) := by
  simp [pieces, List.flatMap_map, MessagePiece.fragments]

theorem inputPart_inputJson (parts : List String) :
    (parts.map WireDelta.inputJson).map WireDelta.inputPart = parts := by
  have hp : WireDelta.inputPart ∘ WireDelta.inputJson = id := rfl
  rw [List.map_map, hp, List.map_id]

theorem foldl_push (streamed : StreamedBlock) {calls : List PendingCall}
    (h : ∀ call ∈ calls, call.index ≠ streamed.index) :
    (streamed.pieces.flatMap MessagePiece.fragments).foldl ToolCalls.push ⟨calls⟩
      = ⟨calls ++ streamed.pending?.toList⟩ := by
  have cut := streamed.cut
  rw [fragments_pieces]
  cases hb : streamed.block with
  | text t =>
    rw [hb] at cut
    obtain ⟨parts, hd, -⟩ := cut
    have hn : streamed.deltas.flatMap (WireDelta.fragments streamed.index) = [] := by
      rw [hd]
      refine List.flatMap_eq_nil_iff.mpr fun delta hm => ?_
      obtain ⟨part, -, rfl⟩ := List.mem_map.mp hm
      rfl
    simp [pending?, hb, MessageBlock.fragments, hn]
  | thinking t s =>
    rw [hb] at cut
    have hn : streamed.deltas.flatMap (WireDelta.fragments streamed.index) = [] := by
      refine List.flatMap_eq_nil_iff.mpr fun delta hm => ?_
      have hr := cut.1 delta hm
      cases delta <;> first | rfl | cases hr
    simp [pending?, hb, MessageBlock.fragments, hn]
  | toolUse id name input =>
    rw [hb] at cut
    obtain ⟨hi, hn, parts, hd, -⟩ := cut
    have hf : streamed.deltas.flatMap (WireDelta.fragments streamed.index)
        = parts.map fun part => ⟨streamed.index, none, none, part⟩ := by
      rw [hd, List.flatMap_map, List.map_eq_flatMap]
      rfl
    rw [hf]
    simp only [pending?, hb, hd, inputPart_inputJson, MessageBlock.fragments,
      List.singleton_append, Option.toList_some]
    rw [ToolCalls.foldl_push_fresh h (by simp)]
    simp only [List.foldl_cons, PendingCall.start_push hi hn, PendingCall.foldl_push_args,
      String.empty_append]

theorem finish_pending (streamed : StreamedBlock) :
    streamed.pending?.toList.mapM PendingCall.finish
      = .ok streamed.block.response.call?.toList := by
  have cut := streamed.cut
  cases hb : streamed.block with
  | text t => simp only [pending?, hb]; rfl
  | thinking t s => simp only [pending?, hb]; rfl
  | toolUse id name input =>
    rw [hb] at cut
    obtain ⟨-, -, parts, hd, ha⟩ := cut
    simp only [pending?, hb, hd, inputPart_inputJson, Option.toList_some, List.mapM_cons,
      PendingCall.finish_eq_ok ha, List.mapM_nil]
    rfl

theorem foldl_push_blocks {blocks : List StreamedBlock}
    (hb : blocks.Pairwise fun a b => a.index ≠ b.index) {calls : List PendingCall}
    (h : ∀ call ∈ calls, ∀ block ∈ blocks, call.index ≠ block.index) :
    (blocks.flatMap fun block => block.pieces.flatMap MessagePiece.fragments).foldl ToolCalls.push
        ⟨calls⟩
      = ⟨calls ++ blocks.filterMap pending?⟩ := by
  induction blocks generalizing calls with
  | nil => simp
  | cons block rest ih =>
    obtain ⟨hfirst, hrest⟩ := List.pairwise_cons.mp hb
    have hnew : ∀ call ∈ calls ++ block.pending?.toList, ∀ other ∈ rest, call.index ≠ other.index := by
      intro call hc other ho
      rcases List.mem_append.mp hc with hc | hc
      · exact h call hc other (List.mem_cons_of_mem _ ho)
      · rw [index_of_pending? (Option.mem_toList.mp hc)]
        exact hfirst other ho
    rw [List.flatMap_cons, List.foldl_append,
      foldl_push block fun call hc => h call hc block List.mem_cons_self, ih hrest hnew]
    cases hp : block.pending? <;> simp [hp]

theorem finish_blocks (blocks : List StreamedBlock) :
    (blocks.filterMap pending?).mapM PendingCall.finish
      = .ok (blocks.filterMap fun block => block.block.response.call?) := by
  induction blocks with
  | nil => rfl
  | cons block rest ih =>
    have hb := block.finish_pending
    have hp : (block :: rest).filterMap pending? = block.pending?.toList ++ rest.filterMap pending? := by
      cases h : block.pending? <;> simp [h]
    rw [hp, List.mapM_append, hb, ih]
    cases h : block.block.response.call? <;> simp [h] <;> rfl

end StreamedBlock

namespace StreamedMessage

theorem pairwise_index (message : StreamedMessage) :
    message.blocks.Pairwise fun a b => a.index ≠ b.index := by
  rw [List.pairwise_iff_getElem]
  intro i j hi hj hij he
  have hfirst := message.indexed i _ (List.getElem?_eq_getElem hi)
  have hsecond := message.indexed j _ (List.getElem?_eq_getElem hj)
  rw [he] at hfirst
  omega

theorem join_partBy (message : StreamedMessage) (part : UInt32 → WireDelta → String) :
    String.join (message.pieces.map (MessagePiece.partBy part))
      = String.join (message.blocks.map fun streamed =>
          String.join (streamed.deltas.map (part streamed.index))) := by
  have hb : (fun streamed : StreamedBlock =>
      String.join (streamed.pieces.map (MessagePiece.partBy part)))
      = fun streamed => String.join (streamed.deltas.map (part streamed.index)) := by
    funext streamed
    exact streamed.join_partBy part
  simp only [pieces, List.map_cons, List.map_append, List.map_nil, String.join_cons,
    String.join_append, String.join_nil, MessagePiece.partBy, String.empty_append,
    String.append_empty, join_map_flatMap, hb]

/-- The chunks of a message, with the usage at its end. -/
def chunks (coerceToText : Bool) (usage : Usage) (message : StreamedMessage) : List Chunk :=
  message.pieces.flatMap (MessagePiece.chunks coerceToText) ++ [.usage usage]

/-- What a chunk shows of pieces is joined delta by delta. -/
theorem join_chunks (message : StreamedMessage) {coerceToText : Bool} {usage : Usage}
    {shown : Chunk → String} {part : UInt32 → WireDelta → String} (hu : shown (.usage usage) = "")
    (h : ∀ piece : MessagePiece,
      String.join ((piece.chunks coerceToText).map shown) = piece.partBy part) :
    String.join ((message.chunks coerceToText usage).map shown)
      = String.join (message.blocks.map fun streamed =>
          String.join (streamed.deltas.map (part streamed.index))) := by
  simp only [chunks, List.map_append, List.map_cons, List.map_nil, String.join_append,
    String.join_cons, String.join_nil, hu, String.append_empty, join_map_flatMap, h]
  exact message.join_partBy part

theorem shownText_chunks (message : StreamedMessage) (coerceToText : Bool) (usage : Usage) :
    shownText (message.chunks coerceToText usage)
      = String.join (message.blocks.map fun streamed => streamed.block.response.addedText) := by
  have hj := message.join_chunks (show Chunk.shownText (.usage usage) = "" from rfl)
    (MessagePiece.shownText_chunks coerceToText)
  have hb : message.blocks.map (fun streamed => String.join (streamed.deltas.map WireDelta.textPart))
      = message.blocks.map fun streamed => streamed.block.response.addedText :=
    List.map_congr_left fun streamed _ => streamed.cut.text
  rw [shownText, hj, hb]

theorem join_own (message : StreamedMessage) (part : WireDelta → String) {streamed : StreamedBlock}
    (hm : streamed ∈ message.blocks) :
    String.join (message.blocks.map fun other => String.join (other.deltas.map fun delta =>
        if other.index = streamed.index then part delta else ""))
      = String.join (streamed.deltas.map part) := by
  have hothers : ∀ other ∈ message.blocks, other.index ≠ streamed.index →
      String.join (other.deltas.map fun delta =>
        if other.index = streamed.index then part delta else "") = "" := by
    intro other _ hne
    exact join_map_eq_empty fun delta _ => if_neg hne
  rw [join_map_eq_of_mem message.pairwise_index hm hothers]
  simp only [if_true]

/-- Under the index of a block the chunks show the reasoning of that block and of no other. -/
theorem shownReasoning_chunks (message : StreamedMessage) (coerceToText : Bool) (usage : Usage)
    {streamed : StreamedBlock} (hm : streamed ∈ message.blocks) :
    shownReasoning streamed.index (message.chunks coerceToText usage) = streamed.block.reasoning := by
  have hp := MessagePiece.shownReasoning_chunks coerceToText streamed.index
  have ht := message.join_chunks
    (show Chunk.shownAt BlockDelta.thinkingPart streamed.index (.usage usage) = "" from rfl)
    fun piece => congrArg Thinking.text (hp piece)
  have hs := message.join_chunks
    (show Chunk.shownAt BlockDelta.signaturePart streamed.index (.usage usage) = "" from rfl)
    fun piece => congrArg Thinking.signature (hp piece)
  obtain ⟨hct, hcs⟩ := streamed.cut.reasoning
  rw [message.join_own WireDelta.thinkingPart hm, hct] at ht
  rw [message.join_own WireDelta.signaturePart hm, hcs] at hs
  rw [shownReasoning, ht, hs]

theorem finish_chunks (message : StreamedMessage) (coerceToText : Bool) (usage : Usage) :
    ((message.chunks coerceToText usage).foldl ToolCalls.add .empty).finish
      = .ok (message.blocks.filterMap fun streamed => streamed.block.response.call?) := by
  have hf : (message.chunks coerceToText usage).filterMap Chunk.fragment?
      = message.blocks.flatMap fun streamed => streamed.pieces.flatMap MessagePiece.fragments := by
    have hstart : MessagePiece.messageStart.fragments = [] := rfl
    have hdelta : (MessagePiece.messageDelta message.stopReason message.stopSequence).fragments = [] :=
      rfl
    have husage : [Chunk.usage usage].filterMap Chunk.fragment? = [] := rfl
    simp [chunks, pieces, List.filterMap_flatMap, List.flatMap_assoc, MessagePiece.fragments_chunks,
      hstart, hdelta, husage]
  have hp := StreamedBlock.foldl_push_blocks message.pairwise_index
    (show ∀ call ∈ ([] : List PendingCall), _ from by simp)
  rw [ToolCalls.foldl_add, hf]
  simp only [ToolCalls.empty, hp, ToolCalls.finish, List.nil_append]
  exact StreamedBlock.finish_blocks message.blocks

end StreamedMessage

end Colloquy
