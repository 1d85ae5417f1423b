import Colloquy.Proofs.Result
import Colloquy.Proofs.Stream.Kind
import Colloquy.Response.Parser
/-!
# Reading the content of a response

A response of the conversation protocol holds a list of values.  Each has to be a block, an object or an
array with its kind; what the blocks say adds up.

Results:
* `ResponseBlock.ofJson?_eq_some_iff`: the values that are a block.
* `Answer.ofItems?_append`, `Answer.ofItems?_padded`, `Answer.ofItems?_eq_none`: a list in two parts, with
  blocks that are passed over, and with a value that is no block.
* `Reply.map_answer_of_content`: what a response says.
* `Reply.content_read_blockwise`: the same of complete responses.
-/
namespace Colloquy

/-! ## Records with a kind -/

namespace Json

/-- Whether a value is a record of a kind: an object with the kind as its type, or an array that starts with
it. -/
def HasKind (value : Json) (kind : String) : Prop :=
  value.get? "type" = some (.str kind) ∨ ∃ items, value = .arr (.str kind :: items)

/-- What a record with a kind says for a field: under its name in an object, in its place behind the kind in
an array. -/
def part? (value : Json) (position : Nat) (name : String) : Option Json :=
  match value with
  | obj fields => Fields.get? fields name
  | arr items => items[position + 1]?
  | _ => none

/-- Whether a record with a kind, if it is an array, has no more than `size` items behind the kind. -/
def HasAtMost (value : Json) (size : Nat) : Prop :=
  ∀ items, value = .arr items → items.length ≤ size + 1

theorem hasKind_iff {value : Json} {kind : String} :
    value.HasKind kind ↔ ∃ record, value.tagged? [] = some (kind, record) := by
  constructor
  · rintro (h | ⟨items, rfl⟩)
    · obtain ⟨fields, rfl⟩ := exists_fields h
      exact ⟨_, tagged?_obj h⟩
    · exact ⟨_, tagged?_eq_some.mpr (.inr ⟨items, rfl, rfl⟩)⟩
  · rintro ⟨record, h⟩
    rcases tagged?_eq_some.mp h with ⟨fields, rfl, ht, -⟩ | ⟨items, rfl, -⟩
    · exact .inl ht
    · exact .inr ⟨items, rfl⟩

theorem IsOfKind.hasKind {value : Json} {kind : String} (h : value.IsOfKind kind) :
    value.HasKind kind := by
  obtain ⟨record, ht, -⟩ := isOfKind_iff.mp h
  exact hasKind_iff.mpr ⟨record, ht⟩

theorem HasKind.unique {value : Json} {kind other : String} (h : value.HasKind kind)
    (ho : value.HasKind other) : kind = other := by
  obtain ⟨record, h⟩ := hasKind_iff.mp h
  obtain ⟨otherRecord, ho⟩ := hasKind_iff.mp ho
  rw [h] at ho
  cases ho
  rfl

section

variable {value : Json} {kind : String} {record : Record}

theorem field?_of_tagged? (h : value.tagged? [] = some (kind, record)) (position : Nat) (name : String) :
    record.field? position name = value.part? position name := by
  rcases tagged?_eq_some.mp h with ⟨fields, rfl, -, rfl⟩ | ⟨items, rfl, rfl⟩ <;> rfl

theorem fits_of_tagged? (h : value.tagged? [] = some (kind, record)) (size : Nat) :
    record.fits size = true ↔ value.HasAtMost size := by
  rcases tagged?_eq_some.mp h with ⟨fields, rfl, -, rfl⟩ | ⟨items, rfl, rfl⟩
  · exact iff_of_true rfl fun items hi => by cases hi
  · simp [Record.fits, HasAtMost]

end

end Json

namespace Record

variable {record : Record} {position : Nat} {name text : String}

theorem required_asString? :
    record.required position name Json.asString? = some text ↔
      record.field? position name = some (.str text) := by
  simp [required, Option.bind_eq_some_iff, Json.asString?_eq_some]

theorem defaulted_asString? :
    record.defaulted position name "" Json.asString? = some text ↔
      (record.field? position name).getD (.str "") = .str text := by
  unfold defaulted
  cases record.field? position name with
  | none => simp
  | some value => simp [Json.asString?_eq_some]

theorem defaulted_some {default value : Json} :
    record.defaulted position name default some = some value ↔
      (record.field? position name).getD default = value := by
  unfold defaulted
  cases record.field? position name <;> simp

end Record

/-! ## Blocks -/

namespace ResponseBlock

/-- The kinds of blocks that are not passed over. -/
def kinds : List String := ["text", "thinking", "tool_use"]

/-- Whether a value is some block of a response: a record of its kind with its fields, where reasoning and
arguments may be absent, or a record of any other kind that has no fields to tell. -/
def WrittenAs (value : Json) : ResponseBlock → Prop
  | text t => value.HasKind "text" ∧ value.HasAtMost 1 ∧ value.part? 0 "text" = some (.str t)
  | thinking t s =>
    value.HasKind "thinking" ∧ value.HasAtMost 2 ∧
      (value.part? 0 "thinking").getD (.str "") = .str t ∧
      (value.part? 1 "signature").getD (.str "") = .str s
  | toolUse id name input =>
    value.HasKind "tool_use" ∧ value.HasAtMost 3 ∧ value.part? 0 "id" = some (.str id) ∧
      value.part? 1 "name" = some (.str name) ∧ (value.part? 2 "input").getD .null = input
  | other => ∃ kind, kind ∉ kinds ∧ value.IsOfKind kind

section

variable {value : Json} {kind : String} {record : Record} {block : ResponseBlock}

theorem writtenAs_of_ofFields? (h : value.tagged? [] = some (kind, record))
    (hf : ofFields? kind record = some block) : block.WrittenAs value := by
  have has : value.HasKind kind := Json.hasKind_iff.mpr ⟨record, h⟩
  unfold ofFields? at hf
  split at hf <;> simp only [Option.bind_eq_bind, guarded_eq_some] at hf <;>
    simp only [Option.bind_eq_some_iff, Option.some.injEq, Record.required_asString?,
      Record.defaulted_asString?, Record.defaulted_some, Json.field?_of_tagged? h,
      Json.fits_of_tagged? h] at hf
  case h_1 =>
    obtain ⟨hm, t, ht, rfl⟩ := hf
    exact ⟨has, hm, ht⟩
  case h_2 =>
    obtain ⟨hm, t, ht, s, hs, rfl⟩ := hf
    exact ⟨has, hm, ht, hs⟩
  case h_3 =>
    obtain ⟨hm, id, hi, name, hn, input, hx, rfl⟩ := hf
    exact ⟨has, hm, hi, hn, hx⟩
  case h_4 h1 h2 h3 =>
    obtain ⟨hm, rfl⟩ := hf
    refine ⟨kind, ?_, Json.isOfKind_iff.mpr ⟨record, h, (Json.fits_of_tagged? h 0).mpr hm⟩⟩
    simp only [kinds, List.mem_cons, List.not_mem_nil, or_false, not_or]
    exact ⟨h1, h2, h3⟩

theorem WrittenAs.ofFields? (h : value.tagged? [] = some (kind, record)) (hw : block.WrittenAs value) :
    ofFields? kind record = some block := by
  have has : value.HasKind kind := Json.hasKind_iff.mpr ⟨record, h⟩
  cases block with
  | other =>
    obtain ⟨other, hk, ho⟩ := hw
    obtain ⟨otherRecord, ht, hf⟩ := Json.isOfKind_iff.mp ho
    rw [h] at ht
    cases ht
    unfold ResponseBlock.ofFields?
    split
    case h_4 => exact guarded_eq_some.mpr ⟨hf, rfl⟩
    all_goals exact absurd (by decide) hk
  | _ =>
    obtain ⟨hk, hm, hw⟩ := hw
    obtain rfl := has.unique hk
    simp only [ResponseBlock.ofFields?, Option.bind_eq_bind, guarded_eq_some]
    simp only [Option.bind_eq_some_iff, Record.required_asString?, Record.defaulted_asString?,
      Record.defaulted_some, Json.field?_of_tagged? h, Json.fits_of_tagged? h]
    grind

theorem WrittenAs.exists_kind (h : block.WrittenAs value) : ∃ kind, value.HasKind kind := by
  cases block with
  | other =>
    obtain ⟨kind, -, ho⟩ := h
    exact ⟨kind, ho.hasKind⟩
  | _ => exact ⟨_, h.1⟩

theorem ofJson?_eq_some_iff : ofJson? value = some block ↔ block.WrittenAs value := by
  constructor
  · intro h
    obtain ⟨⟨kind, record⟩, ht, hf⟩ := Option.bind_eq_some_iff.mp h
    exact writtenAs_of_ofFields? ht hf
  · intro h
    obtain ⟨kind, hk⟩ := h.exists_kind
    obtain ⟨record, ht⟩ := Json.hasKind_iff.mp hk
    exact Option.bind_eq_some_iff.mpr ⟨_, ht, h.ofFields? ht⟩

/-- Reasoning is in the blocks of its kind. -/
theorem WrittenAs.thinking?_isSome_iff (h : block.WrittenAs value) :
    block.thinking?.isSome = true ↔ value.HasKind "thinking" := by
  cases block with
  | thinking t s => exact iff_of_true rfl h.1
  | other =>
    obtain ⟨kind, hk, ho⟩ := h
    refine iff_of_false (by decide) fun ht => hk ?_
    rw [ho.hasKind.unique ht]
    decide
  | _ => exact iff_of_false (fun hn => by cases hn) fun ht => absurd (h.1.unique ht) (by decide)

/-- An array of a kind that is passed over is no block if it has more than the kind. -/
theorem not_writtenAs_listed (hk : kind ∉ kinds) (item : Json) (rest : List Json) (block : ResponseBlock) :
    ¬ block.WrittenAs (.arr (.str kind :: item :: rest)) := by
  have has : Json.HasKind (.arr (.str kind :: item :: rest)) kind := .inr ⟨_, rfl⟩
  intro h
  cases block with
  | other =>
    obtain ⟨other, -, ho | ho⟩ := h
    · cases ho
    · cases ho
  | _ =>
    rw [has.unique h.1] at hk
    exact hk (by decide)

end

end ResponseBlock

/-! ## Lists of blocks -/

namespace Answer

/-- An answer with another one behind it.  Of their reasoning, the first is kept. -/
instance : Append Answer where
  append first second :=
    ⟨first.text ++ second.text, first.thinking.or second.thinking, first.toolCalls ++ second.toolCalls⟩

theorem append_def (first second : Answer) :
    first ++ second = ⟨first.text ++ second.text, first.thinking.or second.thinking,
      first.toolCalls ++ second.toolCalls⟩ := rfl

theorem ofBlocks_append (blocks others : List ResponseBlock) :
    ofBlocks (blocks ++ others) = ofBlocks blocks ++ ofBlocks others := by
  simp only [ofBlocks, append_def, List.map_append, List.findSome?_append, List.filterMap_append,
    String.join_append]

/-- The answer that a list of values gives, if all of them are blocks. -/
def ofItems? (items : List Json) : Option Answer := (items.mapM ResponseBlock.ofJson?).map ofBlocks

theorem ofItems?_append (items others : List Json) :
    ofItems? (items ++ others)
      = (ofItems? items).bind fun first => (ofItems? others).map fun second => first ++ second := by
  unfold ofItems?
  rw [List.mapM_append]
  cases items.mapM ResponseBlock.ofJson? with
  | none => rfl
  | some blocks =>
    cases others.mapM ResponseBlock.ofJson? with
    | none => rfl
    | some otherBlocks => exact congrArg some (ofBlocks_append blocks otherBlocks)

theorem ofItems?_cons (item : Json) (items : List Json) :
    ofItems? (item :: items) = (ResponseBlock.ofJson? item).bind fun block =>
      (ofItems? items).map fun rest => ofBlocks [block] ++ rest := by
  have single : ofItems? [item] = (ResponseBlock.ofJson? item).map fun block => ofBlocks [block] := by
    unfold ofItems?
    cases hb : ResponseBlock.ofJson? item <;> simp [hb]
  have split := ofItems?_append [item] items
  rw [single, Option.bind_map] at split
  exact split

/-- One value that is no block spoils the list. -/
theorem ofItems?_eq_none {items : List Json} {item : Json} (hm : item ∈ items)
    (h : ∀ block : ResponseBlock, ¬ block.WrittenAs item) : ofItems? items = none := by
  have unread : ResponseBlock.ofJson? item = none :=
    Option.eq_none_iff_forall_ne_some.mpr fun block hb => h block (ResponseBlock.ofJson?_eq_some_iff.mp hb)
  obtain ⟨before, after, rfl⟩ := List.append_of_mem hm
  rw [ofItems?_append, ofItems?_cons, unread]
  cases ofItems? before <;> rfl

/-- Reasoning is in an answer exactly if there is a block of its kind. -/
theorem thinking_isSome_iff {items : List Json} {answer : Answer} (h : ofItems? items = some answer) :
    answer.thinking.isSome = true ↔ ∃ item ∈ items, item.HasKind "thinking" := by
  induction items generalizing answer with
  | nil =>
    cases h
    simp [ofBlocks]
  | cons item items ih =>
    rw [ofItems?_cons] at h
    obtain ⟨block, hb, hr⟩ := Option.bind_eq_some_iff.mp h
    obtain ⟨rest, hi, rfl⟩ := Option.map_eq_some_iff.mp hr
    have first := (ResponseBlock.ofJson?_eq_some_iff.mp hb).thinking?_isSome_iff
    have one : (ofBlocks [block]).thinking = block.thinking? := List.findSome?_singleton
    simp only [List.mem_cons, exists_eq_or_imp, ← first, ← ih hi, append_def, one, Option.isSome_or,
      Bool.or_eq_true]

/-- Whether a list of values is another one into which blocks that are passed over have been put. -/
inductive Padded : List Json → List Json → Prop
  | nil : Padded [] []
  | keep (item : Json) {items more : List Json} : Padded items more → Padded (item :: items) (item :: more)
  | put (item : Json) {items more : List Json} :
    ResponseBlock.other.WrittenAs item → Padded items more → Padded items (item :: more)

/-- Blocks that are passed over change nothing. -/
theorem ofItems?_padded {items more : List Json} (h : Padded items more) :
    ofItems? more = ofItems? items := by
  induction h with
  | nil => rfl
  | keep item _ ih => rw [ofItems?_cons, ofItems?_cons, ih]
  | put item hw _ ih =>
    have nothing (answer : Answer) : ofBlocks [.other] ++ answer = answer := by
      simp [append_def, ofBlocks, ResponseBlock.addedText, ResponseBlock.thinking?, ResponseBlock.call?,
        List.filterMap_cons]
    rw [ofItems?_cons, ResponseBlock.ofJson?_eq_some_iff.mpr hw, ih]
    simp [nothing]

end Answer

/-! ## Responses -/

namespace Reply

/-- What a reply says of the content of its response. -/
def answer (reply : Reply) : Answer := ⟨reply.text, reply.thinking, reply.toolCalls⟩

/-- Whether bytes are a response with a list of values as its content, and without the older text. -/
def HoldsContent (bytes : ByteArray) (items : List Json) : Prop :=
  ∃ body, Json.ofBytes? bytes = some body ∧ body.get? "completion" = none ∧
    body.get? "content" = some (.arr items)

/-- Whether a response with some headers is accepted. -/
def Accepts (headers : List Header) (bytes : ByteArray) : Prop :=
  ∃ reply, parse .anthropic bytes headers = .ok reply

section

variable {bytes : ByteArray} {items : List Json} {headers : List Header}

theorem map_answer_of_ofBody {provider : Provider} {body : Json} (hb : Json.ofBytes? bytes = some body) :
    (parse provider bytes headers).map answer
      = (Answer.ofBody provider body).bind fun answer => (Usage.ofHeaders headers).map fun _ => answer := by
  simp only [parse, hb]
  cases Answer.ofBody provider body with
  | error failure => rfl
  | ok answer => cases Usage.ofHeaders headers <;> rfl

/-- What a response says is settled by its content and its headers. -/
theorem map_answer_of_content (h : HoldsContent bytes items) (headers : List Header) :
    (parse .anthropic bytes headers).map answer =
      match Answer.ofItems? items with
      | some answer => (Usage.ofHeaders headers).map fun _ => answer
      | none => .error (.decode .responseContent) := by
  obtain ⟨body, hb, hn, hc⟩ := h
  rw [map_answer_of_ofBody hb]
  show (Answer.ofConversation body).bind _ = _
  simp only [Answer.ofConversation, hn, hc, Json.list?, Answer.ofItems?]
  cases items.mapM ResponseBlock.ofJson? <;> rfl

theorem parse_eq_error (h : HoldsContent bytes items) (hi : Answer.ofItems? items = none) :
    parse .anthropic bytes headers = .error (.decode .responseContent) := by
  have read := map_answer_of_content h headers
  rw [hi] at read
  cases hp : parse .anthropic bytes headers with
  | ok reply => rw [hp] at read; cases read
  | error failure => rw [hp] at read; cases read; rfl

theorem ofItems?_of_parse {reply : Reply} (h : HoldsContent bytes items)
    (hp : parse .anthropic bytes headers = .ok reply) : Answer.ofItems? items = some reply.answer := by
  have read := map_answer_of_content h headers
  rw [hp] at read
  cases hi : Answer.ofItems? items with
  | none => rw [hi] at read; cases read
  | some answer =>
    rw [hi] at read
    obtain ⟨usage, -, ha⟩ := exists_of_map read.symm
    exact congrArg some ha

/-- A response is accepted if all of its content are blocks and its headers are counts. -/
theorem accepts_iff (h : HoldsContent bytes items) :
    Accepts headers bytes ↔
      (Answer.ofItems? items).isSome = true ∧ ∃ usage, Usage.ofHeaders headers = .ok usage := by
  have read := map_answer_of_content h headers
  constructor
  · rintro ⟨reply, hp⟩
    have hi := ofItems?_of_parse h hp
    rw [hp, hi] at read
    obtain ⟨usage, hu, -⟩ := exists_of_map read.symm
    exact ⟨Option.isSome_iff_exists.mpr ⟨_, hi⟩, usage, hu⟩
  · rintro ⟨hi, usage, hu⟩
    obtain ⟨answer, hi⟩ := Option.isSome_iff_exists.mp hi
    rw [hi, hu] at read
    obtain ⟨reply, hp, -⟩ := exists_of_map read
    exact ⟨reply, hp⟩

/-- What the content of a response in two parts says, where each part is the content of a response too. -/
theorem answer_append {whole left right : ByteArray} {before after : List Json}
    {reply first second : Reply} (hw : HoldsContent whole (before ++ after))
    (hl : HoldsContent left before) (hr : HoldsContent right after)
    (hp : parse .anthropic whole headers = .ok reply) (hf : parse .anthropic left headers = .ok first)
    (hs : parse .anthropic right headers = .ok second) :
    reply.answer = first.answer ++ second.answer := by
  have read := ofItems?_of_parse hw hp
  rw [Answer.ofItems?_append, ofItems?_of_parse hl hf, ofItems?_of_parse hr hs] at read
  exact (Option.some.inj read).symm

end

/-- A response of the conversation protocol is read block by block.  A content in two parts is accepted if
both parts are; texts are joined and tool calls are listed one part after the other, and reasoning is that of
the first part if it has a block of reasoning at all, else that of the second.  Blocks of unknown kinds that
are objects, or arrays of their kind alone, can be put in anywhere and change nothing.  A value that is no
block fails the response, wherever it stands; so does an array that holds more than an unknown kind.  Behind
the older text, a content does not count. -/
theorem content_read_blockwise (headers : List Header) :
    (∀ (whole left right : ByteArray) (before after : List Json),
      HoldsContent whole (before ++ after) → HoldsContent left before → HoldsContent right after →
        (Accepts headers whole ↔ Accepts headers left ∧ Accepts headers right) ∧
        ∀ reply first second, parse .anthropic whole headers = .ok reply →
          parse .anthropic left headers = .ok first → parse .anthropic right headers = .ok second →
            reply.text = first.text ++ second.text ∧
            reply.toolCalls = first.toolCalls ++ second.toolCalls ∧
            ((∃ item ∈ before, item.HasKind "thinking") → reply.thinking = first.thinking) ∧
            ((¬ ∃ item ∈ before, item.HasKind "thinking") → reply.thinking = second.thinking)) ∧
    (∀ (plain padded : ByteArray) (items more : List Json),
      HoldsContent plain items → HoldsContent padded more → Answer.Padded items more →
        (parse .anthropic padded headers).map answer = (parse .anthropic plain headers).map answer) ∧
    (∀ (bytes : ByteArray) (items : List Json), HoldsContent bytes items →
      ((∃ item ∈ items, ∀ block : ResponseBlock, ¬ block.WrittenAs item) ∨
          ∃ kind item rest, kind ∉ ResponseBlock.kinds ∧ .arr (.str kind :: item :: rest) ∈ items) →
        parse .anthropic bytes headers = .error (.decode .responseContent)) ∧
    ∀ (bytes : ByteArray) (body : Json) (text : String), Json.ofBytes? bytes = some body →
      body.get? "completion" = some (.str text) →
        (parse .anthropic bytes headers).map answer
          = (Usage.ofHeaders headers).map fun _ => .ofText text := by
  refine ⟨fun whole left right before after hw hl hr => ⟨?_, fun reply first second hp hf hs => ?_⟩,
    fun plain padded items more hi hm h => ?_, fun bytes items hi h => ?_,
    fun bytes body text hb hc => ?_⟩
  · have parts : (Answer.ofItems? (before ++ after)).isSome = true ↔
        (Answer.ofItems? before).isSome = true ∧ (Answer.ofItems? after).isSome = true := by
      rw [Answer.ofItems?_append]
      cases Answer.ofItems? before <;> simp
    rw [accepts_iff hw, accepts_iff hl, accepts_iff hr, parts]
    tauto
  · have said := answer_append hw hl hr hp hf hs
    have text : reply.text = first.text ++ second.text := congrArg Answer.text said
    have calls : reply.toolCalls = first.toolCalls ++ second.toolCalls := congrArg Answer.toolCalls said
    have thinking : reply.thinking = first.thinking.or second.thinking := congrArg Answer.thinking said
    have thinks : first.thinking.isSome = true ↔ ∃ item ∈ before, item.HasKind "thinking" :=
      Answer.thinking_isSome_iff (ofItems?_of_parse hl hf)
    refine ⟨text, calls, fun h => ?_, fun h => ?_⟩
    · rw [thinking, Option.or_of_isSome (thinks.mpr h)]
    · have none : first.thinking = none := Option.not_isSome_iff_eq_none.mp fun hn => h (thinks.mp hn)
      rw [thinking, none, Option.none_or]
  · rw [map_answer_of_content hi, map_answer_of_content hm, Answer.ofItems?_padded h]
  · refine parse_eq_error hi ?_
    rcases h with ⟨item, hm, hn⟩ | ⟨kind, item, rest, hk, hm⟩
    · exact Answer.ofItems?_eq_none hm hn
    · exact Answer.ofItems?_eq_none hm (ResponseBlock.not_writtenAs_listed hk item rest)
  · rw [map_answer_of_ofBody hb]
    show (Answer.ofConversation body).bind _ = _
    simp only [Answer.ofConversation, hc]
    rfl

/-- A content in two parts, with a block in each of the forms. -/
theorem content_read_blockwise_parts :
    let whole := ("\x7b\"content\":[\x7b\"type\":\"text\",\"text\":\"It is \"\x7d,"
      ++ "[\"text\",\"sunny\"],\x7b\"type\":\"thinking\"\x7d]\x7d").toUTF8
    let left := "\x7b\"content\":[\x7b\"type\":\"text\",\"text\":\"It is \"\x7d]\x7d".toUTF8
    let right := "\x7b\"content\":[[\"text\",\"sunny\"],\x7b\"type\":\"thinking\"\x7d]\x7d".toUTF8
    HoldsContent left [.obj [("text", .str "It is "), ("type", .str "text")]] ∧
      HoldsContent right [.arr [.str "text", .str "sunny"], .obj [("type", .str "thinking")]] ∧
      ∃ reply, parse .anthropic whole [] = .ok reply ∧ reply.text = "It is sunny" ∧
        reply.toolCalls = [] ∧ reply.thinking = some ⟨"", ""⟩ := by
  intro whole left right
  let before : List Json := [.obj [("text", .str "It is "), ("type", .str "text")]]
  let after : List Json := [.arr [.str "text", .str "sunny"], .obj [("type", .str "thinking")]]
  have hbl : Json.ofBytes? left = some (.obj [("content", .arr before)]) := by decide +kernel
  have hbr : Json.ofBytes? right = some (.obj [("content", .arr after)]) := by decide +kernel
  have hbw : Json.ofBytes? whole = some (.obj [("content", .arr (before ++ after))]) := by
    decide +kernel
  have hl : HoldsContent left before := ⟨_, hbl, rfl, rfl⟩
  have hr : HoldsContent right after := ⟨_, hbr, rfl, rfl⟩
  have hf : parse .anthropic left [] = .ok
      ⟨"It is ", none, [], .obj [("content", .arr before)], ⟨0, 0, 0, 0, 0⟩, none⟩ := by
    simp only [parse, hbl]
    decide +kernel
  have hs : parse .anthropic right [] = .ok
      ⟨"sunny", some ⟨"", ""⟩, [], .obj [("content", .arr after)], ⟨0, 0, 0, 0, 0⟩, none⟩ := by
    simp only [parse, hbr]
    decide +kernel
  obtain ⟨accepts, parts⟩ := (content_read_blockwise []).1 whole left right before after
    ⟨_, hbw, rfl, rfl⟩ hl hr
  obtain ⟨reply, hp⟩ := accepts.mpr ⟨⟨_, hf⟩, _, hs⟩
  obtain ⟨text, calls, -, thinking⟩ := parts reply _ _ hp hf hs
  have unthinking : ¬ ∃ item ∈ before, item.HasKind "thinking" := by
    simp [before, Json.HasKind, Json.get?, Fields.get?]
  exact ⟨hl, hr, reply, hp, text, calls, thinking unthinking⟩

/-- A block of an unknown kind that is an array with an item behind the kind fails a response that is accepted
without it. -/
theorem listed_unknown_block_refused :
    let listed := "\x7b\"content\":[[\"x\",1]]\x7d".toUTF8
    let empty := "\x7b\"content\":[]\x7d".toUTF8
    HoldsContent listed [.arr [.str "x", .int 1]] ∧ HoldsContent empty [] ∧
      (Json.arr [.str "x", .int 1]).HasKind "x" ∧ "x" ∉ ResponseBlock.kinds ∧
      parse .anthropic listed [] = .error (.decode .responseContent) ∧ Accepts [] empty := by
  intro listed empty
  have hbl : Json.ofBytes? listed = some (.obj [("content", .arr [.arr [.str "x", .int 1]])]) := by
    decide +kernel
  have hbe : Json.ofBytes? empty = some (.obj [("content", .arr [])]) := by decide +kernel
  have he : parse .anthropic empty [] = .ok
      ⟨"", none, [], .obj [("content", .arr [])], ⟨0, 0, 0, 0, 0⟩, none⟩ := by
    simp only [parse, hbe]
    decide +kernel
  refine ⟨⟨_, hbl, rfl, rfl⟩, ⟨_, hbe, rfl, rfl⟩, .inr ⟨_, rfl⟩, by decide, ?_, _, he⟩
  simp only [parse, hbl]
  decide +kernel

end Reply

end Colloquy
