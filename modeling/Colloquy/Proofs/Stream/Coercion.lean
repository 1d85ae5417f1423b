import Colloquy.Proofs.Stream.Run
import Mathlib.Data.List.Forall2
/-!
# Plain and structured text

The messages events of a source can be decoded to plain text or to deltas of content blocks.  The choice
restates the text and changes nothing else: call by call the two streams ask for the same events, are in
the same state and fail alike, and their chunks are counterparts.

Results:
* `EventDecoder.decodeEvent_counterparts`: one event.
* `EventDecoder.sightings_agree`: all that is seen of a source.
* `StreamDecoder.coercion_restates_text`: a run of a provider, and what each of the two never hands out.
-/
namespace Colloquy

/-- Whether a chunk carries neither text nor deltas of text blocks, so that the choice does not touch
it. -/
def Chunk.IsNeutral : Chunk → Prop
  | .text t => t = ""
  | .content blocks => ∀ block ∈ blocks, ∀ t, block.delta ≠ .text t
  | .toolCall _ | .metadata _ | .usage _ => True

/-- Whether a chunk carries text, plain or structured; the start of a message counts too. -/
def Chunk.carriesText : Chunk → Bool
  | .text _ => true
  | .content blocks => blocks.all fun block =>
      match block.delta with
      | .text _ => true
      | .thinking _ _ | .toolUse _ _ _ => false
  | .toolCall _ | .metadata _ | .usage _ => false

/-- Whether an item of a source is a certain messages event. -/
def SourceItem.Says (item : SourceItem) (event : MessagesEvent) : Prop :=
  ∃ payload value, item = .event payload ∧ Json.ofBytes? payload = some value ∧
    MessagesEvent.ofJson? value = some event

/-- The chunks that plain and structured decoding of an event have in one place. -/
inductive Counterpart : MessagesEvent → Chunk → Chunk → Prop where
  | messageStart : Counterpart .messageStart (.text "") (.content [])
  | textDelta (index : UInt32) (delta : Json) (text : String)
      (h : WireDelta.ofJson? delta = some (.text text)) :
      Counterpart (.blockDelta index (some delta)) (.text text) (.content [⟨index, .text text⟩])
  | same (event : MessagesEvent) (chunk : Chunk) (hs : event ≠ .messageStart)
      (hd : ∀ index delta text, event = .blockDelta index (some delta) →
        WireDelta.ofJson? delta ≠ some (.text text))
      (hn : chunk.IsNeutral) : Counterpart event chunk chunk

/-- The same for the items that an item of a source becomes. -/
inductive ItemCounterpart (origin : SourceItem) : Item → Item → Prop where
  | failure (failure : Failure) : ItemCounterpart origin (.error failure) (.error failure)
  | chunk (event : MessagesEvent) (plain structured : Chunk) (ho : origin.Says event)
      (hc : Counterpart event plain structured) :
      ItemCounterpart origin (.ok plain) (.ok structured)

/-- Two sightings of a source that agree but for the way text is stated. -/
structure Agree (source : List SourceItem) (plain structured : Sighting) : Prop where
  asked : plain.asked = structured.asked
  state : plain.state = structured.state
  outcome : (plain.outcome = none ∧ structured.outcome = none) ∨
    ∃ origin i j, source[plain.asked - 1]? = some origin ∧ plain.outcome = some i ∧
      structured.outcome = some j ∧ ItemCounterpart origin i j

namespace EventDecoder

/-! ## One event -/

theorem ofJson?_of_isEmptyDelta {delta : Json} (h : isEmptyDelta delta = true) :
    WireDelta.ofJson? delta = none := by
  cases delta with
  | null => rfl
  | str text => rfl
  | obj fields => rw [List.isEmpty_iff.mp h]; rfl
  | arr items => rw [List.isEmpty_iff.mp h]; rfl
  | bool value => cases h
  | int value => cases h
  | float value => cases h

/-- Neutral chunks of an event that neither starts a message nor adds text are their own
counterparts. -/
theorem counterparts_self {event : MessagesEvent} {chunks : List Chunk} (hs : event ≠ .messageStart)
    (hd : ∀ index delta text, event = .blockDelta index (some delta) →
      WireDelta.ofJson? delta ≠ some (.text text))
    (hn : ∀ chunk ∈ chunks, chunk.IsNeutral) : List.Forall₂ (Counterpart event) chunks chunks :=
  List.forall₂_same.mpr fun chunk hm => .same event chunk hs hd (hn chunk hm)

theorem decodeDelta_counterparts (index : UInt32) (delta : Option Json) :
    (∃ failure, decodeDelta true index delta = .error failure ∧
      decodeDelta false index delta = .error failure) ∨
    ∃ plain structured, decodeDelta true index delta = .ok plain ∧
      decodeDelta false index delta = .ok structured ∧
      List.Forall₂ (Counterpart (.blockDelta index delta)) plain structured := by
  unfold decodeDelta
  cases hf : delta.filter fun value => !isEmptyDelta value with
  | none =>
    refine .inr ⟨_, _, rfl, rfl, counterparts_self nofun ?_ (by simp [Chunk.IsNeutral])⟩
    intro i d text he
    cases he
    have hempty : isEmptyDelta d = true := by simpa [Option.filter] using hf
    rw [ofJson?_of_isEmptyDelta hempty]
    nofun
  | some value =>
    have hv : delta = some value := (Option.filter_eq_some_iff.mp hf).1
    subst hv
    cases hw : WireDelta.ofJson? value with
    | none => exact .inl ⟨_, by simp only [hw]; rfl, by simp only [hw]⟩
    | some wire =>
      refine .inr ⟨_, _, by simp only [hw]; rfl, by simp only [hw]; rfl, ?_⟩
      cases wire with
      | text text => exact .cons (.textDelta index value text hw) .nil
      | _ =>
        refine counterparts_self nofun ?_ (by simp [deltaChunks, Chunk.IsNeutral])
        intro i d text he
        cases he
        rw [hw]
        nofun

theorem blockStartChunks_isNeutral (index : UInt32) (block : OpenedBlock) :
    ∀ chunk ∈ blockStartChunks index block, chunk.IsNeutral := by
  cases block <;> simp [blockStartChunks, Chunk.IsNeutral]

/-- Both ways of decoding fail alike or give counterparts, and agree on whether the stream ends. -/
theorem decodeEvent_counterparts (usage : Usage) (event : MessagesEvent) :
    (∃ failure, decodeEvent true usage event = .error failure ∧
      decodeEvent false usage event = .error failure) ∨
    ∃ plain structured terminal, decodeEvent true usage event = .ok ⟨plain, terminal⟩ ∧
      decodeEvent false usage event = .ok ⟨structured, terminal⟩ ∧
      List.Forall₂ (Counterpart event) plain structured := by
  cases event with
  | messageStart => exact .inr ⟨_, _, false, rfl, rfl, .cons .messageStart .nil⟩
  | blockStart index block =>
    simp only [decodeEvent, decodeBlockStart]
    cases block with
    | none => exact .inr ⟨[], [], false, rfl, rfl, .nil⟩
    | some value =>
      cases ho : OpenedBlock.ofJson? value with
      | none => exact .inl ⟨_, by simp only [ho]; rfl, by simp only [ho]; rfl⟩
      | some opened =>
        refine .inr ⟨_, _, false, by simp only [ho]; rfl, by simp only [ho]; rfl, ?_⟩
        exact counterparts_self nofun nofun (blockStartChunks_isNeutral index opened)
  | blockDelta index delta =>
    simp only [decodeEvent]
    rcases decodeDelta_counterparts index delta with ⟨failure, hp, hs⟩ | ⟨plain, structured, hp, hs, h⟩
    · exact .inl ⟨failure, by rw [hp]; rfl, by rw [hs]; rfl⟩
    · exact .inr ⟨plain, structured, false, by rw [hp]; rfl, by rw [hs]; rfl, h⟩
  | messageDelta stopReason stopSequence =>
    exact .inr ⟨_, _, false, rfl, rfl, counterparts_self nofun nofun (by simp [Chunk.IsNeutral])⟩
  | blockStop => exact .inr ⟨[], [], false, rfl, rfl, .nil⟩
  | ping => exact .inr ⟨[], [], false, rfl, rfl, .nil⟩
  | messageStop =>
    exact .inr ⟨_, _, true, rfl, rfl, counterparts_self nofun nofun (by simp [Chunk.IsNeutral])⟩
  | other =>
    exact .inr ⟨_, _, true, rfl, rfl, counterparts_self nofun nofun (by simp [Chunk.IsNeutral])⟩

/-! ## One item of the source, and all of them -/

theorem itemsOf_counterparts (item : SourceItem) :
    (messages true).isLast item = (messages false).isLast item ∧
      List.Forall₂ (ItemCounterpart item) ((messages true).itemsOf item)
        ((messages false).itemsOf item) := by
  have failed : ∀ failure : Failure,
      List.Forall₂ (ItemCounterpart item) [.error failure] [.error failure] :=
    fun failure => .cons (.failure failure) .nil
  cases item with
  | empty => exact ⟨rfl, .nil⟩
  | failure failure => exact ⟨rfl, failed _⟩
  | breakdown => exact ⟨rfl, failed _⟩
  | event payload =>
    simp only [isLast, itemsOf, decode]
    cases hp : Json.ofBytes? payload with
    | none => exact ⟨rfl, failed _⟩
    | some value =>
      simp only [decodeJson, decodeMessages]
      cases he : MessagesEvent.ofJson? value with
      | none => exact ⟨rfl, failed _⟩
      | some event =>
        simp only
        rcases decodeEvent_counterparts (Metrics.ofEvent value).usage event with
          ⟨failure, hf, hg⟩ | ⟨plain, structured, terminal, hf, hg, hc⟩
        · rw [hf, hg]; exact ⟨rfl, failed failure⟩
        · rw [hf, hg]
          refine ⟨rfl, ?_⟩
          simp only [List.forall₂_map_left_iff, List.forall₂_map_right_iff]
          exact hc.imp fun p q h => .chunk event p q ⟨payload, value, rfl, hp, he⟩ h

theorem isLast_messages : (messages true).isLast = (messages false).isLast :=
  funext fun item => (itemsOf_counterparts item).1

theorem asks_messages (source : List SourceItem) :
    (messages true).asks source = (messages false).asks source := by
  simp only [asks, portion, isLast_messages]

theorem sightingsAt_agree {source : List SourceItem} {item : SourceItem} {position : Nat}
    (h : source[position]? = some item) :
    List.Forall₂ (Agree source) ((messages true).sightingsAt item (position + 1))
      ((messages false).sightingsAt item (position + 1)) := by
  obtain ⟨hl, hc⟩ := itemsOf_counterparts item
  unfold sightingsAt
  rw [List.forall₂_map_left_iff, List.forall₂_map_right_iff]
  refine hc.imp fun i j hij => ⟨rfl, by rw [hl], .inr ⟨item, i, j, ?_, rfl, rfl, hij⟩⟩
  simpa using h

/-- Everything that is seen of the items of a source behind the first `start` ones agrees. -/
theorem sightings_agree (source : List SourceItem) :
    ∀ (rest : List SourceItem) (start : Nat), source.drop start = rest →
      List.Forall₂ (Agree source) ((messages true).sightingsFrom start rest)
        ((messages false).sightingsFrom start rest) := by
  intro rest
  induction rest with
  | nil => intro start _; exact .nil
  | cons item rest ih =>
    intro start h
    have hi : source[start]? = some item := by
      rw [← Nat.add_zero start, ← List.getElem?_drop, h]; rfl
    have hr : source.drop (start + 1) = rest := by
      rw [← List.drop_drop, h]; rfl
    rw [sightingsFrom_cons, sightingsFrom_cons, isLast_messages]
    refine List.rel_append (sightingsAt_agree hi) ?_
    cases (messages false).isLast item with
    | true => exact .nil
    | false => exact ih (start + 1) hr

end EventDecoder

theorem forall₂_getElem? {R : α → β → Prop} {l : List α} {m : List β} (h : List.Forall₂ R l m) :
    ∀ n : Nat, (l[n]? = none ∧ m[n]? = none) ∨
      ∃ a b, l[n]? = some a ∧ m[n]? = some b ∧ R a b := by
  induction h with
  | nil => intro n; exact .inl ⟨rfl, rfl⟩
  | cons hab _ ih =>
    intro n
    cases n with
    | zero => exact .inr ⟨_, _, rfl, rfl, hab⟩
    | succ n => simpa using ih n

namespace StreamDecoder

theorem sightings_opened_agree (source : List SourceItem) (n : Nat) :
    Agree source ((opened (.messages true) source).sighting n)
      ((opened (.messages false) source).sighting n) := by
  rw [sighting_opened, sighting_opened]
  rcases forall₂_getElem? (EventDecoder.sightings_agree source source 0 rfl) n with
    ⟨hp, hs⟩ | ⟨p, s, hp, hs, h⟩
  · unfold EventDecoder.sightings
    rw [hp, hs]
    exact ⟨EventDecoder.asks_messages source, rfl, .inl ⟨rfl, rfl⟩⟩
  · unfold EventDecoder.sightings
    rw [hp, hs]
    exact h

theorem asked_after_agree (source : List SourceItem) (n : Nat) :
    ((opened (.messages true) source).after n).asked
      = ((opened (.messages false) source).after n).asked := by
  cases n with
  | zero => rfl
  | succ n =>
    rw [after_succ, after_succ]
    exact (sightings_opened_agree source n).asked

theorem exists_structured {provider : Provider} {source : List SourceItem} {plain : StreamDecoder}
    (h : start provider (.messages true) source = .ok plain) :
    plain = opened (.messages true) source ∧
      start provider (.messages false) source = .ok (opened (.messages false) source) := by
  obtain ⟨decoder, hd, rfl⟩ := exists_of_start h
  simp only [EventDecoder.ofOptions, DecodeOptions.messages] at hd
  split at hd
  · rename_i hs
    cases hd
    have hf : EventDecoder.ofOptions provider (.messages false) = .ok (.messages false) := if_pos hs
    exact ⟨rfl, start_eq hf source⟩
  · cases hd

end StreamDecoder

namespace Agree

/-- A chunk of structured decoding is a text only if the text is empty. -/
theorem structured_text {source : List SourceItem} {plain structured : Sighting} {text : String}
    (h : Agree source plain structured) (ho : structured.outcome = some (.ok (.text text))) :
    text = "" := by
  rcases h.outcome with ⟨-, hs⟩ | ⟨origin, i, j, -, -, hs, hij⟩
  · rw [hs] at ho; cases ho
  · rw [hs] at ho; cases ho
    cases hij with
    | chunk event p s _ hc =>
      cases hc with
      | same event chunk hs hd hn => exact hn

/-- The deltas in a chunk of plain decoding are not those of text blocks. -/
theorem plain_content {source : List SourceItem} {plain structured : Sighting}
    {blocks : List TaggedBlock} (h : Agree source plain structured)
    (ho : plain.outcome = some (.ok (.content blocks))) :
    ∀ block ∈ blocks, ∀ text, block.delta ≠ .text text := by
  rcases h.outcome with ⟨hp, -⟩ | ⟨origin, i, j, -, hp, -, hij⟩
  · rw [hp] at ho; cases ho
  · rw [hp] at ho; cases ho
    cases hij with
    | chunk event p s _ hc =>
      cases hc with
      | same event chunk hs hd hn => exact hn

/-- A chunk without text is its own and only counterpart. -/
theorem counterpart_of_not_carriesText {event : MessagesEvent} {plain structured : Chunk}
    (h : Counterpart event plain structured)
    (hc : plain.carriesText = false ∨ structured.carriesText = false) : plain = structured := by
  cases h with
  | messageStart => rcases hc with hc | hc <;> cases hc
  | textDelta index delta text h => rcases hc with hc | hc <;> cases hc
  | same event chunk hs hd hn => rfl

/-- Chunks without text come from both. -/
theorem iff_of_not_carriesText {source : List SourceItem} {plain structured : Sighting} {chunk : Chunk}
    (h : Agree source plain structured) (hc : chunk.carriesText = false) :
    plain.outcome = some (.ok chunk) ↔ structured.outcome = some (.ok chunk) := by
  rcases h.outcome with ⟨hp, hs⟩ | ⟨origin, i, j, -, hp, hs, hij⟩
  · rw [hp, hs]
  · rw [hp, hs]
    constructor
    · intro he; cases he
      cases hij with
      | chunk event p s _ h => rw [counterpart_of_not_carriesText h (.inl hc)]
    · intro he; cases he
      cases hij with
      | chunk event p s _ h => rw [counterpart_of_not_carriesText h (.inr hc)]

end Agree

namespace StreamDecoder

/-- Decoding the messages events of a source to plain text and to structured content.  Both runs ask for
the same events, go through the same states and fail alike, and their chunks are counterparts: `Text` of a
text delta stands where the other has that delta for the same index, the empty text that starts a message
stands where the other has no blocks, and all other chunks are equal.  So structured decoding hands out no
text but the empty one, plain decoding no delta of a text block, and every chunk without text comes from
both in the same place. -/
theorem coercion_restates_text {provider : Provider} {source : List SourceItem}
    {plain : StreamDecoder} (h : start provider (.messages true) source = .ok plain) :
    ∃ structured, start provider (.messages false) source = .ok structured ∧
      (∀ n, Agree source (plain.sighting n) (structured.sighting n)) ∧
      (∀ n, (plain.after n).events = (structured.after n).events ∧
        (plain.after n).eventsRead = (structured.after n).eventsRead) ∧
      (∀ n text, (structured.sighting n).outcome = some (.ok (.text text)) → text = "") ∧
      (∀ n blocks, (plain.sighting n).outcome = some (.ok (.content blocks)) →
        ∀ block ∈ blocks, ∀ text, block.delta ≠ .text text) ∧
      (∀ n chunk, chunk.carriesText = false →
        ((plain.sighting n).outcome = some (.ok chunk) ↔
          (structured.sighting n).outcome = some (.ok chunk))) := by
  obtain ⟨rfl, hs⟩ := exists_structured h
  have agree := sightings_opened_agree source
  refine ⟨opened (.messages false) source, hs, agree, ?_, ?_, ?_, ?_⟩
  · intro n
    obtain ⟨hpe, hpr⟩ := reads_opened (.messages true) source n
    obtain ⟨hse, hsr⟩ := reads_opened (.messages false) source n
    rw [hpe, hse, hpr, hsr, asked_after_agree]
    exact ⟨rfl, rfl⟩
  · intro n text ho
    exact (agree n).structured_text ho
  · intro n blocks ho
    exact (agree n).plain_content ho
  · intro n chunk hc
    exact (agree n).iff_of_not_carriesText hc

/-- A text delta behind the start of a message, for the block with index 3. -/
theorem coercion_restates_text_delta :
    ∃ source plain structured, start .anthropic (.messages true) source = .ok plain ∧
      start .anthropic (.messages false) source = .ok structured ∧
      Agree source (plain.sighting 1) (structured.sighting 1) ∧
      (plain.sighting 1).outcome = some (.ok (.text "hi")) ∧
      (structured.sighting 1).outcome = some (.ok (.content [⟨3, .text "hi"⟩])) := by
  obtain ⟨structured, hs, agree, -⟩ := @coercion_restates_text .anthropic
    [.event "\x7b\"type\":\"message_start\"\x7d".toUTF8,
      .event "[\"content_block_delta\",3,\x7b\"type\":\"text_delta\",\"text\":\"hi\"\x7d]".toUTF8] _ rfl
  exact ⟨_, _, structured, rfl, hs, agree 1, rfl, by cases hs; rfl⟩

end StreamDecoder

end Colloquy
