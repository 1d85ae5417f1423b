import Colloquy.Proofs.Stream.Kind
import Colloquy.Proofs.Stream.Run
/-!
# How a stream closes

The items of a stream are chunks, and at most one item behind them closes it: the usage that the last
event states, or a failure.

Results:
* `EventDecoder.decodeJson_verdict`: an event adds chunks without usage, ends the stream silently, or ends
  it with one usage behind its other chunks.
* `EventDecoder.items_close`: the items that are read of a source, up to the one that closes them.
* `StreamDecoder.closes_once`: the same call by call, and when the closing item is a usage.
-/
namespace Colloquy

/-- Whether nothing may follow an item: it is a failure or a usage. -/
def closes : Item → Bool
  | .ok chunk => chunk.isUsage
  | .error _ => true

def WithoutUsage (chunks : List Chunk) : Prop := ∀ chunk ∈ chunks, chunk.isUsage = false

def IsUsageItem (item : Item) : Prop := ∃ usage, item = .ok (.usage usage)

namespace EventDecoder

/-- Whether an event states the usage of a stream: a messages event that ends its message, or a completion
event whose text can be read and whose reason for stopping is one of the provider's. -/
def StatesUsage (decoder : EventDecoder) (event : Json) : Prop :=
  match decoder with
  | messages _ => MessagesEvent.EndsMessage event
  | completion provider outputKey =>
    (∃ fields text, event = .obj fields ∧
      outputText? provider.profile.outputWrapped outputKey fields = some text) ∧
    (∃ scope stops finishes, provider.profile.ending = .reason scope stops finishes) ∧
    provider.profile.ending.endsAfter event outputKey = true

/-- Whether an item of a source is an event that states the usage. -/
def ItemStatesUsage (decoder : EventDecoder) (item : SourceItem) : Prop :=
  ∃ payload event, item = .event payload ∧ Json.ofBytes? payload = some event ∧
    decoder.StatesUsage event

/-- Whether reading a source gets to an event that states the usage. -/
def ReachesUsage (decoder : EventDecoder) (source : List SourceItem) : Prop :=
  ∃ before item after, source = before ++ item :: after ∧
    (∀ earlier ∈ before, decoder.isLast earlier = false) ∧ decoder.ItemStatesUsage item

/-! ## One event -/

theorem blockStartChunks_withoutUsage (index : UInt32) (block : OpenedBlock) :
    WithoutUsage (blockStartChunks index block) := by
  cases block <;> simp [WithoutUsage, blockStartChunks, Chunk.isUsage]

theorem deltaChunks_withoutUsage (coerceToText : Bool) (index : UInt32) (delta : WireDelta) :
    WithoutUsage (deltaChunks coerceToText index delta) := by
  cases delta <;> cases coerceToText <;> simp [WithoutUsage, deltaChunks, Chunk.isUsage]

theorem decodeBlockStart_withoutUsage {index : UInt32} {block : Option Json} {chunks : List Chunk}
    (h : decodeBlockStart index block = .ok chunks) : WithoutUsage chunks := by
  unfold decodeBlockStart at h
  split at h
  · cases h; simp [WithoutUsage]
  · split at h
    · cases h; exact blockStartChunks_withoutUsage _ _
    · cases h

theorem decodeDelta_withoutUsage {coerceToText : Bool} {index : UInt32} {delta : Option Json}
    {chunks : List Chunk} (h : decodeDelta coerceToText index delta = .ok chunks) :
    WithoutUsage chunks := by
  unfold decodeDelta at h
  split at h
  · cases h; simp [WithoutUsage, Chunk.isUsage]
  · split at h
    · cases h; exact deltaChunks_withoutUsage _ _ _
    · cases h

/-- A messages event that has been read ends the stream exactly with one usage, or adds chunks without
usage. -/
theorem decodeEvent_cases {coerceToText : Bool} {usage : Usage} {event : MessagesEvent}
    {decoded : Decoded} (h : decodeEvent coerceToText usage event = .ok decoded) :
    (event.endsMessage = true ∧ decoded = .finish [.usage usage]) ∨
    (event.endsMessage = false ∧ decoded.terminal = false ∧ WithoutUsage decoded.chunks) := by
  cases event with
  | messageStop => cases h; exact .inl ⟨rfl, rfl⟩
  | other => cases h; exact .inl ⟨rfl, rfl⟩
  | messageStart =>
    cases h
    exact .inr ⟨rfl, rfl, by cases coerceToText <;> simp [WithoutUsage, Decoded.emit, Chunk.isUsage]⟩
  | messageDelta => cases h; exact .inr ⟨rfl, rfl, by simp [WithoutUsage, Decoded.emit, Chunk.isUsage]⟩
  | blockStop => cases h; exact .inr ⟨rfl, rfl, by simp [WithoutUsage, Decoded.emit]⟩
  | ping => cases h; exact .inr ⟨rfl, rfl, by simp [WithoutUsage, Decoded.emit]⟩
  | blockStart index block =>
    cases hb : decodeBlockStart index block with
    | error failure => simp [decodeEvent, hb, Except.map] at h
    | ok chunks =>
      simp only [decodeEvent, hb, Except.map, Except.ok.injEq] at h
      subst h
      exact .inr ⟨rfl, rfl, decodeBlockStart_withoutUsage hb⟩
  | blockDelta index delta =>
    cases hb : decodeDelta coerceToText index delta with
    | error failure => simp [decodeEvent, hb, Except.map] at h
    | ok chunks =>
      simp only [decodeEvent, hb, Except.map, Except.ok.injEq] at h
      subst h
      exact .inr ⟨rfl, rfl, decodeDelta_withoutUsage hb⟩

/-- What decoding an event can come to, given whether the event states the usage. -/
inductive Verdict (statesUsage : Prop) : Except Failure Decoded → Prop where
  | failed (failure : Failure) (h : ¬ statesUsage) : Verdict statesUsage (.error failure)
  /-- Chunks without usage, and the stream goes on. -/
  | goesOn (decoded : Decoded) (ht : decoded.terminal = false)
      (hc : WithoutUsage decoded.chunks) (h : ¬ statesUsage) :
      Verdict statesUsage (.ok decoded)
  /-- The end of the stream, and nothing else. -/
  | endsSilently (h : ¬ statesUsage) : Verdict statesUsage (.ok (.finish []))
  /-- The end of the stream with one usage behind chunks without usage. -/
  | endsWithUsage (chunks : List Chunk) (usage : Usage) (hc : WithoutUsage chunks) (h : statesUsage) :
      Verdict statesUsage (.ok (.finish (chunks ++ [.usage usage])))

theorem decodeMessages_verdict (coerceToText : Bool) (event : Json) :
    Verdict (MessagesEvent.EndsMessage event) (decodeMessages coerceToText event) := by
  unfold decodeMessages
  cases hp : MessagesEvent.ofJson? event with
  | none =>
    refine .failed _ fun he => ?_
    obtain ⟨parsed, hq, -⟩ := MessagesEvent.ofJson?_endsMessage.mpr he
    rw [hp] at hq; cases hq
  | some parsed =>
    have ends : MessagesEvent.EndsMessage event ↔ parsed.endsMessage = true := by
      rw [← MessagesEvent.ofJson?_endsMessage, hp]
      exact ⟨fun ⟨_, h1, h2⟩ => by cases h1; exact h2, fun h => ⟨parsed, rfl, h⟩⟩
    simp only
    cases hd : decodeEvent coerceToText (Metrics.ofEvent event).usage parsed with
    | error failure =>
      refine .failed failure fun he => ?_
      rw [ends] at he
      cases parsed <;> first | cases hd | cases he
    | ok decoded =>
      rcases decodeEvent_cases hd with ⟨he, rfl⟩ | ⟨he, ht, hc⟩
      · exact .endsWithUsage [] _ (by simp [WithoutUsage]) (ends.mpr he)
      · exact .goesOn decoded ht hc (by rw [ends, he]; decide)

/-- Only a rule about reasons for stopping ends a stream behind an event. -/
theorem exists_reason_of_endsAfter {ending : Ending} {event : Json} {outputKey : String}
    (h : ending.endsAfter event outputKey = true) :
    ∃ scope stops finishes, ending = .reason scope stops finishes := by
  cases ending with
  | reason scope stops finishes => exact ⟨scope, stops, finishes, rfl⟩
  | exhausted => cases h
  | sentinel text => cases h
  | flagged flag text => cases h

theorem decodeCompletion_verdict (provider : Provider) (outputKey : String) (event : Json) :
    Verdict ((completion provider outputKey).StatesUsage event)
      (decodeCompletion provider outputKey event) := by
  unfold decodeCompletion
  simp only
  split
  · rename_i hb
    refine .endsSilently fun ⟨_, ⟨scope, stops, finishes, hr⟩, _⟩ => ?_
    rw [hr] at hb; cases hb
  split
  · rename_i ho
    refine .failed _ fun ⟨⟨fields, text, he, _⟩, _⟩ => ?_
    rw [he] at ho; cases ho
  rename_i fields ho
  have he : event = .obj fields := by
    cases event with
    | obj members => cases ho; rfl
    | _ => cases ho
  split
  · rename_i hx
    refine .failed _ fun ⟨⟨members, text, hm, ht⟩, _⟩ => ?_
    rw [he] at hm; cases hm
    rw [hx] at ht; cases ht
  rename_i text hx
  have hc : WithoutUsage (.text text :: if (metadataOf outputKey fields).isEmpty then []
      else [.metadata (metadataOf outputKey fields)]) := by
    split <;> simp [WithoutUsage, Chunk.isUsage]
  split
  · rename_i ha
    exact .endsWithUsage _ _ hc ⟨⟨fields, text, he, hx⟩, exists_reason_of_endsAfter ha, ha⟩
  · rename_i ha
    exact .goesOn _ rfl hc fun ⟨_, _, h⟩ => ha h

theorem decodeJson_verdict (decoder : EventDecoder) (event : Json) :
    Verdict (decoder.StatesUsage event) (decoder.decodeJson event) := by
  cases decoder with
  | messages coerceToText => exact decodeMessages_verdict coerceToText event
  | completion provider outputKey => exact decodeCompletion_verdict provider outputKey event

/-! ## One item of the source -/

theorem itemStatesUsage_event {decoder : EventDecoder} {payload : ByteArray} {event : Json}
    (he : Json.ofBytes? payload = some event) :
    decoder.ItemStatesUsage (.event payload) ↔ decoder.StatesUsage event := by
  constructor
  · rintro ⟨bytes, value, hi, hv, hs⟩
    cases hi
    rw [he] at hv; cases hv
    exact hs
  · intro hs
    exact ⟨payload, event, rfl, he, hs⟩

/-- What reading an item of the source can come to, given whether it states the usage: chunks without
usage and no end, or the end, with at most one item behind such chunks. -/
inductive Contribution (statesUsage : Prop) : List Item → Bool → Prop where
  | goesOn (chunks : List Chunk) (hc : WithoutUsage chunks) (h : ¬ statesUsage) :
      Contribution statesUsage (chunks.map .ok) false
  | ends (chunks : List Chunk) (closing : Option Item) (hc : WithoutUsage chunks)
      (hl : ∀ item ∈ closing, closes item = true)
      (h : (∃ item ∈ closing, IsUsageItem item) ↔ statesUsage) :
      Contribution statesUsage (chunks.map .ok ++ closing.toList) true

theorem itemsOf_contribution (decoder : EventDecoder) (item : SourceItem) :
    Contribution (decoder.ItemStatesUsage item) (decoder.itemsOf item) (decoder.isLast item) := by
  have failed : ∀ failure : Failure, ¬ decoder.ItemStatesUsage item →
      Contribution (decoder.ItemStatesUsage item) [.error failure] true := by
    intro failure h
    refine .ends [] (some (.error failure)) (by simp [WithoutUsage]) (by simp [closes]) ?_
    simp [IsUsageItem, h]
  cases item with
  | empty =>
    refine .goesOn [] (by simp [WithoutUsage]) ?_
    rintro ⟨_, _, hi, -⟩; cases hi
  | failure failure => exact failed _ (by rintro ⟨_, _, hi, -⟩; cases hi)
  | breakdown => exact failed _ (by rintro ⟨_, _, hi, -⟩; cases hi)
  | event payload =>
    cases hp : Json.ofBytes? payload with
    | none =>
      simp only [itemsOf, isLast, decode, hp]
      refine failed _ ?_
      rintro ⟨bytes, event, hi, he, -⟩
      cases hi
      rw [hp] at he; cases he
    | some event =>
      have hv := decoder.decodeJson_verdict event
      rw [← itemStatesUsage_event hp] at hv
      simp only [itemsOf, isLast, decode, hp]
      generalize decoder.decodeJson event = result at hv ⊢
      cases hv with
      | failed failure h => exact failed failure h
      | goesOn decoded ht hc h =>
        simp only [ht]
        exact .goesOn decoded.chunks hc h
      | endsSilently h =>
        exact .ends [] none (by simp [WithoutUsage]) (by simp) (by simp [h])
      | endsWithUsage chunks usage hc h =>
        simp only [Decoded.finish, List.map_append]
        exact .ends chunks (some (.ok (.usage usage))) hc (by simp [closes, Chunk.isUsage])
          (by simp [IsUsageItem, h])

/-! ## A whole source -/

theorem reachesUsage_cons {decoder : EventDecoder} {item : SourceItem} {rest : List SourceItem} :
    decoder.ReachesUsage (item :: rest) ↔ decoder.ItemStatesUsage item ∨
      (decoder.isLast item = false ∧ decoder.ReachesUsage rest) := by
  constructor
  · rintro ⟨before, last, behind, hs, hb, hu⟩
    cases before with
    | nil => cases hs; exact .inl hu
    | cons first before =>
      cases hs
      rw [List.forall_mem_cons] at hb
      exact .inr ⟨hb.1, before, last, behind, rfl, hb.2, hu⟩
  · rintro (hu | ⟨hl, before, last, behind, rfl, hb, hu⟩)
    · exact ⟨[], item, rest, rfl, by simp, hu⟩
    · exact ⟨item :: before, last, behind, rfl, by simpa [hl] using hb, hu⟩

/-- The items that are read of a source: chunks without usage, and at most one that closes them, which is
a usage exactly if reading gets to an event that states it. -/
theorem items_close (decoder : EventDecoder) (source : List SourceItem) :
    ∃ chunks closing, (decoder.portion source).flatMap decoder.itemsOf
        = List.map .ok chunks ++ Option.toList closing ∧
      WithoutUsage chunks ∧ (∀ item ∈ closing, closes item = true) ∧
      ((∃ item ∈ closing, IsUsageItem item) ↔ decoder.ReachesUsage source) := by
  induction source with
  | nil =>
    refine ⟨[], none, rfl, by simp [WithoutUsage], by simp, ?_⟩
    simp [ReachesUsage]
  | cons item rest ih =>
    have hi := decoder.itemsOf_contribution item
    rw [portion_cons, List.flatMap_cons, reachesUsage_cons]
    generalize decoder.itemsOf item = items, decoder.isLast item = last at hi ⊢
    cases hi with
    | goesOn chunks hc h =>
      obtain ⟨others, closing, he, ho, hl, hu⟩ := ih
      refine ⟨chunks ++ others, closing, by simp [he], ?_, hl, by rw [hu]; simp [h]⟩
      intro chunk hm
      exact (List.mem_append.mp hm).elim (hc chunk) (ho chunk)
    | ends chunks closing hc hl h => exact ⟨chunks, closing, by simp, hc, hl, by rw [h]; simp⟩

end EventDecoder

namespace StreamDecoder

/-- A usage is never stated by the completion events of a provider that has no rule about reasons for
stopping. -/
theorem not_reachesUsage {provider : Provider} {outputKey : String} {source : List SourceItem}
    (h : ∀ scope stops finishes, provider.profile.ending ≠ .reason scope stops finishes) :
    ¬ (EventDecoder.completion provider outputKey).ReachesUsage source := by
  rintro ⟨_, _, _, _, _, _, _, _, _, -, ⟨scope, stops, finishes, hr⟩, -⟩
  exact h scope stops finishes hr

/-- Behind an item that closes chunks without usage stands nothing. -/
theorem getElem?_behind {chunks : List Chunk} {closing : Option Item} (hc : WithoutUsage chunks)
    {m n : Nat} {item : Item} (hx : closes item = true) (hmn : m < n)
    (ho : (List.map Except.ok chunks ++ Option.toList closing)[m]? = some item) :
    (List.map Except.ok chunks ++ Option.toList closing)[n]? = none := by
  have hm : chunks.length ≤ m := by
    refine Nat.le_of_not_lt fun hlt => ?_
    rw [List.getElem?_append_left (by simpa using hlt)] at ho
    obtain ⟨chunk, hmem, rfl⟩ := List.mem_map.mp (List.mem_of_getElem? ho)
    rw [closes, hc chunk hmem] at hx
    cases hx
  have hlen : (Option.toList closing).length ≤ 1 := by cases closing <;> simp
  apply List.getElem?_eq_none
  simp only [List.length_append, List.length_map]
  omega

theorem exists_usage_iff {chunks : List Chunk} {closing : Option Item} (hc : WithoutUsage chunks) :
    (∃ (n : Nat) (usage : Usage), (List.map Except.ok chunks ++ Option.toList closing)[n]?
        = some (.ok (.usage usage))) ↔ ∃ item ∈ closing, IsUsageItem item := by
  constructor
  · rintro ⟨n, usage, ho⟩
    rcases List.mem_append.mp (List.mem_of_getElem? ho) with hm | hm
    · obtain ⟨chunk, hmem, hx⟩ := List.mem_map.mp hm
      cases hx
      cases hc _ hmem
    · exact ⟨_, Option.mem_toList.mp hm, usage, rfl⟩
  · rintro ⟨item, hm, usage, rfl⟩
    obtain ⟨n, hn⟩ := List.mem_iff_getElem?.mp
      (List.mem_append_right (List.map Except.ok chunks) (Option.mem_toList.mpr hm))
    exact ⟨n, usage, hn⟩

/-- A stream hands out chunks without usage, then at most one item that closes it, and then nothing: no
item follows a failure or a usage.  A usage is handed out exactly if reading the source gets, without
failure or end, to an event that states it. -/
theorem closes_once {provider : Provider} {options : DecodeOptions} {source : List SourceItem}
    {stream : StreamDecoder} (h : start provider options source = .ok stream) :
    (∃ chunks closing, WithoutUsage chunks ∧ (∀ item ∈ closing, closes item = true) ∧
      ∀ n, (stream.sighting n).outcome = (List.map Except.ok chunks ++ Option.toList closing)[n]?) ∧
    (∀ m n item, (stream.sighting m).outcome = some item → closes item = true → m < n →
      (stream.sighting n).outcome = none) ∧
    (∃ decoder, EventDecoder.ofOptions provider options = .ok decoder ∧
      ((∃ n usage, (stream.sighting n).outcome = some (.ok (.usage usage))) ↔
        decoder.ReachesUsage source)) ∧
    (options.format = .completion →
      (∀ scope stops finishes, provider.profile.ending ≠ .reason scope stops finishes) →
      ∀ n usage, (stream.sighting n).outcome ≠ some (.ok (.usage usage))) := by
  obtain ⟨decoder, hd, rfl⟩ := exists_of_start h
  obtain ⟨chunks, closing, he, hc, hl, hu⟩ := decoder.items_close source
  have outcome : ∀ n, ((opened decoder source).sighting n).outcome
      = (List.map Except.ok chunks ++ Option.toList closing)[n]? := by
    intro n
    rw [outcome_opened, items_opened, he]
  have usage : (∃ n usage, ((opened decoder source).sighting n).outcome = some (.ok (.usage usage)))
      ↔ decoder.ReachesUsage source := by
    simp only [outcome]
    exact (exists_usage_iff hc).trans hu
  refine ⟨⟨chunks, closing, hc, hl, outcome⟩, ?_, ⟨decoder, hd, usage⟩, ?_⟩
  · intro m n item ho hx hmn
    rw [outcome] at ho ⊢
    exact getElem?_behind hc hx hmn ho
  · intro hf hr n u ho
    have hcomp : ∃ outputKey, decoder = .completion provider outputKey := by
      simp only [EventDecoder.ofOptions, hf] at hd
      split at hd
      · cases hd; exact ⟨_, rfl⟩
      · cases hd
    obtain ⟨outputKey, rfl⟩ := hcomp
    exact not_reachesUsage hr (usage.mp ⟨n, u, ho⟩)

/-- A completion event that states why it stopped, and one behind it. -/
theorem closes_once_stop :
    ∃ stream, start .metaAI .completion
        [.event "\x7b\"generation\":\"a\",\"stop_reason\":\"stop\"\x7d".toUTF8,
          .event "\x7b\"generation\":\"b\"\x7d".toUTF8] = .ok stream ∧
      (∃ n usage, (stream.sighting n).outcome = some (.ok (.usage usage))) ∧
      ∀ n, 2 < n → (stream.sighting n).outcome = none := by
  obtain ⟨-, after, ⟨decoder, hd, usage⟩, -⟩ := @closes_once .metaAI .completion
    [.event "\x7b\"generation\":\"a\",\"stop_reason\":\"stop\"\x7d".toUTF8,
      .event "\x7b\"generation\":\"b\"\x7d".toUTF8] _ rfl
  cases hd
  refine ⟨_, rfl, usage.mpr ⟨[], _, _, rfl, by simp, _, _, rfl, rfl, ?_⟩, fun n hn => ?_⟩
  · exact ⟨⟨_, _, rfl, rfl⟩, ⟨_, _, _, rfl⟩, rfl⟩
  · exact after 2 n _ rfl rfl hn

end StreamDecoder

end Colloquy
