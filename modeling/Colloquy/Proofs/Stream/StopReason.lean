import Colloquy.Proofs.Stream.Closing
import Colloquy.Proofs.Stream.Completion
import Colloquy.Usage.Tally
import Mathlib.Data.List.Basic
/-!
# The reported reason for stopping

A tally keeps the last reason for stopping that some metadata states.  Behind a stream of completion events
it is the last one that an event states itself, as a member of its own, among the events that are passed on.
Where the ending rule of the provider reads the event itself, that is the reason that ended the stream.  A
rule that reads the first output ends the stream as well, but its reason stands under the output key, which
is left out of the metadata.

Results:
* `Tally.stopReason_ofChunks`: the reason that a tally keeps.
* `StreamDecoder.stop_reason_kept`: the reason behind a stream of completion events, and that it is the one
  that ended the stream where the rule reads the event itself.
-/
namespace Colloquy

namespace Tally

/-- The reason for stopping that a chunk states under a key. -/
def reasonIn? (key : String) : Chunk → Option String
  | .metadata fields => (Fields.get? fields key).bind reasonText?
  | .text _ | .content _ | .toolCall _ | .usage _ => none

theorem counted_stopReason (tally : Tally) (fields : Fields) :
    ((tally.addUsageField fields).addMetricsField fields).stopReason = tally.stopReason ∧
    ((tally.addUsageField fields).addMetricsField fields).stopReasonKey = tally.stopReasonKey := by
  unfold addMetricsField addUsageField
  constructor <;> split <;> split <;> rfl

theorem keepReason_stopReason (tally : Tally) (fields : Fields) :
    (tally.keepReason fields).stopReason
      = ((Fields.get? fields tally.stopReasonKey).bind reasonText?).or tally.stopReason ∧
    (tally.keepReason fields).stopReasonKey = tally.stopReasonKey := by
  unfold keepReason
  cases (Fields.get? fields tally.stopReasonKey).bind reasonText? <;> exact ⟨rfl, rfl⟩

theorem add_stopReason (tally : Tally) (chunk : Chunk) :
    (tally.add chunk).stopReason = (reasonIn? tally.stopReasonKey chunk).or tally.stopReason ∧
    (tally.add chunk).stopReasonKey = tally.stopReasonKey := by
  cases chunk with
  | metadata fields =>
    obtain ⟨hr, hk⟩ := tally.counted_stopReason fields
    have hs := ((tally.addUsageField fields).addMetricsField fields).keepReason_stopReason fields
    rwa [hr, hk] at hs
  | text | content | toolCall | usage => exact ⟨rfl, rfl⟩

/-- A tally keeps the last reason for stopping that some metadata states. -/
theorem stopReason_foldl (chunks : List Chunk) : ∀ tally : Tally,
    (chunks.foldl add tally).stopReason
      = (chunks.filterMap (reasonIn? tally.stopReasonKey)).getLast?.or tally.stopReason := by
  induction chunks with
  | nil => intro tally; rfl
  | cons chunk rest ih =>
    intro tally
    obtain ⟨hr, hk⟩ := tally.add_stopReason chunk
    rw [List.foldl_cons, ih, hr, hk]
    cases hc : reasonIn? tally.stopReasonKey chunk with
    | none => rw [List.filterMap_cons_none hc, Option.none_or]
    | some reason =>
      rw [List.filterMap_cons_some hc, List.getLast?_cons]
      cases (rest.filterMap (reasonIn? tally.stopReasonKey)).getLast? <;> rfl

theorem stopReason_ofChunks (key : String) (chunks : List Chunk) :
    (ofChunks key chunks).combined.stopReason = (chunks.filterMap (reasonIn? key)).getLast? :=
  (stopReason_foldl chunks (start key)).trans (Option.or_none ..)

end Tally

namespace Ending

/-- The text under a key, if it is one of the accepted ones. -/
def acceptedReason? (holder : Json) (key : String) (accepted : List String) : Option String :=
  ((holder.get? key).bind Json.asString?).filter accepted.contains

/-- The reason for which an event ends its stream. -/
def matchedReason? (ending : Ending) (event : Json) (outputKey : String) : Option String :=
  match ending with
  | reason scope stopReasons finishReasons =>
    (reasonHolder? scope event outputKey).bind fun holder =>
      (acceptedReason? holder "stop_reason" stopReasons).or
        (acceptedReason? holder "finish_reason" finishReasons)
  | exhausted | sentinel _ | flagged _ _ => none

theorem acceptedReason?_nil (holder : Json) (key : String) : acceptedReason? holder key [] = none := by
  rw [acceptedReason?]
  cases (holder.get? key).bind Json.asString? <;> rfl

theorem of_acceptedReason? {holder : Json} {key reason : String} {accepted : List String}
    (h : acceptedReason? holder key accepted = some reason) :
    holder.get? key = some (.str reason) ∧ reason ∈ accepted := by
  rw [acceptedReason?, Option.filter_eq_some_iff] at h
  obtain ⟨value, hg, hs⟩ := Option.bind_eq_some_iff.mp h.1
  refine ⟨?_, by simpa using h.2⟩
  rw [hg]
  cases value <;> cases hs
  rfl

theorem namesReason_eq (holder : Json) (key : String) (accepted : List String) :
    namesReason holder key accepted = (acceptedReason? holder key accepted).isSome := by
  rw [namesReason, acceptedReason?]
  cases (holder.get? key).bind Json.asString? with
  | none => rfl
  | some text => by_cases h : text ∈ accepted <;> simp [Option.filter, h]

/-- An event ends its stream exactly if it states one of the reasons. -/
theorem endsAfter_eq (ending : Ending) (event : Json) (outputKey : String) :
    ending.endsAfter event outputKey = (ending.matchedReason? event outputKey).isSome := by
  cases ending with
  | reason scope stopReasons finishReasons =>
    rw [endsAfter, matchedReason?]
    cases reasonHolder? scope event outputKey with
    | none => rfl
    | some holder => simp [namesReason_eq, Option.isSome_or]
  | exhausted | sentinel | flagged => rfl

end Ending

namespace EventDecoder

def chunksOf (items : List Item) : List Chunk := items.filterMap Except.toOption

theorem chunksOf_ok (chunks : List Chunk) : chunksOf (chunks.map Except.ok) = chunks := by
  rw [chunksOf, List.filterMap_map]
  exact List.filterMap_some

/-- The reason for stopping that an event states itself, if it is passed on. -/
def statedReason? (decoder : EventDecoder) (key : String) (item : SourceItem) : Option String :=
  (decoder.passedFields? item).bind fun fields => (Fields.get? fields key).bind Tally.reasonText?

/-- The keys under which providers state reasons are passed on as metadata. -/
theorem stopReasonKey_ne {provider : Provider} {outputKey : String}
    (h : provider.profile.outputKey = some outputKey) :
    provider.profile.stopReasonKey ≠ outputKey ∧ provider.profile.stopReasonKey ∉ withheldKeys := by
  cases provider <;> cases h <;> decide

theorem reasons_metadataChunks {outputKey key : String} (ho : key ≠ outputKey) (hw : key ∉ withheldKeys)
    (fields : Fields) :
    (metadataChunks outputKey fields).filterMap (Tally.reasonIn? key)
      = ((Fields.get? fields key).bind Tally.reasonText?).toList := by
  rw [← get?_metadataOf ho hw, metadataChunks]
  split
  · rename_i he
    rw [List.isEmpty_iff.mp he]
    rfl
  · cases hr : (Fields.get? (metadataOf outputKey fields) key).bind Tally.reasonText? with
    | none => exact List.filterMap_cons_none hr
    | some reason => exact List.filterMap_cons_some hr

theorem reasons_usageChunks (key : String) (ends : Bool) (event : Json) :
    (usageChunks ends event).filterMap (Tally.reasonIn? key) = [] := by
  cases ends <;> rfl

/-- The reasons in the chunks of an item of the source: the one that it states itself. -/
theorem reasons_itemsOf {provider : Provider} {outputKey key : String} (ho : key ≠ outputKey)
    (hw : key ∉ withheldKeys) (item : SourceItem) :
    (chunksOf ((completion provider outputKey).itemsOf item)).filterMap (Tally.reasonIn? key)
      = ((completion provider outputKey).statedReason? key item).toList := by
  have hp := itemsOf_passage provider outputKey item
  rw [statedReason?]
  generalize (completion provider outputKey).passedFields? item = passed,
    (completion provider outputKey).itemsOf item = items at hp ⊢
  cases hp with
  | silent => rfl
  | fails failure => rfl
  | passedOn fields text ends =>
    rw [chunksOf_ok, List.filterMap_cons_none rfl, List.filterMap_append,
      reasons_metadataChunks ho hw, reasons_usageChunks, List.append_nil]
    rfl

theorem reasons_portion {provider : Provider} {outputKey key : String} (ho : key ≠ outputKey)
    (hw : key ∉ withheldKeys) (items : List SourceItem) :
    (chunksOf (items.flatMap (completion provider outputKey).itemsOf)).filterMap (Tally.reasonIn? key)
      = items.filterMap ((completion provider outputKey).statedReason? key) := by
  rw [chunksOf, List.filterMap_flatMap, List.filterMap_flatMap, List.filterMap_eq_flatMap_toList]
  exact congrArg items.flatMap (funext fun item => reasons_itemsOf ho hw item)

/-! ## The event that ends a stream -/

/-- Up to a last item behind others that are none, a source is read, and no further. -/
theorem portion_of_last {decoder : EventDecoder} {before : List SourceItem} {item : SourceItem}
    (hb : ∀ earlier ∈ before, decoder.isLast earlier = false) (hl : decoder.isLast item = true)
    (after : List SourceItem) : decoder.portion (before ++ item :: after) = before ++ [item] := by
  induction before with
  | nil => rw [List.nil_append, portion_cons, hl]; rfl
  | cons first before ih =>
    obtain ⟨hf, hr⟩ := List.forall_mem_cons.mp hb
    rw [List.cons_append, portion_cons, hf, List.cons_append]
    exact congrArg (first :: ·) (ih hr)

theorem isLast_of_statesUsage {decoder : EventDecoder} {payload : ByteArray} {event : Json}
    (hj : Json.ofBytes? payload = some event) (h : decoder.StatesUsage event) :
    decoder.isLast (.event payload) = true := by
  have hv := decoder.decodeJson_verdict event
  rw [isLast, decode, hj]
  simp only
  generalize decoder.decodeJson event = result at hv
  cases hv with
  | failed _ hn | goesOn _ _ _ hn | endsSilently hn => exact absurd h hn
  | endsWithUsage chunks usage => rfl

theorem passedFields?_of_statesUsage {provider : Provider} {outputKey : String} {payload : ByteArray}
    {event : Json} (hj : Json.ofBytes? payload = some event)
    (h : (completion provider outputKey).StatesUsage event) :
    ∃ fields, event = .obj fields ∧
      (completion provider outputKey).passedFields? (.event payload) = some fields := by
  obtain ⟨⟨fields, text, rfl, ht⟩, ⟨scope, stops, finishes, hr⟩, -⟩ := h
  refine ⟨fields, rfl, ?_⟩
  simp only [passedFields?, hj, Option.bind_some, passedMembers?, hr, Ending.endsBefore, ht]
  rfl

end EventDecoder

/-- Where the rule of a provider reads the event itself, the reason that it finds is the one that the tally
looks for. -/
theorem Provider.reasonText_of_matched {provider : Provider} {stops finishes : List String}
    (h : provider.profile.ending = .reason .event stops finishes) {event : Json} {outputKey reason : String}
    (hr : provider.profile.ending.matchedReason? event outputKey = some reason) :
    (event.get? provider.profile.stopReasonKey).bind Tally.reasonText? = some reason := by
  have hp : provider = .metaAI := by cases provider <;> first | rfl | cases h
  subst hp
  have ha : (Ending.acceptedReason? event "stop_reason" ["stop"]).or
      (Ending.acceptedReason? event "finish_reason" []) = some reason := hr
  rw [Ending.acceptedReason?_nil, Option.or_none] at ha
  obtain ⟨hs, hm⟩ := Ending.of_acceptedReason? ha
  obtain rfl := List.mem_singleton.mp hm
  exact Option.bind_eq_some_iff.mpr ⟨_, hs, rfl⟩

namespace StreamDecoder

open EventDecoder (chunksOf)

/-- What a tally of all chunks of a stream comes to. -/
def combined (stream : StreamDecoder) (stopReasonKey : String) : Combined :=
  (Tally.ofChunks stopReasonKey (chunksOf stream.items)).combined

/-- Behind a stream of completion events, the tally has the last reason for stopping that an event states
itself among the events that are passed on.  If the provider's rule reads the event itself, and the stream
ends by it, that is the reason that the rule found. -/
theorem stop_reason_kept {provider : Provider} {outputKey : String}
    (h : provider.profile.outputKey = some outputKey) (source : List SourceItem) :
    ∃ stream, start provider .completion source = .ok stream ∧
      (∀ n, (stream.sighting n).outcome = stream.items[n]?) ∧
      (stream.combined provider.profile.stopReasonKey).stopReason
        = (((EventDecoder.completion provider outputKey).portion source).filterMap
            ((EventDecoder.completion provider outputKey).statedReason?
              provider.profile.stopReasonKey)).getLast? ∧
      ((∃ stops finishes, provider.profile.ending = .reason .event stops finishes) →
        ∀ before payload event after, source = before ++ .event payload :: after →
          (∀ earlier ∈ before, (EventDecoder.completion provider outputKey).isLast earlier = false) →
          Json.ofBytes? payload = some event →
          (EventDecoder.completion provider outputKey).StatesUsage event →
          ∃ reason, provider.profile.ending.matchedReason? event outputKey = some reason ∧
            (stream.combined provider.profile.stopReasonKey).stopReason = some reason) := by
  have hd : EventDecoder.ofOptions provider .completion = .ok (.completion provider outputKey) := by
    simp only [EventDecoder.ofOptions, DecodeOptions.completion, h]
  obtain ⟨ho, hw⟩ := EventDecoder.stopReasonKey_ne h
  have kept : ((opened (.completion provider outputKey) source).combined
      provider.profile.stopReasonKey).stopReason
        = (((EventDecoder.completion provider outputKey).portion source).filterMap
            ((EventDecoder.completion provider outputKey).statedReason?
              provider.profile.stopReasonKey)).getLast? := by
    rw [combined, Tally.stopReason_ofChunks, items_opened, EventDecoder.reasons_portion ho hw]
  refine ⟨_, start_eq hd source, outcome_opened _ source, kept, ?_⟩
  rintro ⟨stops, finishes, he⟩ before payload event after rfl hb hj hu
  obtain ⟨fields, rfl, hp⟩ := EventDecoder.passedFields?_of_statesUsage hj hu
  obtain ⟨reason, hr⟩ := Option.isSome_iff_exists.mp ((Ending.endsAfter_eq ..).symm.trans hu.2.2)
  have hs : (EventDecoder.completion provider outputKey).statedReason?
      provider.profile.stopReasonKey (.event payload) = some reason := by
    rw [EventDecoder.statedReason?, hp]
    exact Provider.reasonText_of_matched he hr
  refine ⟨reason, hr, ?_⟩
  have hl := EventDecoder.isLast_of_statesUsage hj hu
  rw [kept, EventDecoder.portion_of_last hb hl, List.filterMap_append, List.filterMap_cons_some hs,
    List.filterMap_nil, List.getLast?_concat]

/-- A rule that reads the event itself: the reason that ends the stream, behind an event without one. -/
theorem stop_reason_kept_event :
    Provider.metaAI.profile.outputKey = some "generation" ∧
      ∃ stream, start .metaAI .completion
          [.event "\x7b\"generation\":\"a\",\"stop_reason\":null\x7d".toUTF8,
            .event "\x7b\"generation\":\"b\",\"stop_reason\":\"stop\"\x7d".toUTF8] = .ok stream ∧
        (stream.combined Provider.metaAI.profile.stopReasonKey).stopReason = some "stop" := by
  refine ⟨rfl, ?_⟩
  obtain ⟨stream, hs, -, -, hr⟩ := @stop_reason_kept .metaAI "generation" rfl
    [.event "\x7b\"generation\":\"a\",\"stop_reason\":null\x7d".toUTF8,
      .event "\x7b\"generation\":\"b\",\"stop_reason\":\"stop\"\x7d".toUTF8]
  obtain ⟨reason, hm, hc⟩ := hr ⟨_, _, rfl⟩ [_] _ _ [] rfl
    (List.forall_mem_singleton.mpr rfl) rfl ⟨⟨_, _, rfl, rfl⟩, ⟨_, _, _, rfl⟩, rfl⟩
  cases hm
  exact ⟨stream, hs, hc⟩

/-- A rule that reads the first output: its reason ends the stream, and the tally has none. -/
theorem first_output_reason_unreported :
    ∃ stream event,
      start .mistral .completion
        [.event "\x7b\"outputs\":[\x7b\"text\":\".\",\"stop_reason\":\"stop\"\x7d]\x7d".toUTF8]
          = .ok stream ∧
      Json.ofBytes? "\x7b\"outputs\":[\x7b\"text\":\".\",\"stop_reason\":\"stop\"\x7d]\x7d".toUTF8
        = some event ∧
      (EventDecoder.completion .mistral "outputs").StatesUsage event ∧
      Provider.mistral.profile.ending.matchedReason? event "outputs" = some "stop" ∧
      (stream.combined Provider.mistral.profile.stopReasonKey).stopReason = none :=
  ⟨_, _, rfl, rfl, ⟨⟨_, _, rfl, rfl⟩, ⟨_, _, _, rfl⟩, rfl⟩, rfl, rfl⟩

end StreamDecoder

end Colloquy
