import Colloquy.Proofs.Json.Reading
import Colloquy.Proofs.Stream.Completion
import Colloquy.Proofs.Stream.Kind
/-!
# What becomes of a completion event

A completion event ends its stream unread, is refused, or is passed on, and which of them is settled by the
event alone.  What is asked of it is a matter of paths: the text is to stand at the end of one, the flag, the
final text or the reason for stopping at the end of another.

**Metadata.** An event that is passed on keeps all its members but four, the text and three counts and times.
The members of an event that is read stand in the order of their keys, every key once, and so do those of its
metadata.

Results:
* `Ending.endsBefore_iff`, `Ending.endsAfter_iff`: the rules by which streams end, as what stands at paths.
* `EventDecoder.isMetadataOf_metadataOf`: the members that are kept.
* `EventDecoder.one_fate`: a completion event has exactly one fate, and ends its stream unread exactly by the
  rule.
-/
namespace Colloquy

/-! ## What stands at a path -/

namespace Json

variable {found : Option Json}

theorem bind_asString?_eq_some {text : String} :
    found.bind asString? = some text ↔ found = some (.str text) := by
  simp [Option.bind_eq_some_iff, asString?_eq_some]

theorem bind_asBool?_eq_some {flag : Bool} :
    found.bind asBool? = some flag ↔ found = some (.bool flag) := by
  cases found with
  | none => simp
  | some value => cases value <;> simp [asBool?]

theorem lookup_cons (value : Json) (step : Step) (path : List Step) :
    value.lookup (step :: path) = (step.follow value).bind fun next => next.lookup path :=
  List.foldlM_cons ..

theorem lookup_singleton (value : Json) (step : Step) : value.lookup [step] = step.follow value :=
  (lookup_cons value step []).trans (Option.bind_fun_some _)

/-- What stands under a key in the first item of an array. -/
theorem lookup_firstItem (value : Json) (arrayKey key : String) :
    value.lookup [.key arrayKey, .index 0, .key key]
      = ((value.get? arrayKey).bind fun items => items.item? 0).bind fun item => item.get? key := by
  rw [lookup_cons, Option.bind_assoc]
  refine congrArg (value.get? arrayKey).bind (funext fun items => ?_)
  rw [lookup_cons]
  exact congrArg (items.item? 0).bind (funext fun item => lookup_singleton item (.key key))

end Json

namespace Ending

/-- Whether an event ends its stream unread: it is the final text, or has the flag set or the final text as
its output. -/
def MatchesBefore (ending : Ending) (event : Json) (outputKey : String) : Prop :=
  match ending with
  | sentinel text => event = .str text
  | flagged flag text =>
    event.lookup [.key flag] = some (.bool true) ∨ event.lookup [.key outputKey] = some (.str text)
  | exhausted | reason _ _ _ => False

/-- Where an event has a reason for stopping. -/
def reasonPath (scope : ReasonScope) (outputKey key : String) : List Step :=
  match scope with
  | .event => [.key key]
  | .firstOutput => [.key outputKey, .index 0, .key key]

/-- Whether an event ends its stream once it has been passed on: it has one of the reasons. -/
def MatchesAfter (ending : Ending) (event : Json) (outputKey : String) : Prop :=
  match ending with
  | reason scope stopReasons finishReasons =>
    (∃ reason ∈ stopReasons,
      event.lookup (reasonPath scope outputKey "stop_reason") = some (.str reason)) ∨
    ∃ reason ∈ finishReasons,
      event.lookup (reasonPath scope outputKey "finish_reason") = some (.str reason)
  | exhausted | sentinel _ | flagged _ _ => False

variable {ending : Ending} {event : Json} {outputKey : String}

theorem endsBefore_iff :
    ending.endsBefore event outputKey = true ↔ ending.MatchesBefore event outputKey := by
  cases ending with
  | exhausted | reason => exact iff_of_false Bool.false_ne_true id
  | sentinel text => simp [endsBefore, MatchesBefore, Json.asString?_eq_some]
  | flagged flag text =>
    rw [endsBefore, Bool.or_eq_true, beq_iff_eq, Json.bind_asString?_eq_some, Option.getD_eq_iff]
    simp only [Json.bind_asBool?_eq_some, MatchesBefore, Json.lookup_singleton]
    simp [Step.follow]

theorem namesReason_iff {holder : Json} {key : String} {accepted : List String} :
    namesReason holder key accepted = true ↔
      ∃ reason ∈ accepted, holder.get? key = some (.str reason) := by
  unfold namesReason
  split
  · rename_i text ht
    rw [Json.bind_asString?_eq_some] at ht
    simp [ht]
  · rename_i hn
    refine iff_of_false Bool.false_ne_true ?_
    rintro ⟨reason, -, hr⟩
    rw [hr] at hn
    cases hn

/-- What the holder of the reasons has under a key is what stands at their path. -/
theorem bind_reasonHolder? (scope : ReasonScope) (event : Json) (outputKey key : String) :
    (reasonHolder? scope event outputKey).bind (fun holder => holder.get? key)
      = event.lookup (reasonPath scope outputKey key) := by
  cases scope with
  | event => exact (Json.lookup_singleton event (.key key)).symm
  | firstOutput => exact (Json.lookup_firstItem event outputKey key).symm

theorem endsAfter_iff :
    ending.endsAfter event outputKey = true ↔ ending.MatchesAfter event outputKey := by
  cases ending with
  | exhausted | sentinel | flagged => exact iff_of_false Bool.false_ne_true id
  | reason scope stopReasons finishReasons =>
    rw [endsAfter, MatchesAfter, ← bind_reasonHolder?, ← bind_reasonHolder?]
    cases reasonHolder? scope event outputKey with
    | none => simp
    | some holder => simp [namesReason_iff]

end Ending

namespace EventDecoder

/-- Where an event has its text: under the output key, or in the first item there. -/
def textPath (wrapped : Bool) (outputKey : String) : List Step :=
  if wrapped then [.key outputKey, .index 0, .key "text"] else [.key outputKey]

theorem outputText?_eq_some {wrapped : Bool} {outputKey text : String} {fields : Fields} :
    outputText? wrapped outputKey fields = some text ↔
      (Json.obj fields).lookup (textPath wrapped outputKey) = some (.str text) := by
  rw [outputText?, Json.bind_asString?_eq_some]
  cases wrapped with
  | false =>
    rw [textPath, if_neg Bool.false_ne_true, if_neg Bool.false_ne_true, Json.lookup_singleton]
    rfl
  | true =>
    rw [textPath, if_pos rfl, if_pos rfl, Json.lookup_firstItem]
    rfl

/-! ## Metadata -/

/-- Whether metadata are those of an event: its members but for four keys, each with its value, in the order
of their keys and every key once. -/
structure IsMetadataOf (metadata : Fields) (outputKey : String) (fields : Fields) : Prop where
  mem_iff : ∀ key value, (key, value) ∈ metadata ↔
    (key, value) ∈ fields ∧ key ∉ [outputKey, "prompt_token_count", "generation_token_count", "created"]
  sorted : Fields.Sorted metadata

theorem isMetadataOf_metadataOf (outputKey : String) {fields : Fields} (h : Fields.Sorted fields) :
    IsMetadataOf (metadataOf outputKey fields) outputKey fields where
  mem_iff key value := by simp [metadataOf, withheldKeys, List.mem_filter]
  sorted := List.Pairwise.filter _ h

/-! ## Fates -/

/-- What can become of a completion event. -/
inductive Fate where
  /-- The stream ends before it. -/
  | unread
  /-- It cannot be decoded. -/
  | refused
  /-- It becomes its text and what goes with it. -/
  | passedOn
deriving DecidableEq, Repr

/-- What an event that is passed on becomes: its text, its metadata if there is any, and the usage that it
states if the stream ends behind it. -/
def PassedOnAs (provider : Provider) (outputKey : String) (event : Json) (decoded : Decoded) : Prop :=
  ∃ fields text metadata, event = .obj fields ∧
    event.lookup (textPath provider.profile.outputWrapped outputKey) = some (.str text) ∧
    IsMetadataOf metadata outputKey fields ∧
    (decoded.terminal = true ↔ provider.profile.ending.MatchesAfter event outputKey) ∧
    decoded.chunks = .text text ::
      ((if metadata.isEmpty then [] else [.metadata metadata]) ++
        if decoded.terminal then [.usage (Metrics.ofEvent event).usage] else [])

namespace Fate

/-- Whether a completion event has a fate, given what decoding it comes to. -/
def Holds (provider : Provider) (outputKey : String) (event : Json) (result : Except Failure Decoded) :
    Fate → Prop
  | unread =>
    provider.profile.ending.MatchesBefore event outputKey ∧ result = .ok ⟨[], true⟩
  | refused =>
    ((∀ fields, event ≠ .obj fields) ∧ result = .error (.decode (.eventNotObject provider))) ∨
    ((∃ fields, event = .obj fields) ∧
      (∀ text, event.lookup (textPath provider.profile.outputWrapped outputKey) ≠ some (.str text)) ∧
      result = .error (.decode (.eventTextMissing provider outputKey)))
  | passedOn => ∃ decoded, PassedOnAs provider outputKey event decoded ∧ result = .ok decoded

/-- The fate that a result shows: only an event that is passed on has chunks. -/
def shownBy : Except Failure Decoded → Fate
  | .error _ => refused
  | .ok ⟨[], _⟩ => unread
  | .ok ⟨_ :: _, _⟩ => passedOn

variable {provider : Provider} {outputKey : String} {event : Json} {result : Except Failure Decoded}

theorem Holds.eq_shownBy {fate : Fate} (h : fate.Holds provider outputKey event result) :
    fate = shownBy result := by
  cases fate with
  | unread =>
    obtain ⟨-, rfl⟩ := h
    rfl
  | refused => obtain ⟨-, rfl⟩ | ⟨-, -, rfl⟩ := h <;> rfl
  | passedOn =>
    obtain ⟨⟨chunks, terminal⟩, ⟨fields, text, metadata, -, -, -, -, hc⟩, rfl⟩ := h
    -- the chunks start with the text
    dsimp only at hc
    rw [hc]
    rfl

end Fate

section

variable {provider : Provider} {outputKey : String} {event : Json}

/-- The rule comes first: by it an event is unread, whatever else it holds. -/
theorem unread_of_matchesBefore (h : provider.profile.ending.MatchesBefore event outputKey) :
    Fate.unread.Holds provider outputKey event (decodeCompletion provider outputKey event) := by
  refine ⟨h, ?_⟩
  rw [decodeCompletion]
  exact if_pos (Ending.endsBefore_iff.mpr h)

theorem passedOnAs_of_text {fields : Fields} {text : String} (hs : Fields.Sorted fields)
    (ht : (Json.obj fields).lookup (textPath provider.profile.outputWrapped outputKey) = some (.str text)) :
    let ends := provider.profile.ending.endsAfter (.obj fields) outputKey
    PassedOnAs provider outputKey (.obj fields)
      ⟨.text text :: (metadataChunks outputKey fields ++ usageChunks ends (.obj fields)), ends⟩ :=
  ⟨fields, text, metadataOf outputKey fields, rfl, ht, isMetadataOf_metadataOf outputKey hs,
    Ending.endsAfter_iff, rfl⟩

/-- Any other event is refused or passed on, by whether it has a text. -/
theorem exists_fate_of_not_matchesBefore (hs : event.InOrder)
    (h : ¬ provider.profile.ending.MatchesBefore event outputKey) :
    ∃ fate : Fate, fate.Holds provider outputKey event (decodeCompletion provider outputKey event) := by
  have hb : provider.profile.ending.endsBefore event outputKey = false := by
    rw [← Bool.not_eq_true, Ending.endsBefore_iff]
    exact h
  cases event with
  | obj fields =>
    cases ht : outputText? provider.profile.outputWrapped outputKey fields with
    | none =>
      refine ⟨.refused, .inr ⟨⟨fields, rfl⟩, fun text hl => ?_, ?_⟩⟩
      · rw [← outputText?_eq_some, ht] at hl
        cases hl
      · simp only [decodeCompletion, hb, Json.asObject?, ht, Bool.false_eq_true, if_false]
    | some text =>
      refine ⟨.passedOn, _, passedOnAs_of_text (hs fields rfl) (outputText?_eq_some.mp ht), ?_⟩
      simp only [decodeCompletion, hb, Json.asObject?, ht, Bool.false_eq_true, if_false]
      cases provider.profile.ending.endsAfter (.obj fields) outputKey with
      | true => rfl
      | false => simp [usageChunks, metadataChunks, Decoded.emit]
  | null | bool | int | float | str | arr =>
    refine ⟨.refused, .inl ⟨?_, ?_⟩⟩
    · rintro fields ⟨⟩
    · simp only [decodeCompletion, hb, Json.asObject?, Bool.false_eq_true, if_false]

end

/-- A completion event of a provider that streams in this format has exactly one fate.  The stream ends before
it; or it cannot be decoded, since it is no object or has no text where the provider puts it; or it becomes
this text, then its metadata unless there is none, and then, exactly if it states a reason for which the
stream ends behind it, the usage of its metrics.  The stream ends before it exactly by the rule, which comes
first. -/
theorem one_fate {provider : Provider} {outputKey : String} {payload : ByteArray} {event : Json}
    (ho : provider.profile.outputKey = some outputKey) (hp : Json.ofBytes? payload = some event)
    (coerceToText : Bool) :
    ∃ decoder, ofOptions provider ⟨.completion, coerceToText⟩ = .ok decoder ∧
      (∃! fate : Fate, fate.Holds provider outputKey event (decoder.decode payload)) ∧
      (Fate.unread.Holds provider outputKey event (decoder.decode payload) ↔
        provider.profile.ending.MatchesBefore event outputKey) := by
  have hd : ofOptions provider ⟨.completion, coerceToText⟩ = .ok (.completion provider outputKey) := by
    simp only [ofOptions, ho]
  have decoded : (completion provider outputKey).decode payload
      = decodeCompletion provider outputKey event := by
    rw [decode, hp]
    rfl
  have fates : ∃ fate : Fate,
      fate.Holds provider outputKey event (decodeCompletion provider outputKey event) := by
    by_cases h : provider.profile.ending.MatchesBefore event outputKey
    · exact ⟨.unread, unread_of_matchesBefore h⟩
    · exact exists_fate_of_not_matchesBefore (Json.ofBytes?_inOrder hp) h
  obtain ⟨fate, hf⟩ := fates
  refine ⟨_, hd, ?_, ?_⟩ <;> rw [decoded]
  · exact ⟨fate, hf, fun other h => h.eq_shownBy.trans hf.eq_shownBy.symm⟩
  · exact ⟨fun h => h.1, unread_of_matchesBefore⟩

/-- An event that states a reason for stopping beside its text: it is passed on, and the stream ends behind
it. -/
theorem one_fate_reason :
    let payload :=
      "\x7b\"outputs\":[\x7b\"text\":\".\",\"stop_reason\":\"stop\"\x7d],\"id\":7,\"created\":1\x7d".toUTF8
    let event : Json := .obj [("created", .int 1), ("id", .int 7),
      ("outputs", .arr [.obj [("stop_reason", .str "stop"), ("text", .str ".")]])]
    Provider.mistral.profile.outputKey = some "outputs" ∧ Json.ofBytes? payload = some event ∧
      ∃ decoder, ofOptions .mistral .completion = .ok decoder ∧
        ∃ decoded, decoder.decode payload = .ok decoded ∧
          PassedOnAs .mistral "outputs" event decoded ∧ decoded.terminal = true := by
  intro payload event
  have hp : Json.ofBytes? payload = some event := by decide +kernel
  obtain ⟨decoder, hd, ⟨fate, hf, -⟩, -⟩ := @one_fate .mistral "outputs" payload event rfl hp true
  refine ⟨rfl, hp, decoder, hd, ?_⟩
  cases fate with
  | unread => exact hf.1.elim
  | refused =>
    obtain ⟨hn, -⟩ | ⟨-, hn, -⟩ := hf
    · exact absurd rfl (hn _)
    · exact absurd rfl (hn ".")
  | passedOn =>
    obtain ⟨decoded, ⟨fields, text, metadata, he, ht, hm, terminal, hc⟩, hr⟩ := hf
    have ends : decoded.terminal = true := terminal.mpr (.inl ⟨"stop", by decide, rfl⟩)
    exact ⟨decoded, hr, ⟨fields, text, metadata, he, ht, hm, terminal, hc⟩, ends⟩

/-- The rule comes before the text. -/
example : decodeCompletion .cohere "text" (.obj [("is_finished", .bool true)]) = .ok ⟨[], true⟩ := by decide

end EventDecoder

end Colloquy
