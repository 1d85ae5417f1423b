import Colloquy.Proofs.Stream.Run
/-!
# Completion events that are passed on

A completion event is passed on if it is an object, holds the text of its provider and does not end the stream
before.  It then becomes its text, its metadata if there is any, and the usage if the stream ends behind it.
Its metadata are its own members, all but a few.

Results:
* `EventDecoder.itemsOf_passage`: what an item of the source becomes, by whether it is passed on.
* `EventDecoder.get?_metadataOf`: the members that stay in the metadata.
-/
namespace Colloquy

theorem Fields.get?_filter {keeps : String → Bool} {key : String} (h : keeps key = true)
    (fields : Fields) : get? (fields.filter fun member => keeps member.1) key = get? fields key := by
  induction fields with
  | nil => rfl
  | cons member rest ih =>
    obtain ⟨k, v⟩ := member
    by_cases hk : k = key
    · subst hk; simp [h, get?]
    · cases hd : keeps k <;> simp [hd, get?, hk, ih]

namespace EventDecoder

theorem get?_metadataOf {outputKey key : String} (ho : key ≠ outputKey) (hw : key ∉ withheldKeys)
    (fields : Fields) : Fields.get? (metadataOf outputKey fields) key = Fields.get? fields key := by
  refine @Fields.get?_filter (fun k => k != outputKey && !withheldKeys.contains k) key ?_ fields
  simp [ho, hw]

/-- The members of a completion event, if it is passed on. -/
def passedMembers? (provider : Provider) (outputKey : String) : Json → Option Fields
  | .obj fields =>
    if provider.profile.ending.endsBefore (.obj fields) outputKey then none
    else (outputText? provider.profile.outputWrapped outputKey fields).map fun _ => fields
  | .null | .bool _ | .int _ | .float _ | .str _ | .arr _ => none

/-- The members of an item of the source, if it is a completion event that is passed on. -/
def passedFields? (decoder : EventDecoder) : SourceItem → Option Fields
  | .event payload =>
    match decoder with
    | completion provider outputKey =>
      (Json.ofBytes? payload).bind (passedMembers? provider outputKey)
    | messages _ => none
  | .empty | .failure _ | .breakdown => none

/-- The chunk for the metadata of a completion event. -/
def metadataChunks (outputKey : String) (fields : Fields) : List Chunk :=
  if (metadataOf outputKey fields).isEmpty then [] else [.metadata (metadataOf outputKey fields)]

/-- The chunk for the usage of an event, if the stream ends behind it. -/
def usageChunks (ends : Bool) (event : Json) : List Chunk :=
  if ends then [.usage (Metrics.ofEvent event).usage] else []

/-- What an item of the source can become, given the members of the event that is passed on. -/
inductive Passage (outputKey : String) : Option Fields → List Item → Prop where
  | passedOn (fields : Fields) (text : String) (ends : Bool) :
      Passage outputKey (some fields)
        ((.text text :: (metadataChunks outputKey fields ++ usageChunks ends (.obj fields))).map .ok)
  | silent : Passage outputKey none []
  | fails (failure : Failure) : Passage outputKey none [.error failure]

theorem decodeCompletion_passage (provider : Provider) (outputKey : String) (event : Json) :
    Passage outputKey (passedMembers? provider outputKey event)
      (match decodeCompletion provider outputKey event with
        | .ok decoded => decoded.chunks.map .ok
        | .error failure => [.error failure]) := by
  unfold decodeCompletion
  cases hb : provider.profile.ending.endsBefore event outputKey with
  | true =>
    have hp : passedMembers? provider outputKey event = none := by
      cases event with
      | obj fields => exact if_pos hb
      | _ => rfl
    simp only [hp, hb, if_true]
    exact .silent
  | false =>
    cases event with
    | obj fields =>
      simp only [passedMembers?, hb, Json.asObject?, Bool.false_eq_true, if_false]
      cases outputText? provider.profile.outputWrapped outputKey fields with
      | none => exact .fails _
      | some text =>
        have hp := @Passage.passedOn outputKey fields text
        cases provider.profile.ending.endsAfter (.obj fields) outputKey with
        | true => exact hp true
        | false =>
          have hn := hp false
          rwa [usageChunks, if_neg Bool.false_ne_true, List.append_nil] at hn
    | _ => simp only [hb, Json.asObject?, Bool.false_eq_true, if_false]; exact .fails _

/-- What an item of a source becomes, by whether it is a completion event that is passed on. -/
theorem itemsOf_passage (provider : Provider) (outputKey : String) (item : SourceItem) :
    Passage outputKey ((completion provider outputKey).passedFields? item)
      ((completion provider outputKey).itemsOf item) := by
  cases item with
  | empty => exact .silent
  | failure failure => exact .fails _
  | breakdown => exact .fails _
  | event payload =>
    simp only [itemsOf, passedFields?, decode]
    cases Json.ofBytes? payload with
    | none => exact .fails _
    | some event => exact decodeCompletion_passage provider outputKey event

end EventDecoder

end Colloquy
