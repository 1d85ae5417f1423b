import Colloquy.Stream.Event
import Mathlib.Control.Basic
import Mathlib.Data.Option.Basic
/-!
# The kinds of messages events

Events, blocks and deltas of the messages protocol are records tagged with their kind.  A tag must be a
string: under `type` in an object, or as the first item of an array.  An event of a kind outside the
protocol is read too, as one that ends the message.

Results:
* `Json.tagged?_eq_some`: the two forms of a tagged record.
* `MessagesEvent.ofJson?_endsMessage`: which events end a message.
-/
namespace Colloquy

theorem guarded_eq_some {p : Prop} [Decidable p] {x : Option α} {a : α} :
    Option.bind (guard p) (fun _ => x) = some a ↔ p ∧ x = some a := by
  by_cases h : p
  · simp [h]
  · have hg : (guard p : Option Unit) = none := if_neg h
    rw [hg]; simp [h]

namespace Record

@[simp] theorem fits_named (fields : Fields) (size : Nat) : (named fields).fits size = true := rfl

@[simp] theorem field?_named (fields : Fields) (position : Nat) (key : String) :
    (named fields).field? position key = Fields.get? fields key := rfl

end Record

namespace Json

theorem asString?_eq_some {value : Json} {text : String} :
    value.asString? = some text ↔ value = .str text := by
  cases value <;> simp [asString?]

/-- Whether a value is an object with a kind as its type, whatever else it holds, or an array of the kind
alone. -/
def IsOfKind (value : Json) (kind : String) : Prop :=
  value.get? "type" = some (.str kind) ∨ value = .arr [.str kind]

theorem tag?_eq_some {tag : Json} {kind : String} : tag? [] tag = some kind ↔ tag = .str kind := by
  cases tag <;> simp [tag?]

theorem tagged?_eq_some {value : Json} {kind : String} {record : Record} :
    value.tagged? [] = some (kind, record) ↔
      (∃ fields, value = .obj fields ∧ Fields.get? fields "type" = some (.str kind) ∧
        record = .named fields) ∨
      (∃ items, value = .arr (.str kind :: items) ∧ record = .ordered items) := by
  constructor
  · intro h
    unfold tagged? at h
    split at h
    · rename_i fields
      obtain ⟨k, hk, he⟩ := Option.map_eq_some_iff.mp h
      obtain ⟨tag, ht, hs⟩ := Option.bind_eq_some_iff.mp hk
      cases he
      rw [tag?_eq_some] at hs
      exact .inl ⟨fields, rfl, by rw [ht, hs], rfl⟩
    · rename_i tag items
      obtain ⟨k, hk, he⟩ := Option.map_eq_some_iff.mp h
      cases he
      rw [tag?_eq_some] at hk
      exact .inr ⟨items, by rw [hk], rfl⟩
    · cases h
  · rintro (⟨fields, rfl, ht, rfl⟩ | ⟨items, rfl, rfl⟩)
    · simp [tagged?, ht, tag?]
    · simp [tagged?, tag?]

theorem exists_fields {value member : Json} {key : String} (h : value.get? key = some member) :
    ∃ fields, value = .obj fields := by
  cases value with
  | obj fields => exact ⟨fields, rfl⟩
  | _ => cases h

theorem tagged?_obj {fields : Fields} {kind : String}
    (h : Fields.get? fields "type" = some (.str kind)) :
    (obj fields).tagged? [] = some (kind, .named fields) :=
  tagged?_eq_some.mpr (.inl ⟨fields, rfl, h, rfl⟩)

/-- A record that has no fields but its tag. -/
theorem isOfKind_iff {value : Json} {kind : String} :
    value.IsOfKind kind ↔ ∃ record, value.tagged? [] = some (kind, record) ∧ record.fits 0 := by
  constructor
  · rintro (h | rfl)
    · cases value with
      | obj fields => exact ⟨.named fields, tagged?_obj h, rfl⟩
      | _ => cases h
    · exact ⟨.ordered [], tagged?_eq_some.mpr (.inr ⟨[], rfl, rfl⟩), rfl⟩
  · rintro ⟨record, h, hf⟩
    rcases tagged?_eq_some.mp h with ⟨fields, rfl, ht, -⟩ | ⟨items, rfl, rfl⟩
    · exact .inl ht
    · have : items = [] := by simpa [Record.fits] using hf
      exact .inr (by rw [this])

end Json

namespace MessagesEvent

theorem ofJson?_obj {fields : Fields} {kind : String}
    (h : (Json.obj fields).get? "type" = some (.str kind)) :
    ofJson? (.obj fields) = ofFields? kind (.named fields) := by
  rw [ofJson?, Json.tagged?_obj h]
  rfl

/-- The kinds of events of the protocol. -/
def kinds : List String :=
  ["message_start", "content_block_start", "content_block_delta", "content_block_stop",
    "message_delta", "message_stop", "ping"]

/-- Whether an event ends its message: it says so, or its kind is not one of the protocol. -/
def EndsMessage (event : Json) : Prop :=
  ∃ kind, event.IsOfKind kind ∧ (kind = "message_stop" ∨ kind ∉ kinds)

def endsMessage : MessagesEvent → Bool
  | messageStop | other => true
  | messageStart | blockStart _ _ | blockDelta _ _ | blockStop | messageDelta _ _ | ping => false

theorem ofFields?_endsMessage {kind : String} {record : Record} :
    (∃ event, ofFields? kind record = some event ∧ event.endsMessage = true) ↔
      record.fits 0 = true ∧ (kind = "message_stop" ∨ kind ∉ kinds) := by
  constructor
  · rintro ⟨event, h, he⟩
    unfold ofFields? at h
    split at h <;> simp only [Option.bind_eq_bind, guarded_eq_some] at h
    case h_6 => exact ⟨h.1, .inl rfl⟩
    case h_8 h1 h2 h3 h4 h5 h6 h7 =>
      refine ⟨h.1, .inr ?_⟩
      simp only [kinds, List.mem_cons, List.not_mem_nil, or_false, not_or]
      exact ⟨h1, h2, h3, h4, h5, h6, h7⟩
    all_goals
      simp only [Option.bind_eq_some_iff, Option.some.injEq] at h
      grind [endsMessage]
  · rintro ⟨hf, rfl | hk⟩
    · exact ⟨messageStop, guarded_eq_some.mpr ⟨hf, rfl⟩, rfl⟩
    · refine ⟨other, ?_, rfl⟩
      unfold ofFields?
      split
      case h_8 => exact guarded_eq_some.mpr ⟨hf, rfl⟩
      all_goals exact absurd (by decide) hk

/-- The events that are read as the end of a message are those of a kind that ends it. -/
theorem ofJson?_endsMessage {event : Json} :
    (∃ parsed, ofJson? event = some parsed ∧ parsed.endsMessage = true) ↔ EndsMessage event := by
  constructor
  · rintro ⟨parsed, h, he⟩
    obtain ⟨⟨kind, record⟩, ht, hf⟩ := Option.bind_eq_some_iff.mp h
    obtain ⟨hfit, hk⟩ := ofFields?_endsMessage.mp ⟨parsed, hf, he⟩
    exact ⟨kind, Json.isOfKind_iff.mpr ⟨record, ht, hfit⟩, hk⟩
  · rintro ⟨kind, hkind, hk⟩
    obtain ⟨record, ht, hfit⟩ := Json.isOfKind_iff.mp hkind
    obtain ⟨parsed, hf, he⟩ := ofFields?_endsMessage.mpr ⟨hfit, hk⟩
    exact ⟨parsed, by simp [ofJson?, ht, hf], he⟩

end MessagesEvent

end Colloquy
