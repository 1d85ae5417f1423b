import Colloquy.Invoker.Exchange
import Colloquy.Proofs.Result
import Mathlib.Order.Bounds.Basic
/-!
# The first stop sequence

Where a text is cut depends on all stop sequences together: in front of the first place at which any of them
stands.  They may overlap, stand inside one another and come in any order.

Results:
* `beforeStops_ends`, `beforeStops_prefix_of_stop`: a cut text ends at a stop sequence, and none stands
  earlier.
* `not_stopsAt_cutAtStops`: no stop sequence is left in a cut text.
* `Invoker.invoke_eq_ok_iff`: a complete reply is the one that was read, with its text cut.
* `cut_at_first_stop`: where a text ends, and what of a reply is cut.
-/
namespace Colloquy

section

variable {stops : List (List Char)}

/-! ## Texts as characters -/

theorem stopsHere_iff {text : List Char} :
    stopsHere stops text = true ↔ ∃ stop ∈ stops, stop ≠ [] ∧ stop <+: text := by
  simp only [stopsHere, List.any_eq_true, Bool.and_eq_true, Bool.not_eq_true', List.isEmpty_eq_false_iff,
    List.isPrefixOf_iff_prefix]

theorem beforeStops_ends (stops : List (List Char)) (text : List Char) :
    ∃ rest, text = beforeStops stops text ++ rest ∧ (rest = [] ∨ stopsHere stops rest = true) := by
  induction text with
  | nil => exact ⟨[], rfl, .inl rfl⟩
  | cons c text ih =>
    rw [beforeStops]
    split
    · rename_i hs
      exact ⟨c :: text, rfl, .inr hs⟩
    · obtain ⟨rest, he, hr⟩ := ih
      exact ⟨rest, congrArg (c :: ·) he, hr⟩

/-- No stop sequence starts inside a text that was cut. -/
theorem beforeStops_prefix_of_stop (before : List Char) {rest : List Char}
    (h : stopsHere stops rest = true) : beforeStops stops (before ++ rest) <+: before := by
  induction before with
  | nil =>
    obtain ⟨stop, -, hn, hp⟩ := stopsHere_iff.mp h
    cases rest with
    | nil => exact absurd (List.prefix_nil.mp hp) hn
    | cons c rest => exact List.prefix_nil.mpr (if_pos h)
  | cons c before ih =>
    rw [List.cons_append, beforeStops]
    split
    · exact List.nil_prefix
    · exact List.cons_prefix_cons.mpr ⟨rfl, ih⟩

/-- Stop sequences that start the same texts cut every text alike. -/
theorem beforeStops_congr {others : List (List Char)}
    (h : ∀ text, stopsHere others text = stopsHere stops text) (text : List Char) :
    beforeStops others text = beforeStops stops text := by
  induction text with
  | nil => rfl
  | cons c text ih => rw [beforeStops, beforeStops, h, ih]

end

/-! ## Texts and their offsets -/

/-- Whether a stop sequence that is not empty stands in a text, at an offset in bytes. -/
def StopsAt (stops : List String) (text : String) (offset : Nat) : Prop :=
  ∃ stop ∈ stops, stop ≠ "" ∧
    ∃ before after, text = before ++ stop ++ after ∧ before.utf8ByteSize = offset

section

variable {stops : List String} {text : String} {offset : Nat}

theorem stopsHere_toList {rest : List Char} :
    stopsHere (stops.map String.toList) rest = true ↔
      ∃ stop ∈ stops, stop ≠ "" ∧ stop.toList <+: rest := by
  rw [stopsHere_iff]
  constructor
  · rintro ⟨_, hm, hn, hp⟩
    obtain ⟨stop, hs, rfl⟩ := List.mem_map.mp hm
    exact ⟨stop, hs, mt String.toList_eq_nil_iff.mpr hn, hp⟩
  · rintro ⟨stop, hs, hn, hp⟩
    exact ⟨stop.toList, List.mem_map_of_mem hs, mt String.toList_eq_nil_iff.mp hn, hp⟩

/-- Behind a stop sequence there is room for it. -/
theorem StopsAt.lt (h : StopsAt stops text offset) : offset < text.utf8ByteSize := by
  obtain ⟨stop, -, hn, before, after, rfl, rfl⟩ := h
  have hs : stop.utf8ByteSize ≠ 0 := mt String.utf8ByteSize_eq_zero_iff.mp hn
  rw [String.utf8ByteSize_append, String.utf8ByteSize_append]
  omega

theorem StopsAt.append (h : StopsAt stops text offset) (rest : String) :
    StopsAt stops (text ++ rest) offset := by
  obtain ⟨stop, hs, hn, before, after, rfl, ho⟩ := h
  exact ⟨stop, hs, hn, before, after ++ rest, String.append_assoc .., ho⟩

/-- A cut text is the whole text, or ends where a stop sequence stands. -/
theorem cutAtStops_ends (stops : List String) (text : String) :
    ∃ rest, text = cutAtStops stops text ++ rest ∧
      (rest = "" ∨ StopsAt stops text (cutAtStops stops text).utf8ByteSize) := by
  obtain ⟨rest, he, hr⟩ := beforeStops_ends (stops.map String.toList) text.toList
  have ht : text = cutAtStops stops text ++ String.ofList rest := by
    rw [cutAtStops, ← String.ofList_append, ← he, String.ofList_toList]
  refine ⟨String.ofList rest, ht, hr.imp (fun hr => by rw [hr]) fun hr => ?_⟩
  obtain ⟨stop, hs, hn, after, rfl⟩ := stopsHere_toList.mp hr
  refine ⟨stop, hs, hn, cutAtStops stops text, String.ofList after, ?_, rfl⟩
  rw [String.ofList_append, String.ofList_toList, ← String.append_assoc] at ht
  exact ht

theorem cutAtStops_le_of_stopsAt (h : StopsAt stops text offset) :
    (cutAtStops stops text).utf8ByteSize ≤ offset := by
  obtain ⟨stop, hs, hn, before, after, rfl, rfl⟩ := h
  have hh : stopsHere (stops.map String.toList) (stop.toList ++ after.toList) = true :=
    stopsHere_toList.mpr ⟨stop, hs, hn, List.prefix_append ..⟩
  obtain ⟨rest, hr⟩ := beforeStops_prefix_of_stop before.toList hh
  have hb : before = cutAtStops stops (before ++ stop ++ after) ++ String.ofList rest := by
    rw [cutAtStops, String.toList_append, String.toList_append, List.append_assoc, ← String.ofList_append,
      hr, String.ofList_toList]
  rw [hb, String.utf8ByteSize_append, ← hb]
  exact Nat.le_add_right ..

theorem not_stopsAt_cutAtStops (stops : List String) (text : String) (offset : Nat) :
    ¬ StopsAt stops (cutAtStops stops text) offset := by
  intro h
  obtain ⟨rest, ht, -⟩ := cutAtStops_ends stops text
  have hl : StopsAt stops text offset := by
    rw [ht]
    exact h.append rest
  exact absurd h.lt (Nat.not_lt.mpr (cutAtStops_le_of_stopsAt hl))

theorem cutAtStops_eq_self (h : ∀ offset, ¬ StopsAt stops text offset) : cutAtStops stops text = text := by
  obtain ⟨rest, ht, rfl | hs⟩ := cutAtStops_ends stops text
  · rw [String.append_empty] at ht
    exact ht.symm
  · exact absurd hs (h _)

/-- Only the set of the stop sequences that are not empty counts. -/
theorem cutAtStops_congr {others : List String} (h : ∀ stop, stop ≠ "" → (stop ∈ others ↔ stop ∈ stops))
    (text : String) : cutAtStops others text = cutAtStops stops text := by
  refine congrArg String.ofList (beforeStops_congr (fun rest => ?_) _)
  rw [Bool.eq_iff_iff, stopsHere_toList, stopsHere_toList]
  refine exists_congr fun stop => and_congr_left fun hs => h stop hs.1

end

namespace Invoker

/-- A complete reply is the one that was read from the response, with its text cut. -/
theorem invoke_eq_ok_iff {invoker : Invoker} {transport : Transport} {call : Call} {reply : Reply} :
    (invoker.invoke transport call).result = .ok reply ↔
      ∃ prepared output uncut, invoker.prepare call false = .ok prepared ∧
        transport.invoke prepared.request = .ok output ∧
        Reply.parse invoker.provider output.body output.headers = .ok uncut ∧
        reply = { uncut with text := cutAtStops call.stops uncut.text } := by
  constructor
  · intro h
    rw [invoke] at h
    cases hp : invoker.prepare call false with
    | error failure => rw [hp] at h; cases h
    | ok prepared =>
      rw [hp] at h
      simp only at h
      cases ho : transport.invoke prepared.request with
      | error failure => rw [ho] at h; cases h
      | ok output =>
        rw [ho, receive] at h
        cases hr : invoker.readReply output call.stops with
        | error failure => rw [hr] at h; cases h
        | ok read =>
          rw [hr] at h
          cases h
          obtain ⟨uncut, hu, rfl⟩ := exists_of_map hr
          exact ⟨prepared, output, uncut, rfl, ho, hu, rfl⟩
  · rintro ⟨prepared, output, uncut, hp, ho, hu, rfl⟩
    rw [invoke, hp]
    simp only
    rw [ho, receive, readReply, hu]
    rfl

end Invoker

/-- A text ends in front of the first place at which one of the stop sequences stands, and is left alone if
none stands in it.  So none is left in it, it is not cut again, and the order of the stop sequences does not
matter.  In a complete reply it is the text that is cut, and nothing else. -/
theorem cut_at_first_stop (stops : List String) (text : String) :
    (∃ rest, text = cutAtStops stops text ++ rest) ∧
    (∀ offset, StopsAt stops text offset →
      IsLeast {first | StopsAt stops text first} (cutAtStops stops text).utf8ByteSize) ∧
    ((∀ offset, ¬ StopsAt stops text offset) → cutAtStops stops text = text) ∧
    (∀ offset, ¬ StopsAt stops (cutAtStops stops text) offset) ∧
    cutAtStops stops (cutAtStops stops text) = cutAtStops stops text ∧
    (∀ others : List String, (∀ stop, stop ≠ "" → (stop ∈ others ↔ stop ∈ stops)) →
      cutAtStops others text = cutAtStops stops text) ∧
    ∀ (invoker : Invoker) (transport : Transport) (call : Call) (reply : Reply),
      (invoker.invoke transport call).result = .ok reply ↔
        ∃ prepared output uncut, invoker.prepare call false = .ok prepared ∧
          transport.invoke prepared.request = .ok output ∧
          Reply.parse invoker.provider output.body output.headers = .ok uncut ∧
          reply = { uncut with text := cutAtStops call.stops uncut.text } := by
  have gone := not_stopsAt_cutAtStops stops text
  obtain ⟨rest, ht, hr⟩ := cutAtStops_ends stops text
  refine ⟨⟨rest, ht⟩, fun offset h => ?_, cutAtStops_eq_self, gone, cutAtStops_eq_self gone,
    fun others h => cutAtStops_congr h text, fun _ _ _ _ => Invoker.invoke_eq_ok_iff⟩
  refine ⟨hr.resolve_left fun hn => ?_, fun first => cutAtStops_le_of_stopsAt⟩
  -- a stop sequence stands in the text, and none in what is left of it
  rw [hn, String.append_empty] at ht
  exact gone offset (ht ▸ h)

/-- The sequence that stands first is neither the first of the list nor the longest, and another one overlaps
it. -/
theorem cut_at_first_stop_overlapping :
    StopsAt ["(c", "", "b(", "d", "d"] "ab(c d" 1 ∧
      IsLeast {first | StopsAt ["(c", "", "b(", "d", "d"] "ab(c d" first} 1 ∧
      cutAtStops ["(c", "", "b(", "d", "d"] "ab(c d" = "a" ∧
      cutAtStops ["d", "b(", "(c"] "ab(c d" = "a" ∧
      (∀ offset, ¬ StopsAt ["(c", "", "b(", "d", "d"] "a" offset) ∧
      cutAtStops ["(c", "", "b(", "d", "d"] "a" = "a" := by
  have hs : StopsAt ["(c", "", "b(", "d", "d"] "ab(c d" 1 :=
    ⟨"b(", by decide, by decide, "a", "c d", by decide, by decide⟩
  have he : cutAtStops ["(c", "", "b(", "d", "d"] "ab(c d" = "a" := by decide
  obtain ⟨-, least, -, gone, -, order, -⟩ := cut_at_first_stop ["(c", "", "b(", "d", "d"] "ab(c d"
  rw [he] at least gone order
  refine ⟨hs, least 1 hs, he, order _ fun stop hn => ?_, gone, ?_⟩
  · grind
  · exact (cut_at_first_stop ["(c", "", "b(", "d", "d"] "a").2.2.1 gone

end Colloquy
