import Colloquy.Proofs.Result
import Colloquy.Proofs.Stream.Shown
import Mathlib.Data.List.Induction
/-!
# Fragments of interleaved tool calls

The fragments of several calls may arrive in any order.  What becomes of a call depends on the fragments of
its own index alone, and the calls stand in the order in which their indices were first seen.

Results:
* `ToolCalls.calls_eq`: the calls that are gathered, one for each index.
* `CallFragment.finish_pending_ok`, `CallFragment.finish_pending_error`: when one call is complete, and what
  it lacks otherwise.
* `ToolCalls.gathered_by_index`: arguments, complete calls and failures, index by index.
-/
namespace Colloquy

/-! ## The fragments of an index -/

namespace CallFragment

/-- The fragments of an index, in the order in which they were received. -/
def ofIndex (fragments : List CallFragment) (index : UInt32) : List CallFragment :=
  fragments.filter fun fragment => fragment.index = index

/-- The indices of some fragments, in the order in which they were first seen. -/
def seen (fragments : List CallFragment) : List UInt32 := (fragments.map CallFragment.index).eraseDups

/-- The first id of an index that is not empty. -/
def id? (fragments : List CallFragment) (index : UInt32) : Option String :=
  (ofIndex fragments index).findSome? fun fragment => PendingCall.nonEmpty fragment.id

/-- The first name of an index that is not empty. -/
def name? (fragments : List CallFragment) (index : UInt32) : Option String :=
  (ofIndex fragments index).findSome? fun fragment => PendingCall.nonEmpty fragment.name

/-- All arguments of an index. -/
def joined (fragments : List CallFragment) (index : UInt32) : String :=
  String.join ((ofIndex fragments index).map CallFragment.args)

/-- The call of an index, as far as it has arrived. -/
def pending (fragments : List CallFragment) (index : UInt32) : PendingCall :=
  ⟨index, id? fragments index, name? fragments index, joined fragments index⟩

/-- Whether the fragments of an index make a complete call. -/
structure Completes (fragments : List CallFragment) (index : UInt32) (call : ToolCall) : Prop where
  id : id? fragments index = some call.id
  name : name? fragments index = some call.name
  args : StatesArguments (joined fragments index) call.args

/-- What the fragments of an index lack for a complete call. -/
inductive Lacks (fragments : List CallFragment) (index : UInt32) : Failure → Prop where
  | id (h : id? fragments index = none) : Lacks fragments index (.decode (.callWithoutId index))
  | name (hi : id? fragments index ≠ none) (h : name? fragments index = none) :
      Lacks fragments index (.decode (.callWithoutName index))
  | args (hi : id? fragments index ≠ none) (hn : name? fragments index ≠ none)
      (h : ∀ input, ¬ StatesArguments (joined fragments index) input) :
      Lacks fragments index (.decode (.callArguments index))

variable (fragments : List CallFragment) (fragment : CallFragment)

theorem mem_seen {index : UInt32} : index ∈ seen fragments ↔ index ∈ fragments.map CallFragment.index :=
  List.mem_eraseDups

theorem mem_seen_iff {index : UInt32} : index ∈ seen fragments ↔ ofIndex fragments index ≠ [] := by
  rw [mem_seen, ofIndex, Ne, List.filter_eq_nil_iff]
  constructor
  · intro h hn
    obtain ⟨fragment, hf, hi⟩ := List.mem_map.mp h
    exact hn fragment hf (decide_eq_true hi)
  · intro h
    by_contra hn
    refine h fun fragment hf hi => hn ?_
    exact List.mem_map.mpr ⟨fragment, hf, of_decide_eq_true hi⟩

theorem ofIndex_concat (index : UInt32) :
    ofIndex (fragments ++ [fragment]) index
      = ofIndex fragments index ++ if fragment.index = index then [fragment] else [] := by
  rw [ofIndex, List.filter_append, ofIndex]
  by_cases h : fragment.index = index <;> simp [h]

/-- An index that was seen before keeps its place. -/
theorem seen_concat :
    seen (fragments ++ [fragment])
      = seen fragments ++ if fragment.index ∈ seen fragments then [] else [fragment.index] := by
  rw [seen, List.map_append, List.eraseDups_append, ← seen, List.map_singleton, List.removeAll,
    List.filter_singleton, List.elem_eq_contains]
  congr 1
  by_cases h : fragment.index ∈ seen fragments
  · have hc : (fragments.map CallFragment.index).contains fragment.index = true :=
      List.contains_iff_mem.mpr ((mem_seen fragments).mp h)
    rw [if_pos h, hc]
    rfl
  · have hc : (fragments.map CallFragment.index).contains fragment.index = false := by
      rw [← Bool.not_eq_true, List.contains_iff_mem]
      exact mt (mem_seen fragments).mpr h
    rw [if_neg h, hc]
    rfl

theorem nodup_seen : (seen fragments).Nodup := by
  induction fragments using List.reverseRecOn with
  | nil => exact List.nodup_nil
  | append_singleton fragments fragment ih =>
    rw [seen_concat]
    by_cases h : fragment.index ∈ seen fragments
    · rw [if_pos h, List.append_nil]
      exact ih
    · rw [if_neg h]
      refine List.nodup_append.mpr ⟨ih, List.pairwise_singleton _ _, fun index hi other ho he => h ?_⟩
      rw [← List.mem_singleton.mp ho, ← he]
      exact hi

theorem pending_concat_self :
    pending (fragments ++ [fragment]) fragment.index = (pending fragments fragment.index).push fragment := by
  have ho := ofIndex_concat fragments fragment fragment.index
  rw [if_pos rfl] at ho
  have first : ∀ part : CallFragment → Option String,
      (ofIndex (fragments ++ [fragment]) fragment.index).findSome? part
        = ((ofIndex fragments fragment.index).findSome? part).orElse fun _ => part fragment := by
    intro part
    rw [ho, List.findSome?_append, List.findSome?_singleton, Option.orElse_eq_or]
  have joins : joined (fragments ++ [fragment]) fragment.index
      = joined fragments fragment.index ++ fragment.args := by
    rw [joined, ho, List.map_append, String.join_append, joined, List.map_singleton, String.join_cons,
      String.join_nil, String.append_empty]
  rw [pending, id?, name?, first, first, joins]
  rfl

theorem pending_concat_of_ne {index : UInt32} (h : fragment.index ≠ index) :
    pending (fragments ++ [fragment]) index = pending fragments index := by
  have ho := ofIndex_concat fragments fragment index
  rw [if_neg h, List.append_nil] at ho
  simp only [pending, id?, name?, joined, ho]

theorem pending_of_not_mem {index : UInt32} (h : index ∉ seen fragments) :
    pending fragments index = .start index := by
  have ho : ofIndex fragments index = [] := by
    by_contra hn
    exact h ((mem_seen_iff fragments).mpr hn)
  simp only [pending, id?, name?, joined, ho]
  rfl

theorem finish_pending_ok {index : UInt32} {call : ToolCall} :
    (pending fragments index).finish = .ok call ↔ Completes fragments index call := by
  rw [PendingCall.finish_eq_ok_iff]
  exact ⟨fun ⟨hi, hn, ha⟩ => ⟨hi, hn, ha⟩, fun ⟨hi, hn, ha⟩ => ⟨hi, hn, ha⟩⟩

/-- A call that is not complete fails with the first of id, name and arguments that it lacks. -/
theorem finish_pending_error {index : UInt32} {failure : Failure} :
    (pending fragments index).finish = .error failure ↔ Lacks fragments index failure := by
  have noArgs : (pending fragments index).argsValue? = none ↔
      ∀ input, ¬ StatesArguments (joined fragments index) input := by
    rw [Option.eq_none_iff_forall_ne_some]
    exact forall_congr' fun input => not_congr PendingCall.argsValue?_eq_some
  rw [PendingCall.finish]
  constructor
  · intro h
    split at h
    · rename_i hi
      cases h
      exact .id hi
    · rename_i hi hn
      cases h
      exact .name (Option.ne_none_iff_exists'.mpr ⟨_, hi⟩) hn
    · rename_i hi hn ha
      cases h
      exact .args (Option.ne_none_iff_exists'.mpr ⟨_, hi⟩) (Option.ne_none_iff_exists'.mpr ⟨_, hn⟩)
        (noArgs.mp ha)
    · cases h
  · rintro (h | ⟨hi, h⟩ | ⟨hi, hn, h⟩)
    · have hid : (pending fragments index).id = none := h
      rw [hid]
      rfl
    · obtain ⟨id, hi⟩ := Option.ne_none_iff_exists'.mp hi
      have hid : (pending fragments index).id = some id := hi
      have hname : (pending fragments index).name = none := h
      rw [hid, hname]
      rfl
    · obtain ⟨id, hi⟩ := Option.ne_none_iff_exists'.mp hi
      obtain ⟨name, hn⟩ := Option.ne_none_iff_exists'.mp hn
      have hid : (pending fragments index).id = some id := hi
      have hname : (pending fragments index).name = some name := hn
      rw [hid, hname, noArgs.mpr h]
      rfl

end CallFragment

/-! ## Gathering -/

namespace ToolCalls

open CallFragment (ofIndex seen pending joined Completes Lacks)

/-- A fragment of an index that a call has is added to this call, and to no other one. -/
theorem pushTo_map {indices : List UInt32} (hn : indices.Nodup) {calls : UInt32 → PendingCall}
    (hc : ∀ index, (calls index).index = index) {fragment : CallFragment}
    (hm : fragment.index ∈ indices) :
    pushTo fragment (indices.map calls) = indices.map fun index =>
      if index = fragment.index then (calls index).push fragment else calls index := by
  induction indices with
  | nil => cases hm
  | cons index rest ih =>
    obtain ⟨hi, hr⟩ := List.nodup_cons.mp hn
    rw [List.map_cons, List.map_cons, pushTo, hc]
    by_cases he : index = fragment.index
    · rw [if_pos he, if_pos he]
      congr 1
      refine List.map_congr_left fun other ho => ?_
      rw [if_neg]
      rintro rfl
      exact hi (he ▸ ho)
    · rw [if_neg he, if_neg he, ih hr ((List.mem_cons.mp hm).resolve_left (Ne.symm he))]

/-- The calls that are gathered: one for each index, as far as its fragments go.  The induction takes the
fragments from the end, since what was gathered before the last one is then known. -/
theorem calls_eq (fragments : List CallFragment) :
    fragments.foldl push empty = ⟨(seen fragments).map (pending fragments)⟩ := by
  induction fragments using List.reverseRecOn with
  | nil => rfl
  | append_singleton fragments fragment ih =>
    have hi : ∀ index, (pending fragments index).index = index := fun _ => rfl
    rw [List.foldl_append, ih, List.foldl_cons, List.foldl_nil, push, CallFragment.seen_concat]
    congr 1
    by_cases h : fragment.index ∈ seen fragments
    -- The call of the index is there: it takes the fragment in, and the others stay.
    · rw [if_pos h, List.append_nil, pushTo_map (CallFragment.nodup_seen fragments) hi h]
      refine List.map_congr_left fun index _ => ?_
      by_cases he : index = fragment.index
      · subst he
        rw [if_pos rfl, CallFragment.pending_concat_self]
      · rw [if_neg he, CallFragment.pending_concat_of_ne fragments fragment (Ne.symm he)]
    -- The index is new: its call is made of this one fragment, behind the others.
    · have fresh : ∀ call ∈ (seen fragments).map (pending fragments), call.index ≠ fragment.index := by
        intro call hc
        obtain ⟨index, hs, rfl⟩ := List.mem_map.mp hc
        rintro rfl
        exact h hs
      rw [if_neg h, pushTo_fresh fresh, List.map_append, List.map_singleton, CallFragment.pending_concat_self,
        CallFragment.pending_of_not_mem fragments h]
      congr 1
      refine List.map_congr_left fun index hs => (CallFragment.pending_concat_of_ne _ _ ?_).symm
      rintro rfl
      exact h hs

theorem arguments?_eq (fragments : List CallFragment) (index : UInt32) :
    (fragments.foldl push empty).arguments? index =
      if index ∈ seen fragments then some (joined fragments index) else none := by
  rw [calls_eq, arguments?, List.find?_map]
  by_cases h : index ∈ seen fragments
  · rw [if_pos h]
    cases hf : (seen fragments).find? ((fun call => decide (call.index = index)) ∘ pending fragments) with
    | none =>
      have := List.find?_eq_none.mp hf index h
      simp [pending] at this
    | some found =>
      have hi : found = index := by
        have hd := List.find?_some hf
        exact of_decide_eq_true hd
      rw [hi]
      rfl
  · rw [if_neg h, List.find?_eq_none.mpr]
    · rfl
    · intro other ho he
      have hi : other = index := of_decide_eq_true he
      exact h (hi ▸ ho)

theorem finish_eq (fragments : List CallFragment) :
    (fragments.foldl push empty).finish
      = (seen fragments).mapM (PendingCall.finish ∘ pending fragments) := by
  rw [calls_eq, finish, List.mapM_map]

/-- Whatever the order in which the fragments of several calls arrive, each call depends on the fragments of
its own index alone.  Its arguments are those of its fragments, joined.  The complete calls stand in the
order in which their indices were first seen, each with the first id and the first name that are not empty
and the value of the arguments.  If a call lacks one of these, the first such call is what fails.  So
fragments that are the same index by index, and show the indices in the same order, make the same calls. -/
theorem gathered_by_index (fragments : List CallFragment) :
    (∀ chunks : List Chunk, chunks.filterMap Chunk.fragment? = fragments →
      chunks.foldl add empty = fragments.foldl push empty) ∧
    (seen fragments).Nodup ∧
    (∀ index, index ∈ seen fragments ↔ ofIndex fragments index ≠ []) ∧
    (∀ index, (fragments.foldl push empty).arguments? index =
      if ofIndex fragments index = [] then none else some (joined fragments index)) ∧
    (∀ calls, (fragments.foldl push empty).finish = .ok calls ↔
      List.Forall₂ (Completes fragments) (seen fragments) calls) ∧
    (∀ failure, (fragments.foldl push empty).finish = .error failure ↔
      ∃ before index after, seen fragments = before ++ index :: after ∧
        (∀ earlier ∈ before, ∃ call, Completes fragments earlier call) ∧
        Lacks fragments index failure) ∧
    (∀ others, seen others = seen fragments →
      (∀ index, ofIndex others index = ofIndex fragments index) →
      others.foldl push empty = fragments.foldl push empty) := by
  refine ⟨?_, CallFragment.nodup_seen fragments, fun index => CallFragment.mem_seen_iff fragments, ?_, ?_,
    ?_, ?_⟩
  · rintro chunks rfl
    exact foldl_add empty chunks
  · intro index
    rw [arguments?_eq]
    by_cases ho : ofIndex fragments index = []
    · rw [if_pos ho, if_neg fun hs => (CallFragment.mem_seen_iff fragments).mp hs ho]
    · rw [if_neg ho, if_pos ((CallFragment.mem_seen_iff fragments).mpr ho)]
  · intro calls
    rw [finish_eq, mapM_eq_ok_iff]
    simp only [Function.comp, CallFragment.finish_pending_ok]
  · intro failure
    rw [finish_eq, mapM_eq_error_iff]
    simp only [Function.comp, CallFragment.finish_pending_ok, CallFragment.finish_pending_error]
  · intro others hs ho
    rw [calls_eq, calls_eq, hs]
    congr 1
    refine List.map_congr_left fun index _ => ?_
    simp only [pending, CallFragment.id?, CallFragment.name?, joined, ho]

end ToolCalls

end Colloquy
