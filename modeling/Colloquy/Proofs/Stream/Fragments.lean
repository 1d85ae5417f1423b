import Colloquy.ToolCalls
/-!
# Fragments of one tool call

The fragments of a call arrive one after the other under an index of their own.  Whatever calls are
already there, the first of them makes a new call behind them and the others are added to it.

Results:
* `ToolCalls.foldl_push_fresh`: a run of fragments of a new index becomes one call at the end.
* `PendingCall.finish_eq_ok_iff`: a call with an id, a name and arguments is complete, and no other one.
-/
namespace Colloquy

/-! ## Blank texts state no value -/

namespace Token

/-- A blank character is part of no word, of no punctuation and of no string. -/
theorem not_token_of_isBlank {c : Char} (h : Colloquy.isBlank c = true) :
    isWordChar c = false ∧ c ≠ '"' ∧ punctuation? c = none := by
  have hcodes : ∀ n ∈ blankCodes, isWordChar (Char.ofNat n) = false ∧ Char.ofNat n ≠ '"' ∧
      punctuation? (Char.ofNat n) = none := by decide
  have hm : c.toNat ∈ blankCodes := by simpa [Colloquy.isBlank] using h
  have hc := hcodes c.toNat hm
  rwa [Char.ofNat_toNat] at hc

theorem scanFrom_blank {chars : List Char} (h : ∀ c ∈ chars, Colloquy.isBlank c = true)
    {word : List Char} {tokens : List Token} (ht : scanFrom chars word = some tokens) :
    tokens = [] := by
  induction chars generalizing word with
  | nil => simpa [scanFrom] using ht.symm
  | cons c rest ih =>
    obtain ⟨hw, hq, hp⟩ := not_token_of_isBlank (h c List.mem_cons_self)
    have hrest : ∀ c ∈ rest, Colloquy.isBlank c = true := fun d hd =>
      h d (List.mem_cons_of_mem c hd)
    simp only [scanFrom, hw, hq, hp, Bool.false_eq_true, if_false] at ht
    split at ht
    · exact ih hrest ht
    · cases ht

end Token

theorem Json.ofText?_of_allBlank {text : String} (h : allBlank text = true) : ofText? text = none := by
  unfold ofText?
  cases ht : Token.scan text with
  | none => rfl
  | some tokens =>
    have hn : tokens = [] := Token.scanFrom_blank (by simpa [allBlank] using h) ht
    subst hn
    rfl

/-! ## One call -/

/-- Whether a text states the arguments of a tool call: it is their JSON text, or blank for none. -/
def StatesArguments (text : String) (input : Json) : Prop :=
  Json.ofText? text = some input ∨ (allBlank text = true ∧ input = .obj [])

namespace PendingCall

/-- The first fragment of a call brings its id and its name. -/
theorem start_push {index : UInt32} {id name : String} (hi : id ≠ "") (hn : name ≠ "") :
    (start index).push ⟨index, some id, some name, ""⟩ = ⟨index, some id, some name, ""⟩ := by
  simp [start, push, nonEmpty, Option.filter, hi, hn]

/-- All others only bring arguments. -/
theorem foldl_push_args (index : UInt32) (id name : Option String) (args : String)
    (parts : List String) :
    (parts.map fun part => CallFragment.mk index none none part).foldl push ⟨index, id, name, args⟩
      = ⟨index, id, name, args ++ String.join parts⟩ := by
  induction parts generalizing args with
  | nil => simp
  | cons part rest ih =>
    have hp : push ⟨index, id, name, args⟩ ⟨index, none, none, part⟩
        = ⟨index, id, name, args ++ part⟩ := by
      cases id <;> cases name <;> rfl
    rw [List.map_cons, List.foldl_cons, hp, ih, String.join_cons, String.append_assoc]

/-- Blank arguments have a value of their own, since a blank text is no JSON text. -/
theorem argsValue?_eq_some {call : PendingCall} {input : Json} :
    call.argsValue? = some input ↔ StatesArguments call.args input := by
  unfold argsValue? StatesArguments
  cases hb : allBlank call.args with
  | false => simp
  | true => simp [Json.ofText?_of_allBlank hb, eq_comm]

theorem finish_eq_ok_iff {call : PendingCall} {complete : ToolCall} :
    call.finish = .ok complete ↔ call.id = some complete.id ∧ call.name = some complete.name ∧
      StatesArguments call.args complete.args := by
  rw [← argsValue?_eq_some, finish]
  constructor
  · intro h
    split at h
    · cases h
    · cases h
    · cases h
    · rename_i hi hn ha
      cases h
      exact ⟨hi, hn, ha⟩
  · rintro ⟨hi, hn, ha⟩
    rw [hi, hn, ha]

theorem finish_eq_ok {index : UInt32} {id name args : String} {input : Json}
    (h : StatesArguments args input) :
    finish ⟨index, some id, some name, args⟩ = .ok ⟨id, name, input⟩ :=
  finish_eq_ok_iff.mpr ⟨rfl, rfl, h⟩

end PendingCall

/-! ## Among other calls -/

namespace ToolCalls

/-- Calls of other indices stay as they are. -/
theorem pushTo_append {calls : List PendingCall} {fragment : CallFragment}
    (h : ∀ call ∈ calls, call.index ≠ fragment.index) (rest : List PendingCall) :
    pushTo fragment (calls ++ rest) = calls ++ pushTo fragment rest := by
  induction calls with
  | nil => rfl
  | cons call calls ih =>
    have hc : call.index ≠ fragment.index := h call List.mem_cons_self
    rw [List.cons_append, pushTo, if_neg hc, ih fun other ho => h other (List.mem_cons_of_mem _ ho)]
    rfl

/-- A fragment of an index that no call has makes a new call behind the others. -/
theorem pushTo_fresh {calls : List PendingCall} {fragment : CallFragment}
    (h : ∀ call ∈ calls, call.index ≠ fragment.index) :
    pushTo fragment calls = calls ++ [(PendingCall.start fragment.index).push fragment] := by
  have ha := pushTo_append h []
  rw [List.append_nil] at ha
  rw [ha, pushTo]

theorem foldl_push_last {calls : List PendingCall} {call : PendingCall}
    (h : ∀ other ∈ calls, other.index ≠ call.index) {fragments : List CallFragment}
    (hf : ∀ fragment ∈ fragments, fragment.index = call.index) :
    fragments.foldl push ⟨calls ++ [call]⟩ = ⟨calls ++ [fragments.foldl PendingCall.push call]⟩ := by
  induction fragments generalizing call with
  | nil => rfl
  | cons fragment rest ih =>
    have hi : fragment.index = call.index := hf fragment List.mem_cons_self
    have hp : push ⟨calls ++ [call]⟩ fragment = ⟨calls ++ [call.push fragment]⟩ := by
      simp only [push]
      rw [pushTo_append (by rw [hi]; exact h), pushTo, if_pos hi.symm]
    rw [List.foldl_cons, hp, List.foldl_cons]
    exact ih h fun other ho => hf other (List.mem_cons_of_mem _ ho)

/-- A run of fragments of an index that no call has becomes one call behind the others. -/
theorem foldl_push_fresh {calls : List PendingCall} {first : CallFragment} {more : List CallFragment}
    (h : ∀ call ∈ calls, call.index ≠ first.index)
    (hm : ∀ fragment ∈ more, fragment.index = first.index) :
    (first :: more).foldl push ⟨calls⟩
      = ⟨calls ++ [(first :: more).foldl PendingCall.push (.start first.index)]⟩ := by
  have hp : push ⟨calls⟩ first = ⟨calls ++ [(PendingCall.start first.index).push first]⟩ := by
    rw [push, pushTo_fresh h]
  rw [List.foldl_cons, hp, List.foldl_cons]
  exact foldl_push_last h hm

end ToolCalls

end Colloquy
