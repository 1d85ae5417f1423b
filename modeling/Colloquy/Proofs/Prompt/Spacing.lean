import Colloquy.Proofs.Prompt.Script
import Mathlib.Data.List.Induction
/-!
# Line breaks in front of markers

`Prompt.spaced` goes through a text with a count of the line breaks behind it.  On a script it does one thing
to each segment that a marker follows: it brings the line breaks at the end of the segment up to two.

Results:
* `Prompt.le_trailingBreaks_iff`: what the count of line breaks says of a text.
* `Script.mem_spacing_ofText`: the line breaks in front of a marker, wherever it stands.
* `Prompt.spaced_text`: spacing on scripts.
-/
namespace Colloquy

namespace Prompt

/-- The number of line breaks just before a place, `breaks` of them before a text that ends there. -/
def breaksAfter (breaks : Nat) (text : List Char) : Nat :=
  text.foldl (fun breaks c => if c = '\n' then breaks + 1 else 0) breaks

def trailingBreaks (text : List Char) : Nat := breaksAfter 0 text

theorem breaksAfter_cons (breaks : Nat) (c : Char) (text : List Char) :
    breaksAfter breaks (c :: text) = breaksAfter (if c = '\n' then breaks + 1 else 0) text := rfl

theorem breaksAfter_append (breaks : Nat) (text more : List Char) :
    breaksAfter breaks (text ++ more) = breaksAfter (breaksAfter breaks text) more := by
  rw [breaksAfter, List.foldl_append]
  rfl

@[simp]
theorem breaksAfter_marker (breaks : Nat) (turn : Turn) : breaksAfter breaks turn.marker = 0 := by
  cases turn <;> rfl

@[simp]
theorem breaksAfter_lineBreaks (breaks n : Nat) :
    breaksAfter breaks (List.replicate n '\n') = breaks + n := by
  induction n generalizing breaks with
  | zero => rfl
  | succ n ih => rw [List.replicate_succ, breaksAfter_cons, if_pos rfl, ih]; omega

theorem trailingBreaks_append_lineBreaks (text : List Char) (n : Nat) :
    trailingBreaks (text ++ List.replicate n '\n') = trailingBreaks text + n := by
  rw [trailingBreaks, breaksAfter_append, breaksAfter_lineBreaks]
  rfl

theorem trailingBreaks_append_two (text : List Char) :
    trailingBreaks (text ++ ['\n', '\n']) = trailingBreaks text + 2 :=
  trailingBreaks_append_lineBreaks text 2

/-- Line breaks do not count across a marker. -/
theorem trailingBreaks_append_marker (text : List Char) (turn : Turn) (rest : List Char) :
    trailingBreaks (text ++ (turn.marker ++ rest)) = trailingBreaks rest := by
  rw [trailingBreaks, breaksAfter_append, breaksAfter_append, breaksAfter_marker]
  rfl

theorem trailingBreaks_concat (text : List Char) (c : Char) :
    trailingBreaks (text ++ [c]) = if c = '\n' then trailingBreaks text + 1 else 0 := by
  rw [trailingBreaks, breaksAfter_append]
  rfl

/-- The count is that of the line breaks at the very end. -/
theorem le_trailingBreaks_iff {n : Nat} {text : List Char} :
    n ≤ trailingBreaks text ↔ List.replicate n '\n' <:+ text := by
  induction text using List.reverseRecOn generalizing n with
  | nil =>
    rw [List.suffix_nil, List.replicate_eq_nil_iff]
    exact Nat.le_zero
  | append_singleton text c ih =>
    cases n with
    | zero => exact iff_of_true (Nat.zero_le _) (List.nil_suffix)
    | succ n =>
      rw [trailingBreaks_concat, List.replicate_succ', List.suffix_concat_iff]
      by_cases hc : c = '\n'
      · subst hc
        rw [if_pos rfl, Nat.succ_le_succ_iff, ih]
        simp
      · rw [if_neg hc]
        simp [Ne.symm hc]

/-- Whether a text ends in two line breaks, at its start or behind another character. -/
def EndsInTwoBreaks (text : List Char) : Prop :=
  ∃ rest, text = rest ++ ['\n', '\n'] ∧ rest.getLast? ≠ some '\n'

theorem endsInTwoBreaks_iff {text : List Char} : EndsInTwoBreaks text ↔ trailingBreaks text = 2 := by
  have none : ∀ rest : List Char, trailingBreaks rest = 0 ↔ rest.getLast? ≠ some '\n' := by
    intro rest
    induction rest using List.reverseRecOn with
    | nil => exact iff_of_true rfl nofun
    | append_singleton rest c _ =>
      rw [trailingBreaks_concat, List.getLast?_concat]
      by_cases hc : c = '\n' <;> simp [hc]
  constructor
  · rintro ⟨rest, rfl, hr⟩
    rw [trailingBreaks_append_two, (none rest).mpr hr]
  · intro h
    obtain ⟨rest, rfl⟩ := le_trailingBreaks_iff.mp h.ge
    have hr : trailingBreaks rest + 2 = 2 := (trailingBreaks_append_two rest).symm.trans h
    exact ⟨rest, rfl, (none rest).mp (Nat.add_right_cancel hr)⟩

end Prompt

/-! ## Spacing of scripts -/

namespace Script

open Prompt (trailingBreaks)

/-- The turns of a script, each with the number of line breaks in front of its marker. -/
def spacing : Script → List (Turn × Nat)
  | last _ => []
  | turn segment next rest => (next, trailingBreaks segment) :: rest.spacing

/-- A script with at least two line breaks in front of every marker. -/
def widened : Script → Script
  | last segment => last segment
  | turn segment next rest =>
    turn (segment ++ List.replicate (2 - trailingBreaks segment) '\n') next rest.widened

theorem widened_turn (segment : List Char) (next : Turn) (rest : Script) :
    (turn segment next rest).widened
      = turn (segment ++ List.replicate (2 - trailingBreaks segment) '\n') next rest.widened := rfl

theorem map_fst_spacing (script : Script) : script.spacing.map Prod.fst = script.turns := by
  induction script with
  | last segment => rfl
  | turn segment next rest ih => rw [spacing, List.map_cons, ih, turns]

theorem spacing_append_turn (script : Script) (segment : List Char) (next : Turn) (rest : Script) :
    (script ++ turn segment next rest).spacing
      = script.spacing ++ (next, trailingBreaks (script.text ++ segment)) :: rest.spacing := by
  induction script with
  | last more => rfl
  | turn more other others ih =>
    rw [turn_append, spacing, ih, spacing, text, List.append_assoc, List.append_assoc,
      Prompt.trailingBreaks_append_marker, List.cons_append]

/-- A turn that is found in a script divides it. -/
theorem exists_of_mem_spacing {turn : Turn} {n : Nat} {script : Script} (h : (turn, n) ∈ script.spacing) :
    ∃ before after, script = before ++ .turn [] turn after ∧ trailingBreaks before.text = n := by
  induction script with
  | last segment => cases h
  | turn segment next rest ih =>
    rcases List.mem_cons.mp h with he | hr
    · cases he
      exact ⟨last segment, rest, by simp, rfl⟩
    · obtain ⟨before, after, rfl, hn⟩ := ih hr
      refine ⟨.turn segment next before, after, by simp, ?_⟩
      rw [Script.text, Prompt.trailingBreaks_append_marker, hn]

theorem mem_spacing_ofText {turn : Turn} {n : Nat} {text : List Char} :
    (turn, n) ∈ (ofText text).spacing ↔
      ∃ before after, text = before ++ turn.marker ++ after ∧ trailingBreaks before = n := by
  constructor
  · intro h
    obtain ⟨before, after, he, hn⟩ := exists_of_mem_spacing h
    refine ⟨before.text, after.text, ?_, hn⟩
    rw [← text_ofText text, he, text_append, Script.text, List.nil_append, List.append_assoc]
  · rintro ⟨before, after, rfl, rfl⟩
    rw [List.append_assoc, ofText_append_marker, spacing_append_turn, text_ofText, List.append_nil]
    exact List.mem_append_right _ List.mem_cons_self

theorem mem_turns_ofText {turn : Turn} {text : List Char} :
    turn ∈ (ofText text).turns ↔ turn.marker <:+: text := by
  rw [← map_fst_spacing, List.mem_map]
  constructor
  · rintro ⟨⟨other, n⟩, h, rfl⟩
    obtain ⟨before, after, he, -⟩ := mem_spacing_ofText.mp h
    exact ⟨before, after, he.symm⟩
  · rintro ⟨before, after, he⟩
    exact ⟨(turn, trailingBreaks before), mem_spacing_ofText.mpr ⟨before, after, he.symm, rfl⟩, rfl⟩

/-- What holds of the line breaks in front of each marker, wherever it stands. -/
theorem forall_spacing_ofText {motive : Nat → Prop} {text : List Char} :
    (∀ marker ∈ (ofText text).spacing, motive marker.2) ↔
      ∀ (turn : Turn) (before after : List Char), text = before ++ turn.marker ++ after →
        motive (trailingBreaks before) := by
  constructor
  · intro h turn before after he
    exact h (turn, trailingBreaks before) (mem_spacing_ofText.mpr ⟨before, after, he, rfl⟩)
  · rintro h ⟨turn, n⟩ hm
    obtain ⟨before, after, he, rfl⟩ := mem_spacing_ofText.mp hm
    exact h turn before after he

theorem spacing_widened (script : Script) :
    script.widened.spacing = script.spacing.map fun marker => (marker.1, max 2 marker.2) := by
  induction script with
  | last segment => rfl
  | turn segment next rest ih =>
    have hb : trailingBreaks segment + (2 - trailingBreaks segment) = max 2 (trailingBreaks segment) := by
      omega
    rw [widened_turn, spacing, ih, Prompt.trailingBreaks_append_lineBreaks, hb, spacing, List.map_cons]

theorem turns_widened (script : Script) : script.widened.turns = script.turns := by
  rw [← map_fst_spacing, spacing_widened, List.map_map]
  exact map_fst_spacing script

theorem Plain.widened {script : Script} (h : script.Plain) : script.widened.Plain := by
  induction script with
  | last segment => exact h
  | turn segment next rest ih => exact ⟨h.1.append_lineBreaks _, ih h.2⟩

theorem widened_eq_self {script : Script} (h : ∀ marker ∈ script.spacing, 2 ≤ marker.2) :
    script.widened = script := by
  induction script with
  | last segment => rfl
  | turn segment next rest ih =>
    obtain ⟨hs, hr⟩ := List.forall_mem_cons.mp h
    rw [widened_turn, ih hr, Nat.sub_eq_zero_of_le hs, List.replicate_zero, List.append_nil]

/-- A marker that is put behind a script with two line breaks needs no more of them. -/
theorem widened_append_opening (script : Script) (next : Turn) (rest : Script) :
    (script ++ turn ['\n', '\n'] next rest).widened
      = script.widened ++ turn ['\n', '\n'] next rest.widened := by
  induction script with
  | last segment =>
    have hb : 2 - trailingBreaks (segment ++ ['\n', '\n']) = 0 := by
      rw [Prompt.trailingBreaks_append_two]
      omega
    rw [last_append_turn, widened_turn, hb, List.replicate_zero, List.append_nil]
    rfl
  | turn segment other others ih => rw [turn_append, widened_turn, ih, widened_turn, turn_append]

end Script

/-! ## Spacing of texts -/

namespace Prompt

theorem spaced_plain {c : Char} {rest : List Char} (h : Turn.atStart? (c :: rest) = none)
    (breaks : Nat) :
    spaced breaks (c :: rest) = c :: spaced (if c = '\n' then breaks + 1 else 0) rest := by
  rw [spaced, h]
  rfl

theorem spaced_marker (breaks : Nat) (turn : Turn) (rest : List Char) :
    spaced breaks (turn.marker ++ rest)
      = List.replicate (2 - breaks) '\n' ++ (turn.marker ++ spaced 0 rest) := by
  cases turn <;> rfl

theorem spaced_unmarked {segment : List Char} (h : Unmarked segment) (breaks : Nat) :
    spaced breaks segment = segment := by
  induction segment generalizing breaks with
  | nil => rfl
  | cons c rest ih =>
    obtain ⟨hs, hr⟩ := Unmarked.cons_iff.mp h
    rw [spaced_plain hs, ih hr]

theorem spaced_segment {segment : List Char} (h : Unmarked segment) (breaks : Nat) (turn : Turn)
    (rest : List Char) :
    spaced breaks (segment ++ (turn.marker ++ rest))
      = segment ++ List.replicate (2 - breaksAfter breaks segment) '\n'
        ++ (turn.marker ++ spaced 0 rest) := by
  induction segment generalizing breaks with
  | nil => exact spaced_marker breaks turn rest
  | cons c others ih =>
    obtain ⟨hs, hr⟩ := Unmarked.cons_iff.mp h
    have hm : Turn.atStart? (c :: (others ++ (turn.marker ++ rest))) = none :=
      (Turn.atStart?_append_marker (List.cons_ne_nil c others) turn rest).trans hs
    rw [List.cons_append, spaced_plain hm, ih hr, breaksAfter_cons]
    rfl

/-- Spacing a text widens its script. -/
theorem spaced_text {script : Script} (h : script.Plain) : spaced 0 script.text = script.widened.text := by
  induction script with
  | last segment => exact spaced_unmarked h 0
  | turn segment next rest ih => rw [Script.text, spaced_segment h.1, ih h.2]; rfl

end Prompt

end Colloquy
