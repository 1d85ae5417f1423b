import Colloquy.Proofs.Prompt.Formatting
/-!
# Alternation of turns

A formatted prompt opens on a human turn and closes on an assistant one.  In between the turns need not
alternate: a turn of the kind that came just before is reported, and nothing else is.  A formatted prompt is
left alone when it is formatted again.

Results:
* `Prompt.mem_follow_iff`: the markers that are reported.
* `Prompt.follow_format`: a formatted prompt closes as expected.
* `Prompt.format_alternates`: the form of a formatted prompt, and what its warnings say.
* `Prompt.format_idempotent`: formatting twice is formatting once.
-/
namespace Colloquy

attribute [ext] FormattedPrompt

namespace Turn

theorem opening_eq (turn : Turn) : turn.opening = ['\n', '\n'] ++ turn.marker := rfl

@[simp]
theorem other_other (turn : Turn) : turn.other.other = turn := by
  cases turn <;> rfl

theorem other_eq_iff {expected turn : Turn} : expected.other = turn ↔ turn ≠ expected := by
  cases expected <;> cases turn <;> decide

end Turn

namespace Prompt

open Script (ofText)

/-! ## Reported markers -/

section

variable (expected : Turn) (found more : List (Nat × Turn))

theorem follow_append :
    follow expected (found ++ more)
      = ((follow (follow expected found).1 more).1,
        (follow expected found).2 ++ (follow (follow expected found).1 more).2) := by
  induction found generalizing expected with
  | nil => rfl
  | cons marker rest ih =>
    obtain ⟨offset, turn⟩ := marker
    rw [List.cons_append, follow_cons, follow_cons, ih, List.append_assoc]

theorem follow_sublist :
    (follow expected found).2.Sublist (found.map fun marker => ⟨marker.1 - 2, marker.2⟩) := by
  induction found generalizing expected with
  | nil => exact List.Sublist.slnil
  | cons marker rest ih =>
    obtain ⟨offset, turn⟩ := marker
    rw [follow_cons, List.map_cons]
    by_cases h : turn = expected
    · rw [if_pos h]
      exact (ih turn.other).cons _
    · rw [if_neg h]
      exact (ih turn.other).cons_cons _

end

/-- A marker is reported if it is of the kind of the marker just before it.  In front of the first one stands,
as it were, a marker of the kind that is not expected. -/
theorem mem_follow_iff {expected : Turn} {found : List (Nat × Turn)} {warning : TurnWarning} :
    warning ∈ (follow expected found).2 ↔
      ∃ earlier position later, found = earlier ++ (position, warning.found) :: later ∧
        (earlier.map Prod.snd).getLast?.getD expected.other = warning.found ∧
        warning.position = position - 2 := by
  induction found generalizing expected with
  | nil => exact iff_of_false List.not_mem_nil (by rintro ⟨_ | _, _, _, h, -⟩ <;> cases h)
  | cons marker rest ih =>
    obtain ⟨offset, turn⟩ := marker
    have reported : warning ∈ (if turn = expected then [] else [⟨offset - 2, turn⟩]) ↔
        turn = warning.found ∧ expected.other = warning.found ∧ warning.position = offset - 2 := by
      cases warning
      by_cases h : turn = expected
      · subst h
        simp only [if_pos, List.not_mem_nil, Turn.other_eq_iff]
        exact iff_of_false not_false fun ⟨he, hn, _⟩ => hn he.symm
      · simp only [if_neg h, List.mem_singleton, TurnWarning.mk.injEq]
        exact ⟨fun ⟨hp, he⟩ => ⟨he.symm, he ▸ Turn.other_eq_iff.mpr h, hp⟩, fun ⟨he, _, hp⟩ => ⟨hp, he.symm⟩⟩
    rw [follow_cons, List.mem_append, ih, reported, Turn.other_other]
    constructor
    · rintro (⟨rfl, hl, hp⟩ | ⟨earlier, position, later, rfl, hl, hp⟩)
      · exact ⟨[], offset, rest, rfl, hl, hp⟩
      · refine ⟨(offset, turn) :: earlier, position, later, rfl, ?_, hp⟩
        rwa [List.map_cons, List.getLast?_cons, Option.getD_some]
    · rintro ⟨earlier, position, later, he, hl, hp⟩
      cases earlier with
      | nil =>
        cases he
        exact Or.inl ⟨rfl, hl, hp⟩
      | cons first earlier =>
        cases he
        rw [List.map_cons, List.getLast?_cons, Option.getD_some] at hl
        exact Or.inr ⟨earlier, position, later, rfl, hl, hp⟩

/-- Markers that are all expected, up to a human one at the end, alternate. -/
theorem alternates_of_follow :
    ∀ {found : List (Nat × Turn)}, follow .human found = (.human, []) →
      ∃ n, found.map Prod.snd = (List.replicate n [Turn.human, .assistant]).flatten
  | [], _ => ⟨0, rfl⟩
  | [(_, turn)], h => by
    cases turn <;> cases h
  | (_, turn) :: (_, next) :: rest, h => by
    rw [follow_cons, follow_cons] at h
    obtain ⟨hl, hw⟩ := Prod.mk.inj h
    rw [List.append_eq_nil_iff, List.append_eq_nil_iff] at hw
    obtain ⟨ht, hn, hw⟩ := hw
    cases turn with
    | assistant => cases ht
    | human =>
      cases next with
      | human => cases hn
      | assistant =>
        obtain ⟨n, hr⟩ := alternates_of_follow (Prod.ext hl hw)
        refine ⟨n + 1, ?_⟩
        rw [List.map_cons, List.map_cons, hr]
        rfl

theorem count_alternating (n : Nat) :
    (List.replicate n [Turn.human, .assistant]).flatten.count .human
      = (List.replicate n [Turn.human, .assistant]).flatten.count .assistant := by
  induction n with
  | zero => rfl
  | succ n ih => simp [List.replicate_succ, ih]

/-! ## Where markers stand -/

theorem utf8Length_append_breaks (text : List Char) :
    utf8Length (text ++ ['\n', '\n']) = utf8Length text + 2 :=
  utf8Length_append text ['\n', '\n']

theorem turns_append_breaks (text : List Char) : turns (text ++ ['\n', '\n']) = turns text :=
  turns_append_lineBreaks text 2

theorem le_of_mem_markers {offset : Nat} {text : List Char} {marker : Nat × Turn}
    (h : marker ∈ markers offset text) : offset ≤ marker.1 := by
  obtain ⟨earlier, later, hs⟩ := List.append_of_mem h
  obtain ⟨before, after, -, -, hp⟩ := markers_split hs
  omega

theorem markers_pairwise (offset : Nat) (text : List Char) :
    (markers offset text).Pairwise fun marker later => marker.1 < later.1 := by
  induction text using Turn.text_induction generalizing offset with
  | nil => exact List.Pairwise.nil
  | marker turn rest ih =>
    rw [markers_marker]
    refine List.Pairwise.cons (fun later hl => ?_) (ih _)
    have hp : 0 < utf8Length turn.marker := by cases turn <;> decide
    have := le_of_mem_markers hl
    omega
  | plain c rest h ih =>
    rw [markers_plain h]
    exact ih _

/-! ## Formatted prompts -/

theorem two_le_spacing_format (input : String) :
    ∀ marker ∈ (ofText (format input).text).spacing, 2 ≤ marker.2 := by
  rw [spacing_format]
  simp only [List.forall_mem_append, List.forall_mem_map]
  refine ⟨⟨?_, fun marker _ => Nat.le_max_left 2 _⟩, ?_⟩
  · by_cases h : (turns input.toList).head? = some .human <;> simp [h]
  · by_cases h : (turns input.toList).getLast? = some .assistant <;> simp [h]

theorem lineBreaks_before_marker (input : String) (turn : Turn) (before after : List Char)
    (h : (format input).text = before ++ turn.marker ++ after) : ['\n', '\n'] <:+ before :=
  le_trailingBreaks_iff.mp (Script.forall_spacing_ofText.mp (two_le_spacing_format input) turn before after h)

theorem head?_turns_format (input : String) : (turns (format input).text).head? = some .human := by
  rw [turns_format]
  by_cases h : (turns input.toList).head? = some .human
  · rw [if_pos h, List.nil_append, List.head?_append, h]
    rfl
  · rw [if_neg h]
    rfl

theorem getLast?_turns_format (input : String) :
    (turns (format input).text).getLast? = some .assistant := by
  rw [turns_format]
  by_cases h : (turns input.toList).getLast? = some .assistant
  · rw [if_pos h, List.append_nil, List.getLast?_append, h]
    rfl
  · rw [if_neg h, List.getLast?_append]
    rfl

/-- Behind a formatted prompt a human turn is expected, and what is reported is what was reported when it was
formatted. -/
theorem follow_format (input : String) :
    follow .human (markers 0 (format input).text) = (.human, (format input).warnings) := by
  have ht := format_text input
  simp only [← follow_fst_eq_assistant 0] at ht
  rw [format_warnings, ht]
  generalize spaced 0 (closed (opened input.toList)) = text
  cases he : (follow .human (markers 0 text)).1 with
  | human => exact Prod.ext he rfl
  | assistant =>
    have hm : markers 0 (text ++ Turn.assistant.opening)
        = markers 0 text ++ markers (0 + utf8Length text) Turn.assistant.opening :=
      markers_append Turn.endsMarkers_lineBreak 0 text _
    rw [if_pos rfl, hm, follow_append, he]
    exact Prod.ext rfl (List.append_nil _)

/-- The line breaks in front of a marker take two bytes. -/
theorem two_le_of_mem_markers (input : String) {marker : Nat × Turn}
    (h : marker ∈ markers 0 (format input).text) : 2 ≤ marker.1 := by
  obtain ⟨earlier, later, hs⟩ := List.append_of_mem h
  obtain ⟨before, after, ht, -, hp⟩ := markers_split hs
  obtain ⟨rest, rfl⟩ := lineBreaks_before_marker input marker.2 before after (by rw [ht, List.append_assoc])
  rw [utf8Length_append_breaks] at hp
  omega

theorem warnings_pairwise (input : String) :
    (format input).warnings.Pairwise fun warning later => warning.position < later.position := by
  have hs := follow_sublist .human (markers 0 (format input).text)
  rw [follow_format] at hs
  refine List.Pairwise.sublist hs (List.pairwise_map.mpr ?_)
  refine (markers_pairwise 0 (format input).text).imp_of_mem fun {marker later} hm _ hl => ?_
  have := two_le_of_mem_markers input hm
  simp only
  omega

/-- A warning names a marker of the kind of the one before, and the place of its line breaks. -/
theorem mem_warnings_iff (input : String) (warning : TurnWarning) :
    warning ∈ (format input).warnings ↔
      ∃ before after, (format input).text = before ++ warning.found.opening ++ after ∧
        (turns before).getLast? = some warning.found ∧ warning.position = utf8Length before := by
  have hf := follow_format input
  have hw : (format input).warnings = (follow .human (markers 0 (format input).text)).2 := by rw [hf]
  rw [hw, mem_follow_iff]
  constructor
  · rintro ⟨earlier, position, later, hs, hl, hp⟩
    obtain ⟨before, after, ht, rfl, rfl⟩ := markers_split hs
    have htext : (format input).text = before ++ warning.found.marker ++ after := by
      rw [ht, List.append_assoc]
    obtain ⟨rest, rfl⟩ := lineBreaks_before_marker input _ before after htext
    refine ⟨rest, after, ?_, ?_, ?_⟩
    · rw [htext, Turn.opening_eq, List.append_assoc rest]
    · rw [turns_markers, turns_append_breaks] at hl
      cases hr : (turns rest).getLast? with
      | some turn => rwa [hr, Option.getD_some, ← Option.some_inj] at hl
      | none =>
        -- No marker stands in front: it would be an assistant one, and the first of all.
        have hh := head?_turns_format input
        rw [hr] at hl
        rw [ht, turns_append_marker, turns_append_breaks, List.getLast?_eq_none_iff.mp hr, ← hl] at hh
        cases hh
    · rw [hp, utf8Length_append_breaks]
      omega
  · rintro ⟨before, after, ht, hl, hp⟩
    rw [Turn.opening_eq, ← List.append_assoc, List.append_assoc _ _ after] at ht
    refine ⟨_, _, _, ht ▸ markers_append_marker 0 (before ++ ['\n', '\n']) warning.found after, ?_, ?_⟩
    · rw [turns_markers, turns_append_breaks, hl]
      rfl
    · rw [hp, utf8Length_append_breaks]
      omega

/-- A formatted prompt is a sequence of turns. -/
theorem format_alternates (input : String) :
    (∀ (turn : Turn) (before after : List Char),
      (format input).text = before ++ turn.marker ++ after → ['\n', '\n'] <:+ before) ∧
    (turns (format input).text).head? = some .human ∧
    (turns (format input).text).getLast? = some .assistant ∧
    (∀ warning, warning ∈ (format input).warnings ↔
      ∃ before after, (format input).text = before ++ warning.found.opening ++ after ∧
        (turns before).getLast? = some warning.found ∧ warning.position = utf8Length before) ∧
    (format input).warnings.Pairwise (fun warning later => warning.position < later.position) ∧
    ((format input).warnings = [] →
      (∃ n, turns (format input).text = (List.replicate n [Turn.human, .assistant]).flatten) ∧
        (turns (format input).text).count .human = (turns (format input).text).count .assistant) := by
  refine ⟨lineBreaks_before_marker input, head?_turns_format input, getLast?_turns_format input,
    mem_warnings_iff input, warnings_pairwise input, fun hw => ?_⟩
  have hf := follow_format input
  rw [hw] at hf
  obtain ⟨n, hn⟩ := alternates_of_follow hf
  rw [turns_markers] at hn
  rw [hn]
  exact ⟨⟨n, rfl⟩, count_alternating n⟩

/-- Formatting a formatted prompt changes nothing, and reports the same. -/
theorem format_idempotent (input : String) :
    format (String.ofList (format input).text) = format input := by
  have ho : opened (format input).text = (format input).text := by
    rw [opened_eq, if_pos (head?_turns_format input)]
  have hc : closed (format input).text = (format input).text := by
    rw [closed_eq, if_pos (List.mem_of_getLast? (getLast?_turns_format input))]
  have hs : spaced 0 (format input).text = (format input).text := by
    have hw := spaced_text (Script.plain_ofText (format input).text)
    rwa [Script.widened_eq_self (two_le_spacing_format input), Script.text_ofText] at hw
  refine FormattedPrompt.ext ?_ ?_
  · have hl : (turns (format input).text).getLast? ≠ some .human := by
      rw [getLast?_turns_format]
      decide
    rw [format_text, String.toList_ofList, ho, hc, hs]
    exact if_neg hl
  · rw [format_warnings, String.toList_ofList, ho, hc, hs, follow_format]

end Prompt

end Colloquy
