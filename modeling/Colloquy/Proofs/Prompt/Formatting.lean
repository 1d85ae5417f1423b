import Colloquy.Proofs.Prompt.Spacing
/-!
# What formatting does to a prompt

A prompt that does not open on a human turn gets one in front.  Then its script is widened, and an assistant
turn is put at its end if it closes on a human one; whether this turn was added before the spacing or after
it makes no difference.  Nothing is taken away, so a marker with more than two line breaks in front keeps
them, and an assistant turn behind a prompt that ends in line breaks has these in front of its own two.

Results:
* `Prompt.ofText_format`: the script of a formatted prompt.
* `Prompt.spacing_format`: its turns and the line breaks in front of them.
* `Prompt.format_line_breaks`: when all markers stand behind exactly two line breaks.
* `Prompt.format_keeps_text`: what a prompt and its formatted text have in common.
-/
namespace Colloquy

theorem Turn.eq_other_of_ne {turn expected : Turn} (h : turn ≠ expected) : turn.other = expected := by
  cases turn <;> cases expected <;> first | rfl | exact absurd rfl h

namespace Prompt

open Script (ofText)

/-! ## The turn that is expected -/

/-- Behind a marker the other turn is expected, whatever was expected before. -/
theorem follow_cons (expected : Turn) (offset : Nat) (turn : Turn) (rest : List (Nat × Turn)) :
    follow expected ((offset, turn) :: rest)
      = ((follow turn.other rest).1,
        (if turn = expected then [] else [⟨offset - 2, turn⟩]) ++ (follow turn.other rest).2) := by
  by_cases h : turn = expected
  · subst h
    simp [follow]
  · rw [Turn.eq_other_of_ne h]
    simp [follow, h]

/-- The turn that is expected at the end is not the last one. -/
theorem follow_fst (expected : Turn) (found : List (Nat × Turn)) :
    (follow expected found).1 = (((found.map Prod.snd).getLast?).map Turn.other).getD expected := by
  induction found generalizing expected with
  | nil => rfl
  | cons marker rest ih =>
    obtain ⟨offset, turn⟩ := marker
    rw [follow_cons, ih, List.map_cons, List.getLast?_cons]
    cases (rest.map Prod.snd).getLast? <;> rfl

theorem follow_fst_eq_assistant (offset : Nat) (text : List Char) :
    (follow .human (markers offset text)).1 = .assistant ↔ (turns text).getLast? = some .human := by
  rw [follow_fst, turns_markers]
  rcases (turns text).getLast? with _ | turn
  · decide
  · cases turn <;> decide

/-! ## The parts of formatting -/

theorem firstOffset?_plain {c : Char} {rest : List Char} (h : Turn.atStart? (c :: rest) = none)
    (turn : Turn) :
    firstOffset? turn.marker (c :: rest) = (firstOffset? turn.marker rest).map (· + 1) := by
  rw [firstOffset?, if_neg]
  rw [List.isPrefixOf_iff_prefix]
  exact Turn.atStart?_eq_none.mp h turn

theorem needsOpening_iff (text : List Char) :
    needsOpening text = true ↔ (turns text).head? ≠ some .human := by
  induction text using Turn.text_induction with
  | nil => decide
  | marker turn rest _ =>
    rw [turns_marker, List.head?_cons, needsOpening]
    cases turn with
    | human =>
      have hf : firstOffset? Turn.human.marker (Turn.human.marker ++ rest) = some 0 := rfl
      rw [hf]
      cases firstOffset? Turn.assistant.marker (Turn.human.marker ++ rest) <;> simp
    | assistant =>
      have hf : firstOffset? Turn.assistant.marker (Turn.assistant.marker ++ rest) = some 0 := rfl
      have hh : firstOffset? Turn.human.marker (Turn.assistant.marker ++ rest)
          = (firstOffset? Turn.human.marker (Turn.assistant.marker.tail ++ rest)).map (· + 1) := rfl
      rw [hf, hh]
      cases firstOffset? Turn.human.marker (Turn.assistant.marker.tail ++ rest) <;> simp
  | plain c rest h ih =>
    rw [turns_plain h, ← ih, needsOpening, needsOpening, firstOffset?_plain h, firstOffset?_plain h]
    cases firstOffset? Turn.human.marker rest <;> cases firstOffset? Turn.assistant.marker rest <;> simp

theorem opened_eq (text : List Char) :
    opened text =
      if (turns text).head? = some .human then text else Turn.human.opening ++ ' ' :: text := by
  rw [opened]
  by_cases h : (turns text).head? = some .human
  · rw [if_neg fun hn => (needsOpening_iff text).mp hn h, if_pos h]
  · rw [if_pos ((needsOpening_iff text).mpr h), if_neg h]

theorem closed_eq (text : List Char) :
    closed text = if .assistant ∈ turns text then text else text ++ Turn.assistant.opening := by
  rw [closed]
  by_cases h : Turn.assistant ∈ turns text
  · rw [if_pos (occursIn_iff.mpr (Script.mem_turns_ofText.mp h)), if_pos h]
  · rw [if_neg fun ho => h (Script.mem_turns_ofText.mpr (occursIn_iff.mp ho)), if_neg h]

theorem format_text (input : String) :
    (format input).text =
      (let text := spaced 0 (closed (opened input.toList))
      if (turns text).getLast? = some .human then text ++ Turn.assistant.opening else text) := by
  simp only [← follow_fst_eq_assistant 0]
  rfl

theorem format_warnings (input : String) :
    (format input).warnings
      = (follow .human (markers 0 (spaced 0 (closed (opened input.toList))))).2 := rfl

end Prompt

/-! ## Formatting of scripts -/

namespace Script

theorem ofText_opening (next : Turn) (rest : List Char) :
    ofText (next.opening ++ rest) = turn ['\n', '\n'] next (ofText rest) := by
  cases next <;> rfl

theorem ofText_append_opening (text : List Char) (next : Turn) :
    ofText (text ++ next.opening) = ofText text ++ turn ['\n', '\n'] next (last []) := by
  have ho := ofText_opening next []
  rw [List.append_nil, ofText_nil] at ho
  rw [← ho]
  exact ofText_append Turn.endsMarkers_lineBreak text _

/-- The assistant turn at the end of a script that closes on a human one. -/
def closing (script : Script) : Script :=
  if script.turns.getLast? = some .human then turn ['\n', '\n'] .assistant (last []) else last []

/-- A script in the form of turns. -/
def formatted (script : Script) : Script := script.widened ++ script.closing

theorem closing_widened (script : Script) : script.widened.closing = script.closing := by
  rw [closing, turns_widened, closing]

end Script

namespace Prompt

open Script (ofText)

theorem ofText_spaced (text : List Char) : ofText (spaced 0 text) = (ofText text).widened := by
  have hs := spaced_text (Script.plain_ofText text)
  rw [Script.text_ofText] at hs
  rw [hs]
  exact Script.ofText_text (Script.plain_ofText text).widened

/-- A human turn with nothing but a space in front of the text. -/
theorem ofText_opened (text : List Char) :
    ofText (opened text) =
      if (turns text).head? = some .human then ofText text
      else .turn ['\n', '\n'] .human (.last [' '] ++ ofText text) := by
  rw [opened_eq]
  by_cases h : (turns text).head? = some .human
  · rw [if_pos h, if_pos h]
  · have hs : Turn.atStart? (' ' :: text) = none := rfl
    rw [if_neg h, if_neg h, Script.ofText_opening, Script.ofText_plain hs]

theorem head?_turns_opened (text : List Char) : (turns (opened text)).head? = some .human := by
  rw [turns, ofText_opened]
  by_cases h : (turns text).head? = some .human
  · rw [if_pos h]
    exact h
  · rw [if_neg h]
    rfl

/-- Turns that open on a human one and hold no assistant close on a human one. -/
theorem getLast?_eq_human {found : List Turn} (hh : found.head? = some .human)
    (ha : .assistant ∉ found) : found.getLast? = some .human := by
  cases hl : found.getLast? with
  | none =>
    rw [List.getLast?_eq_none_iff.mp hl] at hh
    cases hh
  | some turn =>
    cases turn with
    | human => rfl
    | assistant => exact absurd (List.mem_of_getLast? hl) ha

/-- It makes no difference whether a closing turn is added before the spacing or after it. -/
theorem formatted_closed {text : List Char} (hh : (turns text).head? = some .human) :
    (ofText (closed text)).formatted = (ofText text).formatted := by
  rw [closed_eq]
  by_cases ha : Turn.assistant ∈ turns text
  · rw [if_pos ha]
  · have hl : (ofText text).turns.getLast? = some .human := getLast?_eq_human hh ha
    rw [if_neg ha, Script.ofText_append_opening, Script.formatted, Script.widened_append_opening,
      Script.formatted, Script.closing, Script.closing, if_pos hl, if_neg]
    · exact Script.append_nil _
    · simp [Script.turns]

theorem ofText_format (input : String) :
    ofText (format input).text = (ofText (opened input.toList)).formatted := by
  rw [← formatted_closed (head?_turns_opened input.toList), Script.formatted, ← Script.closing_widened,
    ← ofText_spaced, format_text, Script.closing]
  by_cases hl : (ofText (spaced 0 (closed (opened input.toList)))).turns.getLast? = some .human
  · rw [if_pos hl, ← Script.ofText_append_opening]
    exact congrArg ofText (if_pos hl)
  · rw [if_neg hl, Script.append_nil]
    exact congrArg ofText (if_neg hl)

/-! ## Line breaks -/

theorem spacing_opened (text : List Char) :
    (ofText (opened text)).spacing =
      (if (turns text).head? = some .human then [] else [(.human, 2)]) ++ (ofText text).spacing := by
  rw [ofText_opened]
  by_cases h : (turns text).head? = some .human
  · rw [if_pos h, if_pos h, List.nil_append]
  · rw [if_neg h, if_neg h, Script.spacing]
    cases ofText text with
    | last segment => rfl
    | turn segment next rest => rw [Script.last_append_turn, Script.spacing, Script.spacing]; rfl

theorem trailingBreaks_opened (text : List Char) :
    trailingBreaks (opened text) = trailingBreaks text := by
  rw [opened_eq]
  by_cases h : (turns text).head? = some .human
  · rw [if_pos h]
  · rw [if_neg h]
    exact trailingBreaks_append_marker ['\n', '\n'] .human (' ' :: text)

theorem turns_opened (text : List Char) :
    turns (opened text) =
      (if (turns text).head? = some .human then [] else [.human]) ++ turns text := by
  have hs := congrArg (List.map Prod.fst) (spacing_opened text)
  rw [Script.map_fst_spacing, List.map_append, Script.map_fst_spacing] at hs
  rw [turns, hs]
  by_cases h : (turns text).head? = some .human
  · rw [if_pos h, if_pos h]; rfl
  · rw [if_neg h, if_neg h]; rfl

/-- An opened text closes on a human turn unless its own last turn is an assistant one. -/
theorem getLast?_turns_opened (text : List Char) :
    (turns (opened text)).getLast? = some .human ↔ (turns text).getLast? ≠ some .assistant := by
  have hh := head?_turns_opened text
  rw [turns_opened] at hh ⊢
  cases hl : (turns text).getLast? with
  | none =>
    rw [List.getLast?_eq_none_iff] at hl
    simp [hl]
  | some turn =>
    rw [List.getLast?_append, hl, Option.some_or]
    cases turn <;> decide

theorem trailingBreaks_widened (script : Script) :
    trailingBreaks script.widened.text = trailingBreaks script.text := by
  induction script with
  | last segment => rfl
  | turn segment next rest ih =>
    rw [Script.widened_turn, Script.text, trailingBreaks_append_marker, ih, Script.text,
      trailingBreaks_append_marker]

theorem spacing_formatted (script : Script) :
    script.formatted.spacing =
      script.spacing.map (fun marker => (marker.1, max 2 marker.2))
        ++ if script.turns.getLast? = some .human then [(.assistant, trailingBreaks script.text + 2)]
          else [] := by
  rw [Script.formatted, Script.closing]
  by_cases h : script.turns.getLast? = some .human
  · rw [if_pos h, if_pos h, Script.spacing_append_turn, Script.spacing_widened, trailingBreaks_append_two,
      trailingBreaks_widened, Script.spacing]
  · rw [if_neg h, if_neg h, Script.append_nil, List.append_nil, Script.spacing_widened]

/-- The turns of a formatted prompt, each with the number of line breaks in front of its marker. -/
theorem spacing_format (input : String) :
    (ofText (format input).text).spacing =
      (if (turns input.toList).head? = some .human then [] else [(.human, 2)])
        ++ (ofText input.toList).spacing.map (fun marker => (marker.1, max 2 marker.2))
        ++ if (turns input.toList).getLast? = some .assistant then []
          else [(.assistant, trailingBreaks input.toList + 2)] := by
  rw [ofText_format, spacing_formatted, spacing_opened, Script.text_ofText, trailingBreaks_opened,
    List.map_append]
  congr 1
  · congr 1
    by_cases h : (turns input.toList).head? = some .human
    · rw [if_pos h]; rfl
    · rw [if_neg h]; rfl
  · have hl := getLast?_turns_opened input.toList
    by_cases h : (turns input.toList).getLast? = some .assistant
    · rw [if_pos h]
      exact if_neg fun hn => hl.mp hn h
    · rw [if_neg h]
      exact if_pos (hl.mpr h)

theorem turns_format (input : String) :
    turns (format input).text =
      (if (turns input.toList).head? = some .human then [] else [.human]) ++ turns input.toList
        ++ if (turns input.toList).getLast? = some .assistant then [] else [.assistant] := by
  have hs := congrArg (List.map Prod.fst) (spacing_format input)
  have hm : (ofText input.toList).spacing.map (Prod.fst ∘ fun marker => (marker.1, max 2 marker.2))
      = turns input.toList := Script.map_fst_spacing _
  rw [Script.map_fst_spacing, List.map_append, List.map_append, List.map_map, hm,
    apply_ite (List.map Prod.fst), apply_ite (List.map Prod.fst)] at hs
  exact hs

/-- Every marker of a formatted prompt stands behind as many line breaks as before, and at least two; those
that are added stand behind two, and behind the line breaks at the end of the prompt.  So all of them stand
behind exactly two if no marker of the prompt had more, and if the prompt does not end in a line break where
an assistant turn is added. -/
theorem format_line_breaks (input : String) :
    (ofText (format input).text).spacing =
      (if (turns input.toList).head? = some .human then [] else [(.human, 2)])
        ++ (ofText input.toList).spacing.map (fun marker => (marker.1, max 2 marker.2))
        ++ (if (turns input.toList).getLast? = some .assistant then []
          else [(.assistant, trailingBreaks input.toList + 2)]) ∧
    ((∀ (turn : Turn) (before after : List Char),
        (format input).text = before ++ turn.marker ++ after → EndsInTwoBreaks before) ↔
      (∀ (turn : Turn) (before after : List Char),
        input.toList = before ++ turn.marker ++ after → ¬ ['\n', '\n', '\n'] <:+ before) ∧
      ((turns input.toList).getLast? ≠ some .assistant → ¬ ['\n'] <:+ input.toList)) := by
  refine ⟨spacing_format input, ?_⟩
  have three : ∀ text, ¬ ['\n', '\n', '\n'] <:+ text ↔ max 2 (trailingBreaks text) = 2 := fun text => by
    have := @le_trailingBreaks_iff 3 text
    rw [show ['\n', '\n', '\n'] = List.replicate 3 '\n' from rfl, ← this]
    omega
  have one : ¬ ['\n'] <:+ input.toList ↔ trailingBreaks input.toList + 2 = 2 := by
    have := @le_trailingBreaks_iff 1 input.toList
    rw [show ['\n'] = List.replicate 1 '\n' from rfl, ← this]
    omega
  simp only [endsInTwoBreaks_iff, three, one]
  rw [← Script.forall_spacing_ofText (motive := fun n => n = 2),
    ← Script.forall_spacing_ofText (motive := fun n => max 2 n = 2), spacing_format]
  simp only [List.forall_mem_append, List.forall_mem_map]
  constructor
  · rintro ⟨⟨-, hm⟩, hc⟩
    refine ⟨hm, fun hl => ?_⟩
    rw [if_neg hl] at hc
    exact hc _ List.mem_cons_self
  · rintro ⟨hm, hc⟩
    refine ⟨⟨?_, hm⟩, ?_⟩
    · by_cases h : (turns input.toList).head? = some .human <;> simp [h]
    · by_cases h : (turns input.toList).getLast? = some .assistant
      · simp [h]
      · simp [h, hc h]

/-- A marker behind three line breaks keeps them. -/
theorem three_line_breaks_kept :
    ∃ before after, (format "\n\n\nHuman: x").text = before ++ Turn.human.marker ++ after ∧
      ¬ EndsInTwoBreaks before := by
  refine ⟨['\n', '\n', '\n'], " x\n\nAssistant:".toList, rfl, fun h => ?_⟩
  have := endsInTwoBreaks_iff.mp h
  cases this

/-! ## Segments -/

end Prompt

/-- Whether two segments are the same but for the line breaks at their ends. -/
def SameButBreaks (segment other : List Char) : Prop :=
  ∃ body m n, segment = body ++ List.replicate m '\n' ∧ other = body ++ List.replicate n '\n'

theorem SameButBreaks.append_lineBreaks (segment : List Char) (n : Nat) :
    SameButBreaks segment (segment ++ List.replicate n '\n') :=
  ⟨segment, 0, n, (List.append_nil _).symm, rfl⟩

namespace Script

/-- Whether another script has the markers and segments of a script, up to the line breaks at the end of the
segments that a marker follows there, and at most one assistant marker more, at its very end. -/
inductive KeptIn : Script → Script → Prop where
  | last (segment : List Char) : KeptIn (last segment) (last segment)
  | closed {segment other : List Char} (h : SameButBreaks segment other) :
      KeptIn (last segment) (turn other .assistant (last []))
  | turn {segment other : List Char} {rest others : Script} (next : Turn)
      (h : SameButBreaks segment other) (hr : KeptIn rest others) :
      KeptIn (turn segment next rest) (turn other next others)

theorem keptIn_widened (script : Script) : script.KeptIn script.widened := by
  induction script with
  | last segment => exact .last segment
  | turn segment next rest ih => exact .turn next (.append_lineBreaks segment _) ih

theorem keptIn_widened_closed (script : Script) :
    script.KeptIn (script.widened ++ turn ['\n', '\n'] .assistant (last [])) := by
  induction script with
  | last segment => exact .closed (.append_lineBreaks segment 2)
  | turn segment next rest ih => exact .turn next (.append_lineBreaks segment _) ih

theorem keptIn_formatted (script : Script) : script.KeptIn script.formatted := by
  rw [formatted, closing]
  by_cases h : script.turns.getLast? = some .human
  · rw [if_pos h]
    exact script.keptIn_widened_closed
  · rw [if_neg h, append_nil]
    exact script.keptIn_widened

end Script

namespace Prompt

open Script (ofText)

/-- A prompt that opens on a human turn, or else this prompt behind a human turn, is all kept when it is
formatted, and in its order: its markers, and its segments up to the line breaks at their ends.  At most one
turn is added at the start and at most one at the end. -/
theorem format_keeps_text (input : String) :
    (ofText (if (turns input.toList).head? = some .human then input.toList
      else "\n\nHuman: ".toList ++ input.toList)).KeptIn (ofText (format input).text) ∧
    ∃ opening closing, (opening = [] ∨ opening = [.human]) ∧ (closing = [] ∨ closing = [.assistant]) ∧
      turns (format input).text = opening ++ turns input.toList ++ closing := by
  constructor
  · have ho := opened_eq input.toList
    rw [show Turn.human.opening ++ ' ' :: input.toList = "\n\nHuman: ".toList ++ input.toList from rfl] at ho
    rw [← ho, ofText_format]
    exact Script.keptIn_formatted _
  · refine ⟨_, _, ?_, ?_, turns_format input⟩
    · by_cases h : (turns input.toList).head? = some .human <;> simp [h]
    · by_cases h : (turns input.toList).getLast? = some .assistant <;> simp [h]

end Prompt

end Colloquy
