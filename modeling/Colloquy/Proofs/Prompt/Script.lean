import Colloquy.Prompt
import Mathlib.Data.List.Infix
/-!
# Texts cut at their markers

The markers of a text never overlap: a marker starts with a letter that stands nowhere else in a marker.  So
a text falls into its markers and the segments around them, and into nothing else.  What is cut in this way
is a `Script`.

Results:
* `Turn.text_induction`: a text is read from its start, marker by marker and character by character.
* `Script.ofText_append`, `Script.ofText_append_marker`: a text may be cut part by part.
* `Prompt.markers_split`, `Prompt.turns_markers`: the markers that are found are those of the script.
-/
namespace Colloquy

/-! ## Markers -/

namespace Turn

theorem eq_of_starts {turn other : Turn} {text : List Char} (h : turn.marker <+: text)
    (ho : other.marker <+: text) : turn = other := by
  have either := List.prefix_or_prefix_of_prefix h ho
  revert either
  cases turn <;> cases other <;> decide

theorem atStart?_eq_some {turn : Turn} {text : List Char} :
    atStart? text = some turn ↔ turn.marker <+: text := by
  rw [atStart?]
  split
  · rename_i h
    have hp := List.isPrefixOf_iff_prefix.mp h
    exact ⟨fun he => Option.some.inj he ▸ hp, fun ht => congrArg some (eq_of_starts hp ht)⟩
  · rename_i hh
    rw [List.isPrefixOf_iff_prefix] at hh
    split
    · rename_i h
      have hp := List.isPrefixOf_iff_prefix.mp h
      exact ⟨fun he => Option.some.inj he ▸ hp, fun ht => congrArg some (eq_of_starts hp ht)⟩
    · rename_i ha
      rw [List.isPrefixOf_iff_prefix] at ha
      refine iff_of_false nofun ?_
      cases turn
      · exact hh
      · exact ha

theorem atStart?_eq_none {text : List Char} :
    atStart? text = none ↔ ∀ turn : Turn, ¬ turn.marker <+: text := by
  rw [Option.eq_none_iff_forall_ne_some]
  exact forall_congr' fun turn => not_congr atStart?_eq_some

/-- Whether a character stands in no marker, or only at its start. -/
def EndsMarkers (c : Char) : Prop := ∀ turn : Turn, c ∉ turn.marker.tail

theorem endsMarkers_lineBreak : EndsMarkers '\n' := by
  intro turn
  cases turn <;> decide

/-- A marker is a character that ends the markers before it, and the rest. -/
theorem exists_marker_eq (turn : Turn) : ∃ c rest, turn.marker = c :: rest ∧ EndsMarkers c := by
  cases turn
  · refine ⟨_, _, rfl, fun other => ?_⟩
    cases other <;> decide
  · refine ⟨_, _, rfl, fun other => ?_⟩
    cases other <;> decide

/-- A marker that starts in front of a character that ends markers is complete there. -/
theorem prefix_append_cons {turn : Turn} {text rest : List Char} {c : Char} (ht : text ≠ [])
    (hc : EndsMarkers c) : turn.marker <+: text ++ c :: rest ↔ turn.marker <+: text := by
  refine ⟨fun h => ?_, fun h => h.trans (List.prefix_append _ _)⟩
  rcases List.prefix_or_prefix_of_prefix h (List.prefix_append text _) with hp | ⟨more, hm⟩
  · exact hp
  · cases more with
    | nil =>
      rw [← hm, List.append_nil]
    | cons d more =>
      -- The marker would go on behind the text, with the very character that no marker goes on with.
      rw [← hm, List.prefix_append_right_inj, List.cons_prefix_cons] at h
      obtain ⟨first, others, rfl⟩ := List.exists_cons_of_ne_nil ht
      refine absurd ?_ (hc turn)
      rw [← hm, ← h.1]
      exact List.mem_append_right others List.mem_cons_self

theorem atStart?_append_cons {text rest : List Char} {c : Char} (ht : text ≠ []) (hc : EndsMarkers c) :
    atStart? (text ++ c :: rest) = atStart? text := by
  refine Option.ext fun turn => ?_
  rw [atStart?_eq_some, atStart?_eq_some, prefix_append_cons ht hc]

theorem atStart?_append_marker {text : List Char} (ht : text ≠ []) (turn : Turn) (rest : List Char) :
    atStart? (text ++ (turn.marker ++ rest)) = atStart? text := by
  obtain ⟨c, others, hm, hc⟩ := turn.exists_marker_eq
  rw [hm]
  exact atStart?_append_cons ht hc

/-- A text is empty, or starts with a marker, or with a character at which no marker starts. -/
@[elab_as_elim]
theorem text_induction {motive : List Char → Prop} (nil : motive [])
    (marker : ∀ (turn : Turn) (rest : List Char), motive rest → motive (turn.marker ++ rest))
    (plain : ∀ (c : Char) (rest : List Char), atStart? (c :: rest) = none → motive rest →
      motive (c :: rest)) (text : List Char) : motive text := by
  induction hn : text.length using Nat.strongRecOn generalizing text with
  | ind n ih =>
    subst hn
    cases text with
    | nil => exact nil
    | cons c rest =>
      cases h : atStart? (c :: rest) with
      | none => exact plain c rest h (ih rest.length (Nat.lt_succ_self _) rest rfl)
      | some turn =>
        obtain ⟨others, ho⟩ := atStart?_eq_some.mp h
        have shorter : others.length < (c :: rest).length := by
          rw [← ho, List.length_append]
          exact Nat.lt_add_of_pos_left (by cases turn <;> decide)
        rw [← ho]
        exact marker turn others (ih others.length shorter others rfl)

end Turn

/-- Whether no marker occurs in a text. -/
def Unmarked (text : List Char) : Prop := ∀ turn : Turn, ¬ turn.marker <:+: text

namespace Unmarked

theorem nil : Unmarked [] := by
  intro turn h
  rw [List.infix_nil] at h
  cases turn <;> cases h

theorem cons_iff {c : Char} {rest : List Char} :
    Unmarked (c :: rest) ↔ Turn.atStart? (c :: rest) = none ∧ Unmarked rest := by
  rw [Turn.atStart?_eq_none, Unmarked, Unmarked, ← forall_and]
  refine forall_congr' fun turn => ?_
  rw [List.infix_cons_iff, not_or]

theorem append_cons_iff {text rest : List Char} {c : Char} (hc : Turn.EndsMarkers c) :
    Unmarked (text ++ c :: rest) ↔ Unmarked text ∧ Unmarked (c :: rest) := by
  induction text with
  | nil => exact ⟨fun h => ⟨nil, h⟩, fun h => h.2⟩
  | cons first others ih =>
    rw [List.cons_append, cons_iff, cons_iff, ih, ← List.cons_append,
      Turn.atStart?_append_cons (List.cons_ne_nil _ _) hc, and_assoc]

theorem lineBreaks (n : Nat) : Unmarked (List.replicate n '\n') := by
  induction n with
  | zero => exact nil
  | succ n ih =>
    refine cons_iff.mpr ⟨Turn.atStart?_eq_none.mpr fun turn h => ?_, ih⟩
    cases turn <;> simp [Turn.marker] at h

theorem append_lineBreaks {text : List Char} (h : Unmarked text) (n : Nat) :
    Unmarked (text ++ List.replicate n '\n') := by
  cases n with
  | zero => rwa [List.replicate_zero, List.append_nil]
  | succ n => exact (append_cons_iff Turn.endsMarkers_lineBreak).mpr ⟨h, lineBreaks (n + 1)⟩

end Unmarked

/-! ## Scripts -/

/-- A text cut at its markers: segments with the marker of a turn between each two of them. -/
inductive Script where
  | last (segment : List Char)
  | turn (segment : List Char) (turn : Turn) (rest : Script)
deriving DecidableEq, Repr

namespace Script

/-- The text that was cut. -/
def text : Script → List Char
  | last segment => segment
  | turn segment next rest => segment ++ (next.marker ++ rest.text)

/-- The turns whose markers stand in a text, in their order. -/
def turns : Script → List Turn
  | last _ => []
  | turn _ next rest => next :: rest.turns

/-- Whether a script is cut at all of its markers: its segments hold none. -/
def Plain : Script → Prop
  | last segment => Unmarked segment
  | turn segment _ rest => Unmarked segment ∧ rest.Plain

/-- Puts one script behind another; the segments that meet are joined. -/
def append : Script → Script → Script
  | last segment, last more => last (segment ++ more)
  | last segment, turn more next rest => turn (segment ++ more) next rest
  | turn segment next rest, other => turn segment next (rest.append other)

instance : Append Script := ⟨append⟩

variable {segment more : List Char} {next : Turn} {rest other : Script}

@[simp]
theorem last_append_last : last segment ++ last more = last (segment ++ more) := rfl

@[simp]
theorem last_append_turn : last segment ++ turn more next rest = turn (segment ++ more) next rest := rfl

@[simp]
theorem turn_append : turn segment next rest ++ other = turn segment next (rest ++ other) := rfl

@[simp]
theorem nil_append (script : Script) : last [] ++ script = script := by
  cases script <;> rfl

@[simp]
theorem append_nil (script : Script) : script ++ last [] = script := by
  induction script with
  | last segment => rw [last_append_last, List.append_nil]
  | turn segment next rest ih => rw [turn_append, ih]

theorem append_assoc (first second third : Script) :
    first ++ second ++ third = first ++ (second ++ third) := by
  induction first with
  | last segment => cases second <;> cases third <;> simp [List.append_assoc]
  | turn segment next rest ih => rw [turn_append, turn_append, turn_append, ih]

@[simp]
theorem text_append (first second : Script) : (first ++ second).text = first.text ++ second.text := by
  induction first with
  | last segment => cases second <;> simp [text]
  | turn segment next rest ih => simp [text, ih]

@[simp]
theorem turns_append (first second : Script) :
    (first ++ second).turns = first.turns ++ second.turns := by
  induction first with
  | last segment => cases second <;> rfl
  | turn segment next rest ih => rw [turn_append, turns, ih, turns, List.cons_append]

/-! ## Cutting -/

/-- Cuts a text behind its first `skip` characters. -/
def cut : Nat → List Char → Script
  | _, [] => last []
  | skip + 1, _ :: rest => cut skip rest
  | 0, c :: rest =>
    match Turn.atStart? (c :: rest) with
    | some next => turn [] next (cut (next.marker.length - 1) rest)
    | none => last [c] ++ cut 0 rest

/-- Cuts a text at its markers. -/
def ofText (text : List Char) : Script := cut 0 text

@[simp]
theorem ofText_nil : ofText [] = last [] := rfl

@[simp]
theorem ofText_marker (turn : Turn) (rest : List Char) :
    ofText (turn.marker ++ rest) = .turn [] turn (ofText rest) := by
  cases turn <;> rfl

theorem ofText_plain {c : Char} {rest : List Char} (h : Turn.atStart? (c :: rest) = none) :
    ofText (c :: rest) = last [c] ++ ofText rest := by
  rw [ofText, cut, h]
  rfl

@[simp]
theorem text_ofText (text : List Char) : (ofText text).text = text := by
  induction text using Turn.text_induction with
  | nil => rfl
  | marker turn rest ih => rw [ofText_marker, Script.text, ih, List.nil_append]
  | plain c rest h ih => rw [ofText_plain h, text_append, ih]; rfl

/-- A text may be cut in two in front of a character that ends markers. -/
theorem ofText_append {c : Char} (hc : Turn.EndsMarkers c) (before rest : List Char) :
    ofText (before ++ c :: rest) = ofText before ++ ofText (c :: rest) := by
  induction before using Turn.text_induction with
  | nil => rw [List.nil_append, ofText_nil, nil_append]
  | marker turn before ih =>
    rw [List.append_assoc, ofText_marker, ofText_marker, ih, turn_append]
  | plain first before h ih =>
    have hs : Turn.atStart? (first :: (before ++ c :: rest)) = none :=
      (Turn.atStart?_append_cons (List.cons_ne_nil first before) hc).trans h
    rw [List.cons_append, ofText_plain hs, ih, ofText_plain h, append_assoc]

theorem ofText_append_marker (before : List Char) (turn : Turn) (after : List Char) :
    ofText (before ++ (turn.marker ++ after)) = ofText before ++ .turn [] turn (ofText after) := by
  obtain ⟨c, rest, hm, hc⟩ := turn.exists_marker_eq
  rw [← ofText_marker, hm, List.cons_append]
  exact ofText_append hc before _

theorem ofText_of_unmarked {text : List Char} (h : Unmarked text) : ofText text = last text := by
  induction text with
  | nil => rfl
  | cons c rest ih =>
    obtain ⟨hs, hr⟩ := Unmarked.cons_iff.mp h
    rw [ofText_plain hs, ih hr, last_append_last, List.singleton_append]

theorem ofText_text {script : Script} (h : script.Plain) : ofText script.text = script := by
  induction script with
  | last segment => exact ofText_of_unmarked h
  | turn segment next rest ih =>
    rw [text, ofText_append_marker, ofText_of_unmarked h.1, ih h.2, last_append_turn, List.append_nil]

/-- The first segment goes on in front of a character at which no marker starts. -/
theorem Plain.cons {c : Char} {script : Script} (h : script.Plain)
    (hs : Turn.atStart? (c :: script.text) = none) : (last [c] ++ script).Plain := by
  cases script with
  | last segment => exact Unmarked.cons_iff.mpr ⟨hs, h⟩
  | turn segment next rest =>
    refine ⟨Unmarked.cons_iff.mpr ⟨Turn.atStart?_eq_none.mpr fun turn hp => ?_, h.1⟩, h.2⟩
    exact Turn.atStart?_eq_none.mp hs turn (hp.trans (List.prefix_append (c :: segment) _))

theorem plain_ofText (text : List Char) : (ofText text).Plain := by
  induction text using Turn.text_induction with
  | nil => exact Unmarked.nil
  | marker turn rest ih => rw [ofText_marker]; exact ⟨Unmarked.nil, ih⟩
  | plain c rest h ih =>
    rw [ofText_plain h]
    exact ih.cons (by rwa [text_ofText])

end Script

/-! ## The markers that are found -/

namespace Prompt

open Script (ofText)

/-- The turns of a text, in the order of their markers. -/
def turns (text : List Char) : List Turn := (ofText text).turns

theorem turns_marker (turn : Turn) (rest : List Char) :
    turns (turn.marker ++ rest) = turn :: turns rest := by
  rw [turns, Script.ofText_marker]
  rfl

theorem turns_plain {c : Char} {rest : List Char} (h : Turn.atStart? (c :: rest) = none) :
    turns (c :: rest) = turns rest := by
  rw [turns, Script.ofText_plain h, Script.turns_append]
  rfl

theorem turns_append_marker (before : List Char) (turn : Turn) (after : List Char) :
    turns (before ++ (turn.marker ++ after)) = turns before ++ turn :: turns after := by
  rw [turns, Script.ofText_append_marker, Script.turns_append]
  rfl

theorem turns_append_lineBreaks (text : List Char) (n : Nat) :
    turns (text ++ List.replicate n '\n') = turns text := by
  cases n with
  | zero => rw [List.replicate_zero, List.append_nil]
  | succ n =>
    rw [turns, List.replicate_succ, Script.ofText_append Turn.endsMarkers_lineBreak, ← List.replicate_succ,
      Script.ofText_of_unmarked (Unmarked.lineBreaks (n + 1)), Script.turns_append, Script.turns,
      List.append_nil, turns]

theorem markers_plain {c : Char} {rest : List Char} (h : Turn.atStart? (c :: rest) = none)
    (offset : Nat) : markers offset (c :: rest) = markers (offset + c.utf8Size) rest := by
  rw [markers, h]

theorem markers_marker (offset : Nat) (turn : Turn) (rest : List Char) :
    markers offset (turn.marker ++ rest)
      = (offset, turn) :: markers (offset + utf8Length turn.marker) rest := by
  cases turn <;> rfl

theorem turns_markers (offset : Nat) (text : List Char) :
    (markers offset text).map Prod.snd = turns text := by
  induction text using Turn.text_induction generalizing offset with
  | nil => rfl
  | marker turn rest ih => rw [markers_marker, List.map_cons, ih, turns_marker]
  | plain c rest h ih => rw [markers_plain h, ih, turns_plain h]

theorem markers_append {c : Char} (hc : Turn.EndsMarkers c) (offset : Nat) (before rest : List Char) :
    markers offset (before ++ c :: rest)
      = markers offset before ++ markers (offset + utf8Length before) (c :: rest) := by
  induction before using Turn.text_induction generalizing offset with
  | nil => rfl
  | marker turn before ih =>
    rw [List.append_assoc, markers_marker, markers_marker, ih, utf8Length_append, Nat.add_assoc]
    rfl
  | plain first before h ih =>
    have hs : Turn.atStart? (first :: (before ++ c :: rest)) = none :=
      (Turn.atStart?_append_cons (List.cons_ne_nil first before) hc).trans h
    rw [List.cons_append, markers_plain hs, ih, markers_plain h, utf8Length_cons, Nat.add_assoc]

theorem markers_append_marker (offset : Nat) (before : List Char) (turn : Turn) (after : List Char) :
    markers offset (before ++ (turn.marker ++ after))
      = markers offset before ++ (offset + utf8Length before, turn)
        :: markers (offset + utf8Length before + utf8Length turn.marker) after := by
  obtain ⟨c, rest, hm, hc⟩ := turn.exists_marker_eq
  rw [← markers_marker, hm, List.cons_append]
  exact markers_append hc offset before _

/-- A marker that is found divides the text. -/
theorem markers_split {text : List Char} {offset position : Nat} {turn : Turn}
    {earlier later : List (Nat × Turn)} (h : markers offset text = earlier ++ (position, turn) :: later) :
    ∃ before after, text = before ++ (turn.marker ++ after) ∧ earlier = markers offset before ∧
      position = offset + utf8Length before := by
  induction text using Turn.text_induction generalizing offset earlier with
  | nil => exact absurd h (by cases earlier <;> nofun)
  | marker other rest ih =>
    rw [markers_marker] at h
    cases earlier with
    | nil =>
      cases h
      exact ⟨[], rest, rfl, rfl, rfl⟩
    | cons first earlier =>
      obtain ⟨rfl, hr⟩ := List.cons.inj h
      obtain ⟨before, after, rfl, rfl, rfl⟩ := ih hr
      refine ⟨other.marker ++ before, after, (List.append_assoc _ _ _).symm, ?_, ?_⟩
      · rw [markers_marker]
      · rw [utf8Length_append, Nat.add_assoc]
  | plain c rest hs ih =>
    rw [markers_plain hs] at h
    obtain ⟨before, after, rfl, rfl, rfl⟩ := ih h
    refine ⟨c :: before, after, rfl, ?_, ?_⟩
    · have hb := (Turn.atStart?_append_marker (List.cons_ne_nil c before) turn after).symm.trans hs
      rw [markers_plain hb]
    · rw [utf8Length_cons, Nat.add_assoc]

end Prompt

end Colloquy
