import Colloquy.Proofs.Prompt.Spacing
/-!
# Spacing by replacements

`Prompt.spaced` counts line breaks and puts in the missing ones.  The same comes of replacements, one after
another and each over the whole text: two line breaks are put in front of every marker, and then, twice, two
stand for three.  A marker that had none or one is left with two.  A marker that had more gets two and loses
two, so it keeps what it had: the replacements are too few to bring every marker down to two line breaks.

Results:
* `Prompt.widen_text`, `Prompt.narrow_text`: what a replacement does to a script.
* `Prompt.replaced_text`: what the three replacements for the markers of a turn come to.
* `Prompt.replaced_eq_spaced`: the replacements for both turns are `Prompt.spaced`.
-/
namespace Colloquy

/-! ## Replacements -/

/-- Replaces `old` by `new` wherever it occurs behind the first `skip` characters of a text.  Occurrences are
looked for from the start, and do not overlap. -/
def replaceFrom (old new : List Char) : Nat → List Char → List Char
  | _, [] => []
  | skip + 1, _ :: rest => replaceFrom old new skip rest
  | 0, c :: rest =>
    if old.isPrefixOf (c :: rest) then new ++ replaceFrom old new (old.length - 1) rest
    else c :: replaceFrom old new 0 rest

def replaceAll (old new text : List Char) : List Char := replaceFrom old new 0 text

section

variable {old : List Char} (new : List Char)

theorem replaceFrom_eq (skip : Nat) (text : List Char) :
    replaceFrom old new skip text = replaceAll old new (text.drop skip) := by
  induction text generalizing skip with
  | nil => cases skip <;> rfl
  | cons c rest ih =>
    cases skip with
    | zero => rfl
    | succ skip => rw [replaceFrom, ih, List.drop_succ_cons]

theorem replaceAll_cons {c : Char} {rest : List Char} (h : ¬ old <+: c :: rest) :
    replaceAll old new (c :: rest) = c :: replaceAll old new rest := by
  rw [replaceAll, replaceFrom, if_neg]
  · rfl
  · rwa [List.isPrefixOf_iff_prefix]

theorem replaceAll_append (ho : old ≠ []) (rest : List Char) :
    replaceAll old new (old ++ rest) = new ++ replaceAll old new rest := by
  obtain ⟨c, others, rfl⟩ := List.exists_cons_of_ne_nil ho
  rw [List.cons_append, replaceAll, replaceFrom, if_pos, replaceFrom_eq]
  · simp
  · rw [List.isPrefixOf_iff_prefix]
    exact List.prefix_append (c :: others) rest

theorem replaceAll_of_not_infix {text : List Char} (h : ¬ old <:+: text) :
    replaceAll old new text = text := by
  induction text with
  | nil => rfl
  | cons c rest ih =>
    rw [List.infix_cons_iff, not_or] at h
    rw [replaceAll_cons new h.1, ih h.2]

end

/-! ## Replacements of markers -/

namespace Prompt

/-- Puts two line breaks in front of every marker of a turn. -/
def widen (turn : Turn) (text : List Char) : List Char := replaceAll turn.marker turn.opening text

/-- Takes one of three line breaks in front of every marker of a turn. -/
def narrow (turn : Turn) (text : List Char) : List Char :=
  replaceAll ('\n' :: turn.opening) turn.opening text

/-- Sets the line breaks in front of every marker of a turn. -/
def replaced (turn : Turn) (text : List Char) : List Char := narrow turn (narrow turn (widen turn text))

/-- A segment with one line break less at its end if it ends in three. -/
def narrowed (segment : List Char) : List Char :=
  if 3 ≤ trailingBreaks segment then segment.dropLast else segment

theorem narrowed_concat {segment : List Char} (h : 2 ≤ trailingBreaks segment) :
    narrowed (segment ++ ['\n']) = segment := by
  have hb : trailingBreaks (segment ++ ['\n']) = trailingBreaks segment + 1 :=
    trailingBreaks_concat segment '\n'
  rw [narrowed, if_pos (by omega), List.dropLast_concat]

theorem narrowed_cons {c : Char} {rest : List Char} (h : c :: rest ≠ ['\n', '\n', '\n']) :
    narrowed (c :: rest) = c :: narrowed rest := by
  have hb : 3 ≤ trailingBreaks (c :: rest) ↔ 3 ≤ trailingBreaks rest := by
    rw [le_trailingBreaks_iff, le_trailingBreaks_iff, List.suffix_cons_iff]
    exact or_iff_right h.symm
  rw [narrowed, narrowed, apply_ite (c :: ·)]
  refine if_ctx_congr hb (fun hr => List.dropLast_cons_of_ne_nil ?_) fun _ => rfl
  rintro rfl
  cases hr

theorem unmarked_narrowed {segment : List Char} (h : Unmarked segment) : Unmarked (narrowed segment) := by
  rw [narrowed]
  split
  · exact fun turn hm => h turn (hm.trans (List.dropLast_prefix segment).isInfix)
  · exact h

/-- Two more line breaks, and then twice one of three less, make up two line breaks. -/
theorem narrowed_narrowed (segment : List Char) :
    narrowed (narrowed (segment ++ ['\n', '\n']))
      = segment ++ List.replicate (2 - trailingBreaks segment) '\n' := by
  have one : trailingBreaks (segment ++ ['\n']) = trailingBreaks segment + 1 :=
    trailingBreaks_concat segment '\n'
  have two := trailingBreaks_append_two segment
  have split : segment ++ ['\n', '\n'] = segment ++ ['\n'] ++ ['\n'] := by simp
  rcases hn : trailingBreaks segment with _ | _ | n
  · have hs : narrowed (segment ++ ['\n', '\n']) = segment ++ ['\n', '\n'] := if_neg (by omega)
    rw [hs, hs]
    rfl
  · rw [split, narrowed_concat (by omega)]
    exact if_neg (by omega)
  · rw [split, narrowed_concat (by omega), narrowed_concat (by omega), Nat.sub_eq_zero_of_le (by omega),
      List.replicate_zero, List.append_nil]

end Prompt

namespace Script

/-- Changes the segments that a marker of a turn follows. -/
def mapBefore (turn : Turn) (f : List Char → List Char) : Script → Script
  | last segment => last segment
  | .turn segment next rest => .turn (if next = turn then f segment else segment) next (rest.mapBefore turn f)

variable (turn : Turn) {f : List Char → List Char} {script : Script}

theorem Plain.mapBefore (h : script.Plain) (hf : ∀ segment, Unmarked segment → Unmarked (f segment)) :
    (script.mapBefore turn f).Plain := by
  induction script with
  | last segment => exact h
  | turn segment next rest ih =>
    refine ⟨?_, ih h.2⟩
    by_cases hn : next = turn
    · rw [if_pos hn]
      exact hf segment h.1
    · rw [if_neg hn]
      exact h.1

theorem mapBefore_mapBefore (g : List Char → List Char) :
    (script.mapBefore turn f).mapBefore turn g = script.mapBefore turn (g ∘ f) := by
  induction script with
  | last segment => rfl
  | turn segment next rest ih =>
    rw [mapBefore, mapBefore, ih, mapBefore]
    by_cases hn : next = turn <;> simp [hn]

theorem mapBefore_eq_widened (script : Script) :
    ((script.mapBefore .human fun segment =>
        segment ++ List.replicate (2 - Prompt.trailingBreaks segment) '\n').mapBefore .assistant
      fun segment => segment ++ List.replicate (2 - Prompt.trailingBreaks segment) '\n')
        = script.widened := by
  induction script with
  | last segment => rfl
  | turn segment next rest ih =>
    rw [mapBefore, mapBefore, ih, widened_turn]
    cases next <;> rfl

end Script

namespace Prompt

/-! ## What a replacement does to a script -/

/-- The text in front of a marker stays as it is. -/
theorem replaceAll_marker_segment (turn : Turn) (new : List Char) {segment : List Char} (h : Unmarked segment)
    (next : Turn) (rest : List Char) :
    replaceAll turn.marker new (segment ++ (next.marker ++ rest))
      = segment ++ replaceAll turn.marker new (next.marker ++ rest) := by
  induction segment with
  | nil => rfl
  | cons c others ih =>
    obtain ⟨hs, hr⟩ := Unmarked.cons_iff.mp h
    have hm : Turn.atStart? (c :: (others ++ (next.marker ++ rest))) = none :=
      (Turn.atStart?_append_marker (List.cons_ne_nil c others) next rest).trans hs
    rw [List.cons_append, replaceAll_cons new (Turn.atStart?_eq_none.mp hm turn), ih hr]
    rfl

theorem widen_marker (turn next : Turn) (rest : List Char) :
    widen turn (next.marker ++ rest)
      = (if next = turn then ['\n', '\n'] else []) ++ (next.marker ++ widen turn rest) := by
  by_cases h : next = turn
  · subst h
    rw [widen, replaceAll_append _ (by cases next <;> decide), if_pos rfl]
    rfl
  · rw [if_neg h]
    cases turn <;> cases next <;> first | rfl | exact absurd rfl h

theorem widen_text (turn : Turn) {script : Script} (h : script.Plain) :
    widen turn script.text = (script.mapBefore turn (· ++ ['\n', '\n'])).text := by
  induction script with
  | last segment => exact replaceAll_of_not_infix _ (h turn)
  | turn segment next rest ih =>
    have hs := replaceAll_marker_segment turn turn.opening h.1 next rest.text
    have hm := widen_marker turn next rest.text
    rw [widen] at hm
    rw [Script.text, widen, hs, hm, ih h.2, Script.mapBefore, Script.text, ← List.append_assoc]
    by_cases hn : next = turn <;> simp [hn]

/-- Three line breaks and a marker start nowhere in a segment, unless it is the three line breaks. -/
theorem narrow_prefix_iff (turn next : Turn) {segment : List Char} (h : Unmarked segment) (rest : List Char) :
    '\n' :: turn.opening <+: segment ++ (next.marker ++ rest) ↔
      segment = ['\n', '\n', '\n'] ∧ next = turn := by
  constructor
  · rintro ⟨after, he⟩
    have he : ['\n', '\n', '\n'] ++ (turn.marker ++ after) = segment ++ (next.marker ++ rest) := he
    have same : turn.marker ++ after = next.marker ++ rest → next = turn := fun hm =>
      Turn.eq_of_starts ⟨rest, rfl⟩ ⟨after, hm⟩
    rcases List.append_eq_append_iff.mp he with ⟨more, hs, hm⟩ | ⟨more, hs, hm⟩
    · cases more with
      | nil => exact ⟨hs.trans (List.append_nil _), same hm⟩
      | cons c more =>
        -- The marker would start in the segment, and so be complete there.
        have ht := Turn.atStart?_append_marker (List.cons_ne_nil c more) next rest
        rw [← hm, Turn.atStart?_eq_some.mpr (List.prefix_append _ _)] at ht
        refine absurd ?_ (h turn)
        rw [hs]
        exact (Turn.atStart?_eq_some.mp ht.symm).isInfix.trans (List.suffix_append _ _).isInfix
    · cases more with
      | nil => exact ⟨(hs.trans (List.append_nil _)).symm, same hm.symm⟩
      | cons c more =>
        -- The segment is too short: the next marker would start with a line break.
        have hc : c ∈ ['\n', '\n', '\n'] := hs ▸ List.mem_append_right _ List.mem_cons_self
        obtain rfl : c = '\n' := by simpa using hc
        cases next <;> cases hm
  · rintro ⟨rfl, rfl⟩
    exact ⟨rest, rfl⟩

theorem narrow_marker (turn next : Turn) (rest : List Char) :
    narrow turn (next.marker ++ rest) = next.marker ++ narrow turn rest := by
  cases turn <;> cases next <;> rfl

theorem narrow_segment (turn next : Turn) {segment : List Char} (h : Unmarked segment) (rest : List Char) :
    narrow turn (segment ++ (next.marker ++ rest))
      = (if next = turn then narrowed segment else segment) ++ (next.marker ++ narrow turn rest) := by
  induction segment with
  | nil =>
    have hn : narrowed [] = [] := rfl
    rw [hn, ite_self]
    exact narrow_marker turn next rest
  | cons c others ih =>
    by_cases hb : c :: others = ['\n', '\n', '\n'] ∧ next = turn
    · obtain ⟨hs, rfl⟩ := hb
      rw [hs, if_pos rfl]
      exact replaceAll_append _ (List.cons_ne_nil _ _) rest
    · have hp : ¬ '\n' :: turn.opening <+: c :: (others ++ (next.marker ++ rest)) :=
        (narrow_prefix_iff turn next h rest).not.mpr hb
      have hc := ih (Unmarked.cons_iff.mp h).2
      rw [narrow] at hc
      rw [narrow, List.cons_append, replaceAll_cons _ hp, hc]
      by_cases hn : next = turn
      · rw [if_pos hn, if_pos hn, narrowed_cons fun hs => hb ⟨hs, hn⟩]
        rfl
      · rw [if_neg hn, if_neg hn]
        rfl

theorem narrow_text (turn : Turn) {script : Script} (h : script.Plain) :
    narrow turn script.text = (script.mapBefore turn narrowed).text := by
  induction script with
  | last segment =>
    refine replaceAll_of_not_infix _ fun hs => h turn (List.IsInfix.trans ?_ hs)
    exact (List.suffix_append ['\n', '\n', '\n'] turn.marker).isInfix
  | turn segment next rest ih => rw [Script.text, narrow_segment turn next h.1, ih h.2]; rfl

/-! ## All replacements -/

/-- What two line breaks more and twice one less come to. -/
theorem replaced_text (turn : Turn) {script : Script} (h : script.Plain) :
    replaced turn script.text
      = (script.mapBefore turn fun segment =>
          segment ++ List.replicate (2 - trailingBreaks segment) '\n').text := by
  have hw := h.mapBefore turn fun segment hs => hs.append_lineBreaks 2
  have hn := hw.mapBefore turn fun segment => unmarked_narrowed
  rw [replaced, widen_text turn h]
  rw [show (· ++ ['\n', '\n']) = fun segment : List Char => segment ++ List.replicate 2 '\n' from rfl,
    narrow_text turn hw, narrow_text turn hn, Script.mapBefore_mapBefore, Script.mapBefore_mapBefore]
  exact congrArg (fun f => (script.mapBefore turn f).text) (funext narrowed_narrowed)

/-- The replacements for the markers of both turns space a text.  Line breaks that are put in front of a
marker at its very start come to nothing. -/
theorem replaced_eq_spaced (text : List Char) :
    replaced .assistant (replaced .human
      (if Turn.human.marker.isPrefixOf text then '\n' :: '\n' :: text else text)) = spaced 0 text := by
  have both : ∀ text, replaced .assistant (replaced .human text) = spaced 0 text := fun text => by
    have hp := Script.plain_ofText text
    have hh := hp.mapBefore .human fun segment hs =>
      hs.append_lineBreaks (2 - trailingBreaks segment)
    have ht := replaced_text .assistant hh
    rw [Script.mapBefore_eq_widened, ← replaced_text .human hp, ← spaced_text hp, Script.text_ofText] at ht
    exact ht
  split
  · rename_i h
    obtain ⟨rest, rfl⟩ := List.isPrefixOf_iff_prefix.mp h
    rw [both]
    rfl
  · exact both text

end Prompt

end Colloquy
