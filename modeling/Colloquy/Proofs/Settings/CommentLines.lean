import Colloquy.Proofs.Settings.Expansion
import Colloquy.Settings.Reader
/-!
# Comment lines of settings

Placeholders are looked for line by line, before a text is read as a document.  A line whose first character
other than a blank is `#` is left alone, so its placeholders never have to resolve; on all other lines every
match is filled in, wherever the document has it: within a string, or in a comment behind a value.

Results:
* `Stretch.IsCut.found_or_inside`: a match on a line that is no comment is one of the cut, unless it starts
  inside a match before it.
* `Settings.ofText_of_agree`: only the variables of the matches of its cut matter to a text.
-/
namespace Colloquy

namespace Stretch

/-! ## Where the matches of a cut are -/

/-- Whether a match stands in a cut, behind some text. -/
def Holds (cut : List Stretch) (before : List Char) (placeholder : Placeholder) (matched : List Char) :
    Prop :=
  ∃ first second, cut = first ++ found placeholder matched :: second ∧ first.flatMap text = before

/-- Whether the end of some text lies inside a match of a cut. -/
def EndsInside (cut : List Stretch) (before : List Char) : Prop :=
  ∃ first placeholder matched second inner, cut = first ++ found placeholder matched :: second ∧
    first.flatMap text ++ inner = before ∧ inner ≠ [] ∧ inner.length < matched.length

/-- Whether a line with some text is one of the lines of a whole text, behind the lines `above`. -/
def IsLineOf (whole : String) (above : List (List Char)) (line : List Char) : Prop :=
  ∃ below, whole.toList = ['\n'].intercalate (above ++ line :: below) ∧
    ∀ other ∈ above ++ line :: below, '\n' ∉ other

section

variable {placeholder : Placeholder} {matched before behind : List Char} {cut : List Stretch}

theorem Holds.append (h : Holds cut before placeholder matched) (front back : List Stretch) :
    Holds (front ++ (cut ++ back)) (front.flatMap text ++ before) placeholder matched := by
  obtain ⟨first, second, rfl, rfl⟩ := h
  exact ⟨front ++ first, second ++ back, by simp, List.flatMap_append⟩

theorem EndsInside.append (h : EndsInside cut before) (front back : List Stretch) :
    EndsInside (front ++ (cut ++ back)) (front.flatMap text ++ before) := by
  obtain ⟨first, other, around, second, inner, rfl, rfl, hne, hlt⟩ := h
  exact ⟨front ++ first, other, around, second ++ back, inner, by simp, by simp, hne, hlt⟩

/-- Scanning a line finds every match on it, except one that starts inside a match before it. -/
theorem Scanned.found_or_inside (h : Scanned cut) (hm : placeholder.Matches matched)
    (ht : cut.flatMap text = before ++ (matched ++ behind)) :
    Holds cut before placeholder matched ∨ EndsInside cut before := by
  induction h generalizing before with
  | nil =>
    have hnil := List.append_eq_nil_iff.mp (List.append_eq_nil_iff.mp ht.symm).2
    exact absurd hnil.1 hm.ne_nil
  | @plain c stretches hs hn ih =>
    cases before with
    | nil => exact absurd ⟨behind, ht.symm⟩ (hn placeholder matched hm)
    | cons d before =>
      obtain ⟨rfl, hr⟩ := List.cons.inj ht
      exact (ih hr).imp (fun h => by simpa [text] using h.append [.plain c] [])
        (fun h => by simpa [text] using h.append [.plain c] [])
  | @found other around stretches hs ho ih =>
    by_cases hb : before = []
    · subst hb
      obtain ⟨rfl, rfl⟩ := ho.unique hm ht
      exact .inl ⟨[], stretches, rfl, rfl⟩
    by_cases hlt : before.length < around.length
    · exact .inr ⟨[], other, around, stretches, before, rfl, rfl, hb, hlt⟩
    · obtain ⟨rest, rfl⟩ : around <+: before :=
        List.prefix_of_prefix_length_le ⟨_, ht⟩ ⟨_, rfl⟩ (Nat.le_of_not_lt hlt)
      have ht : stretches.flatMap text = rest ++ (matched ++ behind) := by
        rw [List.append_assoc] at ht
        exact List.append_cancel_left ht
      exact (ih ht).imp (fun h => by simpa [text] using h.append [.found other around] [])
        (fun h => by simpa [text] using h.append [.found other around] [])

end

theorem intercalate_append_cons (between : α) (above : List (List α)) (line : List α)
    (below : List (List α)) :
    ∃ back, [between].intercalate (above ++ line :: below)
      = above.flatMap (· ++ [between]) ++ (line ++ back) := by
  induction above with
  | nil =>
    cases below with
    | nil => exact ⟨[], by simp⟩
    | cons next below => exact ⟨[between] ++ [between].intercalate (next :: below), by
        simp [List.intercalate_cons_cons]⟩
  | cons first above ih =>
    obtain ⟨back, ih⟩ := ih
    refine ⟨back, ?_⟩
    rw [List.cons_append, List.intercalate_cons_of_ne_nil (by simp), ih]
    simp

/-- A match on a line that is no comment is one of the cut of the text, unless it starts inside a match
before it. -/
theorem IsCut.found_or_inside {whole : String} {cut : List Stretch} (h : IsCut whole cut)
    {above : List (List Char)} {before matched behind : List Char} {placeholder : Placeholder}
    (hl : IsLineOf whole above (before ++ (matched ++ behind)))
    (hc : ¬ IsComment (before ++ (matched ++ behind))) (hm : placeholder.Matches matched) :
    Holds cut (above.flatMap (· ++ ['\n']) ++ before) placeholder matched ∨
      EndsInside cut (above.flatMap (· ++ ['\n']) ++ before) := by
  obtain ⟨ht, lines, hne, rfl, hlines⟩ := h
  obtain ⟨below, hw, hb⟩ := hl
  have hsplit : lines.map (·.flatMap text) = above ++ (before ++ (matched ++ behind)) :: below := by
    rw [← IsCut.splitOnChar_eq hne ht hlines, splitOnChar_eq_splitOn, hw]
    exact List.splitOn_intercalate '\n' hb (by simp)
  obtain ⟨first, second, rfl, rfl, hs⟩ := List.map_eq_append_iff.mp hsplit
  obtain ⟨line, rest, rfl, htext, -⟩ := List.map_eq_cons_iff.mp hs
  have hscanned : Scanned line := by
    cases (hlines line (by simp)).1 with
    | comment hcomment =>
      rw [flatMap_text_plain] at htext
      exact absurd (htext ▸ hcomment) hc
    | scanned _ hs => exact hs
  obtain ⟨back, hback⟩ := intercalate_append_cons (plain '\n') first line rest
  have hfront : (first.flatMap (· ++ [plain '\n'])).flatMap text
      = (first.map (·.flatMap text)).flatMap (· ++ ['\n']) := by
    rw [List.flatMap_assoc, List.flatMap_map]
    simp [text]
  rw [hback, ← hfront]
  exact (hscanned.found_or_inside hm htext).imp (fun h => h.append _ back) (fun h => h.append _ back)

end Stretch

/-! ## What does not matter -/

open Stretch

/-- Whether two environments give the same values to all variables that the matches of a cut refer to. -/
def Environment.AgreeOn (env other : Environment) (cut : List Stretch) : Prop :=
  ∀ placeholder ∈ cut.filterMap placeholder?, ∀ name, Placeholder.RefersTo placeholder.key name →
    env (String.ofList name) = other (String.ofList name)

theorem filterMap_intercalate {f : α → Option β} {between : α} (hb : f between = none)
    (lines : List (List α)) : ([between].intercalate lines).filterMap f = lines.flatten.filterMap f := by
  induction lines with
  | nil => rfl
  | cons line rest ih =>
    by_cases hr : rest = []
    · simp [hr]
    · rw [List.intercalate_cons_of_ne_nil hr]
      simp [hb, ih]

/-- The variables that matter are those that the placeholders of the text are said to refer to. -/
theorem Environment.agreeOn_iff {env other : Environment} {whole : String} {cut : List Stretch}
    (h : IsCut whole cut) :
    env.AgreeOn other cut ↔ ∀ name ∈ placeholderVariables whole, env name = other name := by
  obtain ⟨ht, lines, hne, rfl, hl⟩ := h
  have hv : placeholderVariables whole
      = lines.flatten.filterMap fun stretch => stretch.piece.variableName? := by
    rw [placeholderVariables, IsCut.splitOnChar_eq hne ht hl, List.flatMap_map, List.filterMap_flatten,
      List.flatMap_def]
    refine congrArg List.flatten (List.map_congr_left fun line hm => ?_)
    rw [← (hl line hm).1.pieces, List.filterMap_map]
    rfl
  unfold AgreeOn
  rw [filterMap_intercalate rfl, hv]
  constructor
  · intro ha name hn
    obtain ⟨stretch, hm, hs⟩ := List.mem_filterMap.mp hn
    cases stretch with
    | plain c => cases hs
    | found placeholder matched =>
      obtain ⟨name, hk, rfl⟩ := Option.map_eq_some_iff.mp hs
      exact ha placeholder (List.mem_filterMap.mpr ⟨_, hm, rfl⟩) name
        (Placeholder.variableName?_eq_some_iff.mp hk)
  · intro ha placeholder hp name hk
    obtain ⟨stretch, hm, hs⟩ := List.mem_filterMap.mp hp
    cases stretch with
    | plain c => cases hs
    | found other matched =>
      cases hs
      refine ha _ (List.mem_filterMap.mpr ⟨_, hm, ?_⟩)
      exact congrArg (Option.map String.ofList) (Placeholder.variableName?_eq_some_iff.mpr hk)

theorem resolve_congr {env other : Environment} {placeholder : Placeholder}
    (h : ∀ name, Placeholder.RefersTo placeholder.key name →
      env (String.ofList name) = other (String.ofList name)) :
    placeholder.resolve env = placeholder.resolve other := by
  unfold Placeholder.resolve
  cases hn : Placeholder.variableName? placeholder.key with
  | none => rfl
  | some name => simp only [h name (Placeholder.variableName?_eq_some_iff.mp hn)]

theorem fillPlaceholders_congr {env other : Environment} {whole : String} {cut : List Stretch}
    (h : IsCut whole cut) (ha : env.AgreeOn other cut) :
    fillPlaceholders env whole = fillPlaceholders other whole := by
  have hfill : cut.mapM (Stretch.fill env) = cut.mapM (Stretch.fill other) := by
    refine mapM_congr fun stretch hm => ?_
    cases stretch with
    | plain c => rfl
    | found placeholder matched =>
      exact resolve_congr (ha placeholder (List.mem_filterMap.mpr ⟨_, hm, rfl⟩))
  rw [fillPlaceholders_eq h, fillPlaceholders_eq h, fillEach, fillEach, hfill]

namespace Settings

theorem read?_of_ofText {env : Environment} {text : String} {settings : Settings}
    (h : ofText env text = .ok settings) :
    ∃ filled, fillPlaceholders env text = .ok filled ∧ read? filled = some settings := by
  unfold ofText at h
  split at h
  · cases h
  · rename_i filled hf
    split at h
    · cases h
    · rename_i found hr
      split at h
      · cases h
      · cases h
        exact ⟨filled, hf, hr⟩

/-- Two environments that agree on the variables of all placeholders outside comment lines come to the same
filled text, or the same failure to fill it, and so to the same settings or the same fault.  Accepted settings are those of the text with every match of its cut replaced by
what it stands for.  Every placeholder on a line that is no comment is such a match, unless it starts inside
one before it. -/
theorem ofText_of_agree {env other : Environment} {whole : String} {cut : List Stretch}
    (h : IsCut whole cut) (ha : env.AgreeOn other cut) :
    fillPlaceholders env whole = fillPlaceholders other whole ∧
      ofText env whole = ofText other whole ∧
      (∀ settings, ofText env whole = .ok settings → ∃ value : Placeholder → List Char,
        (∀ placeholder ∈ cut.filterMap placeholder?, placeholder.StandsFor env (value placeholder)) ∧
        read? (String.ofList (cut.flatMap (replaced value))) = some settings) ∧
      ∀ above before matched behind placeholder, IsLineOf whole above (before ++ (matched ++ behind)) →
        ¬ IsComment (before ++ (matched ++ behind)) → placeholder.Matches matched →
        Holds cut (above.flatMap (· ++ ['\n']) ++ before) placeholder matched ∨
          EndsInside cut (above.flatMap (· ++ ['\n']) ++ before) := by
  have filled := fillPlaceholders_congr h ha
  refine ⟨filled, ?_, ?_, fun above before matched behind placeholder hl hc hm =>
    h.found_or_inside hl hc hm⟩
  · rw [ofText, ofText, filled]
  · intro settings hs
    obtain ⟨filled, hf, hr⟩ := read?_of_ofText hs
    have stands := stands_of_fillPlaceholders h hf
    classical
    choose! value hv using stands
    rw [fillPlaceholders_replaced h hv] at hf
    cases hf
    exact ⟨value, hv, hr⟩

/-- A variable of a comment line that is set in only one of two environments, and one that both fill in. -/
theorem ofText_of_agree_comment_line :
    ∃ cut, IsCut "[model]\n # \x7b\x7benv.V\x7d\x7d\nid=\"meta.\x7b\x7benv.W\x7d\x7d\"" cut ∧
      Environment.AgreeOn (fun name => if name = "W" then some "a" else none)
        (fun name => if name = "W" then some "a" else some "b") cut ∧
      ofText (fun name => if name = "W" then some "a" else none)
          "[model]\n # \x7b\x7benv.V\x7d\x7d\nid=\"meta.\x7b\x7benv.W\x7d\x7d\"" =
        ofText (fun name => if name = "W" then some "a" else some "b")
          "[model]\n # \x7b\x7benv.V\x7d\x7d\nid=\"meta.\x7b\x7benv.W\x7d\x7d\"" ∧
      ofText (fun name => if name = "W" then some "a" else none)
          "[model]\n # \x7b\x7benv.V\x7d\x7d\nid=\"meta.\x7b\x7benv.W\x7d\x7d\"" =
        .ok ⟨⟨"meta.a", none, none, false, none, none, []⟩, .empty, .none, .standard⟩ := by
  obtain ⟨cut, h⟩ :=
    IsCut.exists_cut "[model]\n # \x7b\x7benv.V\x7d\x7d\nid=\"meta.\x7b\x7benv.W\x7d\x7d\""
  have ha : Environment.AgreeOn (fun name => if name = "W" then some "a" else none)
      (fun name => if name = "W" then some "a" else some "b") cut := by
    refine (Environment.agreeOn_iff h).mpr ?_
    decide +kernel
  exact ⟨cut, h, ha, (ofText_of_agree h ha).2.1, eq_ok_of_toOption (by decide +kernel)⟩

/-- A placeholder in a comment behind a value has to resolve, and one on a line of a string that starts with
`#` is kept. -/
theorem placeholder_behind_value_resolved :
    (ofText (fun _ => none) "[model]\nid=\"meta.a\" # \x7b\x7benv.V\x7d\x7d" =
        .error (.placeholder (.unset "V")) ∧
      ofText (fun _ => some "") "[model]\nid=\"meta.a\" # \x7b\x7benv.V\x7d\x7d" =
        .ok ⟨⟨"meta.a", none, none, false, none, none, []⟩, .empty, .none, .standard⟩) ∧
      ofText (fun _ => some "v") "[model]\nid=\"\"\"\n# \x7b\x7benv.V\x7d\x7d\"\"\"" =
        .ok ⟨⟨"# \x7b\x7benv.V\x7d\x7d", none, none, false, none, none, []⟩, .empty, .none, .standard⟩ := by
  refine ⟨⟨?_, eq_ok_of_toOption (by decide +kernel)⟩, eq_ok_of_toOption (by decide +kernel)⟩
  decide +kernel

end Settings

end Colloquy
