import Colloquy.Proofs.Result
import Colloquy.Proofs.Settings.Pattern
/-!
# Filling in placeholders

A text is cut into stretches: matches of the pattern of a placeholder, and characters at which no match
starts.  Lines are cut one by one, and a line whose first character other than a blank is `#` has no matches.
There is one such cut of every text.  Filling in a text replaces the matches of its cut and nothing else, or
fails with the first of them for which there is nothing to fill in.

Results:
* `Placeholder.resolve_eq_ok_iff`, `Placeholder.resolve_eq_error_iff`: what a placeholder stands for, and
  when there is nothing.
* `Stretch.IsCut.exists`, `Stretch.IsCut.unique`: the one cut of a text.
* `fillPlaceholders_eq`: a filled text, stretch by stretch.
* `matches_replaced`: when a text is filled in, with what, and why it is not.
-/
namespace Colloquy

namespace Placeholder

/-! ## What a placeholder stands for -/

/-- Whether a key refers to the variable with a name: `env.` and the name, in which there is no point. -/
def RefersTo (key name : List Char) : Prop := key = ['e', 'n', 'v', '.'] ++ name ∧ '.' ∉ name

/-- What is put in the place of a placeholder: the value of its variable, or its default if the variable is
not set. -/
inductive StandsFor (env : Environment) (placeholder : Placeholder) : List Char → Prop
  | value {name : List Char} {value : String} (hk : RefersTo placeholder.key name)
      (hv : env (String.ofList name) = some value) : StandsFor env placeholder value.toList
  | default {name content : List Char} (hk : RefersTo placeholder.key name)
      (hv : env (String.ofList name) = none) (hd : placeholder.default = some content) :
      StandsFor env placeholder content

/-- Why there is nothing to put in the place of a placeholder: its variable is not set and there is no
default, or its key is not that of a variable. -/
inductive Lacks (env : Environment) (placeholder : Placeholder) : PlaceholderFault → Prop
  | unset {name : List Char} (hk : RefersTo placeholder.key name) (hv : env (String.ofList name) = none)
      (hd : placeholder.default = none) : Lacks env placeholder (.unset (String.ofList name))
  | unsupported (hk : ∀ name, ¬ RefersTo placeholder.key name) :
      Lacks env placeholder (.unsupported (String.ofList placeholder.key))

theorem variableName?_eq_some_iff {key name : List Char} :
    variableName? key = some name ↔ RefersTo key name := by
  simp only [variableName?, Option.bind_eq_bind, Option.bind_eq_some_iff]
  constructor
  · rintro ⟨rest, ha, h⟩
    split at h
    · cases h
    · rename_i hp
      cases h
      exact ⟨after?_eq_some_iff.mp ha, by simpa using hp⟩
  · rintro ⟨rfl, hp⟩
    exact ⟨name, after?_append _ _, by simp [hp]⟩

theorem variableName?_eq_none_iff {key : List Char} :
    variableName? key = none ↔ ∀ name, ¬ RefersTo key name := by
  rw [Option.eq_none_iff_forall_ne_some]
  exact forall_congr' fun name => not_congr variableName?_eq_some_iff

section

variable {env : Environment} {placeholder : Placeholder}

theorem resolve_eq_ok_iff {text : List Char} :
    placeholder.resolve env = .ok text ↔ placeholder.StandsFor env text := by
  unfold resolve
  constructor
  · intro h
    split at h
    · cases h
    · rename_i name hn
      have hk := variableName?_eq_some_iff.mp hn
      split at h <;> cases h
      · rename_i hv
        exact .value hk hv
      · rename_i hv hd
        exact .default hk hv hd
  · rintro (⟨hk, hv⟩ | ⟨hk, hv, hd⟩)
    · rw [variableName?_eq_some_iff.mpr hk]
      simp only [hv]
    · rw [variableName?_eq_some_iff.mpr hk]
      simp only [hv, hd]

theorem resolve_eq_error_iff {fault : PlaceholderFault} :
    placeholder.resolve env = .error fault ↔ placeholder.Lacks env fault := by
  unfold resolve
  constructor
  · intro h
    split at h
    · rename_i hn
      cases h
      exact .unsupported (variableName?_eq_none_iff.mp hn)
    · rename_i name hn
      have hk := variableName?_eq_some_iff.mp hn
      split at h <;> cases h
      rename_i hv hd
      exact .unset hk hv hd
  · rintro (⟨hk, hv, hd⟩ | hk)
    · rw [variableName?_eq_some_iff.mpr hk]
      simp only [hv, hd]
    · rw [variableName?_eq_none_iff.mpr hk]

end

end Placeholder

/-! ## The cut of a text -/

/-- A stretch of a text: a character of its own, or a match of the pattern of a placeholder. -/
inductive Stretch where
  | plain (c : Char)
  | found (placeholder : Placeholder) (matched : List Char)

namespace Stretch

/-- What a stretch takes of its text. -/
def text : Stretch → List Char
  | plain c => [c]
  | found _ matched => matched

def placeholder? : Stretch → Option Placeholder
  | plain _ => none
  | found placeholder _ => some placeholder

def piece : Stretch → Piece
  | plain c => .plain c
  | found placeholder _ => .placeholder placeholder

/-- What is left of a stretch when something is put in the place of each match. -/
def replaced (value : Placeholder → List Char) : Stretch → List Char
  | plain c => [c]
  | found placeholder _ => value placeholder

/-- Whether a text is that of a comment: its first character other than a blank is `#`. -/
def IsComment (line : List Char) : Prop := ∃ blanks rest, Blanks blanks ∧ line = blanks ++ '#' :: rest

/-- The stretches of a text read from its start: a match wherever one starts, and otherwise a character. -/
inductive Scanned : List Stretch → Prop
  | nil : Scanned []
  | plain {c : Char} {stretches : List Stretch} (hs : Scanned stretches)
      (hn : ∀ placeholder matched, Placeholder.Matches placeholder matched →
        ¬ matched <+: c :: stretches.flatMap text) : Scanned (plain c :: stretches)
  | found {placeholder : Placeholder} {matched : List Char} {stretches : List Stretch}
      (hs : Scanned stretches) (hm : placeholder.Matches matched) :
      Scanned (found placeholder matched :: stretches)

/-- The stretches of a line.  A comment has no matches. -/
inductive IsLine : List Stretch → Prop
  | comment {line : List Char} (hc : IsComment line) : IsLine (line.map plain)
  | scanned {stretches : List Stretch} (hc : ¬ IsComment (stretches.flatMap text))
      (hs : Scanned stretches) : IsLine stretches

/-- Whether stretches are the cut of a text: those of its lines, with a line break between. -/
structure IsCut (whole : String) (cut : List Stretch) : Prop where
  text_eq : cut.flatMap text = whole.toList
  lines : ∃ lines : List (List Stretch), lines ≠ [] ∧ cut = [plain '\n'].intercalate lines ∧
    ∀ line ∈ lines, IsLine line ∧ '\n' ∉ line.flatMap text

theorem isComment_iff {line : List Char} : Piece.isComment line = true ↔ IsComment line := by
  unfold Piece.isComment
  constructor
  · intro h
    obtain ⟨blanks, hb, he⟩ := exists_blanks line
    split at h
    · rename_i c rest ht
      rw [beq_iff_eq] at h
      rw [ht, h] at he
      exact ⟨blanks, rest, hb, he⟩
    · cases h
  · rintro ⟨blanks, rest, hb, rfl⟩
    rw [trimStart_blanks hb (.cons (by decide) _)]
    rfl

theorem flatMap_text_plain (line : List Char) : (line.map plain).flatMap text = line := by
  induction line with
  | nil => rfl
  | cons c rest ih => exact congrArg (c :: ·) ih

/-! ## There is one cut -/

theorem ofLineFrom_eq_drop (skip : Nat) (line : List Char) :
    Piece.ofLineFrom skip line = Piece.ofLineFrom 0 (line.drop skip) := by
  induction line generalizing skip with
  | nil => cases skip <;> rfl
  | cons c rest ih =>
    cases skip with
    | zero => rfl
    | succ skip => exact ih skip

/-- Every line can be scanned, and the scanner of the settings comes to the same pieces. -/
theorem Scanned.exists_stretches (line : List Char) :
    ∃ stretches, Scanned stretches ∧ stretches.flatMap text = line ∧
      stretches.map piece = Piece.ofLineFrom 0 line := by
  -- on the length, because a match takes several characters at once
  induction hl : line.length using Nat.strongRecOn generalizing line with
  | ind size ih =>
    cases line with
    | nil => exact ⟨[], .nil, rfl, rfl⟩
    | cons c rest =>
      rw [Piece.ofLineFrom]
      split
      · rename_i placeholder behind ha
        obtain ⟨matched, hm, he⟩ := Placeholder.atStart?_eq_some_iff.mp ha
        obtain ⟨first, tail, rfl⟩ := List.exists_cons_of_ne_nil hm.ne_nil
        obtain ⟨rfl, rfl⟩ := List.cons.inj he
        obtain ⟨stretches, hs, ht, hp⟩ := ih behind.length (by simp at hl; omega) behind rfl
        refine ⟨.found placeholder (c :: tail) :: stretches, .found hs hm, ?_, ?_⟩
        · rw [List.flatMap_cons, ht]
          rfl
        · have hd : (tail.append behind).drop ((tail.append behind).length - behind.length) = behind := by
            simp
          rw [ofLineFrom_eq_drop, hd, ← hp]
          rfl
      · rename_i hn
        obtain ⟨stretches, hs, ht, hp⟩ := ih rest.length (by simp at hl; omega) rest rfl
        refine ⟨.plain c :: stretches, .plain hs ?_, ?_, ?_⟩
        · rintro placeholder matched hm ⟨behind, he⟩
          rw [ht] at he
          rw [Placeholder.atStart?_eq_some_iff.mpr ⟨matched, hm, he.symm⟩] at hn
          cases hn
        · rw [List.flatMap_cons, ht]
          rfl
        · rw [List.map_cons, hp]
          rfl

theorem Scanned.unique {stretches others : List Stretch} (h : Scanned stretches) (ho : Scanned others)
    (he : stretches.flatMap text = others.flatMap text) : stretches = others := by
  induction h generalizing others with
  | nil =>
    cases ho with
    | nil => rfl
    | plain => cases he
    | found hs hm => exact absurd (List.append_eq_nil_iff.mp he.symm).1 hm.ne_nil
  | @plain c stretches hs hn ih =>
    cases ho with
    | nil => cases he
    | plain ho =>
      obtain ⟨rfl, ht⟩ := List.cons.inj he
      rw [ih ho ht]
    | found ho hm =>
      refine absurd ?_ (hn _ _ hm)
      exact ⟨_, he.symm⟩
  | @found placeholder matched stretches hs hm ih =>
    cases ho with
    | nil => exact absurd (List.append_eq_nil_iff.mp he).1 hm.ne_nil
    | plain ho hn =>
      refine absurd ?_ (hn _ _ hm)
      exact ⟨_, he⟩
    | found ho hmo =>
      obtain ⟨rfl, rfl⟩ := hm.unique hmo he
      rw [ih ho (List.append_cancel_left he)]

theorem IsLine.exists_stretches (line : List Char) :
    ∃ stretches, IsLine stretches ∧ stretches.flatMap text = line := by
  by_cases hc : IsComment line
  · exact ⟨_, .comment hc, flatMap_text_plain line⟩
  · obtain ⟨stretches, hs, ht, -⟩ := Scanned.exists_stretches line
    exact ⟨stretches, .scanned (by rwa [ht]) hs, ht⟩

theorem IsLine.unique {stretches others : List Stretch} (h : IsLine stretches) (ho : IsLine others)
    (he : stretches.flatMap text = others.flatMap text) : stretches = others := by
  cases h with
  | comment hc =>
    rw [flatMap_text_plain] at he
    cases ho with
    | comment => rw [he, flatMap_text_plain]
    | scanned hn => exact absurd (he ▸ hc) hn
  | scanned hn hs =>
    cases ho with
    | comment hc =>
      rw [flatMap_text_plain] at he
      exact absurd (he ▸ hc) hn
    | scanned _ ho => exact hs.unique ho he

theorem IsLine.pieces {stretches : List Stretch} (h : IsLine stretches) :
    stretches.map piece = Piece.ofLine (stretches.flatMap text) := by
  unfold Piece.ofLine
  cases h with
  | @comment line hc =>
    rw [flatMap_text_plain, if_pos (isComment_iff.mpr hc), List.map_map]
    rfl
  | scanned hc hs =>
    rw [if_neg fun h => hc (isComment_iff.mp h)]
    obtain ⟨others, ho, ht, hp⟩ := Scanned.exists_stretches (stretches.flatMap text)
    rw [hs.unique ho ht.symm, hp, ht]

theorem flatMap_intercalate (f : α → List β) (between : List α) (lines : List (List α)) :
    (between.intercalate lines).flatMap f = (between.flatMap f).intercalate (lines.map (·.flatMap f)) := by
  induction lines with
  | nil => rfl
  | cons line rest ih =>
    cases rest with
    | nil => simp
    | cons next rest =>
      rw [List.intercalate_cons_cons, List.flatMap_append, List.flatMap_append, ih]
      exact (List.intercalate_cons_cons).symm

namespace IsCut

variable {whole : String}

theorem splitOnChar_eq {lines : List (List Stretch)} (hne : lines ≠ [])
    (ht : ([plain '\n'].intercalate lines).flatMap text = whole.toList)
    (hl : ∀ line ∈ lines, IsLine line ∧ '\n' ∉ line.flatMap text) :
    splitOnChar '\n' whole.toList = lines.map (·.flatMap text) := by
  rw [flatMap_intercalate] at ht
  rw [splitOnChar_eq_splitOn, ← ht]
  refine List.splitOn_intercalate '\n' ?_ (by simpa using hne)
  intro line hm
  obtain ⟨stretches, hs, rfl⟩ := List.mem_map.mp hm
  exact (hl stretches hs).2

theorem exists_cut (whole : String) : ∃ cut, IsCut whole cut := by
  have hlines (lines : List (List Char)) (h : ∀ line ∈ lines, '\n' ∉ line) :
      ∃ cuts : List (List Stretch), cuts.map (·.flatMap text) = lines ∧
        ∀ cut ∈ cuts, IsLine cut ∧ '\n' ∉ cut.flatMap text := by
    induction lines with
    | nil => exact ⟨[], rfl, nofun⟩
    | cons line rest ih =>
      obtain ⟨hl, hr⟩ := List.forall_mem_cons.mp h
      obtain ⟨stretches, hs, rfl⟩ := IsLine.exists_stretches line
      obtain ⟨cuts, rfl, hc⟩ := ih hr
      exact ⟨stretches :: cuts, rfl, List.forall_mem_cons.mpr ⟨⟨hs, hl⟩, hc⟩⟩
  obtain ⟨cuts, he, hc⟩ := hlines (splitOnChar '\n' whole.toList) fun _ => not_mem_of_mem_splitOnChar
  have hne : cuts ≠ [] := by
    rintro rfl
    rw [splitOnChar_eq_splitOn] at he
    exact List.splitOn_ne_nil _ _ he.symm
  refine ⟨_, ⟨?_, cuts, hne, rfl, hc⟩⟩
  rw [flatMap_intercalate, he, splitOnChar_eq_splitOn]
  exact List.intercalate_splitOn '\n'

theorem unique {cut other : List Stretch} (h : IsCut whole cut) (ho : IsCut whole other) : other = cut := by
  obtain ⟨ht, lines, hne, rfl, hl⟩ := h
  obtain ⟨ht', others, hne', rfl, hl'⟩ := ho
  have he := (splitOnChar_eq hne ht hl).symm.trans (splitOnChar_eq hne' ht' hl')
  have hlines (lines others : List (List Stretch)) (hl : ∀ line ∈ lines, IsLine line)
      (ho : ∀ line ∈ others, IsLine line) (he : lines.map (·.flatMap text) = others.map (·.flatMap text)) :
      lines = others := by
    induction lines generalizing others with
    | nil => exact (List.map_eq_nil_iff.mp he.symm).symm
    | cons line rest ih =>
      cases others with
      | nil => cases he
      | cons other others =>
        obtain ⟨hf, hr⟩ := List.cons.inj he
        obtain ⟨hl, hls⟩ := List.forall_mem_cons.mp hl
        obtain ⟨ho, hos⟩ := List.forall_mem_cons.mp ho
        rw [hl.unique ho hf, ih others hls hos hr]
  rw [hlines lines others (fun line hm => (hl line hm).1) (fun line hm => (hl' line hm).1) he]

end IsCut

end Stretch

/-! ## Filling in -/

open Stretch

/-- What items are filled in with one after the other, joined. -/
def fillEach (fill : α → Except ε (List Char)) (items : List α) : Except ε (List Char) :=
  (items.mapM fill).map List.flatten

/-- What is filled in for a stretch. -/
def Stretch.fill (env : Environment) (stretch : Stretch) : Except PlaceholderFault (List Char) :=
  stretch.piece.fill env

/-- Filling in lines one by one is filling in the text, because line breaks stay as they are. -/
theorem fillEach_lines (fill : α → Except ε (List Char)) (lineBreak : α) (hb : fill lineBreak = .ok ['\n'])
    {lines : List (List α)} (hne : lines ≠ []) :
    (lines.mapM (fillEach fill)).map (['\n'].intercalate ·) = fillEach fill ([lineBreak].intercalate lines) := by
  unfold fillEach
  induction lines with
  | nil => exact absurd rfl hne
  | cons line rest ih =>
    by_cases hr : rest = []
    · subst hr
      rw [List.intercalate_singleton, List.mapM_cons]
      cases line.mapM fill with
      | error fault => rfl
      | ok parts => exact congrArg Except.ok List.intercalate_singleton
    · have ih := ih hr
      rw [List.intercalate_cons_of_ne_nil hr, List.mapM_append, List.mapM_append, List.mapM_cons,
        List.mapM_cons, hb]
      cases line.mapM fill with
      | error fault => rfl
      | ok parts =>
        cases hf : ([lineBreak].intercalate rest).mapM fill with
        | error fault =>
          cases hl : rest.mapM fun line => (List.mapM fill line).map List.flatten with
          | error other => rw [hf, hl] at ih; cases ih; rfl
          | ok others => rw [hf, hl] at ih; cases ih
        | ok others =>
          cases hl : rest.mapM fun line => (List.mapM fill line).map List.flatten with
          | error other => rw [hf, hl] at ih; cases ih
          | ok filled =>
            rw [hf, hl] at ih
            have he : ['\n'].intercalate filled = others.flatten := Except.ok.inj ih
            have hn : filled ≠ [] := by
              rintro rfl
              exact hr (List.forall₂_nil_right_iff.mp (mapM_eq_ok_iff.mp hl))
            refine congrArg Except.ok ?_
            simp [List.intercalate_cons_of_ne_nil hn, he]

section

variable {env : Environment} {whole : String} {cut : List Stretch}

theorem fillLine_eq {stretches : List Stretch} (h : IsLine stretches) :
    fillLine env (stretches.flatMap text) = fillEach (Stretch.fill env) stretches := by
  rw [fillLine, ← h.pieces, List.mapM_map]
  rfl

theorem fillPlaceholders_eq (h : IsCut whole cut) :
    fillPlaceholders env whole = (fillEach (Stretch.fill env) cut).map String.ofList := by
  obtain ⟨ht, lines, hne, rfl, hl⟩ := h
  have hlines : (lines.map (·.flatMap text)).mapM (fillLine env)
      = lines.mapM (fillEach (Stretch.fill env)) := by
    rw [List.mapM_map]
    exact mapM_congr fun line hm => fillLine_eq (hl line hm).1
  rw [fillPlaceholders, IsCut.splitOnChar_eq hne ht hl, hlines, ← fillEach_lines _ (.plain '\n') rfl hne]
  cases lines.mapM (fillEach (Stretch.fill env)) <;> rfl

/-- Whatever stands for its matches is put in their place. -/
theorem fillPlaceholders_replaced (h : IsCut whole cut) {value : Placeholder → List Char}
    (hv : ∀ placeholder ∈ cut.filterMap placeholder?, placeholder.StandsFor env (value placeholder)) :
    fillPlaceholders env whole = .ok (String.ofList (cut.flatMap (replaced value))) := by
  have hfill : cut.mapM (Stretch.fill env) = .ok (cut.map (replaced value)) := by
    rw [mapM_eq_ok_iff, List.forall₂_map_right_iff, List.forall₂_same]
    intro stretch hm
    cases stretch with
    | plain c => rfl
    | found placeholder matched =>
      exact Placeholder.resolve_eq_ok_iff.mpr (hv placeholder (List.mem_filterMap.mpr ⟨_, hm, rfl⟩))
  rw [fillPlaceholders_eq h, fillEach, hfill, List.flatMap_def]
  rfl

theorem stands_of_fillPlaceholders (h : IsCut whole cut) {filled : String}
    (hf : fillPlaceholders env whole = .ok filled) :
    ∀ placeholder ∈ cut.filterMap placeholder?, ∃ value, placeholder.StandsFor env value := by
  intro placeholder hm
  obtain ⟨stretch, hs, hp⟩ := List.mem_filterMap.mp hm
  rw [fillPlaceholders_eq h] at hf
  obtain ⟨text, hj, -⟩ := exists_of_map hf
  obtain ⟨parts, hparts, -⟩ := exists_of_map hj
  obtain ⟨value, hv⟩ := exists_of_mapM_ok hparts stretch hs
  cases stretch with
  | plain c => cases hp
  | found other matched =>
    cases hp
    exact ⟨value, Placeholder.resolve_eq_ok_iff.mp hv⟩

/-- What is not filled in fails with the first match for which there is nothing. -/
theorem fillPlaceholders_eq_error_iff (h : IsCut whole cut) {fault : PlaceholderFault} :
    fillPlaceholders env whole = .error fault ↔
      ∃ before placeholder behind, cut.filterMap placeholder? = before ++ placeholder :: behind ∧
        (∀ earlier ∈ before, ∃ value, earlier.StandsFor env value) ∧ placeholder.Lacks env fault := by
  have herror : fillPlaceholders env whole = .error fault ↔
      cut.mapM (Stretch.fill env) = .error fault := by
    rw [fillPlaceholders_eq h, fillEach]
    cases cut.mapM (Stretch.fill env) with
    | error other => exact ⟨fun he => by cases he; rfl, fun he => by cases he; rfl⟩
    | ok parts => exact iff_of_false nofun nofun
  rw [herror, mapM_eq_error_iff]
  constructor
  · rintro ⟨before, stretch, behind, rfl, hb, hf⟩
    cases stretch with
    | plain c => cases hf
    | found placeholder matched =>
      refine ⟨before.filterMap placeholder?, placeholder, behind.filterMap placeholder?, ?_, ?_,
        Placeholder.resolve_eq_error_iff.mp hf⟩
      · rw [List.filterMap_append]
        rfl
      · intro earlier he
        obtain ⟨stretch, hm, hs⟩ := List.mem_filterMap.mp he
        obtain ⟨value, hv⟩ := hb stretch hm
        cases stretch with
        | plain c => cases hs
        | found other matched =>
          cases hs
          exact ⟨value, Placeholder.resolve_eq_ok_iff.mp hv⟩
  · rintro ⟨before, placeholder, behind, he, hb, hf⟩
    obtain ⟨first, second, rfl, rfl, hsecond⟩ := List.filterMap_eq_append_iff.mp he
    obtain ⟨plains, stretch, last, rfl, hp, hs, -⟩ := List.filterMap_eq_cons_iff.mp hsecond
    refine ⟨first ++ plains, stretch, last, (List.append_assoc ..).symm, ?_, ?_⟩
    · intro earlier hm
      cases earlier with
      | plain c => exact ⟨[c], rfl⟩
      | found other matched =>
        rcases List.mem_append.mp hm with hm | hm
        · obtain ⟨value, hv⟩ := hb other (List.mem_filterMap.mpr ⟨_, hm, rfl⟩)
          exact ⟨value, Placeholder.resolve_eq_ok_iff.mpr hv⟩
        · cases hp _ hm
    · cases stretch with
      | plain c => cases hs
      | found other matched =>
        cases hs
        exact Placeholder.resolve_eq_error_iff.mpr hf

end

/-- Every text has one cut into the matches of the pattern and the characters between them.  It is filled in
exactly if each match stands for something, and then every match is replaced by that, once, and all else is
kept.  Otherwise the fault is that of the first match that stands for nothing. -/
theorem matches_replaced (env : Environment) (whole : String) :
    ∃ cut, IsCut whole cut ∧ (∀ other, IsCut whole other → other = cut) ∧
      ((∃ filled, fillPlaceholders env whole = .ok filled) ↔
        ∀ placeholder ∈ cut.filterMap placeholder?, ∃ value, placeholder.StandsFor env value) ∧
      (∀ filled, fillPlaceholders env whole = .ok filled →
        ∃ value : Placeholder → List Char,
          (∀ placeholder ∈ cut.filterMap placeholder?, placeholder.StandsFor env (value placeholder)) ∧
          filled.toList = cut.flatMap (replaced value)) ∧
      ∀ fault, fillPlaceholders env whole = .error fault ↔
        ∃ before placeholder behind, cut.filterMap placeholder? = before ++ placeholder :: behind ∧
          (∀ earlier ∈ before, ∃ value, earlier.StandsFor env value) ∧ placeholder.Lacks env fault := by
  obtain ⟨cut, h⟩ := IsCut.exists_cut whole
  have hfilled (hs : ∀ placeholder ∈ cut.filterMap placeholder?, ∃ value, placeholder.StandsFor env value) :
      ∃ value : Placeholder → List Char,
        (∀ placeholder ∈ cut.filterMap placeholder?, placeholder.StandsFor env (value placeholder)) ∧
        fillPlaceholders env whole = .ok (String.ofList (cut.flatMap (replaced value))) := by
    classical
    choose! value hv using hs
    exact ⟨value, hv, fillPlaceholders_replaced h hv⟩
  refine ⟨cut, h, fun other ho => h.unique ho, ⟨?_, ?_⟩, ?_, fun fault => fillPlaceholders_eq_error_iff h⟩
  · rintro ⟨filled, hf⟩
    exact stands_of_fillPlaceholders h hf
  · intro hs
    obtain ⟨value, -, hf⟩ := hfilled hs
    exact ⟨_, hf⟩
  · intro filled hf
    obtain ⟨value, hv, he⟩ := hfilled (stands_of_fillPlaceholders h hf)
    rw [hf] at he
    cases he
    exact ⟨value, hv, String.toList_ofList⟩

end Colloquy
