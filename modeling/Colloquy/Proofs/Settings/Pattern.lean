import Colloquy.Settings.Placeholder
import Mathlib.Data.List.TakeWhile
/-!
# The pattern of a placeholder

`Placeholder.Matches` is the pattern read as a grammar: which texts are a placeholder, with which key and
default.  The scanner `Placeholder.atStart?` finds exactly these at the start of a text.  No two matches
start at one place, because neither a key nor the blanks around it can end in two ways.

Results:
* `Placeholder.atStart?_eq_some_iff`: what is found at the start of a text is what matches there.
* `Placeholder.Matches.unique`: at one place there is at most one match.
-/
namespace Colloquy

theorem forall_isBlank {p : Char → Prop} (h : ∀ code ∈ blankCodes, p (Char.ofNat code)) {c : Char}
    (hc : isBlank c = true) : p c := by
  have hp := h c.toNat (List.contains_iff_mem.mp hc)
  rwa [Char.ofNat_toNat] at hp

/-! ## Runs of characters -/

/-- Whether a text starts with no character of a class. -/
def StartsOutside (p : Char → Bool) (text : List Char) : Prop := ∀ c, text.head? = some c → p c = false

section

variable {p : Char → Bool} {run rest : List Char}

theorem StartsOutside.cons {c : Char} (h : p c = false) (rest : List Char) : StartsOutside p (c :: rest) := by
  intro d hd
  cases hd
  exact h

theorem StartsOutside.append_of_ne_nil (h : StartsOutside p run) (hne : run ≠ []) (rest : List Char) :
    StartsOutside p (run ++ rest) := by
  cases run with
  | nil => exact absurd rfl hne
  | cons c tail => exact .cons (h c rfl) _

theorem takeWhile_run (hr : ∀ c ∈ run, p c = true) (hs : StartsOutside p rest) :
    (run ++ rest).takeWhile p = run := by
  rw [List.takeWhile_append_of_pos hr]
  cases rest with
  | nil => simp
  | cons c tail => simp [hs c rfl]

theorem dropWhile_run (hr : ∀ c ∈ run, p c = true) (hs : StartsOutside p rest) :
    (run ++ rest).dropWhile p = rest := by
  rw [List.dropWhile_append_of_pos hr]
  cases rest with
  | nil => rfl
  | cons c tail => simp [hs c rfl]

end

/-- Whether a text holds nothing but blanks. -/
def Blanks (text : List Char) : Prop := ∀ c ∈ text, isBlank c = true

theorem trimStart_blanks {blanks rest : List Char} (hb : Blanks blanks) (hs : StartsOutside isBlank rest) :
    trimStart (blanks ++ rest) = rest :=
  dropWhile_run hb hs

theorem exists_blanks (text : List Char) : ∃ blanks, Blanks blanks ∧ text = blanks ++ trimStart text :=
  ⟨text.takeWhile isBlank, fun _ hc => List.mem_takeWhile_imp hc, List.takeWhile_append_dropWhile.symm⟩

namespace Placeholder

/-! ## The pattern -/

/-- The texts that match the pattern of a placeholder: a key between two pairs of braces, perhaps a bar and
a default behind it, with blanks around each of them. -/
inductive Matches : Placeholder → List Char → Prop
  | plain {key before behind : List Char} (hk : key ≠ []) (hc : ∀ c ∈ key, isKeyChar c = true)
      (hb : Blanks before) (ha : Blanks behind) :
      Matches ⟨key, none⟩ (opening ++ (before ++ (key ++ (behind ++ closing))))
  | withDefault {key content before behind gap last : List Char} (hk : key ≠ [])
      (hc : ∀ c ∈ key, isKeyChar c = true) (hq : '"' ∉ content) (hb : Blanks before) (ha : Blanks behind)
      (hg : Blanks gap) (hl : Blanks last) :
      Matches ⟨key, some content⟩
        (opening ++ (before ++ (key ++ (behind ++
          (['|'] ++ (gap ++ (defaultStart ++ (content ++ (defaultEnd ++ (last ++ closing))))))))))

theorem not_isKeyChar_of_isBlank {c : Char} (h : isBlank c = true) : isKeyChar c = false :=
  forall_isBlank (p := fun c => isKeyChar c = false) (by decide) h

theorem startsOutside_key {key : List Char} (hc : ∀ c ∈ key, isKeyChar c = true) :
    StartsOutside isBlank key := by
  intro c hh
  have hk := hc c (List.mem_of_head? hh)
  rw [← Bool.not_eq_true]
  intro hb
  rw [not_isKeyChar_of_isBlank hb] at hk
  cases hk

/-- Blanks, and whatever no key goes on with behind them, end a key. -/
theorem startsOutside_behind {blanks rest : List Char} (hb : Blanks blanks)
    (hs : StartsOutside isKeyChar rest) : StartsOutside isKeyChar (blanks ++ rest) := by
  cases blanks with
  | nil => exact hs
  | cons c tail => exact .cons (not_isKeyChar_of_isBlank (hb c List.mem_cons_self)) _

theorem after?_eq_some_iff {part text rest : List Char} :
    after? part text = some rest ↔ text = part ++ rest := by
  unfold after?
  constructor
  · intro h
    split at h
    · rename_i hp
      cases h
      exact (List.prefix_iff_eq_append.mp (List.isPrefixOf_iff_prefix.mp hp)).symm
    · cases h
  · rintro rfl
    simp

theorem after?_append (part rest : List Char) : after? part (part ++ rest) = some rest :=
  after?_eq_some_iff.mpr rfl

theorem default?_eq_some_iff {text content rest : List Char} :
    default? text = some (content, rest) ↔
      ∃ gap, Blanks gap ∧ '"' ∉ content ∧
        text = ['|'] ++ (gap ++ (defaultStart ++ (content ++ (defaultEnd ++ rest)))) := by
  simp only [default?, Option.bind_eq_bind, Option.bind_eq_some_iff]
  constructor
  · rintro ⟨behindBar, hbar, behindQuote, hquote, rest, hend, ⟨⟩⟩
    rw [after?_eq_some_iff] at hbar hquote hend
    obtain ⟨gap, hg, he⟩ := exists_blanks behindBar
    refine ⟨gap, hg, fun hm => ?_, ?_⟩
    · have hq := List.mem_takeWhile_imp hm
      simp at hq
    · rw [hbar, he, hquote, ← hend, List.takeWhile_append_dropWhile]
  · rintro ⟨gap, hg, hq, rfl⟩
    have hc : ∀ c ∈ content, (c != '"') = true := by
      intro c hm
      rw [bne_iff_ne]
      exact ne_of_mem_of_not_mem hm hq
    have hs : StartsOutside (fun c => c != '"') (defaultEnd ++ rest) := .cons rfl _
    refine ⟨_, after?_append _ _, content ++ (defaultEnd ++ rest), ?_, ?_⟩
    · have hquote : StartsOutside isBlank (defaultStart ++ (content ++ (defaultEnd ++ rest))) :=
        .cons (by decide) _
      rw [trimStart_blanks hg hquote]
      exact after?_append _ _
    · rw [takeWhile_run hc hs, dropWhile_run hc hs]
      exact ⟨rest, after?_append _ _, rfl⟩

theorem default?_closing (rest : List Char) : default? (closing ++ rest) = none := rfl

/-- A key with blanks around it, at the start of a text. -/
theorem key_of_text {key before behind rest : List Char} (hk : key ≠ [])
    (hc : ∀ c ∈ key, isKeyChar c = true) (hb : Blanks before) (ha : Blanks behind)
    (hs : StartsOutside isKeyChar rest) (hr : StartsOutside isBlank rest) :
    (trimStart (before ++ (key ++ (behind ++ rest)))).takeWhile isKeyChar = key ∧
      trimStart ((trimStart (before ++ (key ++ (behind ++ rest)))).dropWhile isKeyChar) = rest := by
  have hkey := (startsOutside_key hc).append_of_ne_nil hk (behind ++ rest)
  have hend := startsOutside_behind ha hs
  rw [trimStart_blanks hb hkey]
  refine ⟨takeWhile_run hc hend, ?_⟩
  rw [dropWhile_run hc hend, trimStart_blanks ha hr]

theorem exists_key (text : List Char) :
    ∃ before behind, Blanks before ∧ Blanks behind ∧
      (∀ c ∈ (trimStart text).takeWhile isKeyChar, isKeyChar c = true) ∧
      text = before ++ ((trimStart text).takeWhile isKeyChar
        ++ (behind ++ trimStart ((trimStart text).dropWhile isKeyChar))) := by
  obtain ⟨before, hb, he⟩ := exists_blanks text
  obtain ⟨behind, ha, hd⟩ := exists_blanks ((trimStart text).dropWhile isKeyChar)
  refine ⟨before, behind, hb, ha, fun c hm => List.mem_takeWhile_imp hm, ?_⟩
  rw [← hd, List.takeWhile_append_dropWhile]
  exact he

/-- The scanner finds the matches of the pattern. -/
theorem atStart?_eq_some_iff {text rest : List Char} {placeholder : Placeholder} :
    atStart? text = some (placeholder, rest) ↔
      ∃ matched, placeholder.Matches matched ∧ text = matched ++ rest := by
  simp only [atStart?, Option.bind_eq_bind, Option.bind_eq_some_iff]
  constructor
  · rintro ⟨inner, hopen, h⟩
    obtain ⟨before, behind, hb, ha, hc, hi⟩ := exists_key inner
    rw [after?_eq_some_iff] at hopen
    split at h
    · cases h
    · rename_i hk
      rw [List.isEmpty_iff] at hk
      split at h
      · rename_i content tail hd
        obtain ⟨_, hclose, ⟨⟩⟩ := Option.bind_eq_some_iff.mp h
        obtain ⟨gap, hg, hq, hd⟩ := default?_eq_some_iff.mp hd
        obtain ⟨last, hl, hlast⟩ := exists_blanks tail
        rw [after?_eq_some_iff.mp hclose] at hlast
        rw [hd, hlast] at hi
        refine ⟨_, .withDefault hk hc hq hb ha hg hl, ?_⟩
        simpa only [List.append_assoc] using hopen.trans (congrArg (opening ++ ·) hi)
      · obtain ⟨_, hclose, ⟨⟩⟩ := Option.bind_eq_some_iff.mp h
        rw [after?_eq_some_iff.mp hclose] at hi
        refine ⟨_, .plain hk hc hb ha, ?_⟩
        simpa only [List.append_assoc] using hopen.trans (congrArg (opening ++ ·) hi)
  · rintro ⟨matched, h, rfl⟩
    cases h with
    | @plain key before behind hk hc hb ha =>
      have hs : StartsOutside isKeyChar (closing ++ rest) := .cons (by decide) _
      have hr : StartsOutside isBlank (closing ++ rest) := .cons (by decide) _
      obtain ⟨he, ht⟩ := key_of_text hk hc hb ha hs hr
      refine ⟨_, by rw [List.append_assoc, after?_append], ?_⟩
      simp only [List.append_assoc, he, ht, List.isEmpty_iff, hk, if_false, default?_closing]
      exact Option.bind_eq_some_iff.mpr ⟨rest, after?_append _ _, rfl⟩
    | @withDefault key content before behind gap last hk hc hq hb ha hg hl =>
      have hd : default? (['|'] ++ (gap ++ (defaultStart ++ (content ++ (defaultEnd ++
          (last ++ (closing ++ rest))))))) = some (content, last ++ (closing ++ rest)) :=
        default?_eq_some_iff.mpr ⟨gap, hg, hq, rfl⟩
      have hl : trimStart (last ++ (closing ++ rest)) = closing ++ rest :=
        trimStart_blanks hl (.cons (by decide) _)
      simp only [List.append_assoc]
      generalize gap ++ (defaultStart ++ (content ++ (defaultEnd ++ (last ++ (closing ++ rest))))) = tail at hd ⊢
      have hs : StartsOutside isKeyChar (['|'] ++ tail) := .cons (by decide) _
      have hr : StartsOutside isBlank (['|'] ++ tail) := .cons (by decide) _
      obtain ⟨he, ht⟩ := key_of_text hk hc hb ha hs hr
      refine ⟨_, after?_append _ _, ?_⟩
      simp only [he, ht, List.isEmpty_iff, hk, if_false, hd, hl]
      exact Option.bind_eq_some_iff.mpr ⟨rest, after?_append _ _, rfl⟩

theorem Matches.unique {first second : Placeholder} {text other rest behind : List Char}
    (h : first.Matches text) (ho : second.Matches other) (he : text ++ rest = other ++ behind) :
    first = second ∧ text = other := by
  have hf : atStart? (text ++ rest) = some (first, rest) := atStart?_eq_some_iff.mpr ⟨text, h, rfl⟩
  have hs : atStart? (text ++ rest) = some (second, behind) := atStart?_eq_some_iff.mpr ⟨other, ho, he⟩
  rw [hf] at hs
  cases hs
  exact ⟨rfl, List.append_cancel_right he⟩

theorem Matches.ne_nil {placeholder : Placeholder} {text : List Char} (h : placeholder.Matches text) :
    text ≠ [] := by
  cases h <;> exact nofun

end Placeholder

end Colloquy
