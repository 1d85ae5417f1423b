import Colloquy.Proofs.Settings.Pattern
import Colloquy.Toml.Reader
/-!
# Marks in TOML text

A mark is a character that means nothing to the reader of documents.  Where it stands in a text, other text
may be put; the reader then goes the same way through both as long as the mark stands inside of strings and
comments and what is put there fits.

This module is about marks, about what fits, and about what lies between statements: blanks, comments and
line breaks.

Results:
* `fillMarks`: a text with its marks filled in.
* `Toml.Fits`: what may be put in the place of the marks of a text.
* `Toml.skipSpace_fillMarks`, `Toml.skipLines_fillMarks`, `Toml.endLine_fillMarks`: blanks, comments and line
  breaks of a text whose marks are filled in.
-/
namespace Colloquy

/-- A text with `value` in the place of every mark. -/
def fillMarks (mark : Char) (value text : List Char) : List Char :=
  text.flatMap fun c => if c = mark then value else [c]

section

variable {mark : Char} {value : List Char}

@[simp]
theorem fillMarks_nil : fillMarks mark value [] = [] := rfl

@[simp]
theorem fillMarks_mark (rest : List Char) :
    fillMarks mark value (mark :: rest) = value ++ fillMarks mark value rest := by
  simp [fillMarks]

theorem fillMarks_cons {c : Char} (h : c ≠ mark) (rest : List Char) :
    fillMarks mark value (c :: rest) = c :: fillMarks mark value rest := by
  simp [fillMarks, h]

@[simp]
theorem fillMarks_append (text rest : List Char) :
    fillMarks mark value (text ++ rest) = fillMarks mark value text ++ fillMarks mark value rest :=
  List.flatMap_append

theorem fillMarks_eq_self {text : List Char} (h : mark ∉ text) : fillMarks mark value text = text := by
  induction text with
  | nil => rfl
  | cons c rest ih =>
    obtain ⟨hc, hr⟩ := not_or.mp (mt List.mem_cons.mpr h)
    rw [fillMarks_cons (Ne.symm hc), ih hr]

theorem head_fillMarks {text : List Char} (h : text.head? ≠ some mark) :
    (fillMarks mark value text).head? = text.head? := by
  cases text with
  | nil => rfl
  | cons c rest =>
    rw [fillMarks_cons fun he => h (congrArg some he)]
    rfl

theorem exists_of_fillMarks_cons {text behind : List Char} {c : Char} (hm : text.head? ≠ some mark)
    (h : fillMarks mark value text = c :: behind) :
    ∃ rest, text = c :: rest ∧ behind = fillMarks mark value rest := by
  cases text with
  | nil => cases h
  | cons d rest =>
    rw [fillMarks_cons fun he => hm (congrArg some he)] at h
    obtain ⟨rfl, rfl⟩ := List.cons.inj h
    exact ⟨rest, rfl, rfl⟩

/-- A front without marks stays as it is. -/
theorem fillMarks_drop {text : List Char} {count : Nat} (h : mark ∉ text.take count) :
    (fillMarks mark value text).drop count = fillMarks mark value (text.drop count) := by
  induction text generalizing count with
  | nil => simp
  | cons c rest ih =>
    cases count with
    | zero => rfl
    | succ count =>
      obtain ⟨hc, hr⟩ := not_or.mp (mt List.mem_cons.mpr h)
      rw [fillMarks_cons (Ne.symm hc), List.drop_succ_cons, ih hr, List.drop_succ_cons]

theorem fillMarks_take {text : List Char} {count : Nat} (h : mark ∉ text.take count)
    (hl : count ≤ text.length) : (fillMarks mark value text).take count = text.take count := by
  have he : fillMarks mark value text = text.take count ++ fillMarks mark value (text.drop count) :=
    calc fillMarks mark value text
      _ = fillMarks mark value (text.take count ++ text.drop count) := by rw [List.take_append_drop]
      _ = text.take count ++ fillMarks mark value (text.drop count) := by
        rw [fillMarks_append, fillMarks_eq_self h]
  rw [he, List.take_append_of_le_length (by simp [hl]), List.take_take, Nat.min_self]

/-- A run of a class without the mark, in front of something else than a mark, stays as it is. -/
theorem run_fillMarks (value : List Char) {p : Char → Bool} (hp : p mark = false) {text : List Char}
    (h : (text.dropWhile p).head? ≠ some mark) :
    (fillMarks mark value text).takeWhile p = text.takeWhile p ∧
      (fillMarks mark value text).dropWhile p = fillMarks mark value (text.dropWhile p) := by
  induction text with
  | nil => exact ⟨rfl, rfl⟩
  | cons c rest ih =>
    cases hc : p c with
    | true =>
      have hne : c ≠ mark := by
        rintro rfl
        rw [hp] at hc
        cases hc
      rw [List.dropWhile_cons_of_pos hc] at h
      obtain ⟨ht, hd⟩ := ih h
      rw [fillMarks_cons hne]
      simp [hc, ht, hd]
    | false =>
      rw [List.dropWhile_cons_of_neg (by simp [hc])] at h
      have hne : c ≠ mark := fun he => h (congrArg some he)
      rw [fillMarks_cons hne]
      simp [hc, fillMarks_cons hne]

end

/-- Whether a character means nothing to the reader of documents: it is no ASCII character, and not the one
that may stand in front of a document. -/
structure IsMark (mark : Char) : Prop where
  foreign : 128 ≤ mark.toNat
  notByteOrderMark : mark ≠ '\ufeff'

namespace IsMark

variable {mark : Char}

theorem ne (h : IsMark mark) {c : Char} (hc : c.toNat < 128) : c ≠ mark := by
  rintro rfl
  exact absurd h.foreign (Nat.not_le.mpr hc)

/-- A mark is in no class of ASCII characters. -/
theorem not_ascii (h : IsMark mark) {p : Char → Bool} (hp : ∀ c, p c = true → c.toNat < 128) :
    p mark = false := by
  rw [← Bool.not_eq_true]
  intro hm
  exact absurd h.foreign (Nat.not_le.mpr (hp mark hm))

end IsMark

/-- Whether a text holds nothing but ASCII characters. -/
def IsAscii (text : List Char) : Prop := ∀ c ∈ text, c.toNat < 128

instance (text : List Char) : Decidable (IsAscii text) :=
  List.decidableBAll (fun c : Char => c.toNat < 128) text

namespace IsAscii

variable {text rest : List Char}

theorem of_subset (h : IsAscii text) (hs : rest ⊆ text) : IsAscii rest := fun c hc => h c (hs hc)

theorem append (h : IsAscii text) (hr : IsAscii rest) : IsAscii (text ++ rest) := by
  intro c hc
  exact (List.mem_append.mp hc).elim (h c) (hr c)

theorem cons {c : Char} (hc : c.toNat < 128) (h : IsAscii text) : IsAscii (c :: text) :=
  List.forall_mem_cons.mpr ⟨hc, h⟩

theorem of_cons {c : Char} (h : IsAscii (c :: text)) : IsAscii text := (List.forall_mem_cons.mp h).2

theorem not_mem {mark : Char} (h : IsAscii text) (hm : IsMark mark) : mark ∉ text :=
  fun hc => absurd hm.foreign (Nat.not_le.mpr (h mark hc))

end IsAscii

theorem isAlphanum_ascii {c : Char} (h : c.isAlphanum = true) : c.toNat < 128 := by
  have hn : c.toNat = c.val.toNat := rfl
  delta Char.isAlphanum Char.isAlpha Char.isUpper Char.isLower Char.isDigit at h
  simp [UInt32.le_iff_toNat_le] at h
  omega

namespace Toml

theorem isSpace_ascii (c : Char) (h : isSpace c = true) : c.toNat < 128 := by
  simp only [isSpace, Bool.or_eq_true, beq_iff_eq] at h
  rcases h with rfl | rfl <;> decide

theorem isBareKeyChar_ascii (c : Char) (h : isBareKeyChar c = true) : c.toNat < 128 := by
  simp only [isBareKeyChar, Bool.or_eq_true, beq_iff_eq] at h
  rcases h with (h | rfl) | rfl
  · exact isAlphanum_ascii h
  all_goals decide

theorem isScalarChar_ascii (c : Char) (h : isScalarChar c = true) : c.toNat < 128 := by
  simp only [isScalarChar, Bool.or_eq_true, beq_iff_eq] at h
  rcases h with ((((h | rfl) | rfl) | rfl) | rfl) | rfl
  · exact isAlphanum_ascii h
  all_goals decide

theorem isHexDigit_ascii (c : Char) (h : isHexDigit c = true) : c.toNat < 128 := by
  have hn : c.toNat = c.val.toNat := rfl
  simp [isHexDigit, Char.isDigit, UInt32.le_iff_toNat_le, Char.le_def] at h
  omega

/-! ## What fits -/

/-- Whether a character encloses strings. -/
def IsQuote (c : Char) : Prop := c = '"' ∨ c = '\''

theorem IsQuote.ne {quote c : Char} (h : IsQuote quote) (hd : '"' ≠ c) (hs : '\'' ≠ c) : quote ≠ c := by
  rcases h with rfl | rfl
  · exact hd
  · exact hs

theorem IsQuote.ne_mark {quote mark : Char} (h : IsQuote quote) (hm : IsMark mark) : quote ≠ mark :=
  h.ne (hm.ne (by decide)) (hm.ne (by decide))

/-- Whether a mark stands between two quotes on one line. -/
def StandsBetween (quote mark : Char) (text : List Char) : Prop :=
  ∃ inner rest, quote :: (inner ++ quote :: rest) <:+ text ∧ mark ∈ inner ∧ '\n' ∉ inner

theorem StandsBetween.of_split {quote mark : Char} {text rest : List Char}
    (h : ∃ inner, text = inner ++ quote :: rest ∧ mark ∈ inner ∧ '\n' ∉ inner) :
    StandsBetween quote mark (quote :: text) := by
  obtain ⟨inner, rfl, hm, hn⟩ := h
  exact ⟨inner, rest, List.suffix_refl _, hm, hn⟩

/-- Whether a mark stands in front of three quotes in a row. -/
def StandsBefore (quote mark : Char) (text : List Char) : Prop :=
  ∃ rest, mark :: rest <:+ text ∧ [quote, quote, quote] <:+: rest

theorem StandsBefore.of_suffix {quote mark : Char} {text rest : List Char} (h : StandsBefore quote mark rest)
    (hs : rest <:+ text) : StandsBefore quote mark text := by
  obtain ⟨behind, ht, hq⟩ := h
  exact ⟨behind, ht.trans hs, hq⟩

/-- Whether a mark stands between three quotes in a row and three others. -/
def StandsBetweenThree (quote mark : Char) (text : List Char) : Prop :=
  ∃ rest, quote :: quote :: quote :: rest <:+ text ∧ StandsBefore quote mark rest

/-- Whether a mark may stand inside of a string in some quotes: on one line, or over several. -/
def MayBeQuoted (quote mark : Char) (text : List Char) : Prop :=
  StandsBetween quote mark text ∨ StandsBetweenThree quote mark text

/-- Whether a mark may stand in a comment: behind a `#` on its line, or on the first line of a text that
starts in a comment. -/
def MayComment (mark : Char) (inComment : Bool) (text : List Char) : Prop :=
  (inComment = true ∧ ∃ inner rest, text = inner ++ mark :: rest ∧ '\n' ∉ inner) ∨
    ∃ inner rest, '#' :: (inner ++ mark :: rest) <:+ text ∧ '\n' ∉ inner

namespace MayComment

variable {mark : Char} {inComment : Bool} {text rest : List Char}

theorem of_suffix (h : MayComment mark false rest) (hs : rest <:+ text) : MayComment mark inComment text := by
  rcases h with ⟨⟨⟩, -⟩ | ⟨inner, behind, ht, hn⟩
  exact .inr ⟨inner, behind, ht.trans hs, hn⟩

theorem cons {c : Char} (h : MayComment mark inComment rest) (hc : c ≠ '\n') :
    MayComment mark inComment (c :: rest) := by
  rcases h with ⟨hi, inner, behind, rfl, hn⟩ | ⟨inner, behind, ht, hn⟩
  · exact .inl ⟨hi, c :: inner, behind, rfl, List.not_mem_cons_of_ne_of_not_mem (Ne.symm hc) hn⟩
  · exact .inr ⟨inner, behind, ht.trans (List.suffix_cons _ _), hn⟩

theorem hash (h : MayComment mark true rest) : MayComment mark inComment ('#' :: rest) := by
  rcases h with ⟨-, inner, behind, rfl, hn⟩ | ⟨inner, behind, ht, hn⟩
  · exact .inr ⟨inner, behind, List.suffix_refl _, hn⟩
  · exact .inr ⟨inner, behind, ht.trans (List.suffix_cons _ _), hn⟩

theorem mark_cons (mark : Char) (rest : List Char) : MayComment mark true (mark :: rest) :=
  .inl ⟨rfl, [], rest, rfl, nofun⟩

end MayComment

/-- Whether something may be put in the place of the marks of a text, wherever these stand in its strings. -/
structure Fits (mark : Char) (value text : List Char) : Prop where
  /-- It does not end strings in double quotes, and starts no escapes in them. -/
  basic : MayBeQuoted '"' mark text → '"' ∉ value ∧ '\\' ∉ value
  /-- It does not end strings in single quotes. -/
  literal : MayBeQuoted '\'' mark text → '\'' ∉ value
  /-- It keeps quotes apart from each other where three of them would end a string. -/
  apart : ∀ quote, IsQuote quote → ∀ behind rest, quote :: quote :: quote :: behind <:+ text →
    quote :: mark :: rest <:+ behind → [quote, quote, quote] <:+: rest →
    (fillMarks mark value (mark :: rest)).head? ≠ some quote
  /-- At the start of a string, no line break is left out for it. -/
  first : ∀ quote, IsQuote quote → ∀ rest, quote :: quote :: quote :: mark :: rest <:+ text →
    StartsOutside isControl (fillMarks mark value (mark :: rest))
  /-- Behind lines that are joined, no blanks and line breaks are left out for it. -/
  joined : ∀ rest, '\\' :: rest <:+ text → joinsLines rest = true →
    (rest.drop (blanksAhead rest)).head? = some mark →
    StartsOutside (fun c => isSpace c || isControl c) (fillMarks mark value (rest.drop (blanksAhead rest)))
  /-- It does not end comments. -/
  comment : MayComment mark false text → ∀ c ∈ value, isControl c = false

theorem Fits.of_suffix {mark : Char} {value text rest : List Char} (h : Fits mark value text)
    (hs : rest <:+ text) : Fits mark value rest := by
  have hquoted {quote : Char} (hb : MayBeQuoted quote mark rest) : MayBeQuoted quote mark text := by
    rcases hb with ⟨inner, behind, ht, hm, hn⟩ | ⟨behind, ht, hb⟩
    · exact .inl ⟨inner, behind, ht.trans hs, hm, hn⟩
    · exact .inr ⟨behind, ht.trans hs, hb⟩
  exact {
    basic hb := h.basic (hquoted hb)
    literal hb := h.literal (hquoted hb)
    apart quote hq behind tail ht := h.apart quote hq behind tail (ht.trans hs)
    first quote hq tail ht := h.first quote hq tail (ht.trans hs)
    joined tail ht := h.joined tail (ht.trans hs)
    comment hb := h.comment (hb.of_suffix hs) }

/-- Whether the marks of a text may be filled in: they stand for nothing else, and what is put in their place
fits. -/
structure Fillable (mark : Char) (value text : List Char) : Prop where
  isMark : IsMark mark
  /-- No escape of the text writes a mark. -/
  unwritten : ∀ rest, '\\' :: rest <:+ text → ∀ taken, escape? rest ≠ some (mark, taken)
  fits : Fits mark value text

theorem Fillable.of_suffix {mark : Char} {value text rest : List Char} (h : Fillable mark value text)
    (hs : rest <:+ text) : Fillable mark value rest where
  isMark := h.isMark
  unwritten tail ht := h.unwritten tail (ht.trans hs)
  fits := h.fits.of_suffix hs

section

variable {mark : Char} {value : List Char}

/-! ## Blanks, comments and line breaks -/

theorem skipSpace_fillMarks (hm : IsMark mark) {text : List Char} (h : (skipSpace text).head? ≠ some mark) :
    skipSpace (fillMarks mark value text) = fillMarks mark value (skipSpace text) :=
  (run_fillMarks value (hm.not_ascii isSpace_ascii) h).2

theorem head_of_skipSpace (hm : IsMark mark) {text : List Char} (h : (skipSpace text).head? ≠ some mark) :
    text.head? ≠ some mark := by
  cases text with
  | nil => nofun
  | cons c rest =>
    rintro ⟨⟩
    rw [skipSpace, List.dropWhile_cons_of_neg (by simp [hm.not_ascii isSpace_ascii])] at h
    exact h rfl

theorem skipSpace_suffix (text : List Char) : skipSpace text <:+ text := List.dropWhile_suffix _

theorem afterBreak?_eq_some_iff {text rest : List Char} :
    afterBreak? text = some rest ↔ text = '\n' :: rest ∨ text = '\r' :: '\n' :: rest := by
  unfold afterBreak?
  split <;> simp_all

theorem afterBreak?_suffix {text rest : List Char} (h : afterBreak? text = some rest) : rest <:+ text := by
  rcases afterBreak?_eq_some_iff.mp h with rfl | rfl
  · exact List.suffix_cons _ _
  · exact (List.suffix_cons _ _).trans (List.suffix_cons _ _)

theorem afterBreak?_fillMarks (hm : IsMark mark) {text rest : List Char} (h : afterBreak? text = some rest) :
    afterBreak? (fillMarks mark value text) = some (fillMarks mark value rest) := by
  have hn : '\n' ≠ mark := hm.ne (by decide)
  have hr : '\r' ≠ mark := hm.ne (by decide)
  rcases afterBreak?_eq_some_iff.mp h with rfl | rfl
  · rw [fillMarks_cons hn, afterBreak?]
  · rw [fillMarks_cons hr, fillMarks_cons hn, afterBreak?]

/-- A text whose marks are filled in starts with a line break only if the text does, if none is put in the place
of a mark at its start, and no mark stands behind half a line break. -/
theorem afterBreak?_fillMarks_eq (hm : IsMark mark) {text : List Char}
    (hs : text.head? = some mark → StartsOutside isControl (fillMarks mark value text))
    (hr : ∀ rest, text ≠ '\r' :: mark :: rest) :
    afterBreak? (fillMarks mark value text) = (afterBreak? text).map (fillMarks mark value) := by
  cases hb : afterBreak? text with
  | some rest => exact afterBreak?_fillMarks hm hb
  | none =>
    have hstart {c : Char} {behind : List Char} (hc : isControl c = true)
        (he : fillMarks mark value text = c :: behind) :
        ∃ rest, text = c :: rest ∧ behind = fillMarks mark value rest := by
      refine exists_of_fillMarks_cons (fun hh => ?_) he
      have hd := hs hh c (by rw [he]; rfl)
      rw [hc] at hd
      cases hd
    rw [Option.map_none, Option.eq_none_iff_forall_ne_some]
    intro behind he
    rcases afterBreak?_eq_some_iff.mp he with he | he
    · obtain ⟨rest, rfl, -⟩ := hstart (by decide) he
      cases hb
    · obtain ⟨rest, rfl, hn⟩ := hstart (by decide) he
      have hhead : rest.head? ≠ some mark := by
        intro hh
        obtain ⟨tail, rfl⟩ := List.head?_eq_some_iff.mp hh
        exact hr tail rfl
      obtain ⟨rest, rfl, -⟩ := exists_of_fillMarks_cons hhead hn.symm
      cases hb

theorem skipLines_cons {c : Char} (h : isControl c = false) (rest : List Char) :
    skipLines true (c :: rest) = skipLines true rest := by
  have hr : c ≠ '\r' := by
    rintro rfl
    cases h
  rw [skipLines, if_pos rfl, h, if_neg Bool.false_ne_true]
  · rintro rfl
    cases h
  · exact fun _ he => absurd he hr

theorem skipLines_append {front : List Char} (h : ∀ c ∈ front, isControl c = false) (rest : List Char) :
    skipLines true (front ++ rest) = skipLines true rest := by
  induction front with
  | nil => rfl
  | cons c front ih =>
    obtain ⟨hc, hf⟩ := List.forall_mem_cons.mp h
    rw [List.cons_append, skipLines_cons hc, ih hf]

/-- Whether a text starts neither with a mark nor with half a line break. -/
def StartsClear (mark : Char) (text : List Char) : Prop :=
  ∀ c, text.head? = some c → c ≠ mark ∧ c ≠ '\r'

theorem StartsClear.cons {c : Char} (hm : c ≠ mark) (hr : c ≠ '\r') (rest : List Char) :
    StartsClear mark (c :: rest) := by
  rintro d hd
  cases hd
  exact ⟨hm, hr⟩

theorem StartsClear.ne_mark {text : List Char} (h : StartsClear mark text) : text.head? ≠ some mark :=
  fun he => (h mark he).1 rfl

theorem skipLines_fillMarks (hm : IsMark mark) {inComment : Bool} {text rest : List Char}
    (hv : MayComment mark inComment text → ∀ c ∈ value, isControl c = false)
    (h : skipLines inComment text = some rest) (hr : StartsClear mark rest) :
    skipLines inComment (fillMarks mark value text) = some (fillMarks mark value rest) ∧ rest <:+ text := by
  fun_induction skipLines inComment text with
  | case1 => cases h; exact ⟨rfl, List.suffix_refl _⟩
  | case2 inComment tail ih =>
    obtain ⟨he, hs⟩ := ih (fun hc => hv (hc.of_suffix (List.suffix_cons _ _))) h
    rw [fillMarks_cons (hm.ne (by decide)), skipLines]
    exact ⟨he, hs.trans (List.suffix_cons _ _)⟩
  | case3 inComment tail ih =>
    have htail : tail <:+ '\r' :: '\n' :: tail := (List.suffix_cons _ _).trans (List.suffix_cons _ _)
    obtain ⟨he, hs⟩ := ih (fun hc => hv (hc.of_suffix htail)) h
    rw [fillMarks_cons (hm.ne (by decide)), fillMarks_cons (hm.ne (by decide)), skipLines]
    exact ⟨he, hs.trans htail⟩
  | case4 => cases h
  | case5 c tail hn _ hc ih =>
    rw [Bool.not_eq_true] at hc
    obtain ⟨he, hs⟩ := ih (fun hc => hv (hc.cons hn)) h
    refine ⟨?_, hs.trans (List.suffix_cons _ _)⟩
    by_cases hcm : c = mark
    · subst hcm
      rw [fillMarks_mark, skipLines_append (hv (.mark_cons _ _)), he]
    · rw [fillMarks_cons hcm, skipLines_cons hc, he]
  | case6 inComment c tail hn _ hi hc ih =>
    obtain ⟨he, hs⟩ := ih (fun hc => hv (hc.of_suffix (List.suffix_cons _ _))) h
    refine ⟨?_, hs.trans (List.suffix_cons _ _)⟩
    rw [fillMarks_cons (hm.ne (isSpace_ascii c hc)), skipLines, if_neg hi, if_pos hc, he]
    · exact hn
    · rintro _ rfl
      cases hc
  | case7 inComment tail hi _ _ hc ih =>
    obtain ⟨he, hs⟩ := ih (fun hc => hv hc.hash) h
    refine ⟨?_, hs.trans (List.suffix_cons _ _)⟩
    rw [fillMarks_cons (hm.ne (by decide)), skipLines, if_neg hi, if_neg hc, if_pos rfl, he]
    all_goals simp
  | case8 inComment c tail hn _ hi hc hd =>
    cases h
    obtain ⟨hcm, hcr⟩ := hr c rfl
    rw [fillMarks_cons hcm, skipLines, if_neg hi, if_neg hc, if_neg hd]
    · exact ⟨rfl, List.suffix_refl _⟩
    · exact hn
    · exact fun _ he => absurd he hcr

theorem head_of_skipLines (hm : IsMark mark) {text rest : List Char} (h : skipLines false text = some rest)
    (hr : rest.head? ≠ some mark) : text.head? ≠ some mark := by
  cases text with
  | nil => nofun
  | cons c tail =>
    rintro ⟨⟩
    have hn : mark ≠ '\n' := (hm.ne (by decide)).symm
    have hcr : mark ≠ '\r' := (hm.ne (by decide)).symm
    rw [skipLines] at h
    · simp only [hm.not_ascii isSpace_ascii, (hm.ne (c := '#') (by decide)).symm, Bool.false_eq_true,
        if_false, Option.some.injEq] at h
      exact hr (by rw [← h]; rfl)
    · exact hn
    · exact fun _ he => absurd he hcr

end

end Toml

end Colloquy
