import Colloquy.Proofs.Toml.Strings
import Colloquy.Proofs.Toml.Tables
/-!
# Marks and scalars

Scalars are written in ASCII, dates and times are also written back in ASCII, and so no mark stands in them.

Results:
* `Toml.datetime?_ascii`: the form in which a date or time is written back.
* `Toml.scalar?_filled`: filling in marks leaves a scalar as it is.
* `Toml.scalarText_fillMarks`: a scalar ends at the same place if the marks behind it are filled in.
-/
namespace Colloquy

namespace Toml

variable {mark : Char} {value : List Char}

/-! ## Dates and times -/

section

variable {text found rest : List Char} (h : IsAscii text)

include h

theorem twoDigits?_ascii {n : Nat} (hf : twoDigits? text = some (n, rest)) : IsAscii rest := by
  unfold twoDigits? at hf
  split at hf
  · split at hf
    · cases hf
      exact h.of_cons.of_cons
    · cases hf
  · cases hf

theorem date?_ascii (hf : date? text = some (found, rest)) : IsAscii found ∧ IsAscii rest := by
  simp only [date?, Option.bind_eq_bind] at hf
  split at hf
  · rename_i tail he
    have htail : IsAscii ('-' :: tail) := he ▸ h.of_subset (List.drop_subset 4 text)
    obtain ⟨⟨month, afterMonth⟩, hm, hf⟩ := Option.bind_eq_some_iff.mp hf
    have hmonth := twoDigits?_ascii htail.of_cons hm
    dsimp only at hf
    split at hf
    · obtain ⟨⟨day, afterDay⟩, hd, hf⟩ := Option.bind_eq_some_iff.mp hf
      split at hf
      · cases hf
        exact ⟨h.of_subset (List.take_subset 10 text), twoDigits?_ascii hmonth.of_cons hd⟩
      · cases hf
    · cases hf
  · cases hf

theorem fractionText_ascii : IsAscii (fractionText text) := by
  unfold fractionText
  split
  · exact nofun
  · refine .cons (by decide) (h.of_subset ?_)
    intro c hc
    rw [List.mem_reverse] at hc
    have hd := (List.dropWhile_suffix _).subset hc
    exact List.mem_of_mem_take (List.mem_reverse.mp hd)

theorem seconds?_ascii (hf : seconds? text = some (found, rest)) : IsAscii found ∧ IsAscii rest := by
  unfold seconds? at hf
  split at hf
  · rename_i tail
    have htail := h.of_cons
    have hcolon : IsAscii (':' :: tail.take 2) := .cons (by decide) (htail.of_subset (List.take_subset 2 tail))
    obtain ⟨⟨second, behind⟩, hs, hf⟩ := Option.bind_eq_some_iff.mp hf
    have hbehind := twoDigits?_ascii htail hs
    dsimp only at hf
    split at hf
    · cases hf
    · split at hf
      · rename_i digits _
        split at hf
        · cases hf
        · cases hf
          have hdigits := hbehind.of_cons
          refine ⟨hcolon.append (fractionText_ascii ?_), hdigits.of_subset (List.dropWhile_suffix _).subset⟩
          exact hdigits.of_subset (List.takeWhile_prefix _).subset
      · cases hf
        exact ⟨hcolon, hbehind⟩
  · cases hf
    exact ⟨by decide, h⟩

theorem time?_ascii (hf : time? text = some (found, rest)) : IsAscii found ∧ IsAscii rest := by
  obtain ⟨⟨hour, afterHour⟩, hh, hf⟩ := Option.bind_eq_some_iff.mp hf
  have hhour := twoDigits?_ascii h hh
  dsimp only at hf
  split at hf
  · obtain ⟨⟨minute, afterMinute⟩, hm, hf⟩ := Option.bind_eq_some_iff.mp hf
    dsimp only at hf
    split at hf
    · cases hf
    · obtain ⟨⟨seconds, behind⟩, hs, hf⟩ := Option.bind_eq_some_iff.mp hf
      cases hf
      obtain ⟨hseconds, hrest⟩ := seconds?_ascii (twoDigits?_ascii hhour.of_cons hm) hs
      exact ⟨(h.of_subset (List.take_subset 5 text)).append hseconds, hrest⟩
  · cases hf

theorem offset?_ascii (hf : offset? text = some found) : IsAscii found := by
  unfold offset? at hf
  split at hf
  · cases hf
    exact nofun
  · cases hf
    decide
  · cases hf
    decide
  · rename_i sign tail _ _
    split at hf
    · split at hf
      · split at hf
        · split at hf
          · cases hf
          · cases hf
            split
            · exact h.of_cons.cons (by decide)
            · exact h
        · cases hf
      · cases hf
    · cases hf

/-- A date or time is written back in ASCII. -/
theorem datetime?_ascii {written : String} (hf : datetime? text = some (datetime written)) :
    IsAscii written.toList := by
  unfold datetime? at hf
  split at hf
  · rename_i date hd
    cases hf
    rw [String.toList_ofList]
    exact (date?_ascii h hd).1
  · rename_i date sign tail hd
    obtain ⟨hdate, hrest⟩ := date?_ascii h hd
    split at hf
    · obtain ⟨⟨time, behind⟩, ht, hf⟩ := Option.bind_eq_some_iff.mp hf
      obtain ⟨offset, ho, hf⟩ := Option.bind_eq_some_iff.mp hf
      cases hf
      obtain ⟨htime, hbehind⟩ := time?_ascii hrest.of_cons ht
      rw [String.toList_ofList]
      exact (hdate.append (htime.cons (by decide))).append (offset?_ascii hbehind ho)
    · cases hf
  · split at hf
    · rename_i time ht
      cases hf
      rw [String.toList_ofList]
      exact (time?_ascii h ht).1
    · cases hf

end

/-! ## Scalars -/

theorem integer?_eq {text : List Char} {scalar : Toml} (h : integer? text = some scalar) :
    ∃ n, scalar = integer n := by
  unfold integer? at h
  split at h <;>
  · obtain ⟨digits, -, rfl⟩ := Option.map_eq_some_iff.mp h
    exact ⟨_, rfl⟩

theorem decimalFloat?_eq {text : List Char} {scalar : Toml} (h : decimalFloat? text = some scalar) :
    ∃ x, scalar = float x := by
  have hlast {x : Binary64} (h : (if x.isFinite then some (float x) else none) = some scalar) :
      ∃ x, scalar = float x := by
    split at h
    · cases h
      exact ⟨x, rfl⟩
    · cases h
  simp only [decimalFloat?, Option.bind_eq_bind] at h
  split at h <;>
  · obtain ⟨exponent, -, h⟩ := Option.bind_eq_some_iff.mp h
    obtain ⟨whole, -, h⟩ := Option.bind_eq_some_iff.mp h
    split at h
    · split at h
      · obtain ⟨fraction, -, h⟩ := Option.bind_eq_some_iff.mp h
        exact hlast h
      · cases h
    · obtain ⟨fraction, -, h⟩ := Option.bind_eq_some_iff.mp h
      exact hlast h

theorem float?_eq {text : List Char} {scalar : Toml} (h : float? text = some scalar) :
    ∃ x, scalar = float x := by
  unfold float? at h
  dsimp only at h
  split at h
  · cases h
    exact ⟨_, rfl⟩
  · split at h
    · cases h
      exact ⟨_, rfl⟩
    · exact decimalFloat?_eq h

theorem datetime?_eq {text : List Char} {scalar : Toml} (h : datetime? text = some scalar) :
    ∃ written, scalar = datetime written := by
  unfold datetime? at h
  split at h
  · cases h
    exact ⟨_, rfl⟩
  · split at h
    · obtain ⟨time, -, h⟩ := Option.bind_eq_some_iff.mp h
      obtain ⟨offset, -, h⟩ := Option.bind_eq_some_iff.mp h
      cases h
      exact ⟨_, rfl⟩
    · cases h
  · split at h
    · cases h
      exact ⟨_, rfl⟩
    · cases h

/-- Filling in marks leaves a scalar as it is. -/
theorem scalar?_filled (hm : IsMark mark) {text : List Char} (h : IsAscii text) {scalar : Toml}
    (hs : scalar? text = some scalar) : scalar.filled mark value = scalar := by
  unfold scalar? at hs
  split at hs
  · cases hs
    rfl
  · split at hs
    · cases hs
      rfl
    · rcases Option.or_eq_some_iff.mp hs with hs | ⟨-, hs⟩
      · rcases Option.or_eq_some_iff.mp hs with hs | ⟨-, hs⟩
        · obtain ⟨n, rfl⟩ := integer?_eq hs
          rfl
        · obtain ⟨x, rfl⟩ := float?_eq hs
          rfl
      · obtain ⟨written, rfl⟩ := datetime?_eq hs
        have hun := (datetime?_ascii h hs).not_mem hm
        rw [filled, fillString_eq_self hun]

theorem scalar?_nil : scalar? [] = none := by decide

/-- A text that starts with no character of a scalar has no scalar in front. -/
theorem scalarText_eq_nil {text : List Char} (h : (text.takeWhile isScalarChar).isEmpty = true) :
    (scalarText text).1 = [] := by
  rw [List.isEmpty_iff] at h
  unfold scalarText
  dsimp only
  rw [h]
  split
  · rfl
  · rfl

theorem takeWhile_isScalarChar_ascii (text : List Char) : IsAscii (text.takeWhile isScalarChar) :=
  fun c hc => isScalarChar_ascii c (List.mem_takeWhile_imp hc)

theorem scalarText_ascii (text : List Char) : IsAscii (scalarText text).1 := by
  have hfirst := takeWhile_isScalarChar_ascii text
  unfold scalarText
  dsimp only
  split
  · split
    · exact hfirst.append ((takeWhile_isScalarChar_ascii _).cons (by decide))
    · exact hfirst
  · exact hfirst

theorem twoDigits?_fillMarks (hm : IsMark mark) {tail : List Char} (h : (twoDigits? tail).isSome = true) :
    (twoDigits? (fillMarks mark value tail)).isSome = true := by
  unfold twoDigits? at h
  split at h
  · rename_i a b rest
    split at h
    · rename_i hd
      obtain ⟨ha, hb⟩ := Bool.and_eq_true_iff.mp hd
      have hascii {c : Char} (hc : c.isDigit = true) : c ≠ mark :=
        hm.ne (isAlphanum_ascii (by rw [Char.isAlphanum, hc, Bool.or_true]))
      rw [fillMarks_cons (hascii ha), fillMarks_cons (hascii hb), twoDigits?, if_pos hd]
      rfl
    · cases h
  · cases h

/-- What may follow a value starts with no digit, so a date has no time behind it there. -/
theorem twoDigits?_fillMarks_eq_none (hm : IsMark mark) {tail : List Char} (h : EndsValue (' ' :: tail)) :
    twoDigits? (fillMarks mark value tail) = none := by
  have htail : EndsValue tail := by
    intro c hc
    refine h c ?_
    rw [skipSpace, List.dropWhile_cons_of_pos (by decide)]
    exact hc
  cases tail with
  | nil => rfl
  | cons c rest =>
    have hsigns : ∀ c ∈ [' ', '\t', '#', '\n', '\r', ',', ']', '\x7d'], c.isDigit = false := by simp
    have hc := hsigns c (htail.head rfl)
    have hne : c ≠ mark := fun he => htail.ne_mark hm (congrArg some he)
    rw [fillMarks_cons hne]
    unfold twoDigits?
    split
    · rename_i a b behind he
      rw [← (List.cons.inj he).1, hc, Bool.false_and, if_neg Bool.false_ne_true]
    · rfl

/-- A scalar ends where it ended before the marks behind it were filled in. -/
theorem scalarText_fillMarks (value : List Char) (hm : IsMark mark) {text : List Char}
    (he : EndsValue (scalarText text).2) :
    scalarText (fillMarks mark value text) =
        ((scalarText text).1, fillMarks mark value (scalarText text).2) ∧
      (scalarText text).2 <:+ text := by
  have hspace : ' ' ≠ mark := hm.ne (by decide)
  have hscalar := hm.not_ascii isScalarChar_ascii
  have hrest : text.dropWhile isScalarChar <:+ text := List.dropWhile_suffix _
  have hrun (hh : (text.dropWhile isScalarChar).head? ≠ some mark) := run_fillMarks value hscalar hh
  unfold scalarText at he ⊢
  dsimp only at he ⊢
  split at he
  · rename_i tail hd
    rw [hd] at hrun hrest
    obtain ⟨ht, hdrop⟩ := hrun (by simpa using hspace)
    rw [fillMarks_cons hspace] at hdrop
    rw [ht, hdrop]
    split at he
    · rename_i hdate
      obtain ⟨hfirst, hdigits⟩ := Bool.and_eq_true_iff.mp hdate
      have hafter := run_fillMarks value hscalar (he.ne_mark hm)
      simp only [hfirst, hdigits, twoDigits?_fillMarks hm hdigits, Bool.and_self, if_true, hafter, true_and]
      exact (List.dropWhile_suffix _).trans ((List.suffix_cons _ _).trans hrest)
    · rename_i hdate
      dsimp only at he
      rw [hd] at he
      simp only [if_neg hdate, twoDigits?_fillMarks_eq_none hm he, hd, Option.isSome_none, Bool.and_false,
        Bool.false_eq_true, if_false, fillMarks_cons hspace, true_and]
      exact hrest
  · rename_i hd
    dsimp only at he
    have hmark := he.ne_mark hm
    obtain ⟨ht, hdrop⟩ := hrun hmark
    rw [ht, hdrop]
    refine ⟨?_, hrest⟩
    split
    · rename_i tail hf
      obtain ⟨behind, hb, -⟩ := exists_of_fillMarks_cons hmark hf
      exact absurd hb (hd behind)
    · rfl

end Toml

end Colloquy
