import Colloquy.Proofs.Toml.Mark
/-!
# Marks in strings and keys

The content of a string goes on behind a mark, and behind whatever fits in the place of the mark.  So the
strings of a text whose marks are filled in end where they ended before, and hold what is put there.

Results:
* `Toml.basicString_fillMarks`, `Toml.literalString_fillMarks`, `Toml.longString_fillMarks`: the three kinds
  of strings.
* `Toml.quoted?_fillMarks`: all of them, told apart by their quotes.
* `Toml.key?_fillMarks`: keys in which no mark stands.
-/
namespace Colloquy

namespace Toml

variable {mark : Char} {value : List Char}

/-! ## Escapes -/

/-- The first character of an escape is a letter or one of two signs. -/
theorem escape?_head {text : List Char} {found : Char} {taken : Nat}
    (h : escape? text = some (found, taken)) :
    ∃ c rest, text = c :: rest ∧ c ∈ ['x', 'u', 'U', 'b', 't', 'n', 'f', 'r', 'e', '"', '\\'] := by
  cases text with
  | nil => cases h
  | cons c rest =>
    refine ⟨c, rest, rfl, ?_⟩
    rw [escape?] at h
    split at h
    · rename_i count hc
      unfold escapeDigits? at hc
      split at hc <;> simp_all
    · obtain ⟨letter, hl, -⟩ := Option.map_eq_some_iff.mp h
      unfold escapeLetter? at hl
      split at hl <;> simp_all

theorem isHexText_of_charOfHex? {digits : List Char} {found : Char} (h : charOfHex? digits = some found) :
    isHexText digits = true := by
  rw [charOfHex?] at h
  split at h
  · rename_i hc
    exact (Bool.and_eq_true_iff.mp hc).1
  · cases h

/-- An escape is written in ASCII characters, on one line. -/
theorem escape?_taken {text : List Char} {found : Char} {taken : Nat} (h : escape? text = some (found, taken)) :
    ∀ c ∈ text.take taken, c.toNat < 128 ∧ c ≠ '\n' := by
  obtain ⟨c, rest, rfl, hc⟩ := escape?_head h
  have hletters : ∀ c ∈ ['x', 'u', 'U', 'b', 't', 'n', 'f', 'r', 'e', '"', '\\'], c.toNat < 128 ∧ c ≠ '\n' := by
    simp
  rw [escape?] at h
  split at h
  · split at h
    · cases h
    · obtain ⟨_, hl, he⟩ := Option.map_eq_some_iff.mp h
      cases he
      refine List.forall_mem_cons.mpr ⟨hletters c hc, fun d hd => ?_⟩
      have hx := List.all_eq_true.mp (isHexText_of_charOfHex? hl) d hd
      refine ⟨isHexDigit_ascii d hx, ?_⟩
      rintro rfl
      cases hx
  · obtain ⟨_, -, he⟩ := Option.map_eq_some_iff.mp h
    cases he
    exact List.forall_mem_cons.mpr ⟨hletters c hc, nofun⟩

theorem escape?_fillMarks (value : List Char) (hm : IsMark mark) {text : List Char} {found : Char} {taken : Nat}
    (h : escape? text = some (found, taken)) :
    escape? (fillMarks mark value text) = some (found, taken) ∧ mark ∉ text.take taken := by
  have hun : mark ∉ text.take taken := fun hmem => hm.ne (escape?_taken h mark hmem).1 rfl
  refine ⟨?_, hun⟩
  obtain ⟨c, rest, rfl, hc⟩ := escape?_head h
  have hascii : IsAscii ['x', 'u', 'U', 'b', 't', 'n', 'f', 'r', 'e', '"', '\\'] := by decide
  rw [fillMarks_cons (hm.ne (hascii c hc))]
  rw [escape?] at h ⊢
  cases hd : escapeDigits? c with
  | none =>
    simp only [hd] at h ⊢
    exact h
  | some count =>
    simp only [hd] at h ⊢
    split at h
    · cases h
    · rename_i hlen
      obtain ⟨letter, hl, he⟩ := Option.map_eq_some_iff.mp h
      cases he
      have htake : (fillMarks mark value rest).take count = rest.take count :=
        fillMarks_take (not_or.mp (mt List.mem_cons.mpr hun)).2 (Nat.le_of_not_lt hlen)
      have hcount : count ≤ (fillMarks mark value rest).length := by
        have hl := congrArg List.length htake
        rw [List.length_take, List.length_take] at hl
        omega
      rw [if_neg (Nat.not_lt.mpr hcount), htake, hl]
      rfl

/-! ## Strings on one line -/

theorem basicString_skip (skip : Nat) (text : List Char) :
    basicString skip text = basicString 0 (text.drop skip) := by
  induction text generalizing skip with
  | nil => cases skip <;> rfl
  | cons c rest ih =>
    cases skip with
    | zero => rfl
    | succ skip => exact ih skip

theorem basicString_cons {c : Char} (hq : c ≠ '"') (hb : c ≠ '\\') (rest : List Char) :
    basicString 0 (c :: rest) =
      if isControl c then none
      else (basicString 0 rest).map fun (content, rest) => (c :: content, rest) := by
  rw [basicString]
  · exact hq
  · exact hb

/-- What has no quotes and no backslashes belongs to the content of a string, if the string ends at all. -/
theorem basicString_append {front : List Char} (hq : '"' ∉ front) (hb : '\\' ∉ front) {rest : List Char}
    {found : List Char × List Char} (h : basicString 0 (front ++ rest) = some found) :
    ∃ content behind, basicString 0 rest = some (content, behind) ∧ found = (front ++ content, behind) := by
  induction front generalizing found with
  | nil => exact ⟨found.1, found.2, h, rfl⟩
  | cons c front ih =>
    obtain ⟨hq, hqs⟩ := not_or.mp (mt List.mem_cons.mpr hq)
    obtain ⟨hb, hbs⟩ := not_or.mp (mt List.mem_cons.mpr hb)
    rw [List.cons_append, basicString_cons (Ne.symm hq) (Ne.symm hb)] at h
    split at h
    · cases h
    · obtain ⟨inner, hi, rfl⟩ := Option.map_eq_some_iff.mp h
      obtain ⟨content, behind, hc, rfl⟩ := ih hqs hbs hi
      exact ⟨content, behind, hc, rfl⟩

/-- A string ends with a quote on its line. -/
theorem basicString_ends {skip : Nat} {text content rest : List Char}
    (h : basicString skip text = some (content, rest)) :
    ∃ inner, text.drop skip = inner ++ '"' :: rest ∧ '\n' ∉ inner := by
  fun_induction basicString skip text generalizing content with
  | case1 => cases h
  | case2 skip c tail ih => exact ih h
  | case3 tail => cases h; exact ⟨[], rfl, nofun⟩
  | case4 tail ih =>
    obtain ⟨⟨found, taken⟩, hesc, h⟩ := Option.bind_eq_some_iff.mp h
    obtain ⟨⟨_, behind⟩, hi, he⟩ := Option.bind_eq_some_iff.mp h
    cases he
    obtain ⟨inner, ht, hn⟩ := ih taken hi
    refine ⟨'\\' :: (tail.take taken ++ inner), ?_, ?_⟩
    · rw [List.drop_zero, List.cons_append, List.append_assoc, ← ht, List.take_append_drop]
    · refine List.not_mem_cons_of_ne_of_not_mem (by decide) (List.not_mem_append ?_ hn)
      exact fun hmem => (escape?_taken hesc '\n' hmem).2 rfl
  | case5 c tail _ _ hc => cases h
  | case6 c tail hnq hnb hc ih =>
    obtain ⟨⟨_, behind⟩, hi, he⟩ := Option.map_eq_some_iff.mp h
    cases he
    obtain ⟨inner, ht, hn⟩ := ih hi
    refine ⟨c :: inner, congrArg (c :: ·) ht, List.not_mem_cons_of_ne_of_not_mem ?_ hn⟩
    rintro rfl
    exact hc rfl

theorem basicString_fillMarks {skip : Nat} {text : List Char} (hf : Fillable mark value text)
    {content rest : List Char} {found : List Char × List Char}
    (h : basicString skip text = some (content, rest))
    (hv : (∃ inner, text.drop skip = inner ++ '"' :: rest ∧ mark ∈ inner ∧ '\n' ∉ inner) →
      '"' ∉ value ∧ '\\' ∉ value)
    (h' : basicString 0 (fillMarks mark value (text.drop skip)) = some found) :
    found = (fillMarks mark value content, fillMarks mark value rest) ∧ rest <:+ text := by
  have hm := hf.isMark
  fun_induction basicString skip text generalizing content found with
  | case1 => cases h
  | case2 skip c tail ih =>
    obtain ⟨he, hs⟩ := ih (hf.of_suffix (List.suffix_cons _ _)) h hv h'
    exact ⟨he, hs.trans (List.suffix_cons _ _)⟩
  | case3 tail =>
    cases h
    rw [List.drop_zero, fillMarks_cons (hm.ne (by decide)), basicString] at h'
    cases h'
    exact ⟨rfl, List.suffix_cons _ _⟩
  | case4 tail ih =>
    obtain ⟨⟨letter, taken⟩, hesc, h⟩ := Option.bind_eq_some_iff.mp h
    obtain ⟨⟨inner, behind⟩, hi, he⟩ := Option.bind_eq_some_iff.mp h
    cases he
    obtain ⟨hescf, hun⟩ := escape?_fillMarks value hm hesc
    have hletter : letter ≠ mark := by
      rintro rfl
      exact hf.unwritten tail (List.suffix_refl _) taken hesc
    rw [List.drop_zero, fillMarks_cons (hm.ne (by decide)), basicString, hescf] at h'
    obtain ⟨_, ⟨⟩, h'⟩ := Option.bind_eq_some_iff.mp h'
    obtain ⟨inner', hi', he'⟩ := Option.bind_eq_some_iff.mp h'
    rw [basicString_skip, fillMarks_drop hun] at hi'
    have hbehind : (∃ inner, tail.drop taken = inner ++ '"' :: rest ∧ mark ∈ inner ∧ '\n' ∉ inner) →
        '"' ∉ value ∧ '\\' ∉ value := by
      rintro ⟨front, ht, hmem, hn⟩
      refine hv ⟨'\\' :: (tail.take taken ++ front), ?_, ?_, ?_⟩
      · rw [List.drop_zero, List.cons_append, List.append_assoc, ← ht, List.take_append_drop]
      · exact List.mem_cons_of_mem _ (List.mem_append_right _ hmem)
      · refine List.not_mem_cons_of_ne_of_not_mem (by decide) (List.not_mem_append ?_ hn)
        exact fun hmem => (escape?_taken hesc '\n' hmem).2 rfl
    obtain ⟨rfl, hs⟩ := ih taken (hf.of_suffix (List.suffix_cons _ _)) hi hbehind hi'
    cases he'
    rw [fillMarks_cons hletter]
    exact ⟨rfl, hs.trans (List.suffix_cons _ _)⟩
  | case5 c tail _ _ hc => cases h
  | case6 c tail hnq hnb hc ih =>
    obtain ⟨⟨inner, behind⟩, hi, he⟩ := Option.map_eq_some_iff.mp h
    cases he
    have hcn : '\n' ≠ c := by
      rintro rfl
      exact hc rfl
    have hstep {found : List Char × List Char} (h' : basicString 0 (fillMarks mark value tail) = some found) :
        found = (fillMarks mark value inner, fillMarks mark value rest) ∧ rest <:+ tail := by
      refine ih (hf.of_suffix (List.suffix_cons _ _)) hi ?_ h'
      rintro ⟨front, ht, hmem, hn⟩
      exact hv ⟨c :: front, congrArg (c :: ·) ht, List.mem_cons_of_mem _ hmem,
        List.not_mem_cons_of_ne_of_not_mem hcn hn⟩
    rw [List.drop_zero] at h'
    by_cases hcm : c = mark
    · subst hcm
      obtain ⟨front, ht, hn⟩ := basicString_ends hi
      obtain ⟨hq, hb⟩ := hv ⟨c :: front, congrArg (c :: ·) ht, List.mem_cons_self,
        List.not_mem_cons_of_ne_of_not_mem hcn hn⟩
      rw [fillMarks_mark] at h' ⊢
      obtain ⟨content', behind', hi', rfl⟩ := basicString_append hq hb h'
      obtain ⟨he, hs⟩ := hstep hi'
      cases he
      exact ⟨rfl, hs.trans (List.suffix_cons _ _)⟩
    · rw [fillMarks_cons hcm, basicString_cons hnq hnb, if_neg hc] at h'
      obtain ⟨inner', hi', rfl⟩ := Option.map_eq_some_iff.mp h'
      obtain ⟨rfl, hs⟩ := hstep hi'
      rw [fillMarks_cons hcm]
      exact ⟨rfl, hs.trans (List.suffix_cons _ _)⟩

theorem literalString_cons {c : Char} (hq : c ≠ '\'') (rest : List Char) :
    literalString (c :: rest) =
      if isControl c then none
      else (literalString rest).map fun (content, rest) => (c :: content, rest) := by
  rw [literalString]
  exact hq

theorem literalString_append {front : List Char} (hq : '\'' ∉ front) {rest : List Char}
    {found : List Char × List Char} (h : literalString (front ++ rest) = some found) :
    ∃ content behind, literalString rest = some (content, behind) ∧ found = (front ++ content, behind) := by
  induction front generalizing found with
  | nil => exact ⟨found.1, found.2, h, rfl⟩
  | cons c front ih =>
    obtain ⟨hq, hqs⟩ := not_or.mp (mt List.mem_cons.mpr hq)
    rw [List.cons_append, literalString_cons (Ne.symm hq)] at h
    split at h
    · cases h
    · obtain ⟨inner, hi, rfl⟩ := Option.map_eq_some_iff.mp h
      obtain ⟨content, behind, hc, rfl⟩ := ih hqs hi
      exact ⟨content, behind, hc, rfl⟩

theorem literalString_ends {text content rest : List Char} (h : literalString text = some (content, rest)) :
    ∃ inner, text = inner ++ '\'' :: rest ∧ '\n' ∉ inner := by
  fun_induction literalString text generalizing content with
  | case1 => cases h
  | case2 tail => cases h; exact ⟨[], rfl, nofun⟩
  | case3 c tail _ hc => cases h
  | case4 c tail hnq hc ih =>
    obtain ⟨⟨_, behind⟩, hi, he⟩ := Option.map_eq_some_iff.mp h
    cases he
    obtain ⟨inner, ht, hn⟩ := ih hi
    refine ⟨c :: inner, congrArg (c :: ·) ht, List.not_mem_cons_of_ne_of_not_mem ?_ hn⟩
    rintro rfl
    exact hc rfl

theorem literalString_fillMarks {text : List Char} (hf : Fillable mark value text)
    {content rest : List Char} {found : List Char × List Char}
    (h : literalString text = some (content, rest))
    (hv : (∃ inner, text = inner ++ '\'' :: rest ∧ mark ∈ inner ∧ '\n' ∉ inner) → '\'' ∉ value)
    (h' : literalString (fillMarks mark value text) = some found) :
    found = (fillMarks mark value content, fillMarks mark value rest) ∧ rest <:+ text := by
  have hm := hf.isMark
  fun_induction literalString text generalizing content found with
  | case1 => cases h
  | case2 tail =>
    cases h
    rw [fillMarks_cons (hm.ne (by decide)), literalString] at h'
    cases h'
    exact ⟨rfl, List.suffix_cons _ _⟩
  | case3 c tail _ hc => cases h
  | case4 c tail hnq hc ih =>
    obtain ⟨⟨inner, behind⟩, hi, he⟩ := Option.map_eq_some_iff.mp h
    cases he
    have hcn : '\n' ≠ c := by
      rintro rfl
      exact hc rfl
    have hstep {found : List Char × List Char} (h' : literalString (fillMarks mark value tail) = some found) :
        found = (fillMarks mark value inner, fillMarks mark value rest) ∧ rest <:+ tail := by
      refine ih (hf.of_suffix (List.suffix_cons _ _)) hi ?_ h'
      rintro ⟨front, ht, hmem, hn⟩
      exact hv ⟨c :: front, congrArg (c :: ·) ht, List.mem_cons_of_mem _ hmem,
        List.not_mem_cons_of_ne_of_not_mem hcn hn⟩
    by_cases hcm : c = mark
    · subst hcm
      obtain ⟨front, ht, hn⟩ := literalString_ends hi
      have hq := hv ⟨c :: front, congrArg (c :: ·) ht, List.mem_cons_self,
        List.not_mem_cons_of_ne_of_not_mem hcn hn⟩
      rw [fillMarks_mark] at h' ⊢
      obtain ⟨content', behind', hi', rfl⟩ := literalString_append hq h'
      obtain ⟨he, hs⟩ := hstep hi'
      cases he
      exact ⟨rfl, hs.trans (List.suffix_cons _ _)⟩
    · rw [fillMarks_cons hcm, literalString_cons hnq, if_neg hc] at h'
      obtain ⟨inner', hi', rfl⟩ := Option.map_eq_some_iff.mp h'
      obtain ⟨rfl, hs⟩ := hstep hi'
      rw [fillMarks_cons hcm]
      exact ⟨rfl, hs.trans (List.suffix_cons _ _)⟩

/-! ## Strings over several lines -/

theorem longString_skip (quote : Char) (escapes : Bool) (skip : Nat) (text : List Char) :
    longString quote escapes skip text = longString quote escapes 0 (text.drop skip) := by
  induction text generalizing skip with
  | nil => cases skip <;> rfl
  | cons c rest ih =>
    cases skip with
    | zero => rfl
    | succ skip => exact ih skip

theorem longString_cons {quote : Char} {escapes : Bool} {c : Char} (hr : c ≠ '\r') (rest : List Char) :
    longString quote escapes 0 (c :: rest) =
      if c = quote ∧ 3 ≤ quotesAhead quote (c :: rest) then
        some (List.replicate (quotesAhead quote (c :: rest) - 3) quote,
          (c :: rest).drop (quotesAhead quote (c :: rest)))
      else if c = '\\' ∧ escapes then
        if joinsLines rest then longString quote escapes (blanksAhead rest) rest
        else do
          let (c, taken) ← escape? rest
          let (content, rest) ← longString quote escapes taken rest
          some (c :: content, rest)
      else if isControl c && c != '\n' then none
      else (longString quote escapes 0 rest).map fun (content, rest) => (c :: content, rest) := by
  rw [longString]
  exact fun _ he => absurd he hr

/-- Half a line break in a string is followed by the other half. -/
theorem longString_return {quote : Char} (hq : quote ≠ '\r') {escapes : Bool} {text : List Char}
    {found : List Char × List Char} (h : longString quote escapes 0 ('\r' :: text) = some found) :
    ∃ rest, text = '\n' :: rest := by
  by_cases hn : ∃ rest, text = '\n' :: rest
  · exact hn
  · rw [longString, if_neg (fun hc => hq hc.1.symm), if_neg (fun hc => absurd hc.1 (by decide))] at h
    · cases h
    · exact fun rest _ he => hn ⟨rest, he⟩

/-- A character that means nothing in a string belongs to its content, if the string ends at all. -/
theorem longString_step {quote : Char} (hquote : IsQuote quote) {escapes : Bool} {c : Char}
    (hq : c ≠ quote) (hb : escapes = true → c ≠ '\\') {text : List Char} {found : List Char × List Char}
    (h : longString quote escapes 0 (c :: text) = some found) :
    ∃ content behind, longString quote escapes 0 text = some (content, behind) ∧
      found = (c :: content, behind) := by
  have hqr : quote ≠ '\r' := hquote.ne (by decide) (by decide)
  have hqn : quote ≠ '\n' := hquote.ne (by decide) (by decide)
  by_cases hr : c = '\r'
  · subst hr
    obtain ⟨rest, rfl⟩ := longString_return hqr h
    rw [longString] at h
    obtain ⟨⟨content, behind⟩, hi, rfl⟩ := Option.map_eq_some_iff.mp h
    refine ⟨'\n' :: content, behind, ?_, rfl⟩
    rw [longString_cons (by decide), if_neg (fun h => hqn h.1.symm), if_neg (fun h => absurd h.1 (by decide)), hi]
    rfl
  · rw [longString_cons hr, if_neg (fun h => hq h.1), if_neg (fun h => hb h.2 h.1)] at h
    split at h
    · cases h
    · obtain ⟨⟨content, behind⟩, hi, rfl⟩ := Option.map_eq_some_iff.mp h
      exact ⟨content, behind, hi, rfl⟩

theorem longString_append {quote : Char} (hquote : IsQuote quote) {escapes : Bool}
    {front : List Char} (hq : quote ∉ front) (hb : escapes = true → '\\' ∉ front) {rest : List Char}
    {found : List Char × List Char} (h : longString quote escapes 0 (front ++ rest) = some found) :
    ∃ content behind, longString quote escapes 0 rest = some (content, behind) ∧
      found = (front ++ content, behind) := by
  induction front generalizing found with
  | nil => exact ⟨found.1, found.2, h, rfl⟩
  | cons c front ih =>
    obtain ⟨hq, hqs⟩ := not_or.mp (mt List.mem_cons.mpr hq)
    have hbs : escapes = true → '\\' ∉ front := fun he hm => hb he (List.mem_cons_of_mem _ hm)
    have hb : escapes = true → c ≠ '\\' := fun he hm => hb he (List.mem_cons.mpr (.inl hm.symm))
    obtain ⟨inner, behind, hi, rfl⟩ := longString_step hquote (Ne.symm hq) hb h
    obtain ⟨content, _, hc, he⟩ := ih hqs hbs hi
    cases he
    exact ⟨content, _, hc, rfl⟩

/-- The quotes ahead of a text stand in a row at its start. -/
theorem take_quotesAhead (quote : Char) (text : List Char) :
    text.take (quotesAhead quote text) = List.replicate (quotesAhead quote text) quote := by
  have hp : (text.take 5).takeWhile (· == quote) <+: text :=
    (List.takeWhile_prefix _).trans (List.take_prefix _ _)
  rw [quotesAhead, ← List.prefix_iff_eq_take.mp hp]
  refine List.eq_replicate_iff.mpr ⟨rfl, fun c hc => ?_⟩
  have hc := List.mem_takeWhile_imp hc
  exact beq_iff_eq.mp hc

theorem prefix_of_quotesAhead {quote : Char} {text : List Char} (h : 3 ≤ quotesAhead quote text) :
    [quote, quote, quote] <+: text := by
  have hthree : List.replicate 3 quote <+: List.replicate (quotesAhead quote text) quote :=
    List.prefix_replicate_iff.mpr ⟨by simpa using h, by simp⟩
  rw [← take_quotesAhead] at hthree
  exact hthree.trans (List.take_prefix _ _)

/-- A string over several lines ends with three quotes. -/
theorem longString_ends {quote : Char} {escapes : Bool} {skip : Nat} {text : List Char}
    {found : List Char × List Char} (h : longString quote escapes skip text = some found) :
    [quote, quote, quote] <:+: text.drop skip := by
  fun_induction longString quote escapes skip text generalizing found with
  | case1 => cases h
  | case2 skip c tail ih => exact ih h
  | case3 tail ih =>
    obtain ⟨inner, hi, -⟩ := Option.map_eq_some_iff.mp h
    exact (ih hi).trans ((List.suffix_cons _ _).trans (List.suffix_cons _ _)).isInfix
  | case4 c tail _ hc =>
    obtain ⟨rfl, hthree⟩ := hc
    exact (prefix_of_quotesAhead hthree).isInfix
  | case5 c tail _ _ _ _ ih =>
    exact (ih h).trans ((List.drop_suffix _ _).trans (List.suffix_cons _ _)).isInfix
  | case6 c tail _ _ _ _ ih =>
    obtain ⟨⟨_, taken⟩, -, h⟩ := Option.bind_eq_some_iff.mp h
    obtain ⟨inner, hi, -⟩ := Option.bind_eq_some_iff.mp h
    exact (ih taken hi).trans ((List.drop_suffix _ _).trans (List.suffix_cons _ _)).isInfix
  | case7 => cases h
  | case8 c tail _ _ _ _ ih =>
    obtain ⟨inner, hi, -⟩ := Option.map_eq_some_iff.mp h
    exact (ih hi).trans (List.suffix_cons _ _).isInfix

section

variable {quote : Char} (hqm : quote ≠ mark)

include hqm

theorem mark_not_mem_quotesAhead (text : List Char) : mark ∉ text.take (quotesAhead quote text) := by
  rw [take_quotesAhead]
  exact fun hm => hqm (List.eq_of_mem_replicate hm).symm

theorem takeWhile_take_fillMarks {text : List Char} {count : Nat}
    (hs : (text.drop ((text.take count).takeWhile (· == quote)).length).head? = some mark →
      (fillMarks mark value (text.drop ((text.take count).takeWhile (· == quote)).length)).head? ≠ some quote) :
    ((fillMarks mark value text).take count).takeWhile (· == quote) =
      (text.take count).takeWhile (· == quote) := by
  induction text generalizing count with
  | nil => rfl
  | cons c rest ih =>
    cases count with
    | zero => rfl
    | succ count =>
      rw [List.take_succ_cons, List.takeWhile_cons] at hs ⊢
      split at hs
      · rename_i hq
        have hcm : c ≠ mark := fun he => hqm ((beq_iff_eq.mp hq).symm.trans he)
        rw [if_pos hq, fillMarks_cons hcm, List.take_succ_cons, List.takeWhile_cons, if_pos hq, ih hs]
      · rename_i hq
        have hhead : (fillMarks mark value (c :: rest)).head? ≠ some quote := by
          by_cases hcm : c = mark
          · exact hs (congrArg some hcm)
          · rw [fillMarks_cons hcm]
            exact fun he => hq (beq_iff_eq.mpr (Option.some.inj he))
        rw [if_neg hq]
        cases hf : fillMarks mark value (c :: rest) with
        | nil => rfl
        | cons d tail =>
          rw [hf] at hhead
          have hd : ¬ (d == quote) = true := fun he => hhead (congrArg some (beq_iff_eq.mp he))
          rw [List.take_succ_cons, List.takeWhile_cons, if_neg hd]

/-- What stands in the place of a mark behind quotes keeps them apart from others, as the mark does. -/
theorem quotesAhead_fillMarks (value : List Char) {text : List Char}
    (hs : (text.drop (quotesAhead quote text)).head? = some mark →
      (fillMarks mark value (text.drop (quotesAhead quote text))).head? ≠ some quote) :
    quotesAhead quote (fillMarks mark value text) = quotesAhead quote text :=
  congrArg List.length (takeWhile_take_fillMarks hqm hs)

/-- Three quotes in a row do not go across a mark. -/
theorem infix_behind_mark {count : Nat} (hc : count < 3) {rest : List Char}
    (h : [quote, quote, quote] <:+: List.replicate count quote ++ mark :: rest) :
    [quote, quote, quote] <:+: rest := by
  induction count with
  | zero =>
    rcases List.infix_cons_iff.mp h with ⟨tail, ht⟩ | hi
    · exact absurd (List.cons.inj ht).1 hqm
    · exact hi
  | succ count ih =>
    rcases List.infix_cons_iff.mp h with ⟨tail, ht⟩ | hi
    · have hlast := (List.cons.inj ht).2
      match count with
      | 0 => exact absurd (List.cons.inj hlast).1 hqm
      | 1 => exact absurd (List.cons.inj (List.cons.inj hlast).2).1 hqm
    · exact ih (by omega) hi

/-- A mark behind one or two quotes stands in front of the three quotes that follow. -/
theorem exists_of_quotesAhead {text : List Char} (hfew : quotesAhead quote text < 3)
    (hq : text.head? = some quote) (hm : (text.drop (quotesAhead quote text)).head? = some mark)
    (h : [quote, quote, quote] <:+: text) :
    ∃ rest, text.drop (quotesAhead quote text) = mark :: rest ∧ quote :: mark :: rest <:+ text ∧
      [quote, quote, quote] <:+: rest := by
  obtain ⟨rest, he⟩ := List.head?_eq_some_iff.mp hm
  have ht : text = List.replicate (quotesAhead quote text) quote ++ mark :: rest := by
    rw [← take_quotesAhead, ← he, List.take_append_drop]
  have hpos : quotesAhead quote text ≠ 0 := by
    intro hz
    rw [hz, List.drop_zero] at he
    rw [he] at hq
    exact hqm (Option.some.inj hq).symm
  refine ⟨rest, he, ?_, infix_behind_mark hqm hfew (ht ▸ h)⟩
  obtain ⟨count, hcount⟩ := Nat.exists_eq_succ_of_ne_zero hpos
  rw [hcount, List.replicate_succ'] at ht
  exact ⟨List.replicate count quote, by rw [ht]; simp⟩

end

theorem mark_not_mem_blanksAhead (hm : IsMark mark) (text : List Char) :
    mark ∉ text.take (blanksAhead text) := by
  have hn : mark ≠ '\n' := (hm.ne (by decide)).symm
  have hr : mark ≠ '\r' := (hm.ne (by decide)).symm
  fun_induction blanksAhead text with
  | case1 rest ih => exact List.not_mem_cons_of_ne_of_not_mem hn ih
  | case2 rest ih =>
    exact List.not_mem_cons_of_ne_of_not_mem hr (List.not_mem_cons_of_ne_of_not_mem hn ih)
  | case3 c rest _ _ hs ih =>
    exact List.not_mem_cons_of_ne_of_not_mem (hm.ne (isSpace_ascii c hs)).symm ih
  | case4 c rest _ _ hs => exact List.not_mem_nil
  | case5 => exact List.not_mem_nil

theorem blanksAhead_cons {c : Char} (hn : c ≠ '\n') (hr : c ≠ '\r') (rest : List Char) :
    blanksAhead (c :: rest) = if isSpace c then blanksAhead rest + 1 else 0 := by
  rw [blanksAhead]
  · exact hn
  · exact fun _ he => absurd he hr

/-- Blanks end in front of what stands in the place of a mark, as they do in front of the mark. -/
theorem blanksAhead_fillMarks (hm : IsMark mark) {text : List Char}
    (hs : (text.drop (blanksAhead text)).head? = some mark →
      StartsOutside (fun c => isSpace c || isControl c) (fillMarks mark value (text.drop (blanksAhead text))))
    (hr : ∀ rest, text.drop (blanksAhead text) ≠ '\r' :: mark :: rest) :
    blanksAhead (fillMarks mark value text) = blanksAhead text := by
  have hn : '\n' ≠ mark := hm.ne (by decide)
  have hreturn : '\r' ≠ mark := hm.ne (by decide)
  fun_induction blanksAhead text with
  | case1 rest ih => rw [fillMarks_cons hn, blanksAhead, ih hs hr]
  | case2 rest ih => rw [fillMarks_cons hreturn, fillMarks_cons hn, blanksAhead, ih hs hr]
  | case3 c rest hcn _ hc ih =>
    have hcr : c ≠ '\r' := by
      rintro rfl
      cases hc
    rw [fillMarks_cons (hm.ne (isSpace_ascii c hc)), blanksAhead_cons hcn hcr, if_pos hc, ih hs hr]
  | case4 c rest hcn hcr hc =>
    by_cases hcm : c = mark
    · have hstart := hs (congrArg some hcm)
      rw [List.drop_zero] at hstart
      cases hf : fillMarks mark value (c :: rest) with
      | nil => rfl
      | cons d tail =>
        obtain ⟨hspace, hcontrol⟩ := Bool.or_eq_false_iff.mp (hstart d (by rw [hf]; rfl))
        have hdn : d ≠ '\n' := by
          rintro rfl
          cases hcontrol
        have hdr : d ≠ '\r' := by
          rintro rfl
          cases hcontrol
        rw [blanksAhead_cons hdn hdr, hspace, if_neg Bool.false_ne_true]
    · rw [fillMarks_cons hcm, blanksAhead, if_neg hc]
      · exact hcn
      -- half a line break stays one, because no mark stands behind it
      · intro behind he hb
        have hhead : rest.head? ≠ some mark := by
          intro hh
          obtain ⟨tail, rfl⟩ := List.head?_eq_some_iff.mp hh
          exact hr tail (congrArg (· :: mark :: tail) he)
        obtain ⟨rest, hrest, -⟩ := exists_of_fillMarks_cons hhead hb
        exact hcr rest he hrest
  | case5 => rfl

theorem joinsLines_fillMarks (hm : IsMark mark) {text : List Char} (h : joinsLines text = true) :
    joinsLines (fillMarks mark value text) = true := by
  obtain ⟨rest, hb⟩ := Option.isSome_iff_exists.mp h
  have hhead : (skipSpace text).head? ≠ some mark := by
    rcases afterBreak?_eq_some_iff.mp hb with he | he
    · rw [he]
      simpa using hm.ne (c := '\n') (by decide)
    · rw [he]
      simpa using hm.ne (c := '\r') (by decide)
  rw [joinsLines, skipSpace_fillMarks hm hhead, afterBreak?_fillMarks hm hb]
  rfl

/-- A backslash that starts an escape joins no lines. -/
theorem not_joinsLines_of_escape? {text : List Char} {found : Char} {taken : Nat}
    (h : escape? text = some (found, taken)) : joinsLines text = false := by
  obtain ⟨c, rest, rfl, hc⟩ := escape?_head h
  have hletters : ∀ c ∈ ['x', 'u', 'U', 'b', 't', 'n', 'f', 'r', 'e', '"', '\\'],
      isSpace c = false ∧ c ≠ '\n' ∧ c ≠ '\r' := by simp [isSpace]
  obtain ⟨hs, hn, hr⟩ := hletters c hc
  have hskip : skipSpace (c :: rest) = c :: rest := List.dropWhile_cons_of_neg (by simp [hs])
  rw [joinsLines, hskip, Option.isSome_eq_false_iff, Option.isNone_iff_eq_none, Option.eq_none_iff_forall_ne_some]
  intro behind hb
  rcases afterBreak?_eq_some_iff.mp hb with he | he
  · exact hn (List.cons.inj he).1
  · exact hr (List.cons.inj he).1

theorem longString_fillMarks {quote : Char} (hquote : IsQuote quote) {escapes : Bool}
    {skip : Nat} {text : List Char} (hf : Fillable mark value text)
    (hv : StandsBefore quote mark text → quote ∉ value ∧ (escapes = true → '\\' ∉ value))
    (ha : ∀ rest, quote :: mark :: rest <:+ text → [quote, quote, quote] <:+: rest →
      (fillMarks mark value (mark :: rest)).head? ≠ some quote)
    {content rest : List Char} {found : List Char × List Char}
    (h : longString quote escapes skip text = some (content, rest)) (hr : rest.head? ≠ some mark)
    (h' : longString quote escapes 0 (fillMarks mark value (text.drop skip)) = some found) :
    found = (fillMarks mark value content, fillMarks mark value rest) ∧ rest <:+ text := by
  have hm := hf.isMark
  have hqm := hquote.ne_mark hm
  have hqr : quote ≠ '\r' := hquote.ne (by decide) (by decide)
  have hqb : quote ≠ '\\' := hquote.ne (by decide) (by decide)
  fun_induction longString quote escapes skip text generalizing content found with
  | case1 => cases h
  | case2 skip c tail ih =>
    have htail : tail <:+ c :: tail := List.suffix_cons _ _
    obtain ⟨he, hs⟩ := ih (hf.of_suffix htail) (fun hb => hv (hb.of_suffix htail))
      (fun rest hb => ha rest (hb.trans htail)) h h'
    exact ⟨he, hs.trans htail⟩
  | case3 tail ih =>
    have htail : tail <:+ '\r' :: '\n' :: tail := (List.suffix_cons _ _).trans (List.suffix_cons _ _)
    obtain ⟨⟨inner, behind⟩, hi, he⟩ := Option.map_eq_some_iff.mp h
    cases he
    rw [List.drop_zero, fillMarks_cons (hm.ne (by decide)), fillMarks_cons (hm.ne (by decide)), longString] at h'
    obtain ⟨inner', hi', rfl⟩ := Option.map_eq_some_iff.mp h'
    obtain ⟨rfl, hs⟩ := ih (hf.of_suffix htail) (fun hb => hv (hb.of_suffix htail))
      (fun rest hb => ha rest (hb.trans htail)) hi hi'
    rw [fillMarks_cons (hm.ne (by decide)), fillMarks_cons (hm.ne (by decide))]
    exact ⟨rfl, hs.trans htail⟩
  | case4 c tail _ hc count =>
    obtain ⟨rfl, hthree⟩ := hc
    cases h
    have hahead := quotesAhead_fillMarks hqm value (fun hh => absurd hh hr)
    have hdrop : (fillMarks mark value (c :: tail)).drop count = fillMarks mark value ((c :: tail).drop count) :=
      fillMarks_drop (mark_not_mem_quotesAhead hqm (c :: tail))
    have hself : fillMarks mark value (List.replicate (count - 3) c) = List.replicate (count - 3) c := by
      refine fillMarks_eq_self fun hmem => ?_
      exact hqm (List.eq_of_mem_replicate hmem).symm
    rw [fillMarks_cons hqm] at hahead hdrop
    rw [List.drop_zero, fillMarks_cons hqm, longString_cons hqr, hahead, if_pos ⟨rfl, hthree⟩, hdrop] at h'
    cases h'
    rw [hself]
    exact ⟨rfl, List.drop_suffix _ _⟩
  | case5 c tail _ hnq hc hj ih =>
    obtain ⟨rfl, hesc⟩ := hc
    have htail : tail <:+ '\\' :: tail := List.suffix_cons _ _
    have hreturn (rest : List Char) : tail.drop (blanksAhead tail) ≠ '\r' :: mark :: rest := by
      intro he
      rw [longString_skip, he] at h
      obtain ⟨_, ht⟩ := longString_return hqr h
      exact hm.ne (c := '\n') (by decide) (List.cons.inj ht).1.symm
    rw [List.drop_zero, fillMarks_cons (hm.ne (by decide)), longString_cons (by decide),
      if_neg (fun h => hqb h.1.symm), if_pos ⟨rfl, hesc⟩, if_pos (joinsLines_fillMarks hm hj),
      blanksAhead_fillMarks hm (hf.fits.joined tail (List.suffix_refl _) hj) hreturn, longString_skip,
      fillMarks_drop (mark_not_mem_blanksAhead hm tail)] at h'
    obtain ⟨he, hs⟩ := ih (hf.of_suffix htail) (fun hb => hv (hb.of_suffix htail))
      (fun rest hb => ha rest (hb.trans htail)) h h'
    exact ⟨he, hs.trans htail⟩
  | case6 c tail _ hnq hc hj ih =>
    obtain ⟨rfl, hesc⟩ := hc
    have htail : tail <:+ '\\' :: tail := List.suffix_cons _ _
    obtain ⟨⟨letter, taken⟩, hletter, h⟩ := Option.bind_eq_some_iff.mp h
    obtain ⟨⟨inner, behind⟩, hi, he⟩ := Option.bind_eq_some_iff.mp h
    cases he
    obtain ⟨hfill, hun⟩ := escape?_fillMarks value hm hletter
    have hne : letter ≠ mark := by
      rintro rfl
      exact hf.unwritten tail (List.suffix_refl _) taken hletter
    rw [List.drop_zero, fillMarks_cons (hm.ne (by decide)), longString_cons (by decide),
      if_neg (fun h => hqb h.1.symm), if_pos ⟨rfl, hesc⟩, not_joinsLines_of_escape? hfill,
      if_neg Bool.false_ne_true, hfill] at h'
    obtain ⟨_, ⟨⟩, h'⟩ := Option.bind_eq_some_iff.mp h'
    obtain ⟨inner', hi', he'⟩ := Option.bind_eq_some_iff.mp h'
    rw [longString_skip, fillMarks_drop hun] at hi'
    obtain ⟨rfl, hs⟩ := ih taken (hf.of_suffix htail) (fun hb => hv (hb.of_suffix htail))
      (fun rest hb => ha rest (hb.trans htail)) hi hi'
    cases he'
    rw [fillMarks_cons hne]
    exact ⟨rfl, hs.trans htail⟩
  | case7 => cases h
  | case8 c tail _ hnq hnb hc ih =>
    have htail : tail <:+ c :: tail := List.suffix_cons _ _
    obtain ⟨⟨inner, behind⟩, hi, he⟩ := Option.map_eq_some_iff.mp h
    cases he
    have hends := longString_ends hi
    have hstep {found : List Char × List Char}
        (h' : longString quote escapes 0 (fillMarks mark value tail) = some found) :
        found = (fillMarks mark value inner, fillMarks mark value rest) ∧ rest <:+ tail :=
      ih (hf.of_suffix htail) (fun hb => hv (hb.of_suffix htail)) (fun rest hb => ha rest (hb.trans htail)) hi h'
    rw [List.drop_zero] at h' hends
    by_cases hcm : c = mark
    · subst hcm
      obtain ⟨hq, hb⟩ := hv ⟨tail, List.suffix_refl _, hends⟩
      rw [fillMarks_mark] at h' ⊢
      obtain ⟨content', behind', hi', rfl⟩ := longString_append hquote hq hb h'
      obtain ⟨he, hs⟩ := hstep hi'
      cases he
      exact ⟨rfl, hs.trans htail⟩
    · -- a quote that ends no string ends none if the marks behind it are filled in
      have hnq' : ¬ (c = quote ∧ 3 ≤ quotesAhead quote (c :: fillMarks mark value tail)) := by
        rintro ⟨rfl, hthree⟩
        have hfew : quotesAhead c (c :: tail) < 3 := Nat.lt_of_not_le fun h => hnq ⟨rfl, h⟩
        have hahead := quotesAhead_fillMarks hqm value fun hh => by
          obtain ⟨rest, he, hs, hq⟩ := exists_of_quotesAhead hqm hfew rfl hh (hends.trans htail.isInfix)
          rw [he]
          exact ha rest hs hq
        rw [fillMarks_cons hcm] at hahead
        rw [hahead] at hthree
        exact absurd hthree (Nat.not_le.mpr hfew)
      have hcr : c ≠ '\r' := by
        rintro rfl
        simp [isControl] at hc
      rw [fillMarks_cons hcm, longString_cons hcr, if_neg hnq', if_neg hnb, if_neg hc] at h'
      obtain ⟨inner', hi', rfl⟩ := Option.map_eq_some_iff.mp h'
      obtain ⟨rfl, hs⟩ := hstep hi'
      rw [fillMarks_cons hcm]
      exact ⟨rfl, hs.trans htail⟩

/-! ## Quoted strings -/

theorem skipBreak_suffix (text : List Char) : skipBreak text <:+ text := by
  rw [skipBreak]
  cases h : afterBreak? text with
  | none => exact List.suffix_refl _
  | some rest => exact afterBreak?_suffix h

theorem skipBreak_fillMarks (hm : IsMark mark) {text : List Char}
    (hs : text.head? = some mark → StartsOutside isControl (fillMarks mark value text))
    (hr : ∀ rest, text ≠ '\r' :: mark :: rest) :
    skipBreak (fillMarks mark value text) = fillMarks mark value (skipBreak text) := by
  rw [skipBreak, afterBreak?_fillMarks_eq hm hs hr, skipBreak]
  cases afterBreak? text <;> rfl

theorem longString_skipBreak_fillMarks {quote : Char} (hquote : IsQuote quote) {escapes : Bool}
    {tail : List Char} (hf : Fillable mark value (quote :: quote :: quote :: tail))
    (hv : StandsBetweenThree quote mark (quote :: quote :: quote :: tail) →
      quote ∉ value ∧ (escapes = true → '\\' ∉ value))
    {content rest : List Char} {found : List Char × List Char}
    (h : longString quote escapes 0 (skipBreak tail) = some (content, rest)) (hr : rest.head? ≠ some mark)
    (h' : longString quote escapes 0 (skipBreak (fillMarks mark value tail)) = some found) :
    found = (fillMarks mark value content, fillMarks mark value rest) ∧ rest <:+ tail := by
  have hm := hf.isMark
  have hqr : quote ≠ '\r' := hquote.ne (by decide) (by decide)
  have hn : '\n' ≠ mark := hm.ne (by decide)
  have hbreak := skipBreak_suffix tail
  have hstart (hh : tail.head? = some mark) : StartsOutside isControl (fillMarks mark value tail) := by
    obtain ⟨behind, rfl⟩ := List.head?_eq_some_iff.mp hh
    exact hf.fits.first quote hquote behind (List.suffix_refl _)
  have hreturn (behind : List Char) : tail ≠ '\r' :: mark :: behind := by
    rintro rfl
    have hnone : afterBreak? ('\r' :: mark :: behind) = none := by
      rw [Option.eq_none_iff_forall_ne_some]
      intro _ hb
      rcases afterBreak?_eq_some_iff.mp hb with he | he
      · cases he
      · exact hn (List.cons.inj (List.cons.inj he).2).1.symm
    rw [skipBreak, hnone] at h
    obtain ⟨_, ht⟩ := longString_return hqr h
    exact hn (List.cons.inj ht).1.symm
  rw [skipBreak_fillMarks hm hstart hreturn] at h'
  have htail : skipBreak tail <:+ quote :: quote :: quote :: tail := hbreak.trans ⟨[quote, quote, quote], rfl⟩
  have hbefore (hb : StandsBefore quote mark (skipBreak tail)) :=
    hv ⟨tail, List.suffix_refl _, hb.of_suffix hbreak⟩
  have hapart (behind : List Char) (hb : quote :: mark :: behind <:+ skipBreak tail) :=
    hf.fits.apart quote hquote tail behind (List.suffix_refl _) (hb.trans hbreak)
  obtain ⟨he, hs⟩ := longString_fillMarks hquote (hf.of_suffix htail) hbefore hapart h hr h'
  exact ⟨he, hs.trans hbreak⟩

/-- Whether a text is what may follow a value: blanks, and then a comment, the end of a line or of the text,
or what goes on with an array or an inline table. -/
def EndsValue (rest : List Char) : Prop :=
  ∀ c, (skipSpace rest).head? = some c → c ∈ ['#', '\n', '\r', ',', ']', '\x7d']

/-- What follows a value starts with a blank, or with a sign that no value goes on with. -/
theorem EndsValue.head {rest : List Char} (h : EndsValue rest) {c : Char} (hc : rest.head? = some c) :
    c ∈ [' ', '\t', '#', '\n', '\r', ',', ']', '\x7d'] := by
  cases rest with
  | nil => cases hc
  | cons d tail =>
    cases hc
    cases hs : isSpace c with
    | true =>
      simp only [isSpace, Bool.or_eq_true, beq_iff_eq] at hs
      rcases hs with rfl | rfl <;> decide
    | false =>
      have hd := h c
      rw [skipSpace, List.dropWhile_cons_of_neg (by simp [hs])] at hd
      exact List.mem_cons_of_mem _ (List.mem_cons_of_mem _ (hd rfl))

/-- Where a value ends, no mark stands. -/
theorem EndsValue.ne_mark {rest : List Char} (h : EndsValue rest) (hm : IsMark mark) :
    rest.head? ≠ some mark := by
  intro hc
  have hascii : IsAscii [' ', '\t', '#', '\n', '\r', ',', ']', '\x7d'] := by decide
  exact hm.ne (hascii mark (h.head hc)) rfl

/-- Where a value ends, what is put in the place of marks adds no quote. -/
theorem EndsValue.ne_quotes {rest : List Char} (h : EndsValue rest) (value : List Char) (hm : IsMark mark) :
    (fillMarks mark value rest).head? ≠ some '"' ∧ (fillMarks mark value rest).head? ≠ some '\'' := by
  rw [head_fillMarks (h.ne_mark hm)]
  exact ⟨fun hc => absurd (h.head hc) (by decide), fun hc => absurd (h.head hc) (by decide)⟩

theorem quoted?_fillMarks {text : List Char} (hf : Fillable mark value text) {content rest : List Char}
    {found : List Char × List Char} (h : quoted? text = some (content, rest))
    (h' : quoted? (fillMarks mark value text) = some found) (he : EndsValue rest) :
    found = (fillMarks mark value content, fillMarks mark value rest) ∧ rest <:+ text := by
  have hm := hf.isMark
  obtain ⟨hnd, hns⟩ := he.ne_quotes value hm
  have hd : '"' ≠ mark := hm.ne (by decide)
  have hs : '\'' ≠ mark := hm.ne (by decide)
  unfold quoted? at h
  split at h
  · rename_i tail
    rw [fillMarks_cons hd, fillMarks_cons hd, fillMarks_cons hd, quoted?] at h'
    have hv (hb : StandsBetweenThree '"' mark ('"' :: '"' :: '"' :: tail)) :
        '"' ∉ value ∧ (true = true → '\\' ∉ value) := by
      obtain ⟨hq, hb⟩ := hf.fits.basic (.inr hb)
      exact ⟨hq, fun _ => hb⟩
    obtain ⟨hfound, hsuf⟩ := longString_skipBreak_fillMarks (.inl rfl) hf hv h (he.ne_mark hm) h'
    exact ⟨hfound, hsuf.trans ⟨['"', '"', '"'], rfl⟩⟩
  · rename_i tail
    rw [fillMarks_cons hs, fillMarks_cons hs, fillMarks_cons hs, quoted?] at h'
    have hv (hb : StandsBetweenThree '\'' mark ('\'' :: '\'' :: '\'' :: tail)) :
        '\'' ∉ value ∧ (false = true → '\\' ∉ value) :=
      ⟨hf.fits.literal (.inr hb), nofun⟩
    obtain ⟨hfound, hsuf⟩ := longString_skipBreak_fillMarks (.inr rfl) hf hv h (he.ne_mark hm) h'
    exact ⟨hfound, hsuf.trans ⟨['\'', '\'', '\''], rfl⟩⟩
  · rename_i tail _
    have htail : tail <:+ '"' :: tail := List.suffix_cons _ _
    have hread {found : List Char × List Char} (h' : basicString 0 (fillMarks mark value tail) = some found) :=
      basicString_fillMarks (hf.of_suffix htail) h (fun hb => hf.fits.basic (.inl (.of_split hb))) h'
    -- two quotes at the start would end the string and leave one in front of the rest
    have htwo (behind : List Char) : fillMarks mark value tail ≠ '"' :: '"' :: behind := by
      intro htwo
      obtain ⟨hfound, -⟩ := hread (by rw [htwo, basicString])
      exact hnd (by rw [← (Prod.mk.inj hfound).2]; rfl)
    rw [fillMarks_cons hd, quoted?] at h'
    · obtain ⟨hfound, hsuf⟩ := hread h'
      exact ⟨hfound, hsuf.trans htail⟩
    · exact htwo
  · rename_i tail _
    have htail : tail <:+ '\'' :: tail := List.suffix_cons _ _
    have hread {found : List Char × List Char} (h' : literalString (fillMarks mark value tail) = some found) :=
      literalString_fillMarks (hf.of_suffix htail) h (fun hb => hf.fits.literal (.inl (.of_split hb))) h'
    have htwo (behind : List Char) : fillMarks mark value tail ≠ '\'' :: '\'' :: behind := by
      intro htwo
      obtain ⟨hfound, -⟩ := hread (by rw [htwo, literalString])
      exact hns (by rw [← (Prod.mk.inj hfound).2]; rfl)
    rw [fillMarks_cons hs, quoted?] at h'
    · obtain ⟨hfound, hsuf⟩ := hread h'
      exact ⟨hfound, hsuf.trans htail⟩
    · exact htwo
  · cases h

/-! ## Keys -/

theorem exists_of_takeWhile {p : Char → Bool} {text : List Char} (h : ¬ (text.takeWhile p).isEmpty = true) :
    ∃ c tail, text = c :: tail ∧ p c = true := by
  cases text with
  | nil => exact absurd rfl h
  | cons c tail =>
    cases hc : p c with
    | true => exact ⟨c, tail, rfl, hc⟩
    | false =>
      rw [List.takeWhile_cons, hc] at h
      exact absurd rfl h

/-- A part of a key starts with a quote or with a character of a bare key. -/
theorem keyPart?_clear (hm : IsMark mark) {text : List Char} {found : String × List Char}
    (h : keyPart? text = some found) : StartsClear mark text := by
  unfold keyPart? at h
  split at h
  · exact .cons (hm.ne (by decide)) (by decide) _
  · exact .cons (hm.ne (by decide)) (by decide) _
  · dsimp only at h
    split at h
    · cases h
    · rename_i hp
      obtain ⟨c, tail, rfl, hc⟩ := exists_of_takeWhile hp
      refine .cons (hm.ne (isBareKeyChar_ascii c hc)) ?_ tail
      rintro rfl
      cases hc

theorem key?_clear (hm : IsMark mark) {rounds : Nat} {text : List Char} {found : List String × List Char}
    (h : key? rounds text = some found) : StartsClear mark text := by
  cases rounds with
  | zero => cases h
  | succ rounds =>
    obtain ⟨part, hp, -⟩ := Option.bind_eq_some_iff.mp h
    exact keyPart?_clear hm hp

theorem keyPart?_fillMarks {text : List Char} (hf : Fillable mark value text) {part : String}
    {rest : List Char} {found : String × List Char} (h : keyPart? text = some (part, rest))
    (h' : keyPart? (fillMarks mark value text) = some found) (hp : mark ∉ part.toList)
    (hr : rest.head? ≠ some mark) : found = (part, fillMarks mark value rest) ∧ rest <:+ text := by
  have hm := hf.isMark
  have hd : '"' ≠ mark := hm.ne (by decide)
  have hs : '\'' ≠ mark := hm.ne (by decide)
  unfold keyPart? at h
  split at h
  · rename_i tail
    obtain ⟨⟨content, behind⟩, hb, he⟩ := Option.map_eq_some_iff.mp h
    cases he
    rw [String.toList_ofList] at hp
    rw [fillMarks_cons hd, keyPart?] at h'
    obtain ⟨inner, hi, rfl⟩ := Option.map_eq_some_iff.mp h'
    have htail : tail <:+ '"' :: tail := List.suffix_cons _ _
    obtain ⟨rfl, hsuf⟩ :=
      basicString_fillMarks (hf.of_suffix htail) hb (fun hb => hf.fits.basic (.inl (.of_split hb))) hi
    rw [fillMarks_eq_self hp]
    exact ⟨rfl, hsuf.trans htail⟩
  · rename_i tail
    obtain ⟨⟨content, behind⟩, hb, he⟩ := Option.map_eq_some_iff.mp h
    cases he
    rw [String.toList_ofList] at hp
    rw [fillMarks_cons hs, keyPart?] at h'
    obtain ⟨inner, hi, rfl⟩ := Option.map_eq_some_iff.mp h'
    have htail : tail <:+ '\'' :: tail := List.suffix_cons _ _
    obtain ⟨rfl, hsuf⟩ :=
      literalString_fillMarks (hf.of_suffix htail) hb (fun hb => hf.fits.literal (.inl (.of_split hb))) hi
    rw [fillMarks_eq_self hp]
    exact ⟨rfl, hsuf.trans htail⟩
  · dsimp only at h
    split at h
    · cases h
    · rename_i hnd hns hne
      cases h
      obtain ⟨ht, hdrop⟩ := run_fillMarks value (hm.not_ascii isBareKeyChar_ascii) hr
      obtain ⟨c, tail, rfl, hc⟩ := exists_of_takeWhile hne
      refine ⟨?_, List.dropWhile_suffix _⟩
      rw [fillMarks_cons (hm.ne (isBareKeyChar_ascii c hc))] at ht hdrop h'
      rw [keyPart?, ht, hdrop, if_neg hne] at h'
      · exact (Option.some.inj h').symm
      · rintro _ he
        exact hnd tail (by rw [(List.cons.inj he).1])
      · rintro _ he
        exact hns tail (by rw [(List.cons.inj he).1])

theorem key?_fillMarks {rounds others : Nat} {text : List Char} (hf : Fillable mark value text)
    {key key' : List String} {rest rest' : List Char} (h : key? rounds text = some (key, rest))
    (h' : key? others (fillMarks mark value text) = some (key', rest')) (hk : ∀ part ∈ key, mark ∉ part.toList)
    (hr : rest.head? ≠ some mark) :
    key' = key ∧ rest' = fillMarks mark value rest ∧ rest <:+ text := by
  have hm := hf.isMark
  induction rounds generalizing others text key key' with
  | zero => cases h
  | succ rounds ih =>
    cases others with
    | zero => cases h'
    | succ others =>
      rw [key?] at h h'
      obtain ⟨⟨part, behind⟩, hp, h⟩ := Option.bind_eq_some_iff.mp h
      obtain ⟨found, hp', h'⟩ := Option.bind_eq_some_iff.mp h'
      have hfirst (hc : (skipSpace behind).head? ≠ some mark) (hu : mark ∉ part.toList) :
          found = (part, fillMarks mark value behind) ∧ behind <:+ text ∧
            skipSpace (fillMarks mark value behind) = fillMarks mark value (skipSpace behind) := by
        obtain ⟨he, hs⟩ := keyPart?_fillMarks hf hp hp' hu (head_of_skipSpace hm hc)
        exact ⟨he, hs, skipSpace_fillMarks hm hc⟩
      dsimp only at h
      split at h
      · rename_i next hnext
        obtain ⟨⟨parts, last⟩, hparts, he⟩ := Option.bind_eq_some_iff.mp h
        cases he
        obtain ⟨hpart, hks⟩ := List.forall_mem_cons.mp hk
        have hdot : '.' ≠ mark := hm.ne (by decide)
        obtain ⟨rfl, hs, hskip⟩ := hfirst (by rw [hnext]; simpa using hdot) hpart
        simp only [hskip, hnext, fillMarks_cons hdot, skipSpace_fillMarks hm (key?_clear hm hparts).ne_mark] at h'
        obtain ⟨⟨parts', last'⟩, hparts', he'⟩ := Option.bind_eq_some_iff.mp h'
        cases he'
        have hnexts : skipSpace next <:+ text :=
          (skipSpace_suffix next).trans ((hnext ▸ List.suffix_cons '.' next).trans
            ((skipSpace_suffix behind).trans hs))
        obtain ⟨rfl, rfl, hlast⟩ := ih (hf.of_suffix hnexts) hparts hparts' hks
        exact ⟨rfl, rfl, hlast.trans hnexts⟩
      · rename_i hnext
        cases h
        obtain ⟨rfl, hs, hskip⟩ := hfirst hr (hk part List.mem_cons_self)
        have hlast : ∀ next, fillMarks mark value (skipSpace behind) ≠ '.' :: next := by
          intro next he
          obtain ⟨tail, hb, -⟩ := exists_of_fillMarks_cons hr he
          exact hnext tail hb
        simp only [hskip] at h'
        cases h'
        exact ⟨rfl, rfl, (skipSpace_suffix behind).trans hs⟩

end Toml

end Colloquy
