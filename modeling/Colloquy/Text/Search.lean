/-!
# Finding one text in another

Texts are lists of characters here.  An offset counts characters from the start; `utf8Length` gives the
number of bytes that a text takes.
-/
namespace Colloquy

/-- Whether `part` occurs somewhere in a text. -/
def occursIn (part : List Char) : List Char → Bool
  | [] => part.isEmpty
  | c :: rest => part.isPrefixOf (c :: rest) || occursIn part rest

theorem occursIn_iff {part text : List Char} : occursIn part text = true ↔ part <:+: text := by
  induction text with
  | nil => rw [occursIn, List.isEmpty_iff, List.infix_nil]
  | cons c rest ih =>
    rw [occursIn, Bool.or_eq_true, List.isPrefixOf_iff_prefix, ih, List.infix_cons_iff]

/-- The offset of the first occurrence of `part`. -/
def firstOffset? (part : List Char) : List Char → Option Nat
  | [] => if part.isEmpty then some 0 else none
  | c :: rest =>
    if part.isPrefixOf (c :: rest) then some 0 else (firstOffset? part rest).map (· + 1)

/-- The pieces between the occurrences of a character; one more than there are occurrences. -/
def splitOnChar (mark : Char) : List Char → List (List Char)
  | [] => [[]]
  | c :: rest =>
    if c = mark then [] :: splitOnChar mark rest
    else
      match splitOnChar mark rest with
      | piece :: pieces => (c :: piece) :: pieces
      | [] => [[c]]

theorem splitOnChar_eq_splitOn (mark : Char) (text : List Char) :
    splitOnChar mark text = text.splitOn mark := by
  induction text with
  | nil => rfl
  | cons c rest ih =>
    rw [splitOnChar, List.splitOn_cons_eq_if_modifyHead, ih]
    by_cases h : c = mark
    · simp [h]
    · have hne : rest.splitOn mark ≠ [] := List.splitOn_ne_nil mark rest
      cases hs : rest.splitOn mark with
      | nil => exact absurd hs hne
      | cons piece pieces => simp [h]

theorem not_mem_of_mem_splitOnChar {mark : Char} {text piece : List Char}
    (h : piece ∈ splitOnChar mark text) : mark ∉ piece := by
  induction text generalizing piece with
  | nil =>
    rw [splitOnChar, List.mem_singleton] at h
    simp [h]
  | cons c rest ih =>
    rw [splitOnChar] at h
    split at h
    · rcases List.mem_cons.mp h with rfl | h
      · exact List.not_mem_nil
      · exact ih h
    · rename_i hc
      split at h
      · rename_i first pieces hs
        rw [hs] at ih
        rcases List.mem_cons.mp h with rfl | h
        · exact List.not_mem_cons_of_ne_of_not_mem (Ne.symm hc) (ih List.mem_cons_self)
        · exact ih (List.mem_cons_of_mem _ h)
      · rw [List.mem_singleton] at h
        simp [h, Ne.symm hc]

/-- The number of bytes of a text in UTF-8. -/
def utf8Length (text : List Char) : Nat := text.foldl (fun n c => n + c.utf8Size) 0

theorem foldl_utf8Size (text : List Char) (n : Nat) :
    text.foldl (fun n c => n + c.utf8Size) n = n + utf8Length text := by
  induction text generalizing n with
  | nil => rfl
  | cons c rest ih => rw [utf8Length, List.foldl_cons, List.foldl_cons, ih, ih, Nat.zero_add, Nat.add_assoc]

@[simp]
theorem utf8Length_nil : utf8Length [] = 0 := rfl

@[simp]
theorem utf8Length_cons (c : Char) (rest : List Char) :
    utf8Length (c :: rest) = c.utf8Size + utf8Length rest := by
  rw [utf8Length, List.foldl_cons, foldl_utf8Size, Nat.zero_add]

@[simp]
theorem utf8Length_append (text more : List Char) :
    utf8Length (text ++ more) = utf8Length text + utf8Length more := by
  rw [utf8Length, List.foldl_append, foldl_utf8Size]
  rfl

end Colloquy
