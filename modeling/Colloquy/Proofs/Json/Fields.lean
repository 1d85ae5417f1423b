import Colloquy.Json.Basic
import Mathlib.Data.String.Basic
/-!
# The members of an object

Members are found by their keys.  Fields in the order of their keys, every key once, are determined by what
is found in them.

Results:
* `Fields.get?_append`, `Fields.get?_merge`: what is found in fields in front of or over others.
* `Fields.Sorted.insert`, `Fields.Sorted.merge`: members stay in order when others are put over them.
* `Fields.Sorted.ext`: ordered fields in which the same is found are the same.
-/
namespace Colloquy

namespace Fields

/-! ## Looking up -/

/-- Whether every key stands once, as in a map. -/
def Distinct (fields : Fields) : Prop := (fields.map Prod.fst).Nodup

instance (fields : Fields) : Decidable (Distinct fields) :=
  inferInstanceAs (Decidable (fields.map Prod.fst).Nodup)

theorem get?_insert (fields : Fields) (key other : String) (value : Json) :
    get? (insert fields key value) other = if key = other then some value else get? fields other := by
  by_cases h : key = other
  · subst h; rw [if_pos rfl, get?_insert_self]
  · rw [if_neg h, get?_insert_of_ne fields value (Ne.symm h)]

/-- Of fields in front of others the first ones are seen. -/
theorem get?_append (fields others : Fields) (key : String) :
    get? (fields ++ others) key = (get? fields key).or (get? others key) := by
  induction fields with
  | nil => rfl
  | cons member rest ih =>
    obtain ⟨k, v⟩ := member
    by_cases h : k = key <;> simp [get?, h, ih]

theorem get?_eq_none {fields : Fields} {key : String} (h : key ∉ fields.map Prod.fst) :
    get? fields key = none := by
  induction fields with
  | nil => rfl
  | cons member rest ih =>
    obtain ⟨k, v⟩ := member
    obtain ⟨hk, hr⟩ := not_or.mp (mt List.mem_cons.mpr h)
    rw [get?, if_neg (Ne.symm hk), ih hr]

theorem get?_of_mem {fields : Fields} (h : Distinct fields) {key : String} {value : Json}
    (hm : (key, value) ∈ fields) : get? fields key = some value := by
  induction fields with
  | nil => cases hm
  | cons member rest ih =>
    obtain ⟨k, v⟩ := member
    obtain ⟨hk, hr⟩ := List.nodup_cons.mp h
    rcases List.mem_cons.mp hm with he | hm
    · cases he; rw [get?, if_pos rfl]
    · have hne : k ≠ key := by
        intro he
        exact hk (List.mem_map.mpr ⟨(key, value), hm, he.symm⟩)
      rw [get?, if_neg hne, ih hr hm]

theorem get?_merge {overrides : Fields} (h : Distinct overrides) (fields : Fields) (key : String) :
    get? (merge fields overrides) key = (get? overrides key).or (get? fields key) := by
  induction overrides generalizing fields with
  | nil => rfl
  | cons member rest ih =>
    obtain ⟨k, v⟩ := member
    obtain ⟨hk, hr⟩ := List.nodup_cons.mp h
    have hm : merge fields ((k, v) :: rest) = merge (insert fields k v) rest := rfl
    rw [hm, ih hr, get?_insert, get?]
    by_cases he : k = key
    · subst he
      rw [get?_eq_none hk, if_pos rfl, if_pos rfl]
      rfl
    · rw [if_neg he, if_neg he]

/-! ## The order of keys -/

/-- Whether the members stand in the order of their keys, every key once. -/
def Sorted (fields : Fields) : Prop := fields.Pairwise fun member later => member.1 < later.1

instance (fields : Fields) : Decidable (Sorted fields) :=
  inferInstanceAs (Decidable (fields.Pairwise fun member later => member.1 < later.1))

theorem mem_insert {fields : Fields} {key : String} {value : Json} {member : String × Json}
    (h : member ∈ insert fields key value) : member = (key, value) ∨ member ∈ fields := by
  induction fields with
  | nil => exact .inl (List.mem_singleton.mp h)
  | cons first rest ih =>
    obtain ⟨k, v⟩ := first
    unfold insert at h
    split at h
    · rcases List.mem_cons.mp h with he | hm
      · exact .inl he
      · exact .inr (List.mem_cons_of_mem _ hm)
    · split at h
      · exact List.mem_cons.mp h
      · rcases List.mem_cons.mp h with he | hm
        · exact .inr (List.mem_cons.mpr (.inl he))
        · exact (ih hm).imp id (List.mem_cons_of_mem _)

namespace Sorted

variable {fields others : Fields}

theorem insert (h : Sorted fields) (key : String) (value : Json) :
    Sorted (Fields.insert fields key value) := by
  induction fields with
  | nil => exact List.pairwise_singleton _ _
  | cons first rest ih =>
    obtain ⟨k, v⟩ := first
    obtain ⟨hb, hr⟩ := List.pairwise_cons.mp h
    unfold Fields.insert
    split
    · next he => exact List.pairwise_cons.mpr ⟨he ▸ hb, hr⟩
    · next hne =>
      split
      · next hlt =>
        refine List.pairwise_cons.mpr ⟨fun member hm => ?_, h⟩
        rcases List.mem_cons.mp hm with he | hm
        · rw [he]; exact hlt
        · exact lt_trans hlt (hb member hm)
      · next hlt =>
        have hk : k < key := lt_of_le_of_ne (le_of_not_gt hlt) hne
        refine List.pairwise_cons.mpr ⟨fun member hm => ?_, ih hr⟩
        rcases mem_insert hm with he | hm
        · rw [he]; exact hk
        · exact hb member hm

theorem erase (h : Sorted fields) (key : String) : Sorted (Fields.erase fields key) :=
  List.Pairwise.filter _ h

theorem merge (h : Sorted fields) (overrides : Fields) : Sorted (Fields.merge fields overrides) := by
  induction overrides generalizing fields with
  | nil => exact h
  | cons member rest ih => exact ih (h.insert member.1 member.2)

theorem get?_of_lt {key : String} (h : ∀ member ∈ fields, key < member.1) : get? fields key = none := by
  refine get?_eq_none fun hk => ?_
  obtain ⟨member, hm, he⟩ := List.mem_map.mp hk
  exact absurd (h member hm) (by rw [he]; exact lt_irrefl key)

theorem head_le (h : Sorted others) {member : String × Json} {rest : Fields}
    (he : ∀ key, get? (member :: rest) key = get? others key) :
    ∃ first remaining, others = first :: remaining ∧ first.1 ≤ member.1 := by
  have hk : get? others member.1 = some member.2 := by
    rw [← he, get?, if_pos rfl]
  cases others with
  | nil => cases hk
  | cons first remaining =>
    refine ⟨first, remaining, rfl, le_of_not_gt fun hlt => ?_⟩
    obtain ⟨hb, -⟩ := List.pairwise_cons.mp h
    have hn : get? (first :: remaining) member.1 = none := by
      refine get?_of_lt fun later hl => ?_
      rcases List.mem_cons.mp hl with rfl | hl
      · exact hlt
      · exact lt_trans hlt (hb later hl)
    rw [hn] at hk
    cases hk

/-- Ordered fields in which the same is found are the same. -/
theorem ext (hf : Sorted fields) (ho : Sorted others) (h : ∀ key, get? fields key = get? others key) :
    fields = others := by
  induction fields generalizing others with
  | nil =>
    cases others with
    | nil => rfl
    | cons first remaining =>
      obtain ⟨_, _, he, -⟩ := hf.head_le fun key => (h key).symm
      cases he
  | cons member rest ih =>
    obtain ⟨first, remaining, rfl, hle⟩ := ho.head_le h
    obtain ⟨_, _, he, hge⟩ := hf.head_le fun key => (h key).symm
    cases he
    obtain ⟨k, v⟩ := member
    obtain ⟨l, w⟩ := first
    obtain rfl : l = k := le_antisymm hle hge
    obtain ⟨hb, hr⟩ := List.pairwise_cons.mp hf
    obtain ⟨hc, hs⟩ := List.pairwise_cons.mp ho
    have hv : v = w := by simpa [get?] using h l
    have tails : rest = remaining := by
      refine ih hr hs fun key => ?_
      by_cases he : l = key
      · subst he
        rw [get?_of_lt hb, get?_of_lt hc]
      · simpa [get?, he] using h key
    rw [hv, tails]

end Sorted

end Fields

end Colloquy
