import Colloquy.Failure
import Mathlib.Data.List.Forall2
/-!
# Results and failures

What is known of a result that was put together from others: from one that is no failure, of each of its
parts; from a failure, of the first part that failed.

Results:
* `exists_of_bind`, `exists_of_map`, `bind_eq_error_iff`: the parts of a result.
* `FailsOnly`: the kinds of failures that a result can be.
* `mapM_eq_ok_iff`, `mapM_eq_error_iff`: lists that are read item by item.
-/
namespace Colloquy

theorem exists_of_bind {result : Except ε α} {f : α → Except ε β} {value : β}
    (h : result >>= f = .ok value) : ∃ a, result = .ok a ∧ f a = .ok value := by
  cases result with
  | ok a => exact ⟨a, rfl, h⟩
  | error failure => cases h

theorem exists_of_map {result : Except ε α} {f : α → β} {value : β}
    (h : result.map f = .ok value) : ∃ a, result = .ok a ∧ f a = value := by
  cases result with
  | ok a => exact ⟨a, rfl, Except.ok.inj h⟩
  | error failure => cases h

theorem bind_eq_error_iff {result : Except ε α} {f : α → Except ε β} {failure : ε} :
    result >>= f = .error failure ↔
      result = .error failure ∨ ∃ a, result = .ok a ∧ f a = .error failure := by
  cases result with
  | ok a =>
    constructor
    · intro h
      exact .inr ⟨a, rfl, h⟩
    · rintro (h | ⟨b, h, hf⟩)
      · cases h
      · cases h
        exact hf
  | error other =>
    constructor
    · intro h
      cases h
      exact .inl rfl
    · rintro (h | ⟨b, h, -⟩)
      · cases h
        rfl
      · cases h

theorem eq_ok_of_toOption {result : Except ε α} {value : α} (h : result.toOption = some value) :
    result = .ok value := by
  cases result with
  | ok other => cases h; rfl
  | error failure => cases h

/-- Whether a result can fail only with failures of some kind. -/
def FailsOnly (kind : Failure → Prop) (result : Except Failure α) : Prop :=
  ∀ failure, result = .error failure → kind failure

namespace FailsOnly

variable {kind : Failure → Prop}

theorem ok (value : α) : FailsOnly kind (.ok value) := by
  intro failure h
  cases h

theorem error {failure : Failure} (h : kind failure) :
    FailsOnly kind (.error failure : Except Failure α) := by
  intro other ho
  cases ho
  exact h

theorem map {result : Except Failure α} (h : FailsOnly kind result) (f : α → β) :
    FailsOnly kind (result.map f) := by
  cases result with
  | ok value => exact .ok (f value)
  | error failure => exact .error (h failure rfl)

theorem bind {result : Except Failure α} {f : α → Except Failure β} (h : FailsOnly kind result)
    (hf : ∀ value, result = .ok value → FailsOnly kind (f value)) : FailsOnly kind (result >>= f) := by
  cases result with
  | ok value => exact hf value rfl
  | error failure => exact .error (h failure rfl)

end FailsOnly

/-! ## Lists that are read item by item -/

section

variable {f : α → Except ε β} {items : List α}

theorem mapM_congr {g : α → Except ε β} (h : ∀ item ∈ items, f item = g item) :
    items.mapM f = items.mapM g := by
  induction items with
  | nil => rfl
  | cons item rest ih =>
    obtain ⟨hi, hr⟩ := List.forall_mem_cons.mp h
    rw [List.mapM_cons, List.mapM_cons, hi, ih hr]

theorem mapM_cons_eq_ok {item : α} {values : List β} :
    (item :: items).mapM f = .ok values ↔
      ∃ value others, f item = .ok value ∧ items.mapM f = .ok others ∧ values = value :: others := by
  rw [List.mapM_cons]
  constructor
  · intro h
    obtain ⟨value, hv, hr⟩ := exists_of_bind h
    obtain ⟨others, ho, he⟩ := exists_of_bind hr
    cases he
    exact ⟨value, others, hv, ho, rfl⟩
  · rintro ⟨value, others, hv, ho, rfl⟩
    rw [hv, ho]
    rfl

theorem mapM_eq_ok_iff {values : List β} :
    items.mapM f = .ok values ↔ List.Forall₂ (fun item value => f item = .ok value) items values := by
  induction items generalizing values with
  | nil =>
    rw [List.forall₂_nil_left_iff]
    exact ⟨fun h => by cases h; rfl, fun h => by rw [h]; rfl⟩
  | cons item rest ih =>
    rw [mapM_cons_eq_ok, List.forall₂_cons_left_iff]
    constructor
    · rintro ⟨value, others, hv, ho, rfl⟩
      exact ⟨value, others, hv, ih.mp ho, rfl⟩
    · rintro ⟨value, others, hv, ho, rfl⟩
      exact ⟨value, others, hv, ih.mpr ho, rfl⟩

theorem exists_of_mapM_ok {values : List β} (h : items.mapM f = .ok values) :
    ∀ item ∈ items, ∃ value, f item = .ok value := by
  induction items generalizing values with
  | nil => exact nofun
  | cons item rest ih =>
    obtain ⟨value, others, hv, ho, -⟩ := mapM_cons_eq_ok.mp h
    exact List.forall_mem_cons.mpr ⟨⟨value, hv⟩, ih ho⟩

/-- What fails is the first item that fails. -/
theorem mapM_eq_error_iff {failure : ε} :
    items.mapM f = .error failure ↔
      ∃ before item after, items = before ++ item :: after ∧
        (∀ earlier ∈ before, ∃ value, f earlier = .ok value) ∧ f item = .error failure := by
  induction items with
  | nil =>
    refine iff_of_false nofun ?_
    rintro ⟨before, item, after, h, -⟩
    cases before <;> cases h
  | cons first rest ih =>
    rw [List.mapM_cons]
    constructor
    · intro h
      cases hf : f first with
      | error other =>
        rw [hf] at h
        cases h
        exact ⟨[], first, rest, rfl, by simp, hf⟩
      | ok value =>
        cases hr : rest.mapM f with
        | ok others => rw [hf, hr] at h; cases h
        | error other =>
          rw [hf, hr] at h
          cases h
          obtain ⟨before, item, after, rfl, hb, hi⟩ := ih.mp hr
          exact ⟨first :: before, item, after, rfl, List.forall_mem_cons.mpr ⟨⟨value, hf⟩, hb⟩, hi⟩
    · rintro ⟨before, item, after, he, hb, hi⟩
      cases before with
      | nil => cases he; rw [hi]; rfl
      | cons earlier before =>
        cases he
        obtain ⟨⟨value, hv⟩, hb⟩ := List.forall_mem_cons.mp hb
        rw [hv, ih.mpr ⟨before, item, after, rfl, hb, hi⟩]
        rfl

end

end Colloquy
