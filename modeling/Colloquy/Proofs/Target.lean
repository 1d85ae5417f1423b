import Colloquy.Proofs.Result
import Colloquy.Target
/-!
# What a model id tells

The segments of a model id are the pieces between its points.  The provider is the first one, or the second
one behind a region; the name of the model itself is all that stands behind the first point.  So a region in
front of a model id changes neither the provider nor, since no name of a provider could be taken for that of a
Claude model, the family.

Results:
* `Target.providerId_eq_ok_iff`, `Target.providerId_eq_error_iff`: what is taken for the id of the provider.
* `Target.resolveProvider_eq_ok_iff`, `Target.resolveProvider_eq_error_iff`: which provider it resolves to.
* `Target.takesProvider_regional`, `Target.isClaude_regional`: a region in front of a model id is not seen.
-/
namespace Colloquy

namespace Provider

theorem eq_name_of_ofName? {id : String} {provider : Provider} (h : ofName? id = some provider) :
    id = provider.name := by
  have hf := List.find?_some h
  exact (beq_iff_eq.mp hf).symm

theorem resolve_eq_ok_iff {id : String} {provider : Provider} :
    resolve id = .ok provider ↔ id = provider.name := by
  constructor
  · intro h
    unfold resolve at h
    split at h
    · rename_i found hf
      cases h
      exact eq_name_of_ofName? hf
    · cases h
  · rintro rfl
    rw [resolve, ofName?_name]

theorem resolve_eq_error_iff {id : String} {failure : Failure} :
    resolve id = .error failure ↔
      failure = .unknownProvider id ∧ ∀ provider : Provider, id ≠ provider.name := by
  constructor
  · intro h
    refine ⟨?_, fun provider hp => ?_⟩
    · unfold resolve at h
      split at h <;> cases h
      rfl
    · rw [resolve_eq_ok_iff.mpr hp] at h
      cases h
  · rintro ⟨rfl, hn⟩
    cases hr : ofName? id with
    | none => rw [resolve, hr]
    | some provider => exact absurd (eq_name_of_ofName? hr) (hn provider)

end Provider

/-- A text without a mark occurs in one with the mark on one side of it only. -/
theorem infix_append_mark_iff {mark : Char} {part : List Char} (hp : mark ∉ part) (before behind : List Char) :
    part <:+: before ++ mark :: behind ↔ part <:+: before ∨ part <:+: behind := by
  -- Of the part, what reaches up to the mark or starts at it is empty.
  have at_mark {front : List Char} (hm : mark ∉ front) (h : front <+: mark :: behind) : front = [] := by
    rcases List.prefix_cons_iff.mp h with rfl | ⟨rest, rfl, -⟩
    · rfl
    · exact absurd List.mem_cons_self hm
  constructor
  · intro h
    rcases List.infix_append_iff.mp h with hb | hm | ⟨front, rest, rfl, hs, hr⟩
    · exact .inl hb
    · rcases List.infix_cons_iff.mp hm with hf | hr
      · rw [at_mark hp hf]
        exact .inl (List.nil_infix)
      · exact .inr hr
    · obtain rfl := at_mark (fun hi => hp (List.mem_append_right _ hi)) hr
      rw [List.append_nil]
      exact .inl hs.isInfix
  · rintro (h | h)
    · exact h.trans (List.prefix_append _ _).isInfix
    · exact h.trans ((List.suffix_cons _ _).trans (List.suffix_append _ _)).isInfix

namespace Target

/-- What stands in front of the first point of a model id. -/
def firstSegment (modelId : String) : String := String.ofList (modelId.toList.takeWhile (· != '.'))

/-- What stands behind the first point of a model id. -/
def behindFirst? (modelId : String) : Option String :=
  match modelId.toList.dropWhile (· != '.') with
  | [] => none
  | _ :: rest => some (String.ofList rest)

/-- Whether a segment is one of the regions, in any letter case. -/
def IsRegion (segment : String) : Prop := segment.toLower ∈ ["eu", "us", "us-gov", "apac", "sa"]

/-- What a target takes for the id of its provider: the one that is given, or else the first segment of the
model id, or the second one behind a region.  A resource name alone tells none. -/
inductive TakesProvider (target : Target) : String → Prop where
  | given {id : String} (h : target.provider = some id) : TakesProvider target id
  | first (hp : target.provider = none) (ha : isResourceName target.modelId = false)
      (hr : ¬ IsRegion (firstSegment target.modelId)) : TakesProvider target (firstSegment target.modelId)
  | behindRegion (hp : target.provider = none) (ha : isResourceName target.modelId = false)
      (hr : IsRegion (firstSegment target.modelId)) :
      TakesProvider target (((behindFirst? target.modelId).map firstSegment).getD "")

/-! ## Segments -/

theorem toList_toLower (segment : String) : segment.toLower.toList = segment.toList.map Char.toLower :=
  String.toList_map

theorem isRegion_iff {segment : String} : isRegion segment.toList = true ↔ IsRegion segment := by
  have h (region : List Char) :
      segment.toList.map Char.toLower = region ↔ segment.toLower = String.ofList region := by
    rw [← String.toList_inj, toList_toLower, String.toList_ofList]
  simp only [isRegion, regions, IsRegion, List.contains_iff_mem, List.mem_cons, List.not_mem_nil, or_false, h]

instance (segment : String) : Decidable (IsRegion segment) := decidable_of_iff _ isRegion_iff

theorem splitOnChar_eq_cons (mark : Char) (text : List Char) :
    splitOnChar mark text = text.takeWhile (· != mark) ::
      match text.dropWhile (· != mark) with
      | [] => []
      | _ :: rest => splitOnChar mark rest := by
  induction text with
  | nil => rfl
  | cons c rest ih =>
    rw [splitOnChar]
    by_cases h : c = mark
    · simp [h]
    · have hb : (c != mark) = true := bne_iff_ne.mpr h
      rw [if_neg h, ih, List.takeWhile_cons, List.dropWhile_cons, hb]
      rfl

theorem providerSegment_eq (modelId : String) : providerSegment modelId =
    if IsRegion (firstSegment modelId) then ((behindFirst? modelId).map firstSegment).getD ""
    else firstSegment modelId := by
  have hr := @isRegion_iff (firstSegment modelId)
  rw [firstSegment, String.toList_ofList] at hr
  rw [providerSegment, splitOnChar_eq_cons]
  dsimp only
  by_cases h : IsRegion (firstSegment modelId)
  · rw [if_pos h, if_pos (hr.mpr h), behindFirst?]
    cases modelId.toList.dropWhile (· != '.') with
    | nil => rfl
    | cons point rest =>
      dsimp only
      rw [splitOnChar_eq_cons, Option.map_some, Option.getD_some, firstSegment, String.toList_ofList]
      rfl
  · rw [if_neg h, if_neg fun hi => h (hr.mp hi)]
    rfl

theorem baseModel_eq (target : Target) : target.baseModel =
    target.baseModelId.getD ((behindFirst? target.modelId).getD target.modelId) := by
  unfold baseModel behindFirst?
  cases target.baseModelId with
  | some id => rfl
  | none => cases target.modelId.toList.dropWhile (· != '.') <;> rfl

/-! ## The provider -/

section

variable {target : Target} {id : String} {failure : Failure}

theorem providerId_eq_ok_iff : target.providerId = .ok id ↔ target.TakesProvider id := by
  unfold providerId
  constructor
  · intro h
    split at h
    · rename_i given hg
      cases h
      exact .given hg
    · rename_i hp
      split at h
      · cases h
      · rename_i ha
        cases h
        rw [Bool.not_eq_true] at ha
        rw [providerSegment_eq]
        split
        · exact .behindRegion hp ha ‹_›
        · exact .first hp ha ‹_›
  · rintro (h | ⟨hp, ha, hr⟩ | ⟨hp, ha, hr⟩)
    · rw [h]
    · rw [hp, ha, providerSegment_eq, if_neg hr]
      rfl
    · rw [hp, ha, providerSegment_eq, if_pos hr]
      rfl

theorem providerId_eq_error_iff : target.providerId = .error failure ↔
    failure = .configuration (.providerNeeded target.modelId) ∧ target.provider = none ∧
      isResourceName target.modelId = true := by
  unfold providerId
  constructor
  · intro h
    split at h
    · cases h
    · rename_i hp
      split at h
      · rename_i ha
        cases h
        exact ⟨rfl, hp, ha⟩
      · cases h
  · rintro ⟨rfl, hp, ha⟩
    rw [hp]
    exact if_pos ha

theorem resolveProvider_eq_ok_iff {provider : Provider} :
    target.resolveProvider = .ok provider ↔ target.TakesProvider provider.name := by
  rw [← providerId_eq_ok_iff]
  constructor
  · intro h
    obtain ⟨id, hi, hr⟩ := exists_of_bind h
    rw [← Provider.resolve_eq_ok_iff.mp hr]
    exact hi
  · intro h
    rw [resolveProvider, h]
    exact Provider.resolve_eq_ok_iff.mpr rfl

/-- The provider cannot be resolved if none can be told, or if what is taken for its id is that of none. -/
theorem resolveProvider_eq_error_iff : target.resolveProvider = .error failure ↔
    target.providerId = .error failure ∨
      ∃ id, target.TakesProvider id ∧ (∀ provider : Provider, id ≠ provider.name) ∧
        failure = .unknownProvider id := by
  simp only [← providerId_eq_ok_iff]
  refine bind_eq_error_iff.trans (or_congr_right (exists_congr fun id => ?_))
  rw [Provider.resolve_eq_error_iff, and_comm (a := failure = _)]

end

/-! ## Regions in front of model ids -/

section

variable {region modelId : String}

theorem IsRegion.not_mem_point (h : IsRegion region) : '.' ∉ region.toList := by
  intro hp
  have hl : '.' ∈ region.toLower.toList := by
    rw [toList_toLower]
    exact List.mem_map.mpr ⟨'.', hp, rfl⟩
  have none_has : ∀ name ∈ ["eu", "us", "us-gov", "apac", "sa"], '.' ∉ name.toList := by decide
  exact none_has _ h hl

/-- A text with a point has its first segment in front of the first one. -/
theorem toList_of_behindFirst? {rest : String} (h : behindFirst? modelId = some rest) :
    modelId.toList = (firstSegment modelId).toList ++ '.' :: rest.toList := by
  have whole := List.takeWhile_append_dropWhile (p := (· != '.')) (l := modelId.toList)
  unfold behindFirst? at h
  cases hd : modelId.toList.dropWhile (· != '.') with
  | nil => rw [hd] at h; cases h
  | cons point behind =>
    rw [hd] at h whole
    cases h
    have hp : point = '.' := by
      have hne : modelId.toList.dropWhile (· != '.') ≠ [] := by
        rw [hd]
        exact List.cons_ne_nil _ _
      simpa [hd] using List.head_dropWhile_not (· != '.') hne
    subst hp
    rw [firstSegment, String.toList_ofList, String.toList_ofList]
    exact whole.symm

theorem toList_regional (region modelId : String) :
    (region ++ "." ++ modelId).toList = region.toList ++ '.' :: modelId.toList := by
  rw [String.toList_append, String.toList_append, List.append_assoc]
  rfl

theorem ne_point (h : '.' ∉ region.toList) : ∀ c ∈ region.toList, (c != '.') = true := by
  intro c hc
  exact bne_iff_ne.mpr fun he => h (he ▸ hc)

theorem firstSegment_regional (h : '.' ∉ region.toList) : firstSegment (region ++ "." ++ modelId) = region := by
  rw [firstSegment, toList_regional, List.takeWhile_append_of_pos (ne_point h)]
  exact (congrArg String.ofList (List.append_nil _)).trans String.ofList_toList

theorem behindFirst?_regional (h : '.' ∉ region.toList) :
    behindFirst? (region ++ "." ++ modelId) = some modelId := by
  rw [behindFirst?, toList_regional, List.dropWhile_append_of_pos (ne_point h)]
  exact congrArg some String.ofList_toList

/-- Whether a model id is a resource name shows in its first segment. -/
theorem isResourceName_firstSegment (modelId : String) :
    isResourceName (firstSegment modelId) = isResourceName modelId := by
  rw [Bool.eq_iff_iff, isResourceName, isResourceName, List.isPrefixOf_iff_prefix, List.isPrefixOf_iff_prefix,
    firstSegment, String.toList_ofList]
  constructor
  · intro h
    exact h.trans (List.takeWhile_prefix _)
  · rintro ⟨rest, he⟩
    have none_point : ∀ c ∈ ['a', 'r', 'n'], (c != '.') = true := by simp
    rw [← he, List.takeWhile_append_of_pos none_point]
    exact List.prefix_append _ _

theorem IsRegion.isResourceName (h : IsRegion region) : isResourceName region = false := by
  have none_starts : ∀ name ∈ ["eu", "us", "us-gov", "apac", "sa"],
      ['a', 'r', 'n'].isPrefixOf name.toList = false := by decide
  have hl := none_starts _ h
  rw [← Bool.not_eq_true, List.isPrefixOf_iff_prefix, toList_toLower] at hl
  rw [← Bool.not_eq_true, Target.isResourceName, List.isPrefixOf_iff_prefix]
  exact fun hp => hl (hp.map Char.toLower)

end

/-! ## Names of providers -/

section

variable {modelId : String} {provider : Provider} (h : firstSegment modelId = provider.name)

include h

/-- A model id that starts with the name of a provider names this one. -/
theorem takesProvider_plain : TakesProvider ⟨modelId, none, none⟩ provider.name := by
  have ha : isResourceName modelId = false := by
    rw [← isResourceName_firstSegment, h]
    cases provider <;> decide
  have hr : ¬ IsRegion (firstSegment modelId) := by
    rw [h, ← isRegion_iff]
    cases provider <;> decide
  rw [← h]
  exact .first rfl ha hr

/-- So it does with a region in front. -/
theorem takesProvider_regional {region : String} (hr : IsRegion region) :
    TakesProvider ⟨region ++ "." ++ modelId, none, none⟩ provider.name := by
  have segment : firstSegment (region ++ "." ++ modelId) = region := firstSegment_regional hr.not_mem_point
  have ha : isResourceName (region ++ "." ++ modelId) = false := by
    rw [← isResourceName_firstSegment, segment]
    exact hr.isResourceName
  have hf : IsRegion (firstSegment (region ++ "." ++ modelId)) := by rwa [segment]
  have taken : TakesProvider ⟨region ++ "." ++ modelId, none, none⟩
      (((behindFirst? (region ++ "." ++ modelId)).map firstSegment).getD "") := .behindRegion rfl ha hf
  rwa [behindFirst?_regional hr.not_mem_point, Option.map_some, Option.getD_some, h] at taken

/-- The name of a Claude model cannot start in that of a provider and end behind it, so it is found in the whole
model id where it is found behind its first point. -/
theorem isClaude_regional {region : String} (hr : IsRegion region) :
    isClaude ⟨region ++ "." ++ modelId, none, none⟩ = isClaude ⟨modelId, none, none⟩ := by
  have plain : baseModel ⟨modelId, none, none⟩ = (behindFirst? modelId).getD modelId := baseModel_eq _
  have regional : baseModel ⟨region ++ "." ++ modelId, none, none⟩ = modelId := by
    rw [baseModel_eq, behindFirst?_regional hr.not_mem_point]
    rfl
  rw [Bool.eq_iff_iff, isClaude, isClaude, occursIn_iff, occursIn_iff, plain, regional]
  cases hb : behindFirst? modelId with
  | none => exact Iff.rfl
  | some rest =>
    have hn : occursIn ['c', 'l', 'a', 'u', 'd', 'e', '-'] provider.name.toList = false := by
      cases provider <;> decide
    rw [← Bool.not_eq_true, occursIn_iff] at hn
    rw [toList_of_behindFirst? hb, h, infix_append_mark_iff (by decide)]
    exact or_iff_right hn

end

end Target

end Colloquy
