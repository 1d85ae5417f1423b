import Colloquy.Proofs.Settings.CommentLines
import Colloquy.Proofs.Settings.Guardrail
import Colloquy.Proofs.Target
/-!
# Settings that are accepted

A text that comes to settings is refused for five faults of these settings, and for nothing else.  What is left
can be used: each field that is of use only with another one has it, the free-form part does not speak of what
has a field of its own, and an invoker can be built unless the provider is not known.  A resource name without
a provider, for which an invoker would have to be refused otherwise, is among the faults.

Results:
* `Settings.fault?_eq_none_iff`, `Settings.hasFault_of_fault?`: the faults of settings.
* `Settings.ofText_eq_ok_iff`, `Settings.hasFault_of_ofText`: what becomes of a text.
* `Settings.accepted_iff_faultless`: which texts are accepted, and what is known of the settings.
-/
namespace Colloquy

namespace ModelSettings

theorem get?_temperature_hoisted (model : ModelSettings) :
    Fields.get? model.hoisted.extra "temperature" = none := by
  rw [hoisted, Fields.get?_erase_of_ne _ (by decide), Fields.get?_erase_self]

theorem get?_maxTokens_hoisted (model : ModelSettings) :
    Fields.get? model.hoisted.extra "max_tokens" = none := by
  rw [hoisted, Fields.get?_erase_self]

end ModelSettings

theorem Invoker.ofSettings_eq_error_iff {model : ModelSettings} {guardrails : Guardrails} {failure : Failure} :
    ofSettings model guardrails = .error failure ↔ model.target.resolveProvider = .error failure := by
  rw [ofSettings, ofTarget]
  cases model.target.resolveProvider with
  | ok provider => exact iff_of_false nofun nofun
  | error other => rw [Except.map, Except.error.injEq, Except.error.injEq]

namespace Settings

/-- What is wrong with settings that have a fault.  The faults of a text that does not come to settings are not
among them. -/
def HasFault (settings : Settings) : SettingsFault → Prop
  | .blankModelId => ∀ c ∈ settings.model.id.toList, isBlank c = true
  | .providerMissing => ['a', 'r', 'n'] <+: settings.model.id.toList ∧ settings.model.provider = none
  | .halfCredentials => settings.access.accessKeyId.isSome ≠ settings.access.secretAccessKey.isSome
  | .looseSessionToken => settings.access.sessionToken.isSome = true ∧ settings.access.accessKeyId = none ∧
      settings.access.secretAccessKey = none
  | .halfGuardrail => settings.guardrails.identifier.isSome ≠ settings.guardrails.version.isSome
  | .placeholder _ | .unreadable => False

/-- What settings that can be used are known for. -/
structure IsUsable (settings : Settings) : Prop where
  id : ∃ c ∈ settings.model.id.toList, isBlank c = false
  temperature : Fields.get? settings.model.extra "temperature" = none
  maxTokens : Fields.get? settings.model.extra "max_tokens" = none
  keys : settings.access.accessKeyId.isSome = settings.access.secretAccessKey.isSome
  token : settings.access.sessionToken.isSome = true → settings.access.accessKeyId.isSome = true
  guardrail : settings.guardrails.identifier.isSome = settings.guardrails.version.isSome
  /-- No invoker can be built exactly if what the target takes for the id of its provider is that of none. -/
  invoker : ∀ failure, Invoker.ofSettings settings.model settings.guardrails = .error failure ↔
    ∃ id, settings.model.target.TakesProvider id ∧ (∀ provider : Provider, id ≠ provider.name) ∧
      failure = .unknownProvider id

/-! ## Faults -/

section

variable {settings : Settings} {fault : SettingsFault}

instance (settings : Settings) (fault : SettingsFault) : Decidable (settings.HasFault fault) :=
  match fault with
  | .blankModelId => inferInstanceAs (Decidable (∀ c ∈ settings.model.id.toList, isBlank c = true))
  | .providerMissing => inferInstanceAs (Decidable (_ ∧ _))
  | .halfCredentials => inferInstanceAs (Decidable (_ ≠ _))
  | .looseSessionToken => inferInstanceAs (Decidable (_ ∧ _ ∧ _))
  | .halfGuardrail => inferInstanceAs (Decidable (_ ≠ _))
  | .placeholder _ | .unreadable => inferInstanceAs (Decidable False)

/-- The faults of settings, in the order in which they are looked for. -/
def faults : List SettingsFault :=
  [.blankModelId, .providerMissing, .halfCredentials, .looseSessionToken, .halfGuardrail]

theorem mem_faults_of_hasFault (h : settings.HasFault fault) : fault ∈ faults := by
  cases fault with
  | placeholder _ => exact h.elim
  | unreadable => exact h.elim
  | _ => decide

/-- A search for the first fault, by any test that tells of each fault whether the settings have it.  A loose
token is looked for only if both keys are set or none. -/
theorem fault?_eq_find?_of {test : SettingsFault → Bool} (blank : test .blankModelId = allBlank settings.model.id)
    (missing : test .providerMissing =
      (Target.isResourceName settings.model.id && settings.model.provider.isNone))
    (half : test .halfCredentials =
      (settings.access.accessKeyId.isSome != settings.access.secretAccessKey.isSome))
    (loose : test .halfCredentials = false → test .looseSessionToken =
      (settings.access.accessKeyId.isNone && settings.access.sessionToken.isSome))
    (guardrail : test .halfGuardrail =
      (settings.guardrails.identifier.isSome != settings.guardrails.version.isSome)) :
    settings.fault? = faults.find? test := by
  simp only [fault?, modelFault?, accessFault?, guardrailFault?, faults, List.find?_cons, List.find?_nil, ← blank,
    ← missing, ← half, ← guardrail]
  cases hh : test .halfCredentials with
  | true => cases test .blankModelId <;> cases test .providerMissing <;> rfl
  | false =>
    rw [← loose hh]
    cases test .blankModelId <;> cases test .providerMissing <;> cases test .looseSessionToken <;>
      cases test .halfGuardrail <;> rfl

theorem fault?_eq_find? (settings : Settings) :
    settings.fault? = faults.find? fun fault => decide (settings.HasFault fault) := by
  have half : decide (settings.HasFault .halfCredentials) =
      (settings.access.accessKeyId.isSome != settings.access.secretAccessKey.isSome) := by
    rw [Bool.eq_iff_iff, decide_eq_true_iff]
    exact bne_iff_ne.symm
  refine fault?_eq_find?_of ?_ ?_ half (fun hh => ?_) ?_
  · rw [Bool.eq_iff_iff, decide_eq_true_iff]
    exact List.all_eq_true.symm
  · rw [Bool.eq_iff_iff, decide_eq_true_iff, Bool.and_eq_true, Target.isResourceName,
      List.isPrefixOf_iff_prefix, Option.isNone_iff_eq_none]
    rfl
  · rw [half, bne_eq_false_iff_eq] at hh
    have together (hk : settings.access.accessKeyId = none) : settings.access.secretAccessKey = none := by
      rw [hk] at hh
      exact Option.isNone_iff_eq_none.mp (Option.isSome_eq_false_iff.mp hh.symm)
    rw [Bool.eq_iff_iff, decide_eq_true_iff, Bool.and_eq_true, Option.isNone_iff_eq_none]
    constructor
    · rintro ⟨ht, hk, -⟩
      exact ⟨hk, ht⟩
    · rintro ⟨hk, ht⟩
      exact ⟨ht, hk, together hk⟩
  · rw [Bool.eq_iff_iff, decide_eq_true_iff]
    exact bne_iff_ne.symm

theorem fault?_eq_none_iff : settings.fault? = none ↔ ∀ fault, ¬ settings.HasFault fault := by
  rw [fault?_eq_find?, List.find?_eq_none]
  simp only [decide_eq_true_iff]
  exact ⟨fun h fault hf => h fault (mem_faults_of_hasFault hf) hf, fun h fault _ => h fault⟩

theorem hasFault_of_fault? (h : settings.fault? = some fault) : settings.HasFault fault := by
  rw [fault?_eq_find?] at h
  have hd := List.find?_some h
  exact of_decide_eq_true hd

end

/-! ## Acceptance -/

section

variable {env : Environment} {text filled : String} {settings : Settings} {fault : SettingsFault}

theorem ofText_eq_ok_iff : ofText env text = .ok settings ↔
    (∃ filled, fillPlaceholders env text = .ok filled ∧ read? filled = some settings) ∧
      ∀ fault, ¬ settings.HasFault fault := by
  rw [← fault?_eq_none_iff]
  constructor
  · intro h
    exact ⟨read?_of_ofText h, fault?_of_ofText h⟩
  · rintro ⟨⟨filled, hf, hr⟩, hn⟩
    simp only [ofText, hf, hr, hn]

theorem hasFault_of_ofText (hf : fillPlaceholders env text = .ok filled) (hr : read? filled = some settings)
    (h : ofText env text = .error fault) : settings.HasFault fault := by
  refine hasFault_of_fault? ?_
  rw [ofText, hf] at h
  simp only [hr] at h
  split at h
  · rename_i found hfound
    cases h
    exact hfound
  · cases h

theorem exists_hoisted (h : read? text = some settings) :
    ∃ model : ModelSettings, settings.model = model.hoisted := by
  obtain ⟨found, -, rfl⟩ := Option.map_eq_some_iff.mp h
  exact ⟨found.model, rfl⟩

theorem isUsable_of_read? (h : read? text = some settings) (hn : ∀ fault, ¬ settings.HasFault fault) :
    settings.IsUsable := by
  obtain ⟨model, hm⟩ := exists_hoisted h
  have keys : settings.access.accessKeyId.isSome = settings.access.secretAccessKey.isSome :=
    not_not.mp (hn .halfCredentials)
  have named : ¬ (Target.isResourceName settings.model.id = true ∧ settings.model.provider = none) := by
    rw [Target.isResourceName, List.isPrefixOf_iff_prefix]
    exact hn .providerMissing
  constructor
  · have hb := hn .blankModelId
    simp only [HasFault, not_forall, Bool.not_eq_true] at hb
    obtain ⟨c, hc, hb⟩ := hb
    exact ⟨c, hc, hb⟩
  · rw [hm]
    exact model.get?_temperature_hoisted
  · rw [hm]
    exact model.get?_maxTokens_hoisted
  · exact keys
  · intro ht
    by_contra hk
    rw [Bool.not_eq_true] at hk
    have hs := keys.symm.trans hk
    rw [Option.isSome_eq_false_iff, Option.isNone_iff_eq_none] at hk hs
    exact hn .looseSessionToken ⟨ht, hk, hs⟩
  · exact not_not.mp (hn .halfGuardrail)
  · intro failure
    rw [Invoker.ofSettings_eq_error_iff, Target.resolveProvider_eq_error_iff, or_iff_right]
    rw [Target.providerId_eq_error_iff]
    rintro ⟨-, hp, ha⟩
    exact named ⟨ha, hp⟩

end

/-- Accepted settings can be used.  A text that comes to settings is accepted, with these settings, exactly if
they have no fault, and otherwise refused for a fault that they have. -/
theorem accepted_iff_faultless (env : Environment) (text : String) :
    (∀ settings, ofText env text = .ok settings → settings.IsUsable) ∧
      ∀ filled settings, fillPlaceholders env text = .ok filled → read? filled = some settings →
        (ofText env text = .ok settings ↔ ∀ fault, ¬ settings.HasFault fault) ∧
          ∀ fault, ofText env text = .error fault → settings.HasFault fault := by
  refine ⟨fun settings h => ?_, fun filled settings hf hr => ⟨?_, fun fault => hasFault_of_ofText hf hr⟩⟩
  · obtain ⟨⟨filled, -, hr⟩, hn⟩ := ofText_eq_ok_iff.mp h
    exact isUsable_of_read? hr hn
  · rw [ofText_eq_ok_iff]
    exact and_iff_right ⟨filled, hf, hr⟩

/-- A text that is accepted, and one that comes to settings and is refused for the half of a pair of keys. -/
theorem accepted_iff_faultless_keys :
    let whole := "[model]\nid=\"meta.a\""
    let half := "[model]\nid=\"meta.a\"\n[aws]\naccess_key_id=\"k\""
    (∃ settings, ofText (fun _ => none) whole = .ok settings ∧ settings.IsUsable) ∧
      ∃ settings, read? half = some settings ∧ ofText (fun _ => none) half = .error .halfCredentials ∧
        settings.HasFault .halfCredentials := by
  intro whole half
  constructor
  · have accepted : ofText (fun _ => none) whole =
        .ok ⟨⟨"meta.a", none, none, false, none, none, []⟩, .empty, .none, .standard⟩ := by
      subst whole
      exact eq_ok_of_toOption (by decide +kernel)
    exact ⟨_, accepted, (accepted_iff_faultless _ whole).1 _ accepted⟩
  · have filled : fillPlaceholders (fun _ => none) half = .ok half := by
      subst half
      exact eq_ok_of_toOption (by decide +kernel)
    have found : read? half =
        some ⟨⟨"meta.a", none, none, false, none, none, []⟩, { AccessSettings.empty with accessKeyId := some "k" },
          .none, .standard⟩ := by
      subst half
      decide +kernel
    have refused : ofText (fun _ => none) half = .error .halfCredentials := by
      rw [ofText, filled]
      simp only [found]
      rfl
    exact ⟨_, found, refused, ((accepted_iff_faultless _ half).2 _ _ filled found).2 _ refused⟩

end Settings

end Colloquy
