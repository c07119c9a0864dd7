import SourceAudit.Proofs.Text.Loose
import SourceAudit.Proofs.Validation.Valid
import SourceAudit.Settings

/-!
# Settings and the configuration of the enhancer

Settings and configurations are checked apart. What the first check has let through passes the second one
too: the timeout is positive in both (`Settings.isPositive_timeout`), and an empty key, which the second
check takes for none, is not read as a key in the first place (`Settings.any_apiKey_iff`). So the only
thing that can be missing is the key of the selected backend (`Settings.enhancerConfig_of_lacks`,
`Settings.enhancerConfig_of_held`). The key of another backend is read, but no configuration says anything
of it (`Settings.draftConfig_changed`).
-/

namespace SourceAudit

open Decimal (Binary64)
open Validation

theorem Variable.name_inj {first second : Variable} (same : first.name = second.name) :
    first = second := by
  revert same
  cases first <;> cases second <;> decide

/-- A variable holds the key of a backend. -/
inductive Variable.HoldsKey : Variable → Prop
  | openRouter : HoldsKey .openRouterKey
  | gemini : HoldsKey .geminiKey

theorem Variable.HoldsKey.ne {key : Variable} (holds : key.HoldsKey) (plain : Variable)
    (other : ¬ plain.HoldsKey) : plain ≠ key := by
  rintro rfl
  exact other holds

namespace Environment

/-- A variable is unset or empty. -/
def Lacks (environment : Environment) (key : Variable) : Prop :=
  environment.get? key.name = none ∨ environment.get? key.name = some ""

theorem any_nonempty?_iff {environment : Environment} {key : Variable} :
    (environment.nonempty? key.name).any (· != "") = true ↔ ¬ environment.Lacks key := by
  rw [nonempty?, Lacks]
  cases environment.get? key.name with
  | none => simp
  | some value => by_cases empty : value = "" <;> simp [Option.filter, empty]

/-- What is not lacked is read as it stands. -/
theorem nonempty?_of_not_lacks {environment : Environment} {key : Variable}
    (held : ¬ environment.Lacks key) :
    environment.nonempty? key.name = environment.get? key.name := by
  rw [Lacks, not_or] at held
  rw [nonempty?]
  cases set : environment.get? key.name with
  | none => exact (held.1 set).elim
  | some value =>
      refine Option.filter_some_pos ?_
      exact bne_iff_ne.mpr fun empty => held.2 (set.trans (congrArg some empty))

/-- Environments that differ in one variable agree on the others, and on all names that are not of
settings. -/
def AgreesBeside (changed environment : Environment) (key : Variable) : Prop :=
  ∀ name, name ≠ key.name → changed.get? name = environment.get? name

namespace AgreesBeside

variable {changed environment : Environment} {key other : Variable}

theorem get?_eq (agrees : changed.AgreesBeside environment key) (different : other ≠ key) :
    changed.get? other.name = environment.get? other.name :=
  agrees other.name (mt Variable.name_inj different)

theorem nonempty?_eq (agrees : changed.AgreesBeside environment key) (different : other ≠ key) :
    changed.nonempty? other.name = environment.nonempty? other.name := by
  rw [nonempty?, nonempty?, agrees.get?_eq different]

end AgreesBeside

end Environment

/-- A configuration with a positive timeout and the key it needs is let through as it is. -/
theorem EnhancerConfig.validate_eq_ok {config : EnhancerConfig}
    (positive : config.timeout.isPositive = true) (needed : config.hasNeededKey = true) :
    config.validate = .ok config := by
  rw [validate, if_pos positive, Checked.toExcept_eq_ok_iff, Checked.andThen_eq_valid_iff]
  exact ⟨config, rfl, if_pos needed⟩

namespace Settings

variable {environment : Environment} {settings : Settings} {key : Variable}

/-- The settings of an environment, beside those that are checked. -/
def written (environment : Environment) (backend : Backend) (timeout : Binary64) : Settings where
  backend
  model := environment.nonempty? Variable.model.name
  openRouterKey := environment.nonempty? Variable.openRouterKey.name
  openRouterUrl := (environment.nonempty? Variable.openRouterUrl.name).getD defaultBaseUrl
  geminiKey := environment.nonempty? Variable.geminiKey.name
  timeout
  referer := environment.nonempty? Variable.referer.name
  historyPath := environment.nonempty? Variable.historyPath.name
  corsOrigins := ((environment.nonempty? Variable.corsOrigins.name).map originsOf).getD defaultOrigins

/-- Settings are read when the name of the backend and the timeout are valid. -/
theorem ofEnvironment_eq_ok_iff :
    ofEnvironment environment = .ok settings ↔
      ∃ backend timeout,
        backendOf ((environment.get? Variable.provider.name).getD "openrouter") = .valid backend ∧
          timeoutOf (environment.nonempty? Variable.timeout.name) = .valid timeout ∧
            settings = written environment backend timeout := by
  have checked : ofEnvironment environment = .ok settings ↔ check environment = .valid settings := by
    delta ofEnvironment
    cases check environment with
    | valid other => simp
    | invalid issues => simp
  rw [checked, check]
  simp only [Checked.ap_eq_valid_iff, Checked.map_eq_valid_iff, Checked.within_eq_valid_iff]
  constructor
  · rintro ⟨_, timeout, ⟨backend, named, rfl⟩, timed, rfl⟩
    exact ⟨backend, timeout, named, timed, rfl⟩
  · rintro ⟨backend, timeout, named, timed, rfl⟩
    exact ⟨_, timeout, ⟨backend, named, rfl⟩, timed, rfl⟩

/-- A timeout is positive, the default one as well. -/
theorem isPositive_of_timeoutOf {value : Option String} {timeout : Binary64}
    (valid : timeoutOf value = .valid timeout) : timeout.isPositive = true := by
  cases value with
  | none =>
      rw [timeoutOf, Checked.valid.injEq] at valid
      subst valid
      rfl
  | some value =>
      rw [timeoutOf, positive, Checked.andThen_eq_valid_iff] at valid
      obtain ⟨number, -, limited⟩ := valid
      split at limited
      next passes =>
        cases limited
        exact passes
      next => cases limited

theorem isPositive_timeout (read : ofEnvironment environment = .ok settings) :
    settings.timeout.isPositive = true := by
  obtain ⟨backend, timeout, -, timed, rfl⟩ := ofEnvironment_eq_ok_iff.mp read
  exact isPositive_of_timeoutOf timed

theorem keyVariable?_eq_none_iff : settings.keyVariable? = none ↔ settings.backend = .mock := by
  unfold keyVariable?
  cases settings.backend <;> simp

/-- The key of the selected backend is what its variable holds, if it is not empty. -/
theorem apiKey_eq (read : ofEnvironment environment = .ok settings) :
    settings.apiKey = settings.keyVariable?.bind fun key => environment.nonempty? key.name := by
  obtain ⟨backend, timeout, -, -, rfl⟩ := ofEnvironment_eq_ok_iff.mp read
  cases backend with
  | openRouter => rfl
  | gemini => rfl
  | mock => rfl

/-- The two checks mean the same by a key. -/
theorem any_apiKey_iff (read : ofEnvironment environment = .ok settings)
    (selected : settings.keyVariable? = some key) :
    settings.apiKey.any (· != "") = true ↔ ¬ environment.Lacks key := by
  rw [apiKey_eq read, selected, Option.bind_some, Environment.any_nonempty?_iff]

/-- A key that counts for the settings counts for the configuration. -/
theorem any_apiKey_draftConfig (settings : Settings) :
    settings.draftConfig.apiKey.any (· != ("" : LooseText)) = settings.apiKey.any (· != "") := by
  have alike (key : String) : ((key : LooseText) != ("" : LooseText)) = (key != "") := by
    rw [Bool.eq_iff_iff, bne_iff_ne, bne_iff_ne, Ne, LooseText.unicode_inj]
  rw [draftConfig, Option.any_map]
  exact congrArg settings.apiKey.any (funext alike)

theorem enhancerConfig_of_lacks (read : ofEnvironment environment = .ok settings)
    (selected : settings.keyVariable? = some key) (lacks : environment.Lacks key) :
    settings.enhancerConfig = .error (.missingKey key) := by
  have absent : settings.apiKey.any (· != "") = false :=
    Bool.eq_false_iff.mpr fun present => (any_apiKey_iff read selected).mp present lacks
  simp only [enhancerConfig, selected, absent]

/-- Nothing that the settings have let through is rejected. -/
theorem enhancerConfig_of_held (read : ofEnvironment environment = .ok settings)
    (held : ∀ key, settings.keyVariable? = some key → ¬ environment.Lacks key) :
    settings.enhancerConfig = .ok settings.draftConfig := by
  have accepted (needed : settings.draftConfig.hasNeededKey = true) :
      settings.draftConfig.validate.mapError ConfigError.rejected = .ok settings.draftConfig := by
    rw [EnhancerConfig.validate_eq_ok (isPositive_timeout read) needed, Except.mapError]
  cases selected : settings.keyVariable? with
  | none =>
      simp only [enhancerConfig, selected]
      refine accepted ?_
      rw [EnhancerConfig.hasNeededKey, Bool.or_eq_true, beq_iff_eq]
      exact .inl (keyVariable?_eq_none_iff.mp selected)
  | some key =>
      have present := (any_apiKey_iff read selected).mpr (held key selected)
      simp only [enhancerConfig, selected, present]
      refine accepted ?_
      rw [EnhancerConfig.hasNeededKey, Bool.or_eq_true, any_apiKey_draftConfig]
      exact .inr present

/-- The outcome is told from what the configuration would say. -/
theorem enhancerConfig_congr {first second : Settings}
    (same : first.draftConfig = second.draftConfig) :
    first.enhancerConfig = second.enhancerConfig := by
  have backends : first.backend = second.backend := congrArg EnhancerConfig.backend same
  have keys : first.apiKey = second.apiKey :=
    Option.map_injective (fun _ _ => LooseText.unicode_inj.mp) (congrArg EnhancerConfig.apiKey same)
  rw [enhancerConfig, enhancerConfig, keyVariable?, keyVariable?, backends, keys, same]

section Changed

variable {changed : Environment} (agrees : changed.AgreesBeside environment key)

include agrees

/-- No key says anything of the backend and of the timeout. -/
theorem ofEnvironment_changed (holds : key.HoldsKey)
    (read : ofEnvironment environment = .ok settings) :
    ofEnvironment changed = .ok (written changed settings.backend settings.timeout) := by
  obtain ⟨backend, timeout, named, timed, rfl⟩ := ofEnvironment_eq_ok_iff.mp read
  refine ofEnvironment_eq_ok_iff.mpr ⟨backend, timeout, ?_, ?_, rfl⟩
  · rw [agrees.get?_eq (holds.ne .provider nofun)]
    exact named
  · rw [agrees.nonempty?_eq (holds.ne .timeout nofun)]
    exact timed

/-- A configuration says nothing of the key of a backend that is not selected. -/
theorem draftConfig_changed (holds : key.HoldsKey) (unselected : settings.keyVariable? ≠ some key)
    (read : ofEnvironment environment = .ok settings) :
    (written changed settings.backend settings.timeout).draftConfig = settings.draftConfig := by
  have selectedKey := apiKey_eq (ofEnvironment_changed agrees holds read)
  have keys : (written changed settings.backend settings.timeout).apiKey = settings.apiKey := by
    rw [selectedKey, apiKey_eq read]
    change settings.keyVariable?.bind _ = _
    refine Option.bind_congr fun selected isSelected => agrees.nonempty?_eq ?_
    rintro rfl
    exact unselected isSelected
  have model := agrees.nonempty?_eq (holds.ne .model nofun)
  have url := agrees.nonempty?_eq (holds.ne .openRouterUrl nofun)
  have referer := agrees.nonempty?_eq (holds.ne .referer nofun)
  obtain ⟨backend, timeout, -, -, rfl⟩ := ofEnvironment_eq_ok_iff.mp read
  rw [draftConfig, keys, draftConfig]
  simp only [written, model, url, referer]

end Changed

/-- **A key is missing only if the selected backend has none.** The configuration of settings that were
read is refused when the variable of the selected backend's key is unset or empty, for that reason, and
for no other. In every other case it says what the settings say, with the key of the selected backend. The
variable of a key that is not selected changes neither the outcome nor the client that comes of it. -/
theorem enhancerConfig_agrees (read : ofEnvironment environment = .ok settings) :
    (∀ error, settings.enhancerConfig = .error error ↔
      ∃ key, settings.keyVariable? = some key ∧ environment.Lacks key ∧ error = .missingKey key) ∧
    ((∀ key, settings.keyVariable? = some key → ¬ environment.Lacks key) →
      ∃ config, settings.enhancerConfig = .ok config ∧ config.backend = settings.backend ∧
        config.model = settings.model.map .unicode ∧ config.baseUrl = settings.openRouterUrl ∧
        config.timeout = settings.timeout ∧ config.referer = settings.referer.map .unicode ∧
        config.apiKey =
          (settings.keyVariable?.bind fun key => environment.get? key.name).map .unicode) ∧
    ∀ {key : Variable} {changed : Environment}, key.HoldsKey → settings.keyVariable? ≠ some key →
      changed.AgreesBeside environment key →
      ∃ others, ofEnvironment changed = .ok others ∧ others.backend = settings.backend ∧
        others.enhancerConfig = settings.enhancerConfig ∧
        others.enhancerConfig.map Client.of = settings.enhancerConfig.map Client.of := by
  refine ⟨fun error => ⟨fun refused => ?_, ?_⟩, fun held => ?_, ?_⟩
  · by_cases missing : ∃ key, settings.keyVariable? = some key ∧ environment.Lacks key
    · obtain ⟨key, selected, lacks⟩ := missing
      rw [enhancerConfig_of_lacks read selected lacks, Except.error.injEq] at refused
      exact ⟨key, selected, lacks, refused.symm⟩
    · have held := enhancerConfig_of_held read fun key selected lacks =>
        missing ⟨key, selected, lacks⟩
      rw [held] at refused
      cases refused
  · rintro ⟨key, selected, lacks, rfl⟩
    exact enhancerConfig_of_lacks read selected lacks
  · refine ⟨settings.draftConfig, enhancerConfig_of_held read held, rfl, rfl, rfl, rfl, rfl, ?_⟩
    refine congrArg (Option.map LooseText.unicode) ?_
    rw [apiKey_eq read]
    exact Option.bind_congr fun key selected => Environment.nonempty?_of_not_lacks (held key selected)
  · intro key changed holds unselected agrees
    have same := enhancerConfig_congr (draftConfig_changed agrees holds unselected read)
    exact ⟨_, ofEnvironment_changed agrees holds read, rfl, same, congrArg _ same⟩

/-- A backend named with blanks around its name, a timeout without end, and the key of the other backend
added. -/
theorem enhancerConfig_agrees_other_key :
    ∃ settings,
      ofEnvironment ⟨[("CODESAFE_LLM_PROVIDER", " Gemini "), ("GEMINI_API_KEY", "first"),
        ("CODESAFE_LLM_TIMEOUT", "inf")]⟩ = .ok settings ∧
      (∃ config, settings.enhancerConfig = .ok config ∧ config.backend = .gemini ∧
        config.timeout = .infinite false ∧ config.apiKey = some (.unicode "first")) ∧
      ∃ others,
        ofEnvironment ⟨[("OPENROUTER_API_KEY", "second"), ("CODESAFE_LLM_PROVIDER", " Gemini "),
          ("GEMINI_API_KEY", "first"), ("CODESAFE_LLM_TIMEOUT", "inf")]⟩ = .ok others ∧
        others.enhancerConfig = settings.enhancerConfig := by
  let environment : Environment := ⟨[("CODESAFE_LLM_PROVIDER", " Gemini "),
    ("GEMINI_API_KEY", "first"), ("CODESAFE_LLM_TIMEOUT", "inf")]⟩
  let changed : Environment := ⟨("OPENROUTER_API_KEY", "second") :: environment.entries⟩
  have read : ofEnvironment environment = .ok (written environment .gemini (.infinite false)) := by
    decide +kernel
  have held : environment.get? Variable.geminiKey.name = some "first" := rfl
  have agrees : changed.AgreesBeside environment .openRouterKey := by
    intro name different
    rw [Environment.get?, Environment.get?, List.find?_cons_of_neg]
    simpa [Variable.name] using different.symm
  obtain ⟨-, allowed, independent⟩ := enhancerConfig_agrees read
  refine ⟨_, read, ?_, ?_⟩
  · obtain ⟨config, configured, backend, -, -, timeout, -, apiKey⟩ := allowed (by
      intro key selected
      cases selected
      simp [Environment.Lacks, held])
    exact ⟨config, configured, backend, timeout, apiKey.trans (congrArg _ held)⟩
  · obtain ⟨others, readOthers, -, same, -⟩ := independent .openRouter nofun agrees
    exact ⟨others, readOthers, same⟩

end Settings

end SourceAudit
