import TestConductor.Config.Store
/-! # What the environment's overrides keep of a valid settings file

Loading a settings file validates it: the conductor runs at least one host, and its timings are
positive. The settings in effect are those of the file with the environment's overrides applied,
and nothing validates them again. The overrides skip a zero timeout and leave the retry interval
alone, so every timing stays positive; but a parallel level override is applied whatever its
value, and one of zero leaves settings that the loader refuses (`applied_validate`).
-/
namespace TestConductor

namespace ConfigFile

theorem problem?_eq_none {f : ConfigFile} :
    f.problem? = none ↔
      f.version = currentVersion ∧ f.conductor.parallelLevel ≠ 0 ∧ f.conductor.workerConnectTimeoutSecs ≠ 0 ∧
        f.conductor.connectionTimeoutSecs ≠ 0 ∧ f.conductor.connectRetryIntervalMs ≠ 0 ∧
        f.runtimes.findSome? entryProblem? = none := by
  unfold problem?
  by_cases hv : f.version = currentVersion <;>
  by_cases h₁ : f.conductor.parallelLevel = 0 <;>
  by_cases h₂ : f.conductor.workerConnectTimeoutSecs = 0 <;>
  by_cases h₃ : f.conductor.connectionTimeoutSecs = 0 <;>
  by_cases h₄ : f.conductor.connectRetryIntervalMs = 0 <;> simp [hv, h₁, h₂, h₃, h₄]

theorem validate_ok_iff {f : ConfigFile} : f.validate = .ok () ↔ f.problem? = none := by
  unfold validate
  cases f.problem? <;> simp

theorem default_validate : default.validate = .ok () := rfl

theorem load_validate {t : FileTree} {p : String} {f : ConfigFile} (h : load t p = .ok f) : f.validate = .ok () := by
  unfold load at h
  simp only [bind, Except.bind, pure, Except.pure] at h
  split at h
  · cases h
  split at h
  · cases h
  split at h
  · cases h
  · cases h
    assumption

theorem loadDefault_validate {t : FileTree} {home : Option String} {f : ConfigFile}
    (h : loadDefault t home = .ok f) : f.validate = .ok () := by
  unfold loadDefault at h
  split at h
  · exact load_validate h
  · cases h
    exact default_validate

end ConfigFile

namespace EnvOverrides

theorem positive_getD_ne_zero (n : Option Nat) {d : Nat} (hd : d ≠ 0) : (positive n).getD d ≠ 0 := by
  cases n with
  | none => exact hd
  | some k =>
    by_cases hk : 0 < k
    · simp [positive, Option.filter, hk]
      omega
    · simp [positive, Option.filter, hk, hd]

/-- Overrides keep the timings of settings positive where they were, leave the retry interval as
it is, and zero the parallel level of settings that run a host exactly when the level override
is zero. -/
theorem apply_rules {c : Config} (o : EnvOverrides) (hl : c.parallelLevel ≠ 0) (hw : c.workerConnectTimeoutSecs ≠ 0)
    (hc : c.connectionTimeoutSecs ≠ 0) :
    ((o.apply c).parallelLevel = 0 ↔ o.parallelLevel = some 0) ∧ (o.apply c).workerConnectTimeoutSecs ≠ 0 ∧
      (o.apply c).connectionTimeoutSecs ≠ 0 ∧ (o.apply c).connectRetryIntervalMs = c.connectRetryIntervalMs := by
  refine ⟨?_, positive_getD_ne_zero _ hw, positive_getD_ne_zero _ hc, rfl⟩
  simp only [apply]
  cases o.parallelLevel with
  | none => simp [hl]
  | some n => simp

end EnvOverrides

theorem applied_validate {f : ConfigFile} (o : EnvOverrides) (h : f.validate = .ok ()) :
    ({ f with conductor := o.apply f.conductor } : ConfigFile).validate =
      if o.parallelLevel = some 0 then .error (.invalid .noParallelism) else .ok () := by
  rw [ConfigFile.validate_ok_iff, ConfigFile.problem?_eq_none] at h
  obtain ⟨hv, hl, hw, hc, hr, hrt⟩ := h
  obtain ⟨hlevel, hw', hc', hr'⟩ := o.apply_rules hl hw hc
  by_cases h0 : o.parallelLevel = some 0
  · rw [if_pos h0]
    simp [ConfigFile.validate, ConfigFile.problem?, hv, hlevel.2 h0]
  · rw [if_neg h0, ConfigFile.validate_ok_iff, ConfigFile.problem?_eq_none]
    exact ⟨hv, fun h => h0 (hlevel.1 h), hw', hc', hr' ▸ hr, hrt⟩

namespace Config

theorem ok_of_bind_apply {r : Except ConfigError ConfigFile} {o : EnvOverrides} {c : Config}
    (h : (r >>= fun f => pure (o.apply f.conductor)) = .ok c) : ∃ f, r = .ok f ∧ c = o.apply f.conductor := by
  cases r with
  | error err => cases h
  | ok f =>
    cases h
    exact ⟨f, rfl, rfl⟩

theorem resolve_applies {e : Environment} {t : FileTree} {home : Option String} {c : Config}
    (h : resolve e t home = .ok c) :
    ∃ f : ConfigFile, f.validate = .ok () ∧ c = (EnvOverrides.load e).apply f.conductor := by
  unfold resolve at h
  -- the file the environment names, or else the default one, was loaded and so validated
  cases hcf : (EnvOverrides.load e).configFile with
  | some p =>
    simp only [hcf] at h
    obtain ⟨f, hf, rfl⟩ := ok_of_bind_apply h
    exact ⟨f, ConfigFile.load_validate hf, rfl⟩
  | none =>
    simp only [hcf] at h
    obtain ⟨f, hf, rfl⟩ := ok_of_bind_apply h
    exact ⟨f, ConfigFile.loadDefault_validate hf, rfl⟩

end Config

/-- The environment's overrides keep every rule that loading a file enforces on the conductor's
settings but one. Applied to the settings of a valid file, they leave a file that is still valid,
unless the parallel level override is zero: then the file breaks the rule that at least one host
runs. So the settings in effect, put back into the file they were read from, are refused exactly
when the environment sets the parallel level to zero. -/
theorem overrides_keep_rules_but_zero_level (f : ConfigFile) (o : EnvOverrides) (e : Environment)
    (t : FileTree) (home : Option String) (c : Config) :
    (f.validate = .ok () →
      ({ f with conductor := o.apply f.conductor } : ConfigFile).validate =
        if o.parallelLevel = some 0 then .error (.invalid .noParallelism) else .ok ()) ∧
    (Config.resolve e t home = .ok c →
      ∃ g : ConfigFile, g.validate = .ok () ∧
        ({ g with conductor := c } : ConfigFile).validate =
          if (EnvOverrides.load e).parallelLevel = some 0 then .error (.invalid .noParallelism) else .ok ()) := by
  refine ⟨fun h => applied_validate o h, fun h => ?_⟩
  obtain ⟨g, hg, rfl⟩ := Config.resolve_applies h
  exact ⟨g, hg, applied_validate _ hg⟩

/-- The default file with `TEST_ORCHESTRATOR_PARALLEL_LEVEL=0` in the environment is refused for
its parallel level. -/
theorem zeroLevelOverride_refused :
    ConfigFile.default.validate = .ok () ∧
      ({ ConfigFile.default with
          conductor := (EnvOverrides.load [(envName "PARALLEL_LEVEL", "0")]).apply ConfigFile.default.conductor } :
          ConfigFile).validate = .error (.invalid .noParallelism) := by
  have hzero : (EnvOverrides.load [(envName "PARALLEL_LEVEL", "0")]).parallelLevel = some 0 := rfl
  refine ⟨ConfigFile.default_validate, ?_⟩
  rw [(overrides_keep_rules_but_zero_level ConfigFile.default (EnvOverrides.load [(envName "PARALLEL_LEVEL", "0")])
    [] default none default).1 ConfigFile.default_validate, if_pos hzero]

end TestConductor
