import CocoonSit.Plugins.Installation

/-!
# What a failed update leaves

An update that fails is to leave the plugin as it was.  The handler puts back the active version and
the status.  That is enough as long as nothing else has been committed; once the new package has
been, its version, its events and the fields it wrote stay.
-/

namespace CocoonSit

open Table

/-- The plugin's row, its versions and its event definitions are what they were. -/
structure SamePlugin (before after : PluginTables) (pluginId : RowId) : Prop where
  definition : get after.plugins pluginId = get before.plugins pluginId
  versions : (after.versions.filter fun r => r.pluginId = pluginId) =
    before.versions.filter fun r => r.pluginId = pluginId
  eventDefinitions : (after.eventDefinitions.filter fun r => r.pluginId = pluginId) =
    before.eventDefinitions.filter fun r => r.pluginId = pluginId

section Rollback

variable (pyStr : ConfigValue → String) (newId : NewId) (tables : PluginTables) (pluginId : RowId)
  (outcome : PackageOutcome) (faults : RuntimeFaults)

/-- If the update raises, the plugin is as before. -/
def FailureLeavesPlugin : Prop :=
  (updatePlugin pyStr newId tables pluginId outcome faults).error.isSome = true →
    SamePlugin tables (updatePlugin pyStr newId tables pluginId outcome faults).tables pluginId

/-- The runtime manager raises only where nothing of the update has been committed: not when it
stops an enabled plugin, and not after a package has passed the checks. -/
def RaisesBeforeCommits : Prop :=
  ∀ plugin ∈ get tables.plugins pluginId,
    (faults.disableReload = true → plugin.status = .disabled) ∧
      (faults.disableReload = false →
        (checkInstall pyStr tables (some plugin) outcome).isOk = true →
          faults.installReload = false ∧
            (plugin.status = .enabled → faults.enableReload = false ∧ faults.runOnce = false))

end Rollback

variable {pyStr : ConfigValue → String} {newId : NewId} {tables : PluginTables} {pluginId : RowId}
  {outcome : PackageOutcome} {faults : RuntimeFaults} {plugin : PluginDefinition}

lemma get_updated {plugins : List PluginDefinition} {f : PluginDefinition → PluginDefinition}
    (hf : ∀ r, (f r).id = r.id) (hget : get plugins pluginId = some plugin) :
    get (update plugins pluginId f) pluginId = some (f plugin) := by
  rw [get_update hf, hget, Option.map_some, if_pos (key_of_get hget)]

lemma get_setStatus (hget : get tables.plugins pluginId = some plugin) (status : PluginStatus) :
    get (setStatus tables pluginId status).plugins pluginId =
      some { plugin with status := status } :=
  get_updated (f := fun p => { p with status := status }) (fun _ => rfl) hget

lemma samePlugin_restore (hget : get tables.plugins pluginId = some plugin) :
    SamePlugin tables (restorePlugin (setStatus tables pluginId .disabled) plugin) pluginId := by
  obtain rfl : plugin.id = pluginId := key_of_get hget
  refine ⟨?_, rfl, rfl⟩
  have hrestored := get_updated (f := fun current : PluginDefinition =>
    { current with activeVersionId := plugin.activeVersionId, status := plugin.status })
    (fun _ => rfl) (get_setStatus hget .disabled)
  exact hrestored.trans hget.symm

variable (newId tables plugin) in
lemma length_versions_writePackage (manifest : PluginPackageManifest) :
    ((writePackage newId tables (some plugin) "" manifest).versions.filter
      fun r => r.pluginId = plugin.id).length =
      (tables.versions.filter fun r => r.pluginId = plugin.id).length + 1 := by
  rw [writePackage, writeVersion_versions, List.filter_append, List.length_append]
  simp [newVersion]

variable (newId tables plugin) in
lemma not_samePlugin_writePackage (manifest : PluginPackageManifest) (after : PluginTables)
    (hafter : after.versions =
      (writePackage newId (setStatus tables plugin.id .disabled) (some plugin) ""
        manifest).versions) :
    ¬ SamePlugin tables after plugin.id := by
  intro h
  have hlength := length_versions_writePackage newId
    (setStatus tables plugin.id .disabled) plugin manifest
  rw [← hafter, h.versions] at hlength
  simp [setStatus] at hlength

/-- A failed update leaves the plugin as it was exactly where the runtime manager does not raise
after a commit. -/
theorem failureLeavesPlugin_iff :
    FailureLeavesPlugin pyStr newId tables pluginId outcome faults ↔
      RaisesBeforeCommits pyStr tables pluginId outcome faults := by
  unfold FailureLeavesPlugin RaisesBeforeCommits
  cases hget : get tables.plugins pluginId with
  | none =>
    refine iff_of_true (fun _ => ?_) (fun plugin hplugin => by cases hplugin)
    rw [updatePlugin, hget]
    exact ⟨rfl, rfl, rfl⟩
  | some plugin =>
    obtain rfl : plugin.id = pluginId := key_of_get hget
    simp only [Option.mem_def, Option.some.injEq, forall_eq']
    rw [updatePlugin, hget]
    cases hdisable : faults.disableReload with
    | true =>
      simp only [if_true, Option.isSome_some, forall_const, reduceCtorEq, false_imp_iff,
        and_true]
      constructor
      · intro hsame
        have hstatus := hsame.definition
        rw [get_setStatus hget, hget, Option.some.injEq] at hstatus
        rw [← hstatus]
      · intro hstatus
        refine ⟨?_, rfl, rfl⟩
        rw [get_setStatus hget, hget, ← hstatus]
    | false =>
      simp only [Bool.false_eq_true, if_false, false_imp_iff, true_and, forall_const]
      cases hcheck : checkInstall pyStr tables (some plugin) outcome with
      | error e =>
        have htry : tryUpdate pyStr newId (setStatus tables plugin.id .disabled) plugin
          outcome
            faults = ⟨setStatus tables plugin.id .disabled, some e⟩ := by
          rw [tryUpdate, checkInstall_setStatus, hcheck]
        rw [htry]
        exact iff_of_true (fun _ => samePlugin_restore hget) (fun hok => by cases hok)
      | ok manifest =>
        -- the package is committed, so the update must not fail any more
        have hinstalled := fun {after : PluginTables} =>
          not_samePlugin_writePackage newId tables plugin manifest after
        simp only [tryUpdate, checkInstall_setStatus, hcheck, Except.isOk, Except.toBool,
          forall_const]
        cases hreload : faults.installReload with
        | true =>
          simp only [if_true, Option.isSome_some, forall_const, Bool.true_eq_false,
            false_and, iff_false]
          exact hinstalled rfl
        | false =>
          simp only [Bool.false_eq_true, if_false, true_and]
          by_cases henabled : plugin.status = .enabled
          · simp only [if_pos henabled, henabled, forall_const]
            cases henable : faults.enableReload <;> cases hrun : faults.runOnce <;> simp
            all_goals exact hinstalled rfl
          · simp [henabled]

/-! ## A package that is committed -/

/-- The manifest of a plugin in its first version, and in a second one. -/
def clockManifest (version entryModule : String) : PluginPackageManifest where
  name := "clock"
  version := version
  displayName := "Clock"
  pluginType := "external"
  entryModule := entryModule

def clockPlugin : PluginDefinition where
  id := "p"
  name := "clock"
  displayName := "Clock"
  pluginType := "external"
  entryModule := "clock"
  status := .enabled
  dataDir := "clock"
  activeVersionId := some "v"

def clockVersion : PluginVersion where
  id := "v"
  pluginId := "p"
  version := "1"
  metadataJson := clockManifest "1" "clock"

def clockTables : PluginTables where
  plugins := [clockPlugin]
  versions := [clockVersion]
  versionDirs := [("clock", "1")]

/-- The first round of the manager after the plugin has been enabled again raises: the update has
failed, and the new entry module and version are there. -/
theorem clock_update_left_behind :
    ¬ FailureLeavesPlugin (fun _ => "") .longer clockTables "p"
      { upload := .package (clockManifest "2" "clock2") } { runOnce := true } := by
  intro h
  have hversions := congrArg List.length (h (by decide +kernel)).versions
  exact absurd hversions (by decide +kernel)

end CocoonSit
