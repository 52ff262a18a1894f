import CocoonSit.Lib.Run
import CocoonSit.Plugins.Installation

/-!
# Stored settings and the schema of the active version

Settings are stored for the plugin, for its users and for chat groups, and each is checked against a
schema in the plugin's row when it is written.  An update puts other schemas there and leaves the
stored settings alone.
-/

namespace CocoonSit

open Table TransitionSystem

/-! ## Writing settings -/

/-- Whose settings: a user's or a chat group's. -/
inductive ConfigScope where
  | user
  | chatGroup
deriving DecidableEq

def scopeConfigs : ConfigScope → PluginTables → List PluginScopeConfig
  | .user, tables => tables.userConfigs
  | .chatGroup, tables => tables.chatGroupConfigs

def withScopeConfigs (tables : PluginTables) (configs : List PluginScopeConfig) :
    ConfigScope → PluginTables
  | .user => { tables with userConfigs := configs }
  | .chatGroup => { tables with chatGroupConfigs := configs }

/-- The row is this plugin's and scope's. -/
def isOf (pluginId scopeId : RowId) (config : PluginScopeConfig) : Bool :=
  config.pluginId = pluginId && config.scopeId = scopeId

/-- `_ensure_user_config` and `_ensure_chat_group_config`. -/
def ensureScopeConfig (scope : ConfigScope) (tables : PluginTables) (plugin : PluginDefinition)
    (scopeId : RowId) : PluginTables :=
  if (scopeConfigs scope tables).any (isOf plugin.id scopeId) then tables
  else withScopeConfigs tables (scopeConfigs scope tables ++ [{
    pluginId := plugin.id
    scopeId := scopeId
    configJson := plugin.userDefaultConfigJson }]) scope

/-- The row found by `_ensure_…_config` is written to. -/
def writeScopeConfig (scope : ConfigScope) (tables : PluginTables) (pluginId scopeId : RowId)
    (f : PluginScopeConfig → PluginScopeConfig) : PluginTables :=
  withScopeConfigs tables ((scopeConfigs scope tables).map fun config =>
    if isOf pluginId scopeId config then f config else config) scope

/-- `set_plugin_enabled_for_user` and `set_chat_group_plugin_enabled`; without a value, the requests
that only make sure of the row. -/
def setScopeEnabled (scope : ConfigScope) (tables : PluginTables) (pluginId scopeId : RowId)
    (enabled : Option Bool) : Except PluginError PluginTables :=
  match get tables.plugins pluginId with
  | none => .error (.http ⟨404, "Plugin not found"⟩)
  | some plugin => .ok (writeScopeConfig scope (ensureScopeConfig scope tables plugin scopeId)
      pluginId scopeId fun config => { config with isEnabled := enabled.getD config.isEnabled })

variable (pyStr : ConfigValue → String)

def ConfigScope.location : ConfigScope → String
  | .user => "plugin_user_config"
  | .chatGroup => "plugin_chat_group_config"

/-- `update_user_plugin_config` and `update_chat_group_plugin_config`. -/
def updateScopeConfig (scope : ConfigScope) (tables : PluginTables) (pluginId scopeId : RowId)
    (configJson : ConfigDict) : Except PluginError PluginTables :=
  match get tables.plugins pluginId with
  | none => .error (.http ⟨404, "Plugin not found"⟩)
  | some plugin => do
      validateConfigPayload pyStr plugin.userConfigSchemaJson configJson scope.location
      return writeScopeConfig scope (ensureScopeConfig scope tables plugin scopeId)
        pluginId scopeId fun config => { config with configJson := configJson }

def updatePluginConfig (tables : PluginTables) (pluginId : RowId) (configJson : ConfigDict) :
    Except PluginError PluginTables :=
  match get tables.plugins pluginId with
  | none => .error (.http ⟨404, "Plugin not found"⟩)
  | some plugin => do
      validateConfigPayload pyStr plugin.configSchemaJson configJson "plugin_config"
      return { tables with plugins := update tables.plugins pluginId fun plugin =>
        { plugin with configJson := configJson } }

/-- Requests on plugins and their settings. -/
inductive PluginRequest where
  | install (ownerUserId : RowId) (outcome : PackageOutcome) (faults : RuntimeFaults)
  | update (pluginId : RowId) (outcome : PackageOutcome) (faults : RuntimeFaults)
  | updateConfig (pluginId : RowId) (configJson : ConfigDict)
  | setEnabled (scope : ConfigScope) (pluginId scopeId : RowId) (enabled : Option Bool)
  | updateScopeConfig (scope : ConfigScope) (pluginId scopeId : RowId) (configJson : ConfigDict)

def pluginStep (newId : NewId) (tables : PluginTables) : PluginRequest → Option PluginTables
  | .install ownerUserId outcome faults =>
    some (installPlugin pyStr newId tables ownerUserId outcome faults).tables
  | .update pluginId outcome faults =>
    some (updatePlugin pyStr newId tables pluginId outcome faults).tables
  | .updateConfig pluginId configJson =>
    some ((updatePluginConfig pyStr tables pluginId configJson).toOption.getD tables)
  | .setEnabled scope pluginId scopeId enabled =>
    some ((setScopeEnabled scope tables pluginId scopeId enabled).toOption.getD tables)
  | .updateScopeConfig scope pluginId scopeId configJson =>
    some ((updateScopeConfig pyStr scope tables pluginId scopeId configJson).toOption.getD tables)

/-! ## Validity -/

/-- The settings stored for the plugin are valid for the version. -/
structure ValidFor (tables : PluginTables) (plugin : PluginDefinition) (version : PluginVersion) :
    Prop where
  own : ValidConfig pyStr version.metadataJson.configSchema plugin.configJson
  scopes : ∀ scope, ∀ config ∈ scopeConfigs scope tables, config.pluginId = plugin.id →
    ValidConfig pyStr version.metadataJson.userConfigSchema config.configJson

/-- All stored settings are valid for the active version of their plugin. -/
def ConfigsValid (tables : PluginTables) : Prop :=
  ∀ plugin ∈ tables.plugins, ∀ version ∈ tables.versions,
    plugin.activeVersionId = some version.id → ValidFor pyStr tables plugin version

/-- No call of the runtime manager in an update of the plugin raises. -/
def RuntimeFaults.NoneFor (faults : RuntimeFaults) (plugin : PluginDefinition) : Prop :=
  faults.disableReload = false ∧ faults.installReload = false ∧
    (plugin.status = .enabled → faults.enableReload = false ∧ faults.runOnce = false)

/-- An update that goes through finds settings that are valid for the new version, and what is
written into settings is valid for the active one. -/
def WritesValid (tables : PluginTables) : PluginRequest → Prop
  | .install _ _ _ => True
  | .update pluginId outcome faults => ∀ plugin ∈ get tables.plugins pluginId,
      faults.NoneFor plugin → ∀ manifest,
        checkInstall pyStr tables (some plugin) outcome = .ok manifest →
          ValidConfig pyStr manifest.configSchema plugin.configJson ∧
            ∀ scope, ∀ config ∈ scopeConfigs scope tables, config.pluginId = pluginId →
              ValidConfig pyStr manifest.userConfigSchema config.configJson
  | .updateConfig pluginId configJson => ∀ plugin ∈ get tables.plugins pluginId,
      (validateConfigPayload pyStr plugin.configSchemaJson configJson "plugin_config").isOk = true →
        ∀ version ∈ tables.versions, plugin.activeVersionId = some version.id →
          ValidConfig pyStr version.metadataJson.configSchema configJson
  | .setEnabled scope pluginId scopeId _ => ∀ plugin ∈ get tables.plugins pluginId,
      (scopeConfigs scope tables).any (isOf pluginId scopeId) = false →
        ∀ version ∈ tables.versions, plugin.activeVersionId = some version.id →
          ValidConfig pyStr version.metadataJson.userConfigSchema plugin.userDefaultConfigJson
  | .updateScopeConfig scope pluginId _ configJson => ∀ plugin ∈ get tables.plugins pluginId,
      (validateConfigPayload pyStr plugin.userConfigSchemaJson configJson scope.location).isOk =
        true → ∀ version ∈ tables.versions, plugin.activeVersionId = some version.id →
          ValidConfig pyStr version.metadataJson.userConfigSchema configJson

/-! ## What every request keeps -/

/-- Primary keys, and what refers to plugins and versions. -/
structure PluginTables.Consistent (tables : PluginTables) : Prop where
  pluginKeys : (tables.plugins.map key).Nodup
  versionKeys : (tables.versions.map key).Nodup
  active : ∀ plugin ∈ tables.plugins, ∀ id ∈ plugin.activeVersionId,
    id ∈ tables.versions.map key
  scopes : ∀ scope, ∀ config ∈ scopeConfigs scope tables,
    config.pluginId ∈ tables.plugins.map key

variable {pyStr} {newId : NewId} {tables tables' : PluginTables} {pluginId scopeId : RowId}
  {plugin : PluginDefinition} {scope : ConfigScope}

lemma scopeConfigs_withScopeConfigs (configs : List PluginScopeConfig) (scope' : ConfigScope) :
    scopeConfigs scope (withScopeConfigs tables configs scope') =
      if scope = scope' then configs else scopeConfigs scope tables := by
  cases scope <;> cases scope' <;> rfl

variable (tables scope) in
lemma withScopeConfigs_plugins (configs : List PluginScopeConfig) :
    (withScopeConfigs tables configs scope).plugins = tables.plugins ∧
      (withScopeConfigs tables configs scope).versions = tables.versions := by
  cases scope <;> exact ⟨rfl, rfl⟩

/-- What an update does to the plugin's row, and whether the new version becomes active. -/
structure Updated (pyStr : ConfigValue → String) (newId : NewId) (tables : PluginTables)
    (plugin : PluginDefinition) (outcome : PackageOutcome) (faults : RuntimeFaults)
    (tables' : PluginTables) (g : PluginDefinition → PluginDefinition) : Prop where
  keeps : ∀ r, (g r).id = r.id ∧ (g r).configJson = r.configJson
  plugins : tables'.plugins = update tables.plugins plugin.id g
  scopes : ∀ scope, scopeConfigs scope tables' = scopeConfigs scope tables
  outcome : (faults.NoneFor plugin ∧ ∃ manifest,
      checkInstall pyStr tables (some plugin) outcome = .ok manifest ∧
        tables'.versions = tables.versions ++ [newVersion newId tables plugin.id manifest] ∧
        (g plugin).activeVersionId = some (newVersion newId tables plugin.id manifest).id) ∨
    (¬ (faults.NoneFor plugin ∧ (checkInstall pyStr tables (some plugin) outcome).isOk = true) ∧
      (tables'.versions = tables.versions ∨ ∃ manifest,
        tables'.versions = tables.versions ++ [newVersion newId tables plugin.id manifest]) ∧
        (g plugin).activeVersionId = plugin.activeVersionId)

lemma scopeConfigs_writePackage (manifest : PluginPackageManifest) (owner : RowId) :
    scopeConfigs scope (writePackage newId tables (some plugin) owner manifest) =
      scopeConfigs scope tables := by
  cases scope
  · exact (writeVersion_configs manifest).1
  · exact (writeVersion_configs manifest).2

/-- The plugin's row when the package has been written over the disabled plugin. -/
def packagedRow (newId : NewId) (tables : PluginTables) (pluginId : RowId)
    (manifest : PluginPackageManifest) (r : PluginDefinition) : PluginDefinition :=
  { PluginDefinition.replaceManifest { r with status := .disabled } manifest with
    activeVersionId := some (newVersion newId tables pluginId manifest).id }

variable (newId tables plugin) in
lemma writePackage_plugins (manifest : PluginPackageManifest) (owner : RowId) :
    (writePackage newId (setStatus tables plugin.id .disabled) (some plugin) owner
      manifest).plugins =
      update tables.plugins plugin.id (packagedRow newId tables plugin.id manifest) := by
  have hdisable := update_update (t := tables.plugins) (k := plugin.id)
    (f := fun r : PluginDefinition => { r with status := .disabled })
    (g := fun r : PluginDefinition => r.replaceManifest manifest) fun _ => rfl
  have hactive := update_update (t := tables.plugins) (k := plugin.id)
    (f := fun r : PluginDefinition =>
      PluginDefinition.replaceManifest { r with status := .disabled } manifest)
    (g := fun r : PluginDefinition => { r with
      activeVersionId := some (newVersion newId tables plugin.id manifest).id }) fun _ => rfl
  refine (writeVersion_plugins manifest).trans (Eq.trans ?_ hactive)
  exact congrArg (update · plugin.id fun r : PluginDefinition => { r with
    activeVersionId := some (newVersion newId tables plugin.id manifest).id }) hdisable

/-- The row when the plugin has been enabled again. -/
def enabledRow (newId : NewId) (tables : PluginTables) (pluginId : RowId)
    (manifest : PluginPackageManifest) (r : PluginDefinition) : PluginDefinition :=
  { packagedRow newId tables pluginId manifest r with status := .enabled }

/-- The row that the handler leaves. -/
def restoredRow (plugin r : PluginDefinition) : PluginDefinition :=
  { r with activeVersionId := plugin.activeVersionId, status := plugin.status }

lemma restorePlugin_plugins {g : PluginDefinition → PluginDefinition} (hg : ∀ r, (g r).id = r.id)
    (hplugins : tables'.plugins = update tables.plugins plugin.id g) :
    (restorePlugin tables' plugin).plugins =
      update tables.plugins plugin.id fun r => restoredRow plugin (g r) := by
  have hrestore := update_update (t := tables.plugins) (k := plugin.id) (f := g)
    (g := restoredRow plugin) hg
  rw [← hplugins] at hrestore
  exact hrestore

variable (pyStr newId) in
lemma updatePlugin_updated (hget : get tables.plugins pluginId = some plugin)
    (outcome : PackageOutcome) (faults : RuntimeFaults) :
    ∃ g, Updated pyStr newId tables plugin outcome faults
      (updatePlugin pyStr newId tables pluginId outcome faults).tables g := by
  obtain rfl : plugin.id = pluginId := key_of_get hget
  rw [updatePlugin, hget]
  have hscopes : ∀ scope manifest, scopeConfigs scope (writePackage newId
      (setStatus tables plugin.id .disabled) (some plugin) "" manifest) =
        scopeConfigs scope tables := by
    intro scope manifest
    rw [scopeConfigs_writePackage]
    cases scope <;> rfl
  cases hdisable : faults.disableReload with
  | true =>
    refine ⟨fun r => { r with status := .disabled }, fun _ => ⟨rfl, rfl⟩, rfl, fun scope => ?_,
      .inr ⟨fun h => ?_, .inl rfl, rfl⟩⟩
    · cases scope <;> rfl
    · exact absurd (hdisable.symm.trans h.1.1) (by decide)
  | false =>
    simp only [Bool.false_eq_true, if_false]
    cases hcheck : checkInstall pyStr tables (some plugin) outcome with
    | error e =>
      have htry : tryUpdate pyStr newId (setStatus tables plugin.id .disabled) plugin outcome
          faults = ⟨setStatus tables plugin.id .disabled, some e⟩ := by
        rw [tryUpdate, checkInstall_setStatus, hcheck]
      rw [htry]
      refine ⟨fun r => restoredRow plugin { r with status := .disabled }, fun _ => ⟨rfl, rfl⟩,
        restorePlugin_plugins (fun _ => rfl) rfl, fun scope => ?_,
        .inr ⟨fun h => ?_, .inl rfl, rfl⟩⟩
      · cases scope <;> rfl
      · rw [hcheck] at h
        cases h.2
    | ok manifest =>
      simp only [tryUpdate, checkInstall_setStatus, hcheck]
      have hplugins := writePackage_plugins newId tables plugin manifest ""
      cases hreload : faults.installReload with
      | true =>
        simp only [if_true]
        refine ⟨fun r => restoredRow plugin (packagedRow newId tables plugin.id manifest r),
          fun _ => ⟨rfl, rfl⟩, restorePlugin_plugins (fun _ => rfl) hplugins, fun scope => ?_,
          .inr ⟨fun h => ?_, .inr ⟨manifest, writeVersion_versions _⟩, rfl⟩⟩
        · exact Eq.trans (by cases scope <;> rfl) (hscopes scope manifest)
        · exact absurd (hreload.symm.trans h.1.2.1) (by decide)
      | false =>
        simp only [Bool.false_eq_true, if_false]
        by_cases henabled : plugin.status = .enabled
        · rw [if_pos henabled]
          have hstatus : (setStatus (writePackage newId (setStatus tables plugin.id .disabled)
              (some plugin) "" manifest) plugin.id .enabled).plugins =
                update tables.plugins plugin.id
                  (enabledRow newId tables plugin.id manifest) := by
            have hupdate := update_update (t := tables.plugins) (k := plugin.id)
              (f := packagedRow newId tables plugin.id manifest)
              (g := fun r : PluginDefinition => { r with status := .enabled }) fun _ => rfl
            rw [← hplugins] at hupdate
            exact hupdate
          have hkept : ∀ scope, scopeConfigs scope (setStatus (writePackage newId
              (setStatus tables plugin.id .disabled) (some plugin) "" manifest) plugin.id
                .enabled) = scopeConfigs scope tables := fun scope =>
            Eq.trans (by cases scope <;> rfl) (hscopes scope manifest)
          cases hlate : (faults.enableReload || faults.runOnce) with
          | true =>
            simp only [if_true]
            refine ⟨fun r => restoredRow plugin
              (enabledRow newId tables plugin.id manifest r),
              fun _ => ⟨rfl, rfl⟩, restorePlugin_plugins (fun _ => rfl) hstatus,
              fun scope => Eq.trans (by cases scope <;> rfl) (hkept scope),
              .inr ⟨fun h => ?_, .inr ⟨manifest, writeVersion_versions _⟩, rfl⟩⟩
            obtain ⟨henable, hrun⟩ := h.1.2.2 henabled
            rw [henable, hrun] at hlate
            cases hlate
          | false =>
            obtain ⟨henable, hrun⟩ := Bool.or_eq_false_iff.mp hlate
            exact ⟨enabledRow newId tables plugin.id manifest, fun _ => ⟨rfl, rfl⟩,
              hstatus, hkept,
              .inl ⟨⟨hdisable, hreload, fun _ => ⟨henable, hrun⟩⟩, manifest, hcheck,
                writeVersion_versions _, rfl⟩⟩
        · rw [if_neg henabled]
          refine ⟨packagedRow newId tables plugin.id manifest, fun _ => ⟨rfl, rfl⟩, hplugins,
            fun scope => hscopes scope manifest,
            .inl ⟨⟨hdisable, hreload, fun h => absurd h henabled⟩,
              manifest, hcheck, writeVersion_versions _, rfl⟩⟩

/-! ## Updates -/

section Update

variable {outcome : PackageOutcome} {faults : RuntimeFaults}
  {g : PluginDefinition → PluginDefinition}

variable (newId tables pluginId) in
lemma newVersion_fresh (manifest : PluginPackageManifest) :
    (newVersion newId tables pluginId manifest).id ∉ tables.versions.map key :=
  newId.draw_notMem _

lemma Updated.versions_subset (h : Updated pyStr newId tables plugin outcome faults tables' g) :
    ∀ version ∈ tables.versions, version ∈ tables'.versions := by
  intro version hversion
  rcases h.outcome with ⟨-, manifest, -, heq, -⟩ | ⟨-, heq | ⟨manifest, heq⟩, -⟩ <;> rw [heq]
  · exact List.mem_append_left _ hversion
  · exact hversion
  · exact List.mem_append_left _ hversion

lemma Updated.consistent (h : Updated pyStr newId tables plugin outcome faults tables' g)
    (hc : tables.Consistent) (hplugin : plugin ∈ tables.plugins) : tables'.Consistent := by
  have hkeys : tables'.plugins.map key = tables.plugins.map key := by
    rw [h.plugins, map_key_update fun r => (h.keeps r).1]
  have hconcat : ∀ manifest, ((tables.versions ++ [newVersion newId tables plugin.id manifest]).map
      key).Nodup := by
    intro manifest
    rw [List.map_append, List.map_singleton, ← List.concat_eq_append]
    exact hc.versionKeys.concat (newVersion_fresh newId tables _ manifest)
  have hversions : ∀ id ∈ tables.versions.map key, id ∈ tables'.versions.map key := by
    intro id hid
    obtain ⟨version, hversion, rfl⟩ := List.mem_map.mp hid
    exact List.mem_map_of_mem (h.versions_subset version hversion)
  refine ⟨hkeys ▸ hc.pluginKeys, ?_, fun p' hp' id hid => ?_, fun scope config hconfig => ?_⟩
  · rcases h.outcome with ⟨-, manifest, -, heq, -⟩ | ⟨-, heq | ⟨manifest, heq⟩, -⟩ <;> rw [heq]
    · exact hconcat manifest
    · exact hc.versionKeys
    · exact hconcat manifest
  · rw [h.plugins] at hp'
    rcases mem_update.mp hp' with ⟨r, hr, hkey, rfl⟩ | ⟨hp', -⟩
    · obtain rfl : r = plugin := List.inj_on_of_nodup_map hc.pluginKeys hr hplugin hkey
      rcases h.outcome with ⟨-, manifest, -, heq, hactive⟩ | ⟨-, -, hactive⟩
      · rw [hactive, Option.mem_some_iff] at hid
        rw [heq, List.map_append, List.mem_append, ← hid]
        exact .inr (List.mem_singleton_self _)
      · exact hversions id (hc.active r hr id (hactive ▸ hid))
    · exact hversions id (hc.active p' hp' id hid)
  · rw [h.scopes] at hconfig
    exact hkeys ▸ hc.scopes scope config hconfig

lemma Updated.validFor (h : Updated pyStr newId tables plugin outcome faults tables' g)
    {r r' : PluginDefinition} {version : PluginVersion}
    (hr : r'.id = r.id ∧ r'.configJson = r.configJson)
    (hvalid : ValidFor pyStr tables r version) : ValidFor pyStr tables' r' version := by
  refine ⟨hr.2 ▸ hvalid.own, fun scope config hconfig hid => ?_⟩
  rw [h.scopes] at hconfig
  exact hvalid.scopes scope config hconfig (hid.trans hr.1)

lemma Updated.configsValid_iff (h : Updated pyStr newId tables plugin outcome faults tables' g)
    (hc : tables.Consistent) (hplugin : plugin ∈ tables.plugins)
    (hvalid : ConfigsValid pyStr tables) : ConfigsValid pyStr tables' ↔
      (faults.NoneFor plugin → ∀ manifest,
        checkInstall pyStr tables (some plugin) outcome = .ok manifest →
          ValidConfig pyStr manifest.configSchema plugin.configJson ∧
            ∀ scope, ∀ config ∈ scopeConfigs scope tables, config.pluginId = plugin.id →
              ValidConfig pyStr manifest.userConfigSchema config.configJson) := by
  have hnew : g plugin ∈ tables'.plugins := by
    rw [h.plugins]
    exact mem_update.mpr (.inl ⟨plugin, hplugin, rfl, rfl⟩)
  -- an old version that is active was so before
  have hold : ∀ p' ∈ tables'.plugins, ∀ version ∈ tables.versions,
      p'.activeVersionId = some version.id → (p' = g plugin →
        plugin.activeVersionId = some version.id) → ValidFor pyStr tables' p' version := by
    intro p' hp' version hversion hactive hsame
    rw [h.plugins] at hp'
    rcases mem_update.mp hp' with ⟨r, hr, hkey, rfl⟩ | ⟨hp', -⟩
    · obtain rfl : r = plugin := List.inj_on_of_nodup_map hc.pluginKeys hr hplugin hkey
      exact h.validFor (h.keeps r) (hvalid r hr version hversion (hsame rfl))
    · exact h.validFor ⟨rfl, rfl⟩ (hvalid p' hp' version hversion hactive)
  rcases h.outcome with ⟨hnone, manifest, hcheck, hversions, hactive⟩ |
    ⟨hfails, hversions, hactive⟩
  · have hfresh := newVersion_fresh newId tables plugin.id manifest
    constructor
    · intro hvalid' _ manifest' hcheck'
      obtain rfl : manifest = manifest' := Except.ok.inj (hcheck.symm.trans hcheck')
      have hfor := hvalid' _ hnew (newVersion newId tables plugin.id manifest)
        (by rw [hversions]; exact List.mem_append_right _ (List.mem_singleton_self _)) hactive
      refine ⟨(h.keeps plugin).2 ▸ hfor.own, fun scope config hconfig hid => ?_⟩
      exact hfor.scopes scope config ((h.scopes scope).symm ▸ hconfig)
        (hid.trans (h.keeps plugin).1.symm)
    · intro hok p' hp' version hversion hactive'
      obtain ⟨hown, hscopes⟩ := hok hnone manifest hcheck
      rw [hversions, List.mem_append, List.mem_singleton] at hversion
      rcases hversion with hversion | rfl
      · refine hold p' hp' version hversion hactive' fun heq => ?_
        rw [heq, hactive] at hactive'
        exact absurd (List.mem_map.mpr ⟨version, hversion, (Option.some.inj hactive').symm⟩) hfresh
      · rw [h.plugins] at hp'
        rcases mem_update.mp hp' with ⟨r, hr, hkey, rfl⟩ | ⟨hp', -⟩
        · obtain rfl : r = plugin := List.inj_on_of_nodup_map hc.pluginKeys hr hplugin hkey
          refine ⟨(h.keeps r).2.symm ▸ hown, fun scope config hconfig hid => ?_⟩
          rw [h.scopes] at hconfig
          exact hscopes scope config hconfig (hid.trans (h.keeps r).1)
        · exact absurd (hc.active p' hp' _ hactive') hfresh
  · refine iff_of_true (fun p' hp' version hversion hactive' => ?_) fun hnone manifest hcheck =>
      absurd ⟨hnone, by rw [hcheck]; rfl⟩ hfails
    have hmem : version ∈ tables.versions := by
      rcases hversions with heq | ⟨manifest, heq⟩
      · rwa [heq] at hversion
      rw [heq, List.mem_append, List.mem_singleton] at hversion
      refine hversion.resolve_right ?_
      rintro rfl
      -- nobody has the version that was taken back
      rw [h.plugins] at hp'
      have hfresh := newVersion_fresh newId tables plugin.id manifest
      rcases mem_update.mp hp' with ⟨r, hr, hkey, rfl⟩ | ⟨hp', -⟩
      · obtain rfl : r = plugin := List.inj_on_of_nodup_map hc.pluginKeys hr hplugin hkey
        exact hfresh (hc.active r hr _ (hactive.symm.trans hactive'))
      · exact hfresh (hc.active p' hp' _ hactive')
    refine hold p' hp' version hmem hactive' fun heq => ?_
    rw [heq] at hactive'
    exact hactive.symm.trans hactive'

end Update

/-! ## Installations -/

lemma checkInstall_defaults {existingPlugin : Option PluginDefinition} {outcome : PackageOutcome}
    {manifest : PluginPackageManifest}
    (h : checkInstall pyStr tables existingPlugin outcome = .ok manifest) :
    ValidConfig pyStr manifest.configSchema manifest.defaultConfig ∧
      ValidConfig pyStr manifest.userConfigSchema manifest.userDefaultConfig := by
  have hvalid : ∀ {schema payload : ConfigDict} {location : String},
      validateConfigPayload pyStr schema payload location = .ok () →
        ValidConfig pyStr schema payload := by
    intro schema payload location hok
    rw [ValidConfig, isOk_validate_location _ _ "$" location]
    unfold validateConfigPayload at hok
    split at hok
    · rename_i heq
      rw [heq]
      rfl
    · cases hok
  obtain ⟨manifest₁, hpackage, hrest⟩ := except_bind_eq_ok.mp h
  obtain ⟨-, -, hrest⟩ := except_bind_eq_ok.mp hrest
  obtain ⟨-, -, hrest⟩ := except_bind_eq_ok.mp hrest
  cases hrest
  obtain ⟨manifest₂, -, hrest⟩ := except_bind_eq_ok.mp hpackage
  obtain ⟨-, -, hrest⟩ := except_bind_eq_ok.mp hrest
  obtain ⟨-, -, hrest⟩ := except_bind_eq_ok.mp hrest
  obtain ⟨-, -, hrest⟩ := except_bind_eq_ok.mp hrest
  obtain ⟨-, -, hrest⟩ := except_bind_eq_ok.mp hrest
  obtain ⟨⟨⟩, hconfig, hrest⟩ := except_bind_eq_ok.mp hrest
  obtain ⟨⟨⟩, huser, hrest⟩ := except_bind_eq_ok.mp hrest
  cases hrest
  exact ⟨hvalid hconfig, hvalid huser⟩

/-- What an installation that is not refused writes. -/
structure Installed (newId : NewId) (tables : PluginTables) (manifest : PluginPackageManifest)
    (tables' : PluginTables) (row : PluginDefinition) : Prop where
  fresh : row.id ∉ tables.plugins.map key
  config : row.configJson = manifest.defaultConfig
  plugins : tables'.plugins = tables.plugins ++ [row]
  versions : tables'.versions = tables.versions ++ [newVersion newId tables row.id manifest]
  active : row.activeVersionId = some (newVersion newId tables row.id manifest).id
  scopes : ∀ scope, scopeConfigs scope tables' = scopeConfigs scope tables

variable (newId tables) in
lemma writePackage_installed (ownerUserId : RowId) (manifest : PluginPackageManifest) :
    ∃ row, Installed newId tables manifest
      (writePackage newId tables none ownerUserId manifest) row := by
  have hfresh : (newPlugin newId tables ownerUserId manifest).id ∉ tables.plugins.map key :=
    newId.draw_notMem _
  refine ⟨{ newPlugin newId tables ownerUserId manifest with
    activeVersionId := some (newVersion newId tables
      (newPlugin newId tables ownerUserId manifest).id manifest).id }, hfresh, rfl, ?_,
    writeVersion_versions _, rfl, fun scope => ?_⟩
  · refine (writeVersion_plugins manifest).trans ?_
    rw [update, List.map_append, List.map_singleton, if_pos (key_pluginDefinition _)]
    exact congrArg (· ++ [_]) (update_of_notMem hfresh)
  · cases scope
    · exact (writeVersion_configs manifest).1
    · exact (writeVersion_configs manifest).2

section Install

variable {manifest : PluginPackageManifest} {row : PluginDefinition}

lemma Installed.consistent (h : Installed newId tables manifest tables' row)
    (hc : tables.Consistent) : tables'.Consistent := by
  have hversions : ∀ id ∈ tables.versions.map key, id ∈ tables'.versions.map key := by
    intro id hid
    rw [h.versions, List.map_append]
    exact List.mem_append_left _ hid
  refine ⟨?_, ?_, fun p' hp' id hid => ?_, fun scope config hconfig => ?_⟩
  · rw [h.plugins, List.map_append, List.map_singleton, ← List.concat_eq_append]
    exact hc.pluginKeys.concat h.fresh
  · rw [h.versions, List.map_append, List.map_singleton, ← List.concat_eq_append]
    exact hc.versionKeys.concat (newVersion_fresh newId tables _ manifest)
  · rw [h.plugins, List.mem_append, List.mem_singleton] at hp'
    rcases hp' with hp' | rfl
    · exact hversions id (hc.active p' hp' id hid)
    · rw [h.active, Option.mem_some_iff] at hid
      rw [h.versions, List.map_append, List.mem_append, ← hid]
      exact .inr (List.mem_singleton_self _)
  · rw [h.scopes] at hconfig
    rw [h.plugins, List.map_append]
    exact List.mem_append_left _ (hc.scopes scope config hconfig)

lemma Installed.configsValid (h : Installed newId tables manifest tables' row)
    (hc : tables.Consistent)
    (hdefault : ValidConfig pyStr manifest.configSchema manifest.defaultConfig)
    (hvalid : ConfigsValid pyStr tables) : ConfigsValid pyStr tables' := by
  have hfresh := newVersion_fresh newId tables row.id manifest
  intro p' hp' version hversion hactive
  rw [h.plugins, List.mem_append, List.mem_singleton] at hp'
  rw [h.versions, List.mem_append, List.mem_singleton] at hversion
  rcases hp' with hp' | rfl
  · rcases hversion with hversion | rfl
    · obtain ⟨hown, hscopes⟩ := hvalid p' hp' version hversion hactive
      exact ⟨hown, fun scope config hconfig => hscopes scope config (h.scopes scope ▸ hconfig)⟩
    · exact absurd (hc.active p' hp' _ hactive) hfresh
  · rcases hversion with hversion | rfl
    · rw [h.active] at hactive
      exact absurd (List.mem_map.mpr ⟨version, hversion, (Option.some.inj hactive).symm⟩) hfresh
    · refine ⟨h.config ▸ hdefault, fun scope config hconfig hid => ?_⟩
      rw [h.scopes] at hconfig
      exact absurd (hid ▸ hc.scopes scope config hconfig) h.fresh

end Install

/-! ## Edits -/

lemma consistent_withScopeConfigs (hc : tables.Consistent) {configs : List PluginScopeConfig}
    (hconfigs : ∀ config ∈ configs, config.pluginId ∈ tables.plugins.map key) :
    (withScopeConfigs tables configs scope).Consistent := by
  obtain ⟨hplugins, hversions⟩ := withScopeConfigs_plugins tables scope configs
  refine ⟨hplugins ▸ hc.pluginKeys, hversions ▸ hc.versionKeys, ?_, fun scope' config hconfig => ?_⟩
  · rw [hplugins, hversions]
    exact hc.active
  · rw [scopeConfigs_withScopeConfigs] at hconfig
    rw [hplugins]
    split at hconfig
    · exact hconfigs config hconfig
    · exact hc.scopes scope' config hconfig

lemma configsValid_withScopeConfigs_iff (hvalid : ConfigsValid pyStr tables)
    {configs : List PluginScopeConfig} :
    ConfigsValid pyStr (withScopeConfigs tables configs scope) ↔
      ∀ plugin ∈ tables.plugins, ∀ version ∈ tables.versions,
        plugin.activeVersionId = some version.id → ∀ config ∈ configs,
          config.pluginId = plugin.id →
            ValidConfig pyStr version.metadataJson.userConfigSchema config.configJson := by
  obtain ⟨hplugins, hversions⟩ := withScopeConfigs_plugins tables scope configs
  unfold ConfigsValid
  rw [hplugins, hversions]
  refine forall₂_congr fun p hp => forall₂_congr fun version hversion =>
    forall_congr' fun hactive =>
    ⟨fun h config hconfig => ?_, fun h => ⟨(hvalid p hp version hversion hactive).own, ?_⟩⟩
  · refine h.scopes scope config ?_
    rwa [scopeConfigs_withScopeConfigs, if_pos rfl]
  · intro scope' config hconfig
    rw [scopeConfigs_withScopeConfigs] at hconfig
    split at hconfig
    · exact h config hconfig
    · exact (hvalid p hp version hversion hactive).scopes scope' config hconfig

lemma isOf_eq_true {config : PluginScopeConfig} :
    isOf pluginId scopeId config = true ↔
      config.pluginId = pluginId ∧ config.scopeId = scopeId := by
  simp [isOf]

/-- The settings of a scope after its row has been made sure of and written to. -/
def writtenConfigs (scope : ConfigScope) (tables : PluginTables) (plugin : PluginDefinition)
    (scopeId : RowId) (f : PluginScopeConfig → PluginScopeConfig) : List PluginScopeConfig :=
  (scopeConfigs scope (ensureScopeConfig scope tables plugin scopeId)).map fun config =>
    if isOf plugin.id scopeId config then f config else config

variable (tables plugin scope scopeId) in
lemma writeScopeConfig_ensure (f : PluginScopeConfig → PluginScopeConfig) :
    writeScopeConfig scope (ensureScopeConfig scope tables plugin scopeId) plugin.id scopeId f =
      withScopeConfigs tables (writtenConfigs scope tables plugin scopeId f) scope := by
  unfold writeScopeConfig writtenConfigs ensureScopeConfig
  split
  · rfl
  · cases scope <;> rfl

lemma mem_ensureScopeConfig {config : PluginScopeConfig} :
    config ∈ scopeConfigs scope (ensureScopeConfig scope tables plugin scopeId) ↔
      config ∈ scopeConfigs scope tables ∨
        ((scopeConfigs scope tables).any (isOf plugin.id scopeId) = false ∧
          config = { pluginId := plugin.id, scopeId := scopeId,
                     configJson := plugin.userDefaultConfigJson }) := by
  unfold ensureScopeConfig
  split
  · rename_i hany
    rw [hany]
    simp
  · rename_i hany
    rw [Bool.not_eq_true] at hany
    rw [scopeConfigs_withScopeConfigs, if_pos rfl, List.mem_append, List.mem_singleton, hany]
    simp

variable (tables scope plugin scopeId) in
lemma exists_ensureScopeConfig : ∃ config ∈ scopeConfigs scope
    (ensureScopeConfig scope tables plugin scopeId), isOf plugin.id scopeId config = true := by
  cases hany : (scopeConfigs scope tables).any (isOf plugin.id scopeId) with
  | true =>
    obtain ⟨config, hmem, hof⟩ := List.any_eq_true.mp hany
    exact ⟨config, mem_ensureScopeConfig.mpr (.inl hmem), hof⟩
  | false =>
    exact ⟨_, mem_ensureScopeConfig.mpr (.inr ⟨hany, rfl⟩), isOf_eq_true.mpr ⟨rfl, rfl⟩⟩

lemma writtenConfigs_refer (hc : tables.Consistent) (hplugin : plugin ∈ tables.plugins)
    {f : PluginScopeConfig → PluginScopeConfig}
    (hf : ∀ config, (f config).pluginId = config.pluginId) :
    ∀ config ∈ writtenConfigs scope tables plugin scopeId f,
      config.pluginId ∈ tables.plugins.map key := by
  intro config hconfig
  obtain ⟨old, hold, rfl⟩ := List.mem_map.mp hconfig
  have hrefers : old.pluginId ∈ tables.plugins.map key := by
    rcases mem_ensureScopeConfig.mp hold with hold | ⟨-, rfl⟩
    · exact hc.scopes scope old hold
    · exact List.mem_map_of_mem hplugin
  split
  · rwa [hf]
  · exact hrefers

lemma configsValid_setEnabled_iff (hc : tables.Consistent) (hplugin : plugin ∈ tables.plugins)
    (hvalid : ConfigsValid pyStr tables) (enabled : Option Bool) :
    ConfigsValid pyStr (withScopeConfigs tables (writtenConfigs scope tables plugin scopeId
        fun config => { config with isEnabled := enabled.getD config.isEnabled }) scope) ↔
      ((scopeConfigs scope tables).any (isOf plugin.id scopeId) = false →
        ∀ version ∈ tables.versions, plugin.activeVersionId = some version.id →
          ValidConfig pyStr version.metadataJson.userConfigSchema
            plugin.userDefaultConfigJson) := by
  rw [configsValid_withScopeConfigs_iff hvalid]
  constructor
  · intro h hany version hversion hactive
    refine h plugin hplugin version hversion hactive
      { pluginId := plugin.id, scopeId := scopeId, isEnabled := enabled.getD true,
        configJson := plugin.userDefaultConfigJson } (List.mem_map.mpr ⟨_,
          mem_ensureScopeConfig.mpr (.inr ⟨hany, rfl⟩), ?_⟩) rfl
    exact if_pos (isOf_eq_true.mpr ⟨rfl, rfl⟩)
  · intro h p hp version hversion hactive config hconfig hid
    obtain ⟨old, hold, rfl⟩ := List.mem_map.mp hconfig
    have hsame : ∀ {config' : PluginScopeConfig}, config' = (if isOf plugin.id scopeId old then
        { old with isEnabled := enabled.getD old.isEnabled } else old) →
          config'.configJson = old.configJson ∧ config'.pluginId = old.pluginId := by
      rintro config' rfl
      split <;> exact ⟨rfl, rfl⟩
    rw [(hsame rfl).1]
    rw [(hsame rfl).2] at hid
    rcases mem_ensureScopeConfig.mp hold with hold | ⟨hany, rfl⟩
    · exact (hvalid p hp version hversion hactive).scopes scope old hold hid
    · obtain rfl : plugin = p := List.inj_on_of_nodup_map hc.pluginKeys hplugin hp hid
      exact h hany version hversion hactive

lemma configsValid_updateScopeConfig_iff (hc : tables.Consistent)
    (hplugin : plugin ∈ tables.plugins) (hvalid : ConfigsValid pyStr tables)
    (configJson : ConfigDict) :
    ConfigsValid pyStr (withScopeConfigs tables (writtenConfigs scope tables plugin scopeId
        fun config => { config with configJson := configJson }) scope) ↔
      ∀ version ∈ tables.versions, plugin.activeVersionId = some version.id →
        ValidConfig pyStr version.metadataJson.userConfigSchema configJson := by
  rw [configsValid_withScopeConfigs_iff hvalid]
  constructor
  · intro h version hversion hactive
    obtain ⟨old, hold, hof⟩ := exists_ensureScopeConfig tables scopeId plugin scope
    refine h plugin hplugin version hversion hactive { old with configJson := configJson }
      (List.mem_map.mpr ⟨old, hold, if_pos hof⟩) (isOf_eq_true.mp hof).1
  · intro h p hp version hversion hactive config hconfig hid
    obtain ⟨old, hold, rfl⟩ := List.mem_map.mp hconfig
    by_cases hof : isOf plugin.id scopeId old = true
    · rw [if_pos hof] at hid ⊢
      obtain rfl : plugin = p := List.inj_on_of_nodup_map hc.pluginKeys hplugin hp
        ((isOf_eq_true.mp hof).1.symm.trans hid)
      exact h version hversion hactive
    · rw [if_neg hof] at hid ⊢
      rcases mem_ensureScopeConfig.mp hold with hold | ⟨-, rfl⟩
      · exact (hvalid p hp version hversion hactive).scopes scope old hold hid
      · exact absurd (isOf_eq_true.mpr ⟨rfl, rfl⟩) hof

/-- The plugin's own settings are replaced. -/
def withOwnConfig (tables : PluginTables) (pluginId : RowId) (configJson : ConfigDict) :
    PluginTables :=
  { tables with plugins := update tables.plugins pluginId fun plugin =>
      { plugin with configJson := configJson } }

lemma consistent_withOwnConfig (hc : tables.Consistent) (configJson : ConfigDict) :
    (withOwnConfig tables pluginId configJson).Consistent := by
  have hkeys : (withOwnConfig tables pluginId configJson).plugins.map key =
      tables.plugins.map key :=
    map_key_update (f := fun plugin : PluginDefinition => { plugin with configJson := configJson })
      fun _ => rfl
  refine ⟨hkeys ▸ hc.pluginKeys, hc.versionKeys, fun p' hp' id hid => ?_,
    fun scope config hconfig =>
    ?_⟩
  · rcases mem_update.mp hp' with ⟨r, hr, -, rfl⟩ | ⟨hp', -⟩
    · exact hc.active r hr id hid
    · exact hc.active p' hp' id hid
  · rw [hkeys]
    exact hc.scopes scope config (by cases scope <;> exact hconfig)

lemma configsValid_withOwnConfig_iff (hc : tables.Consistent) (hplugin : plugin ∈ tables.plugins)
    (hvalid : ConfigsValid pyStr tables) (configJson : ConfigDict) :
    ConfigsValid pyStr (withOwnConfig tables plugin.id configJson) ↔
      ∀ version ∈ tables.versions, plugin.activeVersionId = some version.id →
        ValidConfig pyStr version.metadataJson.configSchema configJson := by
  constructor
  · intro h version hversion hactive
    exact (h { plugin with configJson := configJson }
      (mem_update.mpr (.inl ⟨plugin, hplugin, rfl, rfl⟩)) version hversion hactive).own
  · intro h p' hp' version hversion hactive
    have hscopes : ∀ scope, scopeConfigs scope (withOwnConfig tables plugin.id configJson) =
        scopeConfigs scope tables := fun scope => by cases scope <;> rfl
    rcases mem_update.mp hp' with ⟨r, hr, hkey, rfl⟩ | ⟨hp', -⟩
    · obtain rfl : r = plugin := List.inj_on_of_nodup_map hc.pluginKeys hr hplugin hkey
      refine ⟨h version hversion hactive, fun scope config hconfig hid => ?_⟩
      rw [hscopes] at hconfig
      exact (hvalid r hr version hversion hactive).scopes scope config hconfig hid
    · obtain ⟨hown, hold⟩ := hvalid p' hp' version hversion hactive
      exact ⟨hown, fun scope config hconfig => hold scope config (hscopes scope ▸ hconfig)⟩

/-! ## Steps -/

lemma pluginStep_valid {e : PluginRequest} (hc : tables.Consistent)
    (h : pluginStep pyStr newId tables e = some tables') :
    tables'.Consistent ∧ (ConfigsValid pyStr tables →
      (ConfigsValid pyStr tables' ↔ WritesValid pyStr tables e)) := by
  cases e with
  | install ownerUserId outcome faults =>
    cases h
    rw [installPlugin]
    cases hcheck : checkInstall pyStr tables none outcome with
    | error e => exact ⟨hc, fun hvalid => iff_of_true hvalid trivial⟩
    | ok manifest =>
      obtain ⟨row, hrow⟩ := writePackage_installed newId tables ownerUserId manifest
      exact ⟨hrow.consistent hc, fun hvalid => iff_of_true
        (hrow.configsValid hc (checkInstall_defaults hcheck).1 hvalid) trivial⟩
  | update pluginId outcome faults =>
    cases h
    cases hget : get tables.plugins pluginId with
    | none =>
      rw [updatePlugin, hget]
      exact ⟨hc, fun hvalid => iff_of_true hvalid fun plugin hplugin => by
        rw [hget] at hplugin
        cases hplugin⟩
    | some plugin =>
      obtain ⟨g, hg⟩ := updatePlugin_updated pyStr newId hget outcome faults
      have hmem := mem_of_get hget
      obtain rfl : plugin.id = pluginId := key_of_get hget
      refine ⟨hg.consistent hc hmem, fun hvalid =>
        (hg.configsValid_iff hc hmem hvalid).trans ?_⟩
      simp only [WritesValid, hget, Option.mem_def, Option.some.injEq, forall_eq']
  | updateConfig pluginId configJson =>
    simp only [pluginStep, updatePluginConfig, Option.some.injEq] at h
    simp only [WritesValid, Option.mem_def]
    cases hget : get tables.plugins pluginId with
    | none =>
      rw [hget] at h
      cases h
      exact ⟨hc, fun hvalid => iff_of_true hvalid fun plugin hplugin => by cases hplugin⟩
    | some plugin =>
      rw [hget] at h
      dsimp only at h
      have hmem := mem_of_get hget
      obtain rfl : plugin.id = pluginId := key_of_get hget
      simp only [Option.some.injEq, forall_eq']
      cases hcheck : validateConfigPayload pyStr plugin.configSchemaJson configJson
          "plugin_config" with
      | error e =>
        rw [hcheck] at h
        cases h
        exact ⟨hc, fun hvalid => iff_of_true hvalid fun hok => by cases hok⟩
      | ok =>
        rw [hcheck] at h
        cases h
        refine ⟨consistent_withOwnConfig hc configJson, fun hvalid =>
          (configsValid_withOwnConfig_iff hc hmem hvalid configJson).trans ?_⟩
        exact ⟨fun h _ => h, fun h => h rfl⟩
  | setEnabled scope pluginId scopeId enabled =>
    simp only [pluginStep, setScopeEnabled, Option.some.injEq] at h
    simp only [WritesValid, Option.mem_def]
    cases hget : get tables.plugins pluginId with
    | none =>
      rw [hget] at h
      cases h
      exact ⟨hc, fun hvalid => iff_of_true hvalid fun plugin hplugin => by cases hplugin⟩
    | some plugin =>
      rw [hget] at h
      dsimp only at h
      have hmem := mem_of_get hget
      obtain rfl : plugin.id = pluginId := key_of_get hget
      cases h
      simp only [Option.some.injEq, forall_eq', Except.toOption, Option.getD_some]
      rw [writeScopeConfig_ensure]
      exact ⟨consistent_withScopeConfigs hc (writtenConfigs_refer hc hmem fun _ => rfl),
        fun hvalid => configsValid_setEnabled_iff hc hmem hvalid enabled⟩
  | updateScopeConfig scope pluginId scopeId configJson =>
    simp only [pluginStep, updateScopeConfig, Option.some.injEq] at h
    simp only [WritesValid, Option.mem_def]
    cases hget : get tables.plugins pluginId with
    | none =>
      rw [hget] at h
      cases h
      exact ⟨hc, fun hvalid => iff_of_true hvalid fun plugin hplugin => by cases hplugin⟩
    | some plugin =>
      rw [hget] at h
      dsimp only at h
      have hmem := mem_of_get hget
      obtain rfl : plugin.id = pluginId := key_of_get hget
      simp only [Option.some.injEq, forall_eq']
      cases hcheck : validateConfigPayload pyStr plugin.userConfigSchemaJson configJson
          scope.location with
      | error e =>
        rw [hcheck] at h
        cases h
        exact ⟨hc, fun hvalid => iff_of_true hvalid fun hok => by cases hok⟩
      | ok =>
        rw [hcheck] at h
        cases h
        have hwritten := writeScopeConfig_ensure tables scopeId plugin scope
          fun config => { config with configJson := configJson }
        refine ⟨?_, fun hvalid => ?_⟩
        · exact hwritten ▸ consistent_withScopeConfigs hc
            (writtenConfigs_refer hc hmem fun _ => rfl)
        · refine Iff.trans (Iff.of_eq (congrArg _ hwritten))
            ((configsValid_updateScopeConfig_iff hc hmem hvalid configJson).trans ?_)
          exact ⟨fun h _ => h, fun h => h rfl⟩

/-! ## Runs -/

lemma pluginRun_isSome (pyStr : ConfigValue → String) (newId : NewId) (tables : PluginTables)
    (events : List PluginRequest) :
    ∃ tables', run (pluginStep pyStr newId) tables events = some tables' := by
  induction events generalizing tables with
  | nil => exact ⟨tables, rfl⟩
  | cons e events ih =>
    have hstep : ∃ m, pluginStep pyStr newId tables e = some m := by
      cases e <;> exact ⟨_, rfl⟩
    obtain ⟨m, hm⟩ := hstep
    obtain ⟨tables', hrun⟩ := ih m
    exact ⟨tables', run_cons_eq_some.mpr ⟨m, hm, hrun⟩⟩

lemma consistent_noPlugins : PluginTables.Consistent {} where
  pluginKeys := List.nodup_nil
  versionKeys := List.nodup_nil
  active _ h := by cases h
  scopes scope _ h := by cases scope <;> cases h

/-- The stored settings are valid for the active versions throughout exactly the runs in which
every update that goes through finds settings that are valid for the new version, and whatever is
written is valid for the active one. -/
theorem configsValid_iff_writesValid (pyStr : ConfigValue → String) (newId : NewId)
    (events : List PluginRequest) :
    AllStates (pluginStep pyStr newId) (ConfigsValid pyStr) {} events ↔
      StepsMeet (pluginStep pyStr newId) (WritesValid pyStr) {} events := by
  constructor
  · intro h
    obtain ⟨tables', hrun⟩ := pluginRun_isSome pyStr newId {} events
    exact stepsMeet_of_allStates PluginTables.Consistent
      (fun s e s' hc hs => (pluginStep_valid hc hs).1)
      (fun s e s' hc hvalid hs => ((pluginStep_valid hc hs).2 hvalid).mp) consistent_noPlugins
      hrun h
  · intro h
    exact allStates_of_stepsMeet (fun s => s.Consistent ∧ ConfigsValid pyStr s)
      (fun s e s' hs hok h => ⟨(pluginStep_valid hs.1 h).1,
        ((pluginStep_valid hs.1 h).2 hs.2).mpr hok⟩) (fun s hs => hs.2)
      ⟨consistent_noPlugins, fun _ h => by cases h⟩ h

/-! ## A schema that changes -/

/-- A plugin whose port has the type. -/
def portManifest (version : String) (type : String) (port : ConfigValue) :
    PluginPackageManifest where
  name := "relay"
  version := version
  displayName := "Relay"
  pluginType := "external"
  entryModule := "relay"
  configSchema := [("type", .str "object"),
    ("properties", .dict [("port", .dict [("type", .str type)])])]
  defaultConfig := [("port", port)]

/-- The plugin is installed, and updated to a version that wants the port as a text. -/
def portBecomesText : List PluginRequest :=
  [.install "admin" { upload := .package (portManifest "1" "integer" (.int 80)) } {},
    .update "x" { upload := .package (portManifest "2" "string" (.str "80")) } {}]

/-- The update goes through and the stored port stays a number. -/
theorem portBecomesText_invalid :
    ¬ AllStates (pluginStep (fun _ => "") .longer) (ConfigsValid fun _ => "") {}
      portBecomesText := by
  intro h
  obtain ⟨tables', hrun⟩ := pluginRun_isSome (fun _ => "") .longer {} portBecomesText
  have hvalid := h.last hrun
  have hlast : tables' = (run (pluginStep (fun _ => "") .longer) {} portBecomesText).getD {} := by
    rw [hrun]
    rfl
  have hown : ∀ plugin ∈ tables'.plugins, ∀ version ∈ tables'.versions,
      plugin.activeVersionId = some version.id →
        ValidConfig (fun _ => "") version.metadataJson.configSchema plugin.configJson :=
    fun plugin hplugin version hversion hactive =>
      (hvalid plugin hplugin version hversion hactive).own
  rw [hlast] at hown
  exact absurd hown (by decide +kernel)

end CocoonSit
