import CocoonSit.Model.Accounts
import CocoonSit.Model.Queries
import CocoonSit.Plugins.ConfigSchema

/-!
# Installing and updating plugins

A plugin is installed from a zip file, and updated from another one.  An update commits in several
places: the plugin is disabled, its row and version rows are written, and it is enabled again; and
after each commit the plugin's process is stopped or started, which may fail.  What the upload, the
dependency installation and the processes do is given with the request.
-/

namespace CocoonSit

open Table

/-! ## Rows -/

inductive PluginStatus where
  | enabled
  | disabled
deriving DecidableEq

structure PluginEventManifest where
  name : String
  mode : String
  functionName : String
  title : String
  description : String
  configSchema : ConfigDict := []
  defaultConfig : ConfigDict := []

structure PluginPackageManifest where
  name : String
  version : String
  displayName : String
  pluginType : String
  entryModule : String
  configSchema : ConfigDict := []
  defaultConfig : ConfigDict := []
  userConfigSchema : ConfigDict := []
  userDefaultConfig : ConfigDict := []
  events : List PluginEventManifest := []
  serviceFunction : Option String := none
  settingsValidationFunction : Option String := none

/-- `plugin_definitions`. -/
structure PluginDefinition where
  id : RowId
  ownerUserId : Option RowId := none
  name : String
  displayName : String
  pluginType : String
  entryModule : String
  serviceFunctionName : Option String := none
  status : PluginStatus := .disabled
  dataDir : String
  configSchemaJson : ConfigDict := []
  defaultConfigJson : ConfigDict := []
  configJson : ConfigDict := []
  userConfigSchemaJson : ConfigDict := []
  userDefaultConfigJson : ConfigDict := []
  settingsValidationFunctionName : Option String := none
  activeVersionId : Option RowId := none

/-- `plugin_versions`; the manifest is its `metadata_json`. -/
structure PluginVersion where
  id : RowId
  pluginId : RowId
  version : String
  metadataJson : PluginPackageManifest

/-- `plugin_event_definitions`. -/
structure PluginEventDefinition where
  id : RowId
  pluginId : RowId
  pluginVersionId : RowId
  name : String
  mode : String
  functionName : String
  title : String
  description : String
  configSchemaJson : ConfigDict := []
  defaultConfigJson : ConfigDict := []

/-- `plugin_event_configs`. -/
structure PluginEventConfig where
  pluginId : RowId
  eventName : String
  isEnabled : Bool := true
  configJson : ConfigDict := []

/-- `plugin_user_configs`, and `plugin_chat_group_configs`: `scopeId` is the user or the room. -/
structure PluginScopeConfig where
  pluginId : RowId
  scopeId : RowId
  isEnabled : Bool := true
  configJson : ConfigDict := []

instance : Keyed PluginDefinition RowId := ⟨PluginDefinition.id⟩
instance : Keyed PluginVersion RowId := ⟨PluginVersion.id⟩
instance : Keyed PluginEventDefinition RowId := ⟨PluginEventDefinition.id⟩

@[simp] lemma key_pluginDefinition (r : PluginDefinition) : key r = r.id := rfl

@[simp] lemma key_pluginVersion (r : PluginVersion) : key r = r.id := rfl

@[simp] lemma key_pluginEventDefinition (r : PluginEventDefinition) : key r = r.id := rfl

/-- The tables, and the version directories that exist under `plugin_root`. -/
structure PluginTables where
  plugins : List PluginDefinition := []
  versions : List PluginVersion := []
  eventDefinitions : List PluginEventDefinition := []
  eventConfigs : List PluginEventConfig := []
  userConfigs : List PluginScopeConfig := []
  chatGroupConfigs : List PluginScopeConfig := []
  versionDirs : List (String × String) := []

/-! ## What happens outside -/

/-- The uploaded file, as far as it can be read. -/
inductive Upload where
  | badZip
  | noManifest
  | badManifest (detail : String)
  | package (manifest : PluginPackageManifest)

/-- How the steps of an installation outside the database come out. -/
structure PackageOutcome where
  upload : Upload
  dependenciesInstalled : Bool := true
  functionsError : Option String := none

/-- Which calls of the runtime manager raise. -/
structure RuntimeFaults where
  disableReload : Bool := false
  installReload : Bool := false
  enableReload : Bool := false
  runOnce : Bool := false

/-- An HTTP error, one with the text of a failed validation, a constraint of the database, or an
exception of the runtime manager. -/
inductive PluginError where
  | http (error : HttpError)
  | schema (error : SchemaError)
  | integrity
  | runtime

/-- The committed state that a call leaves, and what it raises. -/
structure PluginResult where
  tables : PluginTables
  error : Option PluginError := none

/-! ## Checks -/

section Checks

variable (pyStr : ConfigValue → String)

def validateConfigPayload (schema payload : ConfigDict) (location : String) :
    Except PluginError Unit :=
  match validateJsonSchemaValue pyStr schema (.dict payload) location with
  | .ok () => .ok ()
  | .error e => .error (.schema e)

def readManifest : Upload → Except PluginError PluginPackageManifest
  | .badZip => .error (.http ⟨400, "Invalid plugin zip"⟩)
  | .noManifest => .error (.http ⟨400, "plugin.json not found in plugin zip"⟩)
  | .badManifest detail => .error (.http ⟨400, detail⟩)
  | .package manifest => .ok manifest

def requireSameName (existingPlugin : Option PluginDefinition) (manifest : PluginPackageManifest) :
    Except PluginError Unit :=
  if existingPlugin.any fun plugin => plugin.name ≠ manifest.name then
    .error (.http ⟨400, "Updated plugin zip must keep the same plugin name"⟩)
  else .ok ()

def requireNewVersion (tables : PluginTables) (manifest : PluginPackageManifest) :
    Except PluginError Unit :=
  if (manifest.name, manifest.version) ∈ tables.versionDirs then
    .error (.http ⟨400, "Plugin version already installed"⟩)
  else .ok ()

def requireDependencies (outcome : PackageOutcome) : Except PluginError Unit :=
  if outcome.dependenciesInstalled then .ok ()
  else .error (.http ⟨400, "Plugin dependency installation failed"⟩)

def requireFunctions (outcome : PackageOutcome) : Except PluginError Unit :=
  match outcome.functionsError with
  | none => .ok ()
  | some exc => .error (.http ⟨400, "Plugin validation failed: " ++ exc⟩)

/-- What is checked before the database is written to. -/
def checkPackage (tables : PluginTables) (existingPlugin : Option PluginDefinition)
    (outcome : PackageOutcome) : Except PluginError PluginPackageManifest := do
  let manifest ← readManifest outcome.upload
  requireSameName existingPlugin manifest
  requireNewVersion tables manifest
  requireDependencies outcome
  requireFunctions outcome
  validateConfigPayload pyStr manifest.configSchema manifest.defaultConfig "plugin_default_config"
  validateConfigPayload pyStr manifest.userConfigSchema manifest.userDefaultConfig
    "plugin_user_default_config"
  return manifest

/-- The schema or the default has the field. -/
def definesInterval (item : PluginEventManifest) : Bool :=
  (item.defaultConfig.lookup "interval_seconds").isSome ||
    match item.configSchema.lookup "properties" with
    | some (.dict properties) => (properties.lookup "interval_seconds").isSome
    | _ => false

def checkEvent (item : PluginEventManifest) : Except PluginError Unit :=
  if definesInterval item then
    .error (.http ⟨400, "event config must not define interval_seconds; " ++
      "use plugin event schedule settings"⟩)
  else validateConfigPayload pyStr item.configSchema item.defaultConfig
    ("event_default_config." ++ item.name)

/-- The name of a new plugin, or the version of an old one, is taken. -/
def isTaken (tables : PluginTables) (existingPlugin : Option PluginDefinition)
    (manifest : PluginPackageManifest) : Bool :=
  match existingPlugin with
  | none => tables.plugins.any fun plugin => plugin.name = manifest.name
  | some plugin => tables.versions.any fun version =>
    version.pluginId = plugin.id && version.version = manifest.version

/-- The unique columns of the rows to be written; the events of a version have different names. -/
def requireUnique (tables : PluginTables) (existingPlugin : Option PluginDefinition)
    (manifest : PluginPackageManifest) : Except PluginError Unit :=
  if isTaken tables existingPlugin manifest ∨ ¬ (manifest.events.map (·.name)).Nodup then
    .error .integrity
  else .ok ()

/-- All checks up to the commit. -/
def checkInstall (tables : PluginTables) (existingPlugin : Option PluginDefinition)
    (outcome : PackageOutcome) : Except PluginError PluginPackageManifest := do
  let manifest ← checkPackage pyStr tables existingPlugin outcome
  requireUnique tables existingPlugin manifest
  manifest.events.forM (checkEvent pyStr)
  return manifest

end Checks

/-! ## Writes -/

section Writes

variable (newId : NewId)

def newPlugin (tables : PluginTables) (ownerUserId : RowId) (manifest : PluginPackageManifest) :
    PluginDefinition where
  id := newId.draw (tables.plugins.map key)
  ownerUserId := some ownerUserId
  name := manifest.name
  displayName := manifest.displayName
  pluginType := manifest.pluginType
  entryModule := manifest.entryModule
  serviceFunctionName := manifest.serviceFunction
  dataDir := manifest.name
  configSchemaJson := manifest.configSchema
  defaultConfigJson := manifest.defaultConfig
  configJson := manifest.defaultConfig
  userConfigSchemaJson := manifest.userConfigSchema
  userDefaultConfigJson := manifest.userDefaultConfig
  settingsValidationFunctionName := manifest.settingsValidationFunction

/-- What an update writes into the plugin's row. -/
def PluginDefinition.replaceManifest (plugin : PluginDefinition)
    (manifest : PluginPackageManifest) : PluginDefinition :=
  { plugin with
    displayName := manifest.displayName
    pluginType := manifest.pluginType
    entryModule := manifest.entryModule
    serviceFunctionName := manifest.serviceFunction
    configSchemaJson := manifest.configSchema
    defaultConfigJson := manifest.defaultConfig
    userConfigSchemaJson := manifest.userConfigSchema
    userDefaultConfigJson := manifest.userDefaultConfig
    settingsValidationFunctionName := manifest.settingsValidationFunction }

def newVersion (tables : PluginTables) (pluginId : RowId) (manifest : PluginPackageManifest) :
    PluginVersion where
  id := newId.draw (tables.versions.map key)
  pluginId := pluginId
  version := manifest.version
  metadataJson := manifest

/-- The definition of an event, and its settings where there are none yet. -/
def addEvent (pluginId versionId : RowId) (tables : PluginTables) (item : PluginEventManifest) :
    PluginTables :=
  { tables with
    eventDefinitions := tables.eventDefinitions ++ [{
      id := newId.draw (tables.eventDefinitions.map key)
      pluginId := pluginId
      pluginVersionId := versionId
      name := item.name
      mode := item.mode
      functionName := item.functionName
      title := item.title
      description := item.description
      configSchemaJson := item.configSchema
      defaultConfigJson := item.defaultConfig }]
    eventConfigs :=
      if tables.eventConfigs.any fun c => c.pluginId = pluginId && c.eventName = item.name then
        tables.eventConfigs
      else tables.eventConfigs ++ [{
        pluginId := pluginId
        eventName := item.name
        configJson := item.defaultConfig }] }

/-- The version, its events and its directory, and the plugin's `active_version_id`. -/
def writeVersion (tables : PluginTables) (pluginId : RowId) (manifest : PluginPackageManifest) :
    PluginTables :=
  let version := newVersion newId tables pluginId manifest
  manifest.events.foldl (addEvent newId pluginId version.id)
    { tables with
      plugins := update tables.plugins pluginId fun plugin =>
        { plugin with activeVersionId := some version.id }
      versions := tables.versions ++ [version]
      versionDirs := tables.versionDirs ++ [(manifest.name, manifest.version)] }

/-- What `_install_or_update` commits. -/
def writePackage (tables : PluginTables) (existingPlugin : Option PluginDefinition)
    (ownerUserId : RowId) (manifest : PluginPackageManifest) : PluginTables :=
  match existingPlugin with
  | none =>
    let plugin := newPlugin newId tables ownerUserId manifest
    writeVersion newId { tables with plugins := tables.plugins ++ [plugin] } plugin.id manifest
  | some plugin =>
    writeVersion newId { tables with
      plugins := update tables.plugins plugin.id fun plugin => plugin.replaceManifest manifest }
      plugin.id manifest

end Writes

/-! ## The service -/

section Service

variable (pyStr : ConfigValue → String) (newId : NewId) (tables : PluginTables)

/-- `plugin.status = …`. -/
def setStatus (pluginId : RowId) (status : PluginStatus) : PluginTables :=
  { tables with plugins := update tables.plugins pluginId fun plugin =>
      { plugin with status := status } }

def installPlugin (ownerUserId : RowId) (outcome : PackageOutcome) (faults : RuntimeFaults) :
    PluginResult :=
  match checkInstall pyStr tables none outcome with
  | .error e => ⟨tables, some e⟩
  | .ok manifest => ⟨writePackage newId tables none ownerUserId manifest,
      if faults.installReload then some .runtime else none⟩

/-- The handler of `update_plugin`: of what was committed only the version and the status are taken
back. -/
def restorePlugin (plugin : PluginDefinition) : PluginTables :=
  { tables with plugins := update tables.plugins plugin.id fun current =>
      { current with activeVersionId := plugin.activeVersionId, status := plugin.status } }

/-- The committed state when the `try` block of `update_plugin` is left. -/
def tryUpdate (plugin : PluginDefinition) (outcome : PackageOutcome) (faults : RuntimeFaults) :
    PluginResult :=
  match checkInstall pyStr tables (some plugin) outcome with
  | .error e => ⟨tables, some e⟩
  | .ok manifest =>
    let installed := writePackage newId tables (some plugin) "" manifest
    if faults.installReload then ⟨installed, some .runtime⟩
    else if plugin.status = .enabled then
      ⟨setStatus installed plugin.id .enabled,
        if faults.enableReload || faults.runOnce then some .runtime else none⟩
    else ⟨installed, none⟩

def updatePlugin (pluginId : RowId) (outcome : PackageOutcome) (faults : RuntimeFaults) :
    PluginResult :=
  match get tables.plugins pluginId with
  | none => ⟨tables, some (.http ⟨404, "Plugin not found"⟩)⟩
  | some plugin =>
    let disabled := setStatus tables pluginId .disabled
    if faults.disableReload then ⟨disabled, some .runtime⟩
    else
      let result := tryUpdate pyStr newId disabled plugin outcome faults
      match result.error with
      | none => result
      | some e => ⟨restorePlugin result.tables plugin, some e⟩

end Service

/-! ## What the writes leave alone -/

variable {newId : NewId} {tables : PluginTables} {pluginId versionId : RowId}

lemma foldl_addEvent (items : List PluginEventManifest) :
    (items.foldl (addEvent newId pluginId versionId) tables).plugins = tables.plugins ∧
      (items.foldl (addEvent newId pluginId versionId) tables).versions = tables.versions ∧
      (items.foldl (addEvent newId pluginId versionId) tables).userConfigs = tables.userConfigs ∧
      (items.foldl (addEvent newId pluginId versionId) tables).chatGroupConfigs =
        tables.chatGroupConfigs := by
  induction items generalizing tables with
  | nil => exact ⟨rfl, rfl, rfl, rfl⟩
  | cons item items ih => exact ih

lemma writeVersion_plugins (manifest : PluginPackageManifest) :
    (writeVersion newId tables pluginId manifest).plugins =
      update tables.plugins pluginId fun plugin =>
        { plugin with activeVersionId := some (newVersion newId tables pluginId manifest).id } :=
  (foldl_addEvent _).1

lemma writeVersion_versions (manifest : PluginPackageManifest) :
    (writeVersion newId tables pluginId manifest).versions =
      tables.versions ++ [newVersion newId tables pluginId manifest] :=
  (foldl_addEvent _).2.1

lemma writeVersion_configs (manifest : PluginPackageManifest) :
    (writeVersion newId tables pluginId manifest).userConfigs = tables.userConfigs ∧
      (writeVersion newId tables pluginId manifest).chatGroupConfigs = tables.chatGroupConfigs :=
  (foldl_addEvent _).2.2

lemma checkInstall_setStatus (pyStr : ConfigValue → String) (status : PluginStatus)
    (plugin : PluginDefinition) (outcome : PackageOutcome) :
    checkInstall pyStr (setStatus tables pluginId status) (some plugin) outcome =
      checkInstall pyStr tables (some plugin) outcome := rfl

end CocoonSit
