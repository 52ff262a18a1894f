import CocoonSit.Lib.Relational
import CocoonSit.Model.Entities

/-!
# Administrative deletions

Groups, plugins, model providers and characters are deleted by hand-written statements, each on one
of the tables that refer to what is deleted.  The tables here are those the statements write and
those that refer to them, with the columns through which they do; foreign keys to other tables,
from which nothing is deleted here, are left out.  An invite names a group in two columns that are
no foreign keys.
-/

namespace CocoonSit

open Relational

namespace Administration

inductive AdminTable where
  | users | userGroups | userGroupMembers | userGroupManagementGrants | inviteCodes
  | pluginDefinitions | pluginVersions | pluginEventDefinitions | pluginEventConfigs
  | pluginRunStates | pluginDispatchRecords | pluginImDeliveryOutbox | pluginImTargetRoutes
  | pluginUserConfigs | pluginUserEventConfigs | pluginChatGroupConfigs | pluginGroupVisibility
  | pluginTargetBindings
  | modelProviders | availableModels | embeddingProviders | providerCredentials
  | characters | characterAcl | cocoons | chatGroupRooms | memoryChunks | memoryCandidates
deriving DecidableEq, Repr

inductive AdminColumn where
  | primaryGroupId | parentGroupId | groupId | registrationGroupId | sourceIdOfGroup
  | pluginId | activeVersionId | currentVersionId | pluginVersionId
  | providerId | selectedModelId | summaryModelId
  | characterId
deriving DecidableEq, Repr

def AdminTable.columns : AdminTable → List AdminColumn
  | .users => [.primaryGroupId]
  | .userGroups => [.parentGroupId]
  | .userGroupMembers | .userGroupManagementGrants => [.groupId]
  | .inviteCodes => [.registrationGroupId, .sourceIdOfGroup]
  | .pluginDefinitions => [.activeVersionId]
  | .pluginVersions | .pluginEventConfigs | .pluginImDeliveryOutbox | .pluginImTargetRoutes
  | .pluginUserConfigs | .pluginUserEventConfigs | .pluginChatGroupConfigs
  | .pluginTargetBindings => [.pluginId]
  | .pluginEventDefinitions | .pluginDispatchRecords => [.pluginId, .pluginVersionId]
  | .pluginRunStates => [.pluginId, .currentVersionId]
  | .pluginGroupVisibility => [.pluginId, .groupId]
  | .modelProviders | .characters => []
  | .availableModels | .embeddingProviders | .providerCredentials => [.providerId]
  | .characterAcl | .memoryChunks | .memoryCandidates => [.characterId]
  | .cocoons => [.characterId, .selectedModelId, .summaryModelId]
  | .chatGroupRooms => [.characterId, .selectedModelId]

/-- The table a column refers to. -/
def AdminColumn.target : AdminColumn → AdminTable
  | .primaryGroupId | .parentGroupId | .groupId | .registrationGroupId | .sourceIdOfGroup =>
    .userGroups
  | .pluginId => .pluginDefinitions
  | .activeVersionId | .currentVersionId | .pluginVersionId => .pluginVersions
  | .providerId => .modelProviders
  | .selectedModelId | .summaryModelId => .availableModels
  | .characterId => .characters

/-- The column is a foreign key. -/
def AdminColumn.enforced : AdminColumn → Bool
  | .registrationGroupId | .sourceIdOfGroup => false
  | _ => true

abbrev AdminRow := Relational.Row AdminTable AdminColumn RowId Unit

abbrev AdminRows := List AdminRow

def adminSchema : Schema AdminTable AdminColumn where
  has table column := column ∈ table.columns
  target := AdminColumn.target
  enforced := AdminColumn.enforced

instance (db : AdminRows) : Decidable (Holds adminSchema db) :=
  decidable_of_iff (∀ r ∈ db, ∀ c ∈ r.table.columns, c.enforced = true →
      ∀ k ∈ (r.refs c).toList, ∃ r' ∈ db, r'.table = c.target ∧ r'.id = k) (by
    simp only [Holds, adminSchema, Option.mem_toList, Option.mem_def, decide_eq_true_eq]
    constructor
    · intro h r hr c henforced hhas
      exact h r hr c hhas henforced
    · intro h r hr c hhas henforced
      exact h r hr c henforced hhas)

instance (db : AdminRows) : Decidable (UniqueKeys db) :=
  inferInstanceAs (Decidable (List.Nodup _))

/-- `session.get(…) is not None`. -/
def adminExists (db : AdminRows) (table : AdminTable) (id : RowId) : Bool :=
  db.any fun r => r.table = table && r.id = id

/-- A row of the table whose column has one of these ids. -/
def ofIds (table : AdminTable) (column : AdminColumn) (ids : List RowId) (r : AdminRow) : Bool :=
  r.table = table && (r.refs column).any fun id => id ∈ ids

/-- The row with the key. -/
def isRow (table : AdminTable) (id : RowId) (r : AdminRow) : Bool :=
  r.table = table && r.id = id

/-! ## Groups -/

def ROOT_GROUP : RowId := "root-group"

/-- `ensure_root_group`. -/
def withRootGroup (db : AdminRows) : AdminRows :=
  if adminExists db .userGroups ROOT_GROUP then db
  else db ++ [{ table := .userGroups, id := ROOT_GROUP, refs := fun _ => none, data := () }]

/-- `child.parent_group_id = root_group.id`. -/
def reparented (groupId : RowId) (r : AdminRow) : AdminRow :=
  if r.table = .userGroups ∧ r.refs .parentGroupId = some groupId then
    { r with refs := fun
        | .parentGroupId => some ROOT_GROUP
        | column => r.refs column }
  else r

/-- `delete_group` answers with an error. -/
def groupRefused (db : AdminRows) (groupId : RowId) : Bool :=
  !adminExists db .userGroups groupId || groupId = ROOT_GROUP

/-- `GroupService.delete_group`; `none` where it refuses. -/
def deleteGroup (db : AdminRows) (groupId : RowId) : Option AdminRows :=
  if groupRefused db groupId then none
  else some (afterDeletes ((withRootGroup db).map (reparented groupId))
    [ofIds .userGroupMembers .groupId [groupId], isRow .userGroups groupId])

/-! ## Plugins -/

/-- The keys of the plugin's versions. -/
def pluginVersionIds (db : AdminRows) (pluginId : RowId) : List RowId :=
  (db.filter (ofIds .pluginVersions .pluginId [pluginId])).map Row.id

/-- `plugin.active_version_id = None`, and the run state's `current_version_id`. -/
def releaseVersions (pluginId : RowId) (r : AdminRow) : AdminRow :=
  if isRow .pluginDefinitions pluginId r || ofIds .pluginRunStates .pluginId [pluginId] r then
    { r with refs := fun
        | .activeVersionId | .currentVersionId => none
        | column => r.refs column }
  else r

/-- The statements of `delete_plugin`. -/
def pluginDeletions (pluginId : RowId) : List (AdminRow → Bool) :=
  [ofIds .pluginDispatchRecords .pluginId [pluginId],
    ofIds .pluginChatGroupConfigs .pluginId [pluginId],
    ofIds .pluginGroupVisibility .pluginId [pluginId],
    ofIds .pluginImDeliveryOutbox .pluginId [pluginId],
    ofIds .pluginImTargetRoutes .pluginId [pluginId],
    ofIds .pluginTargetBindings .pluginId [pluginId],
    ofIds .pluginUserConfigs .pluginId [pluginId],
    ofIds .pluginEventConfigs .pluginId [pluginId],
    ofIds .pluginEventDefinitions .pluginId [pluginId],
    ofIds .pluginRunStates .pluginId [pluginId],
    ofIds .pluginVersions .pluginId [pluginId],
    isRow .pluginDefinitions pluginId]

/-- The tables it deletes the plugin's rows from. -/
def pluginTables : List AdminTable :=
  [.pluginDispatchRecords, .pluginChatGroupConfigs, .pluginGroupVisibility,
    .pluginImDeliveryOutbox, .pluginImTargetRoutes, .pluginTargetBindings, .pluginUserConfigs,
    .pluginEventConfigs, .pluginEventDefinitions, .pluginRunStates, .pluginVersions]

/-- `delete_plugin` answers with an error. -/
def pluginRefused (db : AdminRows) (pluginId : RowId) : Bool :=
  !adminExists db .pluginDefinitions pluginId

def deletePlugin (db : AdminRows) (pluginId : RowId) : Option AdminRows :=
  if pluginRefused db pluginId then none
  else some (afterDeletes (db.map (releaseVersions pluginId)) (pluginDeletions pluginId))

/-! ## Providers -/

/-- The keys of the provider's models. -/
def providerModelIds (db : AdminRows) (providerId : RowId) : List RowId :=
  (db.filter (ofIds .availableModels .providerId [providerId])).map Row.id

/-- `delete_provider` answers with an error: a cocoon uses a model, or an embedding provider the
provider. -/
def providerRefused (db : AdminRows) (providerId : RowId) : Bool :=
  !adminExists db .modelProviders providerId ||
    (db.any fun r => ofIds .cocoons .selectedModelId (providerModelIds db providerId) r ||
      ofIds .cocoons .summaryModelId (providerModelIds db providerId) r) ||
    db.any (ofIds .embeddingProviders .providerId [providerId])

def deleteProvider (db : AdminRows) (providerId : RowId) : Option AdminRows :=
  if providerRefused db providerId then none
  else some (afterDeletes db
    [ofIds .providerCredentials .providerId [providerId],
      ofIds .availableModels .providerId [providerId],
      isRow .modelProviders providerId])

/-! ## Characters -/

/-- `delete_character` answers with an error: a cocoon uses the character. -/
def characterRefused (db : AdminRows) (characterId : RowId) : Bool :=
  !adminExists db .characters characterId || db.any (ofIds .cocoons .characterId [characterId])

def deleteCharacter (db : AdminRows) (characterId : RowId) : Option AdminRows :=
  if characterRefused db characterId then none
  else some (afterDeletes db
    [ofIds .characterAcl .characterId [characterId], isRow .characters characterId])

/-! ## When they leave nothing behind -/

/-- The deletion refuses, or leaves the foreign keys in order and nothing that refers to what is
gone. -/
def RefusesOrClears (db : AdminRows) (result : Option AdminRows) : Prop :=
  ∀ db' ∈ result, Clear adminSchema db db'

/-- No row of these tables has one of the ids in the column. -/
def NoneOf (db : AdminRows) (tables : List AdminTable) (column : AdminColumn) (ids : List RowId) :
    Prop :=
  ∀ r ∈ db, r.table ∈ tables → ∀ id ∈ r.refs column, id ∉ ids

instance (db : AdminRows) (tables : List AdminTable) (column : AdminColumn) (ids : List RowId) :
    Decidable (NoneOf db tables column ids) :=
  inferInstanceAs (Decidable (∀ r ∈ db, _))

/-- The group is nobody's primary group, and no grant, visibility or invite names it. -/
structure GroupUnused (db : AdminRows) (groupId : RowId) : Prop where
  primary : NoneOf db [.users] .primaryGroupId [groupId]
  named : NoneOf db [.userGroupManagementGrants, .pluginGroupVisibility] .groupId [groupId]
  registration : NoneOf db [.inviteCodes] .registrationGroupId [groupId]
  source : NoneOf db [.inviteCodes] .sourceIdOfGroup [groupId]

/-- No user has scheduled an event of the plugin, and no other plugin's row names one of its
versions. -/
structure PluginUnused (db : AdminRows) (pluginId : RowId) : Prop where
  scheduled : NoneOf db [.pluginUserEventConfigs] .pluginId [pluginId]
  active : ∀ r ∈ db, r.table = .pluginDefinitions → ∀ id ∈ r.refs .activeVersionId,
    id ∈ pluginVersionIds db pluginId → r.id = pluginId
  current : ∀ r ∈ db, r.table = .pluginRunStates → ∀ id ∈ r.refs .currentVersionId,
    id ∈ pluginVersionIds db pluginId → r.refs .pluginId = some pluginId
  versions : ∀ r ∈ db, r.table = .pluginEventDefinitions ∨ r.table = .pluginDispatchRecords →
    ∀ id ∈ r.refs .pluginVersionId, id ∈ pluginVersionIds db pluginId →
      r.refs .pluginId = some pluginId

/-- No room uses a model of the provider. -/
def ProviderUnused (db : AdminRows) (providerId : RowId) : Prop :=
  NoneOf db [.chatGroupRooms] .selectedModelId (providerModelIds db providerId)

/-- No room has the character, and no memory or candidate is of it. -/
def CharacterUnused (db : AdminRows) (characterId : RowId) : Prop :=
  NoneOf db [.chatGroupRooms, .memoryChunks, .memoryCandidates] .characterId [characterId]

/-! ## Statements -/

variable {db : AdminRows} {r r' : AdminRow} {table : AdminTable} {column : AdminColumn}
  {ids : List RowId} {id : RowId}

lemma ofIds_eq_true : ofIds table column ids r = true ↔
    r.table = table ∧ ∃ k, r.refs column = some k ∧ k ∈ ids := by
  simp [ofIds, Option.any_eq_true]

lemma isRow_eq_true : isRow table id r = true ↔ r.table = table ∧ r.id = id := by
  simp [isRow]

lemma adminExists_eq_true : adminExists db table id = true ↔
    ∃ r ∈ db, r.table = table ∧ r.id = id := by
  simp [adminExists]

lemma mem_pluginVersionIds (hkeys : UniqueKeys db) (hr : r ∈ db)
    (htable : r.table = .pluginVersions)
    {pluginId : RowId} :
    r.id ∈ pluginVersionIds db pluginId ↔ r.refs .pluginId = some pluginId := by
  simp only [pluginVersionIds, List.mem_map, List.mem_filter, ofIds_eq_true, List.mem_singleton]
  constructor
  · rintro ⟨r', ⟨hr', htable', k, hk, rfl⟩, hid⟩
    rwa [hkeys.eq hr' hr (htable'.trans htable.symm) hid] at hk
  · exact fun h => ⟨r, ⟨hr, htable, pluginId, h, rfl⟩, rfl⟩

lemma mem_providerModelIds (hkeys : UniqueKeys db) (hr : r ∈ db)
    (htable : r.table = .availableModels) {providerId : RowId} :
    r.id ∈ providerModelIds db providerId ↔ r.refs .providerId = some providerId := by
  simp only [providerModelIds, List.mem_map, List.mem_filter, ofIds_eq_true, List.mem_singleton]
  constructor
  · rintro ⟨r', ⟨hr', htable', k, hk, rfl⟩, hid⟩
    rwa [hkeys.eq hr' hr (htable'.trans htable.symm) hid] at hk
  · exact fun h => ⟨r, ⟨hr, htable, providerId, h, rfl⟩, rfl⟩

/-- What one of the statements deletes. -/
def goesBy (statements : List (AdminRow → Bool)) (r : AdminRow) : Bool :=
  statements.any fun statement => statement r

lemma afterDeletes_goesBy (db : AdminRows) (statements : List (AdminRow → Bool)) :
    afterDeletes db statements = db.filter fun r => !goesBy statements r :=
  afterDeletes_eq_filter db statements

lemma clear_afterDeletes_iff (hdb : Holds adminSchema db) (hkeys : UniqueKeys db)
    (statements : List (AdminRow → Bool)) :
    Clear adminSchema db (afterDeletes db statements) ↔ ∀ r ∈ db, ∀ r' ∈ db, ∀ c,
      RefersTo adminSchema r c r' → goesBy statements r' = true → goesBy statements r = true := by
  rw [afterDeletes_goesBy, clear_filter_iff hdb hkeys]
  refine forall₂_congr fun r _ => forall₂_congr fun r' _ => forall₂_congr fun c _ => ?_
  cases goesBy statements r <;> cases goesBy statements r' <;> simp

/-! ## The tables that have a column -/

section Has

variable {t : AdminTable}

lemma has_groupId (h : adminSchema.has t .groupId = true) :
    t = .userGroupMembers ∨ t ∈ [.userGroupManagementGrants,
      (.pluginGroupVisibility : AdminTable)] := by
  revert h
  cases t <;> decide

lemma has_pluginId (h : adminSchema.has t .pluginId = true) :
    t ∈ pluginTables ∨ t ∈ [(.pluginUserEventConfigs : AdminTable)] := by
  revert h
  cases t <;> decide

lemma has_pluginVersionId (h : adminSchema.has t .pluginVersionId = true) :
    t = .pluginEventDefinitions ∨ t = .pluginDispatchRecords := by
  revert h
  cases t <;> decide

lemma has_providerId (h : adminSchema.has t .providerId = true) :
    t = .availableModels ∨ t = .embeddingProviders ∨ t = .providerCredentials := by
  revert h
  cases t <;> decide

lemma has_selectedModelId (h : adminSchema.has t .selectedModelId = true) :
    t = .cocoons ∨ t ∈ [(.chatGroupRooms : AdminTable)] := by
  revert h
  cases t <;> decide

lemma has_characterId (h : adminSchema.has t .characterId = true) :
    t = .characterAcl ∨ t = .cocoons ∨
      t ∈ [.chatGroupRooms, .memoryChunks, (.memoryCandidates : AdminTable)] := by
  revert h
  cases t <;> decide

lemma has_only {c : AdminColumn} (h : adminSchema.has t c = true) :
    (c = .primaryGroupId → t = .users) ∧ (c = .parentGroupId → t = .userGroups) ∧
      (c = .registrationGroupId ∨ c = .sourceIdOfGroup → t = .inviteCodes) ∧
      (c = .activeVersionId → t = .pluginDefinitions) ∧
      (c = .currentVersionId → t = .pluginRunStates) ∧ (c = .summaryModelId → t = .cocoons) := by
  revert h
  cases t <;> cases c <;> decide

end Has

/-! ## Characters -/

lemma characterGoes_iff {characterId : RowId} :
    goesBy [ofIds .characterAcl .characterId [characterId], isRow .characters characterId] r
      = true ↔
      (r.table = .characterAcl ∧ r.refs .characterId = some characterId) ∨
        (r.table = .characters ∧ r.id = characterId) := by
  simp [goesBy, ofIds_eq_true, isRow_eq_true]

lemma deleteCharacter_clears_iff (hdb : Holds adminSchema db) (hkeys : UniqueKeys db)
    (characterId : RowId) : RefusesOrClears db (deleteCharacter db characterId) ↔
      characterRefused db characterId = true ∨ CharacterUnused db characterId := by
  unfold deleteCharacter RefusesOrClears
  by_cases hrefused : characterRefused db characterId = true
  · simp [hrefused]
  rw [if_neg hrefused]
  simp only [Option.mem_def, Option.some.injEq, forall_eq', hrefused, Bool.false_eq_true,
    false_or]
  rw [clear_afterDeletes_iff hdb hkeys]
  simp only [characterRefused, Bool.or_eq_true, Bool.not_eq_true', not_or, Bool.not_eq_false]
    at hrefused
  obtain ⟨hexists, hcocoons⟩ := hrefused
  obtain ⟨character, hmem, htable, hid⟩ := adminExists_eq_true.mp hexists
  simp only [characterGoes_iff]
  constructor
  · intro h r hr hin k hk hkid
    rw [List.mem_singleton] at hkid
    subst hkid
    have hhas : adminSchema.has r.table .characterId = true := by
      revert hin
      cases r.table <;> decide
    have hrefers : RefersTo adminSchema r .characterId character :=
      ⟨hhas, htable.symm, hid ▸ hk⟩
    rcases h r hr character hmem _ hrefers (.inr ⟨htable, hid⟩) with ⟨heq, -⟩ | ⟨heq, -⟩ <;>
      rw [heq] at hin <;> revert hin <;> decide
  · rintro h r hr r' - c ⟨hhas, htarget, hrefs⟩ (⟨htable', -⟩ | ⟨htable', hid'⟩)
    · rw [htable'] at htarget
      exact absurd htarget (by cases c <;> decide)
    · rw [htable'] at htarget
      have hc : c = .characterId := by
        revert htarget
        cases c <;> decide
      subst hc
      rw [hid'] at hrefs
      rcases has_characterId hhas with hacl | hcocoon | hothers
      · exact .inl ⟨hacl, hrefs⟩
      · refine absurd (List.any_eq_true.mpr ⟨r, hr, ?_⟩) hcocoons
        exact ofIds_eq_true.mpr ⟨hcocoon, characterId, hrefs, List.mem_singleton_self _⟩
      · exact absurd (List.mem_singleton_self characterId) (h r hr hothers characterId hrefs)

/-! ## Providers -/

lemma providerGoes_iff {providerId : RowId} :
    goesBy [ofIds .providerCredentials .providerId [providerId],
        ofIds .availableModels .providerId [providerId], isRow .modelProviders providerId] r
      = true ↔
      ((r.table = .providerCredentials ∨ r.table = .availableModels) ∧
          r.refs .providerId = some providerId) ∨
        (r.table = .modelProviders ∧ r.id = providerId) := by
  simp only [goesBy, List.any_cons, List.any_nil, Bool.or_false, Bool.or_eq_true, ofIds_eq_true,
    isRow_eq_true, List.mem_singleton, exists_eq_right]
  tauto

lemma deleteProvider_clears_iff (hdb : Holds adminSchema db) (hkeys : UniqueKeys db)
    (providerId : RowId) : RefusesOrClears db (deleteProvider db providerId) ↔
      providerRefused db providerId = true ∨ ProviderUnused db providerId := by
  unfold deleteProvider RefusesOrClears
  by_cases hrefused : providerRefused db providerId = true
  · simp [hrefused]
  rw [if_neg hrefused]
  simp only [Option.mem_def, Option.some.injEq, forall_eq', hrefused, Bool.false_eq_true,
    false_or]
  rw [clear_afterDeletes_iff hdb hkeys]
  simp only [providerRefused, Bool.or_eq_true, not_or] at hrefused
  obtain ⟨⟨-, hcocoons⟩, hembeddings⟩ := hrefused
  simp only [providerGoes_iff]
  constructor
  · intro h r hr hin k hk hmodel
    have hhas : adminSchema.has r.table .selectedModelId = true := by
      revert hin
      cases r.table <;> decide
    obtain ⟨model, hmodel', htable, rfl⟩ := hdb r hr .selectedModelId rfl hhas k hk
    have hprovider := (mem_providerModelIds hkeys hmodel' htable).mp hmodel
    rcases h r hr model hmodel' _ ⟨hhas, htable.symm, hk⟩ (.inl ⟨.inr htable, hprovider⟩) with
      ⟨heq | heq, -⟩ | ⟨heq, -⟩ <;> rw [heq] at hin <;> revert hin <;> decide
  · rintro h r hr r' hr' c ⟨hhas, htarget, hrefs⟩ (⟨htable' | htable', hprovider⟩ | ⟨htable', hid'⟩)
    · rw [htable'] at htarget
      exact absurd htarget (by cases c <;> decide)
    · -- a model: used by no cocoon, as the code has checked, and by no room
      have hmodel := (mem_providerModelIds hkeys hr' htable').mpr hprovider
      rw [htable'] at htarget
      have hc : c = .selectedModelId ∨ c = .summaryModelId := by
        revert htarget
        cases c <;> decide
      have hnone : ∀ column, column = .selectedModelId ∨ column = .summaryModelId →
          r.refs column = some r'.id → r.table ≠ .cocoons := by
        intro column hcolumn href htable
        refine hcocoons (List.any_eq_true.mpr ⟨r, hr, Bool.or_eq_true_iff.mpr ?_⟩)
        rcases hcolumn with rfl | rfl
        · exact .inl (ofIds_eq_true.mpr ⟨htable, r'.id, href, hmodel⟩)
        · exact .inr (ofIds_eq_true.mpr ⟨htable, r'.id, href, hmodel⟩)
      rcases hc with rfl | rfl
      · rcases has_selectedModelId hhas with hcocoon | hroom
        · exact absurd hcocoon (hnone _ (.inl rfl) hrefs)
        · exact absurd hmodel (h r hr hroom r'.id hrefs)
      · exact absurd ((has_only hhas).2.2.2.2.2 rfl) (hnone _ (.inr rfl) hrefs)
    · rw [htable'] at htarget
      have hc : c = .providerId := by
        revert htarget
        cases c <;> decide
      subst hc
      rw [hid'] at hrefs
      rcases has_providerId hhas with hmodel | hembedding | hcredential
      · exact .inl ⟨.inr hmodel, hrefs⟩
      · refine absurd (List.any_eq_true.mpr ⟨r, hr, ?_⟩) hembeddings
        exact ofIds_eq_true.mpr ⟨hembedding, providerId, hrefs, List.mem_singleton_self _⟩
      · exact .inl ⟨.inl hcredential, hrefs⟩

/-! ## Plugins -/

lemma pluginGoes_iff {pluginId : RowId} : goesBy (pluginDeletions pluginId) r = true ↔
    (r.table ∈ pluginTables ∧ r.refs .pluginId = some pluginId) ∨
      (r.table = .pluginDefinitions ∧ r.id = pluginId) := by
  simp only [goesBy, pluginDeletions, pluginTables, List.any_cons, List.any_nil, Bool.or_false,
    Bool.or_eq_true, ofIds_eq_true, isRow_eq_true, List.mem_singleton, exists_eq_right,
    List.mem_cons, List.not_mem_nil, or_false, or_and_right, or_assoc]

lemma afterDeletes_releaseVersions (db : AdminRows) (pluginId : RowId) :
    afterDeletes (db.map (releaseVersions pluginId)) (pluginDeletions pluginId) =
      afterDeletes db (pluginDeletions pluginId) := by
  refine afterDeletes_map (fun r statement hmem => ?_) (fun r => ?_)
  · unfold releaseVersions
    split
    · simp only [pluginDeletions, List.mem_cons, List.not_mem_nil, or_false] at hmem
      rcases hmem with rfl | rfl | rfl | rfl | rfl | rfl | rfl | rfl | rfl | rfl | rfl | rfl <;> rfl
    · rfl
  · unfold releaseVersions
    split
    · rename_i hrow
      rw [Bool.or_eq_true] at hrow
      rcases hrow with hrow | hrow
      · exact .inr ⟨_, by simp [pluginDeletions], hrow⟩
      · exact .inr ⟨ofIds .pluginRunStates .pluginId [pluginId], by simp [pluginDeletions], hrow⟩
    · exact .inl rfl

lemma deletePlugin_clears_iff (hdb : Holds adminSchema db) (hkeys : UniqueKeys db)
    (pluginId : RowId) : RefusesOrClears db (deletePlugin db pluginId) ↔
      pluginRefused db pluginId = true ∨ PluginUnused db pluginId := by
  unfold deletePlugin RefusesOrClears
  by_cases hrefused : pluginRefused db pluginId = true
  · simp [hrefused]
  rw [if_neg hrefused]
  simp only [Option.mem_def, Option.some.injEq, forall_eq', hrefused, Bool.false_eq_true,
    false_or]
  rw [afterDeletes_releaseVersions, clear_afterDeletes_iff hdb hkeys]
  simp only [pluginRefused, Bool.not_eq_true', Bool.not_eq_false] at hrefused
  obtain ⟨plugin, hmem, htable, hid⟩ := adminExists_eq_true.mp hrefused
  simp only [pluginGoes_iff]
  constructor
  · intro h
    -- a version of the plugin goes, and what refers to it has to
    have hversion : ∀ r ∈ db, ∀ c, adminSchema.has r.table c = true →
        c.target = .pluginVersions → c.enforced = true → ∀ id ∈ r.refs c,
        id ∈ pluginVersionIds db pluginId →
          (r.table ∈ pluginTables ∧ r.refs .pluginId = some pluginId) ∨
            (r.table = .pluginDefinitions ∧ r.id = pluginId) := by
      intro r hr c hhas htarget henforced id hid hversion
      obtain ⟨version, hmem', htable', rfl⟩ := hdb r hr c henforced hhas id hid
      have hplugin := (mem_pluginVersionIds hkeys hmem' (htable'.trans htarget)).mp hversion
      refine h r hr version hmem' c ⟨hhas, htable'.symm, hid⟩ (.inl ⟨?_, hplugin⟩)
      rw [htable'.trans htarget]
      decide
    refine ⟨?_, ?_, ?_, ?_⟩
    · intro r hr hin k hk hkid
      rw [List.mem_singleton] at hkid hin
      subst hkid
      have hrefers : RefersTo adminSchema r .pluginId plugin :=
        ⟨by rw [hin]; decide, htable.symm, hid ▸ hk⟩
      rcases h r hr plugin hmem _ hrefers (.inr ⟨htable, hid⟩) with ⟨heq, -⟩ | ⟨heq, -⟩ <;>
        rw [hin] at heq <;> revert heq <;> decide
    · intro r hr htable' id hid' hversion'
      rcases hversion r hr .activeVersionId (by rw [htable']; decide) rfl rfl id hid' hversion' with
        ⟨heq, -⟩ | ⟨-, heq⟩
      · rw [htable'] at heq
        exact absurd heq (by decide)
      · exact heq
    · intro r hr htable' id hid' hversion'
      rcases hversion r hr .currentVersionId (by rw [htable']; decide) rfl rfl id hid'
        hversion' with
        ⟨-, heq⟩ | ⟨heq, -⟩
      · exact heq
      · rw [htable'] at heq
        cases heq
    · intro r hr htable' id hid' hversion'
      have hhas : adminSchema.has r.table .pluginVersionId = true := by
        rcases htable' with htable' | htable' <;> rw [htable'] <;> decide
      rcases hversion r hr .pluginVersionId hhas rfl rfl id hid' hversion' with
        ⟨-, heq⟩ | ⟨heq, -⟩
      · exact heq
      · rcases htable' with htable' | htable' <;> rw [htable'] at heq <;> cases heq
  · rintro ⟨hscheduled, hactive, hcurrent, hversions⟩ r hr r' hr' c ⟨hhas, htarget, hrefs⟩
      (⟨htable', hplugin⟩ | ⟨htable', hid'⟩)
    · have hversion : r'.table = .pluginVersions := by
        rw [← htarget] at htable' ⊢
        revert htable'
        cases c <;> decide
      have hin := (mem_pluginVersionIds hkeys hr' hversion).mpr hplugin
      have hc : c = .activeVersionId ∨ c = .currentVersionId ∨ c = .pluginVersionId := by
        rw [hversion] at htarget
        revert htarget
        cases c <;> decide
      rcases hc with rfl | rfl | rfl
      · have hdefinition := (has_only hhas).2.2.2.1 rfl
        exact .inr ⟨hdefinition, hactive r hr hdefinition _ hrefs hin⟩
      · have hstate := (has_only hhas).2.2.2.2.1 rfl
        exact .inl ⟨by rw [hstate]; decide, hcurrent r hr hstate _ hrefs hin⟩
      · refine .inl ⟨?_, hversions r hr (has_pluginVersionId hhas) _ hrefs hin⟩
        rcases has_pluginVersionId hhas with heq | heq <;> rw [heq] <;> decide
    · have hc : c = .pluginId := by
        rw [htable'] at htarget
        revert htarget
        cases c <;> decide
      subst hc
      rw [hid'] at hrefs
      rcases has_pluginId hhas with hplugin | hevents
      · exact .inl ⟨hplugin, hrefs⟩
      · exact absurd (List.mem_singleton_self pluginId) (hscheduled r hr hevents pluginId hrefs)

/-! ## Groups -/

lemma groupGoes_iff {groupId : RowId} :
    goesBy [ofIds .userGroupMembers .groupId [groupId], isRow .userGroups groupId] r = true ↔
      (r.table = .userGroupMembers ∧ r.refs .groupId = some groupId) ∨
        (r.table = .userGroups ∧ r.id = groupId) := by
  simp [goesBy, ofIds_eq_true, isRow_eq_true]

/-- The root group's row when the deletion makes it. -/
def rootGroup : AdminRow :=
  { table := .userGroups, id := ROOT_GROUP, refs := fun _ => none, data := () }

lemma mem_withRootGroup : r ∈ withRootGroup db ↔
    r ∈ db ∨ (adminExists db .userGroups ROOT_GROUP = false ∧ r = rootGroup) := by
  unfold withRootGroup
  split
  · rename_i hexists
    simp [hexists]
  · rename_i hexists
    simp [hexists, rootGroup]

lemma rootGroup_fresh (h : adminExists db .userGroups ROOT_GROUP = false) (hr : r ∈ db)
    (htable : r.table = rootGroup.table) : r.id ≠ rootGroup.id := by
  intro hid
  have hexists : adminExists db .userGroups ROOT_GROUP = true :=
    adminExists_eq_true.mpr ⟨r, hr, htable, hid⟩
  rw [h] at hexists
  cases hexists

lemma adminExists_withRootGroup : ∃ r ∈ withRootGroup db, r.table = .userGroups ∧
    r.id = ROOT_GROUP := by
  unfold withRootGroup
  split
  · rename_i hexists
    exact adminExists_eq_true.mp hexists
  · exact ⟨_, List.mem_append_right _ (List.mem_singleton_self _), rfl, rfl⟩

lemma uniqueKeys_withRootGroup (hkeys : UniqueKeys db) : UniqueKeys (withRootGroup db) := by
  unfold withRootGroup
  split
  · exact hkeys
  · rename_i hexists
    rw [Bool.not_eq_true] at hexists
    exact hkeys.concat fun r hr htable => rootGroup_fresh hexists hr htable

lemma holds_withRootGroup (hdb : Holds adminSchema db) : Holds adminSchema (withRootGroup db) := by
  unfold withRootGroup
  split
  · exact hdb
  · rename_i hexists
    rw [Bool.not_eq_true] at hexists
    refine (holds_concat_iff (fun c _ _ k hk => by cases hk) fun r hr c henforced => ?_).mpr hdb
    exact hdb.not_refersTo (fun r hr htable => rootGroup_fresh hexists hr htable) hr henforced

lemma reparented_key (groupId : RowId) (r : AdminRow) :
    (reparented groupId r).table = r.table ∧ (reparented groupId r).id = r.id := by
  unfold reparented
  split <;> exact ⟨rfl, rfl⟩

lemma reparented_refs {groupId : RowId} {c : AdminColumn} (hc : c ≠ .parentGroupId) :
    (reparented groupId r).refs c = r.refs c := by
  unfold reparented
  split
  · cases c <;> first | rfl | exact absurd rfl hc
  · rfl

lemma reparented_parent {groupId : RowId} (hroot : groupId ≠ ROOT_GROUP)
    (htable : r.table = .userGroups) :
    (reparented groupId r).refs .parentGroupId ≠ some groupId := by
  unfold reparented
  split
  · exact fun heq => hroot (Option.some.inj heq).symm
  · rename_i hnot
    exact fun heq => hnot ⟨htable, heq⟩

lemma holds_reparented (hdb : Holds adminSchema db) (groupId : RowId)
    (hroot : ∃ r ∈ db, r.table = .userGroups ∧ r.id = ROOT_GROUP) :
    Holds adminSchema (db.map (reparented groupId)) := by
  have hkept : ∀ {t : AdminTable} {k : RowId}, (∃ r ∈ db, r.table = t ∧ r.id = k) →
      ∃ r ∈ db.map (reparented groupId), r.table = t ∧ r.id = k := by
    rintro t k ⟨r, hr, rfl, rfl⟩
    exact ⟨_, List.mem_map_of_mem hr, reparented_key groupId r⟩
  intro r hr c henforced hhas k hk
  obtain ⟨r₀, hr₀, rfl⟩ := List.mem_map.mp hr
  rw [(reparented_key groupId r₀).1] at hhas
  by_cases hchanged : r₀.table = .userGroups ∧ r₀.refs .parentGroupId = some groupId
  · by_cases hc : c = .parentGroupId
    · subst hc
      rw [reparented, if_pos hchanged] at hk
      exact Option.some.inj hk ▸ hkept hroot
    · rw [reparented_refs hc] at hk
      exact hkept (hdb r₀ hr₀ c henforced hhas k hk)
  · rw [reparented, if_neg hchanged] at hk
    exact hkept (hdb r₀ hr₀ c henforced hhas k hk)

lemma refersTo_reparented {groupId : RowId} (hroot : groupId ≠ ROOT_GROUP) {c : AdminColumn}
    (hr : r ∈ withRootGroup db) (hhas : adminSchema.has r.table c = true)
    (hk : (reparented groupId r).refs c = some groupId) :
    r ∈ db ∧ r.refs c = some groupId ∧ c ≠ .parentGroupId := by
  have hc : c ≠ .parentGroupId := by
    rintro rfl
    exact reparented_parent hroot ((has_only hhas).2.1 rfl) hk
  rw [reparented_refs hc] at hk
  refine ⟨?_, hk, hc⟩
  rcases mem_withRootGroup.mp hr with hr | ⟨-, rfl⟩
  · exact hr
  · cases hk

lemma not_groupRefused {groupId : RowId} (hrefused : groupRefused db groupId ≠ true) :
    groupId ≠ ROOT_GROUP ∧ ∃ group ∈ db, group.table = .userGroups ∧ group.id = groupId := by
  rw [ne_eq, groupRefused, Bool.or_eq_true, not_or, Bool.not_eq_true', Bool.not_eq_false,
    decide_eq_true_eq] at hrefused
  exact ⟨hrefused.2, adminExists_eq_true.mp hrefused.1⟩

lemma deleteGroup_clears_iff (hdb : Holds adminSchema db) (hkeys : UniqueKeys db)
    (groupId : RowId) : RefusesOrClears db (deleteGroup db groupId) ↔
      groupRefused db groupId = true ∨ GroupUnused db groupId := by
  unfold deleteGroup RefusesOrClears
  by_cases hrefused : groupRefused db groupId = true
  · simp [hrefused]
  rw [if_neg hrefused]
  simp only [Option.mem_def, Option.some.injEq, forall_eq', hrefused, Bool.false_eq_true,
    false_or]
  obtain ⟨hroot, group, hmem, htable, hid⟩ := not_groupRefused hrefused
  have hholds := holds_reparented (holds_withRootGroup hdb) groupId adminExists_withRootGroup
  have hunique : UniqueKeys ((withRootGroup db).map (reparented groupId)) :=
    (uniqueKeys_withRootGroup hkeys).map (reparented_key groupId)
  have hbase : ∀ r ∈ db, reparented groupId r ∈ (withRootGroup db).map (reparented groupId) :=
    fun r hr => List.mem_map_of_mem (mem_withRootGroup.mpr (.inl hr))
  -- the rows the deletions start from are the rows before, and the root group's, which stays
  have hclear := clear_congr adminSchema db
    ((withRootGroup db).map (reparented groupId))
    (afterDeletes ((withRootGroup db).map (reparented groupId))
      [ofIds .userGroupMembers .groupId [groupId], isRow .userGroups groupId])
    (fun r hr => ⟨_, hbase r hr, reparented_key groupId r⟩)
    (fun r hr => by
      obtain ⟨r₀, hr₀, rfl⟩ := List.mem_map.mp hr
      obtain ⟨htable₀, hid₀⟩ := reparented_key groupId r₀
      rcases mem_withRootGroup.mp hr₀ with hr₀ | ⟨-, rfl⟩
      · exact .inl ⟨r₀, hr₀, htable₀.symm, hid₀.symm⟩
      · refine .inr ⟨_, ?_, rfl, rfl⟩
        rw [afterDeletes_goesBy, List.mem_filter, Bool.not_eq_true', ← Bool.not_eq_true,
          groupGoes_iff]
        refine ⟨hr, ?_⟩
        rintro (⟨heq, -⟩ | ⟨-, heq⟩)
        · cases htable₀.symm.trans heq
        · exact hroot (heq.symm.trans hid₀))
  rw [hclear, clear_afterDeletes_iff hholds hunique]
  simp only [groupGoes_iff]
  constructor
  · intro h
    -- a row that names the group outside the memberships stays, so there is none
    have hnone : ∀ r ∈ db, ∀ c, adminSchema.has r.table c = true → c.target = .userGroups →
        c ≠ .parentGroupId → r.refs c = some groupId → r.table = .userGroupMembers := by
      intro r hr c hhas htarget hc hk
      obtain ⟨htable₀, -⟩ := reparented_key groupId r
      have hrefers : RefersTo adminSchema (reparented groupId r) c (reparented groupId group) := by
        obtain ⟨htable₁, hid₁⟩ := reparented_key groupId group
        refine ⟨by rwa [htable₀], htarget.trans (htable₁.trans htable).symm, ?_⟩
        rw [reparented_refs hc, hk, hid₁, hid]
      obtain ⟨htable₁, hid₁⟩ := reparented_key groupId group
      rcases h _ (hbase r hr) _ (hbase group hmem) c hrefers
        (.inr ⟨htable₁.trans htable, hid₁.trans hid⟩) with ⟨heq, -⟩ | ⟨heq, -⟩
      · exact htable₀.symm.trans heq
      · exfalso
        have hgroups := htable₀.symm.trans heq
        rw [hgroups] at hhas
        revert hhas hc
        cases c <;> decide
    refine ⟨?_, ?_, ?_, ?_⟩ <;> intro r hr hin k hk hkid <;> rw [List.mem_singleton] at hkid <;>
      subst hkid
    · rw [List.mem_singleton] at hin
      have hmembers := hnone r hr .primaryGroupId (by rw [hin]; decide) rfl (by decide) hk
      exact absurd (hin.symm.trans hmembers) (by decide)
    · have hhas : adminSchema.has r.table .groupId = true := by
        revert hin
        cases r.table <;> decide
      have hmembers := hnone r hr .groupId hhas rfl (by decide) hk
      rw [hmembers] at hin
      exact absurd hin (by decide)
    · rw [List.mem_singleton] at hin
      have hmembers := hnone r hr .registrationGroupId (by rw [hin]; decide) rfl (by decide) hk
      exact absurd (hin.symm.trans hmembers) (by decide)
    · rw [List.mem_singleton] at hin
      have hmembers := hnone r hr .sourceIdOfGroup (by rw [hin]; decide) rfl (by decide) hk
      exact absurd (hin.symm.trans hmembers) (by decide)
  · rintro ⟨hprimary, hnamed, hregistration, hsource⟩ r hr r' - c ⟨hhas, htarget, hrefs⟩
      (⟨htable', -⟩ | ⟨htable', hid'⟩)
    · rw [htable'] at htarget
      exact absurd htarget (by cases c <;> decide)
    obtain ⟨r₀, hr₀, rfl⟩ := List.mem_map.mp hr
    rw [hid'] at hrefs
    rw [(reparented_key groupId r₀).1] at hhas
    obtain ⟨hr₀, hk, hc⟩ := refersTo_reparented hroot hr₀ hhas hrefs
    have hself := List.mem_singleton_self groupId
    have hcolumn : c = .primaryGroupId ∨ c = .groupId ∨ c = .registrationGroupId ∨
        c = .sourceIdOfGroup := by
      rw [htable'] at htarget
      revert htarget hc
      cases c <;> decide
    rcases hcolumn with rfl | rfl | rfl | rfl
    · exact absurd hself (hprimary r₀ hr₀ (by rw [(has_only hhas).1 rfl]; decide) groupId hk)
    · rcases has_groupId hhas with hmember | hnames
      · exact .inl ⟨(reparented_key groupId r₀).1.trans hmember, hrefs⟩
      · exact absurd hself (hnamed r₀ hr₀ hnames groupId hk)
    · exact absurd hself
        (hregistration r₀ hr₀ (by rw [(has_only hhas).2.2.1 (.inl rfl)]; decide) groupId hk)
    · exact absurd hself
        (hsource r₀ hr₀ (by rw [(has_only hhas).2.2.1 (.inr rfl)]; decide) groupId hk)

/-! ## The four deletions -/

/-- Each of the deletions refuses or leaves nothing behind exactly where nothing refers to what
it takes out through a table that it neither deletes from nor checks. -/
theorem adminDeletions_clear_iff (hdb : Holds adminSchema db) (hkeys : UniqueKeys db) :
    (∀ groupId, RefusesOrClears db (deleteGroup db groupId) ↔
      groupRefused db groupId = true ∨ GroupUnused db groupId) ∧
    (∀ pluginId, RefusesOrClears db (deletePlugin db pluginId) ↔
      pluginRefused db pluginId = true ∨ PluginUnused db pluginId) ∧
    (∀ providerId, RefusesOrClears db (deleteProvider db providerId) ↔
      providerRefused db providerId = true ∨ ProviderUnused db providerId) ∧
    (∀ characterId, RefusesOrClears db (deleteCharacter db characterId) ↔
      characterRefused db characterId = true ∨ CharacterUnused db characterId) :=
  ⟨deleteGroup_clears_iff hdb hkeys, deletePlugin_clears_iff hdb hkeys,
    deleteProvider_clears_iff hdb hkeys, deleteCharacter_clears_iff hdb hkeys⟩

/-- A group with a member, a plugin with a version and a configuration, a provider with a model, a
character shared with a user, and a cocoon with another character and model. -/
def ledger : AdminRows :=
  [{ table := .userGroups, id := "staff", refs := fun _ => none, data := () },
    { table := .userGroupMembers, id := "member", data := (),
      refs := fun c => if c = .groupId then some "staff" else none },
    { table := .pluginDefinitions, id := "clock", data := (),
      refs := fun c => if c = .activeVersionId then some "clock-1" else none },
    { table := .pluginVersions, id := "clock-1", data := (),
      refs := fun c => if c = .pluginId then some "clock" else none },
    { table := .pluginUserConfigs, id := "config", data := (),
      refs := fun c => if c = .pluginId then some "clock" else none },
    { table := .modelProviders, id := "local", refs := fun _ => none, data := () },
    { table := .availableModels, id := "small", data := (),
      refs := fun c => if c = .providerId then some "local" else none },
    { table := .characters, id := "ann", refs := fun _ => none, data := () },
    { table := .characterAcl, id := "acl", data := (),
      refs := fun c => if c = .characterId then some "ann" else none }]

/-- Rows of newer features: a primary group, a user's schedule of an event, and a room with the
character and the model. -/
def newerRows : AdminRows :=
  [{ table := .users, id := "bob", data := (),
      refs := fun c => if c = .primaryGroupId then some "staff" else none },
    { table := .pluginUserEventConfigs, id := "schedule", data := (),
      refs := fun c => if c = .pluginId then some "clock" else none },
    { table := .chatGroupRooms, id := "room", data := (),
      refs := fun
        | .characterId => some "ann"
        | .selectedModelId => some "small"
        | _ => none }]

theorem ledger_clears :
    (groupRefused ledger "staff" = false ∧ RefusesOrClears ledger (deleteGroup ledger "staff")) ∧
    (pluginRefused ledger "clock" = false ∧ RefusesOrClears ledger (deletePlugin ledger "clock")) ∧
    (providerRefused ledger "local" = false ∧
      RefusesOrClears ledger (deleteProvider ledger "local")) ∧
    (characterRefused ledger "ann" = false ∧
      RefusesOrClears ledger (deleteCharacter ledger "ann")) := by
  obtain ⟨hgroup, hplugin, hprovider, hcharacter⟩ :=
    @adminDeletions_clear_iff ledger (by decide +kernel) (by decide +kernel)
  refine ⟨⟨by decide +kernel, (hgroup _).mpr (.inr ⟨?_, ?_, ?_, ?_⟩)⟩,
    ⟨by decide +kernel, (hplugin _).mpr (.inr ⟨?_, ?_, ?_, ?_⟩)⟩,
    ⟨by decide +kernel, (hprovider _).mpr (.inr ?_)⟩,
    ⟨by decide +kernel, (hcharacter _).mpr (.inr ?_)⟩⟩
  all_goals first | decide +kernel | (unfold ProviderUnused; decide +kernel) |
    (unfold CharacterUnused; decide +kernel)

/-- Each deletion goes through and leaves a row without what it refers to. -/
theorem newerRows_left_behind :
    (Holds adminSchema (ledger ++ newerRows) ∧ UniqueKeys (ledger ++ newerRows)) ∧
    ¬ RefusesOrClears (ledger ++ newerRows) (deleteGroup (ledger ++ newerRows) "staff") ∧
    ¬ RefusesOrClears (ledger ++ newerRows) (deletePlugin (ledger ++ newerRows) "clock") ∧
    ¬ RefusesOrClears (ledger ++ newerRows) (deleteProvider (ledger ++ newerRows) "local") ∧
    ¬ RefusesOrClears (ledger ++ newerRows) (deleteCharacter (ledger ++ newerRows) "ann") := by
  have hdangling : ∀ result : Option AdminRows,
      (¬ ∀ db' ∈ result, Holds adminSchema db') →
        ¬ RefusesOrClears (ledger ++ newerRows) result :=
    fun result hnot h => hnot fun db' hdb' => (h db' hdb').1
  refine ⟨by decide +kernel, hdangling _ ?_, hdangling _ ?_, hdangling _ ?_, hdangling _ ?_⟩ <;>
    decide +kernel

end Administration

end CocoonSit
