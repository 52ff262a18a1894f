import CocoonSit.Lib.Relational
import CocoonSit.Model.Entities

/-!
# The schema of the conversation tables

The tables that the removal of messages, cocoons and rooms touches, or whose rows refer to what is
removed, with the columns through which they do.  A column that several tables have is written
once: `cocoonId` is the `cocoon_id` of each of them.

Two kinds of columns are left out, since nothing here deletes from the tables they refer to:
foreign keys to models, plugins and embedding providers, and those to users and characters except
of cocoons.  The plugin tables that name a conversation by `target_type` and `target_id` have no
foreign key; the pair is one of the two columns at the end of the list.
-/

namespace CocoonSit

open Relational

inductive TableName where
  | users | characters | cocoons | chatGroupRooms | chatGroupMembers | cocoonTagBindings
  | chatGroupTagBindings | tagChatGroupVisibility | sessionStates | messages | messageTags
  | memoryChunks | memoryEmbeddings | memoryTags | memoryCandidates | factCacheEntries
  | targetTaskStates | failedRounds | auditRuns | auditSteps | auditArtifacts | auditLinks
  | actionDispatches | durableJobs | wakeupTasks | cocoonPullJobs | cocoonMergeJobs | checkpoints
  | pluginDispatchRecords | pluginImDeliveryOutbox | pluginChatGroupConfigs | pluginImTargetRoutes
  | pluginTargetBindings
deriving DecidableEq, Repr

inductive Column where
  | parentId | ownerUserId | characterId | contextStartMessageId | rollbackAnchorMsgId
  | cocoonId | chatGroupId | roomId | actionId
  | messageId | sourceMessageId | anchorMessageId
  | memoryChunkId
  | runId | stepId | sourceArtifactId | sourceStepId | targetArtifactId | targetStepId
  | wakeupTaskId | currentWakeupTaskId | supersededByTaskId
  | durableJobId | sourceCocoonId | targetCocoonId
  | targetIdOfCocoon | targetIdOfChatGroup
deriving DecidableEq, Repr

def TableName.columns : TableName → List Column
  | .users | .characters | .chatGroupRooms => []
  | .cocoons =>
    [.parentId, .ownerUserId, .characterId, .contextStartMessageId, .rollbackAnchorMsgId]
  | .chatGroupMembers => [.roomId]
  | .cocoonTagBindings => [.cocoonId]
  | .chatGroupTagBindings | .tagChatGroupVisibility | .pluginChatGroupConfigs => [.chatGroupId]
  | .sessionStates => [.cocoonId, .chatGroupId, .currentWakeupTaskId]
  | .messages | .failedRounds | .auditRuns => [.cocoonId, .chatGroupId, .actionId]
  | .messageTags => [.messageId]
  | .memoryChunks => [.cocoonId, .chatGroupId, .sourceMessageId]
  | .memoryEmbeddings | .memoryTags => [.memoryChunkId]
  | .memoryCandidates | .factCacheEntries | .targetTaskStates | .actionDispatches | .durableJobs =>
    [.cocoonId, .chatGroupId]
  | .auditSteps => [.runId]
  | .auditArtifacts => [.runId, .stepId]
  | .auditLinks => [.runId, .sourceArtifactId, .sourceStepId, .targetArtifactId, .targetStepId]
  | .wakeupTasks => [.cocoonId, .chatGroupId, .supersededByTaskId]
  | .cocoonPullJobs | .cocoonMergeJobs => [.durableJobId, .sourceCocoonId, .targetCocoonId]
  | .checkpoints => [.cocoonId, .anchorMessageId]
  | .pluginDispatchRecords => [.wakeupTaskId, .targetIdOfCocoon, .targetIdOfChatGroup]
  | .pluginImDeliveryOutbox => [.actionId, .messageId]
  | .pluginImTargetRoutes | .pluginTargetBindings => [.targetIdOfCocoon, .targetIdOfChatGroup]

/-- The table a column refers to. -/
def Column.target : Column → TableName
  | .ownerUserId => .users
  | .characterId => .characters
  | .parentId | .cocoonId | .sourceCocoonId | .targetCocoonId | .targetIdOfCocoon => .cocoons
  | .chatGroupId | .roomId | .targetIdOfChatGroup => .chatGroupRooms
  | .contextStartMessageId | .rollbackAnchorMsgId | .messageId | .sourceMessageId
  | .anchorMessageId => .messages
  | .actionId => .actionDispatches
  | .memoryChunkId => .memoryChunks
  | .runId => .auditRuns
  | .stepId | .sourceStepId | .targetStepId => .auditSteps
  | .sourceArtifactId | .targetArtifactId => .auditArtifacts
  | .wakeupTaskId | .currentWakeupTaskId | .supersededByTaskId => .wakeupTasks
  | .durableJobId => .durableJobs

/-- The column is a foreign key. -/
def Column.enforced : Column → Bool
  | .targetIdOfCocoon | .targetIdOfChatGroup => false
  | _ => true

/-- What the removals read or write of a row next to its references. -/
structure RowData where
  createdAt : Timestamp := 0
  /-- `messages.role`. -/
  role : Option MessageRole := none
  /-- `checkpoints.is_active`. -/
  isActive : Bool := true
  /-- `messages.tags_json`, `session_states.active_tags_json`. -/
  tagsJson : List RowId := []
  /-- `session_states.persona_json`. -/
  personaJson : JsonDict := .empty

abbrev DbRow := Relational.Row TableName Column RowId RowData

/-- The tables as one list of rows. -/
abbrev Rows := List DbRow

def dbSchema : Schema TableName Column where
  has table column := column ∈ table.columns
  target := Column.target
  enforced := Column.enforced

instance (db : Rows) : Decidable (Holds dbSchema db) :=
  decidable_of_iff (∀ r ∈ db, ∀ c ∈ r.table.columns, c.enforced = true →
      ∀ k ∈ (r.refs c).toList, ∃ r' ∈ db, r'.table = c.target ∧ r'.id = k) (by
    simp only [Holds, dbSchema, Option.mem_toList, Option.mem_def, decide_eq_true_eq]
    constructor
    · intro h r hr c henforced hhas
      exact h r hr c hhas henforced
    · intro h r hr c hhas henforced
      exact h r hr c henforced hhas)

instance (db : Rows) : Decidable (UniqueKeys db) :=
  inferInstanceAs (Decidable (List.Nodup _))

/-- `column IN ids`; NULL is in no list. -/
def refIn (r : DbRow) (column : Column) (ids : List RowId) : Bool :=
  (r.refs column).any fun id => id ∈ ids

/-- `SELECT id FROM table WHERE p`. -/
def selectIds (db : Rows) (table : TableName) (p : DbRow → Bool) : List RowId :=
  (db.filter fun r => r.table = table && p r).map Row.id

/-- `session.get`. -/
def findRow (db : Rows) (table : TableName) (id : RowId) : Option DbRow :=
  db.find? fun r => r.table = table && r.id = id

/-- `build_target_filter`. -/
def targetFilter (target : Target) (r : DbRow) : Bool :=
  r.refs .cocoonId = target.cocoonId? && r.refs .chatGroupId = target.chatGroupId?

/-- `DELETE FROM table WHERE p`, as the rows it deletes. -/
def deleteFrom (table : TableName) (p : DbRow → Bool) (r : DbRow) : Bool :=
  r.table = table && p r

lemma refIn_eq_true {r : DbRow} {column : Column} {ids : List RowId} :
    refIn r column ids = true ↔ ∃ id ∈ ids, r.refs column = some id := by
  simp only [refIn, Option.any_eq_true, decide_eq_true_eq]
  constructor
  · rintro ⟨id, hid, hmem⟩
    exact ⟨id, hmem, hid⟩
  · rintro ⟨id, hmem, hid⟩
    exact ⟨id, hid, hmem⟩

lemma mem_selectIds {db : Rows} {table : TableName} {p : DbRow → Bool} {id : RowId} :
    id ∈ selectIds db table p ↔ ∃ r ∈ db, r.table = table ∧ p r = true ∧ r.id = id := by
  simp [selectIds, and_assoc]

lemma mem_selectIds_of_mem {db : Rows} (hkeys : UniqueKeys db) {table : TableName}
    {p : DbRow → Bool} {r : DbRow} (hr : r ∈ db) (htable : r.table = table) :
    r.id ∈ selectIds db table p ↔ p r = true := by
  rw [mem_selectIds]
  constructor
  · rintro ⟨r', hr', htable', hp, hid⟩
    rwa [hkeys.eq hr' hr (htable'.trans htable.symm) hid] at hp
  · intro hp
    exact ⟨r, hr, htable, hp, rfl⟩

/-! ## The tables that have a column -/

section Has

variable {t : TableName}

lemma has_contextStart (h : dbSchema.has t .contextStartMessageId = true) : t = .cocoons := by
  revert h
  cases t <;> decide

lemma has_rollbackAnchor (h : dbSchema.has t .rollbackAnchorMsgId = true) : t = .cocoons := by
  revert h
  cases t <;> decide

lemma has_messageId (h : dbSchema.has t .messageId = true) :
    t = .messageTags ∨ t = .pluginImDeliveryOutbox := by
  revert h
  cases t <;> decide

lemma has_sourceMessageId (h : dbSchema.has t .sourceMessageId = true) : t = .memoryChunks := by
  revert h
  cases t <;> decide

lemma has_anchorMessageId (h : dbSchema.has t .anchorMessageId = true) : t = .checkpoints := by
  revert h
  cases t <;> decide

lemma has_memoryChunkId (h : dbSchema.has t .memoryChunkId = true) :
    t = .memoryEmbeddings ∨ t = .memoryTags := by
  revert h
  cases t <;> decide

lemma has_runId (h : dbSchema.has t .runId = true) :
    t = .auditSteps ∨ t = .auditArtifacts ∨ t = .auditLinks := by
  revert h
  cases t <;> decide

lemma has_stepId (h : dbSchema.has t .stepId = true) : t = .auditArtifacts := by
  revert h
  cases t <;> decide

lemma has_linkColumn {c : Column} (hc : c = .sourceStepId ∨ c = .targetStepId ∨
    c = .sourceArtifactId ∨ c = .targetArtifactId) (h : dbSchema.has t c = true) :
    t = .auditLinks := by
  revert h
  rcases hc with rfl | rfl | rfl | rfl <;> cases t <;> decide

lemma has_parentId (h : dbSchema.has t .parentId = true) : t = .cocoons := by
  revert h
  cases t <;> decide

lemma has_roomId (h : dbSchema.has t .roomId = true) : t = .chatGroupMembers := by
  revert h
  cases t <;> decide

lemma has_actionId (h : dbSchema.has t .actionId = true) :
    t = .messages ∨ t = .failedRounds ∨ t = .auditRuns ∨ t = .pluginImDeliveryOutbox := by
  revert h
  cases t <;> decide

lemma has_wakeupTaskId (h : dbSchema.has t .wakeupTaskId = true) : t = .pluginDispatchRecords := by
  revert h
  cases t <;> decide

lemma has_currentWakeupTaskId (h : dbSchema.has t .currentWakeupTaskId = true) :
    t = .sessionStates := by
  revert h
  cases t <;> decide

lemma has_supersededByTaskId (h : dbSchema.has t .supersededByTaskId = true) :
    t = .wakeupTasks := by
  revert h
  cases t <;> decide

lemma has_jobColumn {c : Column} (hc : c = .durableJobId ∨ c = .sourceCocoonId ∨
    c = .targetCocoonId) (h : dbSchema.has t c = true) :
    t = .cocoonPullJobs ∨ t = .cocoonMergeJobs := by
  revert h
  rcases hc with rfl | rfl | rfl <;> cases t <;> decide

lemma has_targetId {c : Column} (hc : c = .targetIdOfCocoon ∨ c = .targetIdOfChatGroup)
    (h : dbSchema.has t c = true) :
    t = .pluginDispatchRecords ∨ t = .pluginImTargetRoutes ∨ t = .pluginTargetBindings := by
  revert h
  rcases hc with rfl | rfl <;> cases t <;> decide

lemma has_cocoonId (h : dbSchema.has t .cocoonId = true) :
    t ∈ [.cocoonTagBindings, .sessionStates, .messages, .memoryChunks, .memoryCandidates,
      .factCacheEntries, .targetTaskStates, .failedRounds, .auditRuns, .actionDispatches,
      .durableJobs, .wakeupTasks, (.checkpoints : TableName)] := by
  revert h
  cases t <;> decide

lemma has_chatGroupId (h : dbSchema.has t .chatGroupId = true) :
    t ∈ [.chatGroupTagBindings, .tagChatGroupVisibility, .pluginChatGroupConfigs, .sessionStates,
      .messages, .memoryChunks, .memoryCandidates, .factCacheEntries, .targetTaskStates,
      .failedRounds, .auditRuns, .actionDispatches, .durableJobs, (.wakeupTasks : TableName)] := by
  revert h
  cases t <;> decide

end Has

lemma refIn_of_refersTo {r r' : DbRow} {c : Column} {ids : List RowId}
    (h : RefersTo dbSchema r c r') (hid : r'.id ∈ ids) : refIn r c ids = true :=
  refIn_eq_true.mpr ⟨r'.id, hid, h.2.2⟩

lemma exists_of_refIn {db : Rows} (hdb : Holds dbSchema db) {r : DbRow} {c : Column}
    {ids : List RowId}
    (hr : r ∈ db) (henforced : c.enforced = true) (hhas : dbSchema.has r.table c = true)
    (h : refIn r c ids = true) : ∃ r' ∈ db, RefersTo dbSchema r c r' ∧ r'.table = c.target ∧
      r'.id ∈ ids := by
  obtain ⟨id, hid, href⟩ := refIn_eq_true.mp h
  obtain ⟨r', hr', htable, rfl⟩ := hdb r hr c henforced hhas id href
  exact ⟨r', hr', ⟨hhas, htable.symm, href⟩, htable, hid⟩

end CocoonSit
