import CocoonSit.Removal.Schema

/-!
# Removal of messages

What edits, retries and rollbacks delete: some messages, and by hand what the code knows to refer to
them.  The memories are deleted through the session, whose flush comes last; the other statements
run at once, and the subqueries they use for the actions and audit runs give the same rows each
time, since messages and runs go last among them.
-/

namespace CocoonSit

open Relational

section Removal

variable (db : Rows) (messageIds : List RowId)

/-- `SELECT action_id FROM messages WHERE id IN message_ids`. -/
def removedActionIds : List RowId :=
  (db.filter fun r => r.table = .messages && r.id ∈ messageIds).filterMap fun r => r.refs .actionId

def removedRunIds : List RowId :=
  selectIds db .auditRuns fun r => refIn r .actionId (removedActionIds db messageIds)

def removedMemoryIds : List RowId :=
  selectIds db .memoryChunks fun r => refIn r .sourceMessageId messageIds

/-- The statements of `_delete_message_related_rows`. -/
def messageRemoval : List (DbRow → Bool) :=
  let runIds := removedRunIds db messageIds
  let memoryIds := removedMemoryIds db messageIds
  [deleteFrom .memoryTags fun r => refIn r .memoryChunkId memoryIds,
    deleteFrom .messageTags fun r => refIn r .messageId messageIds,
    deleteFrom .failedRounds fun r => refIn r .actionId (removedActionIds db messageIds),
    deleteFrom .auditLinks fun r => refIn r .runId runIds,
    deleteFrom .auditArtifacts fun r => refIn r .runId runIds,
    deleteFrom .auditSteps fun r => refIn r .runId runIds,
    deleteFrom .auditRuns fun r => r.id ∈ runIds,
    deleteFrom .messages fun r => r.id ∈ messageIds,
    deleteFrom .memoryChunks fun r => r.id ∈ memoryIds]

def deleteMessageRelatedRows : Rows :=
  if messageIds.isEmpty then db else afterDeletes db (messageRemoval db messageIds)

end Removal

/-! ## The callers -/

/-- The conversation's messages that are later than the edited one. -/
def editedMessageIds (db : Rows) (target : Target) (editedMessageId : RowId) : List RowId :=
  (findRow db .messages editedMessageId).elim [] fun edited =>
    selectIds db .messages fun r =>
      targetFilter target r && edited.data.createdAt < r.data.createdAt

def cleanupForEdit (db : Rows) (target : Target) (editedMessageId : RowId) : Rows :=
  deleteMessageRelatedRows db (editedMessageIds db target editedMessageId)

/-- The conversation's latest assistant message, of those not before the anchor if there is one. -/
def retriedMessageIds (db : Rows) (target : Target) (messageId : Option RowId) : List RowId :=
  let since := ((messageId.filter (· ≠ "")).bind (findRow db .messages)).elim 0 fun anchor =>
    anchor.data.createdAt
  let candidates := db.filter fun r => r.table = .messages && targetFilter target r &&
    r.data.role = some .assistant && since ≤ r.data.createdAt
  ((Table.orderBy (fun r : DbRow => OrderDual.toDual r.data.createdAt) candidates).take 1).map
    Row.id

def cleanupForRetry (db : Rows) (target : Target) (messageId : Option RowId) : Rows :=
  deleteMessageRelatedRows db (retriedMessageIds db target messageId)

/-- The keys a rollback draws for the rows of its audit trail. -/
structure RollbackDraws where
  runId : RowId
  stepId : RowId
  artifactId : RowId

/-- What a rollback reads before it writes: its cocoon and its anchor. -/
structure RollbackPlan where
  checkpointId : RowId
  cocoonId : RowId
  anchor : DbRow

/-- `none` where `execute` raises. -/
def rollbackPlan (db : Rows) (checkpointId : RowId) : Option RollbackPlan := do
  let checkpoint ← findRow db .checkpoints checkpointId
  let cocoonId ← checkpoint.refs .cocoonId
  let anchor ← (checkpoint.refs .anchorMessageId).bind (findRow db .messages)
  let _ ← findRow db .cocoons cocoonId
  return { checkpointId, cocoonId, anchor }

def rolledBackMessageIds (db : Rows) (plan : RollbackPlan) : List RowId :=
  selectIds db .messages fun r => r.refs .cocoonId = some plan.cocoonId &&
    plan.anchor.data.createdAt < r.data.createdAt

/-- `start_run`. -/
def rollbackRun (plan : RollbackPlan) (draws : RollbackDraws) : DbRow :=
  { table := .auditRuns, id := draws.runId, data := {}
    refs := fun | .cocoonId => some plan.cocoonId | _ => none }

/-- `start_step`. -/
def rollbackStep (draws : RollbackDraws) : DbRow :=
  { table := .auditSteps, id := draws.stepId, data := {}
    refs := fun | .runId => some draws.runId | _ => none }

def rollbackTrail (plan : RollbackPlan) (draws : RollbackDraws) : Rows :=
  [rollbackRun plan draws, rollbackStep draws]

/-- `record_json_artifact`. -/
def rollbackArtifact (draws : RollbackDraws) : DbRow :=
  { table := .auditArtifacts, id := draws.artifactId, data := {}
    refs := fun
      | .runId => some draws.runId
      | .stepId => some draws.stepId
      | _ => none }

/-- What becomes of a row of the cocoon that is not deleted. -/
def rollbackRow (plan : RollbackPlan) (r : DbRow) : DbRow :=
  match r.table with
  | .cocoons =>
    if r.id = plan.cocoonId then
      { r with refs := fun
          | .contextStartMessageId | .rollbackAnchorMsgId => some plan.anchor.id
          | column => r.refs column }
    else r
  | .checkpoints =>
    if r.refs .cocoonId = some plan.cocoonId then
      { r with data := { r.data with isActive := r.id = plan.checkpointId } }
    else r
  | .sessionStates =>
    if r.refs .cocoonId = some plan.cocoonId then
      { r with data := { r.data with
          tagsJson := plan.anchor.data.tagsJson
          personaJson := r.data.personaJson.set "rollback_checkpoint_id"
            (.str plan.checkpointId) } }
    else r
  | _ => r

/-- Rollback a cocoon to a checkpoint anchor and record an audit summary. -/
def executeRollback (db : Rows) (checkpointId : RowId) (draws : RollbackDraws) : Option Rows :=
  (rollbackPlan db checkpointId).map fun plan =>
    (deleteMessageRelatedRows (db ++ rollbackTrail plan draws) (rolledBackMessageIds db plan)).map
      (rollbackRow plan) ++ [rollbackArtifact draws]

/-! ## What is deleted -/

/-- The deletions of all statements, by table. -/
def isRemoved (db : Rows) (messageIds : List RowId) (r : DbRow) : Bool :=
  match r.table with
  | .memoryTags => refIn r .memoryChunkId (removedMemoryIds db messageIds)
  | .messageTags => refIn r .messageId messageIds
  | .failedRounds => refIn r .actionId (removedActionIds db messageIds)
  | .auditLinks | .auditArtifacts | .auditSteps => refIn r .runId (removedRunIds db messageIds)
  | .auditRuns => r.id ∈ removedRunIds db messageIds
  | .messages => r.id ∈ messageIds
  | .memoryChunks => r.id ∈ removedMemoryIds db messageIds
  | _ => false

lemma any_messageRemoval (db : Rows) (messageIds : List RowId) (r : DbRow) :
    (messageRemoval db messageIds).any (fun statement => statement r) =
      isRemoved db messageIds r := by
  unfold messageRemoval isRemoved deleteFrom
  cases htable : r.table <;> simp [htable]

lemma isRemoved_nil (db : Rows) (r : DbRow) : isRemoved db [] r = false := by
  have hmemories : removedMemoryIds db [] = [] := by simp [removedMemoryIds, selectIds, refIn]
  have hactions : removedActionIds db [] = [] := by simp [removedActionIds]
  have hruns : removedRunIds db [] = [] := by simp [removedRunIds, hactions, selectIds, refIn]
  unfold isRemoved
  cases r.table <;> simp [hmemories, hactions, hruns, refIn]

lemma deleteMessageRelatedRows_eq (db : Rows) (messageIds : List RowId) :
    deleteMessageRelatedRows db messageIds = db.filter fun r => !isRemoved db messageIds r := by
  unfold deleteMessageRelatedRows
  by_cases hempty : messageIds.isEmpty = true
  · rw [if_pos hempty, List.isEmpty_iff.mp hempty]
    simp [isRemoved_nil]
  · rw [if_neg hempty, afterDeletes_eq_filter]
    simp only [any_messageRemoval]

/-! ## When nothing is left dangling -/

def removedStepIds (db : Rows) (messageIds : List RowId) : List RowId :=
  selectIds db .auditSteps fun r => refIn r .runId (removedRunIds db messageIds)

def removedArtifactIds (db : Rows) (messageIds : List RowId) : List RowId :=
  selectIds db .auditArtifacts fun r => refIn r .runId (removedRunIds db messageIds)

/-- No row that stays refers to one that goes.  `reset` is a cocoon whose two anchors are set anew
in the same go. -/
structure NoReferenceLeft (db : Rows) (messageIds : List RowId) (reset : Option RowId) : Prop where
  embeddings : ∀ r ∈ db, r.table = .memoryEmbeddings →
    refIn r .memoryChunkId (removedMemoryIds db messageIds) = false
  checkpoints : ∀ r ∈ db, r.table = .checkpoints → refIn r .anchorMessageId messageIds = false
  cocoons : ∀ r ∈ db, r.table = .cocoons → reset ≠ some r.id →
    refIn r .contextStartMessageId messageIds = false ∧
      refIn r .rollbackAnchorMsgId messageIds = false
  outbox : ∀ r ∈ db, r.table = .pluginImDeliveryOutbox → refIn r .messageId messageIds = false
  /-- Artifacts of other runs on a step that goes. -/
  artifacts : ∀ r ∈ db, r.table = .auditArtifacts →
    refIn r .stepId (removedStepIds db messageIds) = true →
      refIn r .runId (removedRunIds db messageIds) = true
  /-- Links of other runs from or to a step or an artifact that goes. -/
  links : ∀ r ∈ db, r.table = .auditLinks →
    (refIn r .sourceStepId (removedStepIds db messageIds) ||
      refIn r .targetStepId (removedStepIds db messageIds) ||
      refIn r .sourceArtifactId (removedArtifactIds db messageIds) ||
      refIn r .targetArtifactId (removedArtifactIds db messageIds)) = true →
        refIn r .runId (removedRunIds db messageIds) = true

variable {db : Rows} {messageIds : List RowId}

lemma holds_deleteMessageRelatedRows_iff (hdb : Holds dbSchema db) (hkeys : UniqueKeys db) :
    Holds dbSchema (deleteMessageRelatedRows db messageIds) ↔
      NoReferenceLeft db messageIds none := by
  rw [deleteMessageRelatedRows_eq, holds_filter_iff hdb hkeys]
  constructor
  · intro h
    -- a row that stays does not refer to a row that goes
    have hstay : ∀ r ∈ db, isRemoved db messageIds r = false → ∀ c, c.enforced = true →
        dbSchema.has r.table c = true → ∀ ids, (∀ r' ∈ db, r'.table = c.target → r'.id ∈ ids →
          isRemoved db messageIds r' = true) → refIn r c ids = false := by
      intro r hr hkept c henforced hhas ids hids
      by_contra href
      rw [Bool.not_eq_false] at href
      obtain ⟨r', hr', hrefers, htable, hid⟩ := exists_of_refIn hdb hr henforced hhas href
      have hgoes := hids r' hr' htable hid
      have hstays := h r hr r' hr' c henforced hrefers (by rw [hkept]; rfl)
      rw [hgoes] at hstays
      cases hstays
    -- the rows that go, by their keys
    have hmemories : ∀ r' ∈ db, r'.table = .memoryChunks →
        r'.id ∈ removedMemoryIds db messageIds → isRemoved db messageIds r' = true := by
      intro r' _ htable hid
      simp [isRemoved, htable, hid]
    have hmessages : ∀ r' ∈ db, r'.table = .messages → r'.id ∈ messageIds →
        isRemoved db messageIds r' = true := by
      intro r' _ htable hid
      simp [isRemoved, htable, hid]
    have hsteps : ∀ r' ∈ db, r'.table = .auditSteps → r'.id ∈ removedStepIds db messageIds →
        isRemoved db messageIds r' = true := by
      intro r' hr' htable hid
      simp [isRemoved, htable, (mem_selectIds_of_mem hkeys hr' htable).mp hid]
    have hartifacts : ∀ r' ∈ db, r'.table = .auditArtifacts →
        r'.id ∈ removedArtifactIds db messageIds → isRemoved db messageIds r' = true := by
      intro r' hr' htable hid
      simp [isRemoved, htable, (mem_selectIds_of_mem hkeys hr' htable).mp hid]
    refine ⟨fun r hr htable => ?_, fun r hr htable => ?_, fun r hr htable _ => ⟨?_, ?_⟩,
      fun r hr htable => ?_, fun r hr htable href => ?_, fun r hr htable href => ?_⟩
    · exact hstay r hr (by simp [isRemoved, htable]) .memoryChunkId rfl (by rw [htable]; rfl) _
        hmemories
    · exact hstay r hr (by simp [isRemoved, htable]) .anchorMessageId rfl (by rw [htable]; rfl) _
        hmessages
    · exact hstay r hr (by simp [isRemoved, htable]) .contextStartMessageId rfl
        (by rw [htable]; rfl) _ hmessages
    · exact hstay r hr (by simp [isRemoved, htable]) .rollbackAnchorMsgId rfl
        (by rw [htable]; rfl) _ hmessages
    · exact hstay r hr (by simp [isRemoved, htable]) .messageId rfl (by rw [htable]; rfl) _
        hmessages
    · by_contra hrun
      have hkept : isRemoved db messageIds r = false := by simpa [isRemoved, htable] using hrun
      rw [hstay r hr hkept .stepId rfl (by rw [htable]; rfl) _ hsteps] at href
      cases href
    · by_contra hrun
      have hkept : isRemoved db messageIds r = false := by simpa [isRemoved, htable] using hrun
      rw [hstay r hr hkept .sourceStepId rfl (by rw [htable]; rfl) _ hsteps,
        hstay r hr hkept .targetStepId rfl (by rw [htable]; rfl) _ hsteps,
        hstay r hr hkept .sourceArtifactId rfl (by rw [htable]; rfl) _ hartifacts,
        hstay r hr hkept .targetArtifactId rfl (by rw [htable]; rfl) _ hartifacts] at href
      cases href
  · intro h r hr r' hr' c henforced hrefers hkept
    rw [Bool.not_eq_true'] at hkept ⊢
    by_contra hgoes
    rw [Bool.not_eq_false] at hgoes
    have htarget : c.target = r'.table := hrefers.2.1
    have hhas : dbSchema.has r.table c = true := hrefers.1
    -- only messages, memories and audit rows go, and only these columns refer to them
    cases c with
    | contextStartMessageId =>
      have hid : r'.id ∈ messageIds := by simpa [isRemoved, ← htarget, Column.target] using hgoes
      have href := (h.cocoons r hr (has_contextStart hhas) (by simp)).1
      rw [refIn_of_refersTo hrefers hid] at href
      cases href
    | rollbackAnchorMsgId =>
      have hid : r'.id ∈ messageIds := by simpa [isRemoved, ← htarget, Column.target] using hgoes
      have href := (h.cocoons r hr (has_rollbackAnchor hhas) (by simp)).2
      rw [refIn_of_refersTo hrefers hid] at href
      cases href
    | messageId =>
      have hid : r'.id ∈ messageIds := by simpa [isRemoved, ← htarget, Column.target] using hgoes
      have href := refIn_of_refersTo hrefers hid
      rcases has_messageId hhas with htable | htable
      · simp [isRemoved, htable, href] at hkept
      · rw [h.outbox r hr htable] at href
        cases href
    | sourceMessageId =>
      have hid : r'.id ∈ messageIds := by simpa [isRemoved, ← htarget, Column.target] using hgoes
      have htable := has_sourceMessageId hhas
      have hmemory : r.id ∈ removedMemoryIds db messageIds :=
        (mem_selectIds_of_mem hkeys hr htable).mpr (refIn_of_refersTo hrefers hid)
      simp [isRemoved, htable, hmemory] at hkept
    | anchorMessageId =>
      have hid : r'.id ∈ messageIds := by simpa [isRemoved, ← htarget, Column.target] using hgoes
      have href := h.checkpoints r hr (has_anchorMessageId hhas)
      rw [refIn_of_refersTo hrefers hid] at href
      cases href
    | memoryChunkId =>
      have hid : r'.id ∈ removedMemoryIds db messageIds := by
        simpa [isRemoved, ← htarget, Column.target] using hgoes
      have href := refIn_of_refersTo hrefers hid
      rcases has_memoryChunkId hhas with htable | htable
      · rw [h.embeddings r hr htable] at href
        cases href
      · simp [isRemoved, htable, href] at hkept
    | runId =>
      have hid : r'.id ∈ removedRunIds db messageIds := by
        simpa [isRemoved, ← htarget, Column.target] using hgoes
      have href := refIn_of_refersTo hrefers hid
      rcases has_runId hhas with htable | htable | htable <;>
        simp [isRemoved, htable, href] at hkept
    | stepId =>
      have hrun : refIn r' .runId (removedRunIds db messageIds) = true := by
        simpa [isRemoved, ← htarget, Column.target] using hgoes
      have hid : r'.id ∈ removedStepIds db messageIds :=
        (mem_selectIds_of_mem hkeys hr' htarget.symm).mpr hrun
      have htable := has_stepId hhas
      have href := h.artifacts r hr htable (refIn_of_refersTo hrefers hid)
      simp [isRemoved, htable, href] at hkept
    | sourceStepId | targetStepId =>
      have hrun : refIn r' .runId (removedRunIds db messageIds) = true := by
        simpa [isRemoved, ← htarget, Column.target] using hgoes
      have hid : r'.id ∈ removedStepIds db messageIds :=
        (mem_selectIds_of_mem hkeys hr' htarget.symm).mpr hrun
      have htable := has_linkColumn (by simp) hhas
      have href := h.links r hr htable (by simp [refIn_of_refersTo hrefers hid])
      simp [isRemoved, htable, href] at hkept
    | sourceArtifactId | targetArtifactId =>
      have hrun : refIn r' .runId (removedRunIds db messageIds) = true := by
        simpa [isRemoved, ← htarget, Column.target] using hgoes
      have hid : r'.id ∈ removedArtifactIds db messageIds :=
        (mem_selectIds_of_mem hkeys hr' htarget.symm).mpr hrun
      have htable := has_linkColumn (by simp) hhas
      have href := h.links r hr htable (by simp [refIn_of_refersTo hrefers hid])
      simp [isRemoved, htable, href] at hkept
    | _ => simp [isRemoved, ← htarget, Column.target] at hgoes

end CocoonSit
