import CocoonSit.Removal.Schema

/-!
# Removal of conversations

What the deletion of a cocoon's subtree and of a chat-group room executes: statement after
statement, each on one table, over keys that were selected before.  From the memories to the
actions both do the same.

A selection that comes between the statements finds what it would have found at the start, since
what it reads goes later.  In the same way the default tag's binding, which reading a room's session
state makes sure of, goes with the room's other bindings, and is taken to be there from the start.
-/

namespace CocoonSit

open Relational

/-- A statement's table and condition. -/
abbrev Deletion := TableName × (DbRow → Bool)

/-! ## The statements -/

section Statements

variable (db : Rows) (column : Column) (ids : List RowId)

/-- The keys of the conversations' rows in a table. -/
def ownedIds (table : TableName) : List RowId :=
  selectIds db table fun r => refIn r column ids

def ownedStepIds : List RowId :=
  selectIds db .auditSteps fun r => refIn r .runId (ownedIds db column ids .auditRuns)

def ownedArtifactIds : List RowId :=
  selectIds db .auditArtifacts fun r => refIn r .runId (ownedIds db column ids .auditRuns)

/-- From the memories to the actions. -/
def conversationDeletions : List Deletion :=
  let actionIds := ownedIds db column ids .actionDispatches
  let runIds := ownedIds db column ids .auditRuns
  let stepIds := ownedStepIds db column ids
  let artifactIds := ownedArtifactIds db column ids
  let messageIds := ownedIds db column ids .messages
  let memoryIds := ownedIds db column ids .memoryChunks
  [(.memoryTags, fun r => refIn r .memoryChunkId memoryIds),
    (.memoryEmbeddings, fun r => refIn r .memoryChunkId memoryIds),
    (.memoryChunks, fun r => r.id ∈ memoryIds),
    (.pluginImDeliveryOutbox, fun r => refIn r .messageId messageIds ||
      refIn r .actionId actionIds),
    (.messageTags, fun r => refIn r .messageId messageIds),
    (.messages, fun r => r.id ∈ messageIds),
    (.auditLinks, fun r => refIn r .sourceStepId stepIds || refIn r .targetStepId stepIds),
    (.auditLinks, fun r => refIn r .sourceArtifactId artifactIds ||
      refIn r .targetArtifactId artifactIds),
    (.auditArtifacts, fun r => r.id ∈ artifactIds),
    (.auditSteps, fun r => refIn r .runId runIds),
    (.auditRuns, fun r => r.id ∈ runIds),
    (.failedRounds, fun r => refIn r column ids || refIn r .actionId actionIds),
    (.actionDispatches, fun r => r.id ∈ actionIds)]

/-- The statements of `_delete_cocoon_subtree`. -/
def deleteCocoonSubtree : List Deletion :=
  [(.sessionStates, fun r => refIn r .cocoonId ids),
    (.targetTaskStates, fun r => refIn r .cocoonId ids),
    (.factCacheEntries, fun r => refIn r .cocoonId ids),
    (.memoryCandidates, fun r => refIn r .cocoonId ids),
    (.cocoonTagBindings, fun r => refIn r .cocoonId ids),
    (.checkpoints, fun r => refIn r .cocoonId ids),
    (.pluginDispatchRecords, fun r => refIn r .wakeupTaskId
      (ownedIds db .cocoonId ids .wakeupTasks)),
    (.wakeupTasks, fun r => refIn r .cocoonId ids),
    (.cocoonPullJobs, fun r => refIn r .sourceCocoonId ids || refIn r .targetCocoonId ids),
    (.cocoonMergeJobs, fun r => refIn r .sourceCocoonId ids || refIn r .targetCocoonId ids),
    (.durableJobs, fun r => r.id ∈ ownedIds db .cocoonId ids .durableJobs)] ++
  conversationDeletions db .cocoonId ids ++
  [(TableName.cocoons, fun r : DbRow => decide (r.id ∈ ids))]

/-- The statements of `_cleanup_room`; the session state's goes with the flush at the end. -/
def cleanupRoom (roomId : RowId) : List Deletion :=
  [(.pluginDispatchRecords,
      fun r => refIn r .wakeupTaskId (ownedIds db .chatGroupId [roomId] .wakeupTasks)),
    (.wakeupTasks, fun r => refIn r .chatGroupId [roomId]),
    (.durableJobs, fun r => r.id ∈ ownedIds db .chatGroupId [roomId] .durableJobs)] ++
  conversationDeletions db .chatGroupId [roomId] ++
  [(TableName.tagChatGroupVisibility, fun r : DbRow => refIn r .chatGroupId [roomId]),
    (.chatGroupTagBindings, fun r => refIn r .chatGroupId [roomId]),
    (.chatGroupMembers, fun r => refIn r .roomId [roomId]),
    (.sessionStates, fun r => targetFilter (.chatGroup roomId) r)]

/-- The statements of `ChatGroupService.delete_room`; no memory of the room is left by then. -/
def deleteRoom (roomId : RowId) : List Deletion :=
  [(.memoryCandidates, fun r => refIn r .chatGroupId [roomId]),
    (.factCacheEntries, fun r => refIn r .chatGroupId [roomId]),
    (.sessionStates, fun r => refIn r .chatGroupId [roomId]),
    (.targetTaskStates, fun r => refIn r .chatGroupId [roomId]),
    (.chatGroupMembers, fun r => refIn r .roomId [roomId]),
    (.chatGroupRooms, fun r => r.id = roomId)]

def deleteChatGroup (roomId : RowId) : List Deletion :=
  cleanupRoom db roomId ++ deleteRoom roomId

/-! ## What goes -/

/-- What both removals delete. -/
def conversationGoes (r : DbRow) : Bool :=
  match r.table with
  | .pluginDispatchRecords => refIn r .wakeupTaskId (ownedIds db column ids .wakeupTasks)
  | .wakeupTasks => refIn r column ids
  | .durableJobs => r.id ∈ ownedIds db column ids .durableJobs
  | .memoryTags | .memoryEmbeddings =>
    refIn r .memoryChunkId (ownedIds db column ids .memoryChunks)
  | .memoryChunks => r.id ∈ ownedIds db column ids .memoryChunks
  | .pluginImDeliveryOutbox => refIn r .messageId (ownedIds db column ids .messages) ||
      refIn r .actionId (ownedIds db column ids .actionDispatches)
  | .messageTags => refIn r .messageId (ownedIds db column ids .messages)
  | .messages => r.id ∈ ownedIds db column ids .messages
  | .auditLinks =>
    (refIn r .sourceStepId (ownedStepIds db column ids) ||
      refIn r .targetStepId (ownedStepIds db column ids)) ||
    (refIn r .sourceArtifactId (ownedArtifactIds db column ids) ||
      refIn r .targetArtifactId (ownedArtifactIds db column ids))
  | .auditArtifacts => r.id ∈ ownedArtifactIds db column ids
  | .auditSteps => refIn r .runId (ownedIds db column ids .auditRuns)
  | .auditRuns => r.id ∈ ownedIds db column ids .auditRuns
  | .failedRounds => refIn r column ids ||
      refIn r .actionId (ownedIds db column ids .actionDispatches)
  | .actionDispatches => r.id ∈ ownedIds db column ids .actionDispatches
  | _ => false

def cocoonGoes (r : DbRow) : Bool :=
  match r.table with
  | .sessionStates | .targetTaskStates | .factCacheEntries | .memoryCandidates
  | .cocoonTagBindings | .checkpoints => refIn r .cocoonId ids
  | .cocoonPullJobs | .cocoonMergeJobs =>
    refIn r .sourceCocoonId ids || refIn r .targetCocoonId ids
  | .cocoons => r.id ∈ ids
  | _ => conversationGoes db .cocoonId ids r

def roomGoes (roomId : RowId) (r : DbRow) : Bool :=
  match r.table with
  | .tagChatGroupVisibility | .chatGroupTagBindings | .memoryCandidates | .factCacheEntries
  | .sessionStates | .targetTaskStates => refIn r .chatGroupId [roomId]
  | .chatGroupMembers => refIn r .roomId [roomId]
  | .chatGroupRooms => r.id = roomId
  | _ => conversationGoes db .chatGroupId [roomId] r

lemma goes_deleteCocoonSubtree (r : DbRow) :
    goes (deleteCocoonSubtree db ids) r = cocoonGoes db ids r := by
  unfold goes deleteCocoonSubtree conversationDeletions cocoonGoes conversationGoes tableDelete
  cases r.table <;> simp

lemma goes_deleteChatGroup (roomId : RowId) (r : DbRow) :
    goes (deleteChatGroup db roomId) r = roomGoes db roomId r := by
  unfold goes deleteChatGroup cleanupRoom deleteRoom conversationDeletions roomGoes
    conversationGoes tableDelete
  cases r.table <;> simp
  -- the session state is looked for twice
  intro htarget
  have hroom : r.refs .chatGroupId = some roomId := by
    exact of_decide_eq_true (Bool.and_eq_true_iff.mp htarget).2
  simp [refIn, hroom]

end Statements

/-! ## Order

Only these columns refer to a table whose turn comes sooner than their own. -/

/-- Cocoons go last, their anchors among the messages. -/
def cocoonLate : List Column := [.contextStartMessageId, .rollbackAnchorMsgId]

/-- A room's session state goes when its wakeups are gone. -/
def roomLate : List Column := [.currentWakeupTaskId]

def cocoonTables : List TableName :=
  [.sessionStates, .targetTaskStates, .factCacheEntries, .memoryCandidates, .cocoonTagBindings,
    .checkpoints, .pluginDispatchRecords, .wakeupTasks, .cocoonPullJobs, .cocoonMergeJobs,
    .durableJobs, .memoryTags, .memoryEmbeddings, .memoryChunks, .pluginImDeliveryOutbox,
    .messageTags, .messages, .auditLinks, .auditLinks, .auditArtifacts, .auditSteps, .auditRuns,
    .failedRounds, .actionDispatches, .cocoons]

def roomTables : List TableName :=
  [.pluginDispatchRecords, .wakeupTasks, .durableJobs, .memoryTags, .memoryEmbeddings,
    .memoryChunks, .pluginImDeliveryOutbox, .messageTags, .messages, .auditLinks, .auditLinks,
    .auditArtifacts, .auditSteps, .auditRuns, .failedRounds, .actionDispatches,
    .tagChatGroupVisibility, .chatGroupTagBindings, .chatGroupMembers, .sessionStates,
    .memoryCandidates, .factCacheEntries, .sessionStates, .targetTaskStates, .chatGroupMembers,
    .chatGroupRooms]

lemma separate_cocoonTables : Separate dbSchema cocoonTables := by
  have h : ∀ t ∈ cocoonTables, ∀ c ∈ t.columns, c.target ∈ cocoonTables →
      lastPlace cocoonTables t ≤ firstPlace cocoonTables c.target ∨
        lastPlace cocoonTables c.target < firstPlace cocoonTables t := by
    decide +kernel
  exact fun t ht c hhas => h t ht c (of_decide_eq_true hhas)

lemma separate_roomTables : Separate dbSchema roomTables := by
  have h : ∀ t ∈ roomTables, ∀ c ∈ t.columns, c.target ∈ roomTables →
      lastPlace roomTables t ≤ firstPlace roomTables c.target ∨
        lastPlace roomTables c.target < firstPlace roomTables t := by
    decide +kernel
  exact fun t ht c hhas => h t ht c (of_decide_eq_true hhas)

lemma cocoonTables_order : ∀ t ∈ cocoonTables, ∀ c ∈ t.columns, c.target ∈ cocoonTables →
    c.enforced = true → (lastPlace cocoonTables t ≤ firstPlace cocoonTables c.target ↔
      c ∉ cocoonLate) := by
  decide +kernel

lemma roomTables_order : ∀ t ∈ roomTables, ∀ c ∈ t.columns, c.target ∈ roomTables →
    c.enforced = true → (lastPlace roomTables t ≤ firstPlace roomTables c.target ↔
      c ∉ roomLate) := by
  decide +kernel

/-- Every foreign key holds after every statement, and in the end nothing refers to what is gone. -/
def TakenDown (db : Rows) (deletions : List Deletion) : Prop :=
  HoldsThroughout dbSchema db (deletions.map tableDelete) ∧
    NothingLeft dbSchema db (deletions.map tableDelete)

/-- What refers to a row that goes itself goes, and in time. -/
def CutClean (db : Rows) (gone : DbRow → Bool) (late : List Column) : Prop :=
  ∀ r ∈ db, ∀ r' ∈ db, ∀ c, RefersTo dbSchema r c r' → gone r' = true →
    gone r = true ∧ c ∉ late

section Order

variable {db : Rows} {deletions : List Deletion} {tables : List TableName} {late : List Column}

lemma table_mem_of_goes {r : DbRow} (htables : deletions.map Prod.fst = tables)
    (h : goes deletions r = true) : r.table ∈ tables := by
  obtain ⟨hlt, htable⟩ := stage_mem h
  rw [← htables, ← htable]
  exact List.getElem_mem hlt

lemma takenDown_iff_cutClean (hdb : Holds dbSchema db) (hkeys : UniqueKeys db)
    (htables : deletions.map Prod.fst = tables) (hseparate : Separate dbSchema tables)
    (horder : ∀ t ∈ tables, ∀ c ∈ t.columns, c.target ∈ tables → c.enforced = true →
      (lastPlace tables t ≤ firstPlace tables c.target ↔ c ∉ late))
    (hlate : ∀ c ∈ late, c.enforced = true) :
    TakenDown db deletions ↔ CutClean db (goes deletions) late := by
  have hplace : ∀ r r' c, RefersTo dbSchema r c r' → goes deletions r' = true →
      goes deletions r = true → c.enforced = true →
        (lastPlace tables r.table ≤ firstPlace tables c.target ↔ c ∉ late) := by
    intro r r' c hrefers hgone' hgone henforced
    have htarget : c.target = r'.table := hrefers.2.1
    exact horder r.table (table_mem_of_goes htables hgone) c (of_decide_eq_true hrefers.1)
      (htarget ▸ table_mem_of_goes htables hgone') henforced
  unfold TakenDown
  rw [takenDown_iff hdb hkeys htables hseparate]
  constructor
  · intro h r hr r' hr' c hrefers hgone'
    obtain ⟨hgone, hearly⟩ := h r hr r' hr' c hrefers hgone'
    refine ⟨hgone, fun hc => ?_⟩
    have henforced := hlate c hc
    exact (hplace r r' c hrefers hgone' hgone henforced).mp (hearly henforced) hc
  · intro h r hr r' hr' c hrefers hgone'
    obtain ⟨hgone, hc⟩ := h r hr r' hr' c hrefers hgone'
    exact ⟨hgone, fun henforced => (hplace r r' c hrefers hgone' hgone henforced).mpr hc⟩

end Order

end CocoonSit
