import CocoonSit.Model.Entities

/-!
# Round cleanup

`RoundCleanupService` over the conversation tables: what an edit, a retry or a rollback deletes with
some messages.  The rows of the audit runs' steps, artifacts and links, which go with the runs, are
not among these tables.
-/

namespace CocoonSit.RoundCleanup

open Table

section Removal

variable (db : Db) (messageIds : List RowId)

/-- `SELECT action_id FROM messages WHERE id IN message_ids`. -/
def actionIds : List RowId :=
  (db.messages.filter fun m => m.id ∈ messageIds).filterMap Message.actionId

/-- The memory was made from one of the messages. -/
def removesMemory (memory : MemoryChunk) : Bool :=
  memory.sourceMessageId.any fun id => id ∈ messageIds

def memoryIds : List RowId :=
  (db.memories.filter fun m => removesMemory messageIds m).map MemoryChunk.id

/-- A row that names one of the actions. -/
def ofActions (actionId : Option RowId) : Bool :=
  actionId.any fun id => id ∈ actionIds db messageIds

def deleteMessageRelatedRows : Db :=
  { db with
    memoryTags := db.memoryTags.filter fun t => t.memoryChunkId ∉ memoryIds db messageIds
    messageTags := db.messageTags.filter fun t => t.messageId ∉ messageIds
    failedRounds := db.failedRounds.filter fun r => !ofActions db messageIds r.actionId
    auditRuns := db.auditRuns.filter fun r => !ofActions db messageIds r.actionId
    messages := db.messages.filter fun m => m.id ∉ messageIds
    memories := db.memories.filter fun m => !removesMemory messageIds m }

end Removal

/-- The messages an edit removes: those of the target that are later than the edited one. -/
def editedMessageIds (db : Db) (target : Target) (editedMessageId : RowId) : List RowId :=
  (get db.messages editedMessageId).elim [] fun edited =>
    (db.messages.filter fun m => m.target = target && edited.createdAt < m.createdAt).map Message.id

def cleanupForEdit (db : Db) (target : Target) (editedMessageId : RowId) : Db :=
  deleteMessageRelatedRows db (editedMessageIds db target editedMessageId)

/-- The message a retry removes: the target's latest of the assistant, of those not before the
anchor if there is one. -/
def retriedMessageIds (db : Db) (target : Target) (messageId : Option RowId) : List RowId :=
  let since := ((messageId.filter (· ≠ "")).bind (get db.messages)).elim 0 Message.createdAt
  let candidates := db.messages.filter fun m => m.target = target && m.role = .assistant &&
    since ≤ m.createdAt
  ((orderBy (fun m : Message => OrderDual.toDual m.createdAt) candidates).take 1).map Message.id

def cleanupForRetry (db : Db) (target : Target) (messageId : Option RowId) : Db :=
  deleteMessageRelatedRows db (retriedMessageIds db target messageId)

end CocoonSit.RoundCleanup
