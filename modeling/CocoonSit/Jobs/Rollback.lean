import CocoonSit.Jobs.Compaction
import CocoonSit.Runtime.RoundCleanup

/-!
# The rollback job

`RollbackJobService.execute` takes a checkpoint of any cocoon, removes what came after its anchor
message in that cocoon, and moves the cocoon, its checkpoints and its session state back to it.
-/

namespace CocoonSit

open Table

/-- What the job goes by. -/
structure RollbackRequest where
  checkpoint : Checkpoint
  anchor : Message
  cocoon : Cocoon

/-- `none` where `execute` finds no anchor or no cocoon. -/
def resolveRollback (db : Db) (checkpoint : Checkpoint) : Option RollbackRequest := do
  let anchor ← get db.messages checkpoint.anchorMessageId
  let cocoon ← get db.cocoons checkpoint.cocoonId
  return { checkpoint, anchor, cocoon }

/-- The cocoon's messages that are later than the anchor. -/
def laterMessageIds (db : Db) (request : RollbackRequest) : List RowId :=
  (db.messages.filter fun m => m.target = .cocoon request.checkpoint.cocoonId &&
    request.anchor.createdAt < m.createdAt).map Message.id

/-- The cocoon's context starts at the anchor, and the checkpoint is the active one. -/
def moveToAnchor (db : Db) (request : RollbackRequest) : Db :=
  { db with
    cocoons := update db.cocoons request.checkpoint.cocoonId fun c =>
      { c with
        contextStartMessageId := some request.checkpoint.anchorMessageId
        rollbackAnchorMsgId := some request.checkpoint.anchorMessageId }
    checkpoints := db.checkpoints.map fun item =>
      if item.cocoonId = request.checkpoint.cocoonId then
        { item with isActive := item.id = request.checkpoint.id }
      else item }

/-- What becomes of the session state. -/
def restoredState (request : RollbackRequest) (state : SessionState) : SessionState :=
  { state with
    activeTagsJson := request.anchor.tagsJson
    personaJson := state.personaJson.set "rollback_checkpoint_id" (.str request.checkpoint.id) }

def restoreState (db : Db) (request : RollbackRequest) (env : JobEnv) : Db :=
  let target : Target := .cocoon request.checkpoint.cocoonId
  let (db, state) := getSessionState db target env.newTagId env.now
  match state with
  | none => db
  | some _ =>
    { db with sessionStates := update db.sessionStates target (restoredState request) }

/-- What `execute` does when it has found all it needs. -/
def rollBack (db : Db) (request : RollbackRequest) (env : JobEnv) : Db :=
  let db := RoundCleanup.deleteMessageRelatedRows db (laterMessageIds db request)
  let db := moveToAnchor db request
  let db := restoreState db request env
  finishRun db env.runId .completed env.now

/-- `RollbackJobService.execute`. -/
def executeRollbackJob (db : Db) (checkpointId : RowId) (env : JobEnv) : JobEnd :=
  match get db.checkpoints checkpointId with
  | none => .raised db
  | some checkpoint =>
    let db := startRun db (some (.cocoon checkpoint.cocoonId)) "rollback" env.runId
    match resolveRollback db checkpoint with
    | none => .raised db
    | some request => .returned (rollBack db request env)

end CocoonSit
