import CocoonSit.Lib.Earliest
import CocoonSit.Runtime.Types
import CocoonSit.Wakeup.Tasks

/-!
# The scheduler node of a round

`SchedulerNode.schedule` as the list of operations it performs for a decision: it cancels the tasks
the model names, schedules one wakeup a usable hint, after a chat round without hints and without
pending tasks an idle wakeup, perhaps a compaction job, and last recomputes the pointer.  The
operations are kept apart because a round may raise between any two of them.

A round comes to the scheduler after the context builder has ensured the session state and the
state patch has rewritten the active tags.
-/

namespace CocoonSit

open Table

/-- The primary keys a scheduled wakeup draws. -/
structure WakeupKeys where
  taskId : RowId
  jobId : RowId

/-- What `schedule` looks at, the decision apart. -/
structure SchedulerInput where
  event : RuntimeEvent
  memoryOwnerUserId : Option RowId := none
  /-- `_resolve_idle_wakeup_delay_seconds`. -/
  idleDelaySeconds : ℕ := 300
  /-- The message the window is compacted up to, when it is full and compaction is on. -/
  retainFromMessageId : Option RowId := none
  isoformat : Timestamp → String
  now : Timestamp
  keys : ℕ → WakeupKeys
  compactionJobId : RowId

/-- The request a hint leads to; `none` when it has no reason or no time. -/
def SchedulerInput.hintRequest (inp : SchedulerInput) (hint : WakeupHint) :
    Option WakeupRequest :=
  match hint.reason.bind stripOrNone, hint.runAt with
  | some reason, some runAt =>
    let payload := ((hint.payloadJson.setDefault "scheduled_by" (.str "meta_node")).setDefault
      "source_action_id" (.str inp.event.actionId)).setDefault "source_event_type"
      (.str inp.event.eventType.text)
    some
      { runAt := runAt
        reason := some reason
        payloadJson := (payload.setDefaultIf "timezone"
          (inp.event.payload "timezone")).setDefaultIf
          "memory_owner_user_id" (inp.memoryOwnerUserId.map .str) }
  | _, _ => none

/-- `_schedule_idle_wakeup`: the request. -/
def SchedulerInput.idleRequest (inp : SchedulerInput) : WakeupRequest :=
  let runAt := inp.now + 1000000 * inp.idleDelaySeconds
  let minutes := toString (inp.idleDelaySeconds / 60)
  let since := inp.isoformat inp.now
  { runAt := runAt
    reason := some ("The conversation has been quiet since " ++ since ++
      " UTC; check back after about " ++ minutes ++ " minute(s).")
    payloadJson := (((JsonDict.ofList
      [("scheduled_by", .str "idle_timeout_default"),
       ("trigger_kind", .str "idle_timeout"),
       ("source_action_id", .str inp.event.actionId),
       ("source_event_type", .str inp.event.eventType.text),
       ("silence_started_at", .str since),
       ("silence_delay_seconds", .num inp.idleDelaySeconds),
       ("silence_deadline_at", .str (inp.isoformat runAt)),
       ("idle_summary", .str ("The conversation stopped at " ++ since ++
         " UTC and has been idle for about " ++ minutes ++ " minute(s)."))]).setDefaultIf
      "timezone" (inp.event.payload "timezone")).setDefaultIf
      "memory_owner_user_id" (inp.memoryOwnerUserId.map .str)) }

/-- What the scheduler does, one operation at a time. -/
inductive SchedulerOp where
  | cancel (req : CancelRequest)
  | schedule (req : WakeupRequest) (keys : WakeupKeys)
  /-- The idle wakeup, unless tasks are pending. -/
  | idle (req : WakeupRequest) (keys : WakeupKeys)
  | compaction (cocoonId retainFromMessageId jobId : RowId)
  | sync

/-- `SchedulerNode.schedule`. -/
def schedulerOps (inp : SchedulerInput) (decision : MetaDecision) : List SchedulerOp :=
  (if decision.cancelWakeupTaskIds.isEmpty then [] else
    [.cancel
      { wakeupTaskIds := some decision.cancelWakeupTaskIds
        cancelledReason :=
          some ("Cancelled by meta node during action " ++ inp.event.actionId) }]) ++
  ((decision.nextWakeupHints.filterMap inp.hintRequest).zipIdx.map fun req =>
    .schedule req.1 (inp.keys req.2)) ++
  (if inp.event.eventType = .chat ∧ decision.nextWakeupHints.isEmpty then
    [.idle inp.idleRequest (inp.keys 0)] else []) ++
  (match inp.event.target, inp.retainFromMessageId with
    | .cocoon cocoonId, some messageId => [.compaction cocoonId messageId inp.compactionJobId]
    | _, _ => []) ++
  [.sync]

/-- The scheduling of one wakeup, whose task key must be new. -/
def scheduleOp (db : Db) (target : Target) (req : WakeupRequest) (keys : WakeupKeys)
    (newTagId : RowId) (now : Timestamp) : Option Db :=
  if keys.taskId ∈ db.wakeupTasks.map key ∨ keys.taskId = "" then none
  else (scheduleWakeup db target req keys.taskId keys.jobId newTagId now).toOption

/-- The job of `_schedule_compaction`. -/
def compactionRequest (cocoonId retainFromMessageId : RowId) : JobRequest :=
  { jobType := "compaction"
    lockKey := "cocoon:" ++ cocoonId ++ ":compaction"
    payloadJson := .ofList
      [("before_message_id", .str retainFromMessageId), ("reason", .str "window_limit")]
    target := some (.cocoon cocoonId) }

/-- One operation on the database. -/
def SchedulerOp.exec (target : Target) (newTagId : RowId) (now : Timestamp) (db : Db) :
    SchedulerOp → Option Db
  | .cancel req => some (cancelWakeupTasks db target req newTagId now).1
  | .schedule req keys => scheduleOp db target req keys newTagId now
  | .idle req keys =>
    if (listPendingWakeupTasks db.wakeupTasks target).isEmpty then
      scheduleOp db target req keys newTagId now
    else some db
  | .compaction cocoonId retainFromMessageId jobId =>
    some (enqueueJob db (compactionRequest cocoonId retainFromMessageId) jobId now)
  | .sync => some (syncCurrentWakeupTaskId db target newTagId now)

/-- A round up to the end of its scheduler node, as far as wakeups and session states go. -/
inductive RoundStep where
  /-- The context builder ensures the session state. -/
  | buildContext
  /-- `apply_state_patch` leaves these active tags. -/
  | patchState (tags : List RowId)
  | scheduler (op : SchedulerOp)

def RoundStep.exec (target : Target) (newTagId : RowId) (now : Timestamp) (db : Db) :
    RoundStep → Option Db
  | .buildContext => some (ensureSessionState db target newTagId now).1
  | .patchState tags => some (setActiveTags db target tags)
  | .scheduler op => op.exec target newTagId now db

def roundSteps (inp : SchedulerInput) (activeTags : List RowId) (decision : MetaDecision) :
    List RoundStep :=
  [.buildContext, .patchState activeTags] ++ (schedulerOps inp decision).map .scheduler

/-- A round, or the part of it before it raised. -/
def execRound (target : Target) (newTagId : RowId) (now : Timestamp) (steps : List RoundStep)
    (db : Db) : Option Db :=
  steps.foldlM (RoundStep.exec target newTagId now) db

end CocoonSit
