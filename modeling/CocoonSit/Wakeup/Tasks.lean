import CocoonSit.Jobs.Durable
import CocoonSit.Tags.Policy

/-!
# Wakeup tasks

A wakeup task is a runtime round planned for a target; each task has a durable job that will
execute it.  `wakeup_tasks.py` lists and cancels the pending tasks of a target and recomputes the
pointer `current_wakeup_task_id` that the session state caches; `SchedulerNode.schedule_wakeup`
creates a task together with its job.
-/

namespace CocoonSit

open Table

/-! ## Pending tasks and the pointer -/

/-- `ORDER BY run_at, created_at`. -/
def WakeupTask.dueKey (t : WakeupTask) : Timestamp ×ₗ Timestamp := toLex (t.runAt, t.createdAt)

def PendingFor (target : Target) (t : WakeupTask) : Prop := t.status = .queued ∧ t.target = target

instance (target : Target) (t : WakeupTask) : Decidable (PendingFor target t) :=
  inferInstanceAs (Decidable (_ ∧ _))

def listPendingWakeupTasks (tasks : List WakeupTask) (target : Target) : List WakeupTask :=
  orderBy WakeupTask.dueKey (tasks.filter (PendingFor target))

/-- The earliest pending task of the target. -/
def nextWakeup (tasks : List WakeupTask) (target : Target) : Option RowId :=
  (listPendingWakeupTasks tasks target).head?.map WakeupTask.id

/-- `state.current_wakeup_task_id = pointer`. -/
def setPointer (db : Db) (target : Target) (pointer : Option RowId) : Db :=
  { db with sessionStates :=
      update db.sessionStates target fun s => { s with currentWakeupTaskId := pointer } }

/-- `sync_current_wakeup_task_id`.  The session-state lookup flushes, so the query sees the status
changes its caller made. -/
def syncCurrentWakeupTaskId (db : Db) (target : Target) (newTagId : RowId) (now : Timestamp) :
    Db :=
  match getSessionState db target newTagId now with
  | (db, none) => db
  | (db, some _) => setPointer db target (nextWakeup db.wakeupTasks target)

/-! ## Cancelling -/

/-- What the caller of `cancel_wakeup_tasks` selects among the pending tasks. -/
structure CancelRequest where
  wakeupTaskIds : Option (List RowId) := none
  onlyTriggerKind : Option String := none
  cancelledReason : Option String := none

/-- The task passes both filters.  The one trigger kind a caller asks for is `idle_timeout`,
which no JSON value but that text prints as. -/
def CancelRequest.selects (req : CancelRequest) (t : WakeupTask) : Bool :=
  (req.wakeupTaskIds.all fun ids => decide (t.id ∈ ids)) &&
    req.onlyTriggerKind.all fun kind => kind = "" || t.payloadJson.isStr "trigger_kind" kind

/-- What cancelling writes into the task. -/
def WakeupTask.cancelled (t : WakeupTask) (reason : Option String) (now : Timestamp) :
    WakeupTask :=
  { t with
    status := .cancelled
    cancelledAt := some now
    payloadJson := t.payloadJson.set "cancelled_reason" (jsonOfText reason) }

/-- The job a task names in `durable_job_id`. -/
def WakeupTask.durableJobId (t : WakeupTask) : Option RowId := t.payloadJson.text? "durable_job_id"

/-- The task a wakeup job names: `job.payload_json["wakeup_task_id"]`. -/
def taskIdOf (job : DurableJob) : Option RowId := job.payloadJson.text? "wakeup_task_id"

/-- What cancelling writes into the task's job: a job that is no longer queued is left alone. -/
def DurableJob.cancelledIfQueued (job : DurableJob) (reason : Option String) (now : Timestamp) :
    DurableJob :=
  if job.status = .queued then
    { job with status := .cancelled, finishedAt := some now, errorText := reason }
  else job

/-- One turn of the loop of `cancel_wakeup_tasks`. -/
def cancelWakeupTask (reason : Option String) (now : Timestamp) (db : Db) (t : WakeupTask) : Db :=
  { db with
    wakeupTasks := update db.wakeupTasks t.id fun t => t.cancelled reason now
    jobs := match t.durableJobId with
      | none => db.jobs
      | some jobId => update db.jobs jobId fun job => job.cancelledIfQueued reason now }

def tasksToCancel (tasks : List WakeupTask) (target : Target) (req : CancelRequest) :
    List WakeupTask :=
  (listPendingWakeupTasks tasks target).filter fun t => req.selects t

/-- `cancel_wakeup_tasks`: the cancelled tasks and the database. -/
def cancelWakeupTasks (db : Db) (target : Target) (req : CancelRequest) (newTagId : RowId)
    (now : Timestamp) : Db × List RowId :=
  let tasks := tasksToCancel db.wakeupTasks target req
  let db := tasks.foldl (cancelWakeupTask req.cancelledReason now) db
  (syncCurrentWakeupTaskId db target newTagId now, tasks.map WakeupTask.id)

/-! ## Scheduling -/

/-- The `lock_key` of a wakeup job. -/
def wakeupLockKey (target : Target) (taskId : RowId) : String :=
  match target with
  | .cocoon id => "cocoon:" ++ id ++ ":wakeup:" ++ taskId
  | .chatGroup id => "chat-group:" ++ id ++ ":wakeup:" ++ taskId

/-- What the caller of `schedule_wakeup` asks for. -/
structure WakeupRequest where
  runAt : Timestamp
  reason : Option String
  payloadJson : JsonDict := .empty

/-- The task of `schedule_wakeup`, once its job is enqueued. -/
def WakeupRequest.toTask (req : WakeupRequest) (target : Target) (taskId jobId : RowId)
    (now : Timestamp) : WakeupTask :=
  { id := taskId
    target := target
    runAt := req.runAt
    reason := req.reason.map strip
    payloadJson := req.payloadJson.set "durable_job_id" (.str jobId)
    status := .queued
    createdAt := now }

/-- The job of `schedule_wakeup`. -/
def WakeupRequest.toJobRequest (req : WakeupRequest) (target : Target) (taskId : RowId) :
    JobRequest :=
  { jobType := "wakeup"
    lockKey := wakeupLockKey target taskId
    payloadJson := .ofList [("wakeup_task_id", .str taskId)]
    target := some target
    availableAt := some req.runAt }

/-- The `ValueError` of a blank reason. -/
def BLANK_REASON : String := "schedule_wakeup() requires a non-empty reason"

def scheduleWakeup (db : Db) (target : Target) (req : WakeupRequest)
    (taskId jobId newTagId : RowId) (now : Timestamp) : Except String Db :=
  if (req.reason.map strip).getD "" = "" then .error BLANK_REASON
  else
    let db := { db with wakeupTasks := db.wakeupTasks ++ [req.toTask target taskId jobId now] }
    let db := enqueueJob db (req.toJobRequest target taskId) jobId now
    .ok (syncCurrentWakeupTaskId db target newTagId now)

/-! ## What these operations leave alone -/

lemma setPointer_frame (db : Db) (target : Target) (pointer : Option RowId) :
    TagsOnly db (setPointer db target pointer) := ⟨rfl⟩

lemma syncCurrentWakeupTaskId_frame (db : Db) (target : Target) (newTagId : RowId)
    (now : Timestamp) : TagsOnly db (syncCurrentWakeupTaskId db target newTagId now) := by
  have h := getSessionState_frame db target newTagId now
  unfold syncCurrentWakeupTaskId
  split
  · next heq => rwa [heq] at h
  · next heq =>
    rw [heq] at h
    exact h.trans (setPointer_frame ..)

/-- `db'` differs from `db` in wakeup tasks, jobs, tags, bindings and session states at most. -/
structure WakeupsOnly (db db' : Db) : Prop where
  frame : db' = { db with
    jobs := db'.jobs, wakeupTasks := db'.wakeupTasks, tags := db'.tags,
    tagBindings := db'.tagBindings, sessionStates := db'.sessionStates }

namespace WakeupsOnly

variable {db db₁ db₂ : Db}

lemma refl (db : Db) : WakeupsOnly db db := ⟨rfl⟩

lemma trans (h₁ : WakeupsOnly db db₁) (h₂ : WakeupsOnly db₁ db₂) : WakeupsOnly db db₂ := by
  refine ⟨?_⟩
  rw [h₂.frame, h₁.frame]

lemma ofTags (h : TagsOnly db db₁) : WakeupsOnly db db₁ := by
  refine ⟨?_⟩
  rw [h.frame]

lemma actions (h : WakeupsOnly db db₁) : db₁.actions = db.actions := by rw [h.frame]

lemma messages (h : WakeupsOnly db db₁) : db₁.messages = db.messages := by rw [h.frame]

lemma cocoons (h : WakeupsOnly db db₁) : db₁.cocoons = db.cocoons := by rw [h.frame]

lemma rooms (h : WakeupsOnly db db₁) : db₁.rooms = db.rooms := by rw [h.frame]

lemma memories (h : WakeupsOnly db db₁) : db₁.memories = db.memories := by rw [h.frame]

end WakeupsOnly

lemma foldl_cancelWakeupTask_frame (reason : Option String) (now : Timestamp)
    (tasks : List WakeupTask) (db : Db) :
    WakeupsOnly db (tasks.foldl (cancelWakeupTask reason now) db) := by
  induction tasks generalizing db with
  | nil => exact .refl db
  | cons t tasks ih => exact (WakeupsOnly.mk rfl).trans (ih (cancelWakeupTask reason now db t))

lemma cancelWakeupTasks_frame (db : Db) (target : Target) (req : CancelRequest)
    (newTagId : RowId) (now : Timestamp) :
    WakeupsOnly db (cancelWakeupTasks db target req newTagId now).1 :=
  (foldl_cancelWakeupTask_frame ..).trans (.ofTags (syncCurrentWakeupTaskId_frame ..))

end CocoonSit
