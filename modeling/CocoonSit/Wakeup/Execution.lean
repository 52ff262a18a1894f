import CocoonSit.Runtime.Scheduler

/-!
# Plugin wakeups and the execution of durable rounds

`ExternalWakeupService.ingest` schedules one wakeup for every target a plugin event is delivered
to.  `RuntimeJobService` runs the rounds of wakeup, pull and merge jobs: the wakeup marks its task
running, takes it off the pointer, runs the round, marks the task completed and recomputes the
pointer; pulls and merges just run the round.  When the round raises, what it has flushed so far is
committed together with the failed job.
-/

namespace CocoonSit

open Table

/-! ## Plugin events -/

structure PluginTargetBinding where
  id : RowId
  scopeType : String
  scopeId : RowId
  target : Target

/-- What `ingest` is called with; `deliverable` is the verdict of the visibility checks on the
binding's scope. -/
structure PluginEvent where
  pluginId : RowId
  pluginVersion : String
  eventName : String
  summary : Option String
  payload : List (String × JsonValue) := []
  scopeType : Option String := none
  scopeId : Option RowId := none
  deliverable : PluginTargetBinding → Bool

/-- The binding passes the filters of `ingest`. -/
def PluginEvent.delivers (ev : PluginEvent) (b : PluginTargetBinding) : Bool :=
  (ev.scopeType.all fun scope => scope = "" || b.scopeType = scope) &&
    (ev.scopeId.all fun scope => scope = "" || b.scopeId = scope) && ev.deliverable b

def PluginEvent.request (ev : PluginEvent) (b : PluginTargetBinding) (now : Timestamp) :
    WakeupRequest :=
  let summary := strip (ev.summary.getD "")
  { runAt := now
    reason := some summary
    payloadJson := .ofList
      [("source_kind", .str "plugin"), ("plugin_id", .str ev.pluginId),
       ("plugin_version", .str ev.pluginVersion), ("plugin_event", .str ev.eventName),
       ("external_payload", .obj ev.payload), ("summary", .str summary),
       ("target_binding_id", .str b.id)] }

/-- `ExternalWakeupService.ingest` of an enabled event. -/
def ingest (db : Db) (ev : PluginEvent) (bindings : List (PluginTargetBinding × WakeupKeys))
    (newTagId : RowId) (now : Timestamp) : Option Db :=
  (bindings.filter fun b => ev.delivers b.1).foldlM
    (fun db b => scheduleOp db b.1.target (ev.request b.1 now) b.2 newTagId now) db

/-! ## Durable rounds -/

/-- The event type of the round a job runs; `none` for jobs that run no round. -/
def roundType (jobType : String) : Option EventType :=
  if jobType = "wakeup" then some .wakeup
  else if jobType = "pull" then some .pull
  else if jobType = "merge" then some .merge
  else none

/-- The task a wakeup job executes. -/
def executedTask (db : Db) (job : DurableJob) : Option WakeupTask :=
  if job.jobType = "wakeup" then (taskIdOf job).bind (get db.wakeupTasks) else none

/-- `task.status = status`. -/
def setTaskStatus (db : Db) (taskId : RowId) (status : DurableJobStatus) : Db :=
  { db with wakeupTasks := update db.wakeupTasks taskId fun t => { t with status := status } }

/-- The pointer is cleared if it names the task. -/
def clearPointer (db : Db) (task : WakeupTask) (newTagId : RowId) (now : Timestamp) : Db :=
  match getSessionState db task.target newTagId now with
  | (db, some state) =>
    if state.currentWakeupTaskId = some task.id then setPointer db task.target none else db
  | (db, none) => db

/-- `execute_wakeup` up to the round: the task runs and is no longer the pointer's. -/
def beginWakeup (db : Db) (task : WakeupTask) (newTagId : RowId) (now : Timestamp) : Db :=
  clearPointer (setTaskStatus db task.id .running) task newTagId now

/-- `execute_wakeup` after the round. -/
def endWakeup (db : Db) (target : Target) (task : Option WakeupTask) (newTagId : RowId)
    (now : Timestamp) : Db :=
  let db := match task with
    | some task => setTaskStatus db task.id .completed
    | none => db
  syncCurrentWakeupTaskId db target newTagId now

/-- A round as it turns out: the decision, and after how many of its steps it raised. -/
structure Round where
  inp : SchedulerInput
  activeTags : List RowId
  decision : MetaDecision
  newTagId : RowId
  raisedAfter : Option ℕ := none
  errorText : String := ""

/-- The steps of the round of a job of this type and target. -/
def Round.steps (round : Round) (eventType : EventType) (target : Target) :
    List RoundStep :=
  let event := { round.inp.event with eventType := eventType, target := target }
  roundSteps { round.inp with event := event } round.activeTags round.decision

/-- Those it comes to. -/
def Round.executed (round : Round) (eventType : EventType) (target : Target) :
    List RoundStep :=
  match round.raisedAfter with
  | some k => (round.steps eventType target).take k
  | none => round.steps eventType target

def Round.error (round : Round) : Option String :=
  round.raisedAfter.map fun _ => round.errorText

/-- The job's row at the end of `process_next`. -/
def finishJob (db : Db) (job : DurableJob) (error : Option String) (now : Timestamp) : Db :=
  let done := (job.claimed "durable" now).finished (outcomeStatus error) error now
  { db with jobs := update db.jobs job.id done.writeBack }

/-- `process_next` with a claimed wakeup, pull or merge job. -/
def processRoundJob (db : Db) (job : DurableJob) (target : Target) (eventType : EventType)
    (round : Round) (now : Timestamp) : Option Db :=
  let task := executedTask db job
  if task.any fun t => t.status = .cancelled then
    some (finishJob (syncCurrentWakeupTaskId db target round.newTagId now) job none now)
  else
    let begun := match task with
      | some task => beginWakeup db task round.newTagId now
      | none => db
    (execRound target round.newTagId now (round.executed eventType target) begun).map fun db =>
      let db := if round.raisedAfter.isNone ∧ eventType = .wakeup then
        endWakeup db target task round.newTagId now else db
      finishJob db job round.error now

end CocoonSit
