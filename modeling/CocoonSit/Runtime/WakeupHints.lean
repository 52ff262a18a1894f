import CocoonSit.Messages.Window
import CocoonSit.Model.Accounts
import CocoonSit.Plugins.Cron
import CocoonSit.Wakeup.Pointer

/-!
# Hints and the idle default

`SchedulerNode.schedule` with what it returns and what it raises.  A hint gives its time as a text
or as a delay; a hint without a time is passed over, and after a chat round without hints the
target gets an idle wakeup.  Two things escape the code.  A time outside the calendar raises an
`OverflowError`, which the loop does not catch, and a hint that is passed over still keeps the idle
wakeup away.
-/

namespace CocoonSit.SchedulerNode

open Table

/-! ## Times -/

/-- The last microsecond of year 9999, counted from the beginning of year 1. -/
def MAX_MICROS : ℕ := 315537897599999999

/-- The calendar has this instant. -/
def Representable (t : ℤ) : Prop := 0 ≤ t ∧ t ≤ MAX_MICROS

instance (t : ℤ) : Decidable (Representable t) := inferInstanceAs (Decidable (_ ∧ _))

/-- A `datetime` without time zone. -/
structure Datetime where
  micros : Timestamp
  le_max : micros ≤ MAX_MICROS

/-- What `datetime.fromisoformat` makes of a text; the offset is in microseconds. -/
structure IsoDatetime where
  naive : Datetime
  utcoffset : Option ℤ

inductive ScheduleError where
  | valueError (text : String)
  | overflowError
deriving DecidableEq, Repr

/-- The result of datetime arithmetic. -/
def Datetime.ofInstant (t : ℤ) : Except ScheduleError Datetime :=
  if h : Representable t then .ok ⟨t.toNat, Int.toNat_le.mpr h.2⟩
  else .error .overflowError

/-- `timedelta`: at most 999999999 days. -/
def timedelta (micros : ℤ) : Except ScheduleError ℤ :=
  if -999999999 ≤ micros / 86400000000 ∧ micros / 86400000000 ≤ 999999999 then .ok micros
  else .error .overflowError

/-- `t + timedelta(…)`. -/
def Datetime.add (t : Datetime) (micros : ℤ) : Except ScheduleError Datetime := do
  let delta ← timedelta micros
  Datetime.ofInstant (t.micros + delta)

/-- `parsed.astimezone(UTC).replace(tzinfo=None) if parsed.tzinfo else parsed`. -/
def IsoDatetime.toUtc (parsed : IsoDatetime) : Except ScheduleError Datetime :=
  match parsed.utcoffset with
  | some offset => Datetime.ofInstant (parsed.naive.micros - offset)
  | none => .ok parsed.naive

/-! ## Hints -/

/-- What `validate_reason` lets pass. -/
abbrev WakeupReason := {reason : String // strip reason = reason ∧ reason ≠ ""}

def validateReason (value : String) : Except String WakeupReason :=
  if h : strip value = "" then .error "reason is required"
  else .ok ⟨strip value, strip_strip value, h⟩

/-- The fields of a scheduled wakeup, its reason apart. -/
structure WakeupFields where
  runAt : Option String := none
  delaySeconds : Option ℤ := none
  delayMinutes : Option ℤ := none
  delayHours : Option ℤ := none
  payloadJson : JsonDict := .empty

/-- `ScheduledWakeupModel`. -/
structure ScheduledWakeup extends WakeupFields where
  reason : WakeupReason

def normalizeWakeupHints (items : List (String × WakeupFields)) : List ScheduledWakeup :=
  items.filterMap fun item =>
    (validateReason item.1).toOption.map fun reason => { item.2 with reason := reason }

/-- `MetaDecision`: what the scheduler reads. -/
structure WakeupDecision where
  nextWakeupHints : List ScheduledWakeup := []
  cancelWakeupTaskIds : List RowId := []

/-- `if delay := …`: a zero delay counts as none. -/
def nonzero (delay : Option ℤ) : Option ℤ := delay.filter (· ≠ 0)

/-- `if run_at := …`. -/
def nonempty (runAt : Option String) : Option String := runAt.filter (· ≠ "")

section Resolving

variable (fromisoformat : String → Except String IsoDatetime) (now : Datetime)

def resolveRunAt (hint : WakeupFields) : Except ScheduleError Datetime :=
  match nonempty hint.runAt with
  | some runAt =>
    match fromisoformat runAt with
    | .error text => .error (.valueError text)
    | .ok parsed => parsed.toUtc
  | none =>
    match nonzero hint.delaySeconds with
    | some seconds => now.add (1000000 * seconds)
    | none =>
      match nonzero hint.delayMinutes with
      | some minutes => now.add (60000000 * minutes)
      | none =>
        match nonzero hint.delayHours with
        | some hours => now.add (3600000000 * hours)
        | none => .error (.valueError "wakeup hint must define run_at or a delay")

/-- The instant a parsed text names. -/
def IsoDatetime.instant (parsed : IsoDatetime) : ℤ :=
  parsed.naive.micros - parsed.utcoffset.getD 0

/-- The delay of a hint in microseconds: the first that is not zero. -/
def WakeupFields.delay (hint : WakeupFields) : Option ℤ :=
  (nonzero hint.delaySeconds).map (1000000 * ·) <|>
    (nonzero hint.delayMinutes).map (60000000 * ·) <|>
    (nonzero hint.delayHours).map (3600000000 * ·)

/-- The instant a hint names, inside the calendar or not. -/
def WakeupFields.instant (hint : WakeupFields) : Option ℤ :=
  match nonempty hint.runAt with
  | some runAt => (fromisoformat runAt).toOption.map IsoDatetime.instant
  | none => hint.delay.map (now.micros + ·)

def WakeupFields.denotes (hint : WakeupFields) : Option Timestamp :=
  ((hint.instant fromisoformat now).filter (Representable ·)).map Int.toNat

end Resolving

/-! ## The context -/

def DEFAULT_IDLE_WAKEUP_DELAY_SECONDS : ℕ := 5 * 60
def FREQUENT_COCOON_IDLE_WAKEUP_DELAY_SECONDS : ℕ := 2 * 60

/-- `ContextPackage`: what the scheduler reads. -/
structure SchedulerContext where
  event : RuntimeEvent
  memoryOwnerUserId : Option RowId := none
  visibleMessages : List Message := []
  /-- The cocoon of a cocoon's round. -/
  cocoon : Option Cocoon := none
  isoformat : Timestamp → String
  now : Datetime
  keys : ℕ → WakeupKeys
  compactionJobId : RowId

/-- `int(v)`, where it raises neither `TypeError` nor `ValueError`. -/
def intOfJson : JsonValue → Option ℤ
  | .bool b => some b.toNat
  | .num n => some n
  | .str s => (intOf s).toOption
  | .null => none
  | .arr _ => none
  | .obj _ => none

/-- Four of the last six messages are within a quarter of an hour. -/
def isLively (visibleMessages : List Message) : Bool :=
  let recent := sliceLast
    (visibleMessages.filter fun m => (m.role = .user ∨ m.role = .assistant) ∧ ¬ m.isRetracted) 6
  4 ≤ recent.length &&
    match recent.head?, recent.getLast? with
    | some oldest, some newest => newest.createdAt ≤ oldest.createdAt + 900000000
    | _, _ => false

/-- `_resolve_idle_wakeup_delay_seconds`. -/
def SchedulerContext.idleDelaySeconds (ctx : SchedulerContext) : ℕ :=
  match ctx.event.target with
  | .chatGroup _ => DEFAULT_IDLE_WAKEUP_DELAY_SECONDS
  | .cocoon _ =>
    if ((ctx.event.payload "recent_turn_count").bind intOfJson).any (3 ≤ ·) ∨
        ((ctx.event.payload "idle_seconds").bind intOfJson).any (· ≤ 120) ∨
        isLively ctx.visibleMessages then
      FREQUENT_COCOON_IDLE_WAKEUP_DELAY_SECONDS
    else DEFAULT_IDLE_WAKEUP_DELAY_SECONDS

/-- The message the window is compacted up to. -/
def SchedulerContext.retainFromMessageId (ctx : SchedulerContext) : Option RowId :=
  ctx.cocoon.bind fun cocoon => scheduledRetainFrom cocoon ctx.visibleMessages

/-- The context as the operations of the scheduler see it. -/
def SchedulerContext.input (ctx : SchedulerContext) : SchedulerInput where
  event := ctx.event
  memoryOwnerUserId := ctx.memoryOwnerUserId
  idleDelaySeconds := ctx.idleDelaySeconds
  retainFromMessageId := ctx.retainFromMessageId
  isoformat := ctx.isoformat
  now := ctx.now.micros
  keys := ctx.keys
  compactionJobId := ctx.compactionJobId

/-! ## Scheduling -/

/-- What `schedule` returns. -/
structure ScheduleResult where
  wakeupTaskId : Option RowId := none
  wakeupJobId : Option RowId := none
  wakeupTaskIds : List RowId := []
  wakeupJobIds : List RowId := []
  cancelledWakeupTaskIds : List RowId := []
  compactionJobId : Option RowId := none

/-- The result with one more wakeup; the first is named apart. -/
def ScheduleResult.add (result : ScheduleResult) (keys : WakeupKeys) : ScheduleResult :=
  { result with
    wakeupTaskId := if result.wakeupTaskId.isNone then some keys.taskId else result.wakeupTaskId
    wakeupJobId := if result.wakeupTaskId.isNone then some keys.jobId else result.wakeupJobId
    wakeupTaskIds := result.wakeupTaskIds ++ [keys.taskId]
    wakeupJobIds := result.wakeupJobIds ++ [keys.jobId] }

section Schedule

variable (fromisoformat : String → Except String IsoDatetime) (ctx : SchedulerContext)
  (newTagId : RowId)

def cancelNamed (decision : WakeupDecision) (db : Db) : Db × ScheduleResult :=
  if decision.cancelWakeupTaskIds = [] then (db, {})
  else
    let cancelled := cancelWakeupTasks db ctx.event.target
      { wakeupTaskIds := some decision.cancelWakeupTaskIds
        cancelledReason := some ("Cancelled by meta node during action " ++ ctx.event.actionId) }
      newTagId ctx.now.micros
    (cancelled.1, { cancelledWakeupTaskIds := cancelled.2 })

/-- `schedule_wakeup`, and its task in the result.  Each wakeup draws new keys. -/
def scheduleRequest (state : Db × ScheduleResult) (req : WakeupRequest) :
    Except ScheduleError (Db × ScheduleResult) :=
  let keys := ctx.keys state.2.wakeupTaskIds.length
  match scheduleWakeup state.1 ctx.event.target req keys.taskId keys.jobId newTagId
      ctx.now.micros with
  | .error text => .error (.valueError text)
  | .ok db => .ok (db, state.2.add keys)

/-- One turn of the loop over the hints. -/
def scheduleHint (state : Db × ScheduleResult) (hint : ScheduledWakeup) :
    Except ScheduleError (Db × ScheduleResult) :=
  if strip hint.reason.1 = "" then .ok state
  else
    match resolveRunAt fromisoformat ctx.now hint.toWakeupFields with
    -- `except (TypeError, ValueError): continue`
    | .error (.valueError _) => .ok state
    | .error .overflowError => .error .overflowError
    | .ok runAt =>
      match ctx.input.hintRequest
          { reason := some hint.reason.1
            runAt := some runAt.micros
            payloadJson := hint.payloadJson } with
      | none => .ok state
      | some req => scheduleRequest ctx newTagId state req

def ShouldScheduleIdleWakeup (decision : WakeupDecision) (db : Db) : Prop :=
  ctx.event.eventType = .chat ∧ decision.nextWakeupHints.isEmpty ∧
    (listPendingWakeupTasks db.wakeupTasks ctx.event.target).isEmpty

instance (decision : WakeupDecision) (db : Db) :
    Decidable (ShouldScheduleIdleWakeup ctx decision db) :=
  inferInstanceAs (Decidable (_ ∧ _ ∧ _))

def scheduleIdleWakeup (state : Db × ScheduleResult) :
    Except ScheduleError (Db × ScheduleResult) := do
  let _ ← ctx.now.add (1000000 * ctx.idleDelaySeconds)
  scheduleRequest ctx newTagId state ctx.input.idleRequest

/-- The idle wakeup, where it is due. -/
def scheduleIdle (decision : WakeupDecision) (state : Db × ScheduleResult) :
    Except ScheduleError (Db × ScheduleResult) :=
  if ShouldScheduleIdleWakeup ctx decision state.1 then scheduleIdleWakeup ctx newTagId state
  else .ok state

/-- The compaction job of a full window. -/
def scheduleCompaction (state : Db × ScheduleResult) : Db × ScheduleResult :=
  match ctx.event.target, ctx.retainFromMessageId with
  | .cocoon cocoonId, some messageId =>
    (enqueueJob state.1 (compactionRequest cocoonId messageId) ctx.compactionJobId
        ctx.now.micros,
      { state.2 with compactionJobId := some ctx.compactionJobId })
  | _, _ => state

def schedule (decision : WakeupDecision) (db : Db) :
    Except ScheduleError (Db × ScheduleResult) := do
  let hinted ← decision.nextWakeupHints.foldlM (scheduleHint fromisoformat ctx newTagId)
    (cancelNamed ctx newTagId decision db)
  let idled ← scheduleIdle ctx newTagId decision hinted
  let compacted := scheduleCompaction ctx idled
  .ok (syncCurrentWakeupTaskId compacted.1 ctx.event.target newTagId ctx.now.micros, compacted.2)

end Schedule

/-! ## What a call is to do -/

/-- A task with its job, queued for the target and this time. -/
structure Queued (target : Target) (t : Timestamp) (row : WakeupTask × DurableJob) : Prop where
  pending : PendingFor target row.1
  runAt : row.1.runAt = t
  jobQueued : row.2.status = .queued
  jobType : row.2.jobType = "wakeup"
  jobTarget : row.2.target = some target
  availableAt : row.2.availableAt = t
  namesJob : row.1.payloadJson "durable_job_id" = some (.str row.2.id)
  namesTask : row.2.payloadJson "wakeup_task_id" = some (.str row.1.id)

/-- The rows of a hint that denotes a time. -/
structure CreatedFor (target : Target) (hint : ScheduledWakeup × Timestamp)
    (row : WakeupTask × DurableJob) : Prop where
  queued : Queued target hint.2 row
  reason : row.1.reason = some hint.1.reason.1

section Sound

variable (fromisoformat : String → Except String IsoDatetime) (ctx : SchedulerContext)

def denoted (hints : List ScheduledWakeup) : List (ScheduledWakeup × Timestamp) :=
  hints.filterMap fun hint =>
    (hint.denotes fromisoformat ctx.now).map fun t => (hint, t)

/-- The rows of a table are still there, changed or not, and these come after them. -/
def Appended {ρ κ : Type*} [Keyed ρ κ] (old new added : List ρ) : Prop :=
  ∃ kept, kept.map key = old.map key ∧ new = kept ++ added

/-- The tables after a call: the new tasks and jobs are those of the hints and perhaps of the idle
wakeup, and after a chat round the target has a pending task. -/
structure Delivered (decision : WakeupDecision) (db db' : Db)
    (hinted idle : List (WakeupTask × DurableJob)) (others : List DurableJob) : Prop where
  created : List.Forall₂ (CreatedFor ctx.event.target)
    (denoted fromisoformat ctx decision.nextWakeupHints) hinted
  idled : idle = [] ∨ (ctx.event.eventType = .chat ∧ decision.nextWakeupHints = [] ∧
    ∃ row, idle = [row] ∧
      Queued ctx.event.target (ctx.now.micros + 1000000 * ctx.idleDelaySeconds) row)
  tasks : Appended db.wakeupTasks db'.wakeupTasks ((hinted ++ idle).map Prod.fst)
  jobs : Appended db.jobs db'.jobs ((hinted ++ idle).map Prod.snd ++ others)
  otherJobs : ∀ job ∈ others, job.jobType ≠ "wakeup"
  followed : ctx.event.eventType = .chat →
    ∃ task ∈ db'.wakeupTasks, PendingFor ctx.event.target task

/-- The call returns and delivers. -/
def Sound (decision : WakeupDecision) (db : Db) (newTagId : RowId) : Prop :=
  ∃ db' result hinted idle others,
    schedule fromisoformat ctx newTagId decision db = .ok (db', result) ∧
    Delivered fromisoformat ctx decision db db' hinted idle others

/-- A pending task of the target that the decision does not cancel. -/
def Left (decision : WakeupDecision) (db : Db) (task : WakeupTask) : Prop :=
  task ∈ db.wakeupTasks ∧ PendingFor ctx.event.target task ∧
    task.id ∉ decision.cancelWakeupTaskIds

/-- No hint leads out of the calendar, and a chat round has a hint with a time, a pending task it
does not cancel, or no hints and a clock the calendar does not end right after. -/
structure Fits (decision : WakeupDecision) (db : Db) : Prop where
  inTime : ∀ hint ∈ decision.nextWakeupHints,
    ∀ t ∈ hint.instant fromisoformat ctx.now, Representable t
  followed : ctx.event.eventType = .chat →
    (∃ hint ∈ decision.nextWakeupHints, (hint.instant fromisoformat ctx.now).isSome) ∨
    (∃ task, Left ctx decision db task) ∨
    (decision.nextWakeupHints = [] ∧
      Representable (ctx.now.micros + 1000000 * ctx.idleDelaySeconds))

end Sound

/-! ## The time of a hint -/

lemma Datetime.add_eq (t : Datetime) (micros : ℤ) :
    t.add micros = Datetime.ofInstant (t.micros + micros) := by
  have hmax : (t.micros : ℤ) ≤ MAX_MICROS := Int.ofNat_le.mpr t.le_max
  have hend : (MAX_MICROS : ℤ) = 315537897599999999 := rfl
  unfold Datetime.add timedelta
  split
  · rfl
  · next h =>
    have hout : ¬ Representable (t.micros + micros) := by
      rintro ⟨hlow, hhigh⟩
      exact h ⟨by omega, by omega⟩
    rw [Datetime.ofInstant, dif_neg hout]
    rfl

lemma IsoDatetime.toUtc_eq (parsed : IsoDatetime) :
    parsed.toUtc = Datetime.ofInstant parsed.instant := by
  unfold IsoDatetime.toUtc IsoDatetime.instant
  cases parsed.utcoffset with
  | some offset => rfl
  | none =>
    have hin : Representable (parsed.naive.micros : ℤ) :=
      ⟨Int.natCast_nonneg _, Int.ofNat_le.mpr parsed.naive.le_max⟩
    rw [Option.getD_none, Int.sub_zero, Datetime.ofInstant, dif_pos hin]
    rfl

/-- A hint resolves to the instant it names, if the calendar has it; one that names none raises a
`ValueError`. -/
lemma resolveRunAt_eq (fromisoformat : String → Except String IsoDatetime) (now : Datetime)
    (hint : WakeupFields) :
    ∃ text, resolveRunAt fromisoformat now hint =
      (hint.instant fromisoformat now).elim (.error (.valueError text)) Datetime.ofInstant := by
  unfold resolveRunAt WakeupFields.instant
  cases nonempty hint.runAt with
  | some runAt =>
    cases hparse : fromisoformat runAt with
    | error text => exact ⟨text, by simp only [hparse]; rfl⟩
    | ok parsed => exact ⟨"", by simp only [hparse, IsoDatetime.toUtc_eq]; rfl⟩
  | none =>
    simp only [WakeupFields.delay, Datetime.add_eq]
    cases nonzero hint.delaySeconds with
    | some seconds => exact ⟨"", rfl⟩
    | none =>
      cases nonzero hint.delayMinutes with
      | some minutes => exact ⟨"", rfl⟩
      | none =>
        cases nonzero hint.delayHours with
        | some hours => exact ⟨"", rfl⟩
        | none => exact ⟨_, rfl⟩

/-! ## One wakeup -/

section Rows

variable {fromisoformat : String → Except String IsoDatetime} {ctx : SchedulerContext}
  {newTagId : RowId}

/-- These rows come after the others, which stay as they are. -/
structure Appends (db db' : Db) (rows : List (WakeupTask × DurableJob)) : Prop where
  tasks : db'.wakeupTasks = db.wakeupTasks ++ rows.map Prod.fst
  jobs : db'.jobs = db.jobs ++ rows.map Prod.snd

lemma Appends.refl (db : Db) : Appends db db [] :=
  ⟨(List.append_nil _).symm, (List.append_nil _).symm⟩

lemma Appends.trans {db db₁ db₂ : Db} {rows rows' : List (WakeupTask × DurableJob)}
    (h₁ : Appends db db₁ rows) (h₂ : Appends db₁ db₂ rows') : Appends db db₂ (rows ++ rows') := by
  constructor
  · rw [h₂.tasks, h₁.tasks, List.map_append, List.append_assoc]
  · rw [h₂.jobs, h₁.jobs, List.map_append, List.append_assoc]

lemma scheduleRequest_spec (ctx : SchedulerContext) (newTagId : RowId)
    (state : Db × ScheduleResult) {req : WakeupRequest}
    (hreason : (req.reason.map strip).getD "" ≠ "") :
    ∃ next row, scheduleRequest ctx newTagId state req = .ok next ∧
      Appends state.1 next.1 [row] ∧ Queued ctx.event.target req.runAt row ∧
      row.1.reason = req.reason.map strip := by
  unfold scheduleRequest scheduleWakeup
  simp only [if_neg hreason]
  let keys := ctx.keys state.2.wakeupTaskIds.length
  refine ⟨_, (req.toTask ctx.event.target keys.taskId keys.jobId ctx.now.micros,
    (req.toJobRequest ctx.event.target keys.taskId).toJob keys.jobId ctx.now.micros), rfl,
    ⟨wakeupTasks_sync .., (syncCurrentWakeupTaskId_frame ..).jobs⟩, ?_, rfl⟩
  exact
    { pending := ⟨rfl, rfl⟩
      runAt := rfl
      jobQueued := rfl
      jobType := rfl
      jobTarget := rfl
      availableAt := rfl
      namesJob := JsonDict.set_same req.payloadJson "durable_job_id" (.str keys.jobId)
      namesTask := rfl }

lemma hintRequest_of_reason (inp : SchedulerInput) (reason : WakeupReason) (t : Timestamp)
    (payload : JsonDict) :
    ∃ req, inp.hintRequest { reason := some reason.1, runAt := some t, payloadJson := payload } =
      some req ∧ req.runAt = t ∧ req.reason = some reason.1 := by
  have hstrip : stripOrNone reason.1 = some reason.1 := by
    rw [stripOrNone, reason.2.1, if_neg reason.2.2]
  unfold SchedulerInput.hintRequest
  simp only [Option.bind_some, hstrip]
  exact ⟨_, rfl, rfl, rfl⟩

variable {hint : ScheduledWakeup}

lemma scheduleHint_of_none (state : Db × ScheduleResult)
    (h : hint.instant fromisoformat ctx.now = none) :
    scheduleHint fromisoformat ctx newTagId state hint = .ok state := by
  obtain ⟨text, hres⟩ := resolveRunAt_eq fromisoformat ctx.now hint.toWakeupFields
  rw [h, Option.elim_none] at hres
  unfold scheduleHint
  rw [hint.reason.2.1, if_neg hint.reason.2.2, hres]

lemma scheduleHint_of_overflow (state : Db × ScheduleResult) {t : ℤ}
    (h : hint.instant fromisoformat ctx.now = some t) (ht : ¬ Representable t) :
    scheduleHint fromisoformat ctx newTagId state hint = .error .overflowError := by
  obtain ⟨text, hres⟩ := resolveRunAt_eq fromisoformat ctx.now hint.toWakeupFields
  rw [h, Option.elim_some, Datetime.ofInstant, dif_neg ht] at hres
  unfold scheduleHint
  rw [hint.reason.2.1, if_neg hint.reason.2.2, hres]

lemma scheduleHint_of_some (newTagId : RowId) (state : Db × ScheduleResult) {t : ℤ}
    (h : hint.instant fromisoformat ctx.now = some t) (ht : Representable t) :
    ∃ next row, scheduleHint fromisoformat ctx newTagId state hint = .ok next ∧
      Appends state.1 next.1 [row] ∧ CreatedFor ctx.event.target (hint, t.toNat) row := by
  obtain ⟨text, hres⟩ := resolveRunAt_eq fromisoformat ctx.now hint.toWakeupFields
  rw [h, Option.elim_some, Datetime.ofInstant, dif_pos ht] at hres
  obtain ⟨req, hreq, hrunAt, hreason⟩ :=
    hintRequest_of_reason ctx.input hint.reason t.toNat hint.payloadJson
  have hstrip : req.reason.map strip = some hint.reason.1 := by
    rw [hreason, Option.map_some, hint.reason.2.1]
  obtain ⟨next, row, hnext, happends, hqueued, hrow⟩ :=
    scheduleRequest_spec ctx newTagId state
      (show (req.reason.map strip).getD "" ≠ "" by rw [hstrip]; exact hint.reason.2.2)
  refine ⟨next, row, ?_, happends, ?_, hrow.trans hstrip⟩
  · unfold scheduleHint
    rw [hint.reason.2.1, if_neg hint.reason.2.2, hres]
    simp only [hreq, hnext]
  · rwa [hrunAt] at hqueued

/-! ## The loop -/

lemma denoted_cons (hint : ScheduledWakeup) (hints : List ScheduledWakeup) :
    denoted fromisoformat ctx (hint :: hints) =
      ((hint.denotes fromisoformat ctx.now).map fun t => (hint, t)).toList ++
        denoted fromisoformat ctx hints := by
  unfold denoted
  rw [List.filterMap_cons]
  cases hint.denotes fromisoformat ctx.now <;> rfl

lemma scheduleHints_of_inTime (newTagId : RowId) {hints : List ScheduledWakeup}
    (hin : ∀ hint ∈ hints, ∀ t ∈ hint.instant fromisoformat ctx.now, Representable t)
    (state : Db × ScheduleResult) :
    ∃ next rows, hints.foldlM (scheduleHint fromisoformat ctx newTagId) state = .ok next ∧
      Appends state.1 next.1 rows ∧
      List.Forall₂ (CreatedFor ctx.event.target) (denoted fromisoformat ctx hints) rows := by
  induction hints generalizing state with
  | nil => exact ⟨state, [], rfl, .refl _, .nil⟩
  | cons hint hints ih =>
    obtain ⟨hhint, hrest⟩ := List.forall_mem_cons.mp hin
    rw [List.foldlM_cons, denoted_cons]
    cases hinst : hint.instant fromisoformat ctx.now with
    | none =>
      obtain ⟨next, rows, hnext, happends, hrows⟩ := ih hrest state
      refine ⟨next, rows, ?_, happends, ?_⟩
      · rw [scheduleHint_of_none state hinst]
        exact hnext
      · rw [WakeupFields.denotes, hinst]
        exact hrows
    | some t =>
      have ht := hhint t hinst
      obtain ⟨state₁, row, hstate₁, happend, hrow⟩ :=
        scheduleHint_of_some newTagId state hinst ht
      obtain ⟨next, rows, hnext, happends, hrows⟩ := ih hrest state₁
      refine ⟨next, row :: rows, ?_, happend.trans happends, ?_⟩
      · rw [hstate₁]
        exact hnext
      · rw [WakeupFields.denotes, hinst, Option.filter_some, if_pos (decide_eq_true ht)]
        exact .cons hrow hrows

lemma inTime_of_scheduleHints {hints : List ScheduledWakeup} {state next : Db × ScheduleResult}
    (h : hints.foldlM (scheduleHint fromisoformat ctx newTagId) state = .ok next) :
    ∀ hint ∈ hints, ∀ t ∈ hint.instant fromisoformat ctx.now, Representable t := by
  induction hints generalizing state with
  | nil => exact fun hint hmem => absurd hmem List.not_mem_nil
  | cons hint hints ih =>
    rw [List.foldlM_cons] at h
    obtain ⟨state₁, hhint, hrest⟩ := except_bind_eq_ok.mp h
    refine List.forall_mem_cons.mpr ⟨fun t ht => ?_, ih hrest⟩
    by_contra hout
    rw [scheduleHint_of_overflow state ht hout] at hhint
    cases hhint

end Rows

/-! ## The cancelled tasks -/

section Cancelling

variable {db : Db} {now : Timestamp}

lemma not_pendingFor_cancelled (target : Target) (task : WakeupTask) (reason : Option String)
    (now : Timestamp) : ¬ PendingFor target (task.cancelled reason now) :=
  fun h => by cases h.1

lemma pending_foldl_cancelWakeupTask {reason : Option String} {tasks : List WakeupTask}
    {target : Target} {task : WakeupTask} :
    (task ∈ (tasks.foldl (cancelWakeupTask reason now) db).wakeupTasks ∧
        PendingFor target task) ↔
      task ∈ db.wakeupTasks ∧ PendingFor target task ∧ task.id ∉ tasks.map WakeupTask.id := by
  induction tasks generalizing db with
  | nil => simp
  | cons u tasks ih =>
    rw [List.foldl_cons, ih]
    have hmem : task ∈ (cancelWakeupTask reason now db u).wakeupTasks ↔
        (∃ r ∈ db.wakeupTasks, key r = u.id ∧ r.cancelled reason now = task) ∨
          (task ∈ db.wakeupTasks ∧ key task ≠ u.id) := mem_update
    rw [hmem, List.map_cons, List.mem_cons, not_or]
    constructor
    · rintro ⟨⟨r, -, -, rfl⟩ | ⟨hold, hne⟩, hpending, hnot⟩
      · exact absurd hpending (not_pendingFor_cancelled target r reason now)
      · exact ⟨hold, hpending, hne, hnot⟩
    · rintro ⟨hold, hpending, hne, hnot⟩
      exact ⟨.inr ⟨hold, hne⟩, hpending, hnot⟩

lemma keys_foldl_cancelWakeupTask (reason : Option String) (tasks : List WakeupTask) :
    (tasks.foldl (cancelWakeupTask reason now) db).wakeupTasks.map key =
        db.wakeupTasks.map key ∧
      (tasks.foldl (cancelWakeupTask reason now) db).jobs.map key = db.jobs.map key := by
  induction tasks generalizing db with
  | nil => exact ⟨rfl, rfl⟩
  | cons u tasks ih =>
    obtain ⟨htasks, hjobs⟩ := @ih (cancelWakeupTask reason now db u)
    refine ⟨htasks.trans (map_key_update fun _ => rfl), hjobs.trans ?_⟩
    unfold cancelWakeupTask
    cases u.durableJobId with
    | none => rfl
    | some jobId =>
      refine map_key_update fun job => ?_
      unfold DurableJob.cancelledIfQueued
      split <;> rfl

variable {ctx : SchedulerContext} {newTagId : RowId} {decision : WakeupDecision}

lemma pending_cancelNamed {task : WakeupTask} :
    (task ∈ (cancelNamed ctx newTagId decision db).1.wakeupTasks ∧
      PendingFor ctx.event.target task) ↔ Left ctx decision db task := by
  unfold cancelNamed Left
  split
  · next hnone => simp [hnone]
  · simp only [cancelWakeupTasks, wakeupTasks_sync, pending_foldl_cancelWakeupTask]
    refine and_congr_right fun hmem => and_congr_right fun hpending => not_congr ?_
    simp only [tasksToCancel, listPendingWakeupTasks, CancelRequest.selects, List.mem_map,
      List.mem_filter, mem_orderBy]
    constructor
    · rintro ⟨u, ⟨-, hu⟩, hid⟩
      rw [← hid]
      simpa using hu
    · intro hid
      exact ⟨task, ⟨⟨hmem, decide_eq_true hpending⟩, by simpa using hid⟩, rfl⟩

lemma keys_cancelNamed :
    (cancelNamed ctx newTagId decision db).1.wakeupTasks.map key = db.wakeupTasks.map key ∧
      (cancelNamed ctx newTagId decision db).1.jobs.map key = db.jobs.map key := by
  unfold cancelNamed
  split
  · exact ⟨rfl, rfl⟩
  · simp only [cancelWakeupTasks, wakeupTasks_sync, (syncCurrentWakeupTaskId_frame ..).jobs]
    exact keys_foldl_cancelWakeupTask ..

end Cancelling

/-! ## The idle wakeup and the end -/

section Ending

variable {fromisoformat : String → Except String IsoDatetime} {ctx : SchedulerContext}
  {newTagId : RowId} {decision : WakeupDecision} {db db' : Db}

lemma listPendingWakeupTasks_isEmpty {tasks : List WakeupTask} {target : Target} :
    (listPendingWakeupTasks tasks target).isEmpty = true ↔
      ¬ ∃ task ∈ tasks, PendingFor target task := by
  rw [List.isEmpty_iff, listPendingWakeupTasks, orderBy_eq_nil, List.filter_eq_nil_iff]
  simp

lemma scheduleIdleWakeup_eq (newTagId : RowId) (state : Db × ScheduleResult)
    (h : Representable (ctx.now.micros + 1000000 * ctx.idleDelaySeconds)) :
    scheduleIdleWakeup ctx newTagId state =
      scheduleRequest ctx newTagId state ctx.input.idleRequest := by
  unfold scheduleIdleWakeup
  rw [Datetime.add_eq, Datetime.ofInstant, dif_pos h]
  simp only [bind, Except.bind]

lemma scheduleIdleWakeup_spec (newTagId : RowId) (state : Db × ScheduleResult)
    (h : Representable (ctx.now.micros + 1000000 * ctx.idleDelaySeconds)) :
    ∃ next row, scheduleIdleWakeup ctx newTagId state = .ok next ∧ Appends state.1 next.1 [row] ∧
      Queued ctx.event.target (ctx.now.micros + 1000000 * ctx.idleDelaySeconds) row := by
  have hreason : (ctx.input.idleRequest.reason.map strip).getD "" ≠ "" := by
    simp only [SchedulerInput.idleRequest, Option.map_some, Option.getD_some]
    refine strip_ne_of_mem (c := 'T') ?_ (by decide)
    simp only [String.toList_append, List.mem_append]
    exact .inl (.inl (.inl (.inl (by simp))))
  obtain ⟨next, row, hnext, happends, hqueued, -⟩ :=
    scheduleRequest_spec ctx newTagId state hreason
  have hrunAt : ctx.input.idleRequest.runAt =
      ctx.now.micros + 1000000 * ctx.idleDelaySeconds := rfl
  exact ⟨next, row, (scheduleIdleWakeup_eq newTagId state h).trans hnext, happends,
    hrunAt ▸ hqueued⟩

lemma representable_of_scheduleIdleWakeup {state next : Db × ScheduleResult}
    (h : scheduleIdleWakeup ctx newTagId state = .ok next) :
    Representable (ctx.now.micros + 1000000 * ctx.idleDelaySeconds) := by
  by_contra hout
  unfold scheduleIdleWakeup at h
  rw [Datetime.add_eq, Datetime.ofInstant, dif_neg hout] at h
  cases h

lemma ending_spec (newTagId : RowId) (state : Db × ScheduleResult)
    (hdb' : syncCurrentWakeupTaskId (scheduleCompaction ctx state).1 ctx.event.target newTagId
      ctx.now.micros = db') :
    db'.wakeupTasks = state.1.wakeupTasks ∧
      ∃ others, db'.jobs = state.1.jobs ++ others ∧ ∀ job ∈ others, job.jobType ≠ "wakeup" := by
  subst hdb'
  rw [wakeupTasks_sync, (syncCurrentWakeupTaskId_frame ..).jobs]
  unfold scheduleCompaction
  split
  · refine ⟨rfl, _, rfl, fun job hjob => ?_⟩
    rw [List.mem_singleton.mp hjob]
    simp [JobRequest.toJob, compactionRequest]
  · exact ⟨rfl, [], (List.append_nil _).symm, fun _ h => absurd h List.not_mem_nil⟩

lemma schedule_eq_ok {result : ScheduleResult} :
    schedule fromisoformat ctx newTagId decision db = .ok (db', result) ↔
      ∃ hinted idled,
        decision.nextWakeupHints.foldlM (scheduleHint fromisoformat ctx newTagId)
          (cancelNamed ctx newTagId decision db) = .ok hinted ∧
        scheduleIdle ctx newTagId decision hinted = .ok idled ∧
        syncCurrentWakeupTaskId (scheduleCompaction ctx idled).1 ctx.event.target newTagId
          ctx.now.micros = db' ∧
        (scheduleCompaction ctx idled).2 = result := by
  unfold schedule
  simp only [bind, except_bind_eq_ok, Except.ok.injEq, Prod.mk.injEq, exists_and_left]

end Ending

/-! ## The law -/

section Law

variable {fromisoformat : String → Except String IsoDatetime} {ctx : SchedulerContext}
  {newTagId : RowId} {decision : WakeupDecision} {db : Db}

lemma denoted_eq_nil {hints : List ScheduledWakeup}
    (h : ¬ ∃ hint ∈ hints, (hint.instant fromisoformat ctx.now).isSome) :
    denoted fromisoformat ctx hints = [] := by
  refine List.filterMap_eq_nil_iff.mpr fun hint hmem => ?_
  have hnone : hint.instant fromisoformat ctx.now = none := by
    rw [← Option.not_isSome_iff_eq_none]
    exact fun hsome => h ⟨hint, hmem, hsome⟩
  rw [WakeupFields.denotes, hnone]
  rfl

lemma denoted_ne_nil {hints : List ScheduledWakeup}
    (hin : ∀ hint ∈ hints, ∀ t ∈ hint.instant fromisoformat ctx.now, Representable t)
    (h : ∃ hint ∈ hints, (hint.instant fromisoformat ctx.now).isSome) :
    denoted fromisoformat ctx hints ≠ [] := by
  obtain ⟨hint, hmem, hsome⟩ := h
  obtain ⟨t, ht⟩ := Option.isSome_iff_exists.mp hsome
  have hdenotes : hint.denotes fromisoformat ctx.now = some t.toNat := by
    rw [WakeupFields.denotes, ht, Option.filter_some, if_pos (decide_eq_true (hin hint hmem t ht))]
    rfl
  have hpair : (hint, t.toNat) ∈ denoted fromisoformat ctx hints :=
    List.mem_filterMap.mpr ⟨hint, hmem, by rw [hdenotes]; rfl⟩
  exact List.ne_nil_of_mem hpair

lemma exists_pending_of_created {target : Target} {hints : List (ScheduledWakeup × Timestamp)}
    {rows : List (WakeupTask × DurableJob)} (h : List.Forall₂ (CreatedFor target) hints rows)
    (hne : hints ≠ []) : ∃ task ∈ rows.map Prod.fst, PendingFor target task := by
  cases h with
  | nil => exact absurd rfl hne
  | cons hrow _ => exact ⟨_, List.mem_cons_self, hrow.queued.pending⟩

lemma scheduleIdle_spec (newTagId : RowId) (loop : Db × ScheduleResult)
    (hend : ShouldScheduleIdleWakeup ctx decision loop.1 →
      Representable (ctx.now.micros + 1000000 * ctx.idleDelaySeconds)) :
    ∃ idled idle, scheduleIdle ctx newTagId decision loop = .ok idled ∧
      Appends loop.1 idled.1 idle ∧
      (idle = [] ∨ (ctx.event.eventType = .chat ∧ decision.nextWakeupHints = [] ∧
        ∃ row, idle = [row] ∧
          Queued ctx.event.target (ctx.now.micros + 1000000 * ctx.idleDelaySeconds) row)) ∧
      (ShouldScheduleIdleWakeup ctx decision loop.1 → idle ≠ []) := by
  unfold scheduleIdle
  by_cases hdue : ShouldScheduleIdleWakeup ctx decision loop.1
  · obtain ⟨idled, row, hidled, happends, hqueued⟩ :=
      scheduleIdleWakeup_spec newTagId loop (hend hdue)
    rw [if_pos hdue]
    exact ⟨idled, [row], hidled, happends,
      .inr ⟨hdue.1, List.isEmpty_iff.mp hdue.2.1, row, rfl, hqueued⟩, fun _ => by simp⟩
  · rw [if_neg hdue]
    exact ⟨loop, [], rfl, .refl _, .inl rfl, fun h => absurd h hdue⟩

lemma fits_of_sound (h : Sound fromisoformat ctx decision db newTagId) :
    Fits fromisoformat ctx decision db := by
  obtain ⟨db', result, hinted, idle, others, hschedule, hdelivered⟩ := h
  obtain ⟨loop, idled, hloop, hidled, hdb', -⟩ := schedule_eq_ok.mp hschedule
  have hin := inTime_of_scheduleHints hloop
  refine ⟨hin, fun hchat => ?_⟩
  by_contra hnone
  push Not at hnone
  obtain ⟨hhints, hleft, hend⟩ := hnone
  -- no hint has created anything, so what is pending was pending before
  obtain ⟨next, rows, hnext, happends, hrows⟩ :=
    scheduleHints_of_inTime newTagId hin (cancelNamed ctx newTagId decision db)
  rw [hloop] at hnext
  cases hnext
  rw [denoted_eq_nil (by simpa using hhints)] at hrows
  cases hrows
  have htasks := happends.tasks
  rw [List.map_nil, List.append_nil] at htasks
  have hquiet : ¬ ∃ task ∈ loop.1.wakeupTasks, PendingFor ctx.event.target task := by
    rintro ⟨task, hmem, hpending⟩
    rw [htasks] at hmem
    exact hleft task (pending_cancelNamed.mp ⟨hmem, hpending⟩)
  unfold scheduleIdle at hidled
  by_cases hdue : ShouldScheduleIdleWakeup ctx decision loop.1
  · rw [if_pos hdue] at hidled
    exact hend (List.isEmpty_iff.mp hdue.2.1) (representable_of_scheduleIdleWakeup hidled)
  · rw [if_neg hdue] at hidled
    cases hidled
    obtain ⟨task, hmem, hpending⟩ := hdelivered.followed hchat
    rw [(ending_spec newTagId loop hdb').1] at hmem
    exact hquiet ⟨task, hmem, hpending⟩

lemma sound_of_fits (newTagId : RowId) (hfits : Fits fromisoformat ctx decision db) :
    Sound fromisoformat ctx decision db newTagId := by
  obtain ⟨loop, rows, hloop, happends, hrows⟩ := scheduleHints_of_inTime newTagId hfits.inTime
    (cancelNamed ctx newTagId decision db)
  have hway : ctx.event.eventType = .chat →
      (∃ task ∈ loop.1.wakeupTasks, PendingFor ctx.event.target task) ∨
      (decision.nextWakeupHints = [] ∧
        Representable (ctx.now.micros + 1000000 * ctx.idleDelaySeconds)) := by
    intro hchat
    rw [happends.tasks]
    rcases hfits.followed hchat with hsome | ⟨task, htask⟩ | hend
    · obtain ⟨task, hmem, hpending⟩ :=
        exists_pending_of_created hrows (denoted_ne_nil hfits.inTime hsome)
      exact .inl ⟨task, List.mem_append_right _ hmem, hpending⟩
    · exact .inl ⟨task, List.mem_append_left _ (pending_cancelNamed.mpr htask).1, htask.2.1⟩
    · exact .inr hend
  have hend : ShouldScheduleIdleWakeup ctx decision loop.1 →
      Representable (ctx.now.micros + 1000000 * ctx.idleDelaySeconds) := fun hdue =>
    ((hway hdue.1).resolve_left (listPendingWakeupTasks_isEmpty.mp hdue.2.2)).2
  obtain ⟨idled, idle, hidled, hidleAppends, hidle, hidleDue⟩ :=
    scheduleIdle_spec newTagId loop hend
  obtain ⟨htasks, others, hjobs, hothers⟩ := ending_spec newTagId idled rfl
  have happended := happends.trans hidleAppends
  refine ⟨_, _, rows, idle, others, schedule_eq_ok.mpr ⟨loop, idled, hloop, hidled, rfl, rfl⟩,
    { created := hrows
      idled := hidle
      tasks := ⟨_, keys_cancelNamed.1, htasks.trans happended.tasks⟩
      jobs := ⟨(cancelNamed ctx newTagId decision db).1.jobs, keys_cancelNamed.2, ?_⟩
      otherJobs := hothers
      followed := fun hchat => ?_ }⟩
  · rw [hjobs, happended.jobs, List.append_assoc]
  · rw [htasks, hidleAppends.tasks]
    rcases hway hchat with ⟨task, hmem, hpending⟩ | ⟨hhints, -⟩
    · exact ⟨task, List.mem_append_left _ hmem, hpending⟩
    · by_cases hdue : ShouldScheduleIdleWakeup ctx decision loop.1
      · obtain hnil | ⟨-, -, row, rfl, hqueued⟩ := hidle
        · exact absurd hnil (hidleDue hdue)
        · exact ⟨row.1, List.mem_append_right _ List.mem_cons_self, hqueued.pending⟩
      -- an idle wakeup that is not due finds a pending task
      · have hpending : ∃ task ∈ loop.1.wakeupTasks, PendingFor ctx.event.target task := by
          by_contra hquiet
          exact hdue ⟨hchat, by rw [hhints]; rfl, listPendingWakeupTasks_isEmpty.mpr hquiet⟩
        obtain ⟨task, hmem, htask⟩ := hpending
        exact ⟨task, List.mem_append_left _ hmem, htask⟩

/-- The call does all it is to do exactly when no hint leads out of the calendar and a chat round
does not end with useless hints only. -/
theorem schedule_sound_iff (fromisoformat : String → Except String IsoDatetime)
    (ctx : SchedulerContext) (decision : WakeupDecision) (db : Db) (newTagId : RowId) :
    Sound fromisoformat ctx decision db newTagId ↔ Fits fromisoformat ctx decision db :=
  ⟨fits_of_sound, sound_of_fits newTagId⟩

end Law

/-! ## Two rounds that go wrong -/

section Rounds

/-- Noon of the first of May 2026, after a chat message in the cocoon `a`. -/
def chatContext : SchedulerContext where
  event := { eventType := .chat, target := .cocoon "a", actionId := "action" }
  isoformat _ := "2026-05-01T12:00:00"
  now := ⟨63913233600000000, by decide⟩
  keys _ := ⟨"task", "job"⟩
  compactionJobId := "compaction"

/-- One hint, as the model has written it. -/
def hintedBy (fields : WakeupFields) : WakeupDecision where
  nextWakeupHints := normalizeWakeupHints [("check in", fields)]

/-- A hint to wake up at once leaves the cocoon without a wakeup, and one to wake up in a
hundred million years ends the round. -/
theorem useless_hint_unfollowed :
    ¬ Sound (fun _ => .error "") chatContext (hintedBy { delaySeconds := some 0 }) {} "" ∧
      ¬ Sound (fun _ => .error "") chatContext (hintedBy { delayHours := some 876000000000 })
        {} "" := by
  constructor
  · rintro ⟨db', result, hinted, idle, others, hschedule, hdelivered⟩
    have hrun : (schedule (fun _ => .error "") chatContext ""
        (hintedBy { delaySeconds := some 0 }) {}).map (fun out => out.1.wakeupTasks.length) =
        .ok 0 := by decide +kernel
    rw [hschedule] at hrun
    have hnil : db'.wakeupTasks = [] := List.length_eq_zero_iff.mp (Except.ok.inj hrun)
    obtain ⟨task, hmem, -⟩ := hdelivered.followed rfl
    rw [hnil] at hmem
    cases hmem
  · rintro ⟨db', result, hinted, idle, others, hschedule, -⟩
    have hrun : (schedule (fun _ => .error "") chatContext ""
        (hintedBy { delayHours := some 876000000000 }) {}).map
          (fun out => out.1.wakeupTasks.length) = .error .overflowError := by decide +kernel
    rw [hschedule] at hrun
    cases hrun

end Rounds

/-! ## The operations of a round -/

section Operations

variable {fromisoformat : String → Except String IsoDatetime} {ctx : SchedulerContext}
  {newTagId : RowId} {decision : WakeupDecision} {db db' : Db}

/-- The hint with the time it denotes. -/
def ScheduledWakeup.resolve (fromisoformat : String → Except String IsoDatetime) (now : Datetime)
    (hint : ScheduledWakeup) : WakeupHint where
  reason := some hint.reason.1
  runAt := hint.denotes fromisoformat now
  payloadJson := hint.payloadJson

def WakeupDecision.resolve (fromisoformat : String → Except String IsoDatetime) (now : Datetime)
    (decision : WakeupDecision) : MetaDecision where
  nextWakeupHints := decision.nextWakeupHints.map (ScheduledWakeup.resolve fromisoformat now)
  cancelWakeupTaskIds := decision.cancelWakeupTaskIds

/-- Operations one after the other. -/
def execOps (ctx : SchedulerContext) (newTagId : RowId) (ops : List SchedulerOp) (db : Db) :
    Option Db :=
  ops.foldlM (SchedulerOp.exec ctx.event.target newTagId ctx.now.micros) db

lemma execOps_append {ops ops' : List SchedulerOp} :
    execOps ctx newTagId (ops ++ ops') db = some db' ↔
      ∃ db₁, execOps ctx newTagId ops db = some db₁ ∧ execOps ctx newTagId ops' db₁ = some db' := by
  rw [execOps, List.foldlM_append]
  exact Option.bind_eq_some_iff

lemma scheduleRequest_of_scheduleOp (state : Db × ScheduleResult) {req : WakeupRequest}
    (h : scheduleOp state.1 ctx.event.target req (ctx.keys state.2.wakeupTaskIds.length) newTagId
      ctx.now.micros = some db') :
    scheduleRequest ctx newTagId state req =
      .ok (db', state.2.add (ctx.keys state.2.wakeupTaskIds.length)) := by
  unfold scheduleOp at h
  split at h
  · cases h
  · unfold scheduleRequest
    cases hwakeup : scheduleWakeup state.1 ctx.event.target req
        (ctx.keys state.2.wakeupTaskIds.length).taskId
        (ctx.keys state.2.wakeupTaskIds.length).jobId newTagId ctx.now.micros with
    | error text => simp [hwakeup, Except.toOption] at h
    | ok db₁ =>
      rw [hwakeup] at h
      cases h
      simp only [hwakeup]

lemma scheduleHint_eq (newTagId : RowId) (state : Db × ScheduleResult) {hint : ScheduledWakeup}
    (hin : ∀ t ∈ hint.instant fromisoformat ctx.now, Representable t) :
    scheduleHint fromisoformat ctx newTagId state hint =
      (ctx.input.hintRequest (hint.resolve fromisoformat ctx.now)).elim (.ok state)
        (scheduleRequest ctx newTagId state) := by
  unfold ScheduledWakeup.resolve WakeupFields.denotes
  cases hinst : hint.instant fromisoformat ctx.now with
  | none =>
    rw [scheduleHint_of_none state hinst]
    unfold SchedulerInput.hintRequest
    simp
  | some t =>
    have ht := hin t hinst
    obtain ⟨text, hres⟩ := resolveRunAt_eq fromisoformat ctx.now hint.toWakeupFields
    rw [hinst, Option.elim_some, Datetime.ofInstant, dif_pos ht] at hres
    obtain ⟨req, hreq, -, -⟩ :=
      hintRequest_of_reason ctx.input hint.reason t.toNat hint.payloadJson
    unfold scheduleHint
    rw [hint.reason.2.1, if_neg hint.reason.2.2, hres, Option.filter_some,
      if_pos (decide_eq_true ht), Option.map_some]
    simp only [hreq, Option.elim_some]

lemma scheduleHints_of_execOps {hints : List ScheduledWakeup}
    (hin : ∀ hint ∈ hints, ∀ t ∈ hint.instant fromisoformat ctx.now, Representable t)
    {state : Db × ScheduleResult}
    (h : execOps ctx newTagId
      ((((hints.map (ScheduledWakeup.resolve fromisoformat ctx.now)).filterMap
        ctx.input.hintRequest).zipIdx state.2.wakeupTaskIds.length).map fun req =>
          .schedule req.1 (ctx.input.keys req.2)) state.1 = some db') :
    ∃ next, hints.foldlM (scheduleHint fromisoformat ctx newTagId) state = .ok next ∧
      next.1 = db' := by
  induction hints generalizing state with
  | nil => exact ⟨state, rfl, Option.some.inj h⟩
  | cons hint hints ih =>
    obtain ⟨hhint, hrest⟩ := List.forall_mem_cons.mp hin
    rw [List.foldlM_cons, scheduleHint_eq newTagId state hhint]
    rw [List.map_cons, List.filterMap_cons] at h
    cases hreq : ctx.input.hintRequest (hint.resolve fromisoformat ctx.now) with
    | none =>
      rw [hreq] at h
      exact ih hrest h
    | some req =>
      rw [hreq] at h
      obtain ⟨db₁, hop, hops⟩ := Option.bind_eq_some_iff.mp h
      have hone := scheduleRequest_of_scheduleOp state hop
      rw [Option.elim_some, hone]
      refine @ih hrest (db₁, _) ?_
      rw [ScheduleResult.add, List.length_append]
      exact hops

lemma cancelNamed_of_execOps
    (h : execOps ctx newTagId
      (if (decision.resolve fromisoformat ctx.now).cancelWakeupTaskIds.isEmpty then [] else
        [.cancel
          { wakeupTaskIds := some (decision.resolve fromisoformat ctx.now).cancelWakeupTaskIds
            cancelledReason := some ("Cancelled by meta node during action " ++
              ctx.input.event.actionId) }]) db = some db') :
    (cancelNamed ctx newTagId decision db).1 = db' ∧
      (cancelNamed ctx newTagId decision db).2.wakeupTaskIds = [] := by
  unfold cancelNamed
  by_cases hnone : decision.cancelWakeupTaskIds = []
  · rw [if_pos (by simpa [WakeupDecision.resolve] using hnone)] at h
    rw [if_pos hnone]
    exact ⟨Option.some.inj h, rfl⟩
  · rw [if_neg (by simpa [WakeupDecision.resolve] using hnone)] at h
    rw [if_neg hnone]
    exact ⟨Option.some.inj h, rfl⟩

lemma scheduleIdle_of_execOps {loop : Db × ScheduleResult}
    (hend : Representable (ctx.now.micros + 1000000 * ctx.idleDelaySeconds))
    (hfirst : decision.nextWakeupHints = [] → loop.2.wakeupTaskIds = [])
    (h : execOps ctx newTagId
      (if ctx.input.event.eventType = .chat ∧
          (decision.resolve fromisoformat ctx.now).nextWakeupHints.isEmpty then
        [.idle ctx.input.idleRequest (ctx.input.keys 0)] else []) loop.1 = some db') :
    ∃ idled, scheduleIdle ctx newTagId decision loop = .ok idled ∧ idled.1 = db' := by
  have hhints : (decision.resolve fromisoformat ctx.now).nextWakeupHints.isEmpty =
      decision.nextWakeupHints.isEmpty := by
    simp [WakeupDecision.resolve]
  rw [hhints] at h
  unfold scheduleIdle
  by_cases hchat : ctx.event.eventType = .chat ∧ decision.nextWakeupHints.isEmpty
  · rw [if_pos (show ctx.input.event.eventType = .chat ∧ _ from hchat)] at h
    obtain ⟨db₁, hop, hdb₁⟩ := Option.bind_eq_some_iff.mp h
    cases hdb₁
    rw [SchedulerOp.exec] at hop
    by_cases hempty : (listPendingWakeupTasks loop.1.wakeupTasks ctx.event.target).isEmpty
    · rw [if_pos hempty] at hop
      have hids := hfirst (List.isEmpty_iff.mp hchat.2)
      rw [if_pos ⟨hchat.1, hchat.2, hempty⟩, scheduleIdleWakeup_eq newTagId loop hend,
        scheduleRequest_of_scheduleOp loop (by rw [hids]; exact hop)]
      exact ⟨_, rfl, rfl⟩
    · rw [if_neg hempty] at hop
      rw [if_neg fun hdue => hempty hdue.2.2]
      exact ⟨loop, rfl, Option.some.inj hop⟩
  · rw [if_neg (show ¬ (ctx.input.event.eventType = .chat ∧ _) from hchat)] at h
    rw [if_neg fun hdue => hchat ⟨hdue.1, hdue.2.1⟩]
    exact ⟨loop, rfl, Option.some.inj h⟩

lemma scheduleCompaction_of_execOps {idled : Db × ScheduleResult}
    (h : execOps ctx newTagId
      (match ctx.event.target, ctx.retainFromMessageId with
        | .cocoon cocoonId, some messageId => [.compaction cocoonId messageId ctx.compactionJobId]
        | _, _ => []) idled.1 = some db') : (scheduleCompaction ctx idled).1 = db' := by
  unfold scheduleCompaction
  split at h
  · exact Option.some.inj h
  · exact Option.some.inj h

/-- Inside the calendar the call ends where its operations end. -/
theorem schedule_of_schedulerOps
    (hin : ∀ hint ∈ decision.nextWakeupHints, ∀ t ∈ hint.instant fromisoformat ctx.now,
      Representable t)
    (hend : Representable (ctx.now.micros + 1000000 * ctx.idleDelaySeconds))
    (h : execOps ctx newTagId (schedulerOps ctx.input (decision.resolve fromisoformat ctx.now)) db =
      some db') :
    ∃ result, schedule fromisoformat ctx newTagId decision db = .ok (db', result) := by
  simp only [schedulerOps, execOps_append] at h
  obtain ⟨db₄, ⟨db₃, ⟨db₂, ⟨db₁, hcancel, hhints⟩, hidle⟩, hcompaction⟩, hsync⟩ := h
  obtain ⟨hcancelled, hids⟩ := cancelNamed_of_execOps hcancel
  obtain ⟨loop, hloop, rfl⟩ :=
    @scheduleHints_of_execOps _ _ newTagId _ _ hin (cancelNamed ctx newTagId decision db)
      (by rw [hcancelled, hids]; exact hhints)
  have hfirst : decision.nextWakeupHints = [] → loop.2.wakeupTaskIds = [] := by
    intro hhints
    rw [hhints] at hloop
    cases hloop
    exact hids
  obtain ⟨idled, hidled, rfl⟩ := scheduleIdle_of_execOps hend hfirst hidle
  refine ⟨(scheduleCompaction ctx idled).2, schedule_eq_ok.mpr
    ⟨loop, idled, hloop, hidled, ?_, rfl⟩⟩
  rw [scheduleCompaction_of_execOps hcompaction]
  exact Option.some.inj hsync

theorem chatContext_schedule_of_schedulerOps :
    let decision := hintedBy { delaySeconds := some 60 }
    let ops := schedulerOps chatContext.input
      (decision.resolve (fun _ => .error "") chatContext.now)
    ∃ result, schedule (fun _ => .error "") chatContext "" decision {} =
      .ok ((execOps chatContext "" ops {}).get (by decide +kernel), result) :=
  schedule_of_schedulerOps (by decide +kernel) (by decide +kernel) (Option.some_get _).symm

end Operations

end CocoonSit.SchedulerNode
