import CocoonSit.Memory.Ops
import CocoonSit.Wakeup.PointerRuns

/-!
# What a wakeup round is told about its origin

A hint's payload is free model output, and the scheduler adds the keys the host relies on with
`setdefault`: the memory owner of the scheduling round, who scheduled the wakeup and in which
action.  `execute_wakeup` spreads the payload over the task's id and reason, and the context builder
reads the memory owner back from the result.  A key the model has written itself therefore wins over
the host's at each of these places.
-/

namespace CocoonSit

open Table TransitionSystem

/-! ## The round of a wakeup -/

/-- The payload of the action `execute_wakeup` creates. -/
def wakeupPayload (task : Option WakeupTask) : JsonDict :=
  (JsonDict.ofList
    [("wakeup_task_id", jsonOfText (task.map WakeupTask.id)),
     ("reason", jsonOfText (task.bind WakeupTask.reason))]).merge
    (task.elim .empty WakeupTask.payloadJson)

/-- The event of the round a wakeup job runs. -/
def wakeupEvent (db : Db) (job : DurableJob) (target : Target) (actionId : RowId) :
    RuntimeEvent where
  eventType := .wakeup
  target := target
  actionId := actionId
  payload := wakeupPayload (executedTask db job)

/-- What the context builder reads of the target. -/
structure Conversation where
  ownerUserId : RowId
  visibleMessages : List Message

namespace ContextBuilder

/-- `str(v)`; `pyStr` prints what is no text. -/
def textOf (pyStr : JsonValue → String) : JsonValue → String
  | .str s => s
  | v => pyStr v

/-- `str(d.get(k))` of a true value. -/
def truthyText (pyStr : JsonValue → String) (d : JsonDict) (k : String) : Option String :=
  ((d k).filter JsonValue.truthy).map (textOf pyStr)

/-- The user a payload names as the memory owner. -/
def namedOwner (pyStr : JsonValue → String) (payload : JsonDict) : Option RowId :=
  truthyText pyStr payload "memory_owner_user_id" <|> truthyText pyStr payload "sender_user_id"

def lastSender (visibleMessages : List Message) : Option RowId :=
  visibleMessages.reverse.findSome? fun m =>
    if m.role = .user then m.senderUserId.filter (· ≠ "") else none

/-- The value of a field is true. -/
def isTruthy (payload : JsonDict) (k : String) : Bool := (payload k).any JsonValue.truthy

/-- The memory owner of a round whose payload names none. -/
def unnamedOwner (target : Target) (payload : JsonDict) (conversation : Conversation) : RowId :=
  match target with
  | .cocoon _ => conversation.ownerUserId
  | .chatGroup _ =>
    if isTruthy payload "external_sender_id" ||
        isTruthy payload "external_sender_display_name" then
      conversation.ownerUserId
    else (lastSender conversation.visibleMessages).getD conversation.ownerUserId

def resolveMemoryOwnerUserId (pyStr : JsonValue → String) (event : RuntimeEvent)
    (conversation : Conversation) : RowId :=
  (namedOwner pyStr event.payload).getD (unnamedOwner event.target event.payload conversation)

/-- `_memory_lookup_scope`: the owner memories are looked up with. -/
def memoryLookupOwner (target : Target) (ownerUserId : RowId) : Option RowId :=
  match target with
  | .cocoon _ => none
  | .chatGroup _ => some ownerUserId

end ContextBuilder

/-! ## What a round schedules -/

/-- What the scheduler node of this round looks at. -/
def Round.input (round : Round) (eventType : EventType) (target : Target) : SchedulerInput :=
  { round.inp with event := { round.inp.event with eventType := eventType, target := target } }

/-- The wakeup an operation schedules. -/
def SchedulerOp.schedules (db : Db) (target : Target) :
    SchedulerOp → Option (WakeupRequest × WakeupKeys)
  | .schedule req keys => some (req, keys)
  | .idle req keys =>
    if (listPendingWakeupTasks db.wakeupTasks target).isEmpty then some (req, keys) else none
  | .cancel _ => none
  | .compaction .. => none
  | .sync => none

/-- The wakeups of a round: their requests, the part of them the model has written and what
`scheduled_by` is to say. -/
inductive RoundWakeup (inp : SchedulerInput) (decision : MetaDecision) :
    WakeupRequest → JsonDict → String → Prop
  | hinted {hint : WakeupHint} {req : WakeupRequest} (hmem : hint ∈ decision.nextWakeupHints)
      (h : inp.hintRequest hint = some req) :
      RoundWakeup inp decision req hint.payloadJson "meta_node"
  | idle : RoundWakeup inp decision inp.idleRequest .empty "idle_timeout_default"

/-- The context of a round with this memory owner. -/
def MemoryContext.ownedBy (ctx : MemoryContext) (ownerUserId : Option RowId) : MemoryContext :=
  { ctx with memoryOwnerUserId := ownerUserId }

/-- The wakeup round is the one the scheduling round has asked for. -/
structure FollowsRound (pyStr : JsonValue → String) (inp : SchedulerInput) (req : WakeupRequest)
    (keys : WakeupKeys) (scheduledBy : String) (event : RuntimeEvent)
    (conversation : Conversation) : Prop where
  target : event.target = inp.event.target
  owner : some (ContextBuilder.resolveMemoryOwnerUserId pyStr event conversation) =
    inp.memoryOwnerUserId
  /-- Of the users' global memories it sees those of the same owner only. -/
  reads : ∀ db memory, memory.memoryPool = "user_global" →
    visibilityFilter db event.target (ContextBuilder.memoryLookupOwner event.target
      (ContextBuilder.resolveMemoryOwnerUserId pyStr event conversation)) memory →
    memory.ownerUserId = inp.memoryOwnerUserId
  /-- The memories it writes have the owner those of the scheduling round have. -/
  writes : ∀ (db : Db) (ctx : MemoryContext), resolveMemoryOwnerUserId db
      (ctx.ownedBy (some (ContextBuilder.resolveMemoryOwnerUserId pyStr event conversation))) =
    resolveMemoryOwnerUserId db (ctx.ownedBy inp.memoryOwnerUserId)
  taskId : event.payload "wakeup_task_id" = some (.str keys.taskId)
  reason : event.payload "reason" = some (jsonOfText (req.reason.map strip))
  scheduledBy : event.payload "scheduled_by" = some (.str scheduledBy)
  sourceAction : event.payload "source_action_id" = some (.str inp.event.actionId)

/-- The model's payload does not have the key, or has the host's value there. -/
def Agrees (payload : JsonDict) (k : String) (v : JsonValue) : Prop :=
  payload k = none ∨ payload k = some v

/-- The model's payload does not have the host's keys, or has the host's values there.  Without the
host's memory owner in it, the payload must name the same one or the conversation lead to it. -/
structure PayloadHarmless (pyStr : JsonValue → String) (inp : SchedulerInput) (req : WakeupRequest)
    (keys : WakeupKeys) (scheduledBy : String) (payload : JsonDict)
    (conversation : Conversation) : Prop where
  owner : (payload "memory_owner_user_id" = none ∧ ∃ o ∈ inp.memoryOwnerUserId, o ≠ "") ∨
    inp.memoryOwnerUserId = some ((ContextBuilder.namedOwner pyStr payload).getD
      (ContextBuilder.unnamedOwner inp.event.target payload conversation))
  taskId : Agrees payload "wakeup_task_id" (.str keys.taskId)
  reason : Agrees payload "reason" (jsonOfText (req.reason.map strip))
  scheduledBy : Agrees payload "scheduled_by" (.str scheduledBy)
  sourceAction : Agrees payload "source_action_id" (.str inp.event.actionId)

lemma ownerUserId_of_visible {db : Db} {target : Target} {owner : RowId} {memory : MemoryChunk}
    (hpool : memory.memoryPool = "user_global")
    (h : visibilityFilter db target (ContextBuilder.memoryLookupOwner target owner) memory) :
    memory.ownerUserId = some owner := by
  cases target with
  | cocoon id => simp [visibilityFilter, ContextBuilder.memoryLookupOwner, hpool] at h
  | chatGroup id =>
    simp only [visibilityFilter, ContextBuilder.memoryLookupOwner, hpool] at h
    have howner : owner ≠ "" ∧ memory.ownerUserId = some owner := by simpa using h
    exact howner.2

/-! ## The payload on its way -/

/-- What a request's payload has of the model's payload and of the host's keys. -/
structure PayloadOf (inp : SchedulerInput) (scheduledBy : String) (payload : JsonDict)
    (sent : JsonDict) : Prop where
  owner : sent "memory_owner_user_id" =
    (payload "memory_owner_user_id" <|> (inp.memoryOwnerUserId.filter (· ≠ "")).map .str)
  scheduledBy : sent "scheduled_by" = (payload "scheduled_by" <|> some (.str scheduledBy))
  sourceAction : sent "source_action_id" =
    (payload "source_action_id" <|> some (.str inp.event.actionId))
  others : ∀ k ∈ ["sender_user_id", "external_sender_id", "external_sender_display_name",
    "wakeup_task_id", "reason"], sent k = payload k

lemma setDefault_same (d : JsonDict) (k : String) (v : JsonValue) :
    d.setDefault k v k = (d k <|> some v) := by
  unfold JsonDict.setDefault
  cases h : d k with
  | none => simp
  | some w => simp [h]

lemma setDefault_other (d : JsonDict) {k k' : String} (v : JsonValue) (h : k' ≠ k) :
    d.setDefault k v k' = d k' := by
  unfold JsonDict.setDefault
  split
  · rfl
  · exact JsonDict.set_other d v h

lemma setDefaultIf_same (d : JsonDict) (k : String) (v : Option JsonValue) :
    d.setDefaultIf k v k = (d k <|> v.filter JsonValue.truthy) := by
  unfold JsonDict.setDefaultIf
  cases v.filter JsonValue.truthy with
  | none => simp
  | some w => exact setDefault_same d k w

lemma setDefaultIf_other (d : JsonDict) {k k' : String} (v : Option JsonValue) (h : k' ≠ k) :
    d.setDefaultIf k v k' = d k' := by
  unfold JsonDict.setDefaultIf
  cases v.filter JsonValue.truthy with
  | none => rfl
  | some w => exact setDefault_other d w h

lemma filter_truthy_map_str (o : Option RowId) :
    (o.map JsonValue.str).filter JsonValue.truthy = (o.filter (· ≠ "")).map .str := by
  cases o with
  | none => rfl
  | some o => by_cases h : o = "" <;> simp [Option.filter_some, JsonValue.truthy, h]

lemma payloadOf_setDefaults {inp : SchedulerInput} {scheduledBy : String} {payload d : JsonDict}
    (tz : Option JsonValue)
    (hown : d "memory_owner_user_id" = payload "memory_owner_user_id")
    (hby : d "scheduled_by" = (payload "scheduled_by" <|> some (.str scheduledBy)))
    (hsource : d "source_action_id" =
      (payload "source_action_id" <|> some (.str inp.event.actionId)))
    (hothers : ∀ k ∈ ["sender_user_id", "external_sender_id", "external_sender_display_name",
      "wakeup_task_id", "reason"], d k = payload k) :
    PayloadOf inp scheduledBy payload ((d.setDefaultIf "timezone" tz).setDefaultIf
      "memory_owner_user_id" (inp.memoryOwnerUserId.map .str)) := by
  have hkeep : ∀ k, k ≠ "memory_owner_user_id" → k ≠ "timezone" →
      (d.setDefaultIf "timezone" tz).setDefaultIf "memory_owner_user_id"
        (inp.memoryOwnerUserId.map .str) k = d k := fun k h₁ h₂ => by
    rw [setDefaultIf_other _ _ h₁, setDefaultIf_other _ _ h₂]
  refine ⟨?_, ?_, ?_, fun k hk => ?_⟩
  · rw [setDefaultIf_same, setDefaultIf_other _ _ (by decide), hown, filter_truthy_map_str]
  · rw [hkeep _ (by decide) (by decide), hby]
  · rw [hkeep _ (by decide) (by decide), hsource]
  · rw [← hothers k hk]
    simp only [List.mem_cons, List.not_mem_nil, or_false] at hk
    refine hkeep k ?_ ?_ <;> rintro rfl <;> simp at hk

lemma payloadOf_of_roundWakeup {inp : SchedulerInput} {decision : MetaDecision}
    {req : WakeupRequest} {payload : JsonDict} {scheduledBy : String}
    (h : RoundWakeup inp decision req payload scheduledBy) :
    PayloadOf inp scheduledBy payload req.payloadJson := by
  cases h with
  | @hinted hint _ _ hreq =>
    unfold SchedulerInput.hintRequest at hreq
    split at hreq
    · cases hreq
      refine payloadOf_setDefaults _ ?_ ?_ ?_ fun k hk => ?_
      · rw [setDefault_other _ _ (by decide), setDefault_other _ _ (by decide),
          setDefault_other _ _ (by decide)]
      · rw [setDefault_other _ _ (by decide), setDefault_other _ _ (by decide), setDefault_same]
      · rw [setDefault_other _ _ (by decide), setDefault_same, setDefault_other _ _ (by decide)]
      · simp only [List.mem_cons, List.not_mem_nil, or_false] at hk
        rw [setDefault_other, setDefault_other, setDefault_other] <;> rintro rfl <;> simp at hk
    · cases hreq
  | idle =>
    refine payloadOf_setDefaults _ ?_ ?_ ?_ fun k hk => ?_
    · rfl
    · rfl
    · rfl
    · simp only [List.mem_cons, List.not_mem_nil, or_false] at hk
      rcases hk with rfl | rfl | rfl | rfl | rfl <;> rfl

/-! ## Tasks over the operations -/

/-- The task some operations later: its status may have changed, and it may have been cancelled. -/
structure SameWakeup (task task' : WakeupTask) : Prop where
  id : task'.id = task.id
  target : task'.target = task.target
  reason : task'.reason = task.reason
  payload : ∀ k ≠ "cancelled_reason", task'.payloadJson k = task.payloadJson k

lemma SameWakeup.refl (task : WakeupTask) : SameWakeup task task :=
  ⟨rfl, rfl, rfl, fun _ _ => rfl⟩

lemma SameWakeup.trans {t₁ t₂ t₃ : WakeupTask} (h₁ : SameWakeup t₁ t₂) (h₂ : SameWakeup t₂ t₃) :
    SameWakeup t₁ t₃ :=
  ⟨h₂.id.trans h₁.id, h₂.target.trans h₁.target, h₂.reason.trans h₁.reason,
    fun k hk => (h₂.payload k hk).trans (h₁.payload k hk)⟩

lemma sameWakeup_cancelled (task : WakeupTask) (reason : Option String) (now : Timestamp) :
    SameWakeup task (task.cancelled reason now) :=
  ⟨rfl, rfl, rfl, fun _ hk => JsonDict.set_other _ _ hk⟩

/-- Every task is still there with its reason and payload. -/
def TasksLast (db db' : Db) : Prop :=
  ∀ r ∈ db.wakeupTasks, ∃ r' ∈ db'.wakeupTasks, SameWakeup r r'

section TasksLast

variable {db db' db₁ db₂ : Db} {target : Target} {newTagId : RowId} {now : Timestamp}

lemma tasksLast_of_eq (h : db'.wakeupTasks = db.wakeupTasks) : TasksLast db db' :=
  fun r hr => ⟨r, h ▸ hr, .refl r⟩

lemma TasksLast.trans (h₁ : TasksLast db db₁) (h₂ : TasksLast db₁ db₂) : TasksLast db db₂ := by
  intro r hr
  obtain ⟨r₁, hr₁, hs₁⟩ := h₁ r hr
  obtain ⟨r₂, hr₂, hs₂⟩ := h₂ r₁ hr₁
  exact ⟨r₂, hr₂, hs₁.trans hs₂⟩

lemma tasksLast_update {id : RowId} {f : WakeupTask → WakeupTask} (hf : ∀ t, SameWakeup t (f t))
    (h : db'.wakeupTasks = update db.wakeupTasks id f) : TasksLast db db' := by
  intro r hr
  by_cases hid : key r = id
  · exact ⟨f r, h ▸ mem_update.mpr (.inl ⟨r, hr, hid, rfl⟩), hf r⟩
  · exact ⟨r, h ▸ mem_update.mpr (.inr ⟨hr, hid⟩), .refl r⟩

lemma tasksLast_setTaskStatus (db : Db) (id : RowId) (status : DurableJobStatus) :
    TasksLast db (setTaskStatus db id status) :=
  tasksLast_update (f := fun t => { t with status := status })
    (fun _ => ⟨rfl, rfl, rfl, fun _ _ => rfl⟩) rfl

lemma tasksLast_sync : TasksLast db (syncCurrentWakeupTaskId db target newTagId now) :=
  tasksLast_of_eq (wakeupTasks_sync ..)

lemma tasksLast_cancelWakeupTasks (db : Db) (target : Target) (req : CancelRequest)
    (newTagId : RowId) (now : Timestamp) :
    TasksLast db (cancelWakeupTasks db target req newTagId now).1 := by
  have hfold : ∀ (tasks : List WakeupTask) (db : Db),
      TasksLast db (tasks.foldl (cancelWakeupTask req.cancelledReason now) db) := by
    intro tasks
    induction tasks with
    | nil => exact fun db => tasksLast_of_eq rfl
    | cons t tasks ih =>
      intro db
      have hone : TasksLast db (cancelWakeupTask req.cancelledReason now db t) :=
        tasksLast_update (fun t => sameWakeup_cancelled t _ now) rfl
      exact hone.trans (ih _)
  exact (hfold _ db).trans tasksLast_sync

lemma scheduleOp_tasks {req : WakeupRequest} {keys : WakeupKeys}
    (h : scheduleOp db target req keys newTagId now = some db') :
    db'.wakeupTasks = db.wakeupTasks ++ [req.toTask target keys.taskId keys.jobId now] := by
  obtain ⟨-, -, rfl⟩ := scheduleOp_eq_some h
  rw [wakeupTasks_sync]
  rfl

lemma tasksLast_scheduleOp {req : WakeupRequest} {keys : WakeupKeys}
    (h : scheduleOp db target req keys newTagId now = some db') : TasksLast db db' :=
  fun r hr => ⟨r, by rw [scheduleOp_tasks h]; exact List.mem_append_left _ hr, .refl r⟩

lemma tasksLast_schedulerOp {op : SchedulerOp} (h : op.exec target newTagId now db = some db') :
    TasksLast db db' := by
  cases op with
  | cancel req =>
    cases h
    exact tasksLast_cancelWakeupTasks db target req newTagId now
  | schedule req keys => exact tasksLast_scheduleOp h
  | idle req keys =>
    simp only [SchedulerOp.exec] at h
    split at h
    · exact tasksLast_scheduleOp h
    · cases h
      exact tasksLast_of_eq rfl
  | compaction cocoonId retainFromMessageId jobId =>
    cases h
    exact tasksLast_of_eq rfl
  | sync =>
    cases h
    exact tasksLast_sync

lemma tasksLast_roundStep {s : RoundStep} (h : s.exec target newTagId now db = some db') :
    TasksLast db db' := by
  cases s with
  | buildContext =>
    cases h
    exact tasksLast_of_eq (ensureSessionState_frame ..).wakeupTasks
  | patchState tags =>
    cases h
    exact tasksLast_of_eq rfl
  | scheduler op => exact tasksLast_schedulerOp h

lemma tasksLast_execRound {steps : List RoundStep}
    (h : execRound target newTagId now steps db = some db') : TasksLast db db' := by
  induction steps generalizing db with
  | nil =>
    cases h
    exact tasksLast_of_eq rfl
  | cons s steps ih =>
    obtain ⟨db₁, h₁, hrest⟩ := execRound_cons.mp h
    exact (tasksLast_roundStep h₁).trans (ih hrest)

lemma tasksLast_ingest {ev : PluginEvent} {bindings : List (PluginTargetBinding × WakeupKeys)}
    (h : ingest db ev bindings newTagId now = some db') : TasksLast db db' := by
  unfold ingest at h
  generalize bindings.filter (fun b => ev.delivers b.1) = delivered at h
  induction delivered generalizing db with
  | nil =>
    cases h
    exact tasksLast_of_eq rfl
  | cons b rest ih =>
    rw [List.foldlM_cons] at h
    obtain ⟨db₁, h₁, hrest⟩ := Option.bind_eq_some_iff.mp h
    exact (tasksLast_scheduleOp h₁).trans (ih hrest)

lemma tasksLast_endWakeup (db : Db) (target : Target) (task : Option WakeupTask) :
    TasksLast db (endWakeup db target task newTagId now) := by
  cases task with
  | none => exact tasksLast_sync
  | some task => exact (tasksLast_setTaskStatus db task.id .completed).trans tasksLast_sync

end TasksLast

namespace WakeupPointer

variable {chat : MessageDispatchService} {db db' : Db} {target : Target}

lemma tasksLast_begunRound (db : Db) (job : DurableJob) (newTagId : RowId) (now : Timestamp) :
    TasksLast db (begunRound db job newTagId now) := by
  unfold begunRound
  split
  · next task _ =>
    refine (tasksLast_setTaskStatus db task.id .running).trans (tasksLast_of_eq ?_)
    exact (clearPointer_spec _ task newTagId now).1.wakeupTasks
  · exact tasksLast_of_eq rfl

lemma tasksLast_finish (ran : Db) (job : DurableJob) (eventType : EventType) (round : Round)
    (task : Option WakeupTask) (now : Timestamp) :
    TasksLast ran (finishJob (if round.raisedAfter.isNone ∧ eventType = .wakeup then
      endWakeup ran target task round.newTagId now else ran) job round.error now) := by
  suffices h : TasksLast ran (if round.raisedAfter.isNone ∧ eventType = .wakeup then
      endWakeup ran target task round.newTagId now else ran) from h.trans (tasksLast_of_eq rfl)
  split
  · exact tasksLast_endWakeup ran target task
  · exact tasksLast_of_eq rfl

lemma tasksLast_processRoundJob {job : DurableJob} {eventType : EventType} {round : Round}
    {now : Timestamp} (h : processRoundJob db job target eventType round now = some db') :
    TasksLast db db' := by
  rcases processRoundJob_eq_some h with ⟨-, rfl⟩ | ⟨-, ran, hran, rfl⟩
  · exact tasksLast_sync.trans (tasksLast_of_eq rfl)
  · have hbegun := tasksLast_begunRound db job round.newTagId now
    exact (hbegun.trans (tasksLast_execRound hran)).trans
      (tasksLast_finish ran job eventType round _ now)

lemma tasksLast_userMessage (chat : MessageDispatchService) (db : Db) (target : Target)
    (sub : ChatSubmission) (keys : NewKeys) (now : Timestamp) :
    TasksLast db ((chat.enqueueChat db target sub keys now).toOption.elim db Prod.fst) := by
  cases h : chat.enqueueChat db target sub keys now with
  | error e => exact tasksLast_of_eq rfl
  | ok result =>
    show TasksLast db result.1
    rcases enqueueChat_spec h with heq | ⟨htasks, -, -⟩
    · exact tasksLast_of_eq (congrArg Db.wakeupTasks heq)
    · have hensure : TasksLast db (ensureSessionState db target keys.tagId now).1 :=
        tasksLast_of_eq (ensureSessionState_frame ..).wakeupTasks
      have hprepare : TasksLast db (prepareTarget db target keys.tagId now) :=
        hensure.trans (tasksLast_cancelWakeupTasks _ target _ keys.tagId now)
      exact hprepare.trans (tasksLast_of_eq htasks)

lemma tasksLast_step {e : Event} (h : step chat db e = some db') : TasksLast db db' := by
  cases e with
  | schedule target req keys newTagId now => exact tasksLast_scheduleOp h
  | cancel target req newTagId now =>
    cases h
    exact tasksLast_cancelWakeupTasks db target req newTagId now
  | ingest ev bindings newTagId now => exact tasksLast_ingest h
  | userMessage target sub keys now =>
    cases h
    exact tasksLast_userMessage chat db target sub keys now
  | enqueue req jobId now =>
    simp only [step] at h
    split at h
    · cases h
    · cases h
      exact tasksLast_of_eq rfl
  | chatRound target eventType round now =>
    rcases chatRound_eq_some h with rfl | ⟨hexec, -⟩
    · exact tasksLast_of_eq rfl
    · exact tasksLast_execRound hexec
  | execute jobId round now =>
    obtain ⟨job, target, eventType, -, -, -, hproc⟩ := execute_eq_some h
    exact tasksLast_processRoundJob hproc

lemma tasksLast_run {es : List Event} (h : run (step chat) db es = some db') :
    TasksLast db db' := by
  induction es generalizing db with
  | nil =>
    cases h
    exact tasksLast_of_eq rfl
  | cons e es ih =>
    obtain ⟨db₁, h₁, hrest⟩ := run_cons_eq_some.mp h
    exact (tasksLast_step h₁).trans (ih hrest)

/-! ## The wakeups of a round -/

/-- The step runs this round, from `begun`. -/
inductive RunsRound (db : Db) :
    Event → Target → EventType → Round → Timestamp → Db → Prop
  | chat {target : Target} {eventType : EventType} {round : Round} {now : Timestamp}
      (h : round.raisedAfter = none) :
      RunsRound db (.chatRound target eventType round now) target eventType round now db
  | durable {jobId : RowId} {job : DurableJob} {target : Target} {eventType : EventType}
      {round : Round} {now : Timestamp} (hjob : get db.jobs jobId = some job)
      (htarget : job.target = some target) (htype : roundType job.jobType = some eventType)
      (hruns : Runs db job) :
      RunsRound db (.execute jobId round now) target eventType round now
        (begunRound db job round.newTagId now)

/-- The step runs a round that comes to schedule this wakeup. -/
structure RoundSchedules (db : Db) (e : Event) (target : Target) (eventType : EventType)
    (round : Round) (req : WakeupRequest) (keys : WakeupKeys) : Prop where
  scheduled : ∃ now begun done op rest mid,
    RunsRound db e target eventType round now begun ∧
    round.executed eventType target = done ++ .scheduler op :: rest ∧
    execRound target round.newTagId now done begun = some mid ∧
    op.schedules mid target = some (req, keys)

lemma schedules_exec {op : SchedulerOp} {req : WakeupRequest} {keys : WakeupKeys}
    {newTagId : RowId} {now : Timestamp} (h : op.schedules db target = some (req, keys))
    (hexec : op.exec target newTagId now db = some db') :
    scheduleOp db target req keys newTagId now = some db' := by
  cases op with
  | schedule req' keys' =>
    cases h
    exact hexec
  | idle req' keys' =>
    simp only [SchedulerOp.schedules] at h
    split at h
    · next hempty =>
      cases h
      simpa [SchedulerOp.exec, hempty] using hexec
    · cases h
  | cancel => cases h
  | compaction => cases h
  | sync => cases h

lemma RoundSchedules.task {e : Event} {eventType : EventType} {round : Round}
    {req : WakeupRequest} {keys : WakeupKeys}
    (h : RoundSchedules db e target eventType round req keys)
    (hs : step chat db e = some db') :
    ∃ now, ∃ task ∈ db'.wakeupTasks,
      SameWakeup (req.toTask target keys.taskId keys.jobId now) task := by
  obtain ⟨now, begun, done, op, rest, mid, hround, hsteps, hdone, hop⟩ := h
  -- the steps after the scheduling one keep its task
  have hran : ∀ ran, execRound target round.newTagId now (round.executed eventType target) begun =
      some ran → ∃ task ∈ ran.wakeupTasks,
        SameWakeup (req.toTask target keys.taskId keys.jobId now) task := by
    intro ran hran
    rw [hsteps, execRound, List.foldlM_append] at hran
    obtain ⟨mid', hmid, hrest⟩ := Option.bind_eq_some_iff.mp hran
    cases hdone.symm.trans hmid
    obtain ⟨db₁, hexec, hrest⟩ := execRound_cons.mp hrest
    have htasks := scheduleOp_tasks (schedules_exec hop hexec)
    refine tasksLast_execRound hrest _ ?_
    rw [htasks]
    exact List.mem_append_right _ List.mem_cons_self
  cases hround with
  | chat hraised =>
    rcases chatRound_eq_some hs with rfl | ⟨hexec, -⟩
    · simp only [step, hraised, Option.isSome_none, Bool.false_eq_true, if_false] at hs
      refine ⟨now, hran _ ?_⟩
      rw [Round.executed, hraised]
      exact hs
    · exact ⟨now, hran _ hexec⟩
  | durable hjob htarget htype hruns =>
    obtain ⟨job', target', eventType', hjob', htarget', htype', hproc⟩ := execute_eq_some hs
    cases hjob.symm.trans hjob'
    cases htarget.symm.trans htarget'
    cases htype.symm.trans htype'
    rcases processRoundJob_eq_some hproc with ⟨hnot, -⟩ | ⟨-, ran, hexec, rfl⟩
    · exact absurd hruns hnot
    · obtain ⟨task, hmem, hsame⟩ := hran ran hexec
      obtain ⟨task', hmem', hsame'⟩ := tasksLast_finish ran _ eventType round _ now task hmem
      exact ⟨now, task', hmem', hsame.trans hsame'⟩

lemma rows_run {es : List Event} (hrows : WakeupRows db) (h : run (step chat) db es = some db') :
    WakeupRows db' :=
  invariant_run WakeupRows (fun _ e _ hrows hs => rows_step e hrows hs) hrows h

/-! ## The round of a scheduled wakeup -/

section Executed

variable {pyStr : JsonValue → String} {inp : SchedulerInput} {decision : MetaDecision}
  {req : WakeupRequest} {keys : WakeupKeys} {payload : JsonDict} {scheduledBy : String}

lemma wakeupPayload_of_sameWakeup {task : WakeupTask} {now : Timestamp}
    (hsame : SameWakeup (req.toTask target keys.taskId keys.jobId now) task) :
    (∀ k ∈ ["memory_owner_user_id", "sender_user_id", "external_sender_id",
        "external_sender_display_name", "scheduled_by", "source_action_id"],
      wakeupPayload (some task) k = req.payloadJson k) ∧
    wakeupPayload (some task) "wakeup_task_id" =
      (req.payloadJson "wakeup_task_id" <|> some (.str keys.taskId)) ∧
    wakeupPayload (some task) "reason" =
      (req.payloadJson "reason" <|> some (jsonOfText (req.reason.map strip))) := by
  have hkey : ∀ k, k ≠ "cancelled_reason" → k ≠ "durable_job_id" →
      task.payloadJson k = req.payloadJson k := fun k h₁ h₂ =>
    (hsame.payload k h₁).trans (JsonDict.set_other _ _ h₂)
  have hmerge : ∀ k, k ≠ "cancelled_reason" → k ≠ "durable_job_id" →
      wakeupPayload (some task) k = (req.payloadJson k <|> JsonDict.ofList
        [("wakeup_task_id", jsonOfText (some task.id)), ("reason", jsonOfText task.reason)] k) :=
    fun k h₁ h₂ => by rw [← hkey k h₁ h₂]; rfl
  refine ⟨fun k hk => ?_, ?_, ?_⟩
  · simp only [List.mem_cons, List.not_mem_nil, or_false] at hk
    rcases hk with rfl | rfl | rfl | rfl | rfl | rfl <;>
      rw [hmerge _ (by decide) (by decide)] <;> simp [JsonDict.ofList]
  · rw [hmerge _ (by decide) (by decide), hsame.id]
    rfl
  · rw [hmerge _ (by decide) (by decide), hsame.reason]
    rfl

lemma orElse_eq_iff_agrees {k : String} {v : JsonValue} :
    (payload k <|> some v) = some v ↔ Agrees payload k v := by
  cases h : payload k with
  | none => simp [Agrees, h]
  | some w => simp [Agrees, h]

lemma resolveMemoryOwnerUserId_congr {event : RuntimeEvent} (conversation : Conversation)
    (h : ∀ k ∈ ["memory_owner_user_id", "sender_user_id", "external_sender_id",
      "external_sender_display_name"], event.payload k = payload k) :
    ContextBuilder.resolveMemoryOwnerUserId pyStr event conversation =
      (ContextBuilder.namedOwner pyStr payload).getD
        (ContextBuilder.unnamedOwner event.target payload conversation) := by
  simp only [List.mem_cons, List.not_mem_nil, or_false, forall_eq_or_imp, forall_eq] at h
  obtain ⟨h₁, h₂, h₃, h₄⟩ := h
  have hnamed : ContextBuilder.namedOwner pyStr event.payload =
      ContextBuilder.namedOwner pyStr payload := by
    simp only [ContextBuilder.namedOwner, ContextBuilder.truthyText, h₁, h₂]
  have hunnamed : ContextBuilder.unnamedOwner event.target event.payload conversation =
      ContextBuilder.unnamedOwner event.target payload conversation := by
    unfold ContextBuilder.unnamedOwner ContextBuilder.isTruthy
    rw [h₃, h₄]
  rw [ContextBuilder.resolveMemoryOwnerUserId, hnamed, hunnamed]

/-- The memory owner of the wakeup round is the scheduling round's exactly when the model has left
the key to the host, or what it has written leads to the same user. -/
lemma owner_iff (pyStr : JsonValue → String) (event : RuntimeEvent)
    (hsent : PayloadOf inp scheduledBy payload req.payloadJson) (conversation : Conversation)
    (htarget : event.target = inp.event.target)
    (hpayload : ∀ k ∈ ["memory_owner_user_id", "sender_user_id", "external_sender_id",
      "external_sender_display_name"], event.payload k = req.payloadJson k) :
    some (ContextBuilder.resolveMemoryOwnerUserId pyStr event conversation) =
        inp.memoryOwnerUserId ↔
      (payload "memory_owner_user_id" = none ∧ ∃ o ∈ inp.memoryOwnerUserId, o ≠ "") ∨
      inp.memoryOwnerUserId = some ((ContextBuilder.namedOwner pyStr payload).getD
        (ContextBuilder.unnamedOwner inp.event.target payload conversation)) := by
  by_cases hleft : payload "memory_owner_user_id" = none ∧ ∃ o ∈ inp.memoryOwnerUserId, o ≠ ""
  · refine iff_of_true ?_ (.inl hleft)
    obtain ⟨hnone, o, ho, hne⟩ := hleft
    rw [Option.mem_def] at ho
    have hkey : event.payload "memory_owner_user_id" = some (.str o) := by
      rw [hpayload _ (by simp), hsent.owner, hnone, ho]
      simp [hne]
    rw [ho]
    have hnamed : ContextBuilder.namedOwner pyStr event.payload = some o := by
      simp [ContextBuilder.namedOwner, ContextBuilder.truthyText, hkey, Option.filter_some,
        JsonValue.truthy, hne, ContextBuilder.textOf]
    rw [ContextBuilder.resolveMemoryOwnerUserId, hnamed, Option.getD_some]
  · have hkey : req.payloadJson "memory_owner_user_id" = payload "memory_owner_user_id" := by
      rw [hsent.owner]
      cases hp : payload "memory_owner_user_id" with
      | some v => rfl
      | none =>
        cases ho : inp.memoryOwnerUserId with
        | none => rfl
        | some o =>
          have hempty : o = "" := by
            by_contra hne
            exact hleft ⟨hp, o, ho, hne⟩
          rw [hempty]
          rfl
    have hsame : ∀ k ∈ ["memory_owner_user_id", "sender_user_id", "external_sender_id",
        "external_sender_display_name"], event.payload k = payload k := by
      intro k hk
      rw [hpayload k hk]
      simp only [List.mem_cons, List.not_mem_nil, or_false] at hk
      rcases hk with rfl | hk
      · exact hkey
      · refine hsent.others k ?_
        rcases hk with rfl | rfl | rfl <;> simp
    rw [resolveMemoryOwnerUserId_congr conversation hsame, htarget]
    simp only [hleft, false_or]
    exact eq_comm

end Executed

/-- Every wakeup a round schedules, whatever is done in between, runs as a round on the same target;
it has the memory owner of the scheduling round, sees and writes that user's global memories only,
and is told its own task, reason and origin, exactly when the model's payload does not have the
host's keys or has the host's values there. -/
theorem followsRound_iff_payloadHarmless (chat : MessageDispatchService)
    (pyStr : JsonValue → String) (db₀ db₁ db : Db) (before later : List Event) (e : Event)
    (h0 : Initial db₀) (hbefore : run (step chat) db₀ before = some db₁)
    (hlater : run (step chat) db₁ (e :: later) = some db) (target target' : Target)
    (eventType : EventType) (round : Round) (req : WakeupRequest) (keys : WakeupKeys)
    (payload : JsonDict) (scheduledBy : String)
    (hs : RoundSchedules db₁ e target eventType round req keys)
    (hw : RoundWakeup (round.input eventType target) round.decision req payload scheduledBy)
    (job : DurableJob) (hjob : job ∈ db.jobs) (htype : job.jobType = "wakeup")
    (hid : taskIdOf job = some keys.taskId) (htarget : job.target = some target')
    (actionId : RowId) (conversation : Conversation) :
    FollowsRound pyStr (round.input eventType target) req keys scheduledBy
        (wakeupEvent db job target' actionId) conversation ↔
      PayloadHarmless pyStr (round.input eventType target) req keys scheduledBy payload
        conversation := by
  obtain ⟨db₂, hstep, hrest⟩ := run_cons_eq_some.mp hlater
  have hrows : WakeupRows db := rows_run (rows_step e (rows_run h0.rows hbefore) hstep) hrest
  obtain ⟨now, task₂, hmem₂, hsame₂⟩ := hs.task hstep
  obtain ⟨task, hmem, hsame⟩ := tasksLast_run hrest task₂ hmem₂
  have hsame := hsame₂.trans hsame
  -- the job executes this task, and is of its target
  have htaskId : task.id = keys.taskId := hsame.id
  have hexec : executedTask db job = some task := by
    rw [executedTask, if_pos htype, hid]
    have hget := get_of_mem hrows.keys hmem
    rwa [show key task = keys.taskId from htaskId] at hget
  have htask := executedTask_spec hrows hjob htarget hexec
  have htt : target' = target := htask.2.symm.trans hsame.target
  obtain ⟨hkeys, htaskKey, hreason⟩ := wakeupPayload_of_sameWakeup hsame
  have hsent := payloadOf_of_roundWakeup hw
  have hpayload : (wakeupEvent db job target' actionId).payload = wakeupPayload (some task) := by
    rw [wakeupEvent, hexec]
  have howner := owner_iff pyStr (wakeupEvent db job target' actionId) hsent conversation htt
    fun k hk => by
      rw [hpayload]
      refine hkeys k ?_
      simp only [List.mem_cons, List.not_mem_nil, or_false] at hk ⊢
      tauto
  have hby := hkeys "scheduled_by" (by simp)
  have hsource := hkeys "source_action_id" (by simp)
  rw [hsent.others _ (by simp)] at htaskKey hreason
  rw [hsent.scheduledBy] at hby
  rw [hsent.sourceAction] at hsource
  constructor
  · intro h
    refine ⟨howner.mp h.owner, ?_, ?_, ?_, ?_⟩
    · exact orElse_eq_iff_agrees.mp (htaskKey ▸ hpayload ▸ h.taskId)
    · exact orElse_eq_iff_agrees.mp (hreason ▸ hpayload ▸ h.reason)
    · exact orElse_eq_iff_agrees.mp (hby ▸ hpayload ▸ h.scheduledBy)
    · exact orElse_eq_iff_agrees.mp (hsource ▸ hpayload ▸ h.sourceAction)
  · intro h
    have heq := howner.mpr h.owner
    refine ⟨htt, heq, fun db memory hpool hvisible => ?_, fun db ctx => by rw [heq], ?_, ?_, ?_, ?_⟩
    · rw [← heq]
      exact ownerUserId_of_visible hpool hvisible
    · rw [hpayload, htaskKey]
      exact orElse_eq_iff_agrees.mpr h.taskId
    · rw [hpayload, hreason]
      exact orElse_eq_iff_agrees.mpr h.reason
    · rw [hpayload, hby]
      exact orElse_eq_iff_agrees.mpr h.scheduledBy
    · rw [hpayload, hsource]
      exact orElse_eq_iff_agrees.mpr h.sourceAction

/-- A room of `alice`. -/
def quietRoom : Db where
  rooms := [{ id := "g1", ownerUserId := "alice", characterId := "ch1" }]
  sessionStates := [{ target := .chatGroup "g1" }]

lemma initial_quietRoom : Initial quietRoom := by
  constructor <;> simp [quietRoom]

/-- A round on a message of `bob` whose model asks for a wakeup with this payload. -/
def roundOfBob (payload : JsonDict) : Round where
  inp :=
    { event := { eventType := .chat, target := .chatGroup "g1", actionId := "a1" }
      memoryOwnerUserId := some "bob"
      isoformat := fun _ => ""
      now := 5
      keys := fun _ => ⟨"w1", "j1"⟩
      compactionJobId := "j8" }
  activeTags := ["t1"]
  decision :=
    { nextWakeupHints := [{ reason := some "ask", runAt := some 10, payloadJson := payload }] }
  newTagId := "t1"

/-- The request for that wakeup. -/
def bobsRequest (payload : JsonDict) : WakeupRequest :=
  { runAt := 10
    reason := some "ask"
    payloadJson := (((payload.setDefault "scheduled_by" (.str "meta_node")).setDefault
      "source_action_id" (.str "a1")).setDefault "source_event_type" (.str "chat")).setDefaultIf
      "memory_owner_user_id" (some (.str "bob")) }

/-- The round runs. -/
def bobSpeaks (payload : JsonDict) : Event :=
  .chatRound (.chatGroup "g1") .chat (roundOfBob payload) 5

/-- The wakeup's job. -/
def bobsJob : DurableJob where
  id := "j1"
  target := some (.chatGroup "g1")
  jobType := "wakeup"
  lockKey := "chat-group:g1:wakeup:w1"
  payloadJson := .ofList [("wakeup_task_id", .str "w1")]
  availableAt := 10
  createdAt := 5

lemma bobSpeaks_schedules (payload : JsonDict) :
    RoundSchedules quietRoom (bobSpeaks payload) (.chatGroup "g1") .chat (roundOfBob payload)
      (bobsRequest payload) ⟨"w1", "j1"⟩ :=
  ⟨5, quietRoom, [.buildContext, .patchState ["t1"]], .schedule (bobsRequest payload) ⟨"w1", "j1"⟩,
    [.scheduler .sync], _, .chat rfl, rfl, rfl, rfl⟩

lemma bobs_roundWakeup (payload : JsonDict) :
    RoundWakeup ((roundOfBob payload).input .chat (.chatGroup "g1")) (roundOfBob payload).decision
      (bobsRequest payload) payload "meta_node" :=
  @RoundWakeup.hinted _ _ { reason := some "ask", runAt := some 10, payloadJson := payload } _
    List.mem_cons_self rfl

/-- The room after the round. -/
def roomOfBob (payload : JsonDict) : Db :=
  (step { sha256Hex := fun text => text } quietRoom (bobSpeaks payload)).getD quietRoom

/-- A payload that names a memory owner. -/
def namesCarol : JsonDict := .ofList [("memory_owner_user_id", .str "carol")]

/-- The model names `carol` in the payload, and the wakeup round of the room has her memories. -/
theorem payload_names_carol :
    (Initial quietRoom ∧
      run (step { sha256Hex := fun text => text }) quietRoom [bobSpeaks namesCarol] =
        some (roomOfBob namesCarol) ∧
      RoundSchedules quietRoom (bobSpeaks namesCarol) (.chatGroup "g1") .chat
        (roundOfBob namesCarol) (bobsRequest namesCarol) ⟨"w1", "j1"⟩ ∧
      bobsJob ∈ (roomOfBob namesCarol).jobs) ∧
    ContextBuilder.resolveMemoryOwnerUserId (fun _ => "")
      (wakeupEvent (roomOfBob namesCarol) bobsJob (.chatGroup "g1") "a2") ⟨"alice", []⟩ =
        "carol" ∧
    ¬ FollowsRound (fun _ => "") ((roundOfBob namesCarol).input .chat (.chatGroup "g1"))
      (bobsRequest namesCarol) ⟨"w1", "j1"⟩ "meta_node"
      (wakeupEvent (roomOfBob namesCarol) bobsJob (.chatGroup "g1") "a2") ⟨"alice", []⟩ := by
  refine ⟨⟨initial_quietRoom, rfl, bobSpeaks_schedules _, List.mem_cons_self⟩, by decide,
    fun h => ?_⟩
  exact absurd h.owner (by decide)

/-- The model leaves the payload empty: the wakeup round is `bob`'s. -/
theorem empty_payload_followed :
    FollowsRound (fun _ => "") ((roundOfBob .empty).input .chat (.chatGroup "g1"))
      (bobsRequest .empty) ⟨"w1", "j1"⟩ "meta_node"
      (wakeupEvent (roomOfBob .empty) bobsJob (.chatGroup "g1") "a2") ⟨"alice", []⟩ :=
  (followsRound_iff_payloadHarmless { sha256Hex := fun text => text } (fun _ => "") quietRoom
    quietRoom (roomOfBob .empty) [] [] (bobSpeaks .empty) initial_quietRoom rfl rfl
    (.chatGroup "g1") (.chatGroup "g1") .chat (roundOfBob .empty) (bobsRequest .empty)
    ⟨"w1", "j1"⟩ .empty "meta_node" (bobSpeaks_schedules .empty) (bobs_roundWakeup .empty) bobsJob
    List.mem_cons_self rfl rfl rfl "a2" ⟨"alice", []⟩).mpr
    ⟨.inl ⟨rfl, "bob", rfl, by decide⟩, .inl rfl, .inl rfl, .inl rfl, .inl rfl⟩

end WakeupPointer

end CocoonSit
