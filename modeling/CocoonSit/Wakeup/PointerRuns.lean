import CocoonSit.Dispatch.Enqueue
import CocoonSit.Lib.Run
import CocoonSit.Wakeup.Execution
import CocoonSit.Wakeup.Pointer

/-!
# The wakeup pointer over whole runs

The operations that create, cancel, execute or fail wakeups, one after the other and in any order.
Each recomputes the pointer of its target before it commits, but for a durable round that raises
before its scheduler node: the executing task is marked running and taken off the pointer, which is
committed with the failed job although other tasks may be queued.
-/

namespace CocoonSit

open Table TransitionSystem

namespace WakeupPointer

inductive Event where
  /-- `schedule_wakeup`. -/
  | schedule (target : Target) (req : WakeupRequest) (keys : WakeupKeys) (newTagId : RowId)
      (now : Timestamp)
  /-- `cancel_wakeup_tasks`. -/
  | cancel (target : Target) (req : CancelRequest) (newTagId : RowId) (now : Timestamp)
  /-- A plugin event is delivered. -/
  | ingest (ev : PluginEvent) (bindings : List (PluginTargetBinding × WakeupKeys))
      (newTagId : RowId) (now : Timestamp)
  /-- `enqueue_chat_message` or `enqueue_chat_group_message`. -/
  | userMessage (target : Target) (sub : ChatSubmission) (keys : NewKeys) (now : Timestamp)
  /-- A durable job other than a wakeup is enqueued. -/
  | enqueue (req : JobRequest) (jobId : RowId) (now : Timestamp)
  /-- The chat worker runs a round; one that raises is rolled back. -/
  | chatRound (target : Target) (eventType : EventType) (round : Round) (now : Timestamp)
  /-- The durable worker processes a wakeup, pull or merge job. -/
  | execute (jobId : RowId) (round : Round) (now : Timestamp)

variable (chat : MessageDispatchService)

def step (db : Db) : Event → Option Db
  | .schedule target req keys newTagId now => scheduleOp db target req keys newTagId now
  | .cancel target req newTagId now => some (cancelWakeupTasks db target req newTagId now).1
  | .ingest ev bindings newTagId now => ingest db ev bindings newTagId now
  | .userMessage target sub keys now =>
    some ((chat.enqueueChat db target sub keys now).toOption.elim db Prod.fst)
  | .enqueue req jobId now =>
    if req.jobType = "wakeup" then none else some (enqueueJob db req jobId now)
  | .chatRound target eventType round now =>
    if round.raisedAfter.isSome then some db
    else execRound target round.newTagId now (round.steps eventType target) db
  | .execute jobId round now =>
    match get db.jobs jobId with
    | none => none
    | some job =>
      if job.status = .queued then
        match job.target, roundType job.jobType with
        | some target, some eventType => processRoundJob db job target eventType round now
        | _, _ => none
      else none

/-- Session states without pointers; no wakeups, no jobs. -/
structure Initial (db : Db) : Prop where
  tasks : db.wakeupTasks = []
  jobs : db.jobs = []
  pointers : ∀ s ∈ db.sessionStates, s.currentWakeupTaskId = none

/-- Every target's pointer names its next queued task. -/
def PointersSynced (db : Db) : Prop := ∀ target, SyncedAt db target

/-- No task of the target is queued besides the executing one. -/
def NoOtherPending (db : Db) (target : Target) (task : Option RowId) : Prop :=
  ∀ u ∈ db.wakeupTasks, PendingFor target u → task = some u.id

/-- The pointer is not the executing task's, so it stays; and without a session state none is
made. -/
def PointerStays (db : Db) (target : Target) (task : Option RowId) (steps : List RoundStep) :
    Prop :=
  match pointerOf db target with
  | some c => task = none ∨ c ≠ task
  | none => steps.any RoundStep.buildsContext = false

/-- The part of the round that was executed does no harm to the pointer. -/
def RaiseHarmless (db : Db) (target : Target) (task : Option RowId) (steps : List RoundStep) :
    Prop :=
  steps.any RoundStep.resyncs ∨ NoOtherPending db target task ∨ PointerStays db target task steps

/-- The round of this job runs: its task, if it has one, is not cancelled. -/
def Runs (db : Db) (job : DurableJob) : Prop :=
  ((executedTask db job).any fun t => t.status = .cancelled) = false

/-- A durable round that raises does so harmlessly. -/
def RaisesHarmlessly (db : Db) : Event → Prop
  | .execute jobId round _ => round.raisedAfter.isSome →
      ∀ job ∈ get db.jobs jobId, ∀ target ∈ job.target, ∀ eventType ∈ roundType job.jobType,
        Runs db job → RaiseHarmless db target ((executedTask db job).map WakeupTask.id)
          (round.executed eventType target)
  | _ => True

instance (db : Db) (target : Target) (task : Option RowId) :
    Decidable (NoOtherPending db target task) :=
  inferInstanceAs (Decidable (∀ u ∈ db.wakeupTasks, _))

instance (db : Db) (target : Target) (task : Option RowId) (steps : List RoundStep) :
    Decidable (PointerStays db target task steps) := by
  unfold PointerStays
  split <;> infer_instance

instance (db : Db) (target : Target) (task : Option RowId) (steps : List RoundStep) :
    Decidable (RaiseHarmless db target task steps) :=
  inferInstanceAs (Decidable (_ ∨ _ ∨ _))

instance (db : Db) (job : DurableJob) : Decidable (Runs db job) :=
  inferInstanceAs (Decidable (_ = false))

instance (db : Db) : ∀ e, Decidable (RaisesHarmlessly db e)
  | .execute jobId round _ => inferInstanceAs
      (Decidable (round.raisedAfter.isSome →
        ∀ job ∈ get db.jobs jobId, ∀ target ∈ job.target, ∀ eventType ∈ roundType job.jobType,
          Runs db job → RaiseHarmless db target ((executedTask db job).map WakeupTask.id)
            (round.executed eventType target)))
  | .schedule .. => .isTrue trivial
  | .cancel .. => .isTrue trivial
  | .ingest .. => .isTrue trivial
  | .userMessage .. => .isTrue trivial
  | .enqueue .. => .isTrue trivial
  | .chatRound .. => .isTrue trivial

variable {chat} {db db' : Db} {target : Target} {newTagId : RowId} {now : Timestamp}

/-! ## Rounds -/

/-- What the beginning of a durable round does: its task is no longer pending, and a pointer to it
is cleared. -/
structure Begun (target : Target) (task : Option RowId) (db db' : Db) : Prop where
  keeps : Keeps target db db'
  pending : ∀ u, (u ∈ db'.wakeupTasks ∧ PendingFor target u) ↔
    (u ∈ db.wakeupTasks ∧ PendingFor target u ∧ task ≠ some u.id)
  pointer : pointerOf db' target =
    (pointerOf db target).map fun c => if task ≠ none ∧ c = task then none else c

lemma begun_none (target : Target) (db : Db) : Begun target none db db :=
  ⟨.refl target db, fun u => by simp, by simp⟩

lemma keeps_setTaskStatus (hrows : WakeupRows db) {task : WakeupTask}
    (hmem : task ∈ db.wakeupTasks) (status : DurableJobStatus) :
    Keeps task.target db (setTaskStatus db task.id status) := by
  refine keeps_updateTask (fun _ => rfl) (fun _ => rfl) fun r hr hid => ?_
  rw [List.inj_on_of_nodup_map hrows.keys hr hmem hid]

lemma clearPointer_spec (db : Db) (task : WakeupTask) (newTagId : RowId) (now : Timestamp) :
    TagsOnly db (clearPointer db task newTagId now) ∧
      ∀ t, pointerOf (clearPointer db task newTagId now) t = if t = task.target then
        (pointerOf db t).map fun c => if c = some task.id then none else c else pointerOf db t := by
  have hframe := getSessionState_frame db task.target newTagId now
  have hget := fun t => pointerOf_getSessionState db task.target t newTagId now
  have hptr := getSessionState_pointer db task.target newTagId now
  unfold clearPointer
  split
  · next db₁ state heq =>
    rw [heq] at hframe hptr
    simp only [heq] at hget
    have hsome : some state.currentWakeupTaskId = pointerOf db task.target := hptr
    split
    · next hc =>
      refine ⟨hframe.trans ⟨rfl⟩, fun t => ?_⟩
      rw [pointerOf_setPointer, hget, hget]
      by_cases ht : t = task.target
      · rw [if_pos ht, if_pos ht, ht, ← hsome, hc]
        simp
      · rw [if_neg ht, if_neg ht]
    · next hc =>
      refine ⟨hframe, fun t => ?_⟩
      rw [hget]
      by_cases ht : t = task.target
      · rw [if_pos ht, ht, ← hsome, Option.map_some, if_neg hc]
      · rw [if_neg ht]
  · next db₁ heq =>
    rw [heq] at hframe hptr
    simp only [heq] at hget
    have hnone : none = pointerOf db task.target := hptr
    refine ⟨hframe, fun t => ?_⟩
    rw [hget]
    by_cases ht : t = task.target
    · rw [if_pos ht, ht, ← hnone]
      rfl
    · rw [if_neg ht]

lemma pending_setTaskStatus (db : Db) (target : Target) (id : RowId) (u : WakeupTask) :
    (u ∈ (setTaskStatus db id .running).wakeupTasks ∧ PendingFor target u) ↔
      (u ∈ db.wakeupTasks ∧ PendingFor target u ∧ some id ≠ some u.id) := by
  constructor
  · rintro ⟨hu, hp⟩
    rcases mem_update.mp hu with ⟨r, -, -, rfl⟩ | ⟨hu, hne⟩
    · cases hp.1
    · exact ⟨hu, hp, fun h => hne (Option.some.inj h).symm⟩
  · rintro ⟨hu, hp, hne⟩
    exact ⟨mem_update.mpr (.inr ⟨hu, fun h => hne (congrArg some h.symm)⟩), hp⟩

lemma begun_beginWakeup (hrows : WakeupRows db) {task : WakeupTask} (hmem : task ∈ db.wakeupTasks) :
    Begun task.target (some task.id) db (beginWakeup db task newTagId now) := by
  obtain ⟨hframe, hptr⟩ :=
    clearPointer_spec (setTaskStatus db task.id .running) task newTagId now
  refine ⟨(keeps_setTaskStatus hrows hmem .running).trans (.ofTags hframe fun t ht => ?_),
    fun u => ?_, ?_⟩
  · rw [beginWakeup, hptr, if_neg ht]
  · rw [beginWakeup, hframe.wakeupTasks]
    exact pending_setTaskStatus db task.target task.id u
  · rw [beginWakeup, hptr, if_pos rfl]
    simp only [ne_eq, reduceCtorEq, not_false_eq_true, true_and]
    rfl

lemma Begun.namesLeast_none {task : Option RowId} (h : Begun target task db db') :
    NamesLeast db'.wakeupTasks (PendingFor target) WakeupTask.runAt none ↔
      NoOtherPending db target task := by
  constructor
  · intro hnone u hu hp
    by_contra hne
    have hu' := (h.pending u).mpr ⟨hu, hp, hne⟩
    exact hnone u hu'.1 hu'.2
  · intro hno u hu hp
    have hu' := (h.pending u).mp ⟨hu, hp⟩
    exact hu'.2.2 (hno u hu'.1 hu'.2.1)

lemma Begun.namesLeast_other {task : Option RowId} (h : Begun target task db db')
    {c : Option RowId} (hc : task = none ∨ c ≠ task)
    (hleast : NamesLeast db.wakeupTasks (PendingFor target) WakeupTask.runAt c) :
    NamesLeast db'.wakeupTasks (PendingFor target) WakeupTask.runAt c := by
  cases c with
  | none => exact h.namesLeast_none.mpr fun u hu hp => absurd hp (hleast u hu)
  | some id =>
    obtain ⟨r, hr, hk, hp, hle⟩ := hleast
    have hne : task ≠ some r.id := by
      rintro rfl
      rcases hc with hc | hc
      · cases hc
      · exact hc (by rw [← hk]; rfl)
    have hr' := (h.pending r).mpr ⟨hr, hp, hne⟩
    refine ⟨r, hr'.1, hk, hp, fun u hu hpu => hle u ((h.pending u).mp ⟨hu, hpu⟩).1 hpu⟩

lemma executed_head (round : Round) (eventType : EventType) (target : Target) :
    round.executed eventType target = [] ∨
      ∃ rest, round.executed eventType target = .buildContext :: rest := by
  simp only [Round.executed, Round.steps, roundSteps, List.cons_append]
  split
  · next k _ =>
    cases k with
    | zero => exact .inl rfl
    | succ k => exact .inr ⟨_, rfl⟩
  · exact .inr ⟨_, rfl⟩

lemma syncedAt_executed {round : Round} {eventType : EventType}
    (hres : (round.executed eventType target).any RoundStep.resyncs)
    (h : execRound target newTagId now (round.executed eventType target) db = some db') :
    SyncedAt db' target := by
  rcases executed_head round eventType target with hnil | ⟨rest, hcons⟩
  · rw [hnil] at hres
    cases hres
  · rw [hcons] at h hres
    obtain ⟨db₁, h₁, hrest⟩ := execRound_cons.mp h
    cases h₁
    refine syncedAt_execRound ?_ (.inr (by simpa [RoundStep.resyncs] using hres)) hrest
    rw [pointerOf_ensureSessionState, if_pos rfl]
    rfl

lemma isIdle_executed {round : Round} {eventType : EventType} (h : eventType ≠ .chat) :
    (round.executed eventType target).any RoundStep.isIdle = false := by
  have hsteps : (round.steps eventType target).any RoundStep.isIdle = false :=
    isIdle_roundSteps h
  simp only [Round.executed]
  split
  · rw [List.any_eq_false] at hsteps ⊢
    exact fun s hs => hsteps s (List.mem_of_mem_take hs)
  · exact hsteps

lemma syncedAt_raised_iff {begun : Db} {task : Option RowId} {round : Round}
    {eventType : EventType} (hchat : eventType ≠ .chat) (hsync : SyncedAt db target)
    (hbegun : Begun target task db begun)
    (h : execRound target newTagId now (round.executed eventType target) begun = some db') :
    SyncedAt db' target ↔
      RaiseHarmless db target task (round.executed eventType target) := by
  by_cases hres : (round.executed eventType target).any RoundStep.resyncs
  · exact iff_of_true (syncedAt_executed hres h) (.inl hres)
  obtain ⟨htasks, hptr⟩ := quiet_execRound (by simpa using hres) (isIdle_executed hchat) h
  rw [hbegun.pointer] at hptr
  simp only [RaiseHarmless, hres, false_or, PointerStays, Bool.false_eq_true]
  rw [SyncedAt, hptr, htasks]
  cases hc : pointerOf db target with
  | none =>
    simp only [Option.map_none, Option.getD_none]
    cases (round.executed eventType target).any RoundStep.buildsContext with
    | true => simpa using hbegun.namesLeast_none
    | false => simp
  | some c =>
    have hleast := hsync c hc
    have hsame : ∀ b : Bool, (if b then some (((some c).map fun c => if task ≠ none ∧ c = task
        then none else c).getD none) else (some c).map fun c => if task ≠ none ∧ c = task
        then none else c) = some (if task ≠ none ∧ c = task then none else c) := by
      intro b
      cases b <;> rfl
    rw [hsame]
    simp only [Option.mem_def, Option.some.injEq, forall_eq']
    by_cases hown : task ≠ none ∧ c = task
    · rw [if_pos hown, hbegun.namesLeast_none]
      refine ⟨.inl, fun h => h.resolve_right ?_⟩
      rintro (hnone | hne)
      · exact hown.1 hnone
      · exact hne hown.2
    · rw [if_neg hown]
      have hstay : task = none ∨ c ≠ task := by
        by_cases htask : task = none
        · exact .inl htask
        · exact .inr fun h => hown ⟨htask, h⟩
      exact iff_of_true (hbegun.namesLeast_other hstay hleast) (.inr hstay)

/-! ## Jobs -/

lemma keeps_finishJob (job : DurableJob) (error : Option String) :
    Keeps target db (finishJob db job error now) :=
  keeps_updateJob (fun _ => rfl) (fun _ => rfl) fun _ => rfl

lemma keeps_endWakeup {task : Option WakeupTask}
    (hown : ∀ t ∈ task, ∀ r ∈ db.wakeupTasks, r.id = t.id → r.target = target) :
    Keeps target db (endWakeup db target task newTagId now) := by
  cases task with
  | none => exact keeps_sync
  | some task =>
    have hcompleted : Keeps target db (setTaskStatus db task.id .completed) :=
      keeps_updateTask (fun _ => rfl) (fun _ => rfl) (hown task rfl)
    exact hcompleted.trans keeps_sync

lemma executedTask_spec (hrows : WakeupRows db) {job : DurableJob} (hjob : job ∈ db.jobs)
    (htarget : job.target = some target) {task : WakeupTask} (h : executedTask db job = some task) :
    task ∈ db.wakeupTasks ∧ task.target = target := by
  unfold executedTask at h
  split at h
  · next htype =>
    obtain ⟨id, hid, hget⟩ := Option.bind_eq_some_iff.mp h
    obtain ⟨t, ht, hlink, hjt⟩ := hrows.linked job hjob htype
    have hmem := mem_of_get hget
    have heq : task.id = t.id := by
      have hkey : task.id = id := key_of_get hget
      rw [hkey]
      exact Option.some.inj (hid.symm.trans hlink)
    refine ⟨hmem, ?_⟩
    rw [List.inj_on_of_nodup_map hrows.keys hmem ht heq]
    exact Option.some.inj (hjt.symm.trans htarget)
  · cases h

/-- The state in which the round of a job starts. -/
def begunRound (db : Db) (job : DurableJob) (newTagId : RowId) (now : Timestamp) : Db :=
  match executedTask db job with
  | some task => beginWakeup db task newTagId now
  | none => db

lemma begun_begunRound (newTagId : RowId) (now : Timestamp) (hrows : WakeupRows db)
    {job : DurableJob} (hjob : job ∈ db.jobs)
    (htarget : job.target = some target) :
    Begun target ((executedTask db job).map WakeupTask.id) db
      (begunRound db job newTagId now) := by
  unfold begunRound
  cases htask : executedTask db job with
  | none => exact begun_none target db
  | some task =>
    obtain ⟨hmem, rfl⟩ := executedTask_spec hrows hjob htarget htask
    exact begun_beginWakeup hrows hmem

/-- What processing a job comes to: a cancelled task, a round that raised, or a round that
returned and whose pointer is recomputed, by the round itself or after it. -/
lemma processRoundJob_eq_some {job : DurableJob} {eventType : EventType} {round : Round}
    (h : processRoundJob db job target eventType round now = some db') :
    (¬ Runs db job ∧
      db' = finishJob (syncCurrentWakeupTaskId db target round.newTagId now) job none now) ∨
    (Runs db job ∧ ∃ ran, execRound target round.newTagId now (round.executed eventType target)
        (begunRound db job round.newTagId now) = some ran ∧
      db' = finishJob (if round.raisedAfter.isNone ∧ eventType = .wakeup then
        endWakeup ran target (executedTask db job) round.newTagId now else ran) job
        round.error now) := by
  simp only [processRoundJob] at h
  split at h
  · next hcancelled =>
    left
    exact ⟨by simpa [Runs] using hcancelled, (Option.some.inj h).symm⟩
  · next hrun =>
    right
    obtain ⟨ran, hran, rfl⟩ := Option.map_eq_some_iff.mp h
    exact ⟨by simpa [Runs] using hrun, ran, hran, rfl⟩

lemma keeps_processRoundJob (hrows : WakeupRows db) {job : DurableJob} {eventType : EventType}
    {round : Round} (hjob : job ∈ db.jobs) (htarget : job.target = some target)
    (h : processRoundJob db job target eventType round now = some db') : Keeps target db db' := by
  rcases processRoundJob_eq_some h with ⟨-, rfl⟩ | ⟨-, ran, hran, rfl⟩
  · exact keeps_sync.trans (keeps_finishJob job none)
  · have hbegun := begun_begunRound round.newTagId now hrows hjob htarget
    have hran' := keeps_execRound (hbegun.keeps.rows hrows) hran
    have hkeep : Keeps target db ran := hbegun.keeps.trans hran'
    refine hkeep.trans (Keeps.trans ?_ (keeps_finishJob job round.error))
    split
    · refine keeps_endWakeup fun t ht r hr hid => ?_
      -- the task is still of the job's target
      obtain ⟨hmem, htt⟩ := executedTask_spec hrows hjob htarget ht
      obtain ⟨r', hr', hid', ht'⟩ := hkeep.tasks t hmem
      rw [List.inj_on_of_nodup_map (hkeep.rows hrows).keys hr hr' (hid.trans hid'.symm), ht', htt]
    · exact .refl target ran

lemma syncedAt_finishJob {job : DurableJob} {error : Option String} {t : Target} :
    SyncedAt (finishJob db job error now) t ↔ SyncedAt db t := Iff.rfl

lemma roundType_ne_chat {jobType : String} {eventType : EventType}
    (h : roundType jobType = some eventType) : eventType ≠ .chat := by
  rintro rfl
  unfold roundType at h
  split at h
  · cases h
  · split at h
    · cases h
    · split at h <;> cases h

lemma syncedAt_processRoundJob_iff (hrows : WakeupRows db) (hsync : SyncedAt db target)
    {job : DurableJob} {eventType : EventType} {round : Round} (hjob : job ∈ db.jobs)
    (htarget : job.target = some target) (htype : roundType job.jobType = some eventType)
    (h : processRoundJob db job target eventType round now = some db') :
    SyncedAt db' target ↔ (round.raisedAfter.isSome → Runs db job →
      RaiseHarmless db target ((executedTask db job).map WakeupTask.id)
        (round.executed eventType target)) := by
  rcases processRoundJob_eq_some h with ⟨hrun, rfl⟩ | ⟨hrun, ran, hran, rfl⟩
  · exact iff_of_true (syncedAt_sync _ _ _ _) fun _ hruns => absurd hruns hrun
  · rw [syncedAt_finishJob]
    cases hraised : round.raisedAfter with
    | some k =>
      simp only [Option.isNone_some, Bool.false_eq_true, false_and, if_false,
        Option.isSome_some, true_imp_iff, hrun]
      exact syncedAt_raised_iff (roundType_ne_chat htype) hsync
        (begun_begunRound _ _ hrows hjob htarget) hran
    | none =>
      refine iff_of_true ?_ (by simp)
      split
      · exact syncedAt_sync _ _ _ _
      · refine syncedAt_executed ?_ hran
        rw [Round.executed, hraised]
        exact resyncs_roundSteps ..

/-! ## The other operations -/

lemma enqueueChat_spec {sub : ChatSubmission} {keys : NewKeys} {result : Db × ActionDispatch}
    (h : chat.enqueueChat db target sub keys now = .ok result) :
    result.1 = db ∨ (result.1.wakeupTasks = (prepareTarget db target keys.tagId now).wakeupTasks ∧
      result.1.jobs = (prepareTarget db target keys.tagId now).jobs ∧
      result.1.sessionStates = (prepareTarget db target keys.tagId now).sessionStates) := by
  have hcommit : ∀ pending, (chat.commitChat db target pending sub keys now).1.wakeupTasks =
      (prepareTarget db target keys.tagId now).wakeupTasks ∧
      (chat.commitChat db target pending sub keys now).1.jobs =
        (prepareTarget db target keys.tagId now).jobs ∧
      (chat.commitChat db target pending sub keys now).1.sessionStates =
        (prepareTarget db target keys.tagId now).sessionStates := by
    intro pending
    obtain ⟨actions, hdb⟩ := commitChat_frame chat db target pending sub keys now
    rw [hdb]
    exact ⟨rfl, rfl, rfl⟩
  rcases enqueueChat_ok h with hsame | ⟨pending, -, hresult⟩
  · exact .inl hsame
  · rw [hresult]
    exact .inr (hcommit pending)

lemma keeps_prepareTarget (hrows : WakeupRows db) :
    Keeps target db (prepareTarget db target newTagId now) := by
  have hensure : Keeps target db (ensureSessionState db target newTagId now).1 :=
    keeps_ensureSessionState
  exact hensure.trans (keeps_cancelWakeupTasks (hensure.rows hrows) _)

lemma userMessage_spec (chat : MessageDispatchService) (now : Timestamp) (hrows : WakeupRows db)
    (sub : ChatSubmission) (keys : NewKeys) :
    Keeps target db ((chat.enqueueChat db target sub keys now).toOption.elim db Prod.fst) ∧
      (SyncedAt db target →
        SyncedAt ((chat.enqueueChat db target sub keys now).toOption.elim db Prod.fst) target) := by
  cases h : chat.enqueueChat db target sub keys now with
  | error e => exact ⟨.refl target db, id⟩
  | ok result =>
    show Keeps target db result.1 ∧ (SyncedAt db target → SyncedAt result.1 target)
    rcases enqueueChat_spec h with heq | ⟨htasks, hjobs, hstates⟩
    · rw [heq]
      exact ⟨.refl target db, id⟩
    · refine ⟨(keeps_prepareTarget hrows).trans (.ofEq htasks hjobs hstates), fun _ => ?_⟩
      have hprep : SyncedAt (prepareTarget db target keys.tagId now) target :=
        syncedAt_sync _ _ _ _
      rw [SyncedAt, pointerOf_congr hstates, htasks]
      exact hprep

lemma pointersSynced_of_keeps (hrows : WakeupRows db) (hsync : PointersSynced db)
    (hkeep : Keeps target db db') (h : SyncedAt db' target) : PointersSynced db' := by
  intro t
  by_cases ht : t = target
  · exact ht ▸ h
  · exact ((hkeep.others hrows).syncedAt ht).mpr (hsync t)

lemma ingest_spec {ev : PluginEvent} {bindings : List (PluginTargetBinding × WakeupKeys)}
    (hrows : WakeupRows db) (h : ingest db ev bindings newTagId now = some db') :
    WakeupRows db' ∧ (PointersSynced db → PointersSynced db') := by
  unfold ingest at h
  generalize bindings.filter (fun b => ev.delivers b.1) = delivered at h
  induction delivered generalizing db with
  | nil =>
    cases h
    exact ⟨hrows, id⟩
  | cons b rest ih =>
    rw [List.foldlM_cons] at h
    obtain ⟨db₁, h₁, hrest⟩ := Option.bind_eq_some_iff.mp h
    have hkeep := keeps_scheduleOp h₁
    obtain ⟨hrows', hsync'⟩ := ih (hkeep.rows hrows) hrest
    exact ⟨hrows', fun hsync =>
      hsync' (pointersSynced_of_keeps hrows hsync hkeep (syncedAt_scheduleOp h₁))⟩

lemma keeps_enqueueJob {req : JobRequest} {jobId : RowId} (htype : req.jobType ≠ "wakeup") :
    Keeps target db (enqueueJob db req jobId now) := by
  refine ⟨fun hrows => ⟨hrows.keys, fun j hj hwakeup => ?_⟩, fun _ => .ofEq rfl rfl,
    tasksKept_of_eq rfl⟩
  rcases List.mem_append.mp hj with hj | hj
  · exact hrows.linked j hj hwakeup
  · rw [List.mem_singleton.mp hj] at hwakeup
    exact absurd hwakeup htype

lemma chatRound_eq_some {eventType : EventType} {round : Round}
    (h : step chat db (.chatRound target eventType round now) = some db') :
    db' = db ∨ execRound target round.newTagId now (round.executed eventType target) db =
      some db' ∧ (round.executed eventType target).any RoundStep.resyncs := by
  simp only [step] at h
  split at h
  · exact .inl (Option.some.inj h).symm
  · next hraised =>
    have hall : round.executed eventType target = round.steps eventType target := by
      rw [Round.executed, Option.not_isSome_iff_eq_none.mp hraised]
    rw [hall]
    exact .inr ⟨h, resyncs_roundSteps ..⟩

lemma execute_eq_some {jobId : RowId} {round : Round}
    (h : step chat db (.execute jobId round now) = some db') :
    ∃ job target eventType, get db.jobs jobId = some job ∧ job.target = some target ∧
      roundType job.jobType = some eventType ∧
      processRoundJob db job target eventType round now = some db' := by
  simp only [step] at h
  split at h
  · cases h
  · next job hjob =>
    split at h
    · split at h
      · next target eventType htarget htype =>
        exact ⟨job, target, eventType, hjob, htarget, htype, h⟩
      · cases h
    · cases h

/-! ## Whole runs -/

lemma rows_step (e : Event) (hrows : WakeupRows db) (hs : step chat db e = some db') :
    WakeupRows db' := by
  cases e with
  | schedule target req keys newTagId now => exact (keeps_scheduleOp hs).rows hrows
  | cancel target req newTagId now =>
    cases hs
    exact (keeps_cancelWakeupTasks hrows req).rows hrows
  | ingest ev bindings newTagId now => exact (ingest_spec hrows hs).1
  | userMessage target sub keys now =>
    cases hs
    exact (userMessage_spec _ _ hrows sub keys).1.rows hrows
  | enqueue req jobId now =>
    simp only [step] at hs
    split at hs
    · cases hs
    · next htype =>
      cases hs
      have hkeep : Keeps (.cocoon jobId) db (enqueueJob db req jobId now) :=
        keeps_enqueueJob htype
      exact hkeep.rows hrows
  | chatRound target eventType round now =>
    rcases chatRound_eq_some hs with rfl | ⟨hexec, -⟩
    · exact hrows
    · exact (keeps_execRound hrows hexec).rows hrows
  | execute jobId round now =>
    obtain ⟨job, target, eventType, hjob, htarget, -, hproc⟩ := execute_eq_some hs
    exact (keeps_processRoundJob hrows (mem_of_get hjob) htarget hproc).rows hrows

lemma synced_step_iff (e : Event) (hrows : WakeupRows db) (hsync : PointersSynced db)
    (hs : step chat db e = some db') : PointersSynced db' ↔ RaisesHarmlessly db e := by
  cases e with
  | schedule target req keys newTagId now =>
    exact iff_of_true (pointersSynced_of_keeps hrows hsync (keeps_scheduleOp hs)
      (syncedAt_scheduleOp hs)) trivial
  | cancel target req newTagId now =>
    cases hs
    exact iff_of_true (pointersSynced_of_keeps hrows hsync (keeps_cancelWakeupTasks hrows req)
      (syncedAt_sync _ _ _ _)) trivial
  | ingest ev bindings newTagId now =>
    exact iff_of_true ((ingest_spec hrows hs).2 hsync) trivial
  | userMessage target sub keys now =>
    cases hs
    obtain ⟨hkeep, htarget⟩ := userMessage_spec chat now hrows sub keys
    exact iff_of_true (pointersSynced_of_keeps hrows hsync hkeep (htarget (hsync target))) trivial
  | enqueue req jobId now =>
    simp only [step] at hs
    split at hs
    · cases hs
    · cases hs
      exact iff_of_true hsync trivial
  | chatRound target eventType round now =>
    refine iff_of_true ?_ trivial
    rcases chatRound_eq_some hs with rfl | ⟨hexec, hres⟩
    · exact hsync
    · exact pointersSynced_of_keeps hrows hsync (keeps_execRound hrows hexec)
        (syncedAt_executed hres hexec)
  | execute jobId round now =>
    obtain ⟨job, target, eventType, hjob, htarget, htype, hproc⟩ := execute_eq_some hs
    have hkeep := keeps_processRoundJob hrows (mem_of_get hjob) htarget hproc
    have htargetIff := syncedAt_processRoundJob_iff hrows (hsync target) (mem_of_get hjob)
      htarget htype hproc
    have hall : PointersSynced db' ↔ SyncedAt db' target :=
      ⟨fun h => h target, pointersSynced_of_keeps hrows hsync hkeep⟩
    rw [hall, htargetIff]
    simp [RaisesHarmlessly, hjob, htarget, htype]

lemma Initial.rows (h : Initial db) : WakeupRows db := by
  refine ⟨?_, ?_⟩
  · rw [h.tasks]
    exact List.nodup_nil
  · rw [h.jobs]
    intro j hj
    cases hj

lemma Initial.synced (h : Initial db) : PointersSynced db := by
  intro target c hc
  obtain ⟨s, hs, rfl⟩ := Option.map_eq_some_iff.mp hc
  rw [h.pointers s (mem_of_get hs), h.tasks]
  intro r hr
  cases hr

/-- In a run of wakeup operations every pointer names its target's next queued task in every
state passed through, exactly when every durable round that raises does so after it has recomputed
the pointer, or when no other task of its target is queued, or without having touched the
pointer. -/
theorem pointersSynced_iff_raisesHarmlessly (chat : MessageDispatchService) (db₀ db : Db)
    (es : List Event) (h0 : Initial db₀) (hrun : run (step chat) db₀ es = some db) :
    AllStates (step chat) PointersSynced db₀ es ↔
      StepsMeet (step chat) RaisesHarmlessly db₀ es := by
  constructor
  · refine stepsMeet_of_allStates WakeupRows (fun s e s' h hs => rows_step e h hs) ?_ h0.rows hrun
    intro s e s' hrows hsync hs hsync'
    exact (synced_step_iff e hrows hsync hs).mp hsync'
  · refine allStates_of_stepsMeet (fun s => WakeupRows s ∧ PointersSynced s) ?_ (fun s h => h.2)
      ⟨h0.rows, h0.synced⟩
    intro s e s' h hok hs
    exact ⟨rows_step e h.1 hs, (synced_step_iff e h.1 h.2 hs).mpr hok⟩

/-- A cocoon with a session state and no wakeups. -/
def idleCocoon : Db where
  cocoons := [{ id := "c1", ownerUserId := "u1", characterId := "ch1" }]
  sessionStates := [{ target := .cocoon "c1" }]

lemma initial_idleCocoon : Initial idleCocoon := by
  constructor <;> simp [idleCocoon]

/-- A wakeup round of the cocoon whose model asks for nothing. -/
def quietRound (raisedAfter : Option ℕ) : Round where
  inp :=
    { event := { eventType := .wakeup, target := .cocoon "c1", actionId := "a1" }
      isoformat := fun _ => ""
      now := 5
      keys := fun _ => ⟨"w9", "j9"⟩
      compactionJobId := "j8" }
  activeTags := ["t1"]
  decision := {}
  newTagId := "t1"
  raisedAfter := raisedAfter
  errorText := "provider error"

/-- Two wakeups are scheduled, and the job of the earlier one is processed. -/
def earlierOfTwo (raisedAfter : Option ℕ) : List Event :=
  [.schedule (.cocoon "c1") { runAt := 5, reason := some "check in" } ⟨"w1", "j1"⟩ "t1" 0,
    .schedule (.cocoon "c1") { runAt := 10, reason := some "say good night" } ⟨"w2", "j2"⟩ "t1" 0,
    .execute "j1" (quietRound raisedAfter) 6]

/-- The round of the earlier wakeup raises when the context is built: the pointer is empty while
the later one is queued. -/
theorem earlier_raises_pointerLost :
    Initial idleCocoon ∧ ¬ AllStates (step { sha256Hex := fun text => text }) PointersSynced
      idleCocoon (earlierOfTwo (some 1)) := by
  refine ⟨initial_idleCocoon, fun h => ?_⟩
  have hlast := h.last rfl (.cocoon "c1")
  revert hlast
  decide

/-- It raises after the scheduler node: the pointer names the later one. -/
theorem earlier_raisesLate_pointerKept :
    AllStates (step { sha256Hex := fun text => text }) PointersSynced idleCocoon
      (earlierOfTwo (some 3)) :=
  (pointersSynced_iff_raisesHarmlessly _ _ _ _ initial_idleCocoon rfl).mpr (by decide)

end WakeupPointer

end CocoonSit
