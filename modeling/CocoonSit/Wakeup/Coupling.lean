import CocoonSit.Lib.Run
import CocoonSit.Wakeup.Tasks

/-!
# A wakeup task and its job

A wakeup has two rows, the task and the durable job that executes it, written by different
services.  Here a durable worker and any number of cancellers run at the granularity of their
statements and commits.  The worker holds the row lock of its job from `claim_next` to its commit,
and marks the task only inside that transaction; `cancel_wakeup_tasks` reads the pending tasks,
reads each task's job, and then writes both rows unconditionally, which waits for row locks.

The two rows stay coupled but for one path: when a round raises, `process_next` finishes the job as
failed and nobody takes the task out of `running`.
-/

namespace CocoonSit

open Table TransitionSystem

namespace WakeupCoupling

/-- How far `execute_wakeup` has come. -/
inductive Stage where
  /-- The job is claimed. -/
  | claimed
  /-- The task was found cancelled: no round. -/
  | skipping
  /-- The round is running, for this task when there is one. -/
  | rounding (taskId : Option RowId)

/-- A worker's open transaction. -/
structure WorkerTx where
  worker : ℕ
  job : DurableJob
  stage : Stage := .claimed

/-- The task whose round a worker is running. -/
def WorkerTx.roundOf (tx : WorkerTx) : Option RowId :=
  match tx.stage with
  | .rounding taskId => taskId
  | _ => none

/-- A canceller's open transaction: the pending tasks it has still to look at, and for those it
has looked at the task and the job it will cancel with it. -/
structure CancelTx where
  undecided : List WakeupTask
  decided : List (RowId × Option RowId) := []
  reason : Option String

/-- What has been observed of a task. -/
inductive Mark where
  | cancelled (taskId : RowId)
  | roundStarted (taskId : RowId)
deriving DecidableEq, Repr

/-- Committed rows, open transactions, and the marks so far, latest first. -/
structure State where
  tasks : List WakeupTask := []
  jobs : List DurableJob := []
  workers : List WorkerTx := []
  cancellers : ℕ → Option CancelTx := fun _ => none
  marks : List Mark := []

inductive Event where
  /-- `schedule_wakeup`, committed. -/
  | schedule (target : Target) (req : WakeupRequest) (taskId jobId : RowId) (now : Timestamp)
  /-- A canceller lists the pending tasks of a target and keeps those it selects. -/
  | cancelList (canceller : ℕ) (target : Target) (req : CancelRequest)
  /-- It reads the job of its next task. -/
  | cancelLook (canceller : ℕ)
  /-- It writes and commits. -/
  | cancelCommit (canceller : ℕ) (now : Timestamp)
  /-- `claim_next` of an idle worker. -/
  | claim (worker : ℕ) (workerName : String) (now : Timestamp)
  /-- `execute_wakeup` reads the task and starts the round. -/
  | begin (worker : ℕ)
  /-- The executor returned, or raised with a message; the worker commits. -/
  | commit (worker : ℕ) (error : Option String) (now : Timestamp)
  /-- The worker's transaction is rolled back. -/
  | abort (worker : ℕ)

def State.locked (s : State) (jobId : RowId) : Bool :=
  s.workers.any fun tx => tx.job.id = jobId

def State.txOf (s : State) (worker : ℕ) : Option WorkerTx :=
  s.workers.find? fun tx => tx.worker = worker

def State.release (s : State) (worker : ℕ) : List WorkerTx :=
  s.workers.eraseP fun tx => tx.worker = worker

/-- The worker with transaction `tx` goes on to `stage`. -/
def State.advance (s : State) (tx : WorkerTx) (stage : Stage) : List WorkerTx :=
  { tx with stage := stage } :: s.release tx.worker

/-- The job a canceller will cancel along with `task`: only one it sees queued. -/
def jobToCancel (jobs : List DurableJob) (task : WakeupTask) : Option RowId :=
  (task.durableJobId.bind (get jobs)).bind fun job =>
    if job.status = .queued then some job.id else none

/-- The unconditional write of a cancelled job. -/
def cancelJob (reason : Option String) (now : Timestamp) (job : DurableJob) : DurableJob :=
  { job with status := .cancelled, finishedAt := some now, errorText := reason }

def CancelTx.taskIds (tx : CancelTx) : List RowId := tx.decided.map Prod.fst

def CancelTx.jobIds (tx : CancelTx) : List RowId := tx.decided.filterMap Prod.snd

/-- The rows a canceller writes are not locked by a worker. -/
def Writable (s : State) (tx : CancelTx) : Prop :=
  (∀ id ∈ tx.jobIds, s.locked id = false) ∧
    ∀ w ∈ s.workers, ∀ id ∈ tx.taskIds, w.roundOf ≠ some id

instance (s : State) (tx : CancelTx) : Decidable (Writable s tx) :=
  inferInstanceAs (Decidable (_ ∧ _))

/-- What the worker's commit writes into the task its round ran for. -/
def taskAfterRound (error : Option String) (task : WakeupTask) : WakeupTask :=
  -- `task.status = running` was written before the round and `completed` comes after it
  { task with status := if error.isNone then .completed else .running }

def step (s : State) : Event → Option State
  | .schedule target req taskId jobId now =>
    if (req.reason.map strip).getD "" = "" ∨ taskId ∈ s.tasks.map key ∨
        jobId ∈ s.jobs.map key ∨ taskId = "" ∨ jobId = "" then none
    else some { s with
      tasks := s.tasks ++ [req.toTask target taskId jobId now]
      jobs := s.jobs ++ [(req.toJobRequest target taskId).toJob jobId now] }
  | .cancelList canceller target req =>
    match s.cancellers canceller with
    | some _ => none
    | none =>
      let tx : CancelTx :=
        { undecided := tasksToCancel s.tasks target req, reason := req.cancelledReason }
      some { s with cancellers := Function.update s.cancellers canceller (some tx) }
  | .cancelLook canceller =>
    match s.cancellers canceller with
    | some { undecided := task :: rest, decided := decided, reason := reason } =>
      let tx : CancelTx :=
        { undecided := rest
          decided := (task.id, jobToCancel s.jobs task) :: decided
          reason := reason }
      some { s with cancellers := Function.update s.cancellers canceller (some tx) }
    | _ => none
  | .cancelCommit canceller now =>
    match s.cancellers canceller with
    | some tx =>
      if tx.undecided.isEmpty ∧ Writable s tx then
        some { s with
          -- the payload written is the one that was read, which only cancellers change
          tasks := updateIn s.tasks tx.taskIds fun t => t.cancelled tx.reason now
          jobs := updateIn s.jobs tx.jobIds (cancelJob tx.reason now)
          cancellers := Function.update s.cancellers canceller none
          marks := tx.taskIds.map .cancelled ++ s.marks }
      else none
    | none => none
  | .claim worker workerName now =>
    match s.txOf worker, claimNext s.jobs s.locked workerName now with
    | some _, _ => none
    | none, none => some s
    | none, some job => some { s with workers := { worker := worker, job := job } :: s.workers }
  | .begin worker =>
    match s.txOf worker with
    | none => none
    | some tx =>
      match tx.stage, (taskIdOf tx.job).bind (get s.tasks) with
      | .claimed, some task =>
        if task.status = .cancelled then
          some { s with workers := s.advance tx .skipping }
        else some { s with
          workers := s.advance tx (.rounding (some task.id))
          marks := .roundStarted task.id :: s.marks }
      | .claimed, none => some { s with workers := s.advance tx (.rounding none) }
      | _, _ => none
  | .commit worker error now =>
    match s.txOf worker with
    | none => none
    | some tx =>
      match tx.stage with
      | .claimed => none
      | _ => some { s with
          jobs := update s.jobs tx.job.id
            (tx.job.finished (outcomeStatus error) error now).writeBack
          tasks := updateIn s.tasks tx.roundOf.toList (taskAfterRound error)
          workers := s.release worker }
  | .abort worker =>
    (s.txOf worker).map fun _ => { s with workers := s.release worker }

/-- A task and its job are queued together, a job that ended has a task that ended, and no round
starts after the task's cancellation was committed. -/
structure Coupled (s : State) : Prop where
  queuedTogether : ∀ t ∈ s.tasks, ∀ j ∈ s.jobs, t.durableJobId = some j.id →
    (t.status = .queued ↔ j.status = .queued)
  endedTogether : ∀ t ∈ s.tasks, ∀ j ∈ s.jobs, t.durableJobId = some j.id →
    j.status = .completed ∨ j.status = .failed →
    t.status = .completed ∨ t.status = .failed ∨ t.status = .cancelled
  noRoundAfterCancel : s.marks.Pairwise fun later earlier =>
    ∀ id, later = .roundStarted id → earlier ≠ .cancelled id

/-- No round of a claimed wakeup raises. -/
def RoundReturns (s : State) : Event → Prop
  | .commit worker error _ =>
    error.isSome → ∀ tx ∈ s.txOf worker, tx.roundOf = none
  | _ => True

instance (s : State) : ∀ e, Decidable (RoundReturns s e)
  | .commit worker error _ => inferInstanceAs
      (Decidable (error.isSome → ∀ tx ∈ s.txOf worker, tx.roundOf = none))
  | .schedule .. => .isTrue trivial
  | .cancelList .. => .isTrue trivial
  | .cancelLook .. => .isTrue trivial
  | .cancelCommit .. => .isTrue trivial
  | .claim .. => .isTrue trivial
  | .begin .. => .isTrue trivial
  | .abort .. => .isTrue trivial

/-! ## Pairs of rows -/

/-- The two rows of one wakeup name each other. -/
structure Paired (t : WakeupTask) (j : DurableJob) : Prop where
  jobId : t.durableJobId = some j.id
  taskId : taskIdOf j = some t.id

/-- Both tables have distinct keys, every row has its partner, and partners are queued together. -/
structure Rows (tasks : List WakeupTask) (jobs : List DurableJob) : Prop where
  taskKeys : (tasks.map key).Nodup
  jobKeys : (jobs.map key).Nodup
  taskJob : ∀ t ∈ tasks, ∃ j ∈ jobs, Paired t j
  jobTask : ∀ j ∈ jobs, ∃ t ∈ tasks, Paired t j
  queuedTogether : ∀ t ∈ tasks, ∀ j ∈ jobs, Paired t j → (t.status = .queued ↔ j.status = .queued)

namespace Rows

variable {tasks : List WakeupTask} {jobs : List DurableJob}

lemma eq_of_taskId (h : Rows tasks jobs) {t t' : WakeupTask} (ht : t ∈ tasks) (ht' : t' ∈ tasks)
    (hid : t.id = t'.id) : t = t' :=
  List.inj_on_of_nodup_map h.taskKeys ht ht' hid

lemma eq_of_jobId (h : Rows tasks jobs) {j j' : DurableJob} (hj : j ∈ jobs) (hj' : j' ∈ jobs)
    (hid : j.id = j'.id) : j = j' :=
  List.inj_on_of_nodup_map h.jobKeys hj hj' hid

lemma paired_of_jobId (h : Rows tasks jobs) {t : WakeupTask} {j : DurableJob} (ht : t ∈ tasks)
    (hj : j ∈ jobs) (hid : t.durableJobId = some j.id) : Paired t j := by
  obtain ⟨j', hj', hp⟩ := h.taskJob t ht
  have heq : j'.id = j.id := Option.some.inj (hp.jobId.symm.trans hid)
  rwa [h.eq_of_jobId hj' hj heq] at hp

lemma map (h : Rows tasks jobs) {F : WakeupTask → WakeupTask} {G : DurableJob → DurableJob}
    (hFid : ∀ t, (F t).id = t.id) (hFjob : ∀ t, (F t).durableJobId = t.durableJobId)
    (hGid : ∀ j, (G j).id = j.id) (hGtask : ∀ j, taskIdOf (G j) = taskIdOf j)
    (hq : ∀ t ∈ tasks, ∀ j ∈ jobs, Paired t j →
      ((F t).status = .queued ↔ (G j).status = .queued)) :
    Rows (tasks.map F) (jobs.map G) := by
  have hpair : ∀ t j, Paired (F t) (G j) ↔ Paired t j := by
    intro t j
    constructor
    · rintro ⟨hj, ht⟩
      rw [hFjob, hGid] at hj
      rw [hGtask, hFid] at ht
      exact ⟨hj, ht⟩
    · rintro ⟨hj, ht⟩
      exact ⟨by rw [hFjob, hGid, hj], by rw [hGtask, hFid, ht]⟩
  have hkeyF : (tasks.map F).map key = tasks.map key := by
    rw [List.map_map]
    exact List.map_congr_left fun t _ => hFid t
  have hkeyG : (jobs.map G).map key = jobs.map key := by
    rw [List.map_map]
    exact List.map_congr_left fun j _ => hGid j
  refine ⟨by rw [hkeyF]; exact h.taskKeys, by rw [hkeyG]; exact h.jobKeys, ?_, ?_, ?_⟩
  · intro t' ht'
    obtain ⟨t, ht, rfl⟩ := List.mem_map.mp ht'
    obtain ⟨j, hj, hp⟩ := h.taskJob t ht
    exact ⟨G j, List.mem_map_of_mem hj, (hpair t j).mpr hp⟩
  · intro j' hj'
    obtain ⟨j, hj, rfl⟩ := List.mem_map.mp hj'
    obtain ⟨t, ht, hp⟩ := h.jobTask j hj
    exact ⟨F t, List.mem_map_of_mem ht, (hpair t j).mpr hp⟩
  · intro t' ht' j' hj' hp
    obtain ⟨t, ht, rfl⟩ := List.mem_map.mp ht'
    obtain ⟨j, hj, rfl⟩ := List.mem_map.mp hj'
    exact hq t ht j hj ((hpair t j).mp hp)

lemma append (h : Rows tasks jobs) {t : WakeupTask} {j : DurableJob}
    (ht : t.id ∉ tasks.map key) (hj : j.id ∉ jobs.map key) (hp : Paired t j)
    (htq : t.status = .queued) (hjq : j.status = .queued) :
    Rows (tasks ++ [t]) (jobs ++ [j]) := by
  refine ⟨?_, ?_, ?_, ?_, ?_⟩
  · rw [List.map_append]
    exact h.taskKeys.append (by simp) (by simpa using ht)
  · rw [List.map_append]
    exact h.jobKeys.append (by simp) (by simpa using hj)
  · intro t' ht'
    rcases List.mem_append.mp ht' with ht' | ht'
    · obtain ⟨j', hj', hp'⟩ := h.taskJob t' ht'
      exact ⟨j', List.mem_append_left _ hj', hp'⟩
    · rw [List.mem_singleton.mp ht']
      exact ⟨j, by simp, hp⟩
  · intro j' hj'
    rcases List.mem_append.mp hj' with hj' | hj'
    · obtain ⟨t', ht', hp'⟩ := h.jobTask j' hj'
      exact ⟨t', List.mem_append_left _ ht', hp'⟩
    · rw [List.mem_singleton.mp hj']
      exact ⟨t, by simp, hp⟩
  · intro t' ht' j' hj' hp'
    rcases List.mem_append.mp ht' with hmt | hmt <;> rcases List.mem_append.mp hj' with hmj | hmj
    · exact h.queuedTogether t' hmt j' hmj hp'
    · -- an old task does not name the new job
      obtain ⟨j₀, hj₀, hp₀⟩ := h.taskJob t' hmt
      have heq : j₀.id = j.id := by
        rw [← List.mem_singleton.mp hmj]
        exact Option.some.inj (hp₀.jobId.symm.trans hp'.jobId)
      exact absurd (heq ▸ List.mem_map_of_mem (f := key) hj₀) hj
    · obtain ⟨t₀, ht₀, hp₀⟩ := h.jobTask j' hmj
      have heq : t₀.id = t.id := by
        rw [← List.mem_singleton.mp hmt]
        exact Option.some.inj (hp₀.taskId.symm.trans hp'.taskId)
      exact absurd (heq ▸ List.mem_map_of_mem (f := key) ht₀) ht
    · rw [List.mem_singleton.mp hmt, List.mem_singleton.mp hmj]
      exact iff_of_true htq hjq

end Rows

/-! ## What the writes keep -/

@[simp] lemma durableJobId_cancelled (t : WakeupTask) (reason : Option String)
    (now : Timestamp) : (t.cancelled reason now).durableJobId = t.durableJobId := by
  simp only [WakeupTask.durableJobId, WakeupTask.cancelled, JsonDict.text?,
    JsonDict.set_other _ _ (show "durable_job_id" ≠ "cancelled_reason" by decide)]

@[simp] lemma durableJobId_taskAfterRound (error : Option String) (t : WakeupTask) :
    (taskAfterRound error t).durableJobId = t.durableJobId := rfl

@[simp] lemma taskIdOf_cancelJob (reason : Option String) (now : Timestamp) (j : DurableJob) :
    taskIdOf (cancelJob reason now j) = taskIdOf j := rfl

@[simp] lemma taskIdOf_writeBack (done j : DurableJob) :
    taskIdOf (done.writeBack j) = taskIdOf j := rfl

lemma paired_schedule (req : WakeupRequest) (target : Target) {taskId jobId : RowId}
    (now : Timestamp) (ht : taskId ≠ "") (hj : jobId ≠ "") :
    Paired (req.toTask target taskId jobId now)
      ((req.toJobRequest target taskId).toJob jobId now) := by
  constructor
  · simp [WakeupTask.durableJobId, WakeupRequest.toTask, JsonDict.text?, hj]
  · simp [taskIdOf, JobRequest.toJob, WakeupRequest.toJobRequest, WakeupRequest.toTask,
      JsonDict.text?, JsonDict.ofList, ht]

/-! ## The invariant -/

/-- A worker holds the lock of a row that is still queued for everybody else, and the round it runs
is of that job's task. -/
structure Held (jobs : List DurableJob) (tx : WorkerTx) : Prop where
  row : ∃ j ∈ jobs, j.id = tx.job.id ∧ j.status = .queued ∧ taskIdOf tx.job = taskIdOf j
  notSkipping : tx.stage ≠ .skipping
  round : ∀ taskId, tx.stage = .rounding taskId → taskId = taskIdOf tx.job

/-- What a canceller has decided about a task: to cancel its job too, unless that job was no
longer queued, which it then never is again. -/
structure Decided (tasks : List WakeupTask) (jobs : List DurableJob)
    (d : RowId × Option RowId) : Prop where
  sound : ∀ t ∈ tasks, t.id = d.1 → d.2 = t.durableJobId ∨
    (d.2 = none ∧ ∀ j ∈ jobs, Paired t j → j.status ≠ .queued)
  known : ∃ t ∈ tasks, t.id = d.1

/-- What holds in every state of every run. -/
structure Inv (s : State) : Prop where
  rows : Rows s.tasks s.jobs
  held : ∀ tx ∈ s.workers, Held s.jobs tx
  heldOnce : (s.workers.map fun tx => tx.job.id).Nodup
  undecided : ∀ c tx, s.cancellers c = some tx → ∀ u ∈ tx.undecided,
    ∃ t ∈ s.tasks, t.id = u.id ∧ t.durableJobId = u.durableJobId
  decided : ∀ c tx, s.cancellers c = some tx → ∀ d ∈ tx.decided, Decided s.tasks s.jobs d
  marked : ∀ t ∈ s.tasks, .cancelled t.id ∈ s.marks → t.status ≠ .queued
  markedKnown : ∀ id, .cancelled id ∈ s.marks → id ∈ s.tasks.map key
  marksOrdered : s.marks.Pairwise fun later earlier =>
    ∀ id, later = .roundStarted id → earlier ≠ .cancelled id

lemma inv_empty : Inv {} := by
  refine ⟨⟨?_, ?_, ?_, ?_, ?_⟩, ?_, ?_, ?_, ?_, ?_, ?_, ?_⟩ <;> simp

lemma locked_iff {s : State} {id : RowId} :
    s.locked id = true ↔ ∃ tx ∈ s.workers, tx.job.id = id := by
  simp [State.locked]

lemma release_subset (s : State) (worker : ℕ) {tx : WorkerTx} (h : tx ∈ s.release worker) :
    tx ∈ s.workers :=
  List.mem_of_mem_eraseP h

lemma release_job_ne {s : State} (hnd : (s.workers.map fun tx => tx.job.id).Nodup) {worker : ℕ}
    {tx : WorkerTx} (htx : s.txOf worker = some tx) {tx' : WorkerTx}
    (h : tx' ∈ s.release worker) : tx'.job.id ≠ tx.job.id := by
  obtain ⟨hw, before, after, heq, hbefore⟩ := List.find?_eq_some_iff_append.mp htx
  have hrel : s.release worker = before ++ after := by
    rw [State.release, heq, List.eraseP_append_right _ (by simpa using hbefore),
      List.eraseP_cons, hw, cond_true]
  rw [heq, List.map_append, List.map_cons, List.nodup_middle, List.nodup_cons,
    ← List.map_append] at hnd
  rw [hrel] at h
  intro hid
  exact hnd.1 (hid ▸ List.mem_map_of_mem h)

lemma inv_map {s : State} (hinv : Inv s) {F : WakeupTask → WakeupTask}
    {G : DurableJob → DurableJob} {workers : List WorkerTx} {cancellers : ℕ → Option CancelTx}
    {marks : List Mark}
    (hFid : ∀ t, (F t).id = t.id) (hFjob : ∀ t, (F t).durableJobId = t.durableJobId)
    (hGid : ∀ j, (G j).id = j.id) (hGtask : ∀ j, taskIdOf (G j) = taskIdOf j)
    (hFq : ∀ t, (F t).status = .queued → t.status = .queued)
    (hGq : ∀ j, (G j).status = .queued → j.status = .queued)
    (hq : ∀ t ∈ s.tasks, ∀ j ∈ s.jobs, Paired t j →
      ((F t).status = .queued ↔ (G j).status = .queued))
    (hworkers : workers.Sublist s.workers)
    (hheld : ∀ tx ∈ workers, ∀ j ∈ s.jobs, j.id = tx.job.id → G j = j)
    (hcancellers : ∀ c tx, cancellers c = some tx → s.cancellers c = some tx)
    (hmarked : ∀ t ∈ s.tasks, .cancelled t.id ∈ marks →
      .cancelled t.id ∈ s.marks ∨ (F t).status ≠ .queued)
    (hknown : ∀ id, .cancelled id ∈ marks → id ∈ s.tasks.map key)
    (hordered : marks.Pairwise fun later earlier =>
      ∀ id, later = .roundStarted id → earlier ≠ .cancelled id) :
    Inv { tasks := s.tasks.map F, jobs := s.jobs.map G, workers := workers
          cancellers := cancellers, marks := marks } := by
  refine ⟨hinv.rows.map hFid hFjob hGid hGtask hq, fun tx htx => ?_,
    hinv.heldOnce.sublist (hworkers.map _), fun c tx hc u hu => ?_, fun c tx hc d hd => ?_,
    fun t' ht' hm => ?_, fun id hid => ?_, hordered⟩
  · obtain ⟨⟨j, hj, hid, hjq, htask⟩, hskip, hround⟩ := hinv.held tx (hworkers.subset htx)
    have hG := hheld tx htx j hj hid
    exact ⟨⟨G j, List.mem_map_of_mem hj, by rw [hG, hid], by rw [hG, hjq], by rw [hG, htask]⟩,
      hskip, hround⟩
  · obtain ⟨t, ht, htid, htj⟩ := hinv.undecided c tx (hcancellers c tx hc) u hu
    exact ⟨F t, List.mem_map_of_mem ht, by rw [hFid, htid], by rw [hFjob, htj]⟩
  · obtain ⟨hsound, t₀, ht₀, hid₀⟩ := hinv.decided c tx (hcancellers c tx hc) d hd
    refine ⟨fun t' ht' hid => ?_, F t₀, List.mem_map_of_mem ht₀, by rw [hFid, hid₀]⟩
    obtain ⟨t, ht, rfl⟩ := List.mem_map.mp ht'
    rw [hFid] at hid
    rw [hFjob]
    refine (hsound t ht hid).imp_right fun ⟨hnone, hnq⟩ => ⟨hnone, fun j' hj' hp hjq => ?_⟩
    obtain ⟨j, hj, rfl⟩ := List.mem_map.mp hj'
    have hpair : Paired t j := by
      refine ⟨?_, ?_⟩
      · have := hp.jobId
        rwa [hFjob, hGid] at this
      · have := hp.taskId
        rwa [hGtask, hFid] at this
    exact hnq j hj hpair (hGq j hjq)
  · obtain ⟨t, ht, rfl⟩ := List.mem_map.mp ht'
    rw [hFid] at hm
    rcases hmarked t ht hm with hm | hne
    · exact fun hFt => hinv.marked t ht hm (hFq t hFt)
    · exact hne
  · have hkeyF : (s.tasks.map F).map key = s.tasks.map key := by
      rw [List.map_map]
      exact List.map_congr_left fun t _ => hFid t
    rw [hkeyF]
    exact hknown id hid

/-! ## Step by step -/

lemma inv_schedule {s : State} (hinv : Inv s) {t : WakeupTask} {j : DurableJob}
    (ht : t.id ∉ s.tasks.map key) (hj : j.id ∉ s.jobs.map key) (hp : Paired t j)
    (htq : t.status = .queued) (hjq : j.status = .queued) :
    Inv { s with tasks := s.tasks ++ [t], jobs := s.jobs ++ [j] } := by
  refine ⟨hinv.rows.append ht hj hp htq hjq, fun tx htx => ?_, hinv.heldOnce,
    fun c tx hc u hu => ?_, fun c tx hc d hd => ?_, fun t' ht' hm => ?_, fun id hid => ?_,
    hinv.marksOrdered⟩
  · obtain ⟨⟨j', hj', hrow⟩, hskip, hround⟩ := hinv.held tx htx
    exact ⟨⟨j', List.mem_append_left _ hj', hrow⟩, hskip, hround⟩
  · obtain ⟨t', ht', h⟩ := hinv.undecided c tx hc u hu
    exact ⟨t', List.mem_append_left _ ht', h⟩
  · obtain ⟨hsound, t₀, ht₀, hid₀⟩ := hinv.decided c tx hc d hd
    refine ⟨fun t' ht' hid => ?_, t₀, List.mem_append_left _ ht₀, hid₀⟩
    rcases List.mem_append.mp ht' with hold | hnew
    · refine (hsound t' hold hid).imp_right fun ⟨hnone, hnq⟩ => ⟨hnone, fun j' hj' hp' => ?_⟩
      rcases List.mem_append.mp hj' with hj' | hj'
      · exact hnq j' hj' hp'
      · -- an old task does not name the new job
        obtain ⟨j₀, hj₀, hp₀⟩ := hinv.rows.taskJob t' hold
        have heq : j₀.id = j.id := by
          rw [← List.mem_singleton.mp hj']
          exact Option.some.inj (hp₀.jobId.symm.trans hp'.jobId)
        exact absurd (heq ▸ List.mem_map_of_mem (f := key) hj₀) hj
    · rw [List.mem_singleton.mp hnew] at hid
      exact absurd (hid₀.trans hid.symm ▸ List.mem_map_of_mem (f := key) ht₀) ht
  · rcases List.mem_append.mp ht' with ht' | ht'
    · exact hinv.marked t' ht' hm
    · rw [List.mem_singleton.mp ht'] at hm
      exact absurd (hinv.markedKnown _ hm) ht
  · rw [List.map_append]
    exact List.mem_append_left _ (hinv.markedKnown id hid)

lemma decided_look {tasks : List WakeupTask} {jobs : List DurableJob} (h : Rows tasks jobs)
    {u : WakeupTask} (hu : ∃ t ∈ tasks, t.id = u.id ∧ t.durableJobId = u.durableJobId) :
    Decided tasks jobs (u.id, jobToCancel jobs u) := by
  obtain ⟨t, ht, hid, hjob⟩ := hu
  refine ⟨fun t' ht' hid' => ?_, t, ht, hid⟩
  rw [h.eq_of_taskId ht' ht (hid'.trans hid.symm)]
  obtain ⟨j, hj, hp⟩ := h.taskJob t ht
  have hget : u.durableJobId.bind (get jobs) = some j := by
    rw [← hjob, hp.jobId, Option.bind_some]
    exact get_of_mem h.jobKeys hj
  by_cases hq : j.status = .queued
  · left
    simp [jobToCancel, hget, hq, hp.jobId]
  · right
    refine ⟨by simp [jobToCancel, hget, hq], fun j' hj' hp' => ?_⟩
    rwa [h.eq_of_jobId hj' hj (Option.some.inj (hp'.jobId.symm.trans hp.jobId))]

lemma inv_canceller {s : State} (hinv : Inv s) {c : ℕ} {tx : CancelTx}
    (hu : ∀ u ∈ tx.undecided, ∃ t ∈ s.tasks, t.id = u.id ∧ t.durableJobId = u.durableJobId)
    (hd : ∀ d ∈ tx.decided, Decided s.tasks s.jobs d) :
    Inv { s with cancellers := Function.update s.cancellers c (some tx) } := by
  have hcases : ∀ c' tx', Function.update s.cancellers c (some tx) c' = some tx' →
      tx' = tx ∨ s.cancellers c' = some tx' := by
    intro c' tx' h
    by_cases hc : c' = c
    · rw [hc, Function.update_self] at h
      exact .inl (Option.some.inj h).symm
    · rw [Function.update_of_ne hc] at h
      exact .inr h
  refine ⟨hinv.rows, hinv.held, hinv.heldOnce, fun c' tx' h => ?_, fun c' tx' h => ?_,
    hinv.marked, hinv.markedKnown, hinv.marksOrdered⟩
  · rcases hcases c' tx' h with rfl | h
    · exact hu
    · exact hinv.undecided c' tx' h
  · rcases hcases c' tx' h with rfl | h
    · exact hd
    · exact hinv.decided c' tx' h

lemma cancel_pair {s : State} (hinv : Inv s) {c : ℕ} {tx : CancelTx}
    (hc : s.cancellers c = some tx) {t : WakeupTask} {j : DurableJob} (ht : t ∈ s.tasks)
    (hj : j ∈ s.jobs) (hp : Paired t j) :
    (t.id ∈ tx.taskIds ∧ (j.id ∈ tx.jobIds ∨ j.status ≠ .queued)) ∨
      (t.id ∉ tx.taskIds ∧ j.id ∉ tx.jobIds) := by
  by_cases hmem : t.id ∈ tx.taskIds
  · left
    refine ⟨hmem, ?_⟩
    obtain ⟨d, hd, hid⟩ := List.mem_map.mp hmem
    rcases (hinv.decided c tx hc d hd).sound t ht hid.symm with hjob | ⟨-, hnq⟩
    · exact .inl (List.mem_filterMap.mpr ⟨d, hd, hjob.trans hp.jobId⟩)
    · exact .inr (hnq j hj hp)
  · right
    refine ⟨hmem, fun hjm => ?_⟩
    -- the decision that names the job is about its partner
    obtain ⟨d, hd, hdj⟩ := List.mem_filterMap.mp hjm
    obtain ⟨hsound, t₀, ht₀, hid₀⟩ := hinv.decided c tx hc d hd
    rcases hsound t₀ ht₀ hid₀ with hjob | ⟨hnone, -⟩
    · have hp₀ := hinv.rows.paired_of_jobId ht₀ hj (hjob.symm.trans hdj)
      have heq : t₀.id = t.id := Option.some.inj (hp₀.taskId.symm.trans hp.taskId)
      exact hmem (heq ▸ hid₀ ▸ List.mem_map_of_mem hd)
    · rw [hnone] at hdj
      cases hdj

lemma inv_cancelCommit {s : State} (hinv : Inv s) {c : ℕ} {tx : CancelTx} {now : Timestamp}
    (hc : s.cancellers c = some tx) (hw : Writable s tx) :
    Inv { s with
      tasks := updateIn s.tasks tx.taskIds fun t => t.cancelled tx.reason now
      jobs := updateIn s.jobs tx.jobIds (cancelJob tx.reason now)
      cancellers := Function.update s.cancellers c none
      marks := tx.taskIds.map .cancelled ++ s.marks } := by
  have hmem : ∀ id, Mark.cancelled id ∈ tx.taskIds.map Mark.cancelled ++ s.marks →
      id ∈ tx.taskIds ∨ Mark.cancelled id ∈ s.marks := by
    intro id h
    rcases List.mem_append.mp h with h | h
    · obtain ⟨id', hid', heq⟩ := List.mem_map.mp h
      cases heq
      exact .inl hid'
    · exact .inr h
  refine inv_map hinv (fun t => ?_) (fun t => ?_) (fun j => ?_) (fun j => ?_) (fun t h => ?_)
    (fun j h => ?_) (fun t ht j hj hp => ?_) (List.Sublist.refl _) (fun w hws j hj hid => ?_)
    (fun c' tx' h => ?_) (fun t ht h => ?_) (fun id h => ?_) ?_
  · split <;> rfl
  · split <;> simp
  · split <;> rfl
  · split <;> simp
  · split at h
    · cases h
    · exact h
  · split at h
    · cases h
    · exact h
  · rcases cancel_pair hinv hc ht hj hp with ⟨htm, hjm⟩ | ⟨htm, hjm⟩
    · have hjnq : (if key j ∈ tx.jobIds then cancelJob tx.reason now j else j).status ≠
          .queued := by
        split
        · simp [cancelJob]
        · exact hjm.resolve_left ‹_›
      refine iff_of_false ?_ hjnq
      rw [if_pos (show key t ∈ tx.taskIds from htm)]
      simp [WakeupTask.cancelled]
    · rw [if_neg (show key t ∉ tx.taskIds from htm), if_neg (show key j ∉ tx.jobIds from hjm)]
      exact hinv.rows.queuedTogether t ht j hj hp
  · -- the rows of open claims are locked, so they are not written
    rw [if_neg]
    intro hjm
    have hfree := hw.1 j.id hjm
    have hlock : s.locked j.id = true := locked_iff.mpr ⟨w, hws, hid.symm⟩
    rw [hlock] at hfree
    cases hfree
  · by_cases heq : c' = c
    · rw [heq, Function.update_self] at h
      cases h
    · rwa [Function.update_of_ne heq] at h
  · rcases hmem t.id h with hin | hold
    · right
      rw [if_pos (show key t ∈ tx.taskIds from hin)]
      simp [WakeupTask.cancelled]
    · exact .inl hold
  · rcases hmem id h with hin | hold
    · obtain ⟨d, hd, rfl⟩ := List.mem_map.mp hin
      obtain ⟨t, ht, hid⟩ := (hinv.decided c tx hc d hd).known
      exact hid ▸ List.mem_map_of_mem ht
    · exact hinv.markedKnown id hold
  · -- the new marks are cancellations, which may come after anything
    have hcancel : ∀ m ∈ tx.taskIds.map Mark.cancelled, ∀ id, m ≠ .roundStarted id := by
      intro m hm id
      obtain ⟨id', -, rfl⟩ := List.mem_map.mp hm
      simp
    refine List.pairwise_append.mpr ⟨?_, hinv.marksOrdered, ?_⟩
    · exact List.Pairwise.imp_of_mem (fun hm _ _ id h => absurd h (hcancel _ hm id))
        (List.pairwise_of_forall fun _ _ => trivial)
    · exact fun m hm _ _ id h => absurd h (hcancel m hm id)

lemma inv_claim {s : State} (hinv : Inv s) {worker : ℕ} {workerName : String} {now : Timestamp}
    {job : DurableJob} (hjob : claimNext s.jobs s.locked workerName now = some job) :
    Inv { s with workers := { worker := worker, job := job } :: s.workers } := by
  obtain ⟨row, hnext, rfl⟩ := claimNext_eq_some.mp hjob
  obtain ⟨hrow, hqueued, -, hfree⟩ := nextClaimable_spec hnext
  refine ⟨hinv.rows, fun tx htx => ?_, ?_, hinv.undecided, hinv.decided, hinv.marked,
    hinv.markedKnown, hinv.marksOrdered⟩
  · rcases List.mem_cons.mp htx with rfl | htx
    · exact ⟨⟨row, hrow, rfl, hqueued, rfl⟩, by simp, by rintro _ ⟨⟩⟩
    · exact hinv.held tx htx
  · refine List.nodup_cons.mpr ⟨fun h => ?_, hinv.heldOnce⟩
    obtain ⟨tx, htx, hid⟩ := List.mem_map.mp h
    have hlock : s.locked row.id = true := locked_iff.mpr ⟨tx, htx, hid⟩
    rw [hlock] at hfree
    cases hfree

lemma task_of_held {s : State} (hinv : Inv s) {tx : WorkerTx} (htx : tx ∈ s.workers) :
    ∃ t ∈ s.tasks, ∃ j ∈ s.jobs, j.id = tx.job.id ∧ Paired t j ∧ taskIdOf tx.job = some t.id ∧
      t.status = .queued ∧ (taskIdOf tx.job).bind (get s.tasks) = some t := by
  obtain ⟨j, hj, hid, hq, htask⟩ := (hinv.held tx htx).row
  obtain ⟨t, ht, hp⟩ := hinv.rows.jobTask j hj
  have htid : taskIdOf tx.job = some t.id := htask.trans hp.taskId
  refine ⟨t, ht, j, hj, hid, hp, htid, (hinv.rows.queuedTogether t ht j hj hp).mpr hq, ?_⟩
  rw [htid, Option.bind_some]
  exact get_of_mem hinv.rows.taskKeys ht

lemma inv_begin {s : State} (hinv : Inv s) {worker : ℕ} {tx : WorkerTx}
    (htx : s.txOf worker = some tx) {task : WakeupTask} (htask : task ∈ s.tasks)
    (hid : taskIdOf tx.job = some task.id) (hq : task.status = .queued) :
    Inv { s with
      workers := s.advance tx (.rounding (some task.id))
      marks := .roundStarted task.id :: s.marks } := by
  have hmem : tx ∈ s.workers := List.mem_of_find?_eq_some htx
  have hworker : tx.worker = worker := by simpa using List.find?_some htx
  refine ⟨hinv.rows, fun tx' htx' => ?_, ?_, hinv.undecided, hinv.decided,
    fun t' ht' hm => ?_, fun id hmark => ?_, ?_⟩
  · rcases List.mem_cons.mp htx' with rfl | hrest
    · refine ⟨(hinv.held tx hmem).row, by simp, fun taskId heq => ?_⟩
      cases heq
      exact hid.symm
    · exact hinv.held tx' (release_subset s _ hrest)
  · refine List.nodup_cons.mpr ⟨fun h => ?_,
      hinv.heldOnce.sublist ((List.eraseP_sublist).map _)⟩
    obtain ⟨tx', htx', heq⟩ := List.mem_map.mp h
    rw [hworker] at htx'
    exact release_job_ne hinv.heldOnce htx htx' heq
  · rcases List.mem_cons.mp hm with heq | hm
    · cases heq
    · exact hinv.marked t' ht' hm
  · rcases List.mem_cons.mp hmark with heq | hmark
    · cases heq
    · exact hinv.markedKnown id hmark
  · refine List.pairwise_cons.mpr ⟨fun m hm id heq hcancel => ?_, hinv.marksOrdered⟩
    cases heq
    exact hinv.marked task htask (hcancel ▸ hm) hq

lemma inv_commit {s : State} (hinv : Inv s) {worker : ℕ} {tx : WorkerTx}
    (htx : s.txOf worker = some tx) {error : Option String} {now : Timestamp}
    (hround : tx.roundOf = taskIdOf tx.job) :
    Inv { s with
      jobs := update s.jobs tx.job.id
        (tx.job.finished (outcomeStatus error) error now).writeBack
      tasks := updateIn s.tasks tx.roundOf.toList (taskAfterRound error)
      workers := s.release worker } := by
  have hmem : tx ∈ s.workers := List.mem_of_find?_eq_some htx
  obtain ⟨t₀, ht₀, j₀, hj₀, hid₀, hp₀, htid, -, -⟩ := task_of_held hinv hmem
  have hround : tx.roundOf.toList = [t₀.id] := by rw [hround, htid]; rfl
  rw [hround]
  refine inv_map hinv (fun t => ?_) (fun t => ?_) (fun j => ?_) (fun j => ?_) (fun t h => ?_)
    (fun j h => ?_) (fun t ht j hj hp => ?_) List.eraseP_sublist (fun w hws j hj hid => ?_)
    (fun _ _ h => h) (fun t ht h => .inl h) hinv.markedKnown hinv.marksOrdered
  · split <;> rfl
  · split <;> simp
  · split <;> rfl
  · split <;> simp
  · split at h
    · simp only [taskAfterRound] at h
      split at h <;> cases h
    · exact h
  · split at h
    · exact absurd h (outcomeStatus_ne_queued error)
    · exact h
  · by_cases hj : j.id = tx.job.id
    · have htask : t.id = t₀.id := by
        rw [hinv.rows.eq_of_jobId ‹j ∈ s.jobs› hj₀ (hj.trans hid₀.symm)] at hp
        exact Option.some.inj (hp.taskId.symm.trans hp₀.taskId)
      rw [if_pos (show key j = tx.job.id from hj),
        if_pos (show key t ∈ [t₀.id] from List.mem_singleton.mpr htask)]
      refine iff_of_false ?_ (outcomeStatus_ne_queued error)
      simp only [taskAfterRound]
      split <;> simp
    · have htask : t.id ≠ t₀.id := by
        intro heq
        rw [hinv.rows.eq_of_taskId ht ht₀ heq] at hp
        exact hj ((Option.some.inj (hp.jobId.symm.trans hp₀.jobId)).trans hid₀)
      rw [if_neg (show key j ≠ tx.job.id from hj),
        if_neg (show key t ∉ [t₀.id] from fun h => htask (List.mem_singleton.mp h))]
      exact hinv.rows.queuedTogether t ht j ‹j ∈ s.jobs› hp
  · rw [if_neg]
    intro heq
    exact release_job_ne hinv.heldOnce htx hws (hid.symm.trans heq)

lemma inv_abort {s : State} (hinv : Inv s) {workers : List WorkerTx}
    (h : workers.Sublist s.workers) : Inv { s with workers := workers } :=
  ⟨hinv.rows, fun tx htx => hinv.held tx (h.subset htx), hinv.heldOnce.sublist (h.map _),
    hinv.undecided, hinv.decided, hinv.marked, hinv.markedKnown, hinv.marksOrdered⟩

lemma roundOf_eq {s : State} (hinv : Inv s) {tx : WorkerTx} (htx : tx ∈ s.workers)
    (hstage : tx.stage ≠ .claimed) : tx.roundOf = taskIdOf tx.job := by
  obtain ⟨-, hskip, hround⟩ := hinv.held tx htx
  cases hst : tx.stage with
  | claimed => exact absurd hst hstage
  | skipping => exact absurd hst hskip
  | rounding taskId =>
    rw [← hround taskId hst, WorkerTx.roundOf, hst]

lemma inv_step {s s' : State} {e : Event} (hinv : Inv s) (hs : step s e = some s') : Inv s' := by
  cases e with
  | schedule target req taskId jobId now =>
    simp only [step] at hs
    split at hs
    · cases hs
    · next hguard =>
      push Not at hguard
      obtain ⟨-, ht, hj, htne, hjne⟩ := hguard
      cases hs
      exact inv_schedule hinv ht hj (paired_schedule req target now htne hjne) rfl rfl
  | cancelList canceller target req =>
    simp only [step] at hs
    split at hs
    · cases hs
    · cases hs
      refine inv_canceller hinv (fun u hu => ?_) (by simp)
      simp only [tasksToCancel, listPendingWakeupTasks, List.mem_filter, mem_orderBy] at hu
      exact ⟨u, hu.1.1, rfl, rfl⟩
  | cancelLook canceller =>
    simp only [step] at hs
    split at hs
    · next task rest decided reason hc =>
      cases hs
      refine inv_canceller hinv (fun u hu => ?_) fun d hd => ?_
      · exact hinv.undecided canceller _ hc u (List.mem_cons_of_mem _ hu)
      · rcases List.mem_cons.mp hd with rfl | hd
        · exact decided_look hinv.rows
            (hinv.undecided canceller _ hc task List.mem_cons_self)
        · exact hinv.decided canceller _ hc d hd
    · cases hs
  | cancelCommit canceller now =>
    simp only [step] at hs
    split at hs
    · next tx hc =>
      split at hs
      · next hw =>
        cases hs
        exact inv_cancelCommit hinv hc hw.2
      · cases hs
    · cases hs
  | claim worker workerName now =>
    simp only [step] at hs
    split at hs
    · cases hs
    · cases hs
      exact hinv
    · next hjob =>
      cases hs
      exact inv_claim hinv hjob
  | begin worker =>
    simp only [step] at hs
    split at hs
    · cases hs
    · next tx htx =>
      have hmem : tx ∈ s.workers := List.mem_of_find?_eq_some htx
      obtain ⟨t, ht, -, -, -, -, hid, hq, hget⟩ := task_of_held hinv hmem
      rw [hget] at hs
      split at hs
      · next heq =>
        cases heq
        rw [hq, if_neg (by simp)] at hs
        cases hs
        exact inv_begin hinv htx ht hid hq
      · next heq => cases heq
      · cases hs
  | commit worker error now =>
    simp only [step] at hs
    split at hs
    · cases hs
    · next tx htx =>
      have hmem : tx ∈ s.workers := List.mem_of_find?_eq_some htx
      split at hs
      · cases hs
      · next hstage =>
        cases hs
        exact inv_commit hinv htx (roundOf_eq hinv hmem hstage)
  | abort worker =>
    obtain ⟨tx, -, rfl⟩ := Option.map_eq_some_iff.mp hs
    exact inv_abort hinv List.eraseP_sublist

/-! ## Rounds that return -/

def EndedTogether (tasks : List WakeupTask) (jobs : List DurableJob) : Prop :=
  ∀ t ∈ tasks, ∀ j ∈ jobs, t.durableJobId = some j.id →
    j.status = .completed ∨ j.status = .failed →
    t.status = .completed ∨ t.status = .failed ∨ t.status = .cancelled

lemma coupled_iff {s : State} (hinv : Inv s) : Coupled s ↔ EndedTogether s.tasks s.jobs := by
  refine ⟨Coupled.endedTogether, fun h => ⟨fun t ht j hj hid => ?_, h, hinv.marksOrdered⟩⟩
  exact hinv.rows.queuedTogether t ht j hj (hinv.rows.paired_of_jobId ht hj hid)

lemma endedTogether_map {tasks : List WakeupTask} {jobs : List DurableJob}
    {F : WakeupTask → WakeupTask} {G : DurableJob → DurableJob}
    (hF : ∀ t, (F t).durableJobId = t.durableJobId) (hG : ∀ j, (G j).id = j.id)
    (h : ∀ t ∈ tasks, ∀ j ∈ jobs, t.durableJobId = some j.id →
      (G j).status = .completed ∨ (G j).status = .failed →
      (F t).status = .completed ∨ (F t).status = .failed ∨ (F t).status = .cancelled) :
    EndedTogether (tasks.map F) (jobs.map G) := by
  intro t' ht' j' hj' hid
  obtain ⟨t, ht, rfl⟩ := List.mem_map.mp ht'
  obtain ⟨j, hj, rfl⟩ := List.mem_map.mp hj'
  rw [hF, hG] at hid
  exact h t ht j hj hid

lemma endedTogether_schedule {tasks : List WakeupTask} {jobs : List DurableJob}
    {t : WakeupTask} {j : DurableJob} (hrows : Rows (tasks ++ [t]) (jobs ++ [j]))
    (ht : t.status = .queued) (hj : j.status = .queued) (h : EndedTogether tasks jobs) :
    EndedTogether (tasks ++ [t]) (jobs ++ [j]) := by
  intro t' ht' j' hj' hid hend
  have hnq : j'.status ≠ .queued := by
    rcases hend with hend | hend <;> simp [hend]
  have hp := hrows.paired_of_jobId ht' hj' hid
  have htnq : t'.status ≠ .queued := fun hq => hnq ((hrows.queuedTogether t' ht' j' hj' hp).mp hq)
  rcases List.mem_append.mp hj' with hj' | hj'
  · rcases List.mem_append.mp ht' with ht' | ht'
    · exact h t' ht' j' hj' hid hend
    · rw [List.mem_singleton.mp ht'] at htnq
      exact absurd ht htnq
  · rw [List.mem_singleton.mp hj'] at hnq
    exact absurd hj hnq

lemma endedTogether_cancel {tasks : List WakeupTask} {jobs : List DurableJob}
    (h : EndedTogether tasks jobs) (tx : CancelTx) (now : Timestamp) :
    EndedTogether (updateIn tasks tx.taskIds fun t => t.cancelled tx.reason now)
      (updateIn jobs tx.jobIds (cancelJob tx.reason now)) := by
  refine endedTogether_map (fun t => ?_) (fun j => ?_) fun t ht j hj hid hend => ?_
  · split <;> simp
  · split <;> rfl
  · by_cases hjm : key j ∈ tx.jobIds
    · rw [if_pos hjm] at hend
      rcases hend with hend | hend <;> cases hend
    · rw [if_neg hjm] at hend
      by_cases htm : key t ∈ tx.taskIds
      · rw [if_pos htm]
        exact .inr (.inr rfl)
      · rw [if_neg htm]
        exact h t ht j hj hid hend

lemma endedTogether_commit {s : State} (hinv : Inv s) (h : EndedTogether s.tasks s.jobs)
    {tx : WorkerTx} (htx : tx ∈ s.workers) (hround : tx.roundOf = taskIdOf tx.job)
    (now : Timestamp) :
    EndedTogether (updateIn s.tasks tx.roundOf.toList (taskAfterRound none))
      (update s.jobs tx.job.id (tx.job.finished (outcomeStatus none) none now).writeBack) := by
  obtain ⟨t₀, ht₀, j₀, hj₀, hid₀, hp₀, htid, -, -⟩ := task_of_held hinv htx
  rw [show tx.roundOf.toList = [t₀.id] by rw [hround, htid]; rfl]
  refine endedTogether_map (fun t => ?_) (fun j => ?_) fun t ht j hj hid hend => ?_
  · split <;> rfl
  · split <;> rfl
  · by_cases htm : key t ∈ [t₀.id]
    · rw [if_pos htm]
      exact .inl rfl
    · -- the job is not the one that was claimed, whose task is written
      have hne : key j ≠ tx.job.id := by
        intro heq
        rw [hinv.rows.eq_of_jobId hj hj₀ (heq.trans hid₀.symm)] at hid
        rw [hinv.rows.eq_of_taskId ht ht₀ (Option.some.inj
          ((hinv.rows.paired_of_jobId ht hj₀ hid).taskId.symm.trans hp₀.taskId))] at htm
        exact htm (List.mem_singleton.mpr rfl)
      rw [if_neg hne] at hend
      rw [if_neg htm]
      exact h t ht j hj hid hend

lemma endedTogether_step {s s' : State} {e : Event} (hinv : Inv s)
    (h : EndedTogether s.tasks s.jobs) (hok : RoundReturns s e) (hs : step s e = some s') :
    EndedTogether s'.tasks s'.jobs := by
  have hinv' : Inv s' := inv_step hinv hs
  cases e with
  | schedule target req taskId jobId now =>
    simp only [step] at hs
    split at hs
    · cases hs
    · cases hs
      exact endedTogether_schedule hinv'.rows rfl rfl h
  | cancelList canceller target req =>
    simp only [step] at hs
    split at hs <;> cases hs
    exact h
  | cancelLook canceller =>
    simp only [step] at hs
    split at hs <;> cases hs
    exact h
  | cancelCommit canceller now =>
    simp only [step] at hs
    split at hs
    · next tx hc =>
      split at hs <;> cases hs
      exact endedTogether_cancel h tx now
    · cases hs
  | claim worker workerName now =>
    simp only [step] at hs
    split at hs <;> cases hs <;> exact h
  | begin worker =>
    simp only [step] at hs
    split at hs
    · cases hs
    · split at hs
      · split at hs <;> cases hs <;> exact h
      · cases hs
        exact h
      · cases hs
  | commit worker error now =>
    simp only [step] at hs
    split at hs
    · cases hs
    · next tx htx =>
      have hmem : tx ∈ s.workers := List.mem_of_find?_eq_some htx
      split at hs
      · cases hs
      · next hstage =>
        cases hs
        have hround := roundOf_eq hinv hmem hstage
        cases error with
        | none => exact endedTogether_commit hinv h hmem hround now
        | some text =>
          -- the task of the job is there, so the round was this task's
          obtain ⟨t, -, -, -, -, -, htid, -, -⟩ := task_of_held hinv hmem
          have hnone := hok rfl tx htx
          rw [hround, htid] at hnone
          cases hnone
  | abort worker =>
    obtain ⟨tx, -, rfl⟩ := Option.map_eq_some_iff.mp hs
    exact h

lemma roundReturns_of_step {s s' : State} {e : Event} (hinv : Inv s) (hs : step s e = some s')
    (h' : Coupled s') : RoundReturns s e := by
  cases e with
  | commit worker error now =>
    intro herr tx htx
    by_contra hround
    have hmem : tx ∈ s.workers := List.mem_of_find?_eq_some htx
    have hstage : tx.stage ≠ .claimed := by
      intro hst
      exact hround (by rw [WorkerTx.roundOf, hst])
    simp only [step, show s.txOf worker = some tx from htx] at hs
    cases hs
    obtain ⟨text, rfl⟩ := Option.isSome_iff_exists.mp herr
    obtain ⟨t, ht, j, hj, hid, hp, htid, -, -⟩ := task_of_held hinv hmem
    have hlist : tx.roundOf.toList = [t.id] := by
      rw [roundOf_eq hinv hmem hstage, htid]
      rfl
    have hend := h'.endedTogether (taskAfterRound (some text) t)
      (mem_updateIn.mpr (.inl ⟨t, ht, by rw [hlist]; exact List.mem_singleton.mpr rfl, rfl⟩))
      ((tx.job.finished (outcomeStatus (some text)) (some text) now).writeBack j)
      (mem_update.mpr (.inl ⟨j, hj, hid, rfl⟩)) hp.jobId (.inr rfl)
    rcases hend with hend | hend | hend <;> cases hend
  | schedule => trivial
  | cancelList => trivial
  | cancelLook => trivial
  | cancelCommit => trivial
  | claim => trivial
  | begin => trivial
  | abort => trivial

/-- In a run of any number of workers and cancellers, wakeups and their jobs stay coupled exactly
when no round of a claimed wakeup raises. -/
theorem coupled_iff_roundReturns {s : State} {es : List Event} (hrun : run step {} es = some s) :
    AllStates step Coupled {} es ↔ StepsMeet step RoundReturns {} es := by
  constructor
  · exact stepsMeet_of_allStates Inv (fun _ _ _ => inv_step)
      (fun _ _ _ hi _ hs h' => roundReturns_of_step hi hs h') inv_empty hrun
  · refine allStates_of_stepsMeet (fun s => Inv s ∧ EndedTogether s.tasks s.jobs) ?_ ?_
      ⟨inv_empty, by simp [EndedTogether]⟩
    · rintro s e s' ⟨hi, h⟩ hok hs
      exact ⟨inv_step hi hs, endedTogether_step hi h hok hs⟩
    · rintro s ⟨hi, h⟩
      exact (coupled_iff hi).mpr h

/-- Whether rounds raise or not, partners are queued together and no round starts after the
cancellation of its task was committed. -/
theorem queuedTogether_and_noRoundAfterCancel {s : State} {es : List Event}
    (hrun : run step {} es = some s) :
    (∀ t ∈ s.tasks, ∀ j ∈ s.jobs, t.durableJobId = some j.id →
      (t.status = .queued ↔ j.status = .queued)) ∧
    s.marks.Pairwise fun later earlier =>
      ∀ id, later = .roundStarted id → earlier ≠ .cancelled id := by
  have hinv := invariant_run Inv (fun _ _ _ => inv_step) inv_empty hrun
  refine ⟨fun t ht j hj hid => ?_, hinv.marksOrdered⟩
  exact hinv.rows.queuedTogether t ht j hj (hinv.rows.paired_of_jobId ht hj hid)

/-- One wakeup, claimed and begun. -/
def begun : List Event :=
  [.schedule (.cocoon "c1") { runAt := 5, reason := some "check in" } "w1" "j1" 0,
    .claim 0 "worker" 6, .begin 0]

theorem begun_noRoundAfterCancel :
    ((run step {} begun).get (by decide)).marks.Pairwise fun later earlier =>
      ∀ id, later = .roundStarted id → earlier ≠ .cancelled id :=
  (queuedTogether_and_noRoundAfterCancel (Option.some_get (by decide)).symm).2

/-- Its round raises: the job has failed, and the task stays running. -/
theorem begun_raises_uncoupled :
    ¬ AllStates step Coupled {} (begun ++ [.commit 0 (some "provider error") 7]) := by
  intro h
  have hlast := h.last rfl
  have hend := hlast.endedTogether _ (.head _) _ (.head _) (by decide) (by decide)
  revert hend
  decide

/-- Its round returns while a canceller that read the task queued waits for the row locks. -/
theorem begun_returns_coupled :
    AllStates step Coupled {} (begun ++
      [.cancelList 0 (.cocoon "c1") {}, .commit 0 none 7, .cancelLook 0, .cancelCommit 0 8]) :=
  (coupled_iff_roundReturns rfl).mpr (by decide)

end WakeupCoupling

end CocoonSit
