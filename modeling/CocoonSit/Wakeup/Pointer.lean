import CocoonSit.Runtime.Scheduler

/-!
# The wakeup pointer: what operations do to it

A session state caches the key of its target's next wakeup task in `current_wakeup_task_id`.  The
cache is right for a target when it names a queued task with the least `run_at`, or nothing and
there is none.

Every operation works on one target and leaves the pending tasks and the pointer of the others
alone; what it does to its own target depends on whether it comes to recompute the pointer.
-/

namespace CocoonSit

open Table

/-- The pointer of a target; `none` when the target has no session state. -/
def pointerOf (db : Db) (target : Target) : Option (Option RowId) :=
  (get db.sessionStates target).map SessionState.currentWakeupTaskId

/-- The target's pointer, if it has a session state, names its next queued task. -/
def SyncedAt (db : Db) (target : Target) : Prop :=
  ∀ c ∈ pointerOf db target, NamesLeast db.wakeupTasks (PendingFor target) WakeupTask.runAt c

instance (db : Db) (target : Target) : Decidable (SyncedAt db target) :=
  inferInstanceAs (Decidable (∀ c ∈ pointerOf db target, _))

/-! ## Session-state lookups -/

section Lookups

variable (db : Db) (target t : Target) (newTagId : RowId) (now : Timestamp)

lemma pointerOf_congr {db db' : Db} (h : db'.sessionStates = db.sessionStates) (t : Target) :
    pointerOf db' t = pointerOf db t := by
  rw [pointerOf, h, pointerOf]

lemma pointerOf_update {f : SessionState → SessionState} (hf : ∀ s, (f s).target = s.target)
    (db' : Db) (h : db'.sessionStates = update db.sessionStates target f) :
    pointerOf db' t = if t = target then
      (get db.sessionStates t).map fun s => (f s).currentWakeupTaskId else pointerOf db t := by
  rw [pointerOf, h, get_update hf, Option.map_map, pointerOf]
  by_cases ht : t = target
  · rw [if_pos ht]
    refine Option.map_congr fun s hs => ?_
    have hkey : s.target = t := key_of_get hs
    simp [hkey, ht]
  · rw [if_neg ht]
    refine Option.map_congr fun s hs => ?_
    have hkey : s.target = t := key_of_get hs
    simp [hkey, ht]

@[simp] lemma pointerOf_setActiveTags (tags : List RowId) :
    pointerOf (setActiveTags db target tags) t = pointerOf db t := by
  rw [pointerOf_update db target t (f := fun s => { s with activeTagsJson := tags })
    (fun _ => rfl) (setActiveTags db target tags) rfl]
  split <;> rfl

@[simp] lemma pointerOf_ensureStateBoundTags (state : SessionState) :
    pointerOf (ensureStateBoundTags db state newTagId now).1 t = pointerOf db t := by
  simp only [ensureStateBoundTags, listTargetBoundTagIds, pointerOf_setActiveTags]
  refine pointerOf_congr ?_ t
  simp

@[simp] lemma pointerOf_getSessionState :
    pointerOf (getSessionState db target newTagId now).1 t = pointerOf db t := by
  unfold getSessionState
  split
  · rfl
  · exact pointerOf_ensureStateBoundTags ..

lemma getSessionState_pointer :
    ((getSessionState db target newTagId now).2.map SessionState.currentWakeupTaskId) =
      pointerOf db target := by
  unfold getSessionState pointerOf
  split
  · next h => rw [h]
  · next h => rw [h]; rfl

lemma pointerOf_ensureSessionState :
    pointerOf (ensureSessionState db target newTagId now).1 t =
      if t = target then some ((pointerOf db target).getD none) else pointerOf db t := by
  have hget := pointerOf_getSessionState db target t newTagId now
  have hptr := getSessionState_pointer db target newTagId now
  unfold ensureSessionState
  split
  · next db₁ state heq =>
    rw [heq] at hget hptr
    by_cases ht : t = target
    · rw [if_pos ht, ← hptr, ht]
      rwa [ht, ← hptr] at hget
    · rw [if_neg ht]
      exact hget
  · next db₁ heq =>
    rw [heq] at hget hptr
    have hnone : pointerOf db target = none := hptr.symm
    have hnone₁ : pointerOf db₁ target = none := by
      have h := pointerOf_getSessionState db target target newTagId now
      rw [heq] at h
      exact h.trans hnone
    have hget₁ : get db₁.sessionStates target = none := by
      rw [pointerOf, Option.map_eq_none_iff] at hnone₁
      exact hnone₁
    -- the new state is found under its own target, and no other lookup changes
    simp only [pointerOf_ensureStateBoundTags]
    rw [pointerOf]
    simp only [sessionStates_ensureTargetDefaultBinding, get_append]
    by_cases ht : t = target
    · rw [if_pos ht, hnone, ht, hget₁]
      simp [Table.get]
    · rw [if_neg ht, ← hget, pointerOf]
      have hother : ¬ target = t := fun h => ht h.symm
      simp [Table.get, hother]

lemma pointerOf_setPointer (pointer : Option RowId) :
    pointerOf (setPointer db target pointer) t =
      if t = target then (pointerOf db target).map fun _ => pointer else pointerOf db t := by
  rw [pointerOf_update db target t (f := fun s => { s with currentWakeupTaskId := pointer })
    (fun _ => rfl) (setPointer db target pointer) rfl]
  by_cases ht : t = target
  · rw [if_pos ht, if_pos ht, ht, pointerOf, Option.map_map]
    rfl
  · rw [if_neg ht, if_neg ht]

lemma pointerOf_sync :
    pointerOf (syncCurrentWakeupTaskId db target newTagId now) t =
      if t = target then (pointerOf db target).map fun _ => nextWakeup db.wakeupTasks target
      else pointerOf db t := by
  have hget := pointerOf_getSessionState db target t newTagId now
  have hself := pointerOf_getSessionState db target target newTagId now
  have hptr := getSessionState_pointer db target newTagId now
  have htasks := (getSessionState_frame db target newTagId now).wakeupTasks
  unfold syncCurrentWakeupTaskId
  split
  · next heq =>
    rw [heq] at hget hptr
    have hnone : pointerOf db target = none := hptr.symm
    by_cases ht : t = target
    · rw [if_pos ht, hnone]
      rw [ht, hnone] at hget
      rw [ht]
      exact hget
    · rw [if_neg ht]
      exact hget
  · next heq =>
    rw [heq] at hget hself htasks
    rw [pointerOf_setPointer, hself, htasks, hget]

@[simp] lemma wakeupTasks_sync :
    (syncCurrentWakeupTaskId db target newTagId now).wakeupTasks = db.wakeupTasks :=
  (syncCurrentWakeupTaskId_frame ..).wakeupTasks

end Lookups

lemma namesLeast_nextWakeup (tasks : List WakeupTask) (target : Target) :
    NamesLeast tasks (PendingFor target) WakeupTask.runAt (nextWakeup tasks target) :=
  namesLeast_query (f := WakeupTask.dueKey)
    (fun a b h => by
      rcases Prod.Lex.le_iff.mp h with h | h
      · exact h.le
      · exact h.1.le) tasks (PendingFor target)

lemma syncedAt_sync (db : Db) (target : Target) (newTagId : RowId) (now : Timestamp) :
    SyncedAt (syncCurrentWakeupTaskId db target newTagId now) target := by
  intro c hc
  rw [pointerOf_sync, if_pos rfl] at hc
  obtain ⟨c', -, rfl⟩ := Option.map_eq_some_iff.mp hc
  rw [wakeupTasks_sync]
  exact namesLeast_nextWakeup db.wakeupTasks target

/-! ## One target at a time -/

/-- The pending tasks and the pointers of all other targets are as before. -/
structure TargetOnly (target : Target) (db db' : Db) : Prop where
  pending : ∀ t ≠ target,
    db'.wakeupTasks.filter (PendingFor t) = db.wakeupTasks.filter (PendingFor t)
  pointer : ∀ t ≠ target, pointerOf db' t = pointerOf db t

namespace TargetOnly

variable {target : Target} {db db₁ db₂ : Db}

lemma refl (target : Target) (db : Db) : TargetOnly target db db :=
  ⟨fun _ _ => rfl, fun _ _ => rfl⟩

lemma trans (h₁ : TargetOnly target db db₁) (h₂ : TargetOnly target db₁ db₂) :
    TargetOnly target db db₂ :=
  ⟨fun t ht => (h₂.pending t ht).trans (h₁.pending t ht),
    fun t ht => (h₂.pointer t ht).trans (h₁.pointer t ht)⟩

lemma syncedAt (h : TargetOnly target db db₁) {t : Target} (ht : t ≠ target) :
    SyncedAt db₁ t ↔ SyncedAt db t := by
  simp only [SyncedAt, h.pointer t ht]
  exact forall₂_congr fun c _ => namesLeast_congr (h.pending t ht) c

lemma ofEq (htasks : db₁.wakeupTasks = db.wakeupTasks)
    (hstates : db₁.sessionStates = db.sessionStates) : TargetOnly target db db₁ :=
  ⟨fun _ _ => by rw [htasks], fun t _ => pointerOf_congr hstates t⟩

end TargetOnly

/-- Task keys are distinct, and a wakeup job and its task are of one target. -/
structure WakeupRows (db : Db) : Prop where
  keys : (db.wakeupTasks.map key).Nodup
  linked : ∀ j ∈ db.jobs, j.jobType = "wakeup" →
    ∃ t ∈ db.wakeupTasks, taskIdOf j = some t.id ∧ j.target = some t.target

lemma WakeupRows.map {db db' : Db} (h : WakeupRows db) {F : WakeupTask → WakeupTask}
    {G : DurableJob → DurableJob} (htasks : db'.wakeupTasks = db.wakeupTasks.map F)
    (hjobs : db'.jobs = db.jobs.map G) (hFid : ∀ t, (F t).id = t.id)
    (hFt : ∀ t, (F t).target = t.target) (hGtype : ∀ j, (G j).jobType = j.jobType)
    (hGtask : ∀ j, taskIdOf (G j) = taskIdOf j) (hGt : ∀ j, (G j).target = j.target) :
    WakeupRows db' := by
  refine ⟨?_, fun j' hj' htype => ?_⟩
  · have hkeys : (db.wakeupTasks.map F).map key = db.wakeupTasks.map key := by
      rw [List.map_map]
      exact List.map_congr_left fun t _ => hFid t
    rw [htasks, hkeys]
    exact h.keys
  · rw [hjobs] at hj'
    obtain ⟨j, hj, rfl⟩ := List.mem_map.mp hj'
    obtain ⟨t, ht, hid, htarget⟩ := h.linked j hj ((hGtype j).symm.trans htype)
    refine ⟨F t, htasks ▸ List.mem_map_of_mem ht, ?_, ?_⟩
    · rw [hGtask, hFid, hid]
    · rw [hGt, hFt, htarget]

lemma WakeupRows.congr {db db' : Db} (h : WakeupRows db)
    (htasks : db'.wakeupTasks = db.wakeupTasks) (hjobs : db'.jobs = db.jobs) : WakeupRows db' :=
  ⟨htasks ▸ h.keys, by rw [htasks, hjobs]; exact h.linked⟩

lemma filter_update_of_target {tasks : List WakeupTask} {id : RowId} {target t : Target}
    {f : WakeupTask → WakeupTask} (hf : ∀ r, (f r).target = r.target) (ht : t ≠ target)
    (h : ∀ r ∈ tasks, r.id = id → r.target = target) :
    (update tasks id f).filter (PendingFor t) = tasks.filter (PendingFor t) := by
  induction tasks with
  | nil => rfl
  | cons r tasks ih =>
    have hrest := ih fun r' hr' => h r' (List.mem_cons_of_mem _ hr')
    rw [update, List.map_cons, ← update]
    by_cases hk : key r = id
    · have htarget : r.target = target := h r List.mem_cons_self hk
      have hr : ¬ PendingFor t r := fun hp => ht (hp.2.symm.trans htarget)
      have hfr : ¬ PendingFor t (f r) := fun hp => ht (hp.2.symm.trans ((hf r).trans htarget))
      rw [if_pos hk, List.filter_cons_of_neg (by simpa using hfr),
        List.filter_cons_of_neg (by simpa using hr), hrest]
    · rw [if_neg hk, List.filter_cons, List.filter_cons, hrest]

/-! ## The operations -/

section Operations

variable {db db' : Db} {target : Target} {newTagId : RowId} {now : Timestamp}

/-- Every task is still there, for the same target. -/
def TasksKept (db db' : Db) : Prop :=
  ∀ r ∈ db.wakeupTasks, ∃ r' ∈ db'.wakeupTasks, r'.id = r.id ∧ r'.target = r.target

lemma tasksKept_of_eq (h : db'.wakeupTasks = db.wakeupTasks) : TasksKept db db' :=
  fun r hr => ⟨r, h ▸ hr, rfl, rfl⟩

lemma TasksKept.trans {db₁ db₂ : Db} (h₁ : TasksKept db db₁) (h₂ : TasksKept db₁ db₂) :
    TasksKept db db₂ := by
  intro r hr
  obtain ⟨r₁, hr₁, hid₁, ht₁⟩ := h₁ r hr
  obtain ⟨r₂, hr₂, hid₂, ht₂⟩ := h₂ r₁ hr₁
  exact ⟨r₂, hr₂, hid₂.trans hid₁, ht₂.trans ht₁⟩

structure Keeps (target : Target) (db db' : Db) : Prop where
  rows : WakeupRows db → WakeupRows db'
  others : WakeupRows db → TargetOnly target db db'
  tasks : TasksKept db db'

lemma Keeps.refl (target : Target) (db : Db) : Keeps target db db :=
  ⟨id, fun _ => .refl target db, tasksKept_of_eq rfl⟩

lemma Keeps.trans {db₁ db₂ : Db} (h₁ : Keeps target db db₁) (h₂ : Keeps target db₁ db₂) :
    Keeps target db db₂ :=
  ⟨fun h => h₂.rows (h₁.rows h), fun h => (h₁.others h).trans (h₂.others (h₁.rows h)),
    h₁.tasks.trans h₂.tasks⟩

lemma Keeps.ofEq (htasks : db'.wakeupTasks = db.wakeupTasks) (hjobs : db'.jobs = db.jobs)
    (hstates : db'.sessionStates = db.sessionStates) : Keeps target db db' :=
  ⟨fun h => h.congr htasks hjobs, fun _ => .ofEq htasks hstates, tasksKept_of_eq htasks⟩

lemma Keeps.ofTags (h : TagsOnly db db') (hp : ∀ t ≠ target, pointerOf db' t = pointerOf db t) :
    Keeps target db db' :=
  ⟨fun hrows => hrows.congr h.wakeupTasks h.jobs,
    fun _ => ⟨fun _ _ => by rw [h.wakeupTasks], hp⟩, tasksKept_of_eq h.wakeupTasks⟩

lemma keeps_sync : Keeps target db (syncCurrentWakeupTaskId db target newTagId now) :=
  .ofTags (syncCurrentWakeupTaskId_frame ..) fun t ht => by rw [pointerOf_sync, if_neg ht]

lemma keeps_ensureSessionState : Keeps target db (ensureSessionState db target newTagId now).1 :=
  .ofTags (ensureSessionState_frame ..) fun t ht => by rw [pointerOf_ensureSessionState, if_neg ht]

lemma keeps_setActiveTags (tags : List RowId) : Keeps target db (setActiveTags db target tags) :=
  .ofTags ⟨rfl⟩ fun _ _ => pointerOf_setActiveTags ..

lemma keeps_updateTask {id : RowId} {f : WakeupTask → WakeupTask} (hid : ∀ t, (f t).id = t.id)
    (ht : ∀ t, (f t).target = t.target)
    (h : ∀ r ∈ db.wakeupTasks, r.id = id → r.target = target) :
    Keeps target db { db with wakeupTasks := update db.wakeupTasks id f } := by
  refine ⟨fun hrows => ?_, fun _ => ⟨fun t hne => filter_update_of_target ht hne h,
    fun _ _ => rfl⟩, fun r hr => ?_⟩
  · refine hrows.map (F := fun t => if key t = id then f t else t) (G := fun j => j) rfl
      (List.map_id _).symm (fun t => ?_) (fun t => ?_) (fun _ => rfl) (fun _ => rfl) fun _ => rfl
    · split
      · exact hid t
      · rfl
    · split
      · exact ht t
      · rfl
  · by_cases hk : key r = id
    · exact ⟨f r, mem_update.mpr (.inl ⟨r, hr, hk, rfl⟩), hid r, ht r⟩
    · exact ⟨r, mem_update.mpr (.inr ⟨hr, hk⟩), rfl, rfl⟩

lemma keeps_updateJob {id : RowId} {g : DurableJob → DurableJob}
    (htype : ∀ j, (g j).jobType = j.jobType) (htask : ∀ j, taskIdOf (g j) = taskIdOf j)
    (ht : ∀ j, (g j).target = j.target) :
    Keeps target db { db with jobs := update db.jobs id g } := by
  refine ⟨fun hrows => ?_, fun _ => .ofEq rfl rfl, tasksKept_of_eq rfl⟩
  refine hrows.map (F := fun t => t) (G := fun j => if key j = id then g j else j)
    (List.map_id _).symm rfl (fun _ => rfl) (fun _ => rfl) (fun j => ?_) (fun j => ?_) fun j => ?_
  · split
    · exact htype j
    · rfl
  · split
    · exact htask j
    · rfl
  · split
    · exact ht j
    · rfl

lemma keeps_cancelWakeupTask {reason : Option String} {u : WakeupTask}
    (h : ∀ r ∈ db.wakeupTasks, r.id = u.id → r.target = target) :
    Keeps target db (cancelWakeupTask reason now db u) := by
  have htasks : Keeps target db { db with
      wakeupTasks := update db.wakeupTasks u.id fun t => t.cancelled reason now } :=
    keeps_updateTask (fun _ => rfl) (fun _ => rfl) h
  unfold cancelWakeupTask
  cases u.durableJobId with
  | none => exact htasks
  | some jobId =>
    refine htasks.trans (keeps_updateJob (fun j => ?_) (fun j => ?_) fun j => ?_) <;>
      unfold DurableJob.cancelledIfQueued <;> split <;> rfl

lemma row_cancelWakeupTask {reason : Option String} {u r' : WakeupTask}
    (h : r' ∈ (cancelWakeupTask reason now db u).wakeupTasks) :
    ∃ r ∈ db.wakeupTasks, r.id = r'.id ∧ r.target = r'.target := by
  rcases mem_update.mp h with ⟨r, hr, -, rfl⟩ | ⟨hr, -⟩
  · exact ⟨r, hr, rfl, rfl⟩
  · exact ⟨r', hr, rfl, rfl⟩

lemma keeps_foldl_cancelWakeupTask {reason : Option String} {tasks : List WakeupTask}
    (h : ∀ u ∈ tasks, ∀ r ∈ db.wakeupTasks, r.id = u.id → r.target = target) :
    Keeps target db (tasks.foldl (cancelWakeupTask reason now) db) := by
  induction tasks generalizing db with
  | nil => exact .refl target db
  | cons u tasks ih =>
    refine (keeps_cancelWakeupTask (h u List.mem_cons_self)).trans
      (ih fun u' hu' r' hr' hid => ?_)
    obtain ⟨r, hr, hrid, hrt⟩ := row_cancelWakeupTask hr'
    exact hrt ▸ h u' (List.mem_cons_of_mem _ hu') r hr (hrid.trans hid)

lemma keeps_cancelWakeupTasks (hrows : WakeupRows db) (req : CancelRequest) :
    Keeps target db (cancelWakeupTasks db target req newTagId now).1 := by
  refine (keeps_foldl_cancelWakeupTask fun u hu r hr hid => ?_).trans keeps_sync
  -- the listed tasks are rows of the target, and keys are unique
  simp only [tasksToCancel, listPendingWakeupTasks, List.mem_filter, mem_orderBy,
    decide_eq_true_eq] at hu
  have heq : r = u := List.inj_on_of_nodup_map hrows.keys hr hu.1.1 hid
  rw [heq]
  exact hu.1.2.2

lemma scheduleOp_eq_some {req : WakeupRequest} {keys : WakeupKeys}
    (h : scheduleOp db target req keys newTagId now = some db') :
    keys.taskId ∉ db.wakeupTasks.map key ∧ keys.taskId ≠ "" ∧
      db' = syncCurrentWakeupTaskId
        (enqueueJob { db with
            wakeupTasks := db.wakeupTasks ++ [req.toTask target keys.taskId keys.jobId now] }
          (req.toJobRequest target keys.taskId) keys.jobId now) target newTagId now := by
  simp only [scheduleOp] at h
  split at h
  · cases h
  · next hguard =>
    push Not at hguard
    simp only [scheduleWakeup] at h
    split at h
    · cases h
    · exact ⟨hguard.1, hguard.2, (Option.some.inj h).symm⟩

lemma keeps_scheduleOp {req : WakeupRequest} {keys : WakeupKeys}
    (h : scheduleOp db target req keys newTagId now = some db') : Keeps target db db' := by
  obtain ⟨hnew, hne, rfl⟩ := scheduleOp_eq_some h
  suffices henqueued : Keeps target db (enqueueJob { db with
      wakeupTasks := db.wakeupTasks ++ [req.toTask target keys.taskId keys.jobId now] }
    (req.toJobRequest target keys.taskId) keys.jobId now) from henqueued.trans keeps_sync
  refine ⟨fun hrows => ⟨?_, ?_⟩, fun _ => ?_, fun r hr => ⟨r, List.mem_append_left _ hr, rfl, rfl⟩⟩
  · simp only [enqueueJob, List.map_append]
    exact hrows.keys.append (by simp) (by simpa [WakeupRequest.toTask] using hnew)
  · intro j hj htype
    rcases List.mem_append.mp hj with hj | hj
    · obtain ⟨t, ht, hlink⟩ := hrows.linked j hj htype
      exact ⟨t, List.mem_append_left _ ht, hlink⟩
    · rw [List.mem_singleton.mp hj]
      refine ⟨_, List.mem_append_right _ (List.mem_singleton.mpr rfl), ?_, rfl⟩
      simp [taskIdOf, JobRequest.toJob, WakeupRequest.toJobRequest, WakeupRequest.toTask,
        JsonDict.text?, JsonDict.ofList, hne]
  · refine ⟨fun t ht => ?_, fun _ _ => rfl⟩
    have hother : ¬ PendingFor t (req.toTask target keys.taskId keys.jobId now) :=
      fun hp => ht hp.2.symm
    simp only [enqueueJob, List.filter_append]
    rw [List.filter_cons_of_neg (by simpa using hother), List.filter_nil, List.append_nil]

lemma keeps_compaction (cocoonId messageId jobId : RowId) :
    Keeps target db (enqueueJob db (compactionRequest cocoonId messageId) jobId now) := by
  refine ⟨fun hrows => ⟨hrows.keys, fun j hj htype => ?_⟩, fun _ => .ofEq rfl rfl,
    tasksKept_of_eq rfl⟩
  rcases List.mem_append.mp hj with hj | hj
  · exact hrows.linked j hj htype
  · rw [List.mem_singleton.mp hj] at htype
    exact absurd htype (by simp [JobRequest.toJob, compactionRequest])

lemma keeps_schedulerOp (hrows : WakeupRows db) {op : SchedulerOp}
    (h : op.exec target newTagId now db = some db') : Keeps target db db' := by
  cases op with
  | cancel req =>
    cases h
    exact keeps_cancelWakeupTasks hrows req
  | schedule req keys => exact keeps_scheduleOp h
  | idle req keys =>
    simp only [SchedulerOp.exec] at h
    split at h
    · exact keeps_scheduleOp h
    · cases h
      exact .refl target db
  | compaction cocoonId messageId jobId =>
    cases h
    exact keeps_compaction cocoonId messageId jobId
  | sync =>
    cases h
    exact keeps_sync

lemma keeps_roundStep (hrows : WakeupRows db) {s : RoundStep}
    (h : s.exec target newTagId now db = some db') : Keeps target db db' := by
  cases s with
  | buildContext =>
    cases h
    exact keeps_ensureSessionState
  | patchState tags =>
    cases h
    exact keeps_setActiveTags tags
  | scheduler op => exact keeps_schedulerOp hrows h

lemma execRound_cons {s : RoundStep} {steps : List RoundStep} :
    execRound target newTagId now (s :: steps) db = some db' ↔
      ∃ db₁, s.exec target newTagId now db = some db₁ ∧
        execRound target newTagId now steps db₁ = some db' := by
  simp [execRound, List.foldlM_cons, Option.bind_eq_some_iff]

lemma keeps_execRound (hrows : WakeupRows db) {steps : List RoundStep}
    (h : execRound target newTagId now steps db = some db') : Keeps target db db' := by
  induction steps generalizing db with
  | nil =>
    cases h
    exact .refl target _
  | cons s steps ih =>
    obtain ⟨db₁, h₁, hrest⟩ := execRound_cons.mp h
    have hkeep := keeps_roundStep hrows h₁
    exact hkeep.trans (ih (hkeep.rows hrows) hrest)

/-! ## Recomputing the pointer -/

/-- The operation ends with the pointer recomputed, whatever it finds. -/
def SchedulerOp.resyncs : SchedulerOp → Bool
  | .cancel _ => true
  | .schedule _ _ => true
  | .sync => true
  | _ => false

def SchedulerOp.isIdle : SchedulerOp → Bool
  | .idle _ _ => true
  | _ => false

def RoundStep.resyncs : RoundStep → Bool
  | .scheduler op => op.resyncs
  | _ => false

def RoundStep.isIdle : RoundStep → Bool
  | .scheduler op => op.isIdle
  | _ => false

def RoundStep.buildsContext : RoundStep → Bool
  | .buildContext => true
  | _ => false

lemma syncedAt_scheduleOp {req : WakeupRequest} {keys : WakeupKeys}
    (h : scheduleOp db target req keys newTagId now = some db') : SyncedAt db' target := by
  obtain ⟨-, -, rfl⟩ := scheduleOp_eq_some h
  exact syncedAt_sync _ _ _ _

lemma syncedAt_of_resyncs {s : RoundStep} (hs : s.resyncs)
    (h : s.exec target newTagId now db = some db') : SyncedAt db' target := by
  cases s with
  | buildContext => cases hs
  | patchState tags => cases hs
  | scheduler op =>
    cases op with
    | cancel req =>
      cases h
      exact syncedAt_sync _ _ _ _
    | schedule req keys => exact syncedAt_scheduleOp h
    | idle req keys => cases hs
    | compaction cocoonId messageId jobId => cases hs
    | sync =>
      cases h
      exact syncedAt_sync _ _ _ _

lemma pointerOf_sync_isSome :
    (pointerOf (syncCurrentWakeupTaskId db target newTagId now) target).isSome =
      (pointerOf db target).isSome := by
  rw [pointerOf_sync, if_pos rfl, Option.isSome_map]

lemma pointerOf_scheduleOp_isSome {req : WakeupRequest} {keys : WakeupKeys}
    (h : scheduleOp db target req keys newTagId now = some db') :
    (pointerOf db' target).isSome = (pointerOf db target).isSome := by
  obtain ⟨-, -, rfl⟩ := scheduleOp_eq_some h
  rw [pointerOf_sync_isSome]
  rfl

lemma sessionStates_foldl_cancelWakeupTask (reason : Option String) (tasks : List WakeupTask) :
    (tasks.foldl (cancelWakeupTask reason now) db).sessionStates = db.sessionStates := by
  induction tasks generalizing db with
  | nil => rfl
  | cons u tasks ih => exact ih

lemma isSome_roundStep {s : RoundStep} (hsome : (pointerOf db target).isSome)
    (h : s.exec target newTagId now db = some db') : (pointerOf db' target).isSome := by
  cases s with
  | buildContext =>
    cases h
    rw [pointerOf_ensureSessionState, if_pos rfl]
    rfl
  | patchState tags =>
    cases h
    rwa [pointerOf_setActiveTags]
  | scheduler op =>
    cases op with
    | cancel req =>
      cases h
      rw [cancelWakeupTasks, pointerOf_sync_isSome,
        pointerOf_congr (sessionStates_foldl_cancelWakeupTask ..)]
      exact hsome
    | schedule req keys => rwa [pointerOf_scheduleOp_isSome h]
    | idle req keys =>
      simp only [RoundStep.exec, SchedulerOp.exec] at h
      split at h
      · rwa [pointerOf_scheduleOp_isSome h]
      · cases h
        exact hsome
    | compaction cocoonId messageId jobId =>
      cases h
      exact hsome
    | sync =>
      cases h
      rwa [pointerOf_sync_isSome]

lemma quiet_roundStep {s : RoundStep} (hs : s.resyncs = false) (hidle : s.isIdle = false)
    (h : s.exec target newTagId now db = some db') :
    db'.wakeupTasks = db.wakeupTasks ∧
      pointerOf db' target = if s.buildsContext then some ((pointerOf db target).getD none)
        else pointerOf db target := by
  cases s with
  | buildContext =>
    cases h
    exact ⟨(ensureSessionState_frame ..).wakeupTasks, by
      rw [pointerOf_ensureSessionState, if_pos rfl]; rfl⟩
  | patchState tags =>
    cases h
    exact ⟨rfl, pointerOf_setActiveTags ..⟩
  | scheduler op =>
    cases op with
    | cancel req => cases hs
    | schedule req keys => cases hs
    | idle req keys => cases hidle
    | compaction cocoonId messageId jobId =>
      cases h
      exact ⟨rfl, rfl⟩
    | sync => cases hs

lemma syncedAt_roundStep {s : RoundStep} (hsome : (pointerOf db target).isSome)
    (hsync : SyncedAt db target) (h : s.exec target newTagId now db = some db') :
    SyncedAt db' target := by
  cases hres : s.resyncs with
  | true => exact syncedAt_of_resyncs hres h
  | false =>
    cases hidle : s.isIdle with
    | false =>
      obtain ⟨htasks, hptr⟩ := quiet_roundStep hres hidle h
      have hptr' : pointerOf db' target = pointerOf db target := by
        obtain ⟨c, hc⟩ := Option.isSome_iff_exists.mp hsome
        rw [hptr, hc]
        split <;> rfl
      rw [SyncedAt, hptr', htasks]
      exact hsync
    | true =>
      cases s with
      | buildContext => cases hidle
      | patchState tags => cases hidle
      | scheduler op =>
        cases op with
        | cancel req => cases hidle
        | schedule req keys => cases hidle
        | idle req keys =>
          simp only [RoundStep.exec, SchedulerOp.exec] at h
          split at h
          · exact syncedAt_scheduleOp h
          · cases h
            exact hsync
        | compaction cocoonId messageId jobId => cases hidle
        | sync => cases hidle

lemma syncedAt_execRound {steps : List RoundStep} (hsome : (pointerOf db target).isSome)
    (hsync : SyncedAt db target ∨ steps.any RoundStep.resyncs)
    (h : execRound target newTagId now steps db = some db') : SyncedAt db' target := by
  induction steps generalizing db with
  | nil =>
    cases h
    simpa using hsync
  | cons s steps ih =>
    obtain ⟨db₁, h₁, hrest⟩ := execRound_cons.mp h
    refine ih (isSome_roundStep hsome h₁) ?_ hrest
    rcases hsync with hsync | hany
    · exact .inl (syncedAt_roundStep hsome hsync h₁)
    · rw [List.any_cons, Bool.or_eq_true] at hany
      exact hany.imp (fun hres => syncedAt_of_resyncs hres h₁) id

/-- A stretch that does not leaves the pending tasks and the pointer as they were, but that the
context builder makes a session state with no pointer when there was none. -/
lemma quiet_execRound {steps : List RoundStep} (hres : steps.any RoundStep.resyncs = false)
    (hidle : steps.any RoundStep.isIdle = false)
    (h : execRound target newTagId now steps db = some db') :
    db'.wakeupTasks = db.wakeupTasks ∧
      pointerOf db' target = if steps.any RoundStep.buildsContext then
        some ((pointerOf db target).getD none) else pointerOf db target := by
  induction steps generalizing db with
  | nil =>
    cases h
    exact ⟨rfl, rfl⟩
  | cons s steps ih =>
    obtain ⟨db₁, h₁, hrest⟩ := execRound_cons.mp h
    simp only [List.any_cons, Bool.or_eq_false_iff] at hres hidle
    obtain ⟨htasks₁, hptr₁⟩ := quiet_roundStep hres.1 hidle.1 h₁
    obtain ⟨htasks, hptr⟩ := ih hres.2 hidle.2 hrest
    refine ⟨htasks.trans htasks₁, ?_⟩
    rw [hptr, hptr₁, List.any_cons]
    cases s.buildsContext <;> cases steps.any RoundStep.buildsContext <;> rfl

end Operations

/-! ## The steps of a round -/

lemma resyncs_roundSteps (inp : SchedulerInput) (tags : List RowId) (decision : MetaDecision) :
    (roundSteps inp tags decision).any RoundStep.resyncs := by
  rw [List.any_eq_true]
  refine ⟨.scheduler .sync, ?_, rfl⟩
  simp [roundSteps, schedulerOps]

lemma isIdle_roundSteps {inp : SchedulerInput} {tags : List RowId} {decision : MetaDecision}
    (h : inp.event.eventType ≠ .chat) :
    (roundSteps inp tags decision).any RoundStep.isIdle = false := by
  rw [List.any_eq_false]
  intro s hs
  simp only [roundSteps, schedulerOps, List.mem_append, List.mem_map, h, false_and] at hs
  rcases hs with hs | ⟨op, hop, rfl⟩
  · rcases List.mem_cons.mp hs with rfl | hs
    · simp [RoundStep.isIdle]
    · rw [List.mem_singleton.mp hs]
      simp [RoundStep.isIdle]
  · rcases hop with (((hop | ⟨req, -, rfl⟩) | hop) | hop) | hop
    · split at hop
      · cases hop
      · rw [List.mem_singleton.mp hop]
        simp [RoundStep.isIdle, SchedulerOp.isIdle]
    · simp [RoundStep.isIdle, SchedulerOp.isIdle]
    · cases hop
    · split at hop
      · rw [List.mem_singleton.mp hop]
        simp [RoundStep.isIdle, SchedulerOp.isIdle]
      · cases hop
    · rw [List.mem_singleton.mp hop]
      simp [RoundStep.isIdle, SchedulerOp.isIdle]

end CocoonSit
