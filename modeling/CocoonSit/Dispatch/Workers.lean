import CocoonSit.Dispatch.ChatWorker
import CocoonSit.Lib.Run

/-!
# Several chat workers

Any number of chat workers run `process_next` against one database, while requests enqueue
actions.  A worker reads the queued actions and picks one, commits the claim in a second step,
then waits for the runtime thread it started; on a timeout it reads the action again and may fail
it and enqueue a retry, while the thread goes on.

The claim is an unconditional update of the row that was read: nothing makes it fail when another
worker has taken the row, or another action of its target, since.  `Undisturbed` is the condition
under which a claim does no harm, and `exclusive_iff_undisturbed` says that a run keeps actions
and targets apart exactly when every claim meets it.
-/

namespace CocoonSit

open Table TransitionSystem

namespace ChatWorkers

/-- What a worker has selected: the actions as it read them, and the one it picked. -/
structure Selection where
  snapshot : List ActionDispatch
  action : ActionDispatch
  readAt : Timestamp

/-- Where a worker is in `process_next`. -/
inductive Stage where
  | idle
  /-- The claim is flushed and not committed. -/
  | selected (sel : Selection)
  /-- Waiting for the runtime thread of the action. -/
  | waiting (actionId : RowId)
  /-- The timeout handler has seen this row running. -/
  | timingOut (seen : ActionDispatch)

/-- The action a worker is processing. -/
def Stage.actionId : Stage → Option RowId
  | .idle => none
  | .selected _ => none
  | .waiting actionId => some actionId
  | .timingOut seen => some seen.id

/-- The claim a worker has not committed yet. -/
def Stage.selection : Stage → Option Selection
  | .selected sel => some sel
  | _ => none

/-- The row the timeout handler decides on. -/
def Stage.seen : Stage → Option ActionDispatch
  | .timingOut seen => some seen
  | _ => none

/-- The database, the workers, the runtime threads still running (with the worker that started
each), and the claims committed so far. -/
structure State where
  db : Db
  workers : ℕ → Stage := fun _ => .idle
  threads : List (ℕ × RowId) := []
  claims : List RowId := []

inductive Event where
  /-- The write half of an enqueue call, which read `pending` at some earlier time. -/
  | commitChat (target : Target) (pending : Option ActionDispatch) (sub : ChatSubmission)
      (keys : NewKeys) (now : Timestamp)
  /-- An edit or a retry is enqueued. -/
  | enqueueAction (action : ActionDispatch)
  /-- A worker reads the queued actions. -/
  | read (worker : ℕ) (now : Timestamp)
  /-- A worker commits its claim and starts the runtime thread. -/
  | commitClaim (worker : ℕ)
  /-- The thread of an action ends. -/
  | threadEnd (worker : ℕ) (actionId : RowId) (outcome : RoundOutcome)
  /-- The worker sees its thread's result. -/
  | workerReturn (worker : ℕ)
  /-- The worker stops waiting; the handler reads the action. -/
  | timeoutRead (worker : ℕ)
  /-- The handler commits the failure, and the retry if attempts remain. -/
  | timeoutCommit (worker : ℕ) (retryId : RowId) (now : Timestamp)

def State.setWorker (s : State) (worker : ℕ) (stage : Stage) : ℕ → Stage :=
  Function.update s.workers worker stage

def withActions (db : Db) (actions : List ActionDispatch) : Db := { db with actions := actions }

variable (chat : MessageDispatchService) (svc : ChatDispatchWorkerService)

def step (s : State) : Event → Option State
  | .commitChat target pending sub keys now =>
    if keys.actionId ∈ s.db.actions.map key then none
    else some { s with db := (chat.commitChat s.db target pending sub keys now).1 }
  | .enqueueAction action =>
    if action.id ∈ s.db.actions.map key ∨ action.status ≠ .queued ∨ action.startedAt.isSome then
      none
    else some { s with db := withActions s.db (s.db.actions ++ [action]) }
  | .read worker now =>
    match s.workers worker with
    | .idle =>
      match nextReadyAction s.db.actions now with
      | none => some s
      | some action => some { s with
          workers := s.setWorker worker (.selected ⟨s.db.actions, action, now⟩) }
    | _ => none
  | .commitClaim worker =>
    match s.workers worker with
    | .selected sel => some
        { db := withActions s.db
            (update s.db.actions sel.action.id (sel.action.claimed sel.readAt))
          workers := s.setWorker worker (.waiting sel.action.id)
          threads := (worker, sel.action.id) :: s.threads
          claims := sel.action.id :: s.claims }
    | _ => none
  | .threadEnd worker actionId outcome =>
    if (worker, actionId) ∈ s.threads then some
      { s with
        db := withActions s.db (update s.db.actions actionId outcome.write)
        threads := s.threads.erase (worker, actionId) }
    else none
  | .workerReturn worker =>
    match s.workers worker with
    | .waiting actionId =>
      if (worker, actionId) ∈ s.threads then none
      else some { s with workers := s.setWorker worker .idle }
    | _ => none
  | .timeoutRead worker =>
    match s.workers worker with
    | .waiting actionId =>
      match get s.db.actions actionId with
      | some row =>
        if row.status = .running then
          some { s with workers := s.setWorker worker (.timingOut row) }
        else some { s with workers := s.setWorker worker .idle }
      | none => some { s with workers := s.setWorker worker .idle }
    | _ => none
  | .timeoutCommit worker retryId now =>
    match s.workers worker with
    | .timingOut seen =>
      if retryId ∈ s.db.actions.map key then none
      else some { s with
        db := withActions s.db
          (update s.db.actions seen.id (svc.timedOut seen now) ++
            (svc.retryAction seen retryId now).toList)
        workers := s.setWorker worker .idle }
    | _ => none

/-- Actions under distinct keys, none of them running, and every worker idle. -/
structure Initial (s : State) : Prop where
  keys : (s.db.actions.map key).Nodup
  notRunning : ∀ a ∈ s.db.actions, a.status ≠ .running
  idle : ∀ w, s.workers w = .idle
  threads : s.threads = []
  claims : s.claims = []

/-- No action is claimed twice; a target has at most one running action; and two workers are never
on one running action, or on two running actions of one target. -/
structure Exclusive (s : State) : Prop where
  claimedOnce : s.claims.Nodup
  oneRunning : ∀ a ∈ s.db.actions, ∀ b ∈ s.db.actions, a.status = .running →
    b.status = .running → a.target = b.target → a.id = b.id
  workersApart : ∀ w w', ∀ a ∈ s.db.actions, ∀ b ∈ s.db.actions, a.status = .running →
    b.status = .running → a.target = b.target → (s.workers w).actionId = some a.id →
    (s.workers w').actionId = some b.id → w = w'

/-- Nothing has come between the read and the claim: the row is still queued, every running action
of its target was running when it was read, and none of them is an edit or a retry, which the
check for prior actions does not look at. -/
def StillFree (actions : List ActionDispatch) (sel : Selection) : Prop :=
  (∀ row ∈ actions, row.id = sel.action.id → row.status = .queued) ∧
    ∀ row ∈ actions, row.status = .running → row.target = sel.action.target →
      row.eventType = .chat ∧ ∃ seen ∈ sel.snapshot, seen.id = row.id ∧ seen.status = .running

/-- A claim is committed on a selection that is still free. -/
def Undisturbed (s : State) : Event → Prop
  | .commitClaim worker => ∀ sel ∈ (s.workers worker).selection, StillFree s.db.actions sel
  | _ => True

instance (actions : List ActionDispatch) (sel : Selection) : Decidable (StillFree actions sel) :=
  inferInstanceAs (Decidable (_ ∧ _))

instance (s : State) : ∀ e, Decidable (Undisturbed s e)
  | .commitClaim worker => inferInstanceAs
      (Decidable (∀ sel ∈ (s.workers worker).selection, StillFree s.db.actions sel))
  | .commitChat .. => .isTrue trivial
  | .enqueueAction .. => .isTrue trivial
  | .read .. => .isTrue trivial
  | .threadEnd .. => .isTrue trivial
  | .workerReturn .. => .isTrue trivial
  | .timeoutRead .. => .isTrue trivial
  | .timeoutCommit .. => .isTrue trivial

/-! ## Invariants of the table -/

/-- What every write keeps: distinct keys; only claimed actions are running, and they have a start
time; a claimed action is never queued again. -/
structure TableInv (actions : List ActionDispatch) (claims : List RowId) : Prop where
  keys : (actions.map key).Nodup
  runningClaimed : ∀ a ∈ actions, a.status = .running → a.id ∈ claims
  runningStarted : ∀ a ∈ actions, a.status = .running → a.startedAt.isSome
  claimedNotQueued : ∀ a ∈ actions, a.id ∈ claims → a.status ≠ .queued
  claimedKnown : ∀ id ∈ claims, id ∈ actions.map key

/-- What remains true of a selection while its worker has not committed: its snapshot was a table
in order, the picked row had no prior action there, rows keep target and event type, and the
picked row is still queued unless it was claimed. -/
structure SelectionInv (actions : List ActionDispatch) (claims : List RowId) (sel : Selection) :
    Prop where
  noPrior : ∀ prior ∈ sel.snapshot, ¬ PriorUnfinishedChat sel.action prior
  started : ∀ a ∈ sel.snapshot, a.status = .running → a.startedAt.isSome
  picked : sel.action ∈ sel.snapshot
  known : ∀ a ∈ sel.snapshot, a.id ∈ actions.map key
  kept : ∀ a ∈ sel.snapshot, ∀ row ∈ actions, row.id = a.id →
    row.target = a.target ∧ row.eventType = a.eventType
  queuedOrClaimed : ∀ row ∈ actions, row.id = sel.action.id →
    row.status = .queued ∨ row.id ∈ claims

section Writes

variable {actions : List ActionDispatch} {claims : List RowId} {sel : Selection}

lemma tableInv_append (h : TableInv actions claims) {a : ActionDispatch}
    (hid : a.id ∉ actions.map key) (hqueued : a.status = .queued) :
    TableInv (actions ++ [a]) claims := by
  have hmem : ∀ {b}, b ∈ actions ++ [a] → b ∈ actions ∨ b = a := by simp
  refine ⟨?_, fun b hb hrun => ?_, fun b hb hrun => ?_, fun b hb hcl => ?_, fun id hid' => ?_⟩
  · rw [List.map_append]
    exact h.keys.append (by simp) (by simpa using hid)
  · rcases hmem hb with hb | rfl
    · exact h.runningClaimed b hb hrun
    · rw [hqueued] at hrun
      cases hrun
  · rcases hmem hb with hb | rfl
    · exact h.runningStarted b hb hrun
    · rw [hqueued] at hrun
      cases hrun
  · rcases hmem hb with hb | rfl
    · exact h.claimedNotQueued b hb hcl
    · exact absurd (h.claimedKnown _ hcl) hid
  · rw [List.map_append]
    exact List.mem_append_left _ (h.claimedKnown id hid')

lemma selectionInv_append (h : SelectionInv actions claims sel) {a : ActionDispatch}
    (hid : a.id ∉ actions.map key) : SelectionInv (actions ++ [a]) claims sel := by
  have hmem : ∀ {b}, b ∈ actions ++ [a] → b ∈ actions ∨ b = a := by simp
  refine ⟨h.noPrior, h.started, h.picked, fun b hb => ?_, fun b hb row hrow heq => ?_,
    fun row hrow heq => ?_⟩
  · rw [List.map_append]
    exact List.mem_append_left _ (h.known b hb)
  · rcases hmem hrow with hrow | rfl
    · exact h.kept b hb row hrow heq
    · exact absurd (heq ▸ h.known b hb) hid
  · rcases hmem hrow with hrow | rfl
    · exact h.queuedOrClaimed row hrow heq
    · exact absurd (heq ▸ h.known _ h.picked) hid

lemma tableInv_update (h : TableInv actions claims) {id : RowId}
    {f : ActionDispatch → ActionDispatch} (hf : NeverStarts f) :
    TableInv (update actions id f) claims := by
  have hkeys := map_key_update (t := actions) (k := id) hf.id
  refine ⟨by rw [hkeys]; exact h.keys, fun b hb hrun => ?_, fun b hb hrun => ?_,
    fun b hb hcl hq => ?_, fun id' hid' => by rw [hkeys]; exact h.claimedKnown id' hid'⟩
  · rcases mem_update.mp hb with ⟨r, hr, -, rfl⟩ | ⟨hb, -⟩
    · rw [hf.id]
      exact h.runningClaimed r hr (hf.running r hrun)
    · exact h.runningClaimed b hb hrun
  · rcases mem_update.mp hb with ⟨r, hr, -, rfl⟩ | ⟨hb, -⟩
    · rw [hf.startedAt]
      exact h.runningStarted r hr (hf.running r hrun)
    · exact h.runningStarted b hb hrun
  · rcases mem_update.mp hb with ⟨r, hr, -, rfl⟩ | ⟨hb, -⟩
    · rw [hf.id] at hcl
      exact h.claimedNotQueued r hr hcl (hf.queued r hq)
    · exact h.claimedNotQueued b hb hcl hq

lemma selectionInv_update (h : SelectionInv actions claims sel) {id : RowId}
    {f : ActionDispatch → ActionDispatch} (hf : NeverStarts f)
    (hstatus : id ∈ claims ∨ ∀ row, (f row).status = row.status) :
    SelectionInv (update actions id f) claims sel := by
  have hkeys := map_key_update (t := actions) (k := id) hf.id
  refine ⟨h.noPrior, h.started, h.picked, fun b hb => by rw [hkeys]; exact h.known b hb,
    fun b hb row hrow heq => ?_, fun row hrow heq => ?_⟩
  · rcases mem_update.mp hrow with ⟨r, hr, -, rfl⟩ | ⟨hrow, -⟩
    · rw [hf.id] at heq
      rw [hf.target, hf.eventType]
      exact h.kept b hb r hr heq
    · exact h.kept b hb row hrow heq
  · rcases mem_update.mp hrow with ⟨r, hr, hk, rfl⟩ | ⟨hrow, -⟩
    · rcases hstatus with hcl | hkeep
      · right
        have hid : r.id = id := hk
        rwa [hf.id, hid]
      · rw [hf.id] at heq ⊢
        rw [hkeep]
        exact h.queuedOrClaimed r hr heq
    · exact h.queuedOrClaimed row hrow heq

lemma tableInv_claim (h : TableInv actions claims) {seen : ActionDispatch} {now : Timestamp}
    (hid : seen.id ∈ actions.map key) :
    TableInv (update actions seen.id (seen.claimed now)) (seen.id :: claims) := by
  have hkeys := map_key_update (t := actions) (k := seen.id) (f := seen.claimed now) fun _ => rfl
  refine ⟨by rw [hkeys]; exact h.keys, fun b hb hrun => ?_, fun b hb hrun => ?_,
    fun b hb hcl => ?_, fun id' hid' => ?_⟩
  · rcases mem_update.mp hb with ⟨r, hr, hk, rfl⟩ | ⟨hb, -⟩
    · exact List.mem_cons.mpr (.inl hk)
    · exact List.mem_cons_of_mem _ (h.runningClaimed b hb hrun)
  · rcases mem_update.mp hb with ⟨r, hr, hk, rfl⟩ | ⟨hb, -⟩
    · simp [ActionDispatch.claimed]
    · exact h.runningStarted b hb hrun
  · rcases mem_update.mp hb with ⟨r, hr, hk, rfl⟩ | ⟨hb, hne⟩
    · simp
    · rcases List.mem_cons.mp hcl with heq | hcl
      · exact absurd heq hne
      · exact h.claimedNotQueued b hb hcl
  · rw [hkeys]
    rcases List.mem_cons.mp hid' with rfl | hid'
    · exact hid
    · exact h.claimedKnown id' hid'

lemma selectionInv_claim (h : SelectionInv actions claims sel) {seen : ActionDispatch}
    {now : Timestamp} :
    SelectionInv (update actions seen.id (seen.claimed now)) (seen.id :: claims) sel := by
  have hkeys := map_key_update (t := actions) (k := seen.id) (f := seen.claimed now) fun _ => rfl
  refine ⟨h.noPrior, h.started, h.picked, fun b hb => by rw [hkeys]; exact h.known b hb,
    fun b hb row hrow heq => ?_, fun row hrow heq => ?_⟩
  · rcases mem_update.mp hrow with ⟨r, hr, -, rfl⟩ | ⟨hrow, -⟩
    · exact h.kept b hb r hr heq
    · exact h.kept b hb row hrow heq
  · rcases mem_update.mp hrow with ⟨r, hr, hk, rfl⟩ | ⟨hrow, -⟩
    · right
      exact List.mem_cons.mpr (.inl hk)
    · rcases h.queuedOrClaimed row hrow heq with hq | hcl
      · exact .inl hq
      · exact .inr (List.mem_cons_of_mem _ hcl)

lemma selectionInv_read (h : TableInv actions claims) {a : ActionDispatch} {now : Timestamp}
    (ha : nextReadyAction actions now = some a) :
    SelectionInv actions claims ⟨actions, a, now⟩ := by
  obtain ⟨hmem, hqueued, hprior⟩ := nextReadyAction_spec ha
  have hinj := List.inj_on_of_nodup_map h.keys
  refine ⟨hprior, h.runningStarted, hmem, fun b hb => List.mem_map_of_mem hb,
    fun b hb row hrow heq => ?_, fun row hrow heq => ?_⟩
  · rw [hinj hrow hb heq]
    exact ⟨rfl, rfl⟩
  · rw [hinj hrow hmem heq]
    exact .inl hqueued

end Writes

/-! ## Invariants of the system -/

/-- What every step keeps, disturbed claims included. -/
structure Inv (s : State) : Prop where
  table : TableInv s.db.actions s.claims
  selections : ∀ w sel, s.workers w = .selected sel → SelectionInv s.db.actions s.claims sel
  stageClaimed : ∀ w id, (s.workers w).actionId = some id → id ∈ s.claims
  stagesApart : s.claims.Nodup → ∀ w w' id, (s.workers w).actionId = some id →
    (s.workers w').actionId = some id → w = w'
  threadsClaimed : ∀ t ∈ s.threads, t.2 ∈ s.claims

lemma inv_of_initial {s : State} (h : Initial s) : Inv s := by
  refine ⟨⟨h.keys, fun a ha hrun => absurd hrun (h.notRunning a ha),
    fun a ha hrun => absurd hrun (h.notRunning a ha), ?_, ?_⟩, ?_, ?_, ?_, ?_⟩
  · simp [h.claims]
  · simp [h.claims]
  · simp [h.idle]
  · simp [h.idle, Stage.actionId]
  · simp [h.idle, Stage.actionId]
  · simp [h.threads]

lemma inv_db {s : State} (hinv : Inv s) {db : Db} (htable : TableInv db.actions s.claims)
    (hsel : ∀ sel, SelectionInv s.db.actions s.claims sel → SelectionInv db.actions s.claims sel) :
    Inv { s with db := db } :=
  ⟨htable, fun w sel h => hsel sel (hinv.selections w sel h), hinv.stageClaimed,
    hinv.stagesApart, hinv.threadsClaimed⟩

lemma inv_setWorker {s : State} (hinv : Inv s) {worker : ℕ} {stage : Stage}
    (hsel : ∀ sel, stage = .selected sel → SelectionInv s.db.actions s.claims sel)
    (hid : ∀ id, stage.actionId = some id → (s.workers worker).actionId = some id) :
    Inv { s with workers := s.setWorker worker stage } := by
  have hstage : ∀ w id, (s.setWorker worker stage w).actionId = some id →
      (s.workers w).actionId = some id := by
    intro w id h
    by_cases hw : w = worker
    · subst hw
      rw [State.setWorker, Function.update_self] at h
      exact hid id h
    · rwa [State.setWorker, Function.update_of_ne hw] at h
  refine ⟨hinv.table, fun w sel h => ?_, fun w id h => hinv.stageClaimed w id (hstage w id h),
    fun hnd w w' id h h' => hinv.stagesApart hnd w w' id (hstage w id h) (hstage w' id h'),
    hinv.threadsClaimed⟩
  have h : s.setWorker worker stage w = .selected sel := h
  by_cases hw : w = worker
  · subst hw
    rw [State.setWorker, Function.update_self] at h
    exact hsel sel h
  · rw [State.setWorker, Function.update_of_ne hw] at h
    exact hinv.selections w sel h

lemma inv_commitClaim {s : State} (hinv : Inv s) {worker : ℕ} {sel : Selection}
    (hsel : s.workers worker = .selected sel) :
    Inv { db := withActions s.db
            (update s.db.actions sel.action.id (sel.action.claimed sel.readAt))
          workers := s.setWorker worker (.waiting sel.action.id)
          threads := (worker, sel.action.id) :: s.threads
          claims := sel.action.id :: s.claims } := by
  have hpicked := hinv.selections worker sel hsel
  have hstage : ∀ w id, (s.setWorker worker (.waiting sel.action.id) w).actionId = some id →
      (w = worker ∧ id = sel.action.id) ∨ (w ≠ worker ∧ (s.workers w).actionId = some id) := by
    intro w id h
    by_cases hw : w = worker
    · subst hw
      rw [State.setWorker, Function.update_self] at h
      exact .inl ⟨rfl, (Option.some.inj h).symm⟩
    · rw [State.setWorker, Function.update_of_ne hw] at h
      exact .inr ⟨hw, h⟩
  refine ⟨tableInv_claim hinv.table (hpicked.known _ hpicked.picked), fun w sel' h => ?_,
    fun w id h => ?_, fun hnd w w' id h h' => ?_, fun t ht => ?_⟩
  · by_cases hw : w = worker
    · subst hw
      have h : s.setWorker w (.waiting sel.action.id) w = .selected sel' := h
      rw [State.setWorker, Function.update_self] at h
      cases h
    · have h : s.setWorker worker (.waiting sel.action.id) w = .selected sel' := h
      rw [State.setWorker, Function.update_of_ne hw] at h
      exact selectionInv_claim (hinv.selections w sel' h)
  · rcases hstage w id h with ⟨-, rfl⟩ | ⟨-, h⟩
    · exact List.mem_cons_self
    · exact List.mem_cons_of_mem _ (hinv.stageClaimed w id h)
  · -- the new claim is of a row nobody had claimed, so no other worker is on it
    obtain ⟨hnew, hnd⟩ := List.nodup_cons.mp hnd
    rcases hstage w id h with ⟨hw, hid⟩ | ⟨-, hold⟩ <;>
      rcases hstage w' id h' with ⟨hw', hid'⟩ | ⟨-, hold'⟩
    · rw [hw, hw']
    · exact absurd (hid ▸ hinv.stageClaimed w' id hold') hnew
    · exact absurd (hid' ▸ hinv.stageClaimed w id hold) hnew
    · exact hinv.stagesApart hnd w w' id hold hold'
  · rcases List.mem_cons.mp ht with rfl | ht
    · exact List.mem_cons_self
    · exact List.mem_cons_of_mem _ (hinv.threadsClaimed t ht)

variable {chat svc}

lemma inv_commitChat {s : State} (hinv : Inv s) {target : Target}
    {pending : Option ActionDispatch} {sub : ChatSubmission} {keys : NewKeys} {now : Timestamp}
    (hkey : keys.actionId ∉ s.db.actions.map key) :
    Inv { s with db := (chat.commitChat s.db target pending sub keys now).1 } := by
  cases pending with
  | none =>
    have hactions := commitChat_create_actions chat s.db target sub keys now
    refine inv_db hinv ?_ fun sel hsel => ?_ <;> rw [hactions]
    · exact tableInv_append hinv.table hkey rfl
    · exact selectionInv_append hsel hkey
  | some action =>
    have hactions := commitChat_aggregate_actions chat s.db target sub keys now action
    refine inv_db hinv ?_ fun sel hsel => ?_ <;> rw [hactions]
    · exact tableInv_update hinv.table (neverStarts_joined _ _)
    · exact selectionInv_update hsel (neverStarts_joined _ _) (.inr fun _ => rfl)

lemma inv_timeoutCommit {s : State} (hinv : Inv s) {worker : ℕ} {seen : ActionDispatch}
    (hseen : s.workers worker = .timingOut seen) {retryId : RowId} {now : Timestamp}
    (hkey : retryId ∉ s.db.actions.map key) :
    Inv { s with
      db := withActions s.db (update s.db.actions seen.id (svc.timedOut seen now) ++
        (svc.retryAction seen retryId now).toList)
      workers := s.setWorker worker .idle } := by
  have hclaimed : seen.id ∈ s.claims := hinv.stageClaimed worker seen.id (by rw [hseen]; rfl)
  have hnever := neverStarts_timedOut svc seen now
  have hkeys := map_key_update (t := s.db.actions) (k := seen.id) hnever.id
  have htable : TableInv (update s.db.actions seen.id (svc.timedOut seen now)) s.claims :=
    tableInv_update hinv.table hnever
  have hdb : Inv { s with db := withActions s.db (update s.db.actions seen.id
      (svc.timedOut seen now) ++ (svc.retryAction seen retryId now).toList) } := by
    cases hretry : svc.retryAction seen retryId now with
    | none =>
      refine inv_db hinv ?_ fun sel hsel => ?_ <;>
        simp only [withActions, Option.toList_none, List.append_nil]
      · exact htable
      · exact selectionInv_update hsel hnever (.inl hclaimed)
    | some retry =>
      obtain ⟨hid, -, -, hqueued, -⟩ := retryAction_spec hretry
      have hnew : retry.id ∉ (update s.db.actions seen.id (svc.timedOut seen now)).map key := by
        rw [hkeys, hid]
        exact hkey
      refine inv_db hinv ?_ fun sel hsel => ?_ <;>
        simp only [withActions, Option.toList_some]
      · exact tableInv_append htable hnew hqueued
      · exact selectionInv_append (selectionInv_update hsel hnever (.inl hclaimed)) hnew
  exact inv_setWorker hdb (by rintro _ ⟨⟩) (by rintro _ ⟨⟩)

lemma inv_step {s s' : State} {e : Event} (hinv : Inv s) (hs : step chat svc s e = some s') :
    Inv s' := by
  cases e with
  | commitChat target pending sub keys now =>
    simp only [step] at hs
    split at hs
    · cases hs
    · next hkey =>
      cases hs
      exact inv_commitChat hinv hkey
  | enqueueAction action =>
    simp only [step] at hs
    split at hs
    · cases hs
    · next hguard =>
      push Not at hguard
      obtain ⟨hkey, hqueued, -⟩ := hguard
      cases hs
      exact inv_db hinv (tableInv_append hinv.table hkey hqueued)
        fun sel hsel => selectionInv_append hsel hkey
  | read worker now =>
    simp only [step] at hs
    split at hs
    · split at hs
      · cases hs
        exact hinv
      · next action hread =>
        cases hs
        refine inv_setWorker hinv (fun sel hsel => ?_) (by rintro _ ⟨⟩)
        cases hsel
        exact selectionInv_read hinv.table hread
    · cases hs
  | commitClaim worker =>
    simp only [step] at hs
    split at hs
    · next sel hsel =>
      cases hs
      exact inv_commitClaim hinv hsel
    · cases hs
  | threadEnd worker actionId outcome =>
    simp only [step] at hs
    split at hs
    · next hthread =>
      cases hs
      have hclaimed := hinv.threadsClaimed _ hthread
      have hnever := neverStarts_write outcome
      have hdb : Inv { s with
          db := withActions s.db (update s.db.actions actionId outcome.write) } :=
        inv_db hinv (tableInv_update hinv.table hnever)
          fun sel hsel => selectionInv_update hsel hnever (.inl hclaimed)
      exact ⟨hdb.table, hdb.selections, hdb.stageClaimed, hdb.stagesApart,
        fun t ht => hinv.threadsClaimed t (List.mem_of_mem_erase ht)⟩
    · cases hs
  | workerReturn worker =>
    simp only [step] at hs
    split at hs
    · split at hs
      · cases hs
      · cases hs
        exact inv_setWorker hinv (by rintro _ ⟨⟩) (by rintro _ ⟨⟩)
    · cases hs
  | timeoutRead worker =>
    simp only [step] at hs
    split at hs
    · next actionId hwait =>
      split at hs
      · next row hrow =>
        split at hs
        · cases hs
          refine inv_setWorker hinv (by rintro _ ⟨⟩) fun id hid => ?_
          have hrowid : row.id = actionId := key_of_get hrow
          rw [hwait, ← hid]
          simp [Stage.actionId, hrowid]
        · cases hs
          exact inv_setWorker hinv (by rintro _ ⟨⟩) (by rintro _ ⟨⟩)
      · cases hs
        exact inv_setWorker hinv (by rintro _ ⟨⟩) (by rintro _ ⟨⟩)
    · cases hs
  | timeoutCommit worker retryId now =>
    simp only [step] at hs
    split at hs
    · next seen hseen =>
      split at hs
      · cases hs
      · next hkey =>
        cases hs
        exact inv_timeoutCommit hinv hseen hkey
    · cases hs

/-! ## Exclusion -/

/-- No two claims of one action, and one running action a target. -/
structure Apart (s : State) : Prop where
  claimedOnce : s.claims.Nodup
  oneRunning : ∀ a ∈ s.db.actions, ∀ b ∈ s.db.actions, a.status = .running →
    b.status = .running → a.target = b.target → a.id = b.id

lemma exclusive_of_apart {s : State} (hinv : Inv s) (h : Apart s) : Exclusive s := by
  refine ⟨h.claimedOnce, h.oneRunning, fun w w' a ha b hb hra hrb ht hw hw' => ?_⟩
  have hid := h.oneRunning a ha b hb hra hrb ht
  exact hinv.stagesApart h.claimedOnce w w' a.id hw (hid ▸ hw')

lemma oneRunning_update {actions : List ActionDispatch} {id : RowId}
    {f : ActionDispatch → ActionDispatch} (hf : NeverStarts f)
    (h : ∀ a ∈ actions, ∀ b ∈ actions, a.status = .running → b.status = .running →
      a.target = b.target → a.id = b.id) :
    ∀ a ∈ update actions id f, ∀ b ∈ update actions id f, a.status = .running →
      b.status = .running → a.target = b.target → a.id = b.id := by
  -- every running row of the new table comes from one of the old, with its key and target
  have hold : ∀ a ∈ update actions id f, a.status = .running →
      ∃ r ∈ actions, r.status = .running ∧ r.id = a.id ∧ r.target = a.target := by
    intro a ha hrun
    rcases mem_update.mp ha with ⟨r, hr, -, rfl⟩ | ⟨ha, -⟩
    · exact ⟨r, hr, hf.running r hrun, (hf.id r).symm, (hf.target r).symm⟩
    · exact ⟨a, ha, hrun, rfl, rfl⟩
  intro a ha b hb hra hrb ht
  obtain ⟨r, hr, hrr, hrid, hrt⟩ := hold a ha hra
  obtain ⟨q, hq, hqr, hqid, hqt⟩ := hold b hb hrb
  rw [← hrid, ← hqid]
  exact h r hr q hq hrr hqr (by rw [hrt, hqt, ht])

lemma oneRunning_append {actions : List ActionDispatch} {new : List ActionDispatch}
    (hnew : ∀ a ∈ new, a.status = .queued)
    (h : ∀ a ∈ actions, ∀ b ∈ actions, a.status = .running → b.status = .running →
      a.target = b.target → a.id = b.id) :
    ∀ a ∈ actions ++ new, ∀ b ∈ actions ++ new, a.status = .running → b.status = .running →
      a.target = b.target → a.id = b.id := by
  have hold : ∀ a ∈ actions ++ new, a.status = .running → a ∈ actions := by
    intro a ha hrun
    rcases List.mem_append.mp ha with ha | ha
    · exact ha
    · rw [hnew a ha] at hrun
      cases hrun
  intro a ha b hb hra hrb
  exact h a (hold a ha hra) b (hold b hb hrb) hra hrb

lemma apart_commitClaim {s : State} (hinv : Inv s) (h : Apart s) {worker : ℕ} {sel : Selection}
    (hsel : s.workers worker = .selected sel) (hok : StillFree s.db.actions sel) :
    Apart { db := withActions s.db
              (update s.db.actions sel.action.id (sel.action.claimed sel.readAt))
            workers := s.setWorker worker (.waiting sel.action.id)
            threads := (worker, sel.action.id) :: s.threads
            claims := sel.action.id :: s.claims } := by
  obtain ⟨hqueued, hrunning⟩ := hok
  have hsinv := hinv.selections worker sel hsel
  -- a running action of the target would be a chat action the check at the read has seen
  have hfree : ∀ b ∈ s.db.actions, b.status = .running → b.target ≠ sel.action.target := by
    intro b hb hrun ht
    obtain ⟨hchat, seen, hseen, hid, hseenrun⟩ := hrunning b hb hrun ht
    obtain ⟨hkt, hke⟩ := hsinv.kept seen hseen b hb hid.symm
    have hne : seen.id ≠ sel.action.id := by
      intro heq
      rw [hqueued b hb (hid ▸ heq)] at hrun
      cases hrun
    refine hsinv.noPrior seen hseen ⟨hkt ▸ ht, hke ▸ hchat, .inr hseenrun, hne, .inr ?_⟩
    exact hsinv.started seen hseen hseenrun
  refine ⟨List.nodup_cons.mpr ⟨fun hcl => ?_, h.claimedOnce⟩, ?_⟩
  · obtain ⟨row, hrow, hid⟩ := List.mem_map.mp (hsinv.known _ hsinv.picked)
    have hrowid : row.id = sel.action.id := hid
    exact hinv.table.claimedNotQueued row hrow (hrowid ▸ hcl) (hqueued row hrow hrowid)
  · have hnew : ∀ a ∈ update s.db.actions sel.action.id (sel.action.claimed sel.readAt),
        a.status = .running → (a.id = sel.action.id ∧ a.target = sel.action.target) ∨
          (a ∈ s.db.actions ∧ a.target ≠ sel.action.target) := by
      intro a ha hrun
      rcases mem_update.mp ha with ⟨r, hr, hk, rfl⟩ | ⟨ha, -⟩
      · exact .inl ⟨hk, (hsinv.kept _ hsinv.picked r hr hk).1⟩
      · exact .inr ⟨ha, hfree a ha hrun⟩
    intro a ha b hb hra hrb ht
    rcases hnew a ha hra with ⟨hida, hta⟩ | ⟨ha, hta⟩ <;>
      rcases hnew b hb hrb with ⟨hidb, htb⟩ | ⟨hb, htb⟩
    · rw [hida, hidb]
    · exact absurd (ht.symm.trans hta) htb
    · exact absurd (ht.trans htb) hta
    · exact h.oneRunning a ha b hb hra hrb ht

lemma apart_step {s s' : State} {e : Event} (hinv : Inv s) (h : Apart s) (hok : Undisturbed s e)
    (hs : step chat svc s e = some s') : Apart s' := by
  cases e with
  | commitChat target pending sub keys now =>
    simp only [step] at hs
    split at hs
    · cases hs
    · cases hs
      refine ⟨h.claimedOnce, ?_⟩
      cases pending with
      | none =>
        rw [commitChat_create_actions]
        exact oneRunning_append (by simp [commitChat_create_status]) h.oneRunning
      | some action =>
        rw [commitChat_aggregate_actions]
        exact oneRunning_update (neverStarts_joined _ _) h.oneRunning
  | enqueueAction action =>
    simp only [step] at hs
    split at hs
    · cases hs
    · next hguard =>
      push Not at hguard
      cases hs
      exact ⟨h.claimedOnce, oneRunning_append (by simpa using hguard.2.1) h.oneRunning⟩
  | read worker now =>
    simp only [step] at hs
    split at hs
    · split at hs <;> cases hs <;> exact ⟨h.claimedOnce, h.oneRunning⟩
    · cases hs
  | commitClaim worker =>
    simp only [step] at hs
    split at hs
    · next sel hsel =>
      cases hs
      exact apart_commitClaim hinv h hsel (hok sel (by rw [hsel]; rfl))
    · cases hs
  | threadEnd worker actionId outcome =>
    simp only [step] at hs
    split at hs
    · cases hs
      exact ⟨h.claimedOnce, oneRunning_update (neverStarts_write outcome) h.oneRunning⟩
    · cases hs
  | workerReturn worker =>
    simp only [step] at hs
    split at hs
    · split at hs
      · cases hs
      · cases hs
        exact ⟨h.claimedOnce, h.oneRunning⟩
    · cases hs
  | timeoutRead worker =>
    simp only [step] at hs
    split at hs
    · split at hs
      · split at hs <;> cases hs <;> exact ⟨h.claimedOnce, h.oneRunning⟩
      · cases hs
        exact ⟨h.claimedOnce, h.oneRunning⟩
    · cases hs
  | timeoutCommit worker retryId now =>
    simp only [step] at hs
    split at hs
    · split at hs
      · cases hs
      · cases hs
        refine ⟨h.claimedOnce, oneRunning_append ?_
          (oneRunning_update (neverStarts_timedOut ..) h.oneRunning)⟩
        intro a ha
        exact (retryAction_spec (Option.mem_toList.mp ha)).2.2.2.1
    · cases hs

lemma undisturbed_of_step {s s' : State} {e : Event} (hinv : Inv s)
    (hs : step chat svc s e = some s') (h' : Exclusive s') : Undisturbed s e := by
  cases e with
  | commitClaim worker =>
    simp only [step] at hs
    split at hs
    · next sel hsel =>
      cases hs
      have hsinv := hinv.selections worker sel hsel
      have hnew : sel.action.id ∉ s.claims := (List.nodup_cons.mp h'.claimedOnce).1
      intro sel' hsel'
      rw [hsel] at hsel'
      cases hsel'
      have hqueued : ∀ row ∈ s.db.actions, row.id = sel.action.id → row.status = .queued := by
        intro row hrow hid
        rcases hsinv.queuedOrClaimed row hrow hid with hq | hcl
        · exact hq
        · exact absurd (hid ▸ hcl) hnew
      refine ⟨hqueued, fun row hrow hrun ht => ?_⟩
      -- the claimed row and a running row of its target would both be running
      obtain ⟨r, hr, hk⟩ := List.mem_map.mp (hsinv.known _ hsinv.picked)
      have hrid : r.id = sel.action.id := hk
      have hne : row.id ≠ sel.action.id := by
        intro heq
        rw [hqueued row hrow heq] at hrun
        cases hrun
      refine absurd ?_ hne
      have hrt := (hsinv.kept _ hsinv.picked r hr hrid).1
      have hclaimed := h'.oneRunning row (mem_update.mpr (.inr ⟨hrow, hne⟩))
        (sel.action.claimed sel.readAt r) (mem_update.mpr (.inl ⟨r, hr, hk, rfl⟩)) hrun rfl
        (ht.trans hrt.symm)
      rw [hclaimed]
      exact hrid
    · cases hs
  | commitChat => trivial
  | enqueueAction => trivial
  | read => trivial
  | threadEnd => trivial
  | workerReturn => trivial
  | timeoutRead => trivial
  | timeoutCommit => trivial

/-- In a run of any number of workers, no action is claimed twice and no target has two running
actions exactly when every claim is undisturbed. -/
theorem exclusive_iff_undisturbed (chat : MessageDispatchService)
    (svc : ChatDispatchWorkerService) {s₀ s : State} {es : List Event} (h0 : Initial s₀)
    (hrun : run (step chat svc) s₀ es = some s) :
    AllStates (step chat svc) Exclusive s₀ es ↔ StepsMeet (step chat svc) Undisturbed s₀ es := by
  have hinv := inv_of_initial h0
  constructor
  · exact stepsMeet_of_allStates Inv (fun _ _ _ => inv_step)
      (fun _ _ _ hi _ hs h' => undisturbed_of_step hi hs h') hinv hrun
  · refine allStates_of_stepsMeet (fun s => Inv s ∧ Apart s) ?_ ?_ ⟨hinv, ?_⟩
    · rintro s e s' ⟨hi, h⟩ hok hs
      exact ⟨inv_step hi hs, apart_step hi h hok hs⟩
    · rintro s ⟨hi, h⟩
      exact exclusive_of_apart hi h
    · refine ⟨by simp [h0.claims], fun a ha _ _ hrun => absurd hrun (h0.notRunning a ha)⟩

/-- One queued chat action. -/
def oneQueued : State where
  db := { actions := [{ id := "a1", target := .cocoon "c1", eventType := .chat, queuedAt := 0 }] }

lemma initial_oneQueued : Initial oneQueued :=
  ⟨by decide, by decide, fun _ => rfl, rfl, rfl⟩

/-- Two workers read the queued action before either of them commits; both claim it. -/
theorem oneQueued_claimed_twice :
    Initial oneQueued ∧
      ¬ AllStates (step { sha256Hex := fun text => text } {}) Exclusive oneQueued
        [.read 0 1, .read 1 1, .commitClaim 0, .commitClaim 1] :=
  ⟨initial_oneQueued, fun h => absurd (h.last rfl).claimedOnce (by decide)⟩

/-- The second worker reads after the first has committed, and finds nothing to do. -/
theorem oneQueued_claimed_once :
    AllStates (step { sha256Hex := fun text => text } {}) Exclusive oneQueued
      [.read 0 1, .commitClaim 0, .read 1 2, .threadEnd 0 "a1" (.completed 3), .workerReturn 0] :=
  (exclusive_iff_undisturbed _ _ initial_oneQueued rfl).mpr (by decide)

end ChatWorkers

end CocoonSit
