import CocoonSit.Dispatch.Workers
import CocoonSit.Lib.Served

/-!
# User messages and the runs that see them

Enqueue calls against one worker.  A call reads in one step, in particular the pending chat action
it will join, and writes in a later one: the message, and either a new action or the debounce time
and the payload of the action it read.  A run sees the messages committed before its thread reads
the action; a message is looked after as long as an action of its target is still to run.
-/

namespace CocoonSit

open Table TransitionSystem Served

namespace Coverage

open ChatWorkers (Stage Selection withActions)

/-- An enqueue call between its reads and its commit. -/
structure Call where
  target : Target
  sub : ChatSubmission
  pending : Option ActionDispatch

/-- A runtime thread that has not ended. -/
structure Thread where
  actionId : RowId
  started : Bool
deriving DecidableEq, Repr

/-- A committed message, or the start of a run, of a target. -/
abbrev Mark := Served.Mark RowId RowId Target

structure State where
  db : Db
  calls : ℕ → Option Call := fun _ => none
  worker : Stage := .idle
  threads : List Thread := []
  history : List Mark := []

inductive Event where
  /-- The reads of `enqueue_chat_message` or `enqueue_chat_group_message`. -/
  | enqueueRead (call : ℕ) (target : Target) (sub : ChatSubmission)
  /-- The call writes and commits. -/
  | enqueueCommit (call : ℕ) (keys : NewKeys) (now : Timestamp)
  /-- An edit or a retry is enqueued. -/
  | enqueueAction (action : ActionDispatch)
  /-- The worker selects an action. -/
  | workerRead (now : Timestamp)
  /-- It commits the claim and submits the thread. -/
  | workerCommit
  /-- The thread of an action reads it. -/
  | runStart (actionId : RowId)
  /-- The run ends. -/
  | runEnd (actionId : RowId) (outcome : RoundOutcome)
  /-- The worker sees the thread's result. -/
  | workerReturn
  /-- The worker stops waiting; the handler reads the action. -/
  | timeoutRead
  /-- The handler commits the failure, and the retry if attempts remain. -/
  | timeoutCommit (retryId : RowId) (now : Timestamp)

/-- The insert of a call's message violates the unique `client_request_id`. -/
def Refused (db : Db) (sub : ChatSubmission) : Prop :=
  ∃ m ∈ db.messages, m.clientRequestId = some sub.clientRequestId

instance (db : Db) (sub : ChatSubmission) : Decidable (Refused db sub) :=
  inferInstanceAs (Decidable (∃ m ∈ db.messages, _))

variable (chat : MessageDispatchService) (svc : ChatDispatchWorkerService)

def step (s : State) : Event → Option State
  | .enqueueRead call target sub =>
    match s.calls call, chat.planChat s.db target sub with
    | some _, _ => none
    | none, .ok (.aggregate pending) => some { s with
        calls := Function.update s.calls call (some ⟨target, sub, some pending⟩) }
    | none, .ok .create => some { s with
        calls := Function.update s.calls call (some ⟨target, sub, none⟩) }
    -- an unknown target, or a request id that has an action: no message
    | none, _ => some s
  | .enqueueCommit call keys now =>
    match s.calls call with
    | none => none
    | some c =>
      if keys.actionId ∈ s.db.actions.map key then none
      else if Refused s.db c.sub then
        some { s with calls := Function.update s.calls call none }
      else some { s with
        db := (chat.commitChat s.db c.target c.pending c.sub keys now).1
        calls := Function.update s.calls call none
        history := .arrived keys.messageId c.target :: s.history }
  | .enqueueAction action =>
    if action.id ∈ s.db.actions.map key ∨ action.status ≠ .queued then none
    else some { s with db := withActions s.db (s.db.actions ++ [action]) }
  | .workerRead now =>
    match s.worker with
    | .idle =>
      match nextReadyAction s.db.actions now with
      | none => some s
      | some action => some { s with worker := .selected ⟨s.db.actions, action, now⟩ }
    | _ => none
  | .workerCommit =>
    match s.worker with
    | .selected sel => some { s with
        db := withActions s.db
          (update s.db.actions sel.action.id (sel.action.claimed sel.readAt))
        worker := .waiting sel.action.id
        threads := ⟨sel.action.id, false⟩ :: s.threads }
    | _ => none
  | .runStart actionId =>
    if ⟨actionId, false⟩ ∈ s.threads then
      match get s.db.actions actionId with
      | some row =>
        if row.status = .running then some { s with
          threads := ⟨actionId, true⟩ :: s.threads.erase ⟨actionId, false⟩
          history := .served actionId row.target :: s.history }
        else some { s with threads := s.threads.erase ⟨actionId, false⟩ }
      | none => some { s with threads := s.threads.erase ⟨actionId, false⟩ }
    else none
  | .runEnd actionId outcome =>
    if ⟨actionId, true⟩ ∈ s.threads then some { s with
      db := withActions s.db (update s.db.actions actionId outcome.write)
      threads := s.threads.erase ⟨actionId, true⟩ }
    else none
  | .workerReturn =>
    match s.worker with
    | .waiting actionId =>
      if actionId ∈ s.threads.map Thread.actionId then none
      else some { s with worker := .idle }
    | _ => none
  | .timeoutRead =>
    match s.worker with
    | .waiting actionId =>
      match get s.db.actions actionId with
      | some row =>
        if row.status = .running then some { s with worker := .timingOut row }
        else some { s with worker := .idle }
      | none => some { s with worker := .idle }
    | _ => none
  | .timeoutCommit retryId now =>
    match s.worker with
    | .timingOut seen =>
      if retryId ∈ s.db.actions.map key then none
      else some { s with
        db := withActions s.db
          (update s.db.actions seen.id (svc.timedOut seen now) ++
            (svc.retryAction seen retryId now).toList)
        worker := .idle }
    | _ => none

/-- Actions under distinct keys; nobody has begun. -/
structure Initial (s : State) : Prop where
  keys : (s.db.actions.map key).Nodup
  calls : ∀ call, s.calls call = none
  worker : s.worker = .idle
  threads : s.threads = []
  history : s.history = []

/-- The action is still to run: queued, or claimed with a thread that has not read it. -/
def ToRun (s : State) (a : ActionDispatch) : Prop :=
  a.status = .queued ∨ (a.status = .running ∧ ⟨a.id, false⟩ ∈ s.threads)

/-- An action of the target is still to run. -/
def Scheduled (s : State) (target : Target) : Prop :=
  ∃ a ∈ s.db.actions, a.target = target ∧ ToRun s a

/-- Every committed user message is seen by a run that starts later, or such a run is scheduled. -/
def Covered (s : State) : Prop :=
  ∀ after messageId target before,
    s.history = after ++ .arrived messageId target :: before →
    (∃ actionId, .served actionId target ∈ after) ∨ Scheduled s target

/-- A call that joins an action, and whose message is not refused, finds its target with an action
still to run; and a last timeout leaves no message without one. -/
def StillScheduled (s : State) : Event → Prop
  | .enqueueCommit call _ _ => ∀ c ∈ s.calls call, c.pending.isSome → ¬ Refused s.db c.sub →
      Scheduled s c.target
  | .timeoutCommit retryId now => ∀ seen ∈ s.worker.seen,
      (svc.retryAction seen retryId now).isNone → Awaits seen.target s.history →
      ∃ a ∈ s.db.actions, a.id ≠ seen.id ∧ a.target = seen.target ∧ ToRun s a
  | _ => True

instance (s : State) (a : ActionDispatch) : Decidable (ToRun s a) :=
  inferInstanceAs (Decidable (_ ∨ _ ∧ _))

instance (s : State) (target : Target) : Decidable (Scheduled s target) :=
  inferInstanceAs (Decidable (∃ a ∈ s.db.actions, _))

instance (s : State) : ∀ e, Decidable (StillScheduled svc s e)
  | .enqueueCommit call _ _ => inferInstanceAs
      (Decidable (∀ c ∈ s.calls call, c.pending.isSome → ¬ Refused s.db c.sub →
        Scheduled s c.target))
  | .timeoutCommit retryId now => inferInstanceAs
      (Decidable (∀ seen ∈ s.worker.seen,
        (svc.retryAction seen retryId now).isNone → Awaits seen.target s.history →
        ∃ a ∈ s.db.actions, a.id ≠ seen.id ∧ a.target = seen.target ∧ ToRun s a))
  | .enqueueRead .. => .isTrue trivial
  | .enqueueAction .. => .isTrue trivial
  | .workerRead .. => .isTrue trivial
  | .workerCommit => .isTrue trivial
  | .runStart .. => .isTrue trivial
  | .runEnd .. => .isTrue trivial
  | .workerReturn => .isTrue trivial
  | .timeoutRead => .isTrue trivial

variable {chat svc}

/-! ## The invariant -/

/-- What every step keeps: one thread an action, and none of a queued one; the selected action is
queued; the action that times out is not, and has the target that was read. -/
structure Inv (s : State) : Prop where
  keys : (s.db.actions.map key).Nodup
  threadsOnce : (s.threads.map Thread.actionId).Nodup
  threadsKnown : ∀ t ∈ s.threads, t.actionId ∈ s.db.actions.map key
  threadsClaimed : ∀ t ∈ s.threads, ∀ a ∈ s.db.actions, a.id = t.actionId → a.status ≠ .queued
  selected : ∀ sel, s.worker = .selected sel →
    ∃ a ∈ s.db.actions, a.id = sel.action.id ∧ a.status = .queued
  timingOut : ∀ seen, s.worker = .timingOut seen →
    ∃ a ∈ s.db.actions, a.id = seen.id ∧ a.target = seen.target ∧ a.status ≠ .queued

lemma inv_of_initial {s : State} (h : Initial s) : Inv s := by
  refine ⟨h.keys, ?_, ?_, ?_, ?_, ?_⟩
  · simp [h.threads]
  · simp [h.threads]
  · simp [h.threads]
  · simp [h.worker]
  · simp [h.worker]

lemma Inv.eq_of_id {s : State} (hinv : Inv s) {a b : ActionDispatch} (ha : a ∈ s.db.actions)
    (hb : b ∈ s.db.actions) (hid : a.id = b.id) : a = b :=
  List.inj_on_of_nodup_map hinv.keys ha hb hid

lemma inv_update {s : State} (hinv : Inv s) {id : RowId} {f : ActionDispatch → ActionDispatch}
    (hf : NeverStarts f) (hstatus : (∀ row, (f row).status = row.status) ∨
      ∀ a ∈ s.db.actions, a.id = id → a.status ≠ .queued) {db : Db}
    (hdb : db.actions = update s.db.actions id f) : Inv { s with db := db } := by
  have hkeys : db.actions.map key = s.db.actions.map key := by
    rw [hdb]
    exact map_key_update hf.id
  refine ⟨?_, hinv.threadsOnce, fun t ht => ?_, fun t ht a ha hid => ?_, fun sel hsel => ?_,
    fun seen hseen => ?_⟩
  · exact hkeys ▸ hinv.keys
  · exact hkeys ▸ hinv.threadsKnown t ht
  · have ha : a ∈ update s.db.actions id f := hdb ▸ ha
    rcases mem_update.mp ha with ⟨r, hr, -, rfl⟩ | ⟨ha, -⟩
    · exact fun hq => hinv.threadsClaimed t ht r hr ((hf.id r).symm.trans hid) (hf.queued r hq)
    · exact hinv.threadsClaimed t ht a ha hid
  · obtain ⟨a, ha, hid, hq⟩ := hinv.selected sel hsel
    by_cases hk : a.id = id
    · refine ⟨f a, hdb ▸ mem_update.mpr (.inl ⟨a, ha, hk, rfl⟩), (hf.id a).trans hid, ?_⟩
      rcases hstatus with hkeep | hnq
      · rw [hkeep, hq]
      · exact absurd hq (hnq a ha hk)
    · exact ⟨a, hdb ▸ mem_update.mpr (.inr ⟨ha, hk⟩), hid, hq⟩
  · obtain ⟨a, ha, hid, htarget, hnq⟩ := hinv.timingOut seen hseen
    by_cases hk : a.id = id
    · exact ⟨f a, hdb ▸ mem_update.mpr (.inl ⟨a, ha, hk, rfl⟩), (hf.id a).trans hid,
        (hf.target a).trans htarget, fun hq => hnq (hf.queued a hq)⟩
    · exact ⟨a, hdb ▸ mem_update.mpr (.inr ⟨ha, hk⟩), hid, htarget, hnq⟩

lemma inv_append {s : State} (hinv : Inv s) {action : ActionDispatch}
    (hnew : action.id ∉ s.db.actions.map key) {db : Db}
    (hdb : db.actions = s.db.actions ++ [action]) : Inv { s with db := db } := by
  have hold : ∀ a ∈ s.db.actions, a ∈ db.actions := fun a ha => hdb ▸ List.mem_append_left _ ha
  refine ⟨?_, hinv.threadsOnce, fun t ht => ?_, fun t ht a ha hid => ?_, fun sel hsel => ?_,
    fun seen hseen => ?_⟩
  · show (db.actions.map key).Nodup
    rw [hdb, List.map_append]
    exact hinv.keys.append (by simp) (by simpa using hnew)
  · show t.actionId ∈ db.actions.map key
    rw [hdb, List.map_append]
    exact List.mem_append_left _ (hinv.threadsKnown t ht)
  · have ha : a ∈ s.db.actions ++ [action] := hdb ▸ ha
    rcases List.mem_append.mp ha with ha | ha
    · exact hinv.threadsClaimed t ht a ha hid
    · rw [List.mem_singleton.mp ha] at hid
      exact absurd (hid ▸ hinv.threadsKnown t ht) hnew
  · obtain ⟨a, ha, h⟩ := hinv.selected sel hsel
    exact ⟨a, hold a ha, h⟩
  · obtain ⟨a, ha, h⟩ := hinv.timingOut seen hseen
    exact ⟨a, hold a ha, h⟩

lemma inv_worker (stage : Stage) {s : State} (hinv : Inv s)
    (hsel : ∀ sel, stage ≠ .selected sel) (hout : ∀ seen, stage ≠ .timingOut seen) :
    Inv { s with worker := stage } :=
  ⟨hinv.keys, hinv.threadsOnce, hinv.threadsKnown, hinv.threadsClaimed,
    fun sel h => absurd h (hsel sel), fun seen h => absurd h (hout seen)⟩

lemma inv_erase {s : State} (hinv : Inv s) (thread : Thread) :
    Inv { s with threads := s.threads.erase thread } :=
  ⟨hinv.keys, hinv.threadsOnce.sublist ((List.erase_sublist).map _),
    fun t ht => hinv.threadsKnown t (List.mem_of_mem_erase ht),
    fun t ht => hinv.threadsClaimed t (List.mem_of_mem_erase ht), hinv.selected, hinv.timingOut⟩

lemma inv_started {s : State} (hinv : Inv s) {actionId : RowId}
    (hthread : ⟨actionId, false⟩ ∈ s.threads) :
    Inv { s with threads := ⟨actionId, true⟩ :: s.threads.erase ⟨actionId, false⟩ } := by
  have hmem : ∀ t ∈ (⟨actionId, true⟩ : Thread) :: s.threads.erase ⟨actionId, false⟩,
      ∃ t' ∈ s.threads, t'.actionId = t.actionId := by
    intro t ht
    rcases List.mem_cons.mp ht with rfl | ht
    · exact ⟨_, hthread, rfl⟩
    · exact ⟨t, List.mem_of_mem_erase ht, rfl⟩
  refine ⟨hinv.keys, ?_, fun t ht => ?_, fun t ht => ?_, hinv.selected, hinv.timingOut⟩
  · exact ((List.perm_cons_erase hthread).map Thread.actionId).nodup_iff.mp hinv.threadsOnce
  · obtain ⟨t', ht', hid⟩ := hmem t ht
    exact hid ▸ hinv.threadsKnown t' ht'
  · obtain ⟨t', ht', hid⟩ := hmem t ht
    exact hid ▸ hinv.threadsClaimed t' ht'

lemma inv_workerCommit {s : State} (hinv : Inv s) {sel : Selection}
    (hsel : s.worker = .selected sel) :
    Inv { s with
      db := withActions s.db (update s.db.actions sel.action.id (sel.action.claimed sel.readAt))
      worker := .waiting sel.action.id
      threads := ⟨sel.action.id, false⟩ :: s.threads } := by
  obtain ⟨a, ha, hid, hq⟩ := hinv.selected sel hsel
  have hkeys := map_key_update (t := s.db.actions) (k := sel.action.id)
    (f := sel.action.claimed sel.readAt) fun _ => rfl
  have hknown : sel.action.id ∈ s.db.actions.map key := hid ▸ List.mem_map_of_mem ha
  refine ⟨hkeys ▸ hinv.keys, List.nodup_cons.mpr ⟨fun h => ?_, hinv.threadsOnce⟩,
    fun t ht => hkeys ▸ ?_, fun t ht b hb hbt => ?_, by simp, by simp⟩
  · obtain ⟨t, ht, htid⟩ := List.mem_map.mp h
    exact hinv.threadsClaimed t ht a ha (hid.trans htid.symm) hq
  · rcases List.mem_cons.mp ht with rfl | ht
    · exact hknown
    · exact hinv.threadsKnown t ht
  · rcases mem_update.mp hb with ⟨r, hr, -, rfl⟩ | ⟨hb, hne⟩
    · simp
    · rcases List.mem_cons.mp ht with rfl | ht
      · exact absurd hbt hne
      · exact hinv.threadsClaimed t ht b hb hbt

lemma inv_commitChat (chat : MessageDispatchService) (target : Target)
    (pending : Option ActionDispatch)
    (sub : ChatSubmission) (now : Timestamp) {s : State} (hinv : Inv s) {keys : NewKeys}
    (hnew : keys.actionId ∉ s.db.actions.map key) :
    Inv { s with db := (chat.commitChat s.db target pending sub keys now).1 } := by
  cases pending with
  | none =>
    exact inv_append hinv (by rw [commitChat_create_id]; exact hnew)
      (commitChat_create_actions chat s.db target sub keys now)
  | some action =>
    exact inv_update hinv (neverStarts_joined _ _) (.inl fun _ => rfl)
      (commitChat_aggregate_actions chat s.db target sub keys now action)

lemma inv_timeoutCommit {s : State} (hinv : Inv s) {seen : ActionDispatch} {retryId : RowId}
    {now : Timestamp} (hseen : s.worker = .timingOut seen)
    (hnew : retryId ∉ s.db.actions.map key) :
    Inv { s with
      db := withActions s.db (update s.db.actions seen.id (svc.timedOut seen now) ++
        (svc.retryAction seen retryId now).toList)
      worker := .idle } := by
  obtain ⟨a, ha, hid, -, hnq⟩ := hinv.timingOut seen hseen
  have hf := neverStarts_timedOut svc seen now
  have hfailed : Inv { s with
      db := withActions s.db (update s.db.actions seen.id (svc.timedOut seen now)) } := by
    refine inv_update hinv hf (.inr fun b hb hbid => ?_) rfl
    rwa [hinv.eq_of_id hb ha (hbid.trans hid.symm)]
  have hidle := inv_worker .idle hfailed (by simp) (by simp)
  cases hretry : svc.retryAction seen retryId now with
  | none =>
    rw [Option.toList_none, List.append_nil]
    exact hidle
  | some retry =>
    have hkeys := map_key_update (t := s.db.actions) (k := seen.id) hf.id
    refine inv_append hidle ?_ rfl
    rw [(retryAction_spec hretry).1]
    exact hkeys ▸ hnew

lemma inv_step {s s' : State} {e : Event} (hinv : Inv s) (hs : step chat svc s e = some s') :
    Inv s' := by
  cases e with
  | enqueueRead call target sub =>
    simp only [step] at hs
    split at hs <;> cases hs
    · exact ⟨hinv.1, hinv.2, hinv.3, hinv.4, hinv.5, hinv.6⟩
    · exact ⟨hinv.1, hinv.2, hinv.3, hinv.4, hinv.5, hinv.6⟩
    · exact hinv
  | enqueueCommit call keys now =>
    simp only [step] at hs
    split at hs
    · cases hs
    · split at hs
      · cases hs
      · next c hc hnew =>
        split at hs <;> cases hs
        · exact ⟨hinv.1, hinv.2, hinv.3, hinv.4, hinv.5, hinv.6⟩
        · have h := inv_commitChat chat c.target c.pending c.sub now hinv hnew
          exact ⟨h.1, h.2, h.3, h.4, h.5, h.6⟩
  | enqueueAction action =>
    simp only [step] at hs
    split at hs
    · cases hs
    · next hguard =>
      push Not at hguard
      cases hs
      exact inv_append hinv hguard.1 rfl
  | workerRead now =>
    simp only [step] at hs
    split at hs
    · split at hs
      · cases hs
        exact hinv
      · next action hread =>
        cases hs
        obtain ⟨hmem, hq, -⟩ := nextReadyAction_spec hread
        refine ⟨hinv.1, hinv.2, hinv.3, hinv.4, fun sel hsel => ?_, by simp⟩
        cases hsel
        exact ⟨action, hmem, rfl, hq⟩
    · cases hs
  | workerCommit =>
    simp only [step] at hs
    split at hs
    · next sel hsel =>
      cases hs
      exact inv_workerCommit hinv hsel
    · cases hs
  | runStart actionId =>
    simp only [step] at hs
    split at hs
    · next hthread =>
      split at hs
      · split at hs
        · cases hs
          have h := inv_started hinv hthread
          exact ⟨h.1, h.2, h.3, h.4, h.5, h.6⟩
        · cases hs
          exact inv_erase hinv _
      · cases hs
        exact inv_erase hinv _
    · cases hs
  | runEnd actionId outcome =>
    simp only [step] at hs
    split at hs
    · next hthread =>
      cases hs
      refine inv_erase (s := { s with
        db := withActions s.db (update s.db.actions actionId outcome.write) }) ?_ _
      exact inv_update hinv (neverStarts_write outcome)
        (.inr fun a ha hid => hinv.threadsClaimed _ hthread a ha hid) rfl
    · cases hs
  | workerReturn =>
    simp only [step] at hs
    split at hs
    · split at hs
      · cases hs
      · cases hs
        exact inv_worker _ hinv (by simp) (by simp)
    · cases hs
  | timeoutRead =>
    simp only [step] at hs
    split at hs
    · split at hs
      · next row hrow =>
        split at hs
        · next hrun =>
          cases hs
          refine ⟨hinv.1, hinv.2, hinv.3, hinv.4, by simp, fun seen hseen => ?_⟩
          cases hseen
          exact ⟨row, mem_of_get hrow, rfl, rfl, by simp [hrun]⟩
        · cases hs
          exact inv_worker _ hinv (by simp) (by simp)
      · cases hs
        exact inv_worker _ hinv (by simp) (by simp)
    · cases hs
  | timeoutCommit retryId now =>
    simp only [step] at hs
    split at hs
    · next seen hseen =>
      split at hs
      · cases hs
      · next hnew =>
        cases hs
        exact inv_timeoutCommit hinv hseen hnew
    · cases hs

/-! ## Coverage -/

lemma covered_iff {s : State} :
    Covered s ↔ ∀ target, Awaits target s.history → Scheduled s target :=
  served_or_iff (P := Scheduled s)

lemma covered_mono {s s' : State} (h : Covered s)
    (hhist : ∀ target, Awaits target s'.history → Awaits target s.history)
    (hsched : ∀ target, Awaits target s'.history → Scheduled s target → Scheduled s' target) :
    Covered s' :=
  covered_iff.mpr fun target hw => hsched target hw (covered_iff.mp h target (hhist target hw))

lemma scheduled_of_ne {s : State} {db : Db} {threads : List Thread} {id : RowId}
    {f : ActionDispatch → ActionDispatch} {a : ActionDispatch} (ha : a ∈ s.db.actions)
    (hne : a.id ≠ id) (hrun : ToRun s a)
    (hthreads : ⟨a.id, false⟩ ∈ s.threads → ⟨a.id, false⟩ ∈ threads)
    (hdb : ∀ b ∈ update s.db.actions id f, b ∈ db.actions) {s' : State} (hs : s'.db = db)
    (ht : s'.threads = threads) : Scheduled s' a.target := by
  refine ⟨a, hs ▸ hdb a (mem_update.mpr (.inr ⟨ha, hne⟩)), rfl, ?_⟩
  exact hrun.imp (fun hq => hq) fun h => ⟨h.1, ht ▸ hthreads h.2⟩

lemma scheduled_commitChat_join {s : State} {target : Target} {action : ActionDispatch}
    {sub : ChatSubmission} {keys : NewKeys} {now : Timestamp} {calls : ℕ → Option Call}
    {history : List Mark} (t : Target) :
    Scheduled { s with
        db := (chat.commitChat s.db target (some action) sub keys now).1
        calls := calls
        history := history } t ↔ Scheduled s t := by
  simp only [Scheduled, commitChat_aggregate_actions]
  constructor
  · rintro ⟨a, ha, hat, hrun⟩
    rcases mem_update.mp ha with ⟨r, hr, -, rfl⟩ | ⟨ha, -⟩
    · exact ⟨r, hr, hat, hrun⟩
    · exact ⟨a, ha, hat, hrun⟩
  · rintro ⟨a, ha, hat, hrun⟩
    by_cases hk : a.id = action.id
    · exact ⟨_, mem_update.mpr (.inl ⟨a, ha, hk, rfl⟩), hat, hrun⟩
    · exact ⟨a, mem_update.mpr (.inr ⟨ha, hk⟩), hat, hrun⟩

lemma covered_commitChat {s : State} (h : Covered s) {target : Target}
    {pending : Option ActionDispatch} {sub : ChatSubmission} {keys : NewKeys} {now : Timestamp}
    {calls : ℕ → Option Call} (hok : pending.isSome → Scheduled s target) :
    Covered { s with
      db := (chat.commitChat s.db target pending sub keys now).1
      calls := calls
      history := .arrived keys.messageId target :: s.history } := by
  rw [covered_iff] at h ⊢
  intro t hw
  cases pending with
  | none =>
    have hactions := commitChat_create_actions chat s.db target sub keys now
    rcases hw with rfl | hw
    · refine ⟨(chat.commitChat s.db target none sub keys now).2, ?_, rfl, .inl rfl⟩
      show _ ∈ (chat.commitChat s.db target none sub keys now).1.actions
      rw [hactions]
      exact List.mem_append_right _ (List.mem_singleton.mpr rfl)
    · obtain ⟨a, ha, hat, hrun⟩ := h t hw
      refine ⟨a, ?_, hat, hrun⟩
      show a ∈ (chat.commitChat s.db target none sub keys now).1.actions
      rw [hactions]
      exact List.mem_append_left _ ha
  | some action =>
    rw [scheduled_commitChat_join]
    rcases hw with rfl | hw
    · exact hok rfl
    · exact h t hw

lemma covered_workerCommit {s : State} (h : Covered s) {sel : Selection} :
    Covered { s with
      db := withActions s.db (update s.db.actions sel.action.id (sel.action.claimed sel.readAt))
      worker := .waiting sel.action.id
      threads := ⟨sel.action.id, false⟩ :: s.threads } := by
  refine covered_mono h (fun _ hw => hw) fun t _ hsched => ?_
  obtain ⟨a, ha, rfl, hrun⟩ := hsched
  by_cases hk : a.id = sel.action.id
  · refine ⟨sel.action.claimed sel.readAt a, mem_update.mpr (.inl ⟨a, ha, hk, rfl⟩), rfl, .inr ?_⟩
    exact ⟨rfl, List.mem_cons.mpr (.inl (by simp [hk]))⟩
  · exact scheduled_of_ne ha hk hrun (List.mem_cons_of_mem _) (fun _ hb => hb) rfl rfl

lemma covered_runStart {s : State} (hinv : Inv s) (h : Covered s) {actionId : RowId}
    {row : ActionDispatch} (hrow : get s.db.actions actionId = some row) :
    Covered { s with
      threads := ⟨actionId, true⟩ :: s.threads.erase ⟨actionId, false⟩
      history := .served actionId row.target :: s.history } := by
  refine covered_mono h (fun _ hw => hw.2) fun t hw hsched => ?_
  obtain ⟨a, ha, rfl, hrun⟩ := hsched
  have hne : a.id ≠ actionId := by
    intro hid
    have hkey : row.id = actionId := key_of_get hrow
    exact hw.1 (by rw [hinv.eq_of_id ha (mem_of_get hrow) (hid.trans hkey.symm)])
  refine ⟨a, ha, rfl, hrun.imp id fun hrun => ⟨hrun.1, List.mem_cons_of_mem _ ?_⟩⟩
  exact (List.mem_erase_of_ne (by simpa using hne)).mpr hrun.2

lemma covered_runAborted {s : State} (h : Covered s) {actionId : RowId}
    (hrow : ∀ a ∈ s.db.actions, a.id = actionId → a.status ≠ .running) :
    Covered { s with threads := s.threads.erase ⟨actionId, false⟩ } := by
  refine covered_mono h (fun _ hw => hw) fun t _ hsched => ?_
  obtain ⟨a, ha, rfl, hrun⟩ := hsched
  refine ⟨a, ha, rfl, hrun.imp id fun hrun => ⟨hrun.1, ?_⟩⟩
  have hne : a.id ≠ actionId := fun hid => hrow a ha hid hrun.1
  exact (List.mem_erase_of_ne (by simpa using hne)).mpr hrun.2

lemma covered_runEnd {s : State} (hinv : Inv s) (h : Covered s) {actionId : RowId}
    (hthread : ⟨actionId, true⟩ ∈ s.threads) (outcome : RoundOutcome) :
    Covered { s with
      db := withActions s.db (update s.db.actions actionId outcome.write)
      threads := s.threads.erase ⟨actionId, true⟩ } := by
  refine covered_mono h (fun _ hw => hw) fun t _ hsched => ?_
  obtain ⟨a, ha, rfl, hrun⟩ := hsched
  have hne : a.id ≠ actionId := by
    rintro rfl
    rcases hrun with hq | ⟨-, hunstarted⟩
    · exact hinv.threadsClaimed _ hthread a ha rfl hq
    · cases List.inj_on_of_nodup_map hinv.threadsOnce hunstarted hthread rfl
  exact scheduled_of_ne ha hne hrun (List.mem_erase_of_ne (by simp)).mpr (fun _ hb => hb) rfl rfl

lemma covered_timeoutCommit {s : State} (hinv : Inv s) (h : Covered s) {seen : ActionDispatch}
    {retryId : RowId} {now : Timestamp} (hseen : s.worker = .timingOut seen)
    (hok : (svc.retryAction seen retryId now).isNone → Awaits seen.target s.history →
      ∃ a ∈ s.db.actions, a.id ≠ seen.id ∧ a.target = seen.target ∧ ToRun s a) :
    Covered { s with
      db := withActions s.db (update s.db.actions seen.id (svc.timedOut seen now) ++
        (svc.retryAction seen retryId now).toList)
      worker := .idle } := by
  obtain ⟨q, hq, hqid, hqt, -⟩ := hinv.timingOut seen hseen
  have hold : ∀ a ∈ s.db.actions, a.id ≠ seen.id → ToRun s a → Scheduled { s with
      db := withActions s.db (update s.db.actions seen.id (svc.timedOut seen now) ++
        (svc.retryAction seen retryId now).toList)
      worker := .idle } a.target := fun a ha hne hrun =>
    scheduled_of_ne ha hne hrun id (fun b hb => List.mem_append_left _ hb) rfl rfl
  refine covered_mono h (fun _ hw => hw) fun t hw hsched => ?_
  by_cases ht : t = seen.target
  · cases hretry : svc.retryAction seen retryId now with
    | none =>
      obtain ⟨a, ha, hne, hat, hrun⟩ := hok (by rw [hretry]; rfl) (ht ▸ hw)
      rw [hretry] at hold
      exact ht ▸ hat ▸ hold a ha hne hrun
    | some retry =>
      obtain ⟨-, htarget, -, hqueued, -⟩ := retryAction_spec hretry
      exact ⟨retry, List.mem_append_right _ (List.mem_singleton.mpr rfl), htarget.trans ht.symm,
        .inl hqueued⟩
  · obtain ⟨a, ha, rfl, hrun⟩ := hsched
    refine hold a ha (fun hid => ht ?_) hrun
    rw [hinv.eq_of_id ha hq (hid.trans hqid.symm), hqt]

lemma covered_step {s s' : State} {e : Event} (hinv : Inv s) (h : Covered s)
    (hok : StillScheduled svc s e) (hs : step chat svc s e = some s') : Covered s' := by
  cases e with
  | enqueueRead call target sub =>
    simp only [step] at hs
    split at hs <;> cases hs <;> exact h
  | enqueueCommit call keys now =>
    simp only [step] at hs
    split at hs
    · cases hs
    · next c hc =>
      split at hs
      · cases hs
      · split at hs <;> cases hs
        · exact h
        · next hrefused =>
          exact covered_commitChat h fun hp => hok c hc hp hrefused
  | enqueueAction action =>
    simp only [step] at hs
    split at hs <;> cases hs
    refine covered_mono h (fun _ hw => hw) fun t _ hsched => ?_
    obtain ⟨a, ha, hat, hrun⟩ := hsched
    exact ⟨a, List.mem_append_left _ ha, hat, hrun⟩
  | workerRead now =>
    simp only [step] at hs
    split at hs
    · split at hs <;> cases hs <;> exact h
    · cases hs
  | workerCommit =>
    simp only [step] at hs
    split at hs <;> cases hs
    exact covered_workerCommit h
  | runStart actionId =>
    simp only [step] at hs
    split at hs
    · split at hs
      · next row hrow =>
        split at hs <;> cases hs
        · exact covered_runStart hinv h hrow
        · next hnot =>
          refine covered_runAborted h fun a ha hid => ?_
          have hkey : row.id = actionId := key_of_get hrow
          rwa [hinv.eq_of_id ha (mem_of_get hrow) (hid.trans hkey.symm)]
      · next hrow =>
        cases hs
        refine covered_runAborted h fun a ha hid => ?_
        exact absurd (hid ▸ List.mem_map_of_mem ha) (get_eq_none_iff.mp hrow)
    · cases hs
  | runEnd actionId outcome =>
    simp only [step] at hs
    split at hs
    · next hthread =>
      cases hs
      exact covered_runEnd hinv h hthread outcome
    · cases hs
  | workerReturn =>
    simp only [step] at hs
    split at hs
    · split at hs <;> cases hs
      exact h
    · cases hs
  | timeoutRead =>
    simp only [step] at hs
    split at hs
    · split at hs
      · split at hs <;> cases hs <;> exact h
      · cases hs
        exact h
    · cases hs
  | timeoutCommit retryId now =>
    simp only [step] at hs
    split at hs
    · next seen hseen =>
      split at hs <;> cases hs
      exact covered_timeoutCommit hinv h hseen (hok seen (by rw [hseen]; rfl))
    · cases hs

lemma scheduled_of_step {s s' : State} {e : Event} (hs : step chat svc s e = some s')
    (h' : Covered s') : StillScheduled svc s e := by
  rw [covered_iff] at h'
  cases e with
  | enqueueCommit call keys now =>
    intro c hc hp hrefused
    obtain ⟨action, haction⟩ := Option.isSome_iff_exists.mp hp
    simp only [step, show s.calls call = some c from hc] at hs
    split at hs
    · cases hs
    · cases hs
      have hsched := h' c.target (.inl rfl)
      rw [haction] at hsched
      exact (scheduled_commitChat_join _).mp hsched
  | timeoutCommit retryId now =>
    intro seen hseen hnone hw
    simp only [step] at hs
    split at hs
    · next seen' hstage =>
      rw [hstage] at hseen
      cases hseen
      split at hs
      · cases hs
      · cases hs
        rw [Option.isNone_iff_eq_none.mp hnone] at h'
        obtain ⟨a, ha, hat, hrun⟩ := h' seen.target hw
        rw [show (withActions s.db _).actions = _ from rfl, Option.toList_none,
          List.append_nil] at ha
        rcases mem_update.mp ha with ⟨r, -, -, rfl⟩ | ⟨ha, hne⟩
        · rcases hrun with hq | ⟨hrun, -⟩
          · cases hq
          · cases hrun
        · exact ⟨a, ha, hne, hat, hrun⟩
    · cases hs
  | enqueueRead => trivial
  | enqueueAction => trivial
  | workerRead => trivial
  | workerCommit => trivial
  | runStart => trivial
  | runEnd => trivial
  | workerReturn => trivial
  | timeoutRead => trivial

/-- In every run of any number of enqueue calls and a worker, every message is covered exactly
when joins and last timeouts leave an action to run. -/
theorem covered_iff_stillScheduled (chat : MessageDispatchService)
    (svc : ChatDispatchWorkerService) {s₀ s : State} {es : List Event} (h0 : Initial s₀)
    (hrun : run (step chat svc) s₀ es = some s) :
    AllStates (step chat svc) Covered s₀ es ↔
      StepsMeet (step chat svc) (StillScheduled svc) s₀ es := by
  have hinv := inv_of_initial h0
  constructor
  · exact stepsMeet_of_allStates Inv (fun _ _ _ => inv_step)
      (fun _ _ _ _ _ hs h' => scheduled_of_step hs h') hinv hrun
  · refine allStates_of_stepsMeet (fun s => Inv s ∧ Covered s) ?_ (fun _ h => h.2) ⟨hinv, ?_⟩
    · rintro s e s' ⟨hi, h⟩ hok hs
      exact ⟨inv_step hi hs, covered_step hi h hok hs⟩
    · rw [covered_iff, h0.history]
      exact fun _ hw => absurd hw id

/-- A cocoon without messages. -/
def quietCocoon : State where
  db := { cocoons := [{ id := "c1", ownerUserId := "u1", characterId := "ch1" }] }

lemma initial_quietCocoon : Initial quietCocoon := by
  constructor <;> simp [quietCocoon]

/-- A first message, whose debounce window is over; a second one has been read to join it; the
worker has claimed the action. -/
def joinUnderWay : List Event :=
  [.enqueueRead 0 (.cocoon "c1") { content := "hello", clientRequestId := "r1" },
    .enqueueCommit 0 ⟨"a1", "m1", "t1"⟩ 0,
    .enqueueRead 1 (.cocoon "c1") { content := "more", clientRequestId := "r2" },
    .workerRead 3000000, .workerCommit]

/-- The run starts before the second message is committed: no run will see it. -/
theorem join_after_runStart_uncovered :
    Initial quietCocoon ∧
      ¬ AllStates (step { sha256Hex := fun text => text } {}) Covered quietCocoon
        (joinUnderWay ++ [.runStart "a1", .enqueueCommit 1 ⟨"a2", "m2", "t2"⟩ 3000001]) := by
  refine ⟨initial_quietCocoon, fun h => ?_⟩
  have hcovered := covered_iff.mp (h.last rfl) (.cocoon "c1")
  revert hcovered
  decide

/-- The second message is committed before the run starts. -/
theorem join_before_runStart_covered :
    AllStates (step { sha256Hex := fun text => text } {}) Covered quietCocoon
      (joinUnderWay ++ [.enqueueCommit 1 ⟨"a2", "m2", "t2"⟩ 3000001, .runStart "a1",
        .runEnd "a1" (.completed 3000002), .workerReturn]) :=
  (covered_iff_stillScheduled _ _ initial_quietCocoon rfl).mpr (by decide)

end Coverage

end CocoonSit
