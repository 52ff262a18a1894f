import CocoonSit.Dispatch.ChatWorker
import CocoonSit.Lib.Run
import CocoonSit.Runtime.Types

/-!
# One call of `process_next`, and how it can end

Both workers claim a row, hand it to code that may do anything, and record how that ended.  The
chat worker commits its claim and runs the round in a thread, so a call is several transactions
that interleave: the thread's, the timeout handler's when the round overruns, and those of other
processes.  `ChatCall` is a step relation over them.  The durable worker does everything in one
session, so `JobCall` is a function of how the executor left that session.
-/

namespace CocoonSit

open Table TransitionSystem

namespace ProcessNext

/-! ## The chat worker -/

namespace ChatCall

/-- Where `_run_action_session` is. -/
inductive Thread where
  /-- Submitted to the executor: it has not read its action yet. -/
  | submitted
  /-- Inside `chat_runtime.run`. -/
  | running
  | ended
deriving DecidableEq

/-- Where `process_next` is, once it has submitted the thread. -/
inductive Stage where
  /-- In `future.result`. -/
  | waiting
  /-- In the timeout handler, which has read the row `seen` running. -/
  | handling (seen : ActionDispatch)
  /-- It returned, with or without a failure written by the handler. -/
  | returned (byHandler : Bool)
  /-- It raised. -/
  | raised

def Stage.isWaiting : Stage → Bool
  | .waiting => true
  | _ => false

/-- The thread's result is there: a call that waits for it returns. -/
def Stage.release : Stage → Stage
  | .waiting => .returned false
  | stage => stage

/-- The thread raised: `future.result` raises it again, and only a timeout is caught. -/
def Stage.break : Stage → Stage
  | .waiting => .raised
  | stage => stage

structure State where
  db : Db
  actionId : RowId
  thread : Thread := .submitted
  stage : Stage := .waiting

/-- The committed row of the action. -/
def State.row (s : State) : Option ActionDispatch := get s.db.actions s.actionId

/-- The claim of `process_next`, committed; `none` when there is nothing to claim. -/
def claim (db : Db) (now : Timestamp) : Option State :=
  (nextReadyAction db.actions now).map fun action =>
    { db := { db with actions := update db.actions action.id (action.claimed now) }
      actionId := action.id }

inductive Event where
  /-- The thread reads its action. -/
  | start
  /-- `RuntimeActionAbortedError`: a check of the round found the row no longer running. -/
  | abort
  /-- The round returns, and its transaction is committed. -/
  | complete (now : Timestamp)
  /-- The round raises, in a flush or elsewhere; the failure path commits. -/
  | raise (reason : String) (roundId : RowId)
  /-- The commit after the round raises, or a statement of the failure path does. -/
  | commitRaises
  /-- `future.result` gives up; the handler reads the row. -/
  | timeout
  /-- The handler commits the failure, and the retry if attempts remain. -/
  | handlerCommits (roundId retryId : RowId) (now : Timestamp)
  /-- The handler's flush or commit raises. -/
  | handlerRaises
  /-- Another transaction commits; it leaves the action and its failed rounds alone. -/
  | elsewhere (other : Db)
  /-- Another transaction deletes the action. -/
  | delete

/-- The thread ends after its commit left `db`. -/
def State.threadEnds (s : State) (db : Db) : State :=
  { s with db := db, thread := .ended, stage := s.stage.release }

/-- The `FailedRound` of a failed action. -/
def failedRound (row : ActionDispatch) (roundId : RowId) (reason : String) : FailedRound :=
  { id := roundId
    target := row.target
    actionId := some row.id
    eventType := row.eventType.text
    reason := reason }

/-- What the commit of another transaction leaves: the action's row and its failed rounds from
before, and anything else. -/
def besides (db : Db) (actionId : RowId) (other : Db) : Db :=
  { other with
    actions := db.actions.filter (fun a => a.id = actionId) ++
      other.actions.filter fun a => a.id ≠ actionId
    failedRounds := db.failedRounds.filter (fun r => r.actionId = some actionId) ++
      other.failedRounds.filter fun r => r.actionId ≠ some actionId }

variable (svc : ChatDispatchWorkerService)

def step (s : State) : Event → Option State
  | .start =>
    if s.thread = .submitted then
      match s.row with
      | some row =>
        if row.status = .running then some { s with thread := .running }
        else some (s.threadEnds s.db)
      | none => some (s.threadEnds s.db)
    else none
  | .abort =>
    match s.row with
    | some row =>
      if s.thread = .running ∧ row.status ≠ .running then some (s.threadEnds s.db) else none
    | none => none
  | .complete now =>
    -- without its row the refresh of `finish_action` raises
    if s.thread = .running ∧ s.row.isSome then
      some (s.threadEnds { s.db with
        actions := update s.db.actions s.actionId fun row =>
          row.finishAction .completed none now })
    else none
  | .raise reason roundId =>
    if s.thread = .running then
      match s.row with
      | some row =>
        some (s.threadEnds { s.db with
          actions := update s.db.actions s.actionId fun row => row.runtimeFailed reason
          failedRounds := s.db.failedRounds ++ [failedRound row roundId reason] })
      | none => some (s.threadEnds s.db)
    else none
  | .commitRaises =>
    if s.thread = .running then some { s with thread := .ended, stage := s.stage.break } else none
  | .timeout =>
    match s.stage with
    | .waiting =>
      match s.row with
      | some row =>
        if row.status = .running then some { s with stage := .handling row }
        else some { s with stage := .returned false }
      | none => some { s with stage := .returned false }
    | _ => none
  | .handlerCommits roundId retryId now =>
    match s.stage with
    | .handling seen =>
      -- an update that finds no row raises
      if s.row.isSome then
        some { s with
          db := { s.db with
            actions := update s.db.actions s.actionId (svc.timedOut seen now) ++
              (svc.retryAction seen retryId now).toList
            failedRounds := s.db.failedRounds ++ [failedRound seen roundId "timeout"] }
          stage := .returned true }
      else none
    | _ => none
  | .handlerRaises =>
    match s.stage with
    | .handling _ => some { s with stage := .raised }
    | _ => none
  | .elsewhere other => some { s with db := besides s.db s.actionId other }
  | .delete =>
    some { s with db := { s.db with actions := s.db.actions.filter fun a => a.id ≠ s.actionId } }

/-- A row at rest: terminal, with its finishing time, and its failed round when it failed. -/
structure Settled (failedRounds : List FailedRound) (row : ActionDispatch) : Prop where
  terminal : row.status = .completed ∨ row.status = .failed
  finishedAt : row.finishedAt.isSome
  failedRound : row.status = .failed →
    ∃ r ∈ failedRounds, r.actionId = some row.id ∧ r.target = row.target

/-- What is asked of a call in every state: it has not raised, and once it has returned its row is
settled, and failed if that is what the handler wrote. -/
def Kept (s : State) : Prop :=
  match s.stage with
  | .waiting | .handling _ => True
  | .returned byHandler => ∀ row, s.row = some row →
      Settled s.db.failedRounds row ∧ (byHandler → row.status = .failed)
  | .raised => False

/-- The events after which the row is settled: the round does not raise while the worker waits for
it (unless the row carried a finishing time already), no commit the worker waits for raises, and
the handler's transaction succeeds. -/
def InTime (s : State) : Event → Prop
  | .raise _ _ => s.stage.isWaiting → ∀ row ∈ s.row, row.finishedAt.isSome
  | .commitRaises => ¬ s.stage.isWaiting
  | .handlerRaises => False
  | _ => True

instance (s : State) (e : Event) : Decidable (InTime s e) := by
  cases e <;> unfold InTime <;> infer_instance

/-! ### Reading the row back -/

lemma row_key {s : State} {row : ActionDispatch} (h : s.row = some row) : row.id = s.actionId :=
  key_of_get h

lemma get_besides (db : Db) (actionId : RowId) (other : Db) :
    get (besides db actionId other).actions actionId = get db.actions actionId := by
  have hother : get (other.actions.filter fun a => a.id ≠ actionId) actionId = none := by
    rw [get_eq_none_iff]
    simp
  have hown : get (db.actions.filter fun a => a.id = actionId) actionId =
      get db.actions actionId := by
    simp [Table.get, List.find?_filter]
  rw [besides, get_append, hother, hown, Option.or_none]

lemma mem_besides_failedRounds {db other : Db} {actionId : RowId} {r : FailedRound}
    (hr : r ∈ db.failedRounds) (haction : r.actionId = some actionId) :
    r ∈ (besides db actionId other).failedRounds := by
  simp [besides, hr, haction]

lemma get_update_self {t : List ActionDispatch} {k : RowId} {f : ActionDispatch → ActionDispatch}
    {row : ActionDispatch} (hf : ∀ r, (f r).id = r.id) (h : get t k = some row) :
    get (update t k f) k = some (f row) := by
  rw [get_update hf, h, Option.map_some, if_pos (key_of_get h)]

/-! ### What stays settled -/

lemma Settled.mono {failedRounds failedRounds' : List FailedRound} {row : ActionDispatch}
    (h : Settled failedRounds row)
    (hsub : ∀ r ∈ failedRounds, r.actionId = some row.id → r ∈ failedRounds') :
    Settled failedRounds' row := by
  refine ⟨h.terminal, h.finishedAt, fun hfailed => ?_⟩
  obtain ⟨r, hr, haction, htarget⟩ := h.failedRound hfailed
  exact ⟨r, hsub r hr haction, haction, htarget⟩

lemma Settled.runtimeFailed {failedRounds : List FailedRound} {row : ActionDispatch}
    (h : Settled failedRounds row) (hfailed : row.status = .failed) (reason : String) :
    Settled failedRounds (row.runtimeFailed reason) :=
  ⟨.inr rfl, h.finishedAt, fun _ => h.failedRound hfailed⟩

lemma finishAction_of_failed {row : ActionDispatch} (h : row.status = .failed)
    (status : ActionStatus) (errorText : Option String) (now : Timestamp) :
    row.finishAction status errorText now = row := by
  simp [ActionDispatch.finishAction, h]

lemma settled_runtimeFailed_iff {failedRounds : List FailedRound} {row : ActionDispatch}
    {roundId : RowId} {reason : String} :
    Settled (failedRounds ++ [failedRound row roundId reason]) (row.runtimeFailed reason) ↔
      row.finishedAt.isSome := by
  refine ⟨fun h => h.finishedAt, fun h => ⟨.inr rfl, h, fun _ => ?_⟩⟩
  exact ⟨failedRound row roundId reason, by simp, rfl, rfl⟩

/-! ### The invariant -/

/-- While the worker waits the thread has not ended and the row is running; the handler's copy is
of the action; and after a return without the handler nothing can write the row. -/
def Inv (s : State) : Prop :=
  match s.stage with
  | .waiting => s.thread ≠ .ended ∧ ∀ row, s.row = some row → row.status = .running
  | .handling seen => seen.id = s.actionId ∧ ∀ row, s.row = some row → row.target = seen.target
  | .returned false => s.thread = .ended ∨ s.row = none
  | .returned true | .raised => True

lemma inv_claim {db : Db} {now : Timestamp} {s : State} (h : claim db now = some s) : Inv s := by
  obtain ⟨action, -, rfl⟩ := Option.map_eq_some_iff.mp h
  refine ⟨by simp, fun row hrow => ?_⟩
  have hget : get (update db.actions action.id (action.claimed now)) action.id = some row := hrow
  rw [get_update (f := action.claimed now) fun _ => rfl] at hget
  obtain ⟨row₀, h₀, hclaimed⟩ := Option.map_eq_some_iff.mp hget
  rw [if_pos (key_of_get h₀)] at hclaimed
  rw [← hclaimed]
  rfl

lemma inv_threadEnds {s : State} {db' : Db} (hinv : Inv s)
    (htarget : ∀ row', get db'.actions s.actionId = some row' →
      ∃ row, s.row = some row ∧ row'.target = row.target) : Inv (s.threadEnds db') := by
  obtain ⟨db, actionId, thread, stage⟩ := s
  cases stage with
  | waiting => exact .inl rfl
  | handling seen =>
    refine ⟨hinv.1, fun row' hrow' => ?_⟩
    obtain ⟨row, hrow, h⟩ := htarget row' hrow'
    exact h.trans (hinv.2 row hrow)
  | returned byHandler =>
    cases byHandler with
    | false => exact .inl rfl
    | true => trivial
  | raised => trivial

lemma inv_threadEnds_self {s : State} (hinv : Inv s) : Inv (s.threadEnds s.db) :=
  inv_threadEnds hinv fun row' hrow' => ⟨row', hrow', rfl⟩

lemma inv_threadEnds_update {s : State} {db' : Db} {f : ActionDispatch → ActionDispatch}
    (hinv : Inv s) (hf : NeverStarts f) (hdb : db'.actions = update s.db.actions s.actionId f) :
    Inv (s.threadEnds db') := by
  refine inv_threadEnds hinv fun row' hrow' => ?_
  rw [hdb, get_update hf.id] at hrow'
  obtain ⟨row, hrow, rfl⟩ := Option.map_eq_some_iff.mp hrow'
  refine ⟨row, hrow, ?_⟩
  rw [if_pos (key_of_get hrow)]
  exact hf.target row

lemma inv_ofRow {s : State} {db' : Db} (hinv : Inv s)
    (hrow : get db'.actions s.actionId = s.row ∨ get db'.actions s.actionId = none) :
    Inv { s with db := db' } := by
  have hsub : ∀ row, get db'.actions s.actionId = some row → s.row = some row := by
    intro row h
    rcases hrow with heq | hnone
    · exact heq.symm.trans h
    · rw [hnone] at h
      cases h
  obtain ⟨db, actionId, thread, stage⟩ := s
  cases stage with
  | waiting => exact ⟨hinv.1, fun row h => hinv.2 row (hsub row h)⟩
  | handling seen => exact ⟨hinv.1, fun row h => hinv.2 row (hsub row h)⟩
  | returned byHandler =>
    cases byHandler with
    | false =>
      refine hinv.imp_right fun hnone => ?_
      rcases hrow with heq | hnone'
      · exact heq.trans hnone
      · exact hnone'
    | true => trivial
  | raised => trivial

lemma get_delete (t : List ActionDispatch) (k : RowId) :
    get (t.filter fun a => a.id ≠ k) k = none := by
  rw [get_eq_none_iff]
  simp

variable {svc}

theorem inv_step {s s' : State} {e : Event} (hinv : Inv s) (hs : step svc s e = some s') :
    Inv s' := by
  cases e with
  | start =>
    simp only [step] at hs
    split at hs
    case isTrue hthread =>
      split at hs
      case h_1 row hrow =>
        split at hs
        · cases hs
          obtain ⟨db, actionId, thread, stage⟩ := s
          cases stage with
          | waiting => exact ⟨by simp, hinv.2⟩
          | handling seen => exact hinv
          | returned byHandler =>
            cases byHandler with
            | false =>
              rcases hinv with hended | hnone
              · cases hthread.symm.trans hended
              · cases hnone.symm.trans hrow
            | true => trivial
          | raised => trivial
        · cases hs
          exact inv_threadEnds_self hinv
      case h_2 =>
        cases hs
        exact inv_threadEnds_self hinv
    case isFalse => cases hs
  | abort =>
    simp only [step] at hs
    split at hs
    · split at hs
      · cases hs
        exact inv_threadEnds_self hinv
      · cases hs
    · cases hs
  | complete now =>
    simp only [step] at hs
    split at hs
    case isTrue =>
      cases hs
      exact inv_threadEnds_update hinv (neverStarts_write (.completed now)) rfl
    case isFalse => cases hs
  | raise reason roundId =>
    simp only [step] at hs
    split at hs
    case isTrue =>
      split at hs
      case h_1 =>
        cases hs
        exact inv_threadEnds_update hinv (neverStarts_write (.failed reason)) rfl
      case h_2 =>
        cases hs
        exact inv_threadEnds_self hinv
    case isFalse => cases hs
  | commitRaises =>
    simp only [step] at hs
    split at hs
    case isTrue =>
      cases hs
      obtain ⟨db, actionId, thread, stage⟩ := s
      cases stage with
      | waiting => trivial
      | handling seen => exact hinv
      | returned byHandler =>
        cases byHandler with
        | false => exact .inl rfl
        | true => trivial
      | raised => trivial
    case isFalse => cases hs
  | timeout =>
    obtain ⟨db, actionId, thread, stage⟩ := s
    cases stage with
    | waiting =>
      simp only [step] at hs
      split at hs
      case h_1 row hrow =>
        split at hs
        · cases hs
          refine ⟨row_key hrow, fun row' hrow' => ?_⟩
          cases hrow.symm.trans hrow'
          rfl
        · next hnot => exact absurd (hinv.2 row hrow) hnot
      case h_2 hnone =>
        cases hs
        exact .inr hnone
    | handling seen => cases hs
    | returned byHandler => cases hs
    | raised => cases hs
  | handlerCommits roundId retryId now =>
    simp only [step] at hs
    split at hs
    · split at hs
      · cases hs
        trivial
      · cases hs
    · cases hs
  | handlerRaises =>
    simp only [step] at hs
    split at hs
    · cases hs
      trivial
    · cases hs
  | elsewhere other =>
    cases hs
    exact inv_ofRow hinv (.inl (get_besides _ _ _))
  | delete =>
    cases hs
    exact inv_ofRow hinv (.inr (get_delete _ _))

/-! ### What one step keeps -/

lemma kept_threadEnds_self {s : State} (hinv : Inv s) (hkept : Kept s)
    (hrow : ∀ row, s.row = some row → row.status ≠ .running) : Kept (s.threadEnds s.db) := by
  obtain ⟨db, actionId, thread, stage⟩ := s
  cases stage with
  | waiting => exact fun row h => absurd (hinv.2 row h) (hrow row h)
  | handling seen => trivial
  | returned byHandler => exact hkept
  | raised => exact hkept

lemma kept_complete {s : State} {row : ActionDispatch} (hinv : Inv s) (hkept : Kept s)
    (hthread : s.thread = .running) (hrow : s.row = some row) (now : Timestamp) :
    Kept (s.threadEnds { s.db with
      actions := update s.db.actions s.actionId fun row =>
        row.finishAction .completed none now }) := by
  have hget := get_update_self (f := (RoundOutcome.completed now).write)
    (neverStarts_write (.completed now)).id hrow
  obtain ⟨db, actionId, thread, stage⟩ := s
  cases stage with
  | waiting =>
    intro row' hrow'
    cases hget.symm.trans hrow'
    have hrunning := hinv.2 row hrow
    rw [RoundOutcome.write, ActionDispatch.finishAction, if_pos hrunning]
    exact ⟨⟨.inl rfl, rfl, by rintro ⟨⟩⟩, by rintro ⟨⟩⟩
  | handling seen => trivial
  | returned byHandler =>
    intro row' hrow'
    cases hget.symm.trans hrow'
    cases byHandler with
    | false =>
      rcases hinv with hended | hnone
      · cases hthread.symm.trans hended
      · cases hnone.symm.trans hrow
    | true =>
      have hfailed := (hkept row hrow).2 rfl
      rw [RoundOutcome.write, finishAction_of_failed hfailed]
      exact hkept row hrow
  | raised => exact hkept

lemma kept_raise_iff {s : State} {row : ActionDispatch} (hinv : Inv s) (hkept : Kept s)
    (hthread : s.thread = .running) (hrow : s.row = some row) (reason : String)
    (roundId : RowId) :
    Kept (s.threadEnds { s.db with
      actions := update s.db.actions s.actionId fun row => row.runtimeFailed reason
      failedRounds := s.db.failedRounds ++ [failedRound row roundId reason] }) ↔
      (s.stage.isWaiting → row.finishedAt.isSome) := by
  have hget := get_update_self (f := (RoundOutcome.failed reason).write)
    (neverStarts_write (.failed reason)).id hrow
  obtain ⟨db, actionId, thread, stage⟩ := s
  cases stage with
  | waiting =>
    constructor
    · intro h _
      exact settled_runtimeFailed_iff.mp (h _ hget).1
    · intro h row' hrow'
      cases hget.symm.trans hrow'
      exact ⟨settled_runtimeFailed_iff.mpr (h rfl), fun h => nomatch h⟩
  | handling seen => exact iff_of_true trivial fun h => nomatch h
  | returned byHandler =>
    refine iff_of_true (fun row' hrow' => ?_) fun h => nomatch h
    cases hget.symm.trans hrow'
    cases byHandler with
    | false =>
      rcases hinv with hended | hnone
      · cases hthread.symm.trans hended
      · cases hnone.symm.trans hrow
    | true =>
      obtain ⟨hsettled, hfailed⟩ := hkept row hrow
      refine ⟨(hsettled.runtimeFailed (hfailed rfl) reason).mono fun r hr _ => ?_, fun _ => rfl⟩
      exact List.mem_append_left _ hr
  | raised => exact hkept.elim

lemma kept_handlerCommits {s : State} {seen row : ActionDispatch} (hinv : Inv s)
    (hstage : s.stage = .handling seen) (hrow : s.row = some row) (roundId retryId : RowId)
    (now : Timestamp) :
    Kept { s with
      db := { s.db with
        actions := update s.db.actions s.actionId (svc.timedOut seen now) ++
          (svc.retryAction seen retryId now).toList
        failedRounds := s.db.failedRounds ++ [failedRound seen roundId "timeout"] }
      stage := .returned true } := by
  have hget := get_update_self (f := svc.timedOut seen now)
    (neverStarts_timedOut svc seen now).id hrow
  obtain ⟨db, actionId, thread, stage⟩ := s
  cases hstage
  intro row' hrow'
  have hfound : get (update db.actions actionId (svc.timedOut seen now) ++
      (svc.retryAction seen retryId now).toList) actionId = some row' := hrow'
  rw [get_append, hget, Option.some_or] at hfound
  cases hfound
  refine ⟨⟨.inr rfl, rfl, fun _ => ?_⟩, fun _ => rfl⟩
  refine ⟨failedRound seen roundId "timeout", by simp, ?_, (hinv.2 row hrow).symm⟩
  exact congrArg some (hinv.1.trans (row_key hrow).symm)

lemma kept_elsewhere {s : State} (hkept : Kept s) (other : Db) :
    Kept { s with db := besides s.db s.actionId other } := by
  obtain ⟨db, actionId, thread, stage⟩ := s
  cases stage with
  | waiting => trivial
  | handling seen => trivial
  | returned byHandler =>
    intro row hrow
    have hrow₀ : get db.actions actionId = some row :=
      (get_besides db actionId other).symm.trans hrow
    obtain ⟨hsettled, hfailed⟩ := hkept row hrow₀
    refine ⟨hsettled.mono fun r hr haction => ?_, hfailed⟩
    rw [show row.id = actionId from key_of_get hrow₀] at haction
    exact mem_besides_failedRounds hr haction
  | raised => exact hkept

lemma kept_delete {s : State} (hkept : Kept s) :
    Kept { s with
      db := { s.db with actions := s.db.actions.filter fun a => a.id ≠ s.actionId } } := by
  obtain ⟨db, actionId, thread, stage⟩ := s
  cases stage with
  | waiting => trivial
  | handling seen => trivial
  | returned byHandler =>
    intro row hrow
    cases (get_delete db.actions actionId).symm.trans hrow
  | raised => exact hkept

theorem kept_step_iff {s s' : State} {e : Event} (hinv : Inv s) (hkept : Kept s)
    (hs : step svc s e = some s') : Kept s' ↔ InTime s e := by
  cases e with
  | start =>
    refine iff_of_true ?_ trivial
    simp only [step] at hs
    split at hs
    case isTrue =>
      split at hs
      case h_1 row hrow =>
        split at hs
        · cases hs
          exact hkept
        · next hnot =>
          cases hs
          refine kept_threadEnds_self hinv hkept fun row' hrow' => ?_
          cases hrow.symm.trans hrow'
          exact hnot
      case h_2 hnone =>
        cases hs
        refine kept_threadEnds_self hinv hkept fun row' hrow' => ?_
        cases hnone.symm.trans hrow'
    case isFalse => cases hs
  | abort =>
    refine iff_of_true ?_ trivial
    simp only [step] at hs
    split at hs
    case h_1 row hrow =>
      split at hs
      case isTrue h =>
        cases hs
        refine kept_threadEnds_self hinv hkept fun row' hrow' => ?_
        cases hrow.symm.trans hrow'
        exact h.2
      case isFalse => cases hs
    case h_2 => cases hs
  | complete now =>
    refine iff_of_true ?_ trivial
    simp only [step] at hs
    split at hs
    case isTrue h =>
      cases hs
      obtain ⟨row, hrow⟩ := Option.isSome_iff_exists.mp h.2
      exact kept_complete hinv hkept h.1 hrow now
    case isFalse => cases hs
  | raise reason roundId =>
    simp only [step] at hs
    split at hs
    case isTrue hthread =>
      split at hs
      case h_1 row hrow =>
        cases hs
        rw [kept_raise_iff hinv hkept hthread hrow]
        simp [InTime, hrow]
      case h_2 hnone =>
        cases hs
        refine iff_of_true (kept_threadEnds_self hinv hkept fun row' hrow' => ?_)
          (by simp [InTime, hnone])
        cases hnone.symm.trans hrow'
    case isFalse => cases hs
  | commitRaises =>
    simp only [step] at hs
    split at hs
    case isTrue =>
      cases hs
      obtain ⟨db, actionId, thread, stage⟩ := s
      cases stage with
      | waiting => exact iff_of_false id fun h => h rfl
      | handling seen => exact iff_of_true trivial Bool.false_ne_true
      | returned byHandler => exact iff_of_true hkept Bool.false_ne_true
      | raised => exact hkept.elim
    case isFalse => cases hs
  | timeout =>
    refine iff_of_true ?_ trivial
    simp only [step] at hs
    split at hs
    case h_1 hstage =>
      split at hs
      case h_1 row hrow =>
        split at hs
        · cases hs
          trivial
        · next hnot =>
          obtain ⟨db, actionId, thread, stage⟩ := s
          cases hstage
          exact absurd (hinv.2 row hrow) hnot
      case h_2 hnone =>
        cases hs
        intro row' hrow'
        cases hnone.symm.trans hrow'
    case h_2 => cases hs
  | handlerCommits roundId retryId now =>
    refine iff_of_true ?_ trivial
    simp only [step] at hs
    split at hs
    case h_1 seen hstage =>
      split at hs
      case isTrue hsome =>
        cases hs
        obtain ⟨row, hrow⟩ := Option.isSome_iff_exists.mp hsome
        exact kept_handlerCommits hinv hstage hrow roundId retryId now
      case isFalse => cases hs
    case h_2 => cases hs
  | handlerRaises =>
    simp only [step] at hs
    split at hs
    · cases hs
      exact iff_of_false id id
    · cases hs
  | elsewhere other =>
    cases hs
    exact iff_of_true (kept_elsewhere hkept other) trivial
  | delete =>
    cases hs
    exact iff_of_true (kept_delete hkept) trivial

/-- Over a whole call and whatever goes on after it. -/
theorem kept_run_iff {db : Db} {now : Timestamp} {s s' : State} {es : List Event}
    (hclaim : claim db now = some s) (hrun : run (step svc) s es = some s') :
    AllStates (step svc) Kept s es ↔ StepsMeet (step svc) InTime s es := by
  refine allStates_iff_stepsMeet Inv (fun _ _ _ => inv_step) (fun _ _ _ => kept_step_iff)
    (inv_claim hclaim) ?_ hrun
  obtain ⟨action, -, rfl⟩ := Option.map_eq_some_iff.mp hclaim
  trivial

end ChatCall

/-! ## The durable job worker -/

namespace JobCall

/-- How `durable_executor.execute` leaves the session that claimed `job` in `db`.  No executor
writes the row of its own job or a failed round. -/
structure ExecutorEnd (db : Db) (job : DurableJob) where
  /-- What the session's transaction sees. -/
  view : Db
  /-- A flush has failed: until a rollback the session refuses every further statement. -/
  poisoned : Bool := false
  /-- The text of the exception it raised. -/
  error : Option String := none
  job_view : get view.jobs job.id = some job
  failedRounds_view : ∀ r ∈ view.failedRounds, r ∈ db.failedRounds

/-- What is committed after the call, and whether it raised. -/
structure Result where
  db : Db
  raised : Bool

/-- The failed round of the `except` branch, recorded for a cocoon's job only. -/
def failedRounds (job : DurableJob) (roundId : RowId) (reason : String) : List FailedRound :=
  match job.target with
  | some (.cocoon cocoonId) =>
    [{ id := roundId
       target := .cocoon cocoonId
       actionId := none
       eventType := job.jobType
       reason := reason }]
  | _ => []

/-- What the session has written when it comes to its commit. -/
def written {db : Db} {job : DurableJob} (run : ExecutorEnd db job) (roundId : RowId)
    (now : Timestamp) : Db :=
  { run.view with
    jobs := update run.view.jobs job.id fun row =>
      row.finished (outcomeStatus run.error) run.error now
    failedRounds := run.view.failedRounds ++
      (run.error.elim [] fun reason => failedRounds job roundId reason) }

/-- `process_next` from the claim of `job` on.  In a poisoned session the `finish` of either branch
raises, as a failing commit does; the session is closed, and with it the claim is undone. -/
def processNext {db : Db} {job : DurableJob} (run : ExecutorEnd db job) (commitRaises : Bool)
    (roundId : RowId) (now : Timestamp) : Result :=
  if run.poisoned || commitRaises then { db := db, raised := true }
  else { db := written run roundId now, raised := false }

/-- A job at rest: terminal, with its finishing time, and a failed round that the call recorded
when it failed and has a target. -/
structure Settled (before failedRounds : List FailedRound) (row : DurableJob) : Prop where
  terminal : row.status = .completed ∨ row.status = .failed
  finishedAt : row.finishedAt.isSome
  failedRound : row.status = .failed → ∀ target, row.target = some target →
    ∃ r ∈ failedRounds, r ∉ before ∧ r.target = target ∧ r.eventType = row.jobType ∧
      some r.reason = row.errorText

/-- What is asked of a call. -/
def Kept (db : Db) (job : DurableJob) (result : Result) : Prop :=
  result.raised = false ∧ ∀ row, get result.db.jobs job.id = some row →
    Settled db.failedRounds result.db.failedRounds row

lemma get_written {db : Db} {job : DurableJob} (run : ExecutorEnd db job) (roundId : RowId)
    (now : Timestamp) : get (written run roundId now).jobs job.id =
      some (job.finished (outcomeStatus run.error) run.error now) := by
  have hget : get (update run.view.jobs job.id fun row =>
      row.finished (outcomeStatus run.error) run.error now) job.id = _ := get_update fun _ => rfl
  simp only [run.job_view, Option.map_some, key_durableJob, if_true] at hget
  exact hget

lemma settled_failed_iff {db : Db} {job : DurableJob} (run : ExecutorEnd db job) {roundId : RowId}
    (hfresh : roundId ∉ db.failedRounds.map key) {reason : String}
    (herror : run.error = some reason)
    (now : Timestamp) :
    Settled db.failedRounds (written run roundId now).failedRounds
        (job.finished (outcomeStatus run.error) run.error now) ↔
      ∀ groupId, job.target ≠ some (.chatGroup groupId) := by
  constructor
  · intro h groupId htarget
    obtain ⟨r, hr, hnew, -⟩ := h.failedRound (by rw [herror]; rfl) _ htarget
    have hview : r ∈ run.view.failedRounds := by
      simpa [written, failedRounds, herror, htarget] using hr
    exact hnew (run.failedRounds_view r hview)
  · intro hgroup
    refine ⟨.inr (by rw [herror]; rfl), rfl, fun _ target htarget => ?_⟩
    cases target with
    | chatGroup groupId => exact absurd htarget (hgroup groupId)
    | cocoon cocoonId =>
      have htarget' : job.target = some (.cocoon cocoonId) := htarget
      refine ⟨⟨roundId, .cocoon cocoonId, none, job.jobType, reason⟩, ?_, ?_, rfl, rfl, ?_⟩
      · simp [written, failedRounds, herror, htarget']
      · exact fun h => hfresh (List.mem_map_of_mem (f := key) h)
      · exact herror.symm

lemma settled_completed {db : Db} {job : DurableJob} (run : ExecutorEnd db job) (roundId : RowId)
    (herror : run.error = none) (now : Timestamp) :
    Settled db.failedRounds (written run roundId now).failedRounds
      (job.finished (outcomeStatus run.error) run.error now) := by
  rw [herror]
  exact ⟨.inl rfl, rfl, fun h => nomatch h⟩

theorem kept_iff {db : Db} {job : DurableJob} (run : ExecutorEnd db job) (commitRaises : Bool)
    {roundId : RowId} (hfresh : roundId ∉ db.failedRounds.map key) (now : Timestamp) :
    Kept db job (processNext run commitRaises roundId now) ↔
      run.poisoned = false ∧ commitRaises = false ∧
        (run.error.isSome → ∀ groupId, job.target ≠ some (.chatGroup groupId)) := by
  by_cases hraise : (run.poisoned || commitRaises) = true
  · rw [processNext, if_pos hraise]
    refine iff_of_false (fun h => nomatch h.1) fun h => ?_
    rw [h.1, h.2.1] at hraise
    cases hraise
  · rw [processNext, if_neg hraise]
    rw [Bool.not_eq_true, Bool.or_eq_false_iff] at hraise
    simp only [Kept, hraise, true_and, get_written, Option.some.injEq, forall_eq']
    cases herror : run.error with
    | none =>
      have h := settled_completed run roundId herror now
      rw [herror] at h
      simpa using h
    | some reason =>
      have h := settled_failed_iff run hfresh herror now
      rw [herror] at h
      simpa using h

end JobCall

/-! ## Both workers -/

/-- A claimed chat action is settled through every interleaving exactly when no event in it is one
of a round that raises before its timeout, of a commit that fails while the worker waits for it, or
of a handler that fails; a claimed job is settled exactly when no flush of its executor and not the
commit fails, and it does not fail for a chat group. -/
theorem settles_iff (svc : ChatDispatchWorkerService) (db : Db) (now : Timestamp) :
    (∀ (s s' : ChatCall.State) (es : List ChatCall.Event), ChatCall.claim db now = some s →
      run (ChatCall.step svc) s es = some s' →
      (AllStates (ChatCall.step svc) ChatCall.Kept s es ↔
        StepsMeet (ChatCall.step svc) ChatCall.InTime s es)) ∧
    (∀ (locked : RowId → Bool) (workerName : String) (claimedAt : Timestamp)
      (job : DurableJob) (run : JobCall.ExecutorEnd db job) (commitRaises : Bool)
      (roundId : RowId), claimNext db.jobs locked workerName claimedAt = some job →
      roundId ∉ db.failedRounds.map key →
      (JobCall.Kept db job (JobCall.processNext run commitRaises roundId now) ↔
        run.poisoned = false ∧ commitRaises = false ∧
          (run.error.isSome → ∀ groupId, job.target ≠ some (.chatGroup groupId)))) :=
  ⟨fun _ _ _ hclaim hrun => ChatCall.kept_run_iff hclaim hrun,
    fun _ _ _ _ run commitRaises _ _ hfresh => JobCall.kept_iff run commitRaises hfresh now⟩

/-- One queued chat action. -/
def oneQueued : Db where
  actions := [{ id := "a1", target := .cocoon "c1", eventType := .chat, queuedAt := 0 }]

/-- The job of a chat group, claimed. -/
def wakeupOfGroup : DurableJob where
  id := "j1"
  target := some (.chatGroup "g1")
  jobType := "wakeup"
  status := .running
  lockKey := "g1:wakeup"
  availableAt := 0
  createdAt := 0
  startedAt := some 1
  workerName := some "w"

/-- A database with that job, still queued. -/
def oneJob : Db where
  jobs := [{ wakeupOfGroup with status := .queued, startedAt := none, workerName := none }]

/-- The executor raised the text `error`. -/
def raisedWith (error : Option String) : JobCall.ExecutorEnd oneJob wakeupOfGroup where
  view := { jobs := [wakeupOfGroup] }
  error := error
  job_view := rfl
  failedRounds_view := fun _ h => nomatch h

/-- A round that overruns and then raises, and a job that is executed. -/
theorem settled_after_timeout :
    (∃ s, ChatCall.claim oneQueued 1 = some s ∧
      AllStates (ChatCall.step {}) ChatCall.Kept s
        [.start, .timeout, .handlerCommits "r1" "a2" 31, .raise "late" "r2"]) ∧
      JobCall.Kept oneJob wakeupOfGroup
        (JobCall.processNext (raisedWith none) false "r1" 2) :=
  ⟨⟨_, rfl, ((settles_iff {} oneQueued 1).1 _ _ _ rfl rfl).mpr (by decide)⟩,
    ((settles_iff {} oneJob 2).2 (fun _ => false) "w" 1 _ (raisedWith none) false "r1" rfl
      (by decide)).mpr ⟨rfl, rfl, fun h => nomatch h⟩⟩

/-- A round that raises leaves its action without a finishing time, one whose commit fails takes
the worker down with it, and a chat group's job fails without a failed round. -/
theorem errors_unsettled :
    (∃ s, ChatCall.claim oneQueued 1 = some s ∧
      ¬ AllStates (ChatCall.step {}) ChatCall.Kept s [.start, .raise "no provider" "r1"] ∧
      ¬ AllStates (ChatCall.step {}) ChatCall.Kept s [.start, .commitRaises]) ∧
      claimNext oneJob.jobs (fun _ => false) "w" 1 = some wakeupOfGroup ∧
      ¬ JobCall.Kept oneJob wakeupOfGroup
        (JobCall.processNext (raisedWith (some "no provider")) false "r1" 2) := by
  refine ⟨⟨_, rfl, fun h => ?_, fun h => h.last rfl⟩, rfl, fun h => ?_⟩
  · exact absurd (h.last rfl _ rfl).1.finishedAt (by decide)
  · obtain ⟨r, hr, -⟩ := (h.2 _ rfl).failedRound rfl _ rfl
    exact nomatch hr

end ProcessNext

end CocoonSit
