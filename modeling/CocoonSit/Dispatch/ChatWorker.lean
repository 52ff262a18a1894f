import CocoonSit.Dispatch.Enqueue

/-!
# The chat dispatch worker: writes on an action

What `ChatDispatchWorkerService` and the runtime thread it starts write into an action row once it
is claimed: `finish_action` at the end of a round, the failure path of `_run_action_session`, and
the timeout handler with the retry it enqueues.  Each is a function of the row as it is at the
write; where the code decides on an object it loaded earlier, that object is an argument.
-/

namespace CocoonSit

/-- The settings of `ChatDispatchWorkerService`. -/
structure ChatDispatchWorkerService where
  chatActionTimeoutSeconds : ℕ := 30
  chatActionMaxTimeoutAttempts : ℤ := 3

/-- `SideEffects.finish_action`: the row is refreshed, and left alone unless it is running. -/
def ActionDispatch.finishAction (row : ActionDispatch) (status : ActionStatus)
    (errorText : Option String) (now : Timestamp) : ActionDispatch :=
  if row.status = .running then
    { row with status := status, errorText := errorText, finishedAt := some now }
  else row

/-- The exception path of `_run_action_session`: the row becomes failed whatever it was. -/
def ActionDispatch.runtimeFailed (row : ActionDispatch) (errorText : String) : ActionDispatch :=
  { row with status := .failed, errorText := some errorText }

/-- How the runtime thread of an action ends. -/
inductive RoundOutcome where
  /-- The round ran to its end; `finish_action` and the commit. -/
  | completed (now : Timestamp)
  /-- The round raised. -/
  | failed (errorText : String)
  /-- `RuntimeActionAbortedError`, or the action was not running: nothing is written. -/
  | aborted

/-- What the thread's commit does to the action row. -/
def RoundOutcome.write (outcome : RoundOutcome) (row : ActionDispatch) : ActionDispatch :=
  match outcome with
  | .completed now => row.finishAction .completed none now
  | .failed errorText => row.runtimeFailed errorText
  | .aborted => row

/-! ## The timeout handler -/

/-- The error text of `_handle_timed_out_action`. -/
def ChatDispatchWorkerService.timeoutErrorText (svc : ChatDispatchWorkerService)
    (attempt : ℤ) : String :=
  "timed out after " ++ toString svc.chatActionTimeoutSeconds ++ " seconds (attempt " ++
    toString attempt ++ "/" ++ toString svc.chatActionMaxTimeoutAttempts ++ ")"

/-- What the handler writes into the row it saw running as `seen`. -/
def ChatDispatchWorkerService.timedOut (svc : ChatDispatchWorkerService) (seen : ActionDispatch)
    (now : Timestamp) (row : ActionDispatch) : ActionDispatch :=
  { row with
    status := .failed
    errorText := some (svc.timeoutErrorText (chatRetryAttempt seen.payloadJson))
    finishedAt := some now }

/-- The retry the handler enqueues while attempts remain. -/
def ChatDispatchWorkerService.retryAction (svc : ChatDispatchWorkerService)
    (seen : ActionDispatch) (newId : RowId) (now : Timestamp) : Option ActionDispatch :=
  let attempt := chatRetryAttempt seen.payloadJson
  if attempt < svc.chatActionMaxTimeoutAttempts then
    some
      { id := newId
        target := seen.target
        eventType := .chat
        status := .queued
        debounceUntil := some now
        payloadJson := (seen.payloadJson.set "chat_retry_attempt" (.num (attempt + 1))).set
          "chat_retry_parent_action_id" (.str seen.id)
        queuedAt := now }
  else none

/-! ## What these writes change -/

/-- A write that keeps what identifies an action, and makes no row queued or running that was
not. -/
structure NeverStarts (f : ActionDispatch → ActionDispatch) : Prop where
  id : ∀ row, (f row).id = row.id
  target : ∀ row, (f row).target = row.target
  eventType : ∀ row, (f row).eventType = row.eventType
  startedAt : ∀ row, (f row).startedAt = row.startedAt
  queued : ∀ row, (f row).status = .queued → row.status = .queued
  running : ∀ row, (f row).status = .running → row.status = .running

lemma neverStarts_write (outcome : RoundOutcome) : NeverStarts outcome.write := by
  cases outcome with
  | completed now =>
    constructor <;> intro row <;> simp only [RoundOutcome.write, ActionDispatch.finishAction] <;>
      split <;> simp
  | failed errorText =>
    constructor <;> intro row <;> simp [RoundOutcome.write, ActionDispatch.runtimeFailed]
  | aborted => constructor <;> intro row <;> simp [RoundOutcome.write]

lemma neverStarts_timedOut (svc : ChatDispatchWorkerService) (seen : ActionDispatch)
    (now : Timestamp) : NeverStarts (svc.timedOut seen now) := by
  constructor <;> intro row <;> simp [ChatDispatchWorkerService.timedOut]

lemma neverStarts_joined (until_ : Timestamp) (payload : JsonDict) :
    NeverStarts fun row => row.joined until_ payload := by
  constructor <;> intro row <;> simp

lemma retryAction_spec {svc : ChatDispatchWorkerService} {seen retry : ActionDispatch}
    {newId : RowId} {now : Timestamp} (h : svc.retryAction seen newId now = some retry) :
    retry.id = newId ∧ retry.target = seen.target ∧ retry.eventType = .chat ∧
      retry.status = .queued ∧ retry.startedAt = none := by
  simp only [ChatDispatchWorkerService.retryAction] at h
  split at h
  · cases h
    exact ⟨rfl, rfl, rfl, rfl, rfl⟩
  · cases h

end CocoonSit
