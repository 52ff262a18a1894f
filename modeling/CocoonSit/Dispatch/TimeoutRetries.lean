import CocoonSit.Dispatch.ProcessNext
import CocoonSit.Memory.Rounds
import CocoonSit.Plugins.Cron

/-!
# What a timed-out action is retried as

`ChatDispatchWorkerService` runs whatever action is ready: chat messages, edits and retries that a
user has asked for.  When the round of one times out, `_handle_timed_out_action` fails the action
and enqueues another one with its payload, as long as the counter in the payload has not reached the
maximum.  The new action is always a chat action, so the clean-up that an edit or a retry starts
with is not done again; and the counter is read with `int`, which raises for what is no number.

In a run, timeouts come between any other transactions.  The state counts the attempts of each chain
of timeouts.
-/

namespace CocoonSit

open Table TransitionSystem

namespace TimeoutRetries

/-! ## Preparation of a round -/

/-- `RoundPreparationService.prepare`, for the tables it cleans up; an edit's payload must have a
`message_id`. -/
def prepare (db : Db) (action : ActionDispatch) : Option Db :=
  match action.eventType with
  | .edit =>
    if (action.payloadJson "message_id").isSome then
      some ((MemoryRound.messageIdOf action.payloadJson).elim db
        (RoundCleanup.cleanupForEdit db action.target))
    else none
  | .retry =>
    some (RoundCleanup.cleanupForRetry db action.target
      (MemoryRound.messageIdOf action.payloadJson))
  | _ => some db

/-! ## The handler -/

/-- `int(payload.get("chat_retry_attempt") or 1)`. -/
def attemptOf (payload : JsonDict) : Except PyError ℤ :=
  match (payload "chat_retry_attempt").filter JsonValue.truthy with
  | none => .ok 1
  | some (.num n) => .ok n
  | some (.bool _) => .ok 1
  | some (.str text) => intOf text
  | some _ => .error .typeError

variable (svc : ChatDispatchWorkerService)

/-- The failed action. -/
def failedRow (attempt : ℤ) (now : Timestamp) (row : ActionDispatch) : ActionDispatch :=
  { row with
    status := .failed
    errorText := some (svc.timeoutErrorText attempt)
    finishedAt := some now }

/-- The action that is enqueued in its place. -/
def retryRow (seen : ActionDispatch) (attempt : ℤ) (newId : RowId) (now : Timestamp) :
    ActionDispatch :=
  { id := newId
    target := seen.target
    eventType := .chat
    status := .queued
    debounceUntil := some now
    payloadJson := (seen.payloadJson.set "chat_retry_attempt" (.num (attempt + 1))).set
      "chat_retry_parent_action_id" (.str seen.id)
    queuedAt := now }

/-- `_handle_timed_out_action`: the database and the chat queue it leaves.  Where it raises, its
session closes without a commit. -/
def handleTimedOutAction (db : Db) (chatQueue : List RowId) (actionId newId roundId : RowId)
    (now : Timestamp) : Except PyError (Db × List RowId) :=
  match (get db.actions actionId).filter fun action => action.status = .running with
  | none => .ok (db, chatQueue)
  | some seen => do
      let attempt ← attemptOf seen.payloadJson
      let actions := update db.actions actionId (failedRow svc attempt now)
      let failedRounds :=
        db.failedRounds ++ [ProcessNext.ChatCall.failedRound seen roundId "timeout"]
      if attempt < svc.chatActionMaxTimeoutAttempts then
        let retry := retryRow seen attempt newId now
        .ok ({ db with actions := actions ++ [retry], failedRounds := failedRounds },
          chatQueue ++ [retry.id])
      else
        .ok ({ db with actions := actions, failedRounds := failedRounds }, chatQueue)

lemma retryAction_eq_retryRow {seen : ActionDispatch} {newId : RowId} {now : Timestamp}
    (hcounter : ∀ v, seen.payloadJson "chat_retry_attempt" = some v → ∃ n, v = .num n) :
    (attemptOf seen.payloadJson).toOption = some (chatRetryAttempt seen.payloadJson) ∧
      svc.retryAction seen newId now =
        if chatRetryAttempt seen.payloadJson < svc.chatActionMaxTimeoutAttempts then
          some (retryRow seen (chatRetryAttempt seen.payloadJson) newId now)
        else none := by
  refine ⟨?_, rfl⟩
  cases hv : seen.payloadJson "chat_retry_attempt" with
  | none =>
    rw [attemptOf, chatRetryAttempt, hv]
    rfl
  | some v =>
    obtain ⟨n, rfl⟩ := hcounter v hv
    rw [attemptOf, chatRetryAttempt, hv]
    by_cases hn : n = 0
    · subst hn
      rfl
    · have htruthy : JsonValue.truthy (.num n) = true := by simp [JsonValue.truthy, hn]
      rw [Option.filter_some, if_pos htruthy]
      simp [hn, Except.toOption]

/-! ## Runs -/

/-- The tables, the chat queue, and which attempt of its chain an action is. -/
structure State where
  db : Db
  chatQueue : List RowId := []
  attempts : RowId → ℕ := fun _ => 1

inductive Event where
  /-- The round of an action has timed out. -/
  | timeOut (actionId newId roundId : RowId) (now : Timestamp)
  /-- Other transactions, of any kind. -/
  | elsewhere (db : Db) (chatQueue : List RowId)

/-- Keys are drawn fresh. -/
def step (s : State) : Event → Option State
  | .timeOut actionId newId roundId now =>
    if newId ∈ s.db.actions.map key then none
    else
      match handleTimedOutAction svc s.db s.chatQueue actionId newId roundId now with
      | .error _ => some s
      | .ok (db, chatQueue) => some
          { db := db
            chatQueue := chatQueue
            attempts :=
              if newId ∈ db.actions.map key then
                Function.update s.attempts newId (s.attempts actionId + 1)
              else s.attempts }
  | .elsewhere db chatQueue => some { s with db := db, chatQueue := chatQueue }

/-! ## The property and its condition -/

/-- The second action does what the first one does: it is of the same kind, for the same target and
the same user message, and its round is prepared the same way. -/
structure SameOperation (seen retry : ActionDispatch) : Prop where
  eventType : retry.eventType = seen.eventType
  target : retry.target = seen.target
  message : retry.payloadJson "message_id" = seen.payloadJson "message_id"
  prepared : ∀ db, prepare db retry = prepare db seen

/-- The action has failed, and one action that does what it does is enqueued in its place if and
only if the chain has attempts left. -/
def RetriedAs (s s' : State) (seen : ActionDispatch) : Prop :=
  (∃ failed, get s'.db.actions seen.id = some failed ∧ failed.status = .failed) ∧
    ∃ retry : Option ActionDispatch,
      s'.chatQueue = s.chatQueue ++ retry.toList.map ActionDispatch.id ∧
      (retry.isSome ↔ (s.attempts seen.id : ℤ) < svc.chatActionMaxTimeoutAttempts) ∧
      ∀ r ∈ retry, get s'.db.actions r.id = some r ∧ r.status = .queued ∧ SameOperation seen r ∧
        s'.attempts r.id = s.attempts seen.id + 1

/-- What is asked of the timeout of a running action. -/
def Retried (s : State) (event : Event) (s' : State) : Prop :=
  match event with
  | .timeOut actionId _ _ _ =>
    ∀ seen, get s.db.actions actionId = some seen → seen.status = .running →
      RetriedAs svc s s' seen
  | .elsewhere .. => True

/-- No chain of timeouts has more attempts than the maximum. -/
def ChainsStop (s : State) : Prop :=
  ∀ actionId, (s.attempts actionId : ℤ) ≤ max 1 svc.chatActionMaxTimeoutAttempts

/-- An action that times out has a counter that can be read and says whether there are attempts
left, and while there are it is a chat action. -/
def ChatWhileRetried (s : State) (event : Event) : Prop :=
  match event with
  | .timeOut actionId newId _ _ =>
    newId ∉ s.db.actions.map key →
      ∀ seen, get s.db.actions actionId = some seen → seen.status = .running →
        ∃ attempt, attemptOf seen.payloadJson = .ok attempt ∧
          (attempt < svc.chatActionMaxTimeoutAttempts ↔
            (s.attempts actionId : ℤ) < svc.chatActionMaxTimeoutAttempts) ∧
          (attempt < svc.chatActionMaxTimeoutAttempts → seen.eventType = .chat)
  | .elsewhere .. => True

/-! ## Steps -/

variable {svc} {s s' : State} {seen : ActionDispatch} {newId roundId : RowId} {now : Timestamp}

lemma failedRow_id (attempt : ℤ) (row : ActionDispatch) :
    key (failedRow svc attempt now row) = key row := rfl

lemma step_timeOut_cases {actionId : RowId}
    (h : step svc s (.timeOut actionId newId roundId now) = some s') :
    s' = s ∨ ∃ seen, seen.id = actionId ∧ newId ∉ s.db.actions.map key ∧
      get s.db.actions seen.id = some seen ∧ seen.status = .running := by
  by_cases hfresh : newId ∈ s.db.actions.map key
  · simp only [step, if_pos hfresh] at h
    cases h
  cases hfilter : (get s.db.actions actionId).filter fun action => action.status = .running with
  | none =>
    have hhandle : handleTimedOutAction svc s.db s.chatQueue actionId newId roundId now =
        .ok (s.db, s.chatQueue) := by
      unfold handleTimedOutAction
      rw [hfilter]
    simp only [step, if_neg hfresh, hhandle] at h
    exact .inl (Option.some.inj h).symm
  | some seen =>
    obtain ⟨hseen, hrunning⟩ := Option.filter_eq_some_iff.mp hfilter
    obtain rfl : seen.id = actionId := key_of_get hseen
    exact .inr ⟨seen, rfl, hfresh, hseen, by simpa using hrunning⟩

variable (svc newId roundId now) in
lemma handleTimedOutAction_of_attempt {attempt : ℤ} (hseen : get s.db.actions seen.id = some seen)
    (hrunning : seen.status = .running) (hattempt : attemptOf seen.payloadJson = .ok attempt) :
    ∃ failedRounds, handleTimedOutAction svc s.db s.chatQueue seen.id newId roundId now =
      .ok ({ s.db with
          actions := update s.db.actions seen.id (failedRow svc attempt now) ++
            if attempt < svc.chatActionMaxTimeoutAttempts then [retryRow seen attempt newId now]
            else []
          failedRounds := failedRounds },
        s.chatQueue ++ if attempt < svc.chatActionMaxTimeoutAttempts then [newId] else []) := by
  refine ⟨s.db.failedRounds ++ [ProcessNext.ChatCall.failedRound seen roundId "timeout"], ?_⟩
  have hfilter : (get s.db.actions seen.id).filter (fun action => action.status = .running) =
      some seen := by
    rw [hseen, Option.filter_some, if_pos (by simpa using hrunning)]
  unfold handleTimedOutAction
  rw [hfilter]
  dsimp only
  rw [hattempt]
  by_cases hleft : attempt < svc.chatActionMaxTimeoutAttempts
  · simp only [if_pos hleft]
    exact if_pos hleft
  · simp only [if_neg hleft, List.append_nil]
    exact if_neg hleft

lemma get_failed {attempt : ℤ} {new : List ActionDispatch}
    (hseen : get s.db.actions seen.id = some seen) :
    get (update s.db.actions seen.id (failedRow svc attempt now) ++ new) seen.id =
      some (failedRow svc attempt now seen) := by
  rw [get_append_of_mem, get_update (failedRow_id attempt), hseen, Option.map_some,
    if_pos (show key seen = seen.id from rfl)]
  rw [map_key_update (failedRow_id attempt)]
  exact get_isSome_iff.mp (by rw [hseen]; rfl)

lemma get_retry {attempt : ℤ} (retry : ActionDispatch) (hfresh : retry.id ∉ s.db.actions.map key) :
    get (update s.db.actions seen.id (failedRow svc attempt now) ++ [retry]) retry.id =
      some retry := by
  have hnone : get (update s.db.actions seen.id (failedRow svc attempt now)) retry.id = none := by
    rw [get_eq_none_iff, map_key_update (failedRow_id attempt)]
    exact hfresh
  rw [get_append, hnone, Option.none_or]
  have hnodup : ([retry].map key).Nodup := List.nodup_singleton _
  exact get_of_mem hnodup (List.mem_singleton_self retry)

lemma sameOperation_retryRow_iff {attempt : ℤ} :
    SameOperation seen (retryRow seen attempt newId now) ↔ seen.eventType = .chat := by
  refine ⟨fun h => h.eventType.symm, fun hchat => ?_⟩
  have hmessage : (retryRow seen attempt newId now).payloadJson "message_id" =
      seen.payloadJson "message_id" := by
    simp [retryRow, JsonDict.set]
  refine ⟨hchat.symm, rfl, hmessage, fun db => ?_⟩
  unfold prepare
  rw [hchat]
  rfl

variable (svc roundId now) in
lemma step_timeOut {attempt : ℤ} (hfresh : newId ∉ s.db.actions.map key)
    (hseen : get s.db.actions seen.id = some seen) (hrunning : seen.status = .running)
    (hattempt : attemptOf seen.payloadJson = .ok attempt) :
    ∃ s', step svc s (.timeOut seen.id newId roundId now) = some s' ∧
      (RetriedAs svc s s' seen ↔
        (attempt < svc.chatActionMaxTimeoutAttempts ↔
          (s.attempts seen.id : ℤ) < svc.chatActionMaxTimeoutAttempts) ∧
        (attempt < svc.chatActionMaxTimeoutAttempts → seen.eventType = .chat)) ∧
      s'.db.actions = update s.db.actions seen.id (failedRow svc attempt now) ++
        (if attempt < svc.chatActionMaxTimeoutAttempts then [retryRow seen attempt newId now]
          else []) ∧
      s'.attempts = if attempt < svc.chatActionMaxTimeoutAttempts then
        Function.update s.attempts newId (s.attempts seen.id + 1) else s.attempts := by
  obtain ⟨failedRounds, hhandle⟩ := handleTimedOutAction_of_attempt svc newId roundId now
    hseen hrunning hattempt
  by_cases hleft : attempt < svc.chatActionMaxTimeoutAttempts
  · have hmem : newId ∈ (update s.db.actions seen.id (failedRow svc attempt now) ++
        [retryRow seen attempt newId now]).map key := by
      rw [List.map_append]
      exact List.mem_append_right _ (List.mem_singleton_self newId)
    have hretry : get (update s.db.actions seen.id (failedRow svc attempt now) ++
        [retryRow seen attempt newId now]) newId = some (retryRow seen attempt newId now) :=
      get_retry (retryRow seen attempt newId now) hfresh
    simp only [step, if_neg hfresh, hhandle, if_pos hleft, if_pos hmem]
    refine ⟨_, rfl, ?_, rfl, rfl⟩
    constructor
    · rintro ⟨-, retry, hqueue, hattempts, hretried⟩
      -- the queue and the table tell which action was enqueued
      have hids := (List.append_cancel_left hqueue).symm
      obtain ⟨r, rfl⟩ : ∃ r, retry = some r := by
        cases retry with
        | none => cases hids
        | some r => exact ⟨r, rfl⟩
      obtain ⟨hget, -, hsame, -⟩ := hretried r rfl
      have hid : r.id = newId := by simpa using hids
      have hrow : retryRow seen attempt newId now = r :=
        Option.some.inj (hretry.symm.trans (hid ▸ hget))
      have hchat : seen.eventType = .chat := sameOperation_retryRow_iff.mp (hrow ▸ hsame)
      exact ⟨iff_of_true hleft (hattempts.mp rfl), fun _ => hchat⟩
    · rintro ⟨hiff, hchat⟩
      refine ⟨⟨_, get_failed hseen, rfl⟩, some (retryRow seen attempt newId now), rfl,
        iff_of_true rfl (hiff.mp hleft), ?_⟩
      rintro r ⟨⟩
      exact ⟨hretry, rfl, sameOperation_retryRow_iff.mpr (hchat hleft), Function.update_self ..⟩
  · have hmem : newId ∉
        (update s.db.actions seen.id (failedRow svc attempt now) ++ []).map key := by
      rw [List.append_nil, map_key_update (failedRow_id attempt)]
      exact hfresh
    simp only [step, if_neg hfresh, hhandle, if_neg hleft, if_neg hmem]
    refine ⟨_, rfl, ?_, rfl, rfl⟩
    constructor
    · rintro ⟨-, retry, hqueue, hattempts, -⟩
      have hids := (List.append_cancel_left hqueue).symm
      cases retry with
      | none => exact ⟨iff_of_false hleft fun h => by simpa using hattempts.mpr h,
          fun h => absurd h hleft⟩
      | some r => cases hids
    · rintro ⟨hiff, -⟩
      refine ⟨⟨_, get_failed hseen, rfl⟩, none, rfl, ?_, by rintro _ ⟨⟩⟩
      exact iff_of_false Bool.false_ne_true (mt hiff.mpr hleft)

variable (svc roundId now) in
lemma step_timeOut_of_error {error : PyError} (hfresh : newId ∉ s.db.actions.map key)
    (hseen : get s.db.actions seen.id = some seen) (hrunning : seen.status = .running)
    (hattempt : attemptOf seen.payloadJson = .error error) :
    step svc s (.timeOut seen.id newId roundId now) = some s ∧ ¬ RetriedAs svc s s seen := by
  constructor
  · have hfilter : (get s.db.actions seen.id).filter (fun action => action.status = .running) =
        some seen := by
      rw [hseen, Option.filter_some, if_pos (by simpa using hrunning)]
    have hraises : handleTimedOutAction svc s.db s.chatQueue seen.id newId roundId now =
        .error error := by
      unfold handleTimedOutAction
      rw [hfilter]
      dsimp only
      rw [hattempt]
      rfl
    simp only [step, if_neg hfresh, hraises]
  · rintro ⟨⟨failed, hfailed, hstatus⟩, -⟩
    obtain rfl : seen = failed := Option.some.inj (hseen.symm.trans hfailed)
    rw [hrunning] at hstatus
    cases hstatus

lemma retried_iff_step (s : State) (event : Event) :
    (∀ s', step svc s event = some s' → Retried svc s event s') ↔
      ChatWhileRetried svc s event := by
  cases event with
  | elsewhere db chatQueue => exact iff_of_true (fun _ _ => trivial) trivial
  | timeOut actionId newId roundId now =>
    by_cases hfresh : newId ∈ s.db.actions.map key
    · refine iff_of_true (fun s' hstep => ?_) fun hnot => absurd hfresh hnot
      simp only [step, if_pos hfresh] at hstep
      cases hstep
    unfold Retried ChatWhileRetried
    constructor
    · intro h _ seen hseen hrunning
      obtain rfl : seen.id = actionId := key_of_get hseen
      cases hattempt : attemptOf seen.payloadJson with
      | error error =>
        obtain ⟨hstep, hnot⟩ :=
          step_timeOut_of_error svc roundId now hfresh hseen hrunning hattempt
        exact absurd (h s hstep seen hseen hrunning) hnot
      | ok attempt =>
        obtain ⟨s', hstep, hiff, -⟩ :=
          step_timeOut svc roundId now hfresh hseen hrunning hattempt
        exact ⟨attempt, rfl, hiff.mp (h s' hstep seen hseen hrunning)⟩
    · intro h s' hstep seen hseen hrunning
      obtain rfl : seen.id = actionId := key_of_get hseen
      obtain ⟨attempt, hattempt, hcondition⟩ := h hfresh seen hseen hrunning
      obtain ⟨s'', hstep', hiff, -⟩ :=
        step_timeOut svc roundId now hfresh hseen hrunning hattempt
      obtain rfl : s'' = s' := Option.some.inj (hstep'.symm.trans hstep)
      exact hiff.mpr hcondition

lemma chainsStop_step {event : Event} (h : ChainsStop svc s) (hok : ChatWhileRetried svc s event)
    (hstep : step svc s event = some s') : ChainsStop svc s' := by
  cases event with
  | elsewhere db chatQueue =>
    cases hstep
    exact h
  | timeOut actionId newId roundId now =>
    rcases step_timeOut_cases hstep with heq | ⟨seen, rfl, hfresh, hseen, hrunning⟩
    · rw [heq]
      exact h
    · obtain ⟨attempt, hattempt, hiff, -⟩ := hok hfresh seen hseen hrunning
      obtain ⟨s'', hstep', -, -, hattempts⟩ :=
        step_timeOut svc roundId now hfresh hseen hrunning hattempt
      obtain rfl : s'' = s' := Option.some.inj (hstep'.symm.trans hstep)
      intro actionId
      rw [hattempts]
      by_cases hleft : attempt < svc.chatActionMaxTimeoutAttempts
      · rw [if_pos hleft]
        by_cases hid : actionId = newId
        · subst hid
          rw [Function.update_self]
          have hcount := hiff.mp hleft
          push_cast
          omega
        · rw [Function.update_of_ne hid]
          exact h actionId
      · rw [if_neg hleft]
        exact h actionId

/-- The state before any timeout. -/
def State.start (db : Db) (chatQueue : List RowId) : State := { db := db, chatQueue := chatQueue }

lemma chainsStop_start (db : Db) (chatQueue : List RowId) :
    ChainsStop svc (State.start db chatQueue) := fun _ => le_max_left _ _

variable (svc) in
/-- In every run, what times out is retried as what it is, as often as the maximum says and then
left failed, if and only if every action that times out while its chain has attempts left is a chat
action, and the counters in the payloads of those that time out can be read and say how many
attempts are left. -/
theorem retried_iff_chatWhileRetried (db : Db) (chatQueue : List RowId) (events : List Event) :
    AllSteps (step svc) (Retried svc) (State.start db chatQueue) events ∧
        AllStates (step svc) (ChainsStop svc) (State.start db chatQueue) events ↔
      StepsMeet (step svc) (ChatWhileRetried svc) (State.start db chatQueue) events := by
  have hsteps : AllSteps (step svc) (Retried svc) (State.start db chatQueue) events ↔
      StepsMeet (step svc) (ChatWhileRetried svc) (State.start db chatQueue) events :=
    allSteps_iff_stepsMeet (fun _ => True) (fun s event _ => retried_iff_step s event)
      (fun _ _ _ _ _ _ => trivial) trivial
  rw [hsteps]
  refine and_iff_left_of_imp fun hmeet => ?_
  exact allStates_of_stepsMeet (ChainsStop svc)
    (fun _ _ _ h hok hstep => chainsStop_step h hok hstep) (fun _ h => h)
    (chainsStop_start db chatQueue) hmeet

def editOutOfTime : Db where
  cocoons := [{ id := "c", ownerUserId := "u", characterId := "k" }]
  messages :=
    [{ id := "question", target := .cocoon "c", role := .user, content := "When?", createdAt := 1 },
     { id := "answer"
       target := .cocoon "c"
       role := .assistant
       content := "Now."
       createdAt := 2 }]
  actions :=
    [{ id := "edit"
       target := .cocoon "c"
       eventType := .edit
       status := .running
       payloadJson := .ofList [("message_id", .str "question"), ("debounce_key", .str "edit:")]
       queuedAt := 3 }]

/-- It is retried as a chat action. -/
theorem edit_retried_as_chat :
    ¬ ∀ svc db chatQueue events,
      AllSteps (step svc) (Retried svc) (State.start db chatQueue) events ∧
        AllStates (step svc) (ChainsStop svc) (State.start db chatQueue) events := by
  intro h
  have hsteps := (h {} editOutOfTime [] [.timeOut "edit" "retry" "round" 4]).1
  have hmeet := (retried_iff_step _ _).mp hsteps.1
  obtain ⟨attempt, hattempt, -, hchat⟩ := hmeet (by decide) _ rfl rfl
  obtain rfl : 1 = attempt := Except.ok.inj hattempt
  exact absurd (hchat (by decide)) (by decide)

/-! ## The counters of the services -/

/-- The payload has the counter `n`; without one it counts as the first attempt. -/
def Counts (payload : JsonDict) (n : ℕ) : Prop :=
  match payload "chat_retry_attempt" with
  | none => n = 1
  | some v => v = .num n ∧ n ≠ 0

lemma attemptOf_of_counts {payload : JsonDict} {n : ℕ} (h : Counts payload n) :
    attemptOf payload = .ok (n : ℤ) := by
  unfold Counts at h
  unfold attemptOf
  cases hv : payload "chat_retry_attempt" with
  | none =>
    rw [hv] at h
    subst h
    rfl
  | some v =>
    rw [hv] at h
    obtain ⟨rfl, hn⟩ := h
    have htruthy : JsonValue.truthy (.num n) = true := by simp [JsonValue.truthy, hn]
    rw [Option.filter_some, if_pos htruthy]

lemma chatRetryAttempt_of_counts {payload : JsonDict} {n : ℕ} (h : Counts payload n) :
    chatRetryAttempt payload = n := by
  unfold Counts at h
  unfold chatRetryAttempt
  cases hv : payload "chat_retry_attempt" with
  | none =>
    rw [hv] at h
    subst h
    rfl
  | some v =>
    rw [hv] at h
    obtain ⟨rfl, hn⟩ := h
    exact if_neg (by exact_mod_cast hn)

lemma counts_num {payload : JsonDict} {n : ℕ} (h : payload "chat_retry_attempt" = some (.num n))
    (hn : n ≠ 0) : Counts payload n := by
  unfold Counts
  rw [h]
  exact ⟨rfl, hn⟩

lemma ne_zero_of_counts {payload : JsonDict} {n : ℕ} (h : Counts payload n) : n ≠ 0 := by
  unfold Counts at h
  split at h
  · subst h
    exact one_ne_zero
  · exact h.2

/-- Every action has a counter that says which attempt of its chain it is. -/
def Counted (s : State) : Prop := ∀ row ∈ s.db.actions, Counts row.payloadJson (s.attempts row.id)

/-- Other transactions keep the counters, and start new actions on their first attempt. -/
def CountersKept (s : State) (event : Event) : Prop :=
  match event with
  | .timeOut .. => True
  | .elsewhere db _ => ∀ row ∈ db.actions,
      (∃ old ∈ s.db.actions, old.id = row.id ∧
          ∀ n, Counts old.payloadJson n → Counts row.payloadJson n) ∨
        (s.attempts row.id = 1 ∧ Counts row.payloadJson 1)

lemma counted_step {event : Event} (h : Counted s) (hkept : CountersKept s event)
    (hstep : step svc s event = some s') : Counted s' := by
  cases event with
  | elsewhere db chatQueue =>
    cases hstep
    intro row hrow
    rcases hkept row hrow with ⟨old, hold, hid, hcounts⟩ | ⟨hfirst, hcounts⟩
    · exact hid ▸ hcounts _ (h old hold)
    · exact hfirst.symm ▸ hcounts
  | timeOut actionId newId roundId now =>
    rcases step_timeOut_cases hstep with heq | ⟨seen, rfl, hfresh, hseen, hrunning⟩
    · rw [heq]
      exact h
    · have hcounts := h seen (mem_of_get hseen)
      obtain ⟨s'', hstep', -, hactions, hattempts⟩ :=
        step_timeOut svc roundId now hfresh hseen hrunning
          (attemptOf_of_counts hcounts)
      obtain rfl : s'' = s' := Option.some.inj (hstep'.symm.trans hstep)
      have hold : ∀ row ∈ update s.db.actions seen.id
          (failedRow svc (s.attempts seen.id : ℤ) now),
          row.id ≠ newId ∧ Counts row.payloadJson (s.attempts row.id) := by
        intro row hrow
        rcases mem_update.mp hrow with ⟨old, hmem, -, rfl⟩ | ⟨hmem, -⟩
        · have hmem' : old.id ∈ s.db.actions.map key := List.mem_map_of_mem (f := key) hmem
          exact ⟨fun hid => hfresh (hid ▸ hmem'), h old hmem⟩
        · have hmem' : row.id ∈ s.db.actions.map key := List.mem_map_of_mem (f := key) hmem
          exact ⟨fun hid => hfresh (hid ▸ hmem'), h row hmem⟩
      intro row hrow
      rw [hactions, List.mem_append] at hrow
      rw [hattempts]
      by_cases hleft : (s.attempts seen.id : ℤ) < svc.chatActionMaxTimeoutAttempts
      · rw [if_pos hleft] at hrow ⊢
        rcases hrow with hrow | hrow
        · obtain ⟨hne, hcount⟩ := hold row hrow
          rw [Function.update_of_ne hne]
          exact hcount
        · obtain rfl := List.mem_singleton.mp hrow
          have hid : (retryRow seen (s.attempts seen.id : ℤ) newId now).id = newId := rfl
          rw [hid, Function.update_self]
          refine counts_num ?_ (Nat.succ_ne_zero _)
          simp [retryRow, JsonDict.set]
      · rw [if_neg hleft] at hrow ⊢
        rcases hrow with hrow | hrow
        · exact (hold row hrow).2
        · cases hrow

variable (svc) in
/-- An action that times out while its chain has attempts left is a chat action. -/
def ChatOnly (s : State) (event : Event) : Prop :=
  match event with
  | .timeOut actionId newId _ _ =>
    newId ∉ s.db.actions.map key →
      ∀ seen, get s.db.actions actionId = some seen → seen.status = .running →
        (s.attempts actionId : ℤ) < svc.chatActionMaxTimeoutAttempts → seen.eventType = .chat
  | .elsewhere .. => True

lemma chatWhileRetried_iff_chatOnly {event : Event} (h : Counted s) :
    ChatWhileRetried svc s event ↔ ChatOnly svc s event := by
  cases event with
  | elsewhere db chatQueue => exact Iff.rfl
  | timeOut actionId newId roundId now =>
    refine forall_congr' fun _ => forall₃_congr fun seen hseen _ => ?_
    obtain rfl : seen.id = actionId := key_of_get hseen
    have hattempt := attemptOf_of_counts (h seen (mem_of_get hseen))
    constructor
    · rintro ⟨attempt, hread, hiff, hchat⟩ hleft
      obtain rfl : (s.attempts seen.id : ℤ) = attempt :=
        Except.ok.inj (hattempt.symm.trans hread)
      exact hchat hleft
    · exact fun hchat => ⟨_, hattempt, Iff.rfl, hchat⟩

lemma countersKept_commitChat {chat : MessageDispatchService} {target : Target}
    {pending : Option ActionDispatch} {sub : ChatSubmission} {keys : NewKeys}
    {chatQueue : List RowId} (hkeys : (s.db.actions.map key).Nodup)
    (hpending : ∀ a ∈ pending, a ∈ s.db.actions)
    (hextra : sub.extraPayload "chat_retry_attempt" = none)
    (hfresh : s.attempts keys.actionId = 1) :
    CountersKept s (.elsewhere (chat.commitChat s.db target pending sub keys now).1 chatQueue) := by
  have hcounter : (chat.chatPayload s.db target pending sub keys now) "chat_retry_attempt" =
      some (.num (chatRetryAttempt
        (chat.chatAction s.db target pending sub keys now).payloadJson)) := by
    unfold MessageDispatchService.chatPayload MessageDispatchService.finalPayload
    rw [JsonDict.merge_of_none hextra]
    cases target <;>
      simp [JsonDict.ofList, ChatSubmission.senderFields, ChatSubmission.clientFields, roomFields]
  intro row hrow
  cases pending with
  | none =>
    rw [commitChat_create_actions] at hrow
    rcases List.mem_append.mp hrow with hold | hnew
    · exact .inl ⟨row, hold, rfl, fun _ h => h⟩
    · obtain rfl := List.mem_singleton.mp hnew
      refine .inr ⟨hfresh, counts_num (hcounter.trans ?_) one_ne_zero⟩
      have hinitial : (chat.initialPayload target ((targetCharacter s.db target).getD "") sub)
          "chat_retry_attempt" = some (.num 1) := by
        unfold MessageDispatchService.initialPayload
        rw [JsonDict.merge_of_none hextra]
        cases target <;>
          simp [JsonDict.ofList, ChatSubmission.senderFields, ChatSubmission.clientFields,
            roomFields]
      have hattempt := chatRetryAttempt_of_counts (counts_num (n := 1) hinitial one_ne_zero)
      exact congrArg (fun n => some (JsonValue.num n)) hattempt
  | some action =>
    rw [commitChat_aggregate_actions] at hrow
    rcases mem_update.mp hrow with ⟨old, hold, hid, rfl⟩ | ⟨hold, -⟩
    · obtain rfl : old = action := List.inj_on_of_nodup_map hkeys hold (hpending action rfl) hid
      refine .inl ⟨old, hold, rfl, fun n hcounts => counts_num (hcounter.trans ?_) ?_⟩
      · exact congrArg (fun n => some (JsonValue.num n)) (chatRetryAttempt_of_counts hcounts)
      · exact ne_zero_of_counts hcounts
    · exact .inl ⟨row, hold, rfl, fun _ h => h⟩

end TimeoutRetries

end CocoonSit
