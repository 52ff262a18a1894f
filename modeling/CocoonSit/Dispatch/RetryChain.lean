import CocoonSit.Dispatch.ChatWorker
import CocoonSit.Lib.Run

/-!
# A chat action, its timeout, and its retries

One chat action and the retries its timeouts lead to.  Each attempt has a runtime thread, which is
one transaction from the context to `finish_action`, and a timeout handler, which reads the action
in one step and commits the failure and the retry in a later one.  A thread is never stopped: it
re-reads the status of its action before it persists the thought and before it persists the reply.

From the moment it writes `used_memory_ids` into the payload the thread holds the row lock of its
action, and the first re-read comes after that write.  So a failure committed before it is seen,
and one that comes later has to wait for the thread's commit.  What the handler does not do is read
the status again once it has the lock.
-/

namespace CocoonSit

open Table TransitionSystem

namespace RetryChain

/-- What a round commits on behalf of its action. -/
inductive Effect where
  | statePatch | thought | reply | memory
deriving DecidableEq, Repr

/-- How far a round has come, in the order of the graph's nodes. -/
inductive Phase where
  /-- The round has begun; the context is built and the models are asked. -/
  | begun
  /-- `apply_state_patch` is flushed. -/
  | statePatched
  /-- `used_memory_ids` is written into the payload. -/
  | payloadWritten
  | thoughtPersisted
  | replyPersisted
deriving DecidableEq, Repr

/-- The transaction holds the row lock of its action. -/
def Phase.locks : Phase → Bool
  | .begun => false
  | .statePatched => false
  | _ => true

/-- The status was re-read under the lock. -/
def Phase.checked : Phase → Bool
  | .thoughtPersisted => true
  | .replyPersisted => true
  | _ => false

/-- What is flushed and not committed yet. -/
def Phase.flushed : Phase → List Effect
  | .begun => []
  | .statePatched => [.statePatch]
  | .payloadWritten => [.statePatch]
  | .thoughtPersisted => [.thought, .statePatch]
  | .replyPersisted => [.reply, .thought, .statePatch]

/-- The runtime thread of an action. -/
inductive Thread where
  /-- The action is not claimed. -/
  | idle
  /-- Handed to the executor. -/
  | submitted
  /-- Inside the round, with the payload as its session has it. -/
  | rounding (phase : Phase) (payload : JsonDict)
  /-- The round raised and is rolled back. -/
  | raised (errorText : String)
  | ended

def Thread.locks : Thread → Bool
  | .rounding phase _ => phase.locks
  | _ => false

def Thread.checked : Thread → Bool
  | .rounding phase _ => phase.checked
  | _ => false

/-- The timeout handler of an action. -/
inductive Handler where
  | waiting
  /-- It has read the action running, as `seen`. -/
  | failing (seen : ActionDispatch)
  | done

/-- The row the handler decides on. -/
def Handler.seen : Handler → Option ActionDispatch
  | .failing seen => some seen
  | _ => none

inductive Entry where
  /-- The handler's failure of an action is committed. -/
  | timedOut (actionId : RowId)
  /-- An effect of an action's round is committed. -/
  | committed (actionId : RowId) (effect : Effect)
deriving DecidableEq, Repr

def Entry.actionId : Entry → RowId
  | .timedOut actionId => actionId
  | .committed actionId _ => actionId

def Entry.isReply : Entry → Bool
  | .committed _ .reply => true
  | _ => false

/-- The attempts, their threads and handlers, and what was committed so far, latest first. -/
structure State where
  actions : List ActionDispatch
  threads : RowId → Thread := fun _ => .idle
  handlers : RowId → Handler := fun _ => .waiting
  log : List Entry := []

def State.setThread (s : State) (id : RowId) (thread : Thread) : State :=
  { s with threads := Function.update s.threads id thread }

def State.setHandler (s : State) (id : RowId) (handler : Handler) : State :=
  { s with handlers := Function.update s.handlers id handler }

@[simp] lemma setThread_self (s : State) (id : RowId) (thread : Thread) :
    (s.setThread id thread).threads id = thread := Function.update_self ..

lemma setThread_of_ne (s : State) {id id' : RowId} (thread : Thread) (h : id' ≠ id) :
    (s.setThread id thread).threads id' = s.threads id' := Function.update_of_ne h ..

@[simp] lemma setHandler_self (s : State) (id : RowId) (handler : Handler) :
    (s.setHandler id handler).handlers id = handler := Function.update_self ..

lemma setHandler_of_ne (s : State) {id id' : RowId} (handler : Handler) (h : id' ≠ id) :
    (s.setHandler id handler).handlers id' = s.handlers id' := Function.update_of_ne h ..

inductive Event where
  /-- A message joins the action: `debounce_until` and the payload are rewritten. -/
  | join (id : RowId) (until_ : Timestamp) (payload : JsonDict)
  /-- A worker claims the action and submits its thread. -/
  | claim (id : RowId) (now : Timestamp)
  /-- `_run_action_session` reads the action. -/
  | start (id : RowId)
  | patchState (id : RowId)
  | writePayload (id : RowId) (usedMemoryIds : List String)
  | persistThought (id : RowId)
  /-- `deliver`; left out when the decision is silence. -/
  | deliver (id : RowId)
  /-- Memories, `finish_action`, and the commit. -/
  | finish (id : RowId) (now : Timestamp)
  /-- The round raises, anywhere. -/
  | raise (id : RowId) (errorText : String)
  /-- The failure is committed. -/
  | commitFailure (id : RowId)
  /-- `_handle_timed_out_action` reads the action. -/
  | timeoutRead (id : RowId)
  /-- It commits the failure, and the retry if attempts remain. -/
  | timeoutCommit (id : RowId) (retryId : RowId) (now : Timestamp)

/-- What the commit of a round writes into its row. -/
def finishedWith (payload : JsonDict) (now : Timestamp) (row : ActionDispatch) : ActionDispatch :=
  { row with payloadJson := payload }.finishAction .completed none now

/-- `ensure_action_is_writable`, and the flush that follows it. -/
def State.ifWritable (s : State) (id : RowId) (next : Thread) : Option State :=
  (get s.actions id).map fun row =>
    -- `RuntimeActionAbortedError` rolls the round back
    s.setThread id (if row.status = .running then next else .ended)

variable (svc : ChatDispatchWorkerService)

def step (s : State) : Event → Option State
  | .join id until_ payload =>
    if (s.threads id).locks then none
    else some { s with actions := update s.actions id fun row => row.joined until_ payload }
  | .claim id now =>
    match get s.actions id with
    | some row =>
      if row.status = .queued then some
        { s.setThread id .submitted with
          actions := update s.actions id (row.claimed now) }
      else none
    | none => none
  | .start id =>
    match s.threads id, get s.actions id with
    | .submitted, some row => some <|
        s.setThread id
          (if row.status = .running then .rounding .begun row.payloadJson else .ended)
    | _, _ => none
  | .patchState id =>
    match s.threads id with
    | .rounding .begun payload => some (s.setThread id (.rounding .statePatched payload))
    | _ => none
  | .writePayload id usedMemoryIds =>
    match s.threads id with
    | .rounding .statePatched payload => some <|
        s.setThread id (.rounding .payloadWritten
          (payload.set "used_memory_ids" (.arr (usedMemoryIds.map .str))))
    | _ => none
  | .persistThought id =>
    match s.threads id with
    | .rounding .payloadWritten payload =>
      s.ifWritable id (.rounding .thoughtPersisted payload)
    | _ => none
  | .deliver id =>
    match s.threads id with
    | .rounding .thoughtPersisted payload =>
      s.ifWritable id (.rounding .replyPersisted payload)
    | _ => none
  | .finish id now =>
    match s.threads id with
    | .rounding phase payload =>
      if phase.checked then some
        { s.setThread id .ended with
          actions := update s.actions id (finishedWith payload now)
          log := (.memory :: phase.flushed).map (.committed id) ++ s.log }
      else none
    | _ => none
  | .raise id errorText =>
    match s.threads id with
    | .rounding _ _ => some (s.setThread id (.raised errorText))
    | _ => none
  | .commitFailure id =>
    match s.threads id with
    | .raised errorText => some
        { s.setThread id .ended with
          actions := update s.actions id fun row => row.runtimeFailed errorText }
    | _ => none
  | .timeoutRead id =>
    match s.threads id, s.handlers id, get s.actions id with
    | .idle, _, _ => none
    | _, .waiting, some row => some <|
        s.setHandler id (if row.status = .running then .failing row else .done)
    | _, _, _ => none
  | .timeoutCommit id retryId now =>
    match s.handlers id with
    | .failing seen =>
      if (s.threads id).locks ∨ retryId ∈ s.actions.map key then none
      else some
        { s.setHandler id .done with
          actions := update s.actions id (svc.timedOut seen now) ++
            (svc.retryAction seen retryId now).toList
          log := .timedOut id :: s.log }
    | _ => none

/-- The chain starts with one queued action. -/
def ofAction (action : ActionDispatch) : State := { actions := [action] }

/-- At most one reply is committed for the whole chain, and nothing is committed for an action
after its timeout was. -/
structure Sound (s : State) : Prop where
  oneReply : s.log.countP Entry.isReply ≤ 1
  silentAfterTimeout : s.log.Pairwise fun later earlier =>
    ∀ id effect, later = .committed id effect → earlier ≠ .timedOut id

/-- A timeout that leads to a retry is not committed over a reply. -/
def NoLateTimeout (s : State) : Event → Prop
  | .timeoutCommit id retryId now => ∀ seen ∈ (s.handlers id).seen,
      (svc.retryAction seen retryId now).isSome → .committed id .reply ∉ s.log
  | _ => True

instance (s : State) : ∀ e, Decidable (NoLateTimeout svc s e)
  | .timeoutCommit id retryId now => inferInstanceAs
      (Decidable (∀ seen ∈ (s.handlers id).seen,
        (svc.retryAction seen retryId now).isSome → .committed id .reply ∉ s.log))
  | .join .. => .isTrue trivial
  | .claim .. => .isTrue trivial
  | .start .. => .isTrue trivial
  | .patchState .. => .isTrue trivial
  | .writePayload .. => .isTrue trivial
  | .persistThought .. => .isTrue trivial
  | .deliver .. => .isTrue trivial
  | .finish .. => .isTrue trivial
  | .raise .. => .isTrue trivial
  | .commitFailure .. => .isTrue trivial
  | .timeoutRead .. => .isTrue trivial

variable {svc}

/-! ## The invariant -/

/-- The attempt may still come to a reply. -/
def Active (row : ActionDispatch) : Prop := row.status = .queued ∨ row.status = .running

/-- What holds in every state of every run.  An attempt whose handler is not done is *open*: at
most one is, and every active attempt is. -/
structure Inv (s : State) : Prop where
  keys : (s.actions.map key).Nodup
  threadKnown : ∀ id, s.threads id ≠ .idle → id ∈ s.actions.map key
  threadClaimed : ∀ a ∈ s.actions, s.threads a.id ≠ .idle → a.status ≠ .queued
  checkedRunning : ∀ a ∈ s.actions, (s.threads a.id).checked → a.status = .running
  handlerKnown : ∀ id, s.handlers id ≠ .waiting → id ∈ s.actions.map key
  activeOpen : ∀ a ∈ s.actions, Active a → s.handlers a.id ≠ .done
  oneOpen : ∀ a ∈ s.actions, ∀ b ∈ s.actions, s.handlers a.id ≠ .done →
    s.handlers b.id ≠ .done → a.id = b.id
  logKnown : ∀ e ∈ s.log, e.actionId ∈ s.actions.map key
  closed : ∀ e ∈ s.log, ∀ a ∈ s.actions, a.id = e.actionId → ¬ Active a
  silent : s.log.Pairwise fun later earlier =>
    ∀ id effect, later = .committed id effect → earlier ≠ .timedOut id

lemma inv_ofAction {action : ActionDispatch} : Inv (ofAction action) := by
  constructor <;> simp [ofAction, Thread.checked]

lemma checked_of_locks {thread : Thread} (h : thread.checked) : thread.locks := by
  cases thread with
  | rounding phase payload => cases phase <;> simp_all [Thread.checked, Thread.locks,
      Phase.checked, Phase.locks]
  | idle => cases h
  | submitted => cases h
  | raised errorText => cases h
  | ended => cases h

lemma row_of_mem_update {actions : List ActionDispatch} {id : RowId}
    {f : ActionDispatch → ActionDispatch} (hf : ∀ row, (f row).id = row.id) {a : ActionDispatch}
    (h : a ∈ update actions id f) :
    ∃ r ∈ actions, r.id = a.id ∧ ((r.id = id ∧ a = f r) ∨ (r.id ≠ id ∧ a = r)) := by
  rcases mem_update.mp h with ⟨r, hr, hk, rfl⟩ | ⟨ha, hk⟩
  · exact ⟨r, hr, (hf r).symm, .inl ⟨hk, rfl⟩⟩
  · exact ⟨a, ha, rfl, .inr ⟨hk, rfl⟩⟩

lemma inv_row {s : State} (hinv : Inv s) {id : RowId} {f : ActionDispatch → ActionDispatch}
    (hf : NeverStarts f) (hfree : (s.threads id).checked = false) :
    Inv { s with actions := update s.actions id f } := by
  have hkeys : (update s.actions id f).map key = s.actions.map key := map_key_update hf.id
  have hactive : ∀ r, Active (f r) → Active r := fun r => Or.imp (hf.queued r) (hf.running r)
  refine ⟨hkeys ▸ hinv.keys, fun id' h => hkeys ▸ hinv.threadKnown id' h, fun a ha h => ?_,
    fun a ha h => ?_, fun id' h => hkeys ▸ hinv.handlerKnown id' h, fun a ha h => ?_,
    fun a ha b hb hao hbo => ?_, fun e he => hkeys ▸ hinv.logKnown e he, fun e he a ha hid => ?_,
    hinv.silent⟩
  · obtain ⟨r, hr, hid, ⟨-, rfl⟩ | ⟨-, rfl⟩⟩ := row_of_mem_update hf.id ha
    · exact fun hq => hinv.threadClaimed r hr (hid ▸ h) (hf.queued r hq)
    · exact hinv.threadClaimed a hr h
  · obtain ⟨r, hr, hid, ⟨hk, rfl⟩ | ⟨-, rfl⟩⟩ := row_of_mem_update hf.id ha
    · have h' : (s.threads (f r).id).checked = true := h
      rw [← hid, hk, hfree] at h'
      cases h'
    · exact hinv.checkedRunning a hr h
  · obtain ⟨r, hr, hid, ⟨-, rfl⟩ | ⟨-, rfl⟩⟩ := row_of_mem_update hf.id ha
    · exact hid ▸ hinv.activeOpen r hr (hactive r h)
    · exact hinv.activeOpen a hr h
  · obtain ⟨r, hr, hra, -⟩ := row_of_mem_update hf.id ha
    obtain ⟨q, hq, hqb, -⟩ := row_of_mem_update hf.id hb
    rw [← hra, ← hqb]
    exact hinv.oneOpen r hr q hq (hra ▸ hao) (hqb ▸ hbo)
  · obtain ⟨r, hr, hra, ⟨-, rfl⟩ | ⟨-, rfl⟩⟩ := row_of_mem_update hf.id ha
    · exact fun hact => hinv.closed e he r hr (hra.trans hid) (hactive r hact)
    · exact hinv.closed e he a hr hid

lemma inv_thread {s : State} (hinv : Inv s) {id : RowId} {thread : Thread}
    (hclaimed : s.threads id ≠ .idle)
    (hcheck : thread.checked → ∀ a ∈ s.actions, a.id = id → a.status = .running) :
    Inv (s.setThread id thread) := by
  refine ⟨hinv.keys, fun id' h => ?_, fun a ha h => ?_, fun a ha h => ?_, hinv.handlerKnown,
    hinv.activeOpen, hinv.oneOpen, hinv.logKnown, hinv.closed, hinv.silent⟩
  · by_cases hid : id' = id
    · rw [hid]
      exact hinv.threadKnown id hclaimed
    · exact hinv.threadKnown id' (by rwa [setThread_of_ne s _ hid] at h)
  · by_cases hid : a.id = id
    · exact hinv.threadClaimed a ha (hid ▸ hclaimed)
    · exact hinv.threadClaimed a ha (by rwa [setThread_of_ne s _ hid] at h)
  · by_cases hid : a.id = id
    · rw [hid, setThread_self] at h
      exact hcheck h a ha hid
    · exact hinv.checkedRunning a ha (by rwa [setThread_of_ne s _ hid] at h)

lemma inv_ifWritable {s s' : State} (hinv : Inv s) {id : RowId} {next : Thread}
    (hclaimed : s.threads id ≠ .idle) (hs : s.ifWritable id next = some s') : Inv s' := by
  obtain ⟨row, hrow, rfl⟩ := Option.map_eq_some_iff.mp hs
  refine inv_thread hinv hclaimed fun hcheck a ha hid => ?_
  have hrun : row.status = .running := by
    by_contra hne
    rw [if_neg hne] at hcheck
    cases hcheck
  have hmem := get_of_mem hinv.keys ha
  rw [show key a = id from hid, hrow] at hmem
  cases hmem
  exact hrun

lemma inv_handler {s : State} (hinv : Inv s) {id : RowId} {handler : Handler}
    (hknown : id ∈ s.actions.map key) (hopen : handler ≠ .done → s.handlers id ≠ .done)
    (hdone : handler = .done → ∀ a ∈ s.actions, a.id = id → ¬ Active a) :
    Inv (s.setHandler id handler) := by
  have hstill : ∀ id', (s.setHandler id handler).handlers id' ≠ .done →
      s.handlers id' ≠ .done := by
    intro id' h
    by_cases hid : id' = id
    · rw [hid, setHandler_self] at h
      exact hid ▸ hopen h
    · rwa [setHandler_of_ne s _ hid] at h
  refine ⟨hinv.keys, hinv.threadKnown, hinv.threadClaimed, hinv.checkedRunning, fun id' h => ?_,
    fun a ha h => ?_, fun a ha b hb hao hbo => ?_, hinv.logKnown, hinv.closed, hinv.silent⟩
  · by_cases hid : id' = id
    · exact hid ▸ hknown
    · exact hinv.handlerKnown id' (by rwa [setHandler_of_ne s _ hid] at h)
  · by_cases hid : a.id = id
    · rw [hid, setHandler_self]
      exact fun hd => hdone hd a ha hid h
    · rw [setHandler_of_ne s _ hid]
      exact hinv.activeOpen a ha h
  · exact hinv.oneOpen a ha b hb (hstill a.id hao) (hstill b.id hbo)

lemma inv_log {s : State} (hinv : Inv s) {id : RowId} {entries : List Entry}
    (hknown : id ∈ s.actions.map key) (hclosed : ∀ a ∈ s.actions, a.id = id → ¬ Active a)
    (hid : ∀ e ∈ entries, e.actionId = id)
    (hnew : entries.Pairwise fun later earlier =>
      ∀ id effect, later = .committed id effect → earlier ≠ .timedOut id)
    (hsilent : (∃ effect, .committed id effect ∈ entries) → .timedOut id ∉ s.log) :
    Inv { s with log := entries ++ s.log } := by
  refine ⟨hinv.keys, hinv.threadKnown, hinv.threadClaimed, hinv.checkedRunning,
    hinv.handlerKnown, hinv.activeOpen, hinv.oneOpen, fun e he => ?_, fun e he a ha hae => ?_, ?_⟩
  · rcases List.mem_append.mp he with he | he
    · rwa [hid e he]
    · exact hinv.logKnown e he
  · rcases List.mem_append.mp he with he | he
    · exact hclosed a ha (hae.trans (hid e he))
    · exact hinv.closed e he a ha hae
  · refine List.pairwise_append.mpr ⟨hnew, hinv.silent, ?_⟩
    rintro e he old hold id' effect rfl rfl
    have hid' : id' = id := hid _ he
    rw [hid'] at he hold
    exact hsilent ⟨effect, he⟩ hold

lemma inv_claim {s : State} (hinv : Inv s) {id : RowId} {row : ActionDispatch} {now : Timestamp}
    (hrow : get s.actions id = some row) (hq : row.status = .queued) :
    Inv { s.setThread id .submitted with
      actions := update s.actions id (row.claimed now) } := by
  have hf : ∀ r, (row.claimed now r).id = r.id := fun r => rfl
  have hkeys : (update s.actions id (row.claimed now)).map key = s.actions.map key :=
    map_key_update hf
  have hknown : id ∈ s.actions.map key := get_isSome_iff.mp (by rw [hrow]; rfl)
  -- the claimed row is the one that was read
  have hqueued : ∀ r ∈ s.actions, r.id = id → r.status = .queued := by
    intro r hr hid
    have hget := get_of_mem hinv.keys hr
    rw [show key r = id from hid, hrow] at hget
    cases hget
    exact hq
  refine ⟨hkeys ▸ hinv.keys, fun id' h => hkeys ▸ ?_, fun a ha h => ?_, fun a ha h => ?_,
    fun id' h => hkeys ▸ hinv.handlerKnown id' h, fun a ha h => ?_, fun a ha b hb hao hbo => ?_,
    fun e he => hkeys ▸ hinv.logKnown e he, fun e he a ha hid => ?_, hinv.silent⟩
  · by_cases hid : id' = id
    · exact hid ▸ hknown
    · exact hinv.threadKnown id' (by rwa [setThread_of_ne s _ hid] at h)
  · obtain ⟨r, hr, hid, ⟨-, rfl⟩ | ⟨hk, rfl⟩⟩ := row_of_mem_update hf ha
    · simp
    · exact hinv.threadClaimed a hr (by rwa [setThread_of_ne s _ hk] at h)
  · obtain ⟨r, hr, hid, ⟨-, rfl⟩ | ⟨hk, rfl⟩⟩ := row_of_mem_update hf ha
    · rfl
    · exact hinv.checkedRunning a hr (by rwa [setThread_of_ne s _ hk] at h)
  · obtain ⟨r, hr, hid, ⟨hk, rfl⟩ | ⟨-, rfl⟩⟩ := row_of_mem_update hf ha
    · exact hinv.activeOpen r hr (.inl (hqueued r hr hk))
    · exact hinv.activeOpen a hr h
  · obtain ⟨r, hr, hra, -⟩ := row_of_mem_update hf ha
    obtain ⟨q, hq', hqb, -⟩ := row_of_mem_update hf hb
    rw [← hra, ← hqb]
    exact hinv.oneOpen r hr q hq' (hra ▸ hao) (hqb ▸ hbo)
  · obtain ⟨r, hr, hra, ⟨hk, rfl⟩ | ⟨-, rfl⟩⟩ := row_of_mem_update hf ha
    · exact absurd (.inl (hqueued r hr hk)) (hinv.closed e he r hr (hra.trans hid))
    · exact hinv.closed e he a hr hid

lemma inv_retry {s : State} (hinv : Inv s) {retry : ActionDispatch}
    (hnew : retry.id ∉ s.actions.map key) (hq : retry.status = .queued)
    (hdone : ∀ a ∈ s.actions, s.handlers a.id = .done) :
    Inv { s with actions := s.actions ++ [retry] } := by
  have hmap : (s.actions ++ [retry]).map key = s.actions.map key ++ [retry.id] := by simp
  have hkeep : ∀ id, id ∈ s.actions.map key → id ∈ (s.actions ++ [retry]).map key := by
    intro id h
    rw [hmap]
    exact List.mem_append_left _ h
  have hthread : s.threads retry.id = .idle := by
    by_contra h
    exact hnew (hinv.threadKnown retry.id h)
  have hhandler : s.handlers retry.id = .waiting := by
    by_contra h
    exact hnew (hinv.handlerKnown retry.id h)
  have hsplit : ∀ a ∈ s.actions ++ [retry], a ∈ s.actions ∨ a = retry := by
    intro a ha
    simpa using ha
  refine ⟨?_, fun id h => hkeep id (hinv.threadKnown id h), fun a ha h => ?_, fun a ha h => ?_,
    fun id h => hkeep id (hinv.handlerKnown id h), fun a ha h => ?_, fun a ha b hb hao hbo => ?_,
    fun e he => hkeep _ (hinv.logKnown e he), fun e he a ha hid => ?_, hinv.silent⟩
  · rw [hmap]
    exact hinv.keys.append (List.nodup_singleton _) (by simpa using hnew)
  · rcases hsplit a ha with ha | rfl
    · exact hinv.threadClaimed a ha h
    · exact absurd hthread h
  · rcases hsplit a ha with ha | rfl
    · exact hinv.checkedRunning a ha h
    · rw [show (s.threads a.id).checked = false by rw [hthread]; rfl] at h
      cases h
  · rcases hsplit a ha with ha | rfl
    · exact hinv.activeOpen a ha h
    · exact fun hd => Handler.noConfusion (hhandler.symm.trans hd)
  · rcases hsplit a ha with ha | rfl
    · exact absurd (hdone a ha) hao
    · rcases hsplit b hb with hb | rfl
      · exact absurd (hdone b hb) hbo
      · rfl
  · rcases hsplit a ha with ha | rfl
    · exact hinv.closed e he a ha hid
    · exact absurd (hid ▸ hinv.logKnown e he) hnew

lemma neverStarts_finish (payload : JsonDict) (now : Timestamp) :
    NeverStarts (finishedWith payload now) := by
  constructor <;> intro row <;> simp only [finishedWith, ActionDispatch.finishAction] <;> split <;>
    simp_all

lemma neverStarts_runtimeFailed (errorText : String) :
    NeverStarts fun row => row.runtimeFailed errorText := by
  constructor <;> intro row <;> simp [ActionDispatch.runtimeFailed]

lemma not_logged_of_checked {s : State} (hinv : Inv s) {id : RowId}
    (hcheck : (s.threads id).checked) : ∀ e ∈ s.log, e.actionId ≠ id := by
  intro e he hid
  obtain ⟨r, hr, hk⟩ := List.mem_map.mp (hid ▸ hinv.logKnown e he)
  have hrid : r.id = id := hk
  exact hinv.closed e he r hr (hrid.trans hid.symm)
    (.inr (hinv.checkedRunning r hr (hrid ▸ hcheck)))

lemma not_idle_of_checked {thread : Thread} (h : thread.checked) : thread ≠ .idle := by
  rintro rfl
  cases h

lemma inv_finish {s : State} (hinv : Inv s) {id : RowId} {payload : JsonDict} {now : Timestamp}
    {effects : List Effect} (hcheck : (s.threads id).checked) :
    Inv { s.setThread id .ended with
      actions := update s.actions id (finishedWith payload now)
      log := effects.map (.committed id) ++ s.log } := by
  have hidle := not_idle_of_checked hcheck
  have hended : Inv (s.setThread id .ended) := inv_thread hinv hidle (by simp [Thread.checked])
  have hf := neverStarts_finish payload now
  have hrow : Inv { s.setThread id .ended with
      actions := update s.actions id (finishedWith payload now) } :=
    inv_row hended hf (by rw [setThread_self]; rfl)
  have hkeys : (update s.actions id (finishedWith payload now)).map key = s.actions.map key :=
    map_key_update hf.id
  have hknown : id ∈ (update s.actions id (finishedWith payload now)).map key :=
    hkeys ▸ hinv.threadKnown id hidle
  refine inv_log hrow hknown (fun a ha hid => ?_) (fun e he => ?_) ?_ fun _ hold => ?_
  · obtain ⟨r, hr, -, ⟨hk, rfl⟩ | ⟨hk, rfl⟩⟩ := row_of_mem_update hf.id ha
    · have hrun := hinv.checkedRunning r hr (hk ▸ hcheck)
      simp [Active, finishedWith, ActionDispatch.finishAction, hrun]
    · exact absurd hid hk
  · obtain ⟨effect, -, rfl⟩ := List.mem_map.mp he
    rfl
  · exact List.pairwise_map.mpr (List.pairwise_of_forall (by simp))
  · exact not_logged_of_checked hinv hcheck _ hold rfl

lemma inv_timeoutCommit {s : State} (hinv : Inv s) {id retryId : RowId} {seen : ActionDispatch}
    {now : Timestamp} (hseen : s.handlers id = .failing seen)
    (hfree : (s.threads id).locks = false) (hnew : retryId ∉ s.actions.map key) :
    Inv { s.setHandler id .done with
      actions := update s.actions id (svc.timedOut seen now) ++
        (svc.retryAction seen retryId now).toList
      log := .timedOut id :: s.log } := by
  have hf := neverStarts_timedOut svc seen now
  have hkeys : (update s.actions id (svc.timedOut seen now)).map key = s.actions.map key :=
    map_key_update hf.id
  have hknown : id ∈ s.actions.map key := hinv.handlerKnown id (by rw [hseen]; simp)
  have hchecked : (s.threads id).checked = false := by
    by_contra h
    rw [Bool.not_eq_false] at h
    rw [checked_of_locks h] at hfree
    cases hfree
  have hrow : Inv { s with actions := update s.actions id (svc.timedOut seen now) } :=
    inv_row hinv hf hchecked
  have hfailed : ∀ a ∈ update s.actions id (svc.timedOut seen now), a.id = id → ¬ Active a := by
    intro a ha hid
    obtain ⟨r, -, -, ⟨-, rfl⟩ | ⟨hk, rfl⟩⟩ := row_of_mem_update hf.id ha
    · simp [Active, ChatDispatchWorkerService.timedOut]
    · exact absurd hid hk
  have hknown' : id ∈ (update s.actions id (svc.timedOut seen now)).map key := hkeys ▸ hknown
  have hlog : Inv { s with
      actions := update s.actions id (svc.timedOut seen now)
      log := [.timedOut id] ++ s.log } :=
    inv_log hrow hknown' hfailed (by simp [Entry.actionId]) (by simp) (by simp)
  have hdone : Inv { s.setHandler id .done with
      actions := update s.actions id (svc.timedOut seen now)
      log := .timedOut id :: s.log } :=
    inv_handler hlog hknown' (by simp) fun _ => hfailed
  cases hretry : svc.retryAction seen retryId now with
  | none =>
    rw [Option.toList_none, List.append_nil]
    exact hdone
  | some retry =>
    obtain ⟨hid, -, -, hq, -⟩ := retryAction_spec hretry
    refine inv_retry hdone (by rw [hid]; exact hkeys ▸ hnew) hq fun a ha => ?_
    show (s.setHandler id .done).handlers a.id = .done
    by_cases hk : a.id = id
    · rw [hk, setHandler_self]
    · -- every other attempt was done already
      obtain ⟨r, hr, hrid, -⟩ := row_of_mem_update hf.id ha
      obtain ⟨q, hq, hqk⟩ := List.mem_map.mp hknown
      have hqid : q.id = id := hqk
      rw [setHandler_of_ne s _ hk]
      by_contra hopen
      refine hk (hrid ▸ hqid ▸ hinv.oneOpen r hr q hq (hrid ▸ hopen) ?_)
      rw [hqid, hseen]
      simp

lemma inv_step {s s' : State} {e : Event} (hinv : Inv s) (hs : step svc s e = some s') :
    Inv s' := by
  cases e with
  | join id until_ payload =>
    simp only [step] at hs
    split at hs
    · cases hs
    · next hfree =>
      cases hs
      refine inv_row hinv (neverStarts_joined until_ payload) ?_
      by_contra h
      exact hfree (checked_of_locks (by simpa using h))
  | claim id now =>
    simp only [step] at hs
    split at hs
    · next row hrow =>
      split at hs
      · next hq =>
        cases hs
        exact inv_claim hinv hrow hq
      · cases hs
    · cases hs
  | start id =>
    simp only [step] at hs
    split at hs
    · next row hthread hrow =>
      cases hs
      refine inv_thread hinv (by rw [hthread]; simp) fun hcheck => ?_
      split at hcheck <;> cases hcheck
    · cases hs
  | patchState id =>
    simp only [step] at hs
    split at hs
    · next payload hthread =>
      cases hs
      exact inv_thread hinv (by rw [hthread]; simp) (by rintro ⟨⟩)
    · cases hs
  | writePayload id usedMemoryIds =>
    simp only [step] at hs
    split at hs
    · next payload hthread =>
      cases hs
      exact inv_thread hinv (by rw [hthread]; simp) (by rintro ⟨⟩)
    · cases hs
  | persistThought id =>
    simp only [step] at hs
    split at hs
    · next payload hthread => exact inv_ifWritable hinv (by rw [hthread]; simp) hs
    · cases hs
  | deliver id =>
    simp only [step] at hs
    split at hs
    · next payload hthread => exact inv_ifWritable hinv (by rw [hthread]; simp) hs
    · cases hs
  | finish id now =>
    simp only [step] at hs
    split at hs
    · next phase payload hthread =>
      split at hs
      · next hcheck =>
        cases hs
        exact inv_finish hinv (by rw [hthread]; exact hcheck)
      · cases hs
    · cases hs
  | raise id errorText =>
    simp only [step] at hs
    split at hs
    · next phase payload hthread =>
      cases hs
      exact inv_thread hinv (by rw [hthread]; simp) (by rintro ⟨⟩)
    · cases hs
  | commitFailure id =>
    simp only [step] at hs
    split at hs
    · next errorText hthread =>
      cases hs
      have hended : Inv (s.setThread id .ended) :=
        inv_thread hinv (by rw [hthread]; simp) (by rintro ⟨⟩)
      exact inv_row hended (neverStarts_runtimeFailed errorText) (by rw [setThread_self]; rfl)
    · cases hs
  | timeoutRead id =>
    simp only [step] at hs
    split at hs
    · cases hs
    · next row hwait hrow hidle =>
      cases hs
      refine inv_handler hinv (get_isSome_iff.mp (by rw [hrow]; rfl)) ?_
        fun hdone a ha hid => ?_
      · intro _
        rw [hwait]
        simp
      · have hget := get_of_mem hinv.keys ha
        rw [show key a = id from hid, hrow] at hget
        cases hget
        split at hdone
        · cases hdone
        · next hne => exact fun h => h.elim (hinv.threadClaimed row ha (hid ▸ hidle)) hne
    · cases hs
  | timeoutCommit id retryId now =>
    simp only [step] at hs
    split at hs
    · next seen hseen =>
      split at hs
      · cases hs
      · next hguard =>
        push Not at hguard
        cases hs
        exact inv_timeoutCommit hinv hseen (by simpa using hguard.1) hguard.2
    · cases hs

/-! ## One reply -/

/-- At most one reply is committed, and then no attempt but its own is open. -/
structure Answered (s : State) : Prop where
  oneReply : s.log.countP Entry.isReply ≤ 1
  noneOpen : ∀ id, .committed id .reply ∈ s.log → ∀ a ∈ s.actions,
    s.handlers a.id ≠ .done → a.id = id

lemma answered_of_log_eq {s s' : State} (h : Answered s) (hlog : s'.log = s.log)
    (hopen : ∀ a' ∈ s'.actions, s'.handlers a'.id ≠ .done →
      ∃ a ∈ s.actions, a.id = a'.id ∧ s.handlers a.id ≠ .done) : Answered s' := by
  refine ⟨hlog ▸ h.oneReply, fun id hid a' ha' ho => ?_⟩
  obtain ⟨a, ha, heq, hao⟩ := hopen a' ha' ho
  exact heq ▸ h.noneOpen id (hlog ▸ hid) a ha hao

lemma answered_row {s : State} (h : Answered s) {id : RowId}
    {f : ActionDispatch → ActionDispatch} (hf : ∀ row, (f row).id = row.id) :
    Answered { s with actions := update s.actions id f } := by
  refine answered_of_log_eq h rfl fun a ha ho => ?_
  obtain ⟨r, hr, hid, -⟩ := row_of_mem_update hf ha
  exact ⟨r, hr, hid, hid ▸ ho⟩

lemma answered_thread {s : State} (h : Answered s) {id : RowId} {thread : Thread} :
    Answered (s.setThread id thread) :=
  answered_of_log_eq h rfl fun a ha ho => ⟨a, ha, rfl, ho⟩

lemma answered_ifWritable {s s' : State} (h : Answered s) {id : RowId} {next : Thread}
    (hs : s.ifWritable id next = some s') : Answered s' := by
  obtain ⟨row, -, rfl⟩ := Option.map_eq_some_iff.mp hs
  exact answered_thread h

lemma countP_flushed (id : RowId) (phase : Phase) :
    ((.memory :: phase.flushed).map (Entry.committed id)).countP Entry.isReply ≤ 1 := by
  cases phase <;> simp [Phase.flushed, List.countP_cons, Entry.isReply]

lemma countP_eq_zero {log : List Entry} (h : ∀ id, .committed id .reply ∉ log) :
    log.countP Entry.isReply = 0 := by
  refine List.countP_eq_zero.mpr fun e he hreply => ?_
  cases e with
  | timedOut id => cases hreply
  | committed id effect =>
    cases effect with
    | reply => exact h id he
    | statePatch => cases hreply
    | thought => cases hreply
    | memory => cases hreply

lemma answered_finish {s : State} (hinv : Inv s) (h : Answered s) {id : RowId} {phase : Phase}
    {payload : JsonDict} {now : Timestamp} (hcheck : (s.threads id).checked) :
    Answered { s.setThread id .ended with
      actions := update s.actions id (finishedWith payload now)
      log := (.memory :: phase.flushed).map (.committed id) ++ s.log } := by
  have hnone := not_logged_of_checked hinv hcheck
  obtain ⟨r, hr, hk⟩ := List.mem_map.mp (hinv.threadKnown id (not_idle_of_checked hcheck))
  have hrid : r.id = id := hk
  have hopen : s.handlers r.id ≠ .done :=
    hinv.activeOpen r hr (.inr (hinv.checkedRunning r hr (hrid ▸ hcheck)))
  -- an earlier reply would be of this action, which is the open one
  have hold : ∀ id', .committed id' .reply ∉ s.log := by
    intro id' hmem
    exact hnone _ hmem ((h.noneOpen id' hmem r hr hopen).symm.trans hrid)
  refine ⟨?_, fun id' hmem a ha ho => ?_⟩
  · show List.countP Entry.isReply (_ ++ s.log) ≤ 1
    rw [List.countP_append, countP_eq_zero hold]
    exact countP_flushed id phase
  · rcases List.mem_append.mp hmem with hmem | hmem
    · obtain ⟨effect, -, heq⟩ := List.mem_map.mp hmem
      cases heq
      obtain ⟨q, hq, hqid, -⟩ := row_of_mem_update (neverStarts_finish payload now).id ha
      rw [← hqid, ← hrid]
      exact hinv.oneOpen q hq r hr (hqid ▸ ho) hopen
    · exact absurd hmem (hold id')

lemma answered_timeoutCommit {s : State} (hinv : Inv s) (h : Answered s) {id retryId : RowId}
    {seen : ActionDispatch} {now : Timestamp} (hseen : s.handlers id = .failing seen)
    (hok : (svc.retryAction seen retryId now).isSome → .committed id .reply ∉ s.log) :
    Answered { s.setHandler id .done with
      actions := update s.actions id (svc.timedOut seen now) ++
        (svc.retryAction seen retryId now).toList
      log := .timedOut id :: s.log } := by
  have hf := neverStarts_timedOut svc seen now
  obtain ⟨q, hq, hqk⟩ := List.mem_map.mp (hinv.handlerKnown id (by rw [hseen]; simp))
  have hqid : q.id = id := hqk
  have hopen : s.handlers q.id ≠ .done := by
    rw [hqid, hseen]
    simp
  -- the attempt that timed out was the open one
  have hclosed : ∀ a ∈ update s.actions id (svc.timedOut seen now),
      (s.setHandler id .done).handlers a.id = .done := by
    intro a ha
    by_cases hk : a.id = id
    · rw [hk, setHandler_self]
    · obtain ⟨r, hr, hrid, -⟩ := row_of_mem_update hf.id ha
      rw [setHandler_of_ne s _ hk]
      by_contra ho
      exact hk (hrid ▸ hqid ▸ hinv.oneOpen r hr q hq (hrid ▸ ho) hopen)
  refine ⟨?_, fun id' hmem a ha ho => ?_⟩
  · show List.countP Entry.isReply (_ :: s.log) ≤ 1
    rw [List.countP_cons_of_neg (by simp [Entry.isReply])]
    exact h.oneReply
  · rcases List.mem_append.mp ha with ha | ha
    · exact absurd (hclosed a ha) ho
    · -- there is a retry, so no reply
      have hmem : Entry.committed id' .reply ∈ s.log := by simpa using hmem
      have hid : q.id = id' := h.noneOpen id' hmem q hq hopen
      have hsome : (svc.retryAction seen retryId now).isSome :=
        Option.isSome_iff_exists.mpr ⟨a, Option.mem_toList.mp ha⟩
      exact absurd (hid ▸ hmem) (hqid ▸ hok hsome)

lemma answered_step {s s' : State} {e : Event} (hinv : Inv s) (h : Answered s)
    (hok : NoLateTimeout svc s e) (hs : step svc s e = some s') : Answered s' := by
  cases e with
  | join id until_ payload =>
    simp only [step] at hs
    split at hs <;> cases hs
    exact answered_row h (neverStarts_joined until_ payload).id
  | claim id now =>
    simp only [step] at hs
    split at hs
    · split at hs <;> cases hs
      exact answered_row (answered_thread h) fun _ => rfl
    · cases hs
  | start id =>
    simp only [step] at hs
    split at hs <;> cases hs
    exact answered_thread h
  | patchState id =>
    simp only [step] at hs
    split at hs <;> cases hs
    exact answered_thread h
  | writePayload id usedMemoryIds =>
    simp only [step] at hs
    split at hs <;> cases hs
    exact answered_thread h
  | persistThought id =>
    simp only [step] at hs
    split at hs
    · exact answered_ifWritable h hs
    · cases hs
  | deliver id =>
    simp only [step] at hs
    split at hs
    · exact answered_ifWritable h hs
    · cases hs
  | finish id now =>
    simp only [step] at hs
    split at hs
    · next phase payload hthread =>
      split at hs
      · next hcheck =>
        cases hs
        exact answered_finish hinv h (by rw [hthread]; exact hcheck)
      · cases hs
    · cases hs
  | raise id errorText =>
    simp only [step] at hs
    split at hs <;> cases hs
    exact answered_thread h
  | commitFailure id =>
    simp only [step] at hs
    split at hs <;> cases hs
    exact answered_row (answered_thread h) fun _ => rfl
  | timeoutRead id =>
    simp only [step] at hs
    split at hs
    · cases hs
    · next row hwait hrow hidle =>
      cases hs
      refine answered_of_log_eq h rfl fun a ha ho => ⟨a, ha, rfl, ?_⟩
      by_cases hid : a.id = id
      · rw [hid, hwait]
        simp
      · rwa [setHandler_of_ne s _ hid] at ho
    · cases hs
  | timeoutCommit id retryId now =>
    simp only [step] at hs
    split at hs
    · next seen hseen =>
      split at hs <;> cases hs
      exact answered_timeoutCommit hinv h hseen (hok seen (by rw [hseen]; rfl))
    · cases hs

variable (svc) in
/-- In every run with no late timeout the chain gets at most one reply. -/
theorem sound_of_noLateTimeout {action : ActionDispatch} {es : List Event}
    (hok : StepsMeet (step svc) (NoLateTimeout svc) (ofAction action) es) :
    AllStates (step svc) Sound (ofAction action) es := by
  refine allStates_of_stepsMeet (fun s => Inv s ∧ Answered s) ?_ ?_ ⟨inv_ofAction, ?_⟩ hok
  · rintro s e s' ⟨hi, h⟩ hok hs
    exact ⟨inv_step hi hs, answered_step hi h hok hs⟩
  · rintro s ⟨hi, h⟩
    exact ⟨h.oneReply, hi.silent⟩
  · constructor <;> simp [ofAction]

/-- A message to a cocoon. -/
def hello : ActionDispatch where
  id := "a1"
  target := .cocoon "c1"
  eventType := .chat
  queuedAt := 0

/-- One attempt, to just before its commit. -/
def attempt (id : RowId) (now : Timestamp) : List Event :=
  [.claim id now, .start id, .patchState id, .writePayload id [], .persistThought id, .deliver id]

/-- The handler reads the action running, the thread commits its reply, the handler commits its
failure with a retry, and the retry replies again. -/
theorem lateTimeout_replies_twice :
    ¬ AllStates (step {}) Sound (ofAction hello)
      (attempt "a1" 1 ++
        [.timeoutRead "a1", .finish "a1" 2, .timeoutCommit "a1" "a2" 3] ++
        attempt "a2" 4 ++ [.finish "a2" 5]) :=
  fun h => absurd (h.last rfl).oneReply (by decide)

/-- A failure committed before the thread writes its payload is seen: only the retry replies. -/
theorem timeout_in_time_replies_once :
    AllStates (step {}) Sound (ofAction hello)
      ([.claim "a1" 1, .start "a1", .patchState "a1", .timeoutRead "a1",
        .timeoutCommit "a1" "a2" 3, .writePayload "a1" [], .persistThought "a1"] ++
        attempt "a2" 4 ++ [.finish "a2" 5]) :=
  sound_of_noLateTimeout {} (by decide)

end RetryChain

end CocoonSit
