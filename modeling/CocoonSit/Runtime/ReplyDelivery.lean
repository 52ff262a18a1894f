import CocoonSit.Lib.Run
import CocoonSit.Runtime.Types

/-!
# When a reply is announced, and when it is committed

A runtime round runs in one transaction, and publishes events on the way: `ReplyDeliveryService`
announces the reply with `reply_done` as soon as its row is flushed, and a client reloads the
workspace on that event.  The round still has its audit records, memory operations and
`finish_action` before it, and the worker's commit after those.

A round is written here as the list of what it does with its session and the hub, in order; a
step carries out the next of them, or raises there instead, or is a commit of another transaction.
So a run is a round cut short anywhere, interleaved with anything, and what a client finds when it
reloads in a state is that state's committed messages.
-/

namespace CocoonSit

open Table TransitionSystem

namespace ReplyDelivery

/-! ## What a round does -/

/-- The events of a round, as they go to the hub.  They all carry the round's target. -/
inductive RuntimeWsEvent where
  | statePatch (actionId : RowId)
  | replyStarted (actionId : RowId)
  | replyChunk (actionId : RowId) (text : String)
  | replyDone (actionId finalMessageId : RowId)
deriving DecidableEq

/-- The message a `reply_done` announces. -/
def RuntimeWsEvent.finalMessageId : RuntimeWsEvent → Option RowId
  | .replyDone _ finalMessageId => some finalMessageId
  | _ => none

/-- What a round does with its session and the hub. -/
inductive RoundOp where
  /-- `ensure_action_is_writable`. -/
  | ensureActionIsWritable
  | publish (event : RuntimeWsEvent)
  /-- `session.add(message); session.flush()`. -/
  | addMessage (message : Message)
  /-- Other statements of the session: none of them inserts a message. -/
  | write

/-- `GenerationOutput`: the chunks to stream and the whole reply. -/
structure GenerationOutput where
  chunks : List String
  replyText : String

/-- `SideEffects._persist_message`: the row, under a fresh key. -/
def persistMessage (event : RuntimeEvent) (activeTags : List RowId) (role : MessageRole)
    (content : String) (isThought : Bool) (retractionNote : Option String) (newId : RowId)
    (now : Timestamp) : Message :=
  { id := newId
    target := event.target
    actionId := some event.actionId
    role := role
    content := content
    isThought := isThought
    retractionNote := retractionNote
    tagsJson := activeTags
    createdAt := now }

/-- The role of `persist_generated_message`. -/
def replyRole : EventType → MessageRole
  | .pull | .merge => .system
  | _ => .assistant

def persistGeneratedMessage (event : RuntimeEvent) (activeTags : List RowId)
    (generation : GenerationOutput) (newId : RowId) (now : Timestamp) : Message :=
  persistMessage event activeTags (replyRole event.eventType) generation.replyText false none newId
    now

/-- `ReplyDeliveryService.deliver`; `reply` is the row of `persist_generated_message`. -/
def deliver (actionId : RowId) (generation : GenerationOutput) (reply : Message) : List RoundOp :=
  .ensureActionIsWritable :: .publish (.replyStarted actionId) ::
    (generation.chunks.flatMap fun chunk =>
      [.ensureActionIsWritable, .publish (.replyChunk actionId chunk)]) ++
    -- the check before the row, and that of `persist_generated_message`
    [.ensureActionIsWritable, .ensureActionIsWritable, .addMessage reply,
      -- its tags, then `enqueue_reply`
      .write, .write, .publish (.replyDone actionId reply.id),
      -- `record_json_artifact`, `record_link`
      .write, .write]

/-- A round: what it is run for, what its nodes come up with, and the rows it draws. -/
structure Round where
  event : RuntimeEvent
  activeTags : List RowId := []
  /-- `meta.decision == "silence"`. -/
  silence : Bool
  internalThought : String := ""
  eventSummary : String := ""
  generation : GenerationOutput
  thoughtId : RowId
  replyId : RowId
  now : Timestamp

/-- `SideEffects.persist_thought_message`. -/
def Round.thought (r : Round) : Message :=
  let thoughtText := strip r.internalThought
  let eventSummary := strip r.eventSummary
  persistMessage r.event r.activeTags .assistant
    (if thoughtText = "" then "Structured meta decision completed." else thoughtText) true
    (if eventSummary = "" then none else some eventSummary) r.thoughtId r.now

def Round.reply (r : Round) : Message :=
  persistGeneratedMessage r.event r.activeTags r.generation r.replyId r.now

/-- Preparation, the context builder, the inline or the meta node, and the scheduler node. -/
def Round.untilScheduler (r : Round) : List RoundOp :=
  [.write, .write, .write,
    -- `apply_and_publish`, the other patches, `schedule`
    .write, .publish (.statePatch r.event.actionId), .write, .write,
    -- `persist_thought_message`, its tags, the audit records
    .ensureActionIsWritable, .addMessage r.thought, .write, .write]

def Round.generatorNode (r : Round) : List RoundOp :=
  -- `start_step`, `generate`
  .write :: .write :: deliver r.event.actionId r.generation r.reply ++ [.write]

/-- The side effects: memory operations, audit records, `touch_memories`, the snapshot,
`finish_step`, `finish_action`. -/
def Round.sideEffectsNode (r : Round) : List RoundOp :=
  [.write, .write, .write, .publish (.statePatch r.event.actionId), .write, .write]

/-- `ChatRuntime.run`: `_route_after_scheduler` leaves the generator out of a silent round. -/
def Round.ops (r : Round) : List RoundOp :=
  r.untilScheduler ++ (if r.silence then [] else r.generatorNode) ++ r.sideEffectsNode

/-! ## A round in its worker -/

/-- Who runs the round, and so who handles its exceptions. -/
inductive Worker where
  /-- `_run_action_session`: any exception rolls the session back. -/
  | chatDispatch
  /-- `DurableJobWorkerService.process_next`: what was flushed is committed with the failure, unless
  a failed flush has made the session unusable. -/
  | durableJob
deriving DecidableEq

structure State where
  db : Db
  /-- The messages the round has flushed. -/
  pending : List Message := []
  published : List RuntimeWsEvent := []
  /-- What the round has still to do; `none` once its session is closed. -/
  todo : Option (List RoundOp)

/-- The session is closed with a commit. -/
def State.commit (s : State) : State :=
  { s with db := { s.db with messages := s.db.messages ++ s.pending }, pending := [], todo := none }

/-- The session is closed without. -/
def State.rollback (s : State) : State := { s with pending := [], todo := none }

/-- The worker's handling of an exception of the round. -/
def State.fail (worker : Worker) (inFlush : Bool) (s : State) : State :=
  match worker with
  | .chatDispatch => s.rollback
  | .durableJob => if inFlush then s.rollback else s.commit

/-- What `ensure_action_is_writable` reads: a chat action was committed by the claim, and another
transaction may have failed it since; a job's action is a row of its own transaction. -/
def writable (worker : Worker) (actionId : RowId) (db : Db) : Bool :=
  match worker with
  | .chatDispatch =>
    match get db.actions actionId with
    | some action => action.status = .running
    | none => false
  | .durableJob => true

inductive Event where
  /-- The round's next operation. -/
  | advance
  /-- It raises instead. -/
  | raise (inFlush : Bool)
  /-- The round has returned; the worker commits, or the commit raises. -/
  | commit (raises : Bool)
  /-- Another transaction commits: the timeout handler's, a client's, any other.  Keys are drawn
  once, so while the round's session is open none of them holds the key of its reply. -/
  | elsewhere (other : Db)

variable (r : Round) (worker : Worker)

/-- One operation of the round, with `rest` to come. -/
def perform (s : State) (rest : List RoundOp) : RoundOp → State
  | .ensureActionIsWritable =>
    -- `RuntimeActionAbortedError`
    if writable worker r.event.actionId s.db then { s with todo := some rest }
    else s.fail worker false
  | .publish event => { s with published := s.published ++ [event], todo := some rest }
  | .addMessage message => { s with pending := s.pending ++ [message], todo := some rest }
  | .write => { s with todo := some rest }

def step (s : State) : Event → Option State
  | .advance =>
    match s.todo with
    | some (op :: rest) => some (perform r worker s rest op)
    | _ => none
  | .raise inFlush =>
    match s.todo with
    | some (_ :: _) => some (s.fail worker inFlush)
    | _ => none
  | .commit raises =>
    match s.todo with
    | some [] => some (if raises then s.rollback else s.commit)
    | _ => none
  | .elsewhere other =>
    if s.todo.isSome ∧ r.replyId ∈ other.messages.map key then none
    else some { s with db := other }

/-- The round starts on a database. -/
def start (db : Db) : State := { db := db, todo := some r.ops }

/-! ## What is asked of the announcements -/

/-- A client that reloads now finds every message a `reply_done` has announced. -/
def Announced (s : State) : Prop :=
  ∀ event ∈ s.published, ∀ messageId ∈ event.finalMessageId, messageId ∈ s.db.messages.map key

/-- The step is not the publication of a `reply_done`. -/
def NoReplyDone (s : State) : Event → Prop
  | .advance =>
    match s.todo with
    | some (.publish event :: _) => event.finalMessageId = none
    | _ => True
  | _ => True

instance (s : State) (e : Event) : Decidable (NoReplyDone s e) := by
  unfold NoReplyDone
  split
  · split <;> infer_instance
  · infer_instance

/-! ## What a round has done so far -/

/-- The messages these operations flush. -/
def added (ops : List RoundOp) : List Message :=
  ops.filterMap fun
    | .addMessage message => some message
    | _ => none

/-- The events they publish. -/
def sent (ops : List RoundOp) : List RuntimeWsEvent :=
  ops.filterMap fun
    | .publish event => some event
    | _ => none

lemma mem_added {ops : List RoundOp} {message : Message} (h : .addMessage message ∈ ops) :
    message ∈ added ops :=
  List.mem_filterMap.mpr ⟨_, h, rfl⟩

lemma publish_mem_of_sent {ops : List RoundOp} {event : RuntimeWsEvent} (h : event ∈ sent ops) :
    .publish event ∈ ops := by
  obtain ⟨op, hop, heq⟩ := List.mem_filterMap.mp h
  cases op <;> cases heq
  exact hop

/-- The operations of `deliver` before the reply is a row. -/
def beforeReply (actionId : RowId) (generation : GenerationOutput) : List RoundOp :=
  .ensureActionIsWritable :: .publish (.replyStarted actionId) ::
    (generation.chunks.flatMap fun chunk =>
      [.ensureActionIsWritable, .publish (.replyChunk actionId chunk)]) ++
    [.ensureActionIsWritable, .ensureActionIsWritable]

/-- The operations of a round before its reply is a row. -/
def Round.untilReply (r : Round) : List RoundOp :=
  r.untilScheduler ++ .write :: .write :: beforeReply r.event.actionId r.generation

/-- The operations of a round once its reply is a row. -/
def Round.afterReply (r : Round) : List RoundOp :=
  [.write, .write, .publish (.replyDone r.event.actionId r.replyId), .write, .write, .write] ++
    r.sideEffectsNode

lemma ops_of_silence {r : Round} (h : r.silence = true) :
    r.ops = r.untilScheduler ++ r.sideEffectsNode := by
  simp [Round.ops, h]

lemma ops_of_reply {r : Round} (h : r.silence = false) :
    r.ops = r.untilReply ++ .addMessage r.reply :: r.afterReply := by
  simp [Round.ops, Round.generatorNode, Round.untilReply, Round.afterReply, deliver, beforeReply, h,
    Round.reply, persistGeneratedMessage, persistMessage]

lemma finalMessageId_untilScheduler {r : Round} {event : RuntimeWsEvent}
    (h : .publish event ∈ r.untilScheduler) : event.finalMessageId = none := by
  simp only [Round.untilScheduler, List.mem_cons, reduceCtorEq, RoundOp.publish.injEq,
    List.not_mem_nil, or_false, false_or] at h
  rw [h]
  rfl

lemma finalMessageId_sideEffectsNode {r : Round} {event : RuntimeWsEvent}
    (h : .publish event ∈ r.sideEffectsNode) : event.finalMessageId = none := by
  simp only [Round.sideEffectsNode, List.mem_cons, reduceCtorEq, RoundOp.publish.injEq,
    List.not_mem_nil, or_false, false_or] at h
  rw [h]
  rfl

lemma finalMessageId_untilReply {r : Round} {event : RuntimeWsEvent}
    (h : .publish event ∈ r.untilReply) : event.finalMessageId = none := by
  rw [Round.untilReply, List.mem_append] at h
  rcases h with h | h
  · exact finalMessageId_untilScheduler h
  · simp only [beforeReply, List.cons_append, List.mem_cons, List.mem_append, List.mem_flatMap,
      reduceCtorEq, RoundOp.publish.injEq, List.not_mem_nil, or_false, false_or] at h
    rcases h with rfl | ⟨chunk, -, rfl⟩
    · rfl
    · rfl

lemma finalMessageId_ops {r : Round} {event : RuntimeWsEvent} {messageId : RowId}
    (h : .publish event ∈ r.ops) (hid : event.finalMessageId = some messageId) :
    messageId = r.replyId := by
  cases hsilence : r.silence with
  | true =>
    rw [ops_of_silence hsilence, List.mem_append] at h
    rcases h with h | h
    · cases (finalMessageId_untilScheduler h).symm.trans hid
    · cases (finalMessageId_sideEffectsNode h).symm.trans hid
  | false =>
    rw [ops_of_reply hsilence, List.mem_append, List.mem_cons, Round.afterReply,
      List.mem_append] at h
    rcases h with h | h | h | h
    · cases (finalMessageId_untilReply h).symm.trans hid
    · cases h
    · simp only [List.mem_cons, reduceCtorEq, RoundOp.publish.injEq, List.not_mem_nil, or_false,
        false_or] at h
      rw [h] at hid
      exact (Option.some.inj hid).symm
    · cases (finalMessageId_sideEffectsNode h).symm.trans hid

lemma reply_added {r : Round} {done rest : List RoundOp} (hops : r.ops = done ++ rest)
    {event : RuntimeWsEvent} (hsent : event ∈ sent done) {messageId : RowId}
    (hid : event.finalMessageId = some messageId) : r.reply ∈ added done := by
  have hmem := publish_mem_of_sent hsent
  cases hsilence : r.silence with
  | true =>
    have h : .publish event ∈ r.ops := hops ▸ List.mem_append_left _ hmem
    rw [ops_of_silence hsilence, List.mem_append] at h
    rcases h with h | h
    · cases (finalMessageId_untilScheduler h).symm.trans hid
    · cases (finalMessageId_sideEffectsNode h).symm.trans hid
  | false =>
    rw [ops_of_reply hsilence, List.append_eq_append_iff] at hops
    have hearly : ¬ done.Sublist r.untilReply := fun hsub =>
      nomatch (finalMessageId_untilReply (hsub.subset hmem)).symm.trans hid
    rcases hops with ⟨between, hdone, htail⟩ | ⟨between, huntil, -⟩
    · cases between with
      | nil =>
        rw [List.append_nil] at hdone
        exact absurd (hdone ▸ List.Sublist.refl _) hearly
      | cons op between =>
        have hop : RoundOp.addMessage r.reply = op := (List.cons.inj htail).1
        exact mem_added (by simp [hdone, hop])
    · exact absurd (huntil ▸ List.sublist_append_left _ _) hearly

/-! ## Runs -/

/-- While the session is open: the operations done and to come make up the round, the session and
the hub hold what those done have put there, and the reply's key is not committed. -/
def Inv (s : State) : Prop :=
  ∀ todo, s.todo = some todo → r.replyId ∉ s.db.messages.map key ∧
    ∃ done, r.ops = done ++ todo ∧ s.pending = added done ∧ s.published = sent done

lemma inv_start {db : Db} (hfresh : r.replyId ∉ db.messages.map key) : Inv r (start r db) := by
  intro todo htodo
  cases htodo
  exact ⟨hfresh, [], rfl, rfl, rfl⟩

lemma fail_todo (worker : Worker) (inFlush : Bool) (s : State) :
    (s.fail worker inFlush).todo = none := by
  cases worker with
  | chatDispatch => rfl
  | durableJob => cases inFlush <;> rfl

lemma fail_published (worker : Worker) (inFlush : Bool) (s : State) :
    (s.fail worker inFlush).published = s.published := by
  cases worker with
  | chatDispatch => rfl
  | durableJob => cases inFlush <;> rfl

lemma inv_of_closed {s : State} (h : s.todo = none) : Inv r s := by
  intro todo htodo
  cases h.symm.trans htodo

variable {r worker}

theorem inv_step {s s' : State} {e : Event} (hinv : Inv r s) (hs : step r worker s e = some s') :
    Inv r s' := by
  cases e with
  | advance =>
    simp only [step] at hs
    split at hs
    case h_1 op rest htodo =>
      cases hs
      obtain ⟨hfresh, done, hops, hpending, hpublished⟩ := hinv _ htodo
      -- the operation moves from what is to come to what is done
      have hmove : r.ops = (done ++ [op]) ++ rest := by rw [hops]; simp
      cases op with
      | ensureActionIsWritable =>
        by_cases hw : writable worker r.event.actionId s.db = true
        · rw [perform, if_pos hw]
          intro todo htodo'
          cases htodo'
          exact ⟨hfresh, _, hmove, by simp [hpending, added], by simp [hpublished, sent]⟩
        · rw [perform, if_neg hw]
          exact inv_of_closed r (fail_todo worker false s)
      | publish event =>
        intro todo htodo'
        cases htodo'
        exact ⟨hfresh, _, hmove, by simp [hpending, added, perform],
          by simp [hpublished, sent, perform]⟩
      | addMessage message =>
        intro todo htodo'
        cases htodo'
        exact ⟨hfresh, _, hmove, by simp [hpending, added, perform],
          by simp [hpublished, sent, perform]⟩
      | write =>
        intro todo htodo'
        cases htodo'
        exact ⟨hfresh, _, hmove, by simp [hpending, added, perform],
          by simp [hpublished, sent, perform]⟩
    case h_2 => cases hs
  | raise inFlush =>
    simp only [step] at hs
    split at hs
    · cases hs
      exact inv_of_closed r (fail_todo worker inFlush s)
    · cases hs
  | commit raises =>
    simp only [step] at hs
    split at hs
    · cases hs
      cases raises <;> exact inv_of_closed r rfl
    · cases hs
  | elsewhere other =>
    simp only [step] at hs
    split at hs
    case isTrue => cases hs
    case isFalse hnot =>
      cases hs
      intro todo htodo
      refine ⟨fun h => hnot ⟨?_, h⟩, (hinv todo htodo).2⟩
      exact Option.isSome_iff_exists.mpr ⟨todo, htodo⟩

/-- The step that publishes a `reply_done` leads to a state in which a client that reloads finds
nothing. -/
lemma noReplyDone_of_announced {s s' : State} {e : Event} (hinv : Inv r s)
    (hs : step r worker s e = some s') (hannounced : Announced s') : NoReplyDone s e := by
  unfold NoReplyDone
  split
  · split
    case h_1 event rest htodo =>
      simp only [step, htodo] at hs
      cases hs
      obtain ⟨hfresh, done, hops, -⟩ := hinv _ htodo
      cases hid : event.finalMessageId with
      | none => rfl
      | some messageId =>
        have hmem : .publish event ∈ r.ops := by rw [hops]; simp
        have hfound := hannounced event (by simp [perform]) messageId hid
        rw [finalMessageId_ops hmem hid] at hfound
        exact absurd hfound hfresh
    case h_2 => trivial
  · trivial

/-- No `reply_done` has been published. -/
def Unannounced (s : State) : Prop :=
  ∀ event ∈ s.published, event.finalMessageId = none

lemma Unannounced.announced {s : State} (h : Unannounced s) : Announced s := by
  intro event hevent messageId hid
  cases (h event hevent).symm.trans hid

lemma unannounced_step {s s' : State} {e : Event} (h : Unannounced s) (hok : NoReplyDone s e)
    (hs : step r worker s e = some s') : Unannounced s' := by
  cases e with
  | advance =>
    simp only [step] at hs
    split at hs
    case h_1 op rest htodo =>
      cases hs
      cases op with
      | ensureActionIsWritable =>
        by_cases hw : writable worker r.event.actionId s.db = true
        · rw [perform, if_pos hw]
          exact h
        · rw [perform, if_neg hw, Unannounced, fail_published]
          exact h
      | publish event =>
        simp only [NoReplyDone, htodo] at hok
        intro event' hevent'
        rcases List.mem_append.mp hevent' with hold | hnew
        · exact h event' hold
        · rw [List.mem_singleton.mp hnew]
          exact hok
      | addMessage message => exact h
      | write => exact h
    case h_2 => cases hs
  | raise inFlush =>
    simp only [step] at hs
    split at hs
    · cases hs
      rw [Unannounced, fail_published]
      exact h
    · cases hs
  | commit raises =>
    simp only [step] at hs
    split at hs
    · cases hs
      cases raises <;> exact h
    · cases hs
  | elsewhere other =>
    simp only [step] at hs
    split at hs
    · cases hs
    · cases hs
      exact h

variable (r worker)

/-- A run of a round in which every announced reply can be found when it is announced and ever
after is a run that announces none: the event is published before the commit, whatever becomes of
the round. -/
theorem announced_iff_noReplyDone {db : Db} {s' : State} {es : List Event}
    (hfresh : r.replyId ∉ db.messages.map key)
    (hrun : run (step r worker) (start r db) es = some s') :
    AllStates (step r worker) Announced (start r db) es ↔
      StepsMeet (step r worker) NoReplyDone (start r db) es := by
  constructor
  · exact stepsMeet_of_allStates (Inv r) (fun _ _ _ => inv_step)
      (fun _ _ _ hinv _ hs h' => noReplyDone_of_announced hinv hs h') (inv_start r hfresh) hrun
  · exact allStates_of_stepsMeet Unannounced (fun _ _ _ => unannounced_step)
      (fun _ => Unannounced.announced) fun _ h => nomatch h

/-- The step closes the session with a commit. -/
def Commits (worker : Worker) : Event → Prop
  | .commit raises => raises = false
  | .raise inFlush => worker = .durableJob ∧ inFlush = false
  | _ => False

lemma Inv.announced {r : Round} {s : State} {todo : List RoundOp} (hinv : Inv r s)
    (htodo : s.todo = some todo) :
    (∀ event ∈ s.published, ∀ messageId ∈ event.finalMessageId, messageId = r.replyId) ∧
      (¬ Unannounced s → r.reply ∈ s.pending) := by
  obtain ⟨-, done, hops, hpending, hpublished⟩ := hinv todo htodo
  constructor
  · intro event hevent messageId hid
    rw [hpublished] at hevent
    have hmem : .publish event ∈ r.ops := by
      rw [hops]
      exact List.mem_append_left _ (publish_mem_of_sent hevent)
    exact finalMessageId_ops hmem hid
  · intro hdone
    simp only [Unannounced, not_forall, ← ne_eq] at hdone
    obtain ⟨event, hevent, hid⟩ := hdone
    obtain ⟨messageId, hid⟩ := Option.ne_none_iff_exists'.mp hid
    rw [hpending]
    exact reply_added hops (hpublished ▸ hevent) hid

/-- Once a round has announced its reply, a client that reloads after the round's end finds it
exactly if the worker has committed the session, and not if it has rolled it back. -/
theorem announced_at_end_iff {db : Db} {s s' : State} {es : List Event} {e : Event}
    (hfresh : r.replyId ∉ db.messages.map key)
    (hrun : run (step r worker) (start r db) es = some s) (hs : step r worker s e = some s')
    (hopen : s.todo.isSome) (hend : s'.todo = none) (hdone : ¬ Unannounced s) :
    Announced s' ↔ Commits worker e := by
  have hinv := invariant_run (Inv r) (fun _ _ _ => inv_step) (inv_start r hfresh) hrun
  obtain ⟨todo, htodo⟩ := Option.isSome_iff_exists.mp hopen
  obtain ⟨honly, hpending⟩ := hinv.announced htodo
  have hreply : key r.reply ∈ (s.db.messages ++ s.pending).map key :=
    List.mem_map_of_mem (List.mem_append_right _ (hpending hdone))
  have hcommit : Announced s.commit := fun event hevent messageId hid =>
    honly event hevent messageId hid ▸ hreply
  have hrollback : ¬ Announced s.rollback := by
    intro h
    refine hdone fun event hevent => Option.eq_none_iff_forall_not_mem.mpr fun messageId hid => ?_
    exact (hinv todo htodo).1 (honly event hevent messageId hid ▸ h event hevent messageId hid)
  have hfail : ∀ inFlush, Announced (s.fail worker inFlush) ↔
      worker = .durableJob ∧ inFlush = false := by
    intro inFlush
    cases worker with
    | chatDispatch => exact iff_of_false hrollback fun h => nomatch h.1
    | durableJob =>
      cases inFlush with
      | false => exact iff_of_true hcommit ⟨rfl, rfl⟩
      | true => exact iff_of_false hrollback fun h => nomatch h.2
  cases e with
  | advance =>
    simp only [step] at hs
    split at hs
    case h_1 op rest _ =>
      cases hs
      cases op with
      | ensureActionIsWritable =>
        by_cases hw : writable worker r.event.actionId s.db = true
        · rw [perform, if_pos hw] at hend
          cases hend
        · rw [perform, if_neg hw, hfail false]
          -- only a chat action can be found not writable
          refine iff_of_false (fun h => hw ?_) id
          rw [h.1]
          rfl
      | publish event => cases hend
      | addMessage message => cases hend
      | write => cases hend
    case h_2 => cases hs
  | raise inFlush =>
    simp only [step] at hs
    split at hs
    · cases hs
      exact hfail inFlush
    · cases hs
  | commit raises =>
    simp only [step] at hs
    split at hs
    · cases hs
      cases raises with
      | false => exact iff_of_true hcommit rfl
      | true => exact iff_of_false hrollback fun h => nomatch h
    · cases hs
  | elsewhere other =>
    simp only [step] at hs
    split at hs
    · cases hs
    · cases hs
      cases htodo.symm.trans hend

/-- A chat round with a reply in one chunk. -/
def chatRound (silence : Bool) : Round where
  event := { eventType := .chat, target := .cocoon "c1", actionId := "a1" }
  silence := silence
  generation := { chunks := ["Hello"], replyText := "Hello" }
  thoughtId := "m1"
  replyId := "m2"
  now := 5

/-- The database of that round: its action is running. -/
def runningAction : Db where
  actions :=
    [{ id := "a1"
       target := .cocoon "c1"
       eventType := .chat
       status := .running
       queuedAt := 0 }]

/-- A round that has announced its reply and is not committed yet. -/
def announcedRound : State :=
  (run (step (chatRound false) .chatDispatch) (start (chatRound false) runningAction)
    (List.replicate 28 .advance)).get (by decide)

theorem announcedRound_raise_iff :
    Announced ((step (chatRound false) .chatDispatch announcedRound (.raise false)).get
      (by decide)) ↔ Commits .chatDispatch (.raise false) :=
  announced_at_end_iff (chatRound false) .chatDispatch (by decide)
    (Option.some_get (by decide)).symm (Option.some_get (by decide)).symm (by decide) (by decide)
    fun h => absurd (h (.replyDone "a1" "m2") (by decide)) (by decide)

/-- A silent round that is committed. -/
theorem silent_round_announced :
    AllStates (step (chatRound true) .chatDispatch) Announced (start (chatRound true) runningAction)
      (List.replicate 17 .advance ++ [.commit false]) :=
  (announced_iff_noReplyDone (chatRound true) .chatDispatch (by decide) rfl).mpr (by decide)

/-- A round that raises in its memory operations: its reply was announced when no client could find
it, and never becomes a row. -/
theorem reply_announced_and_lost :
    ¬ AllStates (step (chatRound false) .chatDispatch) Announced
        (start (chatRound false) runningAction) (List.replicate 24 .advance) ∧
      ((run (step (chatRound false) .chatDispatch) (start (chatRound false) runningAction)
        (List.replicate 28 .advance ++ [.raise false])).map fun s =>
          (s.todo.isNone, s.published.filterMap RuntimeWsEvent.finalMessageId,
            s.db.messages.map Message.id)) = some (true, ["m2"], []) := by
  refine ⟨fun h => ?_, by decide⟩
  exact absurd (h.last rfl (.replyDone "a1" "m2") (by decide) "m2" rfl) (by decide)

end ReplyDelivery

end CocoonSit
