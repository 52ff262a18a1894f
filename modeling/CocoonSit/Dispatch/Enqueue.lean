import CocoonSit.Dispatch.Base
import CocoonSit.Wakeup.Tasks

/-!
# Enqueuing user messages

`MessageDispatchService.enqueue_chat_message` and `enqueue_chat_group_message`.  A call first
looks its `client_request_id` up; otherwise it either joins the target's queued chat action or
creates one, and inserts the message.  The two methods are one definition over the target, and
each call is a read part, `planChat`, followed by a write part, `commitChat`: that is where
another transaction can come in between.

The service's debounce setting and the digest behind the debounce keys are fields of
`MessageDispatchService`.
-/

namespace CocoonSit

open Table

/-- The debounce windows in the system settings, in seconds. -/
structure DebounceSettings where
  privateChatDebounceSeconds : ℤ
  groupChatDebounceSeconds : ℤ

/-- What the service object holds. -/
structure MessageDispatchService where
  debounceSeconds : ℕ := 2
  settings : Option DebounceSettings := none
  /-- `hashlib.sha256(…).hexdigest()`. -/
  sha256Hex : String → String

/-- The arguments of an enqueue call, the target apart. -/
structure ChatSubmission where
  content : String
  clientRequestId : String
  timezone : Option String := none
  clientSentAt : Option String := none
  locale : Option String := none
  idleSeconds : Option ℤ := none
  recentTurnCount : Option ℤ := none
  typingHintMs : Option ℤ := none
  senderUserId : Option RowId := none
  externalSenderId : Option String := none
  externalSenderDisplayName : Option String := none
  extraPayload : JsonDict := .empty

/-- The primary keys a call may draw. -/
structure NewKeys where
  actionId : RowId
  messageId : RowId
  tagId : RowId

inductive EnqueueError where
  | valueError (text : String)
  | integrityError (constraint : String)
deriving DecidableEq, Repr

/-! ## What differs between cocoons and rooms -/

def MessageDispatchService.currentDebounceSeconds (svc : MessageDispatchService) :
    Target → ℕ
  | .cocoon _ => (svc.settings.map fun s => (max s.privateChatDebounceSeconds 0).toNat).getD
      svc.debounceSeconds
  | .chatGroup _ => (svc.settings.map fun s => (max s.groupChatDebounceSeconds 0).toNat).getD
      svc.debounceSeconds

/-- The row the call is made for: `none` when there is none, else its `character_id`. -/
def targetCharacter (db : Db) : Target → Option RowId
  | .cocoon id => (get db.cocoons id).map Cocoon.characterId
  | .chatGroup id => (get db.rooms id).map ChatGroupRoom.characterId

def targetNotFound : Target → String
  | .cocoon _ => "Cocoon not found"
  | .chatGroup _ => "Chat group room not found"

def userMessageCancelReason : Target → String
  | .cocoon _ => "Cancelled because the user sent a new message"
  | .chatGroup _ => "Cancelled because the user sent a new group message"

/-- `_build_debounce_key` for a chat message. -/
def MessageDispatchService.chatDebounceKey (svc : MessageDispatchService) : Target → String
  | .cocoon id => "chat:" ++ svc.sha256Hex (debouncePayload [some id])
  | .chatGroup id => "chat_group:" ++ svc.sha256Hex (debouncePayload [some id])

/-- The fields a room's payloads have and a cocoon's do not. -/
def roomFields (target : Target) (characterId : RowId) : List (String × JsonValue) :=
  match target with
  | .cocoon _ => []
  | .chatGroup _ => [("character_id", .str characterId)]

/-! ## Payloads -/

/-- `(timezone or "UTC").strip() or "UTC"`. -/
def ChatSubmission.timezoneName (sub : ChatSubmission) : String :=
  (stripOrNone (sub.timezone.getD "UTC")).getD "UTC"

/-- An optional integer as a JSON value. -/
def jsonOfInt (n : Option ℤ) : JsonValue :=
  match n with
  | some n => .num n
  | none => .null

def ChatSubmission.senderFields (sub : ChatSubmission) : List (String × JsonValue) :=
  [("sender_user_id", jsonOfText sub.senderUserId),
   ("external_sender_id", jsonOfText sub.externalSenderId),
   ("external_sender_display_name", jsonOfText sub.externalSenderDisplayName)]

def ChatSubmission.clientFields (sub : ChatSubmission) : List (String × JsonValue) :=
  [("client_sent_at", jsonOfText sub.clientSentAt),
   ("locale", jsonOfText sub.locale),
   ("idle_seconds", jsonOfInt sub.idleSeconds),
   ("recent_turn_count", jsonOfInt sub.recentTurnCount),
   ("typing_hint_ms", jsonOfInt sub.typingHintMs)]

/-- `int(payload.get("chat_retry_attempt") or 1)`. -/
def chatRetryAttempt (payload : JsonDict) : ℤ :=
  match payload "chat_retry_attempt" with
  | some (.num n) => if n = 0 then 1 else n
  | _ => 1

/-- The payload a new action starts with. -/
def MessageDispatchService.initialPayload (svc : MessageDispatchService) (target : Target)
    (characterId : RowId) (sub : ChatSubmission) : JsonDict :=
  let senders := match target with
    | .cocoon _ => []
    | .chatGroup _ => sub.senderFields
  (JsonDict.ofList
    ([("timezone", .str sub.timezoneName),
      ("debounce_key", .str (svc.chatDebounceKey target)),
      ("chat_retry_attempt", .num 1)] ++ senders ++ roomFields target characterId ++
      sub.clientFields ++ [("aggregated_message_count", .num 0)])).merge sub.extraPayload

/-- The payload the call leaves on its action. -/
def MessageDispatchService.finalPayload (svc : MessageDispatchService) (target : Target)
    (characterId : RowId) (sub : ChatSubmission) (action : ActionDispatch) (messageId : RowId)
    (messageCount : ℕ) : JsonDict :=
  let requestId := match action.clientRequestId with
    | some c => if c = "" then sub.clientRequestId else c
    | none => sub.clientRequestId
  (JsonDict.ofList
    ([("message_id", .str messageId),
      ("client_request_id", .str requestId),
      ("timezone", .str sub.timezoneName),
      ("debounce_key", .str (svc.chatDebounceKey target)),
      ("chat_retry_attempt", .num (chatRetryAttempt action.payloadJson))] ++
      sub.senderFields ++ roomFields target characterId ++ sub.clientFields ++
      [("aggregated_message_count", .num messageCount)])).merge sub.extraPayload

/-! ## The two halves of a call -/

/-- What a call has decided from its reads. -/
inductive ChatPlan where
  /-- The request id is known: return its action. -/
  | reuse (existing : ActionDispatch)
  /-- Join this queued chat action. -/
  | aggregate (pending : ActionDispatch)
  /-- Create an action. -/
  | create

/-- The reads of an enqueue call. -/
def MessageDispatchService.planChat (svc : MessageDispatchService) (db : Db) (target : Target)
    (sub : ChatSubmission) : Except EnqueueError ChatPlan :=
  match findActionForClientRequestId db sub.clientRequestId with
  | some existing => .ok (.reuse existing)
  | none =>
    if (targetCharacter db target).isNone then .error (.valueError (targetNotFound target))
    else if 0 < svc.currentDebounceSeconds target then
      match findPendingChatAction db.actions target with
      | some pending => .ok (.aggregate pending)
      | none => .ok .create
    else .ok .create

def countActionMessages (messages : List Message) (actionId : RowId) : ℕ :=
  messages.countP fun m => m.actionId = some actionId

/-- The message row of a call. -/
def ChatSubmission.toMessage (sub : ChatSubmission) (target : Target) (actionId messageId : RowId)
    (tags : List RowId) (now : Timestamp) : Message :=
  { id := messageId
    target := target
    actionId := some actionId
    clientRequestId := some sub.clientRequestId
    senderUserId := sub.senderUserId
    externalSenderId := sub.externalSenderId
    externalSenderDisplayName := sub.externalSenderDisplayName
    role := .user
    content := sub.content
    tagsJson := tags
    createdAt := now }

/-- The action row of a call that creates one, before its payload is completed. -/
def MessageDispatchService.toAction (svc : MessageDispatchService) (target : Target)
    (characterId : RowId) (sub : ChatSubmission) (actionId : RowId) (until_ now : Timestamp) :
    ActionDispatch :=
  { id := actionId
    target := target
    eventType := .chat
    status := .queued
    clientRequestId := some sub.clientRequestId
    debounceUntil := some until_
    payloadJson := svc.initialPayload target characterId sub
    queuedAt := now }

/-- The session state is ensured and the target's idle wakeups are cancelled. -/
def prepareTarget (db : Db) (target : Target) (newTagId : RowId) (now : Timestamp) : Db :=
  let (db, _) := ensureSessionState db target newTagId now
  (cancelWakeupTasks db target
    { onlyTriggerKind := some "idle_timeout"
      cancelledReason := some (userMessageCancelReason target) } newTagId now).1

/-- `state.active_tags_json` of the target. -/
def activeTags (db : Db) (target : Target) : List RowId :=
  ((get db.sessionStates target).map SessionState.activeTagsJson).getD []

/-- Insert the message with its tag rows. -/
def insertMessage (db : Db) (message : Message) : Db :=
  { db with
    messages := db.messages ++ [message]
    messageTags := db.messageTags ++
      message.tagsJson.map fun tag => { messageId := message.id, tagId := tag } }

/-- `debounce_until` of a call. -/
def MessageDispatchService.debounceUntil (svc : MessageDispatchService) (target : Target)
    (now : Timestamp) : Timestamp :=
  now + 1000000 * svc.currentDebounceSeconds target

/-- The action a call puts its message on: the pending one, as it was read, or a new one. -/
def MessageDispatchService.chatAction (svc : MessageDispatchService) (db : Db) (target : Target)
    (pending : Option ActionDispatch) (sub : ChatSubmission) (keys : NewKeys) (now : Timestamp) :
    ActionDispatch :=
  match pending with
  | some action => { action with debounceUntil := some (svc.debounceUntil target now) }
  | none => svc.toAction target ((targetCharacter db target).getD "") sub keys.actionId
      (svc.debounceUntil target now) now

/-- The call's message. -/
def MessageDispatchService.chatMessage (svc : MessageDispatchService) (db : Db) (target : Target)
    (pending : Option ActionDispatch) (sub : ChatSubmission) (keys : NewKeys) (now : Timestamp) :
    Message :=
  sub.toMessage target (svc.chatAction db target pending sub keys now).id keys.messageId
    (activeTags (prepareTarget db target keys.tagId now) target) now

/-- The database once the call's message is inserted. -/
def MessageDispatchService.withMessage (svc : MessageDispatchService) (db : Db) (target : Target)
    (pending : Option ActionDispatch) (sub : ChatSubmission) (keys : NewKeys) (now : Timestamp) :
    Db :=
  insertMessage (prepareTarget db target keys.tagId now)
    (svc.chatMessage db target pending sub keys now)

/-- The payload the call leaves on its action. -/
def MessageDispatchService.chatPayload (svc : MessageDispatchService) (db : Db) (target : Target)
    (pending : Option ActionDispatch) (sub : ChatSubmission) (keys : NewKeys) (now : Timestamp) :
    JsonDict :=
  let action := svc.chatAction db target pending sub keys now
  svc.finalPayload target ((targetCharacter db target).getD "") sub action keys.messageId
    (countActionMessages (svc.withMessage db target pending sub keys now).messages action.id)

/-- The two columns a call rewrites on the pending action it joins. -/
def ActionDispatch.joined (row : ActionDispatch) (until_ : Timestamp) (payload : JsonDict) :
    ActionDispatch :=
  { row with debounceUntil := some until_, payloadJson := payload }

@[simp] lemma ActionDispatch.joined_id (row : ActionDispatch) (until_ : Timestamp)
    (payload : JsonDict) : (row.joined until_ payload).id = row.id := rfl

@[simp] lemma ActionDispatch.joined_target (row : ActionDispatch) (until_ : Timestamp)
    (payload : JsonDict) : (row.joined until_ payload).target = row.target := rfl

@[simp] lemma ActionDispatch.joined_status (row : ActionDispatch) (until_ : Timestamp)
    (payload : JsonDict) : (row.joined until_ payload).status = row.status := rfl

@[simp] lemma ActionDispatch.joined_eventType (row : ActionDispatch) (until_ : Timestamp)
    (payload : JsonDict) : (row.joined until_ payload).eventType = row.eventType := rfl

@[simp] lemma ActionDispatch.joined_startedAt (row : ActionDispatch) (until_ : Timestamp)
    (payload : JsonDict) : (row.joined until_ payload).startedAt = row.startedAt := rfl

@[simp] lemma ActionDispatch.joined_clientRequestId (row : ActionDispatch) (until_ : Timestamp)
    (payload : JsonDict) : (row.joined until_ payload).clientRequestId = row.clientRequestId := rfl

/-- The writes of an enqueue call that found no action for its request id, on the database as it
is at the commit, and the action it returns. -/
def MessageDispatchService.commitChat (svc : MessageDispatchService) (db : Db) (target : Target)
    (pending : Option ActionDispatch) (sub : ChatSubmission) (keys : NewKeys) (now : Timestamp) :
    Db × ActionDispatch :=
  let db' := svc.withMessage db target pending sub keys now
  let payload := svc.chatPayload db target pending sub keys now
  let action := { svc.chatAction db target pending sub keys now with payloadJson := payload }
  match pending with
  | some _ =>
    ({ db' with actions := update db'.actions action.id fun row =>
        row.joined (svc.debounceUntil target now) payload }, action)
  | none => ({ db' with actions := db'.actions ++ [action] }, action)

/-- An enqueue call: the database it commits and the action it returns. -/
def MessageDispatchService.enqueueChat (svc : MessageDispatchService) (db : Db) (target : Target)
    (sub : ChatSubmission) (keys : NewKeys) (now : Timestamp) :
    Except EnqueueError (Db × ActionDispatch) :=
  match svc.planChat db target sub with
  | .error e => .error e
  | .ok (.reuse existing) => .ok (db, existing)
  | .ok plan =>
    -- the column `messages.client_request_id` is unique
    if db.messages.any fun m => m.clientRequestId = some sub.clientRequestId then
      .error (.integrityError "uq_messages_client_request_id")
    else
      let pending := match plan with
        | .aggregate pending => some pending
        | _ => none
      .ok (svc.commitChat db target pending sub keys now)

def MessageDispatchService.enqueueChatMessage (svc : MessageDispatchService) (db : Db)
    (cocoonId : RowId) (sub : ChatSubmission) (keys : NewKeys) (now : Timestamp) :
    Except EnqueueError (Db × ActionDispatch) :=
  svc.enqueueChat db (.cocoon cocoonId) sub keys now

def MessageDispatchService.enqueueChatGroupMessage (svc : MessageDispatchService) (db : Db)
    (chatGroupId : RowId) (sub : ChatSubmission) (keys : NewKeys) (now : Timestamp) :
    Except EnqueueError (Db × ActionDispatch) :=
  svc.enqueueChat db (.chatGroup chatGroupId) sub keys now

/-! ## What a call writes -/

lemma prepareTarget_frame (db : Db) (target : Target) (newTagId : RowId) (now : Timestamp) :
    WakeupsOnly db (prepareTarget db target newTagId now) :=
  (WakeupsOnly.ofTags (ensureSessionState_frame ..)).trans (cancelWakeupTasks_frame ..)

section Writes

variable (svc : MessageDispatchService) (db : Db) (target : Target)
  (pending : Option ActionDispatch) (sub : ChatSubmission) (keys : NewKeys) (now : Timestamp)

lemma withMessage_actions :
    (svc.withMessage db target pending sub keys now).actions = db.actions := by
  simp only [MessageDispatchService.withMessage, insertMessage,
    (prepareTarget_frame db target keys.tagId now).actions]

lemma withMessage_messages :
    (svc.withMessage db target pending sub keys now).messages =
      db.messages ++ [svc.chatMessage db target pending sub keys now] := by
  simp only [MessageDispatchService.withMessage, insertMessage,
    (prepareTarget_frame db target keys.tagId now).messages]

lemma commitChat_messages :
    (svc.commitChat db target pending sub keys now).1.messages =
      db.messages ++ [svc.chatMessage db target pending sub keys now] := by
  rw [← withMessage_messages]
  cases pending <;> rfl

lemma chatMessage_actionId :
    (svc.chatMessage db target pending sub keys now).actionId =
      some (svc.commitChat db target pending sub keys now).2.id := by
  cases pending <;> rfl

@[simp] lemma chatMessage_id :
    (svc.chatMessage db target pending sub keys now).id = keys.messageId := rfl

@[simp] lemma chatMessage_target :
    (svc.chatMessage db target pending sub keys now).target = target := rfl

@[simp] lemma chatMessage_clientRequestId :
    (svc.chatMessage db target pending sub keys now).clientRequestId =
      some sub.clientRequestId := rfl

lemma commitChat_create_actions :
    (svc.commitChat db target none sub keys now).1.actions =
      db.actions ++ [(svc.commitChat db target none sub keys now).2] := by
  rw [← withMessage_actions svc db target none sub keys now]
  rfl

lemma commitChat_create_id :
    (svc.commitChat db target none sub keys now).2.id = keys.actionId := rfl

lemma commitChat_create_status :
    (svc.commitChat db target none sub keys now).2.status = .queued := rfl

lemma commitChat_create_clientRequestId :
    (svc.commitChat db target none sub keys now).2.clientRequestId =
      some sub.clientRequestId := rfl

lemma commitChat_aggregate_actions (action : ActionDispatch) :
    (svc.commitChat db target (some action) sub keys now).1.actions =
      update db.actions action.id fun row =>
        row.joined (svc.debounceUntil target now)
          (svc.chatPayload db target (some action) sub keys now) := by
  rw [← withMessage_actions svc db target (some action) sub keys now]
  rfl

lemma commitChat_aggregate_target (action : ActionDispatch) :
    (svc.commitChat db target (some action) sub keys now).2.target = action.target := rfl

lemma commitChat_aggregate_id (action : ActionDispatch) :
    (svc.commitChat db target (some action) sub keys now).2.id = action.id := rfl

lemma commitChat_frame :
    ∃ actions, (svc.commitChat db target pending sub keys now).1 =
      { svc.withMessage db target pending sub keys now with actions := actions } := by
  cases pending <;> exact ⟨_, rfl⟩

lemma commitChat_targets :
    (svc.commitChat db target pending sub keys now).1.cocoons = db.cocoons ∧
      (svc.commitChat db target pending sub keys now).1.rooms = db.rooms := by
  have h := prepareTarget_frame db target keys.tagId now
  obtain ⟨actions, hdb⟩ := commitChat_frame svc db target pending sub keys now
  rw [hdb]
  simp only [MessageDispatchService.withMessage, insertMessage, h.cocoons, h.rooms, and_self]

end Writes

lemma enqueueChat_ok {svc : MessageDispatchService} {db : Db} {target : Target}
    {sub : ChatSubmission} {keys : NewKeys} {now : Timestamp} {result : Db × ActionDispatch}
    (h : svc.enqueueChat db target sub keys now = .ok result) :
    result.1 = db ∨ ∃ pending, (∀ a ∈ pending, a ∈ db.actions ∧ PendingChat target a) ∧
      result = svc.commitChat db target pending sub keys now := by
  unfold MessageDispatchService.enqueueChat MessageDispatchService.planChat at h
  split at h
  · cases h
  · cases h
    exact .inl rfl
  · next hne =>
    split at h
    · cases h
    · cases h
      refine .inr ⟨_, fun a ha => ?_, rfl⟩
      split at ha
      · next pending =>
        cases ha
        split at hne
        · cases hne
        · split at hne
          · cases hne
          · split at hne
            · split at hne
              · next hfind =>
                cases hne
                exact findPendingChatAction_spec hfind
              · cases hne
            · cases hne
      · cases ha

end CocoonSit
