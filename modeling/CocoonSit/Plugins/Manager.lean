import CocoonSit.Lib.Sweep
import CocoonSit.Plugins.ConfigEdits
import CocoonSit.Plugins.Cron
import CocoonSit.Wakeup.Provenance

/-!
# One iteration of the plugin manager

`PluginRuntimeManager.run_once`: it takes in what the plugins' processes have put into their queues,
the results of short-lived events, starts processes and events that are due, and hands replies for
instant messengers out.  Each of the four is a loop, and what one turn of them does is a handler
here: the state it leaves, and the exception it raises, if any.  A handler that raises has closed
its session without a commit.

What happens outside (the processes, the pool, the zone database, the printing of values that are no
texts, the methods of an RPC request) is given.
-/

namespace CocoonSit

open Table

namespace PluginRuntimeManager

/-! ## Rows and memory -/

/-- `plugin_user_event_configs`. -/
structure PluginUserEventConfig where
  pluginId : RowId
  userId : RowId
  eventName : String
  schedule : Schedule

/-- `plugin_run_states`. -/
structure PluginRunState where
  pluginId : RowId
  status : String := "stopped"
  heartbeatAt : Option String := none
  errorText : Option String := none

structure PluginGroupVisibility where
  pluginId : RowId
  groupId : RowId
  isVisible : Bool

/-- `DaemonHandle`: a plugin's process and its queues; only an `im` process is sent anything. -/
structure DaemonHandle where
  pluginId : RowId
  processType : String
  versionId : RowId
  isAlive : Bool := true
  outboundQueue : List JsonValue := []

def DaemonHandle.hasInboundQueue (handle : DaemonHandle) : Bool := handle.processType = "im"

/-- What a short-lived event runs for. -/
structure ShortLivedKey where
  pluginId : RowId
  eventName : String
  scopeType : String
  scopeId : RowId
deriving DecidableEq

/-- The future of a short-lived event: `_normalize_envelope` lets through dicts and `None`. -/
inductive FutureState where
  | pending
  | returned (envelope : Option JsonDict)
  /-- It raised; a `PluginUserVisibleError` may name a user. -/
  | raised (visibleTo : Option RowId) (text : String)

structure Manager where
  db : Db
  tables : PluginTables
  /-- The bindings of a plugin, the oldest first. -/
  bindings : RowId → List PluginTargetBinding := fun _ => []
  userEventConfigs : List PluginUserEventConfig := []
  runStates : List PluginRunState := []
  /-- `validation_error_text` of a scope's config row. -/
  validationErrors : ConfigScope → RowId → RowId → Option String := fun _ _ _ => none
  /-- `runtime_error_text` of a scope's config row. -/
  runtimeErrors : ConfigScope → RowId → RowId → Option String := fun _ _ _ => none
  groupVisibility : List PluginGroupVisibility := []
  /-- `is_globally_visible`. -/
  globallyVisible : RowId → Bool := fun _ => true
  /-- The groups of a user. -/
  groupIds : RowId → List RowId := fun _ => []
  /-- `users.timezone`. -/
  timezone : RowId → Option String := fun _ => none
  daemonHandles : List DaemonHandle := []
  shortLivedFutures : List (ShortLivedKey × FutureState) := []
  shortLivedNextRun : ShortLivedKey → Option Timestamp := fun _ => none
  deliveries : Deliveries := {}

/-- What an RPC method has done; its exceptions are caught, but a flush that failed leaves the
session unusable. -/
structure RpcOutcome where
  db : Db
  poisoned : Bool := false

structure Outside where
  now : Timestamp
  isoformat : Timestamp → String
  /-- `str(v)` of a value that is no text. -/
  pyStr : JsonValue → String
  zoneInfo : String → Option ZoneInfo
  /-- The database refuses a row that names a missing user, room or plugin. -/
  foreignKeys : Bool
  rpc : Db → RowId → String → JsonDict → RpcOutcome
  /-- `process.start()` succeeds. -/
  startProcess : RowId → Bool
  /-- `pool.submit` succeeds. -/
  submit : ShortLivedKey → Bool
  put : RowId → PutOutcome
  messageDispatchService : MessageDispatchService
  newKeys : Db → NewKeys
  wakeupKeys : Db → ℕ → WakeupKeys
  newTagId : RowId

variable (out : Outside)

/-! ## Values of a message -/

/-- What `dict(…)` makes of an element of a list. -/
def pairOf : JsonValue → Option (JsonValue × JsonValue)
  | .arr [k, v] => some (k, v)
  | .str s =>
    match s.toList with
    | [k, v] => some (.str (String.ofList [k]), .str (String.ofList [v]))
    | _ => none
  | .obj [(k, _), (v, _)] => some (.str k, .str v)
  | _ => none

def hashable : JsonValue → Bool
  | .arr _ | .obj _ => false
  | _ => true

/-- The items of `dict(v or {})`; a key that is no text is not looked up. -/
def fieldsOf (v : Option JsonValue) : Except PyError (List (String × JsonValue)) :=
  match v.filter JsonValue.truthy with
  | none => .ok []
  | some (.obj fields) => .ok fields
  | some (.arr items) =>
    match items.mapM pairOf with
    | none => .error .typeError
    | some pairs =>
      if pairs.all fun pair => hashable pair.1 then
        .ok (pairs.filterMap fun pair =>
          match pair.1 with
          | .str k => some (k, pair.2)
          | _ => none)
      else .error .typeError
  | some (.str _) => .error (.valueError "dictionary update sequence element has the wrong length")
  | some _ => .error .typeError

/-- `dict(v or {})`. -/
def dictOf (v : Option JsonValue) : Except PyError JsonDict := (fieldsOf v).map JsonDict.ofList

/-- `str(d.get(k) or "").strip()`. -/
def textField (d : JsonDict) (k : String) : String :=
  strip ((ContextBuilder.truthyText out.pyStr d k).getD "")

variable {out} in
lemma textField_of_str {payload : JsonDict} {k text : String} (h : payload k = some (.str text)) :
    textField out payload k = strip text := by
  rw [textField, ContextBuilder.truthyText, h]
  by_cases htext : text = ""
  · subst htext
    rfl
  · have htrue : JsonValue.truthy (.str text) = true := by simp [JsonValue.truthy, htext]
    rw [Option.filter_some, if_pos htrue]
    rfl

/-- `str(d.get(k) or "").strip() or None`. -/
def optionalTextField (d : JsonDict) (k : String) : Option String :=
  stripOrNone ((ContextBuilder.truthyText out.pyStr d k).getD "")

/-! ## Run states and errors -/

/-- `_ensure_run_state`, and a change of the row. -/
def Manager.withRunState (s : Manager) (pluginId : RowId) (f : PluginRunState → PluginRunState) :
    Manager :=
  { s with runStates :=
      if s.runStates.any fun r => r.pluginId = pluginId then
        s.runStates.map fun r => if r.pluginId = pluginId then f r else r
      else s.runStates ++ [f { pluginId := pluginId }] }

/-- The plugin has been heard of. -/
def Manager.heardOf (s : Manager) (pluginId : RowId) : Manager :=
  s.withRunState pluginId fun r =>
    { r with status := "running", heartbeatAt := some (out.isoformat out.now) }

/-- The event did not fail for the plugin as a whole. -/
def Manager.stillRunning (s : Manager) (pluginId : RowId) : Manager :=
  s.withRunState pluginId fun r => { r with status := "running", errorText := none }

def Manager.failed (s : Manager) (pluginId : RowId) (error : String) : Manager :=
  s.withRunState pluginId fun r => { r with status := "failed", errorText := some error }

/-- The row of a user or a room is there. -/
def Manager.scopeExists (s : Manager) (scope : ConfigScope) (scopeId : RowId) : Bool :=
  match scope with
  | .user => scopeId ∈ s.db.users
  | .chatGroup => (get s.db.rooms scopeId).isSome

/-- The config row of a scope is made when it is first needed: this one cannot be. -/
def Manager.RefusesConfig (s : Manager) (scope : ConfigScope) (pluginId scopeId : RowId) : Prop :=
  out.foreignKeys ∧ s.scopeExists scope scopeId = false ∧
    (scopeConfigs scope s.tables).any (isOf pluginId scopeId) = false

instance (s : Manager) (scope : ConfigScope) (pluginId scopeId : RowId) :
    Decidable (s.RefusesConfig out scope pluginId scopeId) :=
  inferInstanceAs (Decidable (_ ∧ _ ∧ _))

def Manager.setRuntimeError (s : Manager) (scope : ConfigScope) (pluginId scopeId : RowId)
    (text : Option String) : Manager :=
  { s with runtimeErrors := fun scope' pluginId' scopeId' =>
      if scope' = scope ∧ pluginId' = pluginId ∧ scopeId' = scopeId then text
      else s.runtimeErrors scope' pluginId' scopeId' }

/-- `_record_user_error` and `_record_chat_group_error`. -/
def Manager.recordError (s : Manager) (scope : ConfigScope) (plugin : PluginDefinition)
    (scopeId : RowId) (message : String) : Except PyError Manager :=
  if s.RefusesConfig out scope plugin.id scopeId then .error .integrityError
  else
    .ok ({ s with tables := ensureScopeConfig scope s.tables plugin scopeId }.setRuntimeError scope
      plugin.id scopeId (some ((stripOrNone message).getD "Plugin runtime error")))

/-! ## Events of plugins -/

/-- The config of a scope is on and valid; a row that is not there yet is. -/
def Manager.scopeEnabled (s : Manager) (scope : ConfigScope) (pluginId scopeId : RowId) : Bool :=
  ((scopeConfigs scope s.tables).find? (isOf pluginId scopeId)).all PluginScopeConfig.isEnabled &&
    ((s.validationErrors scope pluginId scopeId).filter (· ≠ "")).isNone

/-- `PluginManagerAccessMixin._can_deliver_to_user`. -/
def Manager.isVisibleTo (s : Manager) (pluginId userId : RowId) : Bool :=
  let overrides := s.groupVisibility.filter fun v =>
    v.pluginId = pluginId ∧ v.groupId ∈ s.groupIds userId
  if overrides.isEmpty then s.globallyVisible pluginId else overrides.any fun v => v.isVisible

/-- `_can_deliver_to_user`, `_can_deliver_to_chat_group` and the lookups before them in `ingest`. -/
def Manager.canDeliver (s : Manager) (pluginId : RowId) (binding : PluginTargetBinding) : Bool :=
  if binding.scopeType = "chat_group" then
    (get s.db.rooms binding.scopeId).isSome &&
      s.scopeEnabled .chatGroup pluginId binding.scopeId
  else if binding.scopeType = "user" then
    (targetCharacter s.db binding.target).isSome &&
      (s.scopeEnabled .user pluginId binding.scopeId && s.isVisibleTo pluginId binding.scopeId)
  else true

/-- The event is switched off. -/
def Manager.eventDisabled (s : Manager) (pluginId : RowId) (eventName : String) : Bool :=
  (s.tables.eventConfigs.find? fun c => c.pluginId = pluginId ∧ c.eventName = eventName).any
    fun c => !c.isEnabled

/-- `ExternalWakeupService.ingest`.  Keys are drawn fresh, so scheduling succeeds. -/
def Manager.ingest (s : Manager) (plugin : PluginDefinition) (version : PluginVersion)
    (eventName : String) (envelope : JsonDict) (scope : Option (String × RowId)) :
    Except PyError Manager :=
  if plugin.status ≠ .enabled ∨ s.eventDisabled plugin.id eventName then .ok s
  else do
    let payload ← fieldsOf (envelope "payload")
    let summary := textField out envelope "summary"
    if summary = "" then .error (.valueError "External plugin event summary is required")
    else
      let event : PluginEvent :=
        { pluginId := plugin.id
          pluginVersion := version.version
          eventName := eventName
          summary := some summary
          payload := payload
          scopeType := scope.map Prod.fst
          scopeId := scope.map Prod.snd
          deliverable := s.canDeliver plugin.id }
      let bindings := (s.bindings plugin.id).zipIdx.map fun b => (b.1, out.wakeupKeys s.db b.2)
      .ok { s with
        db := (CocoonSit.ingest s.db event bindings out.newTagId out.now).getD s.db }

/-! ## Messages of instant messengers -/

def resolveImUserId (db : Db) (message : JsonDict) (fieldName : String) :
    Except PyError (Option RowId) :=
  let normalized := textField out message fieldName
  if normalized = "" then .ok none
  else if normalized ∈ db.users then .ok (some normalized)
  else .error (.valueError (fieldName ++ " must reference an existing user"))

def imClientRequestId (pluginId messageKind accountId conversationId messageId : String) :
    String :=
  let raw := String.intercalate "|" [pluginId, messageKind, accountId, conversationId, messageId]
  "plugin-im:" ++ pluginId ++ ":" ++
    String.ofList ((out.messageDispatchService.sha256Hex raw).toList.take 32)

def routeTarget (route : JsonDict) : Except PyError Target :=
  let targetType := textField out route "target_type"
  let targetId := textField out route "target_id"
  if targetId ≠ "" ∧ targetType = "cocoon" then .ok (.cocoon targetId)
  else if targetId ≠ "" ∧ targetType = "chat_group" then .ok (.chatGroup targetId)
  else
    .error (.valueError
      "IM inbound route must include target_type 'cocoon' or 'chat_group' and target_id")

/-- `_ingest_im_inbound_message` up to the call of the dispatch service. -/
def imInboundSubmission (db : Db) (pluginId : RowId) (payload : JsonDict) :
    Except PyError (Target × ChatSubmission) := do
  let messageKind := textField out payload "message_kind"
  let route ← dictOf (payload "route")
  let target ← routeTarget out route
  let message ← dictOf (payload "message")
  let content := textField out message "text"
  let externalMessageId := textField out message "message_id"
  if content = "" then .error (.valueError "IM inbound message text is required")
  else if externalMessageId = "" then .error (.valueError "IM inbound message_id is required")
  else do
    let senderUserId ← resolveImUserId out db message "sender_user_id"
    let ownerUserId ← resolveImUserId out db message "owner_user_id"
    let memoryOwnerUserId ← resolveImUserId out db message "memory_owner_user_id"
    let routeMetadata ← fieldsOf (route "metadata_json")
    let metadata ← fieldsOf (message "metadata_json")
    let rawPayload ← fieldsOf (message "raw_payload")
    let externalSenderId := optionalTextField out message "sender_id"
    let externalSenderDisplayName := optionalTextField out message "sender_display_name"
    .ok (target,
      { content := content
        clientRequestId := imClientRequestId out pluginId messageKind
          (textField out message "account_id") (textField out message "conversation_id")
          externalMessageId
        timezone := some "UTC"
        senderUserId := senderUserId
        externalSenderId := externalSenderId
        externalSenderDisplayName := externalSenderDisplayName
        extraPayload := .ofList
          [("source_kind", .str "plugin_im"),
           ("source_plugin_id", .str pluginId),
           ("external_account_id", jsonOfText (optionalTextField out message "account_id")),
           ("external_conversation_id",
             jsonOfText (optionalTextField out message "conversation_id")),
           ("external_message_id", .str externalMessageId),
           ("external_sender_id", jsonOfText externalSenderId),
           ("external_sender_display_name", jsonOfText externalSenderDisplayName),
           ("sender_user_id", jsonOfText senderUserId),
           ("owner_user_id", jsonOfText ownerUserId),
           ("memory_owner_user_id",
             jsonOfText (memoryOwnerUserId <|> ownerUserId <|> senderUserId)),
           ("im_message_kind", .str messageKind),
           ("im_route_metadata_json", .obj routeMetadata),
           ("im_metadata_json", .obj (metadata ++
             [("raw_payload", .obj rawPayload),
              ("occurred_at",
                .str ((ContextBuilder.truthyText out.pyStr message "occurred_at").getD ""))]))] })

/-- An exception of the dispatch service. -/
def ofEnqueueError : EnqueueError → PyError
  | .valueError text => .valueError text
  | .integrityError _ => .integrityError

def Manager.ingestImInboundMessage (s : Manager) (pluginId : RowId) (payload : JsonDict) :
    Except PyError Manager := do
  let (target, sub) ← imInboundSubmission out s.db pluginId payload
  match out.messageDispatchService.enqueueChat s.db target sub (out.newKeys s.db) out.now with
  | .ok (db, _) => .ok { s with db := db }
  | .error error => .error (ofEnqueueError error)

/-- `_handle_im_delivery_result`: what it leaves when it raises, too, as the manager's memory is not
rolled back. -/
def Manager.handleImDeliveryResult (s : Manager) (pluginId : RowId) (payload : JsonDict) :
    Manager × Option PyError :=
  let deliveryId := textField out payload "delivery_id"
  let forgotten := { s with deliveries := { s.deliveries with
    imDeliveriesInFlight :=
      s.deliveries.imDeliveriesInFlight.filter fun attempt => attempt.deliveryId ≠ deliveryId } }
  if deliveryId = "" then (s, none)
  else
    match get s.deliveries.outbox deliveryId with
    | none => (forgotten, none)
    | some row =>
      if row.pluginId ≠ pluginId then (forgotten, none)
      else
        match dictOf (payload "result") with
        | .error error => (forgotten, some error)
        | .ok result =>
          let result : DeliveryResult :=
            { deliveryId := deliveryId
              ok := (result "ok").any JsonValue.truthy
              retryable := (result "retryable").all JsonValue.truthy
              error := ContextBuilder.truthyText out.pyStr result "error" }
          ({ s with deliveries :=
              CocoonSit.handleImDeliveryResult pluginId result out.now s.deliveries }, none)

/-- `_handle_im_rpc_request`: exceptions of the method are answered, but the session that one of its
flushes has broken cannot be committed. -/
def Manager.handleImRpcRequest (s : Manager) (pluginId : RowId) (payload : JsonDict) :
    Except PyError Manager := do
  let request ← dictOf (payload "payload")
  if textField out payload "request_id" = "" ∨
      ((s.daemonHandles.find? fun h => h.pluginId = pluginId).all fun h => !h.hasInboundQueue) then
    .ok s
  else
    let outcome := out.rpc s.db pluginId (textField out payload "method") request
    if outcome.poisoned then .error .pendingRollbackError else .ok { s with db := outcome.db }

/-! ## The queues -/

/-- A handler commits what it has done, and `f` of it, or it raises. -/
def Manager.committing (s : Manager) (f : Manager → Manager) :
    Except PyError Manager → Manager × Option PyError
  | .ok s' => (f s', none)
  | .error error => (s, some error)

/-- What `_handle_queue_message` does with a dict. -/
def Manager.handleMessage (s : Manager) (plugin : PluginDefinition) (version : PluginVersion)
    (payload : JsonDict) : Manager × Option PyError :=
  let heard (s : Manager) : Manager := s.heardOf out plugin.id
  let userId := textField out payload "user_id"
  if payload.isStr "type" "heartbeat" then
    (s.withRunState plugin.id fun r =>
      { r with
        status := "running"
        heartbeatAt := some ((ContextBuilder.truthyText out.pyStr payload "occurred_at").getD
          (out.isoformat out.now)) }, none)
  else if payload.isStr "type" "external_event" then
    s.committing heard (do
      let envelope ← dictOf (payload "envelope")
      let eventName := (ContextBuilder.truthyText out.pyStr payload "plugin_event").getD ""
      s.ingest out plugin version eventName envelope none)
  else if payload.isStr "type" "error" then
    (s.failed plugin.id ((ContextBuilder.truthyText out.pyStr payload "error").getD
      "unknown plugin runtime error"), none)
  else if payload.isStr "type" "user_error" then
    if userId = "" then (s, none)
    else
      s.committing id (s.recordError out .user plugin userId
        ((ContextBuilder.truthyText out.pyStr payload "error").getD "Plugin runtime error"))
  else if payload.isStr "type" "user_error_clear" then
    (if userId = "" then s else s.setRuntimeError .user plugin.id userId none, none)
  else if payload.isStr "type" "im_inbound_message" then
    s.committing heard (s.ingestImInboundMessage out plugin.id payload)
  else if payload.isStr "type" "delivery_result" then
    match s.handleImDeliveryResult out plugin.id payload with
    | (s', none) => (s'.heardOf out plugin.id, none)
    | raised => raised
  else if payload.isStr "type" "rpc_request" then
    s.committing heard (s.handleImRpcRequest out plugin.id payload)
  else (s, none)

/-- `queue.get_nowait()` of a plugin's queue. -/
def Manager.popMessage (s : Manager) (pluginId : RowId) : Manager :=
  { s with daemonHandles := s.daemonHandles.map fun h =>
      if h.pluginId = pluginId then { h with outboundQueue := h.outboundQueue.tail } else h }

def Manager.handleQueueMessage (s : Manager) (pluginId versionId : RowId) (payload : JsonValue) :
    Manager × Option PyError :=
  let s := s.popMessage pluginId
  match get s.tables.plugins pluginId, get s.tables.versions versionId with
  | some plugin, some version =>
    match payload with
    | .obj fields =>
      match s.handleMessage out plugin version (.ofList fields) with
      -- the run state of the plugin is made in any case
      | (s', none) => (s'.withRunState plugin.id id, none)
      | raised => raised
    | _ => (s, some .attributeError)
  | _, _ => (s, none)

/-! ## Short-lived events -/

/-- A run state for a plugin that is gone. -/
def Manager.RefusesRunState (s : Manager) (pluginId : RowId) : Prop :=
  out.foreignKeys ∧ (get s.tables.plugins pluginId).isNone ∧
    (s.runStates.any fun r => r.pluginId = pluginId) = false

instance (s : Manager) (pluginId : RowId) : Decidable (s.RefusesRunState out pluginId) :=
  inferInstanceAs (Decidable (_ ∧ _ ∧ _))

/-- Where `_handle_finished_short_lived` records an exception, and for whom; `none` for the plugin
as a whole. -/
def errorScope (key : ShortLivedKey) (visibleTo : Option RowId) : Option (ConfigScope × RowId) :=
  match visibleTo.filter (· ≠ "") with
  | some userId => some (.user, userId)
  | none =>
    if key.scopeType = "user" then some (.user, key.scopeId)
    else if key.scopeType = "chat_group" then some (.chatGroup, key.scopeId)
    else none

/-- Its except branch. -/
def Manager.recordShortLivedError (s : Manager) (key : ShortLivedKey) (visibleTo : Option RowId)
    (text : String) : Except PyError Manager :=
  match get s.tables.plugins key.pluginId, errorScope key visibleTo with
  | some plugin, some (scope, scopeId) =>
    (s.recordError out scope plugin scopeId text).map fun s => s.stillRunning key.pluginId
  | _, _ =>
    if s.RefusesRunState out key.pluginId then .error .integrityError
    else .ok (s.failed key.pluginId text)

/-- What `_handle_finished_short_lived` does with a result. -/
def Manager.finishedShortLived (s : Manager) (key : ShortLivedKey) :
    FutureState → Except PyError Manager
  | .pending | .returned none => .ok s
  | .raised visibleTo text => s.recordShortLivedError out key visibleTo text
  | .returned (some envelope) =>
    match get s.tables.plugins key.pluginId with
    | none => .ok s
    | some plugin =>
      match plugin.activeVersionId.bind fun v => get s.tables.versions v with
      | none => .ok s
      | some version =>
        (s.ingest out plugin version key.eventName envelope
          (some (key.scopeType, key.scopeId))).map fun s => s.heardOf out key.pluginId

/-- One turn of its loop: the future is taken out first. -/
def Manager.handleFinished (s : Manager) (key : ShortLivedKey) (future : FutureState) :
    Manager × Option PyError :=
  let s := { s with shortLivedFutures := s.shortLivedFutures.filter fun f => f.1 ≠ key }
  s.committing id (s.finishedShortLived out key future)

/-! ## Synchronisation -/

/-- `ShortLivedScope`, as far as the manager looks at it. -/
structure ShortLivedScope where
  scopeType : String
  scopeId : RowId
  timezone : Option String := none

/-- What `_list_short_lived_scopes` makes of a binding. -/
def Manager.scopeOf (s : Manager) (pluginId : RowId) (b : PluginTargetBinding) :
    Option ShortLivedScope :=
  if b.scopeType = "user" then
    if (targetCharacter s.db b.target).isSome && (s.scopeEnabled .user pluginId b.scopeId &&
        s.isVisibleTo pluginId b.scopeId) then
      some
        { scopeType := "user"
          scopeId := b.scopeId
          timezone := some (((s.timezone b.scopeId).filter (· ≠ "")).getD "UTC") }
    else none
  else if b.scopeType = "chat_group" then
    if (get s.db.rooms b.scopeId).isSome && s.scopeEnabled .chatGroup pluginId b.scopeId then
      some { scopeType := "chat_group", scopeId := b.scopeId }
    else none
  else none

/-- `_list_short_lived_scopes`: a scope is listed once. -/
def Manager.shortLivedScopes (s : Manager) (pluginId : RowId) : List ShortLivedScope :=
  ((s.bindings pluginId).filterMap (s.scopeOf pluginId)).foldl
    (fun scopes scope =>
      if scopes.any fun sc =>
          sc.scopeType = scope.scopeType ∧ sc.scopeId = scope.scopeId then scopes
      else scopes ++ [scope])
    []

/-- The schedule of an event for a scope: rooms have none. -/
def Manager.scheduleFor (s : Manager) (pluginId : RowId) (eventName : String)
    (scope : ShortLivedScope) : Schedule :=
  if scope.scopeType = "user" then
    match s.userEventConfigs.find? fun c =>
        c.pluginId = pluginId ∧ c.userId = scope.scopeId ∧ c.eventName = eventName with
    | some config =>
      { config.schedule with
        mode := if config.schedule.mode = "" then "manual" else config.schedule.mode }
    | none => {}
  else {}

/-- `_submit_short_lived_event` for one scope of an event that is due. -/
def Manager.submitShortLived (s : Manager) (key : ShortLivedKey) : Except PyError Manager :=
  if s.shortLivedFutures.any fun f => f.1 = key then .ok s
  else if out.submit key then
    .ok { s with shortLivedFutures := s.shortLivedFutures ++ [(key, .pending)] }
  else .error .osError

def Manager.setNextRun (s : Manager) (key : ShortLivedKey) (next : Option Timestamp) : Manager :=
  { s with shortLivedNextRun := Function.update s.shortLivedNextRun key next }

/-- The event is started when its run is due, and its run after that is noted. -/
def Manager.startWhenDue (s : Manager) (key : ShortLivedKey) (next : Except PyError Timestamp)
    (run : Timestamp) : Manager × Option PyError :=
  if out.now < run then (s, none)
  else
    match s.submitShortLived out key with
    | .error error => (s, some error)
    | .ok s =>
      match next with
      | .error error => (s, some error)
      | .ok run => (s.setNextRun key (some run), none)

/-- The part of `_sync_plugins` for one scope of a short-lived event; what it has written into the
manager's memory stays there when it raises. -/
def Manager.syncSchedule (s : Manager) (key : ShortLivedKey) (schedule : Schedule)
    (timezone : Option String) : Manager × Option PyError :=
  if schedule.mode = "manual" then (s.setNextRun key none, none)
  else
    let next := nextRunForSchedule out.zoneInfo schedule out.now timezone
    match s.shortLivedNextRun key, next with
    | some run, _ => s.startWhenDue out key next run
    | none, .ok run => (s.setNextRun key (some run)).startWhenDue out key next run
    | none, .error error => (s, some error)

/-- Runs of scopes that are no longer scheduled are forgotten. -/
def Manager.pruneSchedule (s : Manager) (pluginId : RowId) (eventName : String)
    (scheduled : List ShortLivedKey) : Manager :=
  { s with shortLivedNextRun := fun key =>
      if key.pluginId = pluginId ∧ key.eventName = eventName ∧ key ∉ scheduled then none
      else s.shortLivedNextRun key }

/-- `_stop_daemon_handle`: the handle is forgotten first. -/
def Manager.stopDaemonHandle (s : Manager) (pluginId : RowId) : Manager × Option PyError :=
  if s.daemonHandles.any fun h => h.pluginId = pluginId then
    let stopped : Manager :=
      { s with daemonHandles := s.daemonHandles.filter fun h => h.pluginId ≠ pluginId }
    if s.RefusesRunState out pluginId then (stopped, some .integrityError)
    else (stopped.withRunState pluginId fun r => { r with status := "stopped" }, none)
  else (s, none)

/-- `_ensure_external_daemon` and `_ensure_im_process`. -/
def Manager.ensureProcess (s : Manager) (pluginId versionId : RowId) (processType : String) :
    Manager × Option PyError :=
  if s.daemonHandles.any fun h => h.pluginId = pluginId ∧ h.isAlive ∧ h.versionId = versionId then
    (s, none)
  else
    match s.stopDaemonHandle out pluginId with
    | (s, some error) => (s, some error)
    | (s, none) =>
      if out.startProcess pluginId then
        let started : Manager := { s with daemonHandles := s.daemonHandles ++
          [{ pluginId := pluginId, processType := processType, versionId := versionId }] }
        (started.withRunState pluginId fun r =>
          { r with status := "running", errorText := none }, none)
      else (s, some .osError)

/-! ## The loops -/

/-- What a loop takes up. -/
inductive Item where
  | message (pluginId versionId : RowId) (payload : JsonValue)
  | finished (key : ShortLivedKey) (future : FutureState)
  | stopDaemon (pluginId : RowId)
  | listScopes (pluginId : RowId)
  | schedule (key : ShortLivedKey) (schedule : Schedule) (timezone : Option String)
  | prune (pluginId : RowId) (eventName : String) (scheduled : List ShortLivedKey)
  | process (pluginId versionId : RowId) (processType : String)
  | expire
  | deliver (row : PluginImDeliveryOutbox)

def drainQueues (s : Manager) : List Item :=
  s.daemonHandles.flatMap fun h => h.outboundQueue.map fun payload =>
    .message h.pluginId h.versionId payload

/-- `_handle_finished_short_lived`. -/
def finishedItems (s : Manager) : List Item :=
  s.shortLivedFutures.filterMap fun f =>
    match f.2 with
    | .pending => none
    | future => some (.finished f.1 future)

/-- What `_sync_plugins` does for an event of an external plugin. -/
def eventItems (s : Manager) (pluginId : RowId) (event : PluginEventDefinition) : List Item :=
  if s.eventDisabled pluginId event.name || event.mode ≠ "short_lived" then []
  else
    let scopes := s.shortLivedScopes pluginId
    let keyOf (scope : ShortLivedScope) : ShortLivedKey :=
      { pluginId := pluginId
        eventName := event.name
        scopeType := scope.scopeType
        scopeId := scope.scopeId }
    .listScopes pluginId :: scopes.map (fun scope =>
      .schedule (keyOf scope) (s.scheduleFor pluginId event.name scope)
      scope.timezone) ++ [.prune pluginId event.name (scopes.map keyOf)]

/-- What it does for an enabled plugin and its active version. -/
def pluginItems (s : Manager) (plugin : PluginDefinition) (version : PluginVersion) : List Item :=
  let events := s.tables.eventDefinitions.filter fun e =>
    e.pluginId = plugin.id ∧ e.pluginVersionId = version.id
  if plugin.pluginType = "external" then
    events.flatMap (eventItems s plugin.id) ++
      (if events.any fun e => e.mode = "daemon" && !s.eventDisabled plugin.id e.name then
        [.process plugin.id version.id "external_daemon"] else [])
  else if plugin.pluginType = "im" then [.process plugin.id version.id "im"]
  else []

def syncPlugins (s : Manager) : List Item :=
  let enabled := s.tables.plugins.filter fun p => p.status = .enabled ∧ p.activeVersionId.isSome
  (s.daemonHandles.filterMap fun h =>
    if enabled.any fun p => p.id = h.pluginId then none else some (.stopDaemon h.pluginId)) ++
  enabled.flatMap fun plugin =>
    match plugin.activeVersionId.bind fun v => get s.tables.versions v with
    | some version => pluginItems s plugin version
    | none => []

def dispatchImDeliveries (s : Manager) : List Item :=
  .expire :: (orderBy PluginImDeliveryOutbox.createdAt
    (s.deliveries.outbox.filter fun row => row.Due out.now)).map .deliver

/-- `_list_short_lived_scopes` makes sure of the config row of a user it comes to. -/
def Manager.RefusesScope (s : Manager) (pluginId : RowId) : Prop :=
  ∃ b ∈ s.bindings pluginId, b.scopeType = "user" ∧ (targetCharacter s.db b.target).isSome ∧
    s.RefusesConfig out .user pluginId b.scopeId

instance (s : Manager) (pluginId : RowId) : Decidable (s.RefusesScope out pluginId) :=
  inferInstanceAs (Decidable (∃ _ ∈ _, _ ∧ _ ∧ _))

/-- One turn of a loop. -/
def Manager.handle (s : Manager) : Item → Manager × Option PyError
  | .message pluginId versionId payload => s.handleQueueMessage out pluginId versionId payload
  | .finished key future => s.handleFinished out key future
  | .stopDaemon pluginId => s.stopDaemonHandle out pluginId
  | .listScopes pluginId =>
    (s, if s.RefusesScope out pluginId then some .integrityError else none)
  | .schedule key schedule timezone => s.syncSchedule out key schedule timezone
  | .prune pluginId eventName scheduled => (s.pruneSchedule pluginId eventName scheduled, none)
  | .process pluginId versionId processType => s.ensureProcess out pluginId versionId processType
  | .expire =>
    ({ s with deliveries := { s.deliveries with
        imDeliveriesInFlight := s.deliveries.imDeliveriesInFlight.filter fun attempt =>
          ¬ attempt.deadline ≤ out.now } }, none)
  | .deliver row =>
    ({ s with deliveries := dispatchRow out.put out.now s.deliveries row }, none)

/-- The four loops, in their order. -/
def loops : List (Manager → List Item) :=
  [drainQueues, finishedItems, syncPlugins, dispatchImDeliveries out]

def runOnce (s : Manager) : Sweep.Swept Manager Item PyError :=
  Sweep.sweep (Manager.handle out) s (loops out)

end PluginRuntimeManager

end CocoonSit
