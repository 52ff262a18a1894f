import CocoonSit.Lib.Owned
import CocoonSit.Plugins.Manager

/-!
# What one failing item costs the others

The loops of `run_once` have no handler for the exceptions of an item, and neither has `run_once`:
`_run_loop` catches what it raises and starts the next iteration.  `Rejected` lists the items that
make a handler raise; `isolated_iff` says that an iteration gives every message, plugin, schedule
and delivery its turn exactly when none of them is rejected.
-/

namespace CocoonSit

open Table

namespace PluginRuntimeManager

variable (out : Outside)

/-! ## What is rejected -/

/-- A plugin's event that `ingest` raises for. -/
def EventRejected (s : Manager) (plugin : PluginDefinition) (eventName : String)
    (envelope : JsonDict) : Prop :=
  plugin.status = .enabled ∧ s.eventDisabled plugin.id eventName = false ∧
    ((fieldsOf (envelope "payload")).isOk = false ∨ textField out envelope "summary" = "")

/-- A message in a form that is accepted, for this target and under this request id. -/
def InboundForm (db : Db) (pluginId : RowId) (payload : JsonDict) (target : Target)
    (requestId : String) : Prop :=
  ∃ route message, dictOf (payload "route") = .ok route ∧ dictOf (payload "message") = .ok message ∧
    routeTarget out route = .ok target ∧
    textField out message "text" ≠ "" ∧ textField out message "message_id" ≠ "" ∧
    (∀ fieldName ∈ ["sender_user_id", "owner_user_id", "memory_owner_user_id"],
      textField out message fieldName = "" ∨ textField out message fieldName ∈ db.users) ∧
    (fieldsOf (route "metadata_json")).isOk ∧ (fieldsOf (message "metadata_json")).isOk ∧
    (fieldsOf (message "raw_payload")).isOk ∧
    requestId = imClientRequestId out pluginId (textField out payload "message_kind")
      (textField out message "account_id") (textField out message "conversation_id")
      (textField out message "message_id")

/-- The dispatch service raises: the request is new, and its target is missing or its id taken. -/
def EnqueueRefused (db : Db) (target : Target) (requestId : String) : Prop :=
  findActionForClientRequestId db requestId = none ∧
    (targetCharacter db target = none ∨
      db.messages.any fun m => m.clientRequestId = some requestId)

/-- A message of a plugin's queue that its handler raises for. -/
inductive MessageRejected (s : Manager) (plugin : PluginDefinition) (payload : JsonDict) :
    Prop where
  | envelope (hkind : payload.isStr "type" "external_event")
      (hform : (dictOf (payload "envelope")).isOk = false)
  | event (hkind : payload.isStr "type" "external_event") (envelope : JsonDict)
      (hform : dictOf (payload "envelope") = .ok envelope)
      (hevent : EventRejected out s plugin
        ((ContextBuilder.truthyText out.pyStr payload "plugin_event").getD "") envelope)
  | userError (hkind : payload.isStr "type" "user_error")
      (huser : textField out payload "user_id" ≠ "")
      (hrefused : s.RefusesConfig out .user plugin.id (textField out payload "user_id"))
  | inbound (hkind : payload.isStr "type" "im_inbound_message")
      (hrefused : ∀ target requestId, InboundForm out s.db plugin.id payload target requestId →
        EnqueueRefused s.db target requestId)
  | deliveryResult (hkind : payload.isStr "type" "delivery_result")
      (hid : textField out payload "delivery_id" ≠ "") (row : PluginImDeliveryOutbox)
      (hrow : get s.deliveries.outbox (textField out payload "delivery_id") = some row)
      (hplugin : row.pluginId = plugin.id) (hform : (dictOf (payload "result")).isOk = false)
  | rpcForm (hkind : payload.isStr "type" "rpc_request")
      (hform : (dictOf (payload "payload")).isOk = false)
  | rpcSession (hkind : payload.isStr "type" "rpc_request") (request : JsonDict)
      (hform : dictOf (payload "payload") = .ok request)
      (hid : textField out payload "request_id" ≠ "") (handle : DaemonHandle)
      (hhandle : s.daemonHandles.find? (fun h => h.pluginId = plugin.id) = some handle)
      (hqueue : handle.hasInboundQueue)
      (hpoisoned : (out.rpc s.db plugin.id (textField out payload "method") request).poisoned)

/-- A schedule that cannot be kept: it has no next run, or its event cannot be started. -/
def ScheduleRejected (s : Manager) (key : ShortLivedKey) (schedule : Schedule)
    (timezone : Option String) : Prop :=
  let next := nextRunForSchedule out.zoneInfo schedule out.now timezone
  schedule.mode ≠ "manual" ∧
    ((s.shortLivedNextRun key = none ∧ next.isOk = false) ∨
      ∃ run, (s.shortLivedNextRun key = some run ∨
          (s.shortLivedNextRun key = none ∧ next = .ok run)) ∧ run ≤ out.now ∧
        (((s.shortLivedFutures.any fun f => f.1 = key) = false ∧ out.submit key = false) ∨
          next.isOk = false))

/-- The handle of a plugin that is gone cannot be stopped without an error. -/
def StopRejected (s : Manager) (pluginId : RowId) : Prop :=
  (s.daemonHandles.any fun h => h.pluginId = pluginId) ∧ s.RefusesRunState out pluginId

/-- An item that makes its handler raise, in the state it finds. -/
def Rejected (s : Manager) : Item → Prop
  | .message pluginId versionId payload =>
    ∃ plugin version, get s.tables.plugins pluginId = some plugin ∧
      get s.tables.versions versionId = some version ∧
      match payload with
      | .obj fields => MessageRejected out (s.popMessage pluginId) plugin (.ofList fields)
      | _ => True
  | .finished key (.raised visibleTo _) =>
    (∃ plugin, get s.tables.plugins key.pluginId = some plugin ∧
      ∃ scope, errorScope key visibleTo = some scope ∧
        s.RefusesConfig out scope.1 plugin.id scope.2) ∨
      s.RefusesRunState out key.pluginId
  | .finished key (.returned (some envelope)) =>
    ∃ plugin version, get s.tables.plugins key.pluginId = some plugin ∧
      (plugin.activeVersionId.bind fun v => get s.tables.versions v) = some version ∧
      EventRejected out s plugin key.eventName envelope
  | .finished _ _ | .prune .. | .expire | .deliver _ => False
  | .stopDaemon pluginId => StopRejected out s pluginId
  | .listScopes pluginId => s.RefusesScope out pluginId
  | .schedule key schedule timezone => ScheduleRejected out s key schedule timezone
  | .process pluginId versionId _ =>
    (s.daemonHandles.any fun h => h.pluginId = pluginId ∧ h.isAlive ∧ h.versionId = versionId) =
        false ∧
      (StopRejected out s pluginId ∨ out.startProcess pluginId = false)

/-! ## What is asked of an iteration -/

def Item.pluginId : Item → Option RowId
  | .message pluginId _ _ | .stopDaemon pluginId | .listScopes pluginId | .prune pluginId _ _
  | .process pluginId _ _ => some pluginId
  | .finished key _ | .schedule key _ _ => some key.pluginId
  | .expire => none
  | .deliver row => some row.pluginId

/-- The database is the same, but for the plugin's run state, and the manager remembers the same of
the other plugins. -/
structure OwnOnly (owner : Option RowId) (s s' : Manager) : Prop where
  db : s'.db = s.db
  tables : s'.tables = s.tables
  runtimeErrors : s'.runtimeErrors = s.runtimeErrors
  outbox : s'.deliveries.outbox = s.deliveries.outbox
  runStates : s'.runStates.filter (fun r => some r.pluginId ≠ owner) =
    s.runStates.filter fun r => some r.pluginId ≠ owner
  daemonHandles : s'.daemonHandles.filter (fun h => some h.pluginId ≠ owner) =
    s.daemonHandles.filter fun h => some h.pluginId ≠ owner
  shortLivedFutures : s'.shortLivedFutures.filter (fun f => some f.1.pluginId ≠ owner) =
    s.shortLivedFutures.filter fun f => some f.1.pluginId ≠ owner
  shortLivedNextRun : ∀ key, some key.pluginId ≠ owner →
    s'.shortLivedNextRun key = s.shortLivedNextRun key
  inFlight : ∀ attempt ∈ s.deliveries.imDeliveriesInFlight,
    attempt ∈ s'.deliveries.imDeliveriesInFlight ∨
      ∃ row, get s.deliveries.outbox attempt.deliveryId = some row ∧ some row.pluginId = owner

/-- Every item gets its turn, as if exceptions were caught there, and one that raises touches what
is its own. -/
structure Isolated (s : Manager) : Prop where
  everyTurn : (runOnce out s).turns = Sweep.everyTurn (Manager.handle out) s (loops out)
  ownItem : ∀ turn ∈ (runOnce out s).turns, Sweep.Raises (Manager.handle out) turn →
    OwnOnly turn.2.pluginId turn.1 (turn.1.handle out turn.2).1

/-! ## Handlers that raise -/

variable {out}

lemma isOk_eq_false_iff {ε α : Type*} {x : Except ε α} :
    x.isOk = false ↔ ∃ error, x = .error error := by
  cases x with
  | error error => exact iff_of_true rfl ⟨error, rfl⟩
  | ok a => exact iff_of_false (fun h => nomatch h) fun ⟨_, h⟩ => nomatch h

lemma isOk_iff {ε α : Type*} {x : Except ε α} : x.isOk = true ↔ ∃ a, x = .ok a := by
  cases x with
  | error error => exact iff_of_false Bool.false_ne_true (by rintro ⟨_, ⟨⟩⟩)
  | ok a => exact iff_of_true rfl ⟨a, rfl⟩

lemma isOk_bind {ε α β : Type} {x : Except ε α} {f : α → Except ε β} :
    (x >>= f).isOk = true ↔ ∃ a, x = .ok a ∧ (f a).isOk = true := by
  cases x with
  | error error => exact iff_of_false (fun h => nomatch h) fun ⟨_, h, _⟩ => nomatch h
  | ok a => exact ⟨fun h => ⟨a, rfl, h⟩, fun ⟨_, ha, h⟩ => Except.ok.inj ha ▸ h⟩

lemma isOk_map {ε α β : Type*} {x : Except ε α} {f : α → β} : (x.map f).isOk = x.isOk := by
  cases x <;> rfl

lemma isOk_guard {ε α : Type*} {p : Prop} [Decidable p] {e : ε} {x : Except ε α} :
    (if p then .error e else x : Except ε α).isOk = true ↔ ¬ p ∧ x.isOk = true := by
  by_cases hp : p
  · rw [if_pos hp]
    exact iff_of_false (fun h => nomatch h) fun h => h.1 hp
  · rw [if_neg hp]
    exact (and_iff_right hp).symm

lemma ingest_isOk_iff {s : Manager} {plugin : PluginDefinition} {version : PluginVersion}
    {eventName : String} {envelope : JsonDict} {scope : Option (String × RowId)} :
    (s.ingest out plugin version eventName envelope scope).isOk = true ↔
      ¬ EventRejected out s plugin eventName envelope := by
  unfold Manager.ingest EventRejected
  by_cases hquiet : plugin.status ≠ .enabled ∨ s.eventDisabled plugin.id eventName = true
  · rw [if_pos hquiet]
    refine iff_of_true rfl fun h => hquiet.elim (fun hstatus => hstatus h.1) fun hdisabled => ?_
    rw [h.2.1] at hdisabled
    cases hdisabled
  · rw [if_neg hquiet, isOk_bind]
    rw [not_or, not_not, Bool.not_eq_true] at hquiet
    rw [and_iff_right hquiet.1, and_iff_right hquiet.2, not_or, Bool.not_eq_false, isOk_iff]
    constructor
    · rintro ⟨payload, hpayload, hrest⟩
      exact ⟨⟨payload, hpayload⟩, (isOk_guard.mp hrest).1⟩
    · rintro ⟨⟨payload, hpayload⟩, hsummary⟩
      exact ⟨payload, hpayload, isOk_guard.mpr ⟨hsummary, rfl⟩⟩

lemma resolveImUserId_isOk_iff {db : Db} {message : JsonDict} {fieldName : String} :
    (resolveImUserId out db message fieldName).isOk = true ↔
      textField out message fieldName = "" ∨ textField out message fieldName ∈ db.users := by
  unfold resolveImUserId
  dsimp only
  by_cases hempty : textField out message fieldName = ""
  · rw [if_pos hempty]
    exact iff_of_true rfl (.inl hempty)
  · rw [if_neg hempty, or_iff_right hempty]
    by_cases huser : textField out message fieldName ∈ db.users
    · rw [if_pos huser]
      exact iff_of_true rfl huser
    · rw [if_neg huser]
      exact iff_of_false (fun h => nomatch h) huser

lemma inboundForm_iff {db : Db} {pluginId : RowId} {payload : JsonDict} {target : Target}
    {requestId : String} :
    InboundForm out db pluginId payload target requestId ↔
      ∃ sub, imInboundSubmission out db pluginId payload = .ok (target, sub) ∧
        sub.clientRequestId = requestId := by
  unfold InboundForm imInboundSubmission
  dsimp only
  constructor
  · rintro ⟨route, message, hroute, hmessage, htarget, htext, hid, husers, hmeta, hmeta', hraw, rfl⟩
    obtain ⟨sender, hsender⟩ := isOk_iff.mp
      (resolveImUserId_isOk_iff.mpr (husers "sender_user_id" (by simp)))
    obtain ⟨owner, howner⟩ := isOk_iff.mp
      (resolveImUserId_isOk_iff.mpr (husers "owner_user_id" (by simp)))
    obtain ⟨memoryOwner, hmemory⟩ := isOk_iff.mp
      (resolveImUserId_isOk_iff.mpr (husers "memory_owner_user_id" (by simp)))
    obtain ⟨routeMetadata, hmeta⟩ := isOk_iff.mp hmeta
    obtain ⟨metadata, hmeta'⟩ := isOk_iff.mp hmeta'
    obtain ⟨rawPayload, hraw⟩ := isOk_iff.mp hraw
    simp only [hroute, htarget, hmessage, if_neg htext, if_neg hid, hsender, howner, hmemory, hmeta,
      hmeta', hraw, bind, Except.bind]
    exact ⟨_, rfl, rfl⟩
  · rintro ⟨sub, hsub, rfl⟩
    obtain ⟨route, hroute, hsub⟩ := except_bind_eq_ok.mp hsub
    obtain ⟨target', htarget, hsub⟩ := except_bind_eq_ok.mp hsub
    obtain ⟨message, hmessage, hsub⟩ := except_bind_eq_ok.mp hsub
    by_cases htext : textField out message "text" = ""
    · rw [if_pos htext] at hsub
      cases hsub
    by_cases hid : textField out message "message_id" = ""
    · rw [if_neg htext, if_pos hid] at hsub
      cases hsub
    rw [if_neg htext, if_neg hid] at hsub
    obtain ⟨sender, hsender, hsub⟩ := except_bind_eq_ok.mp hsub
    obtain ⟨owner, howner, hsub⟩ := except_bind_eq_ok.mp hsub
    obtain ⟨memoryOwner, hmemory, hsub⟩ := except_bind_eq_ok.mp hsub
    obtain ⟨routeMetadata, hmeta, hsub⟩ := except_bind_eq_ok.mp hsub
    obtain ⟨metadata, hmeta', hsub⟩ := except_bind_eq_ok.mp hsub
    obtain ⟨rawPayload, hraw, hsub⟩ := except_bind_eq_ok.mp hsub
    cases hsub
    refine ⟨route, message, hroute, hmessage, htarget, htext, hid, ?_, isOk_iff.mpr ⟨_, hmeta⟩,
      isOk_iff.mpr ⟨_, hmeta'⟩, isOk_iff.mpr ⟨_, hraw⟩, rfl⟩
    intro fieldName hfield
    refine resolveImUserId_isOk_iff.mp (isOk_iff.mpr ?_)
    simp only [List.mem_cons, List.not_mem_nil, or_false] at hfield
    rcases hfield with rfl | rfl | rfl
    · exact ⟨_, hsender⟩
    · exact ⟨_, howner⟩
    · exact ⟨_, hmemory⟩

lemma enqueueChat_isOk_iff {svc : MessageDispatchService} {db : Db} {target : Target}
    {sub : ChatSubmission} {keys : NewKeys} {now : Timestamp} :
    (svc.enqueueChat db target sub keys now).isOk = true ↔
      ¬ EnqueueRefused db target sub.clientRequestId := by
  unfold MessageDispatchService.enqueueChat MessageDispatchService.planChat EnqueueRefused
  cases hfind : findActionForClientRequestId db sub.clientRequestId with
  | some existing => exact iff_of_true rfl fun h => nomatch h.1
  | none =>
    rw [and_iff_right rfl, not_or]
    cases htarget : targetCharacter db target with
    | none => exact iff_of_false (fun h => nomatch h) fun h => h.1 rfl
    | some character =>
      rw [and_iff_right (fun h => nomatch h)]
      -- whichever plan is made, the unique column has the last word
      by_cases hseconds : 0 < svc.currentDebounceSeconds target
      · cases hpending : findPendingChatAction db.actions target with
        | some pending =>
          simp only [Option.isNone_some, Bool.false_eq_true, if_false, if_pos hseconds]
          exact isOk_guard.trans (and_iff_left rfl)
        | none =>
          simp only [Option.isNone_some, Bool.false_eq_true, if_false, if_pos hseconds]
          exact isOk_guard.trans (and_iff_left rfl)
      · simp only [Option.isNone_some, Bool.false_eq_true, if_false, if_neg hseconds]
        exact isOk_guard.trans (and_iff_left rfl)

lemma isStr_of_ne {d : JsonDict} {k a b : String} (ha : d.isStr k a) (hne : b ≠ a) :
    d.isStr k b = false := by
  unfold JsonDict.isStr at ha ⊢
  cases hd : d k with
  | none => rfl
  | some v =>
    rw [hd] at ha
    cases v with
    | str t =>
      have ht : t = a := of_decide_eq_true ha
      exact decide_eq_false fun hb => hne (hb.symm.trans ht)
    | _ => rfl

lemma committing_raises {s : Manager} {f : Manager → Manager} {result : Except PyError Manager} :
    (s.committing f result).2.isSome = true ↔ result.isOk = false := by
  cases result with
  | ok s' => exact iff_of_false (fun h => nomatch h) fun h => nomatch h
  | error error => exact iff_of_true rfl rfl

lemma recordError_isOk_iff {s : Manager} {scope : ConfigScope} {plugin : PluginDefinition}
    {scopeId : RowId} {message : String} :
    (s.recordError out scope plugin scopeId message).isOk = true ↔
      ¬ s.RefusesConfig out scope plugin.id scopeId :=
  isOk_guard.trans (and_iff_left rfl)

lemma ingestImInboundMessage_isOk_iff {s : Manager} {pluginId : RowId} {payload : JsonDict} :
    (s.ingestImInboundMessage out pluginId payload).isOk = true ↔
      ∃ target requestId, InboundForm out s.db pluginId payload target requestId ∧
        ¬ EnqueueRefused s.db target requestId := by
  unfold Manager.ingestImInboundMessage
  rw [isOk_bind]
  have henqueue : ∀ target sub, (out.messageDispatchService.enqueueChat s.db target sub
      (out.newKeys s.db) out.now).isOk = true ↔ ¬ EnqueueRefused s.db target sub.clientRequestId :=
    fun _ _ => enqueueChat_isOk_iff
  constructor
  · rintro ⟨⟨target, sub⟩, hsub, hok⟩
    refine ⟨target, sub.clientRequestId, inboundForm_iff.mpr ⟨sub, hsub, rfl⟩,
      (henqueue target sub).mp ?_⟩
    revert hok
    dsimp only
    cases out.messageDispatchService.enqueueChat s.db target sub (out.newKeys s.db) out.now <;>
      exact id
  · rintro ⟨target, requestId, hform, hnew⟩
    obtain ⟨sub, hsub, rfl⟩ := inboundForm_iff.mp hform
    refine ⟨(target, sub), hsub, ?_⟩
    have hok := (henqueue target sub).mpr hnew
    revert hok
    dsimp only
    cases out.messageDispatchService.enqueueChat s.db target sub (out.newKeys s.db) out.now <;>
      exact id

lemma handleImDeliveryResult_raises_iff {s : Manager} {pluginId : RowId} {payload : JsonDict} :
    (s.handleImDeliveryResult out pluginId payload).2.isSome = true ↔
      textField out payload "delivery_id" ≠ "" ∧
        ∃ row, get s.deliveries.outbox (textField out payload "delivery_id") = some row ∧
          row.pluginId = pluginId ∧ (dictOf (payload "result")).isOk = false := by
  unfold Manager.handleImDeliveryResult
  dsimp only
  by_cases hid : textField out payload "delivery_id" = ""
  · rw [if_pos hid]
    exact iff_of_false (fun h => nomatch h) fun h => h.1 hid
  rw [if_neg hid, and_iff_right hid]
  cases hrow : get s.deliveries.outbox (textField out payload "delivery_id") with
  | none => exact iff_of_false (fun h => nomatch h) fun ⟨_, h, _⟩ => nomatch h
  | some row =>
    dsimp only
    by_cases hplugin : row.pluginId = pluginId
    · rw [if_neg (not_not.mpr hplugin)]
      cases hform : dictOf (payload "result") with
      | error error => exact iff_of_true rfl ⟨row, rfl, hplugin, rfl⟩
      | ok result => exact iff_of_false (fun h => nomatch h) fun ⟨_, _, _, h⟩ => nomatch h
    · rw [if_pos hplugin]
      refine iff_of_false (fun h => nomatch h) fun ⟨row', hrow', hplugin', _⟩ => hplugin ?_
      cases hrow'
      exact hplugin'

lemma handleImRpcRequest_isOk_iff {s : Manager} {pluginId : RowId} {payload : JsonDict} :
    (s.handleImRpcRequest out pluginId payload).isOk = true ↔
      ∃ request, dictOf (payload "payload") = .ok request ∧
        (textField out payload "request_id" ≠ "" →
          ∀ handle, s.daemonHandles.find? (fun h => h.pluginId = pluginId) = some handle →
            handle.hasInboundQueue →
              (out.rpc s.db pluginId (textField out payload "method") request).poisoned
                = false) := by
  unfold Manager.handleImRpcRequest
  rw [isOk_bind]
  refine exists_congr fun request => and_congr_right fun _ => ?_
  by_cases hid : textField out payload "request_id" = ""
  · rw [if_pos (.inl hid)]
    exact iff_of_true rfl fun h => absurd hid h
  cases hhandle : s.daemonHandles.find? fun h => h.pluginId = pluginId with
  | none =>
    rw [if_pos (.inr rfl)]
    exact iff_of_true rfl fun _ _ h => nomatch h
  | some handle =>
    by_cases hqueue : handle.hasInboundQueue = true
    · rw [if_neg (by simp [hid, hqueue])]
      refine isOk_guard.trans ?_
      rw [Bool.not_eq_true]
      constructor
      · rintro ⟨hquiet, -⟩ - _ - -
        exact hquiet
      · exact fun h => ⟨h hid handle rfl hqueue, rfl⟩
    · rw [if_pos (.inr (by simp [hqueue]))]
      refine iff_of_true rfl fun _ handle' hhandle' hqueue' => absurd ?_ hqueue
      cases hhandle'
      exact hqueue'

lemma recordShortLivedError_isOk_iff {s : Manager} {key : ShortLivedKey}
    {visibleTo : Option RowId} {text : String} :
    (s.recordShortLivedError out key visibleTo text).isOk = true ↔
      ¬ ((∃ plugin, get s.tables.plugins key.pluginId = some plugin ∧
          ∃ scope, errorScope key visibleTo = some scope ∧
            s.RefusesConfig out scope.1 plugin.id scope.2) ∨
        s.RefusesRunState out key.pluginId) := by
  unfold Manager.recordShortLivedError
  cases hplugin : get s.tables.plugins key.pluginId with
  | none =>
    refine isOk_guard.trans ((and_iff_left rfl).trans (not_congr (or_iff_right ?_).symm))
    exact fun ⟨_, h, _⟩ => nomatch h
  | some plugin =>
    have hknown : ¬ s.RefusesRunState out key.pluginId := by
      rintro ⟨-, hnone, -⟩
      rw [hplugin] at hnone
      cases hnone
    cases hscope : errorScope key visibleTo with
    | none =>
      refine iff_of_true (isOk_guard.mpr ⟨hknown, rfl⟩) ?_
      rintro (⟨_, _, _, h, _⟩ | h)
      · cases h
      · exact hknown h
    | some scope =>
      dsimp only
      rw [isOk_map, recordError_isOk_iff, or_iff_left hknown]
      refine not_congr ⟨fun h => ⟨plugin, rfl, scope, rfl, h⟩, ?_⟩
      rintro ⟨plugin', hplugin', scope', hscope', h⟩
      cases hplugin'
      cases hscope'
      exact h

lemma stopDaemonHandle_raises_iff {s : Manager} {pluginId : RowId} :
    (s.stopDaemonHandle out pluginId).2.isSome = true ↔ StopRejected out s pluginId := by
  unfold Manager.stopDaemonHandle StopRejected
  dsimp only
  by_cases hhandle : (s.daemonHandles.any fun h => h.pluginId = pluginId) = true
  · rw [if_pos hhandle, and_iff_right hhandle]
    by_cases hrefused : s.RefusesRunState out pluginId
    · rw [if_pos hrefused]
      exact iff_of_true rfl hrefused
    · rw [if_neg hrefused]
      exact iff_of_false (fun h => nomatch h) hrefused
  · rw [if_neg hhandle]
    exact iff_of_false (fun h => nomatch h) fun h => hhandle h.1

lemma ensureProcess_raises_iff {s : Manager} {pluginId versionId : RowId} {processType : String} :
    (s.ensureProcess out pluginId versionId processType).2.isSome = true ↔
      (s.daemonHandles.any fun h => h.pluginId = pluginId ∧ h.isAlive ∧ h.versionId = versionId) =
          false ∧
        (StopRejected out s pluginId ∨ out.startProcess pluginId = false) := by
  unfold Manager.ensureProcess
  by_cases hrunning : (s.daemonHandles.any fun h =>
      h.pluginId = pluginId ∧ h.isAlive ∧ h.versionId = versionId) = true
  · rw [if_pos hrunning, hrunning]
    exact iff_of_false (fun h => nomatch h) fun h => nomatch h.1
  · rw [if_neg hrunning, and_iff_right ((Bool.not_eq_true _).mp hrunning),
      ← stopDaemonHandle_raises_iff]
    rcases s.stopDaemonHandle out pluginId with ⟨s', _ | error⟩
    · cases out.startProcess pluginId with
      | false => exact iff_of_true rfl (.inr rfl)
      | true => exact iff_of_false (fun h => nomatch h) fun h => h.elim nofun nofun
    · exact iff_of_true rfl (.inl rfl)

lemma submitShortLived_isOk_iff {s : Manager} {key : ShortLivedKey} :
    (s.submitShortLived out key).isOk = true ↔
      ¬ ((s.shortLivedFutures.any fun f => f.1 = key) = false ∧ out.submit key = false) := by
  unfold Manager.submitShortLived
  by_cases hpending : (s.shortLivedFutures.any fun f => f.1 = key) = true
  · rw [if_pos hpending, hpending]
    exact iff_of_true rfl fun h => nomatch h.1
  · rw [if_neg hpending, (Bool.not_eq_true _).mp hpending]
    cases out.submit key with
    | true => exact iff_of_true rfl fun h => nomatch h.2
    | false => exact iff_of_false (fun h => nomatch h) fun h => h ⟨rfl, rfl⟩

lemma startWhenDue_raises_iff {s : Manager} {key : ShortLivedKey}
    {next : Except PyError Timestamp} {run : Timestamp} :
    (s.startWhenDue out key next run).2.isSome = true ↔
      run ≤ out.now ∧
        (((s.shortLivedFutures.any fun f => f.1 = key) = false ∧ out.submit key = false) ∨
          next.isOk = false) := by
  unfold Manager.startWhenDue
  by_cases hdue : out.now < run
  · rw [if_pos hdue]
    exact iff_of_false (fun h => nomatch h) fun h => hdue.not_ge h.1
  rw [if_neg hdue, and_iff_right (not_lt.mp hdue)]
  cases hsubmit : s.submitShortLived out key with
  | error error =>
    refine iff_of_true rfl (.inl (not_not.mp fun h => ?_))
    have hok := submitShortLived_isOk_iff.mpr h
    rw [hsubmit] at hok
    cases hok
  | ok s' =>
    rw [or_iff_right (submitShortLived_isOk_iff.mp (by rw [hsubmit]; rfl))]
    cases next with
    | error error => exact iff_of_true rfl rfl
    | ok run => exact iff_of_false (fun h => nomatch h) fun h => nomatch h

lemma syncSchedule_raises_iff {s : Manager} {key : ShortLivedKey} {schedule : Schedule}
    {timezone : Option String} :
    (s.syncSchedule out key schedule timezone).2.isSome = true ↔
      ScheduleRejected out s key schedule timezone := by
  unfold Manager.syncSchedule ScheduleRejected
  by_cases hmanual : schedule.mode = "manual"
  · rw [if_pos hmanual]
    exact iff_of_false (fun h => nomatch h) fun h => h.1 hmanual
  rw [if_neg hmanual]
  dsimp only
  rw [and_iff_right hmanual]
  cases hknown : s.shortLivedNextRun key with
  | some run =>
    refine startWhenDue_raises_iff.trans ⟨fun h => .inr ⟨run, .inl rfl, h⟩, ?_⟩
    rintro (⟨h, -⟩ | ⟨run', h | ⟨h, -⟩, hdue⟩)
    · cases h
    · cases h
      exact hdue
    · cases h
  | none =>
    cases hnext : nextRunForSchedule out.zoneInfo schedule out.now timezone with
    | error error => exact iff_of_true rfl (.inl ⟨rfl, rfl⟩)
    | ok run =>
      -- noting the run leaves the started events as they are
      refine startWhenDue_raises_iff.trans ⟨fun h => .inr ⟨run, .inr ⟨rfl, rfl⟩, h⟩, ?_⟩
      rintro (⟨-, h⟩ | ⟨run', h | ⟨-, h⟩, hdue⟩)
      · cases h
      · cases h
      · cases h
        exact hdue

section Kinds

variable {s : Manager} {plugin : PluginDefinition} {version : PluginVersion} {payload : JsonDict}

lemma handleMessage_event (hkind : payload.isStr "type" "external_event") :
    s.handleMessage out plugin version payload =
      s.committing (fun s => s.heardOf out plugin.id) (do
        let envelope ← dictOf (payload "envelope")
        s.ingest out plugin version
          ((ContextBuilder.truthyText out.pyStr payload "plugin_event").getD "") envelope
            none) := by
  simp only [Manager.handleMessage, isStr_of_ne hkind (b := "heartbeat") (by decide), hkind,
    Bool.false_eq_true, if_false, if_true]

lemma handleMessage_userError (hkind : payload.isStr "type" "user_error") :
    s.handleMessage out plugin version payload =
      if textField out payload "user_id" = "" then (s, none)
      else s.committing id (s.recordError out .user plugin (textField out payload "user_id")
        ((ContextBuilder.truthyText out.pyStr payload "error").getD "Plugin runtime error")) := by
  simp only [Manager.handleMessage, isStr_of_ne hkind (b := "heartbeat") (by decide),
    isStr_of_ne hkind (b := "external_event") (by decide),
    isStr_of_ne hkind (b := "error") (by decide), hkind, Bool.false_eq_true, if_false, if_true]

lemma handleMessage_inbound (hkind : payload.isStr "type" "im_inbound_message") :
    s.handleMessage out plugin version payload =
      s.committing (fun s => s.heardOf out plugin.id)
        (s.ingestImInboundMessage out plugin.id payload) := by
  simp only [Manager.handleMessage, isStr_of_ne hkind (b := "heartbeat") (by decide),
    isStr_of_ne hkind (b := "external_event") (by decide),
    isStr_of_ne hkind (b := "error") (by decide), isStr_of_ne hkind (b := "user_error") (by decide),
    isStr_of_ne hkind (b := "user_error_clear") (by decide), hkind, Bool.false_eq_true, if_false,
    if_true]

lemma handleMessage_result (hkind : payload.isStr "type" "delivery_result") :
    (s.handleMessage out plugin version payload).2 =
      (s.handleImDeliveryResult out plugin.id payload).2 ∧
    ((s.handleMessage out plugin version payload).2.isSome →
      s.handleMessage out plugin version payload =
        s.handleImDeliveryResult out plugin.id payload) := by
  simp only [Manager.handleMessage, isStr_of_ne hkind (b := "heartbeat") (by decide),
    isStr_of_ne hkind (b := "external_event") (by decide),
    isStr_of_ne hkind (b := "error") (by decide), isStr_of_ne hkind (b := "user_error") (by decide),
    isStr_of_ne hkind (b := "user_error_clear") (by decide),
    isStr_of_ne hkind (b := "im_inbound_message") (by decide), hkind, Bool.false_eq_true, if_false,
    if_true]
  rcases s.handleImDeliveryResult out plugin.id payload with ⟨s', _ | error⟩
  · exact ⟨rfl, fun h => nomatch h⟩
  · exact ⟨rfl, fun _ => rfl⟩

lemma handleMessage_rpc (hkind : payload.isStr "type" "rpc_request") :
    s.handleMessage out plugin version payload =
      s.committing (fun s => s.heardOf out plugin.id)
        (s.handleImRpcRequest out plugin.id payload) := by
  simp only [Manager.handleMessage, isStr_of_ne hkind (b := "heartbeat") (by decide),
    isStr_of_ne hkind (b := "external_event") (by decide),
    isStr_of_ne hkind (b := "error") (by decide), isStr_of_ne hkind (b := "user_error") (by decide),
    isStr_of_ne hkind (b := "user_error_clear") (by decide),
    isStr_of_ne hkind (b := "im_inbound_message") (by decide),
    isStr_of_ne hkind (b := "delivery_result") (by decide), hkind, Bool.false_eq_true, if_false,
    if_true]

lemma handleMessage_quiet (hevent : ¬ payload.isStr "type" "external_event")
    (huserError : ¬ payload.isStr "type" "user_error")
    (hinbound : ¬ payload.isStr "type" "im_inbound_message")
    (hresult : ¬ payload.isStr "type" "delivery_result")
    (hrpc : ¬ payload.isStr "type" "rpc_request") :
    (s.handleMessage out plugin version payload).2 = none := by
  simp only [Manager.handleMessage, if_neg hevent, if_neg huserError, if_neg hinbound,
    if_neg hresult, if_neg hrpc]
  by_cases hheartbeat : payload.isStr "type" "heartbeat" = true
  · rw [if_pos hheartbeat]
  rw [if_neg hheartbeat]
  by_cases herror : payload.isStr "type" "error" = true
  · rw [if_pos herror]
  rw [if_neg herror]
  by_cases hclear : payload.isStr "type" "user_error_clear" = true
  · rw [if_pos hclear]
  · rw [if_neg hclear]

lemma handleMessage_raises_iff :
    (s.handleMessage out plugin version payload).2.isSome = true ↔
      MessageRejected out s plugin payload := by
  constructor
  · intro h
    by_cases hevent : payload.isStr "type" "external_event" = true
    · rw [handleMessage_event hevent, committing_raises, ← Bool.not_eq_true, isOk_bind,
        not_exists] at h
      cases hform : dictOf (payload "envelope") with
      | error error => exact .envelope hevent (by rw [hform]; rfl)
      | ok envelope =>
        refine .event hevent envelope hform (not_not.mp fun hquiet => h envelope ⟨hform, ?_⟩)
        exact ingest_isOk_iff.mpr hquiet
    by_cases huserError : payload.isStr "type" "user_error" = true
    · rw [handleMessage_userError huserError] at h
      by_cases huser : textField out payload "user_id" = ""
      · rw [if_pos huser] at h
        cases h
      rw [if_neg huser, committing_raises, ← Bool.not_eq_true, recordError_isOk_iff, not_not] at h
      exact .userError huserError huser h
    by_cases hinbound : payload.isStr "type" "im_inbound_message" = true
    · rw [handleMessage_inbound hinbound, committing_raises, ← Bool.not_eq_true,
        ingestImInboundMessage_isOk_iff] at h
      refine .inbound hinbound fun target requestId hform => ?_
      exact not_not.mp fun hnew => h ⟨target, requestId, hform, hnew⟩
    by_cases hresult : payload.isStr "type" "delivery_result" = true
    · rw [(handleMessage_result hresult).1] at h
      obtain ⟨hid, row, hrow, hplugin, hform⟩ := handleImDeliveryResult_raises_iff.mp h
      exact .deliveryResult hresult hid row hrow hplugin hform
    by_cases hrpc : payload.isStr "type" "rpc_request" = true
    · rw [handleMessage_rpc hrpc, committing_raises, ← Bool.not_eq_true,
        handleImRpcRequest_isOk_iff, not_exists] at h
      cases hform : dictOf (payload "payload") with
      | error error => exact .rpcForm hrpc (by rw [hform]; rfl)
      | ok request =>
        have hpoisoned := h request
        rw [and_iff_right hform] at hpoisoned
        push Not at hpoisoned
        obtain ⟨hid, handle, hhandle, hqueue, hpoisoned⟩ := hpoisoned
        exact .rpcSession hrpc request hform hid handle hhandle hqueue
          ((Bool.not_eq_false _).mp hpoisoned)
    · rw [handleMessage_quiet hevent huserError hinbound hresult hrpc] at h
      cases h
  · intro h
    cases h with
    | envelope hkind hform =>
      rw [handleMessage_event hkind, committing_raises, ← Bool.not_eq_true, isOk_bind]
      rintro ⟨envelope, hok, -⟩
      rw [hok] at hform
      cases hform
    | event hkind envelope hform hevent =>
      rw [handleMessage_event hkind, committing_raises, ← Bool.not_eq_true, isOk_bind]
      rintro ⟨envelope', hok, hingest⟩
      cases hform.symm.trans hok
      exact ingest_isOk_iff.mp hingest hevent
    | userError hkind huser hrefused =>
      rw [handleMessage_userError hkind, if_neg huser, committing_raises, ← Bool.not_eq_true,
        recordError_isOk_iff]
      exact not_not.mpr hrefused
    | inbound hkind hrefused =>
      rw [handleMessage_inbound hkind, committing_raises, ← Bool.not_eq_true,
        ingestImInboundMessage_isOk_iff]
      rintro ⟨target, requestId, hform, hnew⟩
      exact hnew (hrefused target requestId hform)
    | deliveryResult hkind hid row hrow hplugin hform =>
      rw [(handleMessage_result hkind).1]
      exact handleImDeliveryResult_raises_iff.mpr ⟨hid, row, hrow, hplugin, hform⟩
    | rpcForm hkind hform =>
      rw [handleMessage_rpc hkind, committing_raises, ← Bool.not_eq_true,
        handleImRpcRequest_isOk_iff]
      rintro ⟨request, hok, -⟩
      rw [hok] at hform
      cases hform
    | rpcSession hkind request hform hid handle hhandle hqueue hpoisoned =>
      rw [handleMessage_rpc hkind, committing_raises, ← Bool.not_eq_true,
        handleImRpcRequest_isOk_iff]
      rintro ⟨request', hok, hquiet⟩
      cases hform.symm.trans hok
      rw [hquiet hid handle hhandle hqueue] at hpoisoned
      cases hpoisoned

end Kinds

section QueueMessages

variable {s : Manager} {pluginId versionId : RowId}

lemma handleQueueMessage_dict {plugin : PluginDefinition} {version : PluginVersion}
    {fields : List (String × JsonValue)} (hplugin : get s.tables.plugins pluginId = some plugin)
    (hversion : get s.tables.versions versionId = some version) :
    (s.handleQueueMessage out pluginId versionId (.obj fields)).2 =
        ((s.popMessage pluginId).handleMessage out plugin version (.ofList fields)).2 ∧
      ((s.handleQueueMessage out pluginId versionId (.obj fields)).2.isSome →
        s.handleQueueMessage out pluginId versionId (.obj fields) =
          (s.popMessage pluginId).handleMessage out plugin version (.ofList fields)) := by
  unfold Manager.handleQueueMessage
  dsimp only
  rw [show get (s.popMessage pluginId).tables.plugins pluginId = some plugin from hplugin,
    show get (s.popMessage pluginId).tables.versions versionId = some version from hversion]
  dsimp only
  rcases (s.popMessage pluginId).handleMessage out plugin version (.ofList fields) with
    ⟨s', _ | error⟩
  · exact ⟨rfl, fun h => nomatch h⟩
  · exact ⟨rfl, fun _ => rfl⟩

lemma handleQueueMessage_gone {payload : JsonValue}
    (h : get s.tables.plugins pluginId = none ∨ get s.tables.versions versionId = none) :
    (s.handleQueueMessage out pluginId versionId payload).2 = none := by
  unfold Manager.handleQueueMessage
  dsimp only [Manager.popMessage]
  rcases h with h | h
  · rw [h]
  · rw [h]
    cases get s.tables.plugins pluginId <;> rfl

lemma handleQueueMessage_raises_iff {payload : JsonValue} :
    (s.handleQueueMessage out pluginId versionId payload).2.isSome = true ↔
      Rejected out s (.message pluginId versionId payload) := by
  dsimp only [Rejected]
  cases hplugin : get s.tables.plugins pluginId with
  | none =>
    rw [handleQueueMessage_gone (.inl hplugin)]
    exact iff_of_false (fun h => nomatch h) fun ⟨_, _, h, _⟩ => nomatch h
  | some plugin =>
    cases hversion : get s.tables.versions versionId with
    | none =>
      rw [handleQueueMessage_gone (.inr hversion)]
      exact iff_of_false (fun h => nomatch h) fun ⟨_, _, _, h, _⟩ => nomatch h
    | some version =>
      cases payload with
      | obj fields =>
        rw [(handleQueueMessage_dict hplugin hversion).1, handleMessage_raises_iff]
        constructor
        · exact fun h => ⟨plugin, version, rfl, rfl, h⟩
        · rintro ⟨plugin', version', hplugin', -, h⟩
          cases hplugin'
          exact h
      | _ =>
        refine iff_of_true ?_ ⟨plugin, version, rfl, rfl, trivial⟩
        unfold Manager.handleQueueMessage
        dsimp only [Manager.popMessage]
        rw [hplugin, hversion]
        rfl

end QueueMessages

/-- A handler raises exactly when its item is rejected. -/
theorem raises_iff {s : Manager} {item : Item} :
    Sweep.Raises (Manager.handle out) (s, item) ↔ Rejected out s item := by
  unfold Sweep.Raises
  cases item with
  | message pluginId versionId payload => exact handleQueueMessage_raises_iff
  | finished key future =>
    refine committing_raises.trans ?_
    rw [← Bool.not_eq_true]
    cases future with
    | pending => exact iff_of_false (fun h => h rfl) id
    | raised visibleTo text =>
      exact (not_congr recordShortLivedError_isOk_iff).trans not_not
    | returned envelope =>
      cases envelope with
      | none => exact iff_of_false (fun h => h rfl) id
      | some envelope =>
        unfold Manager.finishedShortLived
        dsimp only [Rejected]
        cases hplugin : get s.tables.plugins key.pluginId with
        | none => exact iff_of_false (fun h => h rfl) fun ⟨_, _, h, _⟩ => nomatch h
        | some plugin =>
          dsimp only
          cases hversion : plugin.activeVersionId.bind fun v => get s.tables.versions v with
          | none =>
            refine iff_of_false (fun h => h rfl) ?_
            rintro ⟨plugin', version', hplugin', hversion', -⟩
            cases hplugin'
            rw [hversion] at hversion'
            cases hversion'
          | some version =>
            dsimp only
            rw [isOk_map, ingest_isOk_iff, not_not]
            constructor
            · exact fun h => ⟨plugin, version, rfl, hversion, h⟩
            · rintro ⟨plugin', version', hplugin', -, h⟩
              cases hplugin'
              exact h
  | stopDaemon pluginId => exact stopDaemonHandle_raises_iff
  | listScopes pluginId =>
    show (if s.RefusesScope out pluginId then some PyError.integrityError else none).isSome ↔ _
    by_cases hrefused : s.RefusesScope out pluginId
    · rw [if_pos hrefused]
      exact iff_of_true rfl hrefused
    · rw [if_neg hrefused]
      exact iff_of_false (fun h => nomatch h) hrefused
  | schedule key schedule timezone => exact syncSchedule_raises_iff
  | prune pluginId eventName scheduled => exact iff_of_false (fun h => nomatch h) id
  | process pluginId versionId processType => exact ensureProcess_raises_iff
  | expire => exact iff_of_false (fun h => nomatch h) id
  | deliver row => exact iff_of_false (fun h => nomatch h) id

/-! ## What a failing item leaves -/

lemma OwnOnly.refl (owner : Option RowId) (s : Manager) : OwnOnly owner s s :=
  ⟨rfl, rfl, rfl, rfl, rfl, rfl, rfl, fun _ _ => rfl, fun _ h => .inl h⟩

lemma OwnOnly.trans {owner : Option RowId} {s s' s'' : Manager} (h : OwnOnly owner s s')
    (h' : OwnOnly owner s' s'') : OwnOnly owner s s'' where
  db := h'.db.trans h.db
  tables := h'.tables.trans h.tables
  runtimeErrors := h'.runtimeErrors.trans h.runtimeErrors
  outbox := h'.outbox.trans h.outbox
  runStates := h'.runStates.trans h.runStates
  daemonHandles := h'.daemonHandles.trans h.daemonHandles
  shortLivedFutures := h'.shortLivedFutures.trans h.shortLivedFutures
  shortLivedNextRun key hkey := (h'.shortLivedNextRun key hkey).trans (h.shortLivedNextRun key hkey)
  inFlight attempt hattempt := by
    rcases h.inFlight attempt hattempt with hkept | hown
    · rcases h'.inFlight attempt hkept with hkept | hown
      · exact .inl hkept
      · rw [h.outbox] at hown
        exact .inr hown
    · exact .inr hown

lemma popMessage_own (s : Manager) (pluginId : RowId) :
    OwnOnly (some pluginId) s (s.popMessage pluginId) where
  db := rfl
  tables := rfl
  runtimeErrors := rfl
  outbox := rfl
  runStates := rfl
  daemonHandles := by
    refine Owned.filter_map_eq (fun h => ?_) fun h _ hother => if_neg fun hown => ?_
    · by_cases hown : h.pluginId = pluginId
      · rw [if_pos hown]
      · rw [if_neg hown]
    · rw [hown] at hother
      exact of_decide_eq_true hother rfl
  shortLivedFutures := rfl
  shortLivedNextRun _ _ := rfl
  inFlight _ h := .inl h

lemma withRunState_own (s : Manager) (pluginId : RowId) {f : PluginRunState → PluginRunState}
    (hf : ∀ r, (f r).pluginId = r.pluginId) :
    OwnOnly (some pluginId) s (s.withRunState pluginId f) where
  db := rfl
  tables := rfl
  runtimeErrors := rfl
  outbox := rfl
  runStates := by
    unfold Manager.withRunState
    by_cases hknown : (s.runStates.any fun r => r.pluginId = pluginId) = true
    · rw [if_pos hknown]
      refine Owned.filter_map_eq (fun r => ?_) fun r _ hother => if_neg fun hown => ?_
      · by_cases hown : r.pluginId = pluginId
        · rw [if_pos hown, hf]
        · rw [if_neg hown]
      · rw [hown] at hother
        exact of_decide_eq_true hother rfl
    · rw [if_neg hknown]
      refine Owned.filter_append_eq fun r hr => ?_
      rw [List.mem_singleton.mp hr, hf]
      exact decide_eq_false (not_not.mpr rfl)
  daemonHandles := rfl
  shortLivedFutures := rfl
  shortLivedNextRun _ _ := rfl
  inFlight _ h := .inl h

lemma setNextRun_own (s : Manager) (key : ShortLivedKey) (next : Option Timestamp) :
    OwnOnly (some key.pluginId) s (s.setNextRun key next) where
  db := rfl
  tables := rfl
  runtimeErrors := rfl
  outbox := rfl
  runStates := rfl
  daemonHandles := rfl
  shortLivedFutures := rfl
  shortLivedNextRun key' hother :=
    Function.update_of_ne (fun h => hother (by rw [h])) _ _
  inFlight _ h := .inl h

lemma forgetHandle_own (s : Manager) (pluginId : RowId) :
    OwnOnly (some pluginId) s
      { s with daemonHandles := s.daemonHandles.filter fun h => h.pluginId ≠ pluginId } where
  db := rfl
  tables := rfl
  runtimeErrors := rfl
  outbox := rfl
  runStates := rfl
  daemonHandles := Owned.filter_filter_eq fun h _ hother =>
    decide_eq_true fun hown => of_decide_eq_true hother (congrArg some hown)
  shortLivedFutures := rfl
  shortLivedNextRun _ _ := rfl
  inFlight _ h := .inl h

lemma forgetFuture_own (s : Manager) (key : ShortLivedKey) :
    OwnOnly (some key.pluginId) s
      { s with shortLivedFutures := s.shortLivedFutures.filter fun f => f.1 ≠ key } where
  db := rfl
  tables := rfl
  runtimeErrors := rfl
  outbox := rfl
  runStates := rfl
  daemonHandles := rfl
  shortLivedFutures := Owned.filter_filter_eq fun f _ hother =>
    decide_eq_true fun hown => of_decide_eq_true hother (by rw [hown])
  shortLivedNextRun _ _ := rfl
  inFlight _ h := .inl h

lemma submitShortLived_own {s s' : Manager} {key : ShortLivedKey}
    (h : s.submitShortLived out key = .ok s') : OwnOnly (some key.pluginId) s s' := by
  unfold Manager.submitShortLived at h
  by_cases hpending : (s.shortLivedFutures.any fun f => f.1 = key) = true
  · rw [if_pos hpending] at h
    cases h
    exact .refl _ _
  · rw [if_neg hpending] at h
    by_cases hsubmit : out.submit key = true
    · rw [if_pos hsubmit] at h
      cases h
      exact
        { OwnOnly.refl (some key.pluginId) s with
          shortLivedFutures := Owned.filter_append_eq fun f hf => by
            rw [List.mem_singleton.mp hf]
            exact decide_eq_false (not_not.mpr rfl) }
    · rw [if_neg hsubmit] at h
      cases h

lemma startWhenDue_own (s : Manager) (key : ShortLivedKey) (next : Except PyError Timestamp)
    (run : Timestamp) : OwnOnly (some key.pluginId) s (s.startWhenDue out key next run).1 := by
  unfold Manager.startWhenDue
  by_cases hdue : out.now < run
  · rw [if_pos hdue]
    exact .refl _ _
  rw [if_neg hdue]
  cases hsubmit : s.submitShortLived out key with
  | error error => exact .refl _ _
  | ok s' =>
    cases next with
    | error error => exact submitShortLived_own hsubmit
    | ok run => exact (submitShortLived_own hsubmit).trans (setNextRun_own s' key (some run))

lemma syncSchedule_own (s : Manager) (key : ShortLivedKey) (schedule : Schedule)
    (timezone : Option String) :
    OwnOnly (some key.pluginId) s (s.syncSchedule out key schedule timezone).1 := by
  unfold Manager.syncSchedule
  by_cases hmanual : schedule.mode = "manual"
  · rw [if_pos hmanual]
    exact setNextRun_own s key none
  rw [if_neg hmanual]
  dsimp only
  cases s.shortLivedNextRun key with
  | some run => exact startWhenDue_own s key _ run
  | none =>
    cases nextRunForSchedule out.zoneInfo schedule out.now timezone with
    | error error => exact .refl _ _
    | ok run => exact (setNextRun_own s key (some run)).trans (startWhenDue_own _ key _ run)

lemma stopDaemonHandle_own (s : Manager) (pluginId : RowId) :
    OwnOnly (some pluginId) s (s.stopDaemonHandle out pluginId).1 := by
  unfold Manager.stopDaemonHandle
  by_cases hhandle : (s.daemonHandles.any fun h => h.pluginId = pluginId) = true
  · rw [if_pos hhandle]
    dsimp only
    by_cases hrefused : s.RefusesRunState out pluginId
    · rw [if_pos hrefused]
      exact forgetHandle_own s pluginId
    · rw [if_neg hrefused]
      exact (forgetHandle_own s pluginId).trans (withRunState_own _ pluginId fun _ => rfl)
  · rw [if_neg hhandle]
    exact .refl _ _

lemma ensureProcess_own (s : Manager) (pluginId versionId : RowId) (processType : String) :
    OwnOnly (some pluginId) s (s.ensureProcess out pluginId versionId processType).1 := by
  unfold Manager.ensureProcess
  by_cases hrunning : (s.daemonHandles.any fun h =>
      h.pluginId = pluginId ∧ h.isAlive ∧ h.versionId = versionId) = true
  · rw [if_pos hrunning]
    exact .refl _ _
  rw [if_neg hrunning]
  have hstop : OwnOnly (some pluginId) s (s.stopDaemonHandle out pluginId).1 :=
    stopDaemonHandle_own s pluginId
  rcases hstopped : s.stopDaemonHandle out pluginId with ⟨s', _ | error⟩
  · rw [hstopped] at hstop
    by_cases hstart : out.startProcess pluginId = true
    · dsimp only
      rw [if_pos hstart]
      refine hstop.trans ?_
      have hstarted : OwnOnly (some pluginId) s'
          { s' with daemonHandles := s'.daemonHandles ++
            [{ pluginId := pluginId, processType := processType, versionId := versionId }] } :=
        { OwnOnly.refl (some pluginId) s' with
          daemonHandles := Owned.filter_append_eq fun h hh => by
            rw [List.mem_singleton.mp hh]
            exact decide_eq_false (not_not.mpr rfl) }
      exact hstarted.trans (withRunState_own _ pluginId fun _ => rfl)
    · dsimp only
      rw [if_neg hstart]
      exact hstop
  · rw [hstopped] at hstop
    exact hstop

lemma committing_of_raises {s : Manager} {f : Manager → Manager} {result : Except PyError Manager}
    (h : (s.committing f result).2.isSome = true) : (s.committing f result).1 = s := by
  cases result with
  | ok s' => cases h
  | error error => rfl

lemma handleImDeliveryResult_own {s : Manager} {pluginId : RowId} {payload : JsonDict}
    (h : (s.handleImDeliveryResult out pluginId payload).2.isSome = true) :
    OwnOnly (some pluginId) s (s.handleImDeliveryResult out pluginId payload).1 := by
  obtain ⟨hid, row, hrow, hplugin, hform⟩ := handleImDeliveryResult_raises_iff.mp h
  obtain ⟨error, hform⟩ := isOk_eq_false_iff.mp hform
  unfold Manager.handleImDeliveryResult
  dsimp only
  rw [if_neg hid, hrow]
  dsimp only
  rw [if_neg (not_not.mpr hplugin), hform]
  refine { OwnOnly.refl (some pluginId) s with inFlight := fun attempt hattempt => ?_ }
  by_cases hown : attempt.deliveryId = textField out payload "delivery_id"
  · exact .inr ⟨row, by rw [hown, hrow], congrArg some hplugin⟩
  · exact .inl (List.mem_filter.mpr ⟨hattempt, decide_eq_true hown⟩)

lemma handleMessage_own {s : Manager} {plugin : PluginDefinition} {version : PluginVersion}
    {payload : JsonDict} (h : (s.handleMessage out plugin version payload).2.isSome = true) :
    OwnOnly (some plugin.id) s (s.handleMessage out plugin version payload).1 := by
  cases handleMessage_raises_iff.mp h with
  | envelope hkind | event hkind =>
    rw [handleMessage_event hkind] at h ⊢
    rw [committing_of_raises h]
    exact .refl _ _
  | userError hkind huser =>
    rw [handleMessage_userError hkind, if_neg huser] at h ⊢
    rw [committing_of_raises h]
    exact .refl _ _
  | inbound hkind =>
    rw [handleMessage_inbound hkind] at h ⊢
    rw [committing_of_raises h]
    exact .refl _ _
  | deliveryResult hkind =>
    rw [(handleMessage_result hkind).2 h]
    rw [(handleMessage_result hkind).1] at h
    exact handleImDeliveryResult_own h
  | rpcForm hkind | rpcSession hkind =>
    rw [handleMessage_rpc hkind] at h ⊢
    rw [committing_of_raises h]
    exact .refl _ _

lemma handleQueueMessage_own {s : Manager} {pluginId versionId : RowId} {payload : JsonValue}
    (h : (s.handleQueueMessage out pluginId versionId payload).2.isSome = true) :
    OwnOnly (some pluginId) s (s.handleQueueMessage out pluginId versionId payload).1 := by
  obtain ⟨plugin, version, hplugin, hversion, -⟩ := handleQueueMessage_raises_iff.mp h
  cases payload with
  | obj fields =>
    rw [(handleQueueMessage_dict hplugin hversion).2 h]
    rw [(handleQueueMessage_dict hplugin hversion).1] at h
    have hown := handleMessage_own h
    rw [show plugin.id = pluginId from key_of_get hplugin] at hown
    exact (popMessage_own s pluginId).trans hown
  | _ =>
    have hpopped : ∀ payload, (∀ fields, payload ≠ .obj fields) →
        (s.handleQueueMessage out pluginId versionId payload).1 = s.popMessage pluginId := by
      intro payload hform
      unfold Manager.handleQueueMessage
      dsimp only [Manager.popMessage]
      rw [hplugin, hversion]
      cases payload with
      | obj fields => exact absurd rfl (hform fields)
      | _ => rfl
    rw [hpopped _ (by intro fields h; cases h)]
    exact popMessage_own s pluginId

/-- A handler that raises leaves what belongs to other plugins alone. -/
theorem handle_own {s : Manager} {item : Item}
    (h : Sweep.Raises (Manager.handle out) (s, item)) :
    OwnOnly item.pluginId s (s.handle out item).1 := by
  unfold Sweep.Raises at h
  cases item with
  | message pluginId versionId payload => exact handleQueueMessage_own h
  | finished key future =>
    show OwnOnly (some key.pluginId) s (s.handleFinished out key future).1
    have hleft := committing_of_raises h
    unfold Manager.handleFinished
    dsimp only
    rw [hleft]
    exact forgetFuture_own s key
  | stopDaemon pluginId => exact stopDaemonHandle_own s pluginId
  | listScopes pluginId => exact .refl _ _
  | schedule key schedule timezone => exact syncSchedule_own s key schedule timezone
  | prune pluginId eventName scheduled => cases h
  | process pluginId versionId processType =>
    exact ensureProcess_own s pluginId versionId processType
  | expire => cases h
  | deliver row => cases h

/-! ## The iteration -/

lemma dispatch_quiet (s : Manager) :
    ∀ item ∈ dispatchImDeliveries out s, ∀ s',
      ¬ Sweep.Raises (Manager.handle out) (s', item) := by
  intro item hitem s' hraises
  rcases List.mem_cons.mp hitem with rfl | hitem
  · cases hraises
  · obtain ⟨row, -, rfl⟩ := List.mem_map.mp hitem
    cases hraises

/-- Everything outside goes well. -/
def allWell : Outside where
  now := 0
  isoformat _ := "1970-01-01T00:00:00"
  pyStr _ := ""
  zoneInfo _ := none
  foreignKeys := true
  rpc db _ _ _ := { db := db }
  startProcess _ := true
  submit _ := true
  put _ := .done
  messageDispatchService := { sha256Hex := fun text => text }
  newKeys _ := { actionId := "action", messageId := "message", tagId := "tag" }
  wakeupKeys _ _ := { taskId := "task", jobId := "job" }
  newTagId := "tag"

def imPlugin (id : RowId) : PluginDefinition :=
  { id := id
    name := id
    displayName := id
    pluginType := "im"
    entryModule := "main"
    status := .enabled
    dataDir := id
    activeVersionId := some id }

def imVersion (id : RowId) : PluginVersion :=
  { id := id
    pluginId := id
    version := "1.0"
    metadataJson :=
      { name := id
        version := "1.0"
        displayName := id
        pluginType := "im"
        entryModule := "main" } }

/-- A picture without a text, for a cocoon. -/
def pictureMessage : JsonValue :=
  .obj
    [("type", .str "im_inbound_message"),
     ("message_kind", .str "private"),
     ("route", .obj [("target_type", .str "cocoon"), ("target_id", .str "c")]),
     ("message", .obj [("message_id", .str "m"), ("sender_id", .str "x"), ("text", .str "")])]

/-- One messenger has passed a picture on, another one is alive. -/
def pictureAndHeartbeat : Manager :=
  { db := { cocoons := [{ id := "c", ownerUserId := "u", characterId := "k" }] }
    tables :=
      { plugins := [imPlugin "a", imPlugin "b"]
        versions := [imVersion "a", imVersion "b"] }
    daemonHandles :=
      [{ pluginId := "a"
         processType := "im"
         versionId := "a"
         outboundQueue := [pictureMessage] },
       { pluginId := "b"
         processType := "im"
         versionId := "b"
         outboundQueue := [.obj [("type", .str "heartbeat")]] }] }

end PluginRuntimeManager

end CocoonSit
