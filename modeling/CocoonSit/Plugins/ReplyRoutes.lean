import CocoonSit.Dispatch.ChatWorker
import CocoonSit.Plugins.ImRpc
import CocoonSit.Plugins.ManagerIsolation

/-!
# Which conversation a reply goes to

Messages of the web client and of instant messengers that come in within the debounce window join
one chat action, and one round answers them all.  `PluginImDeliveryService.enqueue_reply` reads the
conversation the reply goes to from the payload of the action.  An enqueue call writes the payload
anew, so what it says of the conversation is what the last message said: a message of the web client
takes the route away, and one of another conversation leads the reply there.

A run is any sequence of messages, timeouts with their retries, answering rounds and other
transactions.  The state records which message joined which action, and where it came from.
-/

namespace CocoonSit

open Table TransitionSystem PluginRuntimeManager

namespace ReplyRoutes

/-! ## `PluginImDeliveryService` -/

def pluginImSourceKind : String := "plugin_im"

/-- The arguments of `_enqueue_single_reply`, without the action and the message. -/
structure SingleReply where
  pluginId : RowId
  externalAccountId : JsonValue
  externalConversationId : JsonValue
  externalMessageId : JsonValue := .null
  externalSenderId : JsonValue := .null
  externalSenderDisplayName : JsonValue := .null
  sourceMessageId : JsonValue := .null
  metadataJson : List (String × JsonValue)

variable (out : Outside)

/-- `payload_json` of the row of `_enqueue_single_reply`. -/
def SingleReply.payloadJson (args : SingleReply) (action : ActionDispatch) (message : Message) :
    JsonDict :=
  .ofList
    [("plugin_id", .str args.pluginId),
     ("action_id", .str action.id),
     ("message_id", .str message.id),
     ("target_type", .str (ImRpc.targetTypeOf action.target)),
     ("target_id", .str (ImRpc.targetIdOf action.target)),
     ("reply_text", .str message.content),
     ("source_message_id", args.sourceMessageId),
     ("external_account_id", args.externalAccountId),
     ("external_conversation_id", args.externalConversationId),
     ("external_message_id", args.externalMessageId),
     ("external_sender_id", args.externalSenderId),
     ("external_sender_display_name", args.externalSenderDisplayName),
     ("metadata_json", .obj args.metadataJson),
     ("created_at", .str (out.isoformat out.now))]

/-- `_enqueue_single_reply`. -/
def SingleReply.enqueue (args : SingleReply) (newId : RowId) (action : ActionDispatch)
    (message : Message) (s : Deliveries) : Deliveries :=
  enqueueSingleReply newId args.pluginId (args.payloadJson out action message) out.now s

def isImSourceAction (action : ActionDispatch) : Bool :=
  (ContextBuilder.truthyText out.pyStr action.payloadJson "source_kind").getD "" =
    pluginImSourceKind

/-- `payload.get(k)`. -/
def payloadValue (action : ActionDispatch) (k : String) : JsonValue :=
  (action.payloadJson k).getD .null

def replyOnRoute (action : ActionDispatch) (pluginId : RowId)
    (metadataJson : List (String × JsonValue)) : SingleReply where
  pluginId := pluginId
  externalAccountId := payloadValue action "external_account_id"
  externalConversationId := payloadValue action "external_conversation_id"
  externalMessageId := payloadValue action "external_message_id"
  externalSenderId := payloadValue action "external_sender_id"
  externalSenderDisplayName := payloadValue action "external_sender_display_name"
  sourceMessageId := payloadValue action "message_id"
  metadataJson := metadataJson

/-- A row of `plugin_im_target_routes`, with the items of its metadata. -/
structure TargetRoute where
  row : ImRpc.PluginImTargetRoute
  routeMetadata : List (String × JsonValue) := []

def TargetRoute.reply (route : TargetRoute) : SingleReply where
  pluginId := route.row.pluginId
  externalAccountId := .str route.row.externalAccountId
  externalConversationId := .str route.row.externalConversationId
  metadataJson := route.routeMetadata

/-- `enqueue_reply`.  `routes` is the table of routes, the oldest first, and `newIds` are the keys
the rows draw. -/
def enqueueReply (routes : List TargetRoute) (newIds : ℕ → RowId) (action : ActionDispatch)
    (message : Message) (s : Deliveries) : Except PyError Deliveries :=
  if isImSourceAction out action then
    let pluginId := textField out action.payloadJson "source_plugin_id"
    if pluginId = "" then .ok s
    else do
      let metadataJson ← fieldsOf (action.payloadJson "im_metadata_json")
      .ok ((replyOnRoute action pluginId metadataJson).enqueue out (newIds 0) action message s)
  else if action.eventType ≠ .wakeup ∨ ImRpc.targetIdOf action.target = "" then .ok s
  else
    let targetRoutes := routes.filter fun route =>
      route.row.targetType = ImRpc.targetTypeOf action.target ∧
        route.row.targetId = ImRpc.targetIdOf action.target
    .ok (targetRoutes.zipIdx.foldl
      (fun s route => route.1.reply.enqueue out (newIds route.2) action message s) s)

/-! ## Runs -/

/-- A conversation of an instant messenger, as a message of it names it. -/
structure Conversation where
  pluginId : RowId
  externalAccountId : Option String
  externalConversationId : Option String
deriving DecidableEq

def Conversation.ofInbound (pluginId : RowId) (message : JsonDict) : Conversation where
  pluginId := pluginId
  externalAccountId := optionalTextField out message "account_id"
  externalConversationId := optionalTextField out message "conversation_id"

/-- A message that has joined an action; one of the web client is of no conversation. -/
structure Arrival where
  actionId : RowId
  messageId : RowId
  source : Option Conversation

/-- The tables, and what has joined which action so far. -/
structure State where
  db : Db
  deliveries : Deliveries := {}
  arrivals : List Arrival := []

/-- Where the messages of an action came from, in the order in which they joined it. -/
def sourcesOf (arrivals : List Arrival) (actionId : RowId) : List (Option Conversation) :=
  (arrivals.filter fun a => a.actionId = actionId).map Arrival.source

def State.sources (s : State) (actionId : RowId) : List (Option Conversation) :=
  sourcesOf s.arrivals actionId

/-- The fields of a payload that lead a reply. -/
def routeFields : List String :=
  ["source_kind", "source_plugin_id", "external_account_id", "external_conversation_id",
   "im_metadata_json"]

/-- The rows are of one action, and lead its reply to the same place. -/
structure SameRoute (row row' : ActionDispatch) : Prop where
  id : row'.id = row.id
  eventType : row'.eventType = row.eventType
  payloadJson : ∀ k ∈ routeFields, row'.payloadJson k = row.payloadJson k

/-- A transaction other than the ones spelled out below: it inserts actions, and changes the ones
there are, without writing the fields that lead a reply. -/
structure OtherTransaction where
  run : Db → Db
  keeps : ∀ db, ∀ row' ∈ (run db).actions,
    (∃ row ∈ db.actions, SameRoute row row') ∨ row'.id ∉ db.actions.map key

inductive Event where
  /-- A message of the web client: its route passes no `extra_payload`. -/
  | web (out : Outside) (target : Target) (sub : ChatSubmission)
  /-- An `im_inbound_message` of a plugin. -/
  | im (out : Outside) (pluginId : RowId) (payload : JsonDict)
  /-- The round of an action times out. -/
  | timeOut (out : Outside) (worker : ChatDispatchWorkerService) (actionId newId : RowId)
  /-- The round of an action delivers its reply, and commits. -/
  | answer (out : Outside) (routes : List TargetRoute) (newIds : ℕ → RowId) (actionId : RowId)
      (usedMemoryIds : List RowId) (reply : Message)
  | elsewhere (transaction : OtherTransaction)

/-- The keys of actions are unique, and none is drawn a second time. -/
structure KeysDrawnOnce (s : State) (db : Db) : Prop where
  nodup : (db.actions.map key).Nodup
  fresh : ∀ row ∈ db.actions, row.id ∈ s.db.actions.map key ∨ s.sources row.id = []

instance (s : State) (db : Db) : Decidable (KeysDrawnOnce s db) :=
  decidable_of_iff
    ((db.actions.map key).Nodup ∧
      ∀ row ∈ db.actions, row.id ∈ s.db.actions.map key ∨ (s.sources row.id).isEmpty)
    (by simp only [List.isEmpty_iff]; exact ⟨fun h => ⟨h.1, h.2⟩, fun h => ⟨h.nodup, h.fresh⟩⟩)

/-- A transaction commits, unless it has inserted an action under a key that was taken. -/
def State.commit (s s' : State) : State :=
  if KeysDrawnOnce s s'.db then s' else s

/-- The messages a call has inserted. -/
def arrivalsBetween (db db' : Db) (source : Option Conversation) : List Arrival :=
  (db'.messages.drop db.messages.length).filterMap fun m =>
    m.actionId.map fun actionId => { actionId := actionId, messageId := m.id, source := source }

/-- A call of `enqueue_chat_message` or `enqueue_chat_group_message`. -/
def State.submit (s : State) (target : Target) (sub : ChatSubmission)
    (source : Option Conversation) : State :=
  match out.messageDispatchService.enqueueChat s.db target sub (out.newKeys s.db) out.now with
  | .error _ => s
  | .ok (db, _) => s.commit { s with
      db := db
      arrivals := s.arrivals ++ arrivalsBetween s.db db source }

/-- `_ingest_im_inbound_message`. -/
def State.ingest (s : State) (pluginId : RowId) (payload : JsonDict) : State :=
  match imInboundSubmission out s.db pluginId payload, dictOf (payload "message") with
  | .ok (target, sub), .ok message =>
    s.submit out target sub (some (.ofInbound out pluginId message))
  | _, _ => s

/-- `_handle_timed_out_action`: the retry is there for the messages of the action. -/
def State.timeOut (s : State) (worker : ChatDispatchWorkerService) (actionId newId : RowId) :
    State :=
  match (get s.db.actions actionId).filter fun seen => seen.status = .running with
  | none => s
  | some seen =>
    let retry := (worker.retryAction seen newId out.now).toList
    s.commit { s with
      db := { s.db with
        actions := update s.db.actions actionId (worker.timedOut seen out.now) ++ retry }
      arrivals := s.arrivals ++ retry.flatMap fun r =>
        (s.arrivals.filter fun a => a.actionId = actionId).map fun a =>
          { a with actionId := r.id } }

/-- `used_memory_ids`, as the scheduler node has written them into the payload. -/
def withUsedMemories (usedMemoryIds : List RowId) (row : ActionDispatch) : ActionDispatch :=
  { row with payloadJson :=
      row.payloadJson.set "used_memory_ids" (.arr (usedMemoryIds.map JsonValue.str)) }

def step (s : State) : Event → Option State
  | .web out target sub => some (s.submit out target { sub with extraPayload := .empty } none)
  | .im out pluginId payload => some (s.ingest out pluginId payload)
  | .timeOut out worker actionId newId => some (s.timeOut out worker actionId newId)
  | .answer out routes newIds actionId usedMemoryIds reply =>
    match (get s.db.actions actionId).filter fun row => row.status = .running with
    | none => none
    | some row =>
      match enqueueReply out routes newIds (withUsedMemories usedMemoryIds row) reply
          s.deliveries with
      | .error _ => none
      | .ok deliveries => some { s with
          db := { s.db with
            actions := update s.db.actions actionId fun row =>
              (withUsedMemories usedMemoryIds row).finishAction .completed none out.now
            messages := s.db.messages ++ [reply] }
          deliveries := deliveries }
  | .elsewhere transaction => some (s.commit { s with db := transaction.run s.db })

/-! ## The property and its condition -/

/-- The row sends the reply to the conversation. -/
structure RepliesTo (row : PluginImDeliveryOutbox) (c : Conversation) (reply : Message) : Prop where
  pluginId : row.pluginId = c.pluginId
  account : row.payloadJson "external_account_id" = some (jsonOfText c.externalAccountId)
  conversation :
    row.payloadJson "external_conversation_id" = some (jsonOfText c.externalConversationId)
  message : row.payloadJson "message_id" = some (.str reply.id)

/-- A round that answers an action enqueues its reply to the conversation of every message of the
action that came from an instant messenger. -/
def Answered (s : State) (event : Event) (s' : State) : Prop :=
  match event with
  | .answer _ _ _ actionId _ reply =>
    ∃ rows, s'.deliveries.outbox = s.deliveries.outbox ++ rows ∧
      ∀ c, some c ∈ s.sources actionId → ∃ row ∈ rows, RepliesTo row c reply
  | _ => True

/-- The conversation a row is for whose plugin is read as `str(…).strip()`; there is none where no
plugin is left. -/
def Conversation.addressed (c : Conversation) : Option Conversation :=
  if strip c.pluginId = "" then none else some { c with pluginId := strip c.pluginId }

/-- Every message of an instant messenger is of the conversation the last message came from. -/
def OneConversation (sources : List (Option Conversation)) : Prop :=
  ∀ c, some c ∈ sources →
    (sources.getLast?.bind fun last => last.bind Conversation.addressed) = some c

instance (sources : List (Option Conversation)) : Decidable (OneConversation sources) :=
  decidable_of_iff
    (∀ source ∈ sources, ∀ c ∈ source,
      (sources.getLast?.bind fun last => last.bind Conversation.addressed) = some c)
    ⟨fun h c hc => h _ hc c rfl, fun h _ hsource c hc => h c (hc ▸ hsource)⟩

/-- The action that is answered has been joined last from the conversation that all its messages of
instant messengers came from, if there are any. -/
def Undiverted (s : State) (event : Event) : Prop :=
  match event with
  | .answer _ _ _ actionId _ _ =>
    ∀ row, get s.db.actions actionId = some row → row.status = .running →
      OneConversation (s.sources actionId)
  | _ => True

instance (s : State) (event : Event) : Decidable (Undiverted s event) :=
  match event with
  | .answer _ _ _ actionId _ _ =>
    inferInstanceAs (Decidable (∀ row ∈ get s.db.actions actionId, row.status = .running →
      OneConversation (s.sources actionId)))
  | .web .. | .im .. | .timeOut .. | .elsewhere _ => .isTrue trivial

/-! ## What a payload says of the conversation -/

/-- The payload leads the reply to the conversation. -/
structure CarriesRoute (payload : JsonDict) (c : Conversation) : Prop where
  kind : payload "source_kind" = some (.str pluginImSourceKind)
  plugin : payload "source_plugin_id" = some (.str c.pluginId)
  account : payload "external_account_id" = some (jsonOfText c.externalAccountId)
  conversation : payload "external_conversation_id" = some (jsonOfText c.externalConversationId)
  metadata : ∃ fields, payload "im_metadata_json" = some (.obj fields)

/-- The payload is one that a message from `source` leaves. -/
def Carries (payload : JsonDict) : Option Conversation → Prop
  | none => payload "source_kind" = none
  | some c => CarriesRoute payload c

lemma CarriesRoute.merge {payload : JsonDict} {c : Conversation} (h : CarriesRoute payload c)
    (base : JsonDict) : CarriesRoute (base.merge payload) c where
  kind := JsonDict.merge_of_some h.kind
  plugin := JsonDict.merge_of_some h.plugin
  account := JsonDict.merge_of_some h.account
  conversation := JsonDict.merge_of_some h.conversation
  metadata := h.metadata.imp fun _ => JsonDict.merge_of_some

lemma Carries.congr {payload payload' : JsonDict} {source : Option Conversation}
    (hsame : ∀ k ∈ routeFields, payload' k = payload k) (h : Carries payload source) :
    Carries payload' source := by
  cases source with
  | none => exact (hsame "source_kind" (by decide)).trans h
  | some c =>
    exact
      { kind := (hsame _ (by decide)).trans h.kind
        plugin := (hsame _ (by decide)).trans h.plugin
        account := (hsame _ (by decide)).trans h.account
        conversation := (hsame _ (by decide)).trans h.conversation
        metadata := h.metadata.imp fun _ => (hsame _ (by decide)).trans }

lemma finalPayload_sourceKind (svc : MessageDispatchService) (target : Target)
    (characterId : RowId) (sub : ChatSubmission) (action : ActionDispatch) (messageId : RowId)
    (messageCount : ℕ) (hsub : sub.extraPayload "source_kind" = none) :
    svc.finalPayload target characterId sub action messageId messageCount "source_kind" = none := by
  rw [MessageDispatchService.finalPayload, JsonDict.merge_of_none hsub,
    ← Option.not_isSome_iff_eq_none, JsonDict.ofList_isSome]
  cases target <;>
    simp [ChatSubmission.senderFields, ChatSubmission.clientFields, roomFields]

lemma carries_web (svc : MessageDispatchService) (db : Db) (target : Target)
    (pending : Option ActionDispatch) {sub : ChatSubmission} (keys : NewKeys) (now : Timestamp)
    (hsub : sub.extraPayload = .empty) :
    Carries (svc.chatPayload db target pending sub keys now) none := by
  refine finalPayload_sourceKind _ _ _ _ _ _ _ ?_
  rw [hsub]
  rfl

lemma carries_im (svc : MessageDispatchService) (db : Db) (target : Target)
    (pending : Option ActionDispatch) {sub : ChatSubmission} (keys : NewKeys) (now : Timestamp)
    {c : Conversation} (hsub : CarriesRoute sub.extraPayload c) :
    Carries (svc.chatPayload db target pending sub keys now) (some c) :=
  hsub.merge _

lemma carriesRoute_of_inbound {db : Db} {pluginId : RowId} {payload message : JsonDict}
    {target : Target} {sub : ChatSubmission}
    (h : imInboundSubmission out db pluginId payload = .ok (target, sub))
    (hmessage : dictOf (payload "message") = .ok message) :
    CarriesRoute sub.extraPayload (.ofInbound out pluginId message) := by
  unfold imInboundSubmission at h
  obtain ⟨route, -, h⟩ := except_bind_eq_ok.mp h
  obtain ⟨inboundTarget, -, h⟩ := except_bind_eq_ok.mp h
  obtain ⟨message', hmessage', h⟩ := except_bind_eq_ok.mp h
  cases hmessage.symm.trans hmessage'
  dsimp only at h
  split at h
  · cases h
  split at h
  · cases h
  obtain ⟨senderUserId, -, h⟩ := except_bind_eq_ok.mp h
  obtain ⟨ownerUserId, -, h⟩ := except_bind_eq_ok.mp h
  obtain ⟨memoryOwnerUserId, -, h⟩ := except_bind_eq_ok.mp h
  obtain ⟨routeMetadata, -, h⟩ := except_bind_eq_ok.mp h
  obtain ⟨metadata, -, h⟩ := except_bind_eq_ok.mp h
  obtain ⟨rawPayload, -, h⟩ := except_bind_eq_ok.mp h
  cases h
  exact
    { kind := by simp [JsonDict.ofList, pluginImSourceKind]
      plugin := by simp [JsonDict.ofList, Conversation.ofInbound]
      account := by simp [JsonDict.ofList, Conversation.ofInbound]
      conversation := by simp [JsonDict.ofList, Conversation.ofInbound]
      metadata := ⟨_, by simp [JsonDict.ofList]; rfl⟩ }

/-! ## What `enqueue_reply` makes of it -/

variable {out} {s s' : Deliveries} {action : ActionDispatch} {reply : Message}
  {routes : List TargetRoute} {newIds : ℕ → RowId}

lemma enqueueReply_of_web (hchat : action.eventType = .chat)
    (hpayload : Carries action.payloadJson none) :
    enqueueReply out routes newIds action reply s = .ok s := by
  have hkind : isImSourceAction out action = false := by
    rw [isImSourceAction, ContextBuilder.truthyText, hpayload]
    rfl
  rw [enqueueReply, hkind, if_neg Bool.false_ne_true, if_pos]
  exact .inl (by rw [hchat]; decide)

variable (out s action reply) in
lemma SingleReply.enqueue_eq (args : SingleReply) (newId : RowId) :
    ∃ row, args.enqueue out newId action reply s = { s with outbox := s.outbox ++ [row] } ∧
      row.pluginId = args.pluginId ∧ row.payloadJson = args.payloadJson out action reply :=
  ⟨_, rfl, rfl, rfl⟩

variable (out s reply routes newIds) in
lemma enqueueReply_of_im {c : Conversation} (hpayload : Carries action.payloadJson (some c)) :
    (c.addressed = none ∧ enqueueReply out routes newIds action reply s = .ok s) ∨
      ∃ addressed row, c.addressed = some addressed ∧ RepliesTo row addressed reply ∧
        enqueueReply out routes newIds action reply s =
          .ok { s with outbox := s.outbox ++ [row] } := by
  obtain ⟨fields, hfields⟩ := hpayload.metadata
  have hkind : isImSourceAction out action = true := by
    rw [isImSourceAction, ContextBuilder.truthyText, hpayload.kind]
    rfl
  have hplugin : textField out action.payloadJson "source_plugin_id" = strip c.pluginId :=
    textField_of_str hpayload.plugin
  have hmetadata : fieldsOf (action.payloadJson "im_metadata_json") = .ok fields := by
    rw [hfields]
    cases fields <;> rfl
  rw [enqueueReply, hkind, if_pos rfl, hplugin]
  by_cases hstrip : strip c.pluginId = ""
  · exact .inl ⟨if_pos hstrip, if_pos hstrip⟩
  · obtain ⟨row, hrow, hid, hjson⟩ := SingleReply.enqueue_eq out s action reply
      (replyOnRoute action (strip c.pluginId) fields) (newIds 0)
    refine .inr ⟨_, row, if_neg hstrip, ?_, ?_⟩
    · exact
        { pluginId := hid
          account := by
            simp [hjson, SingleReply.payloadJson, JsonDict.ofList, replyOnRoute, payloadValue,
              hpayload.account]
          conversation := by
            simp [hjson, SingleReply.payloadJson, JsonDict.ofList, replyOnRoute, payloadValue,
              hpayload.conversation]
          message := by simp [hjson, SingleReply.payloadJson, JsonDict.ofList] }
    · rw [← hrow, hmetadata]
      exact if_neg hstrip

lemma enqueueReply_appends (h : enqueueReply out routes newIds action reply s = .ok s') :
    ∃ rows, s'.outbox = s.outbox ++ rows := by
  have hfold : ∀ (targetRoutes : List (TargetRoute × ℕ)) (s : Deliveries), ∃ rows,
      (targetRoutes.foldl (fun s route =>
        route.1.reply.enqueue out (newIds route.2) action reply s) s).outbox =
        s.outbox ++ rows := by
    intro targetRoutes
    induction targetRoutes with
    | nil => exact fun s => ⟨[], (List.append_nil _).symm⟩
    | cons route targetRoutes ih =>
      intro s
      obtain ⟨rows, hrows⟩ := ih (route.1.reply.enqueue out (newIds route.2) action reply s)
      exact ⟨_, hrows.trans (List.append_assoc ..)⟩
  unfold enqueueReply at h
  split at h
  · dsimp only at h
    split at h
    · cases h
      exact ⟨[], (List.append_nil _).symm⟩
    · obtain ⟨metadataJson, -, h⟩ := except_bind_eq_ok.mp h
      cases h
      exact ⟨_, rfl⟩
  · split at h
    · cases h
      exact ⟨[], (List.append_nil _).symm⟩
    · cases h
      exact hfold _ s

lemma jsonOfText_injective : Function.Injective jsonOfText := by
  intro a b h
  cases a <;> cases b <;> simp_all [jsonOfText]

lemma RepliesTo.unique {row : PluginImDeliveryOutbox} {c c' : Conversation}
    (h : RepliesTo row c reply) (h' : RepliesTo row c' reply) : c = c' := by
  have haccount := jsonOfText_injective (Option.some.inj (h.account.symm.trans h'.account))
  have hconversation :=
    jsonOfText_injective (Option.some.inj (h.conversation.symm.trans h'.conversation))
  have hplugin : c.pluginId = c'.pluginId := h.pluginId.symm.trans h'.pluginId
  cases c
  cases c'
  simp_all

variable (out s reply routes newIds) in
lemma repliesToAll_iff {sources : List (Option Conversation)} {last : Option Conversation}
    (hlast : sources.getLast? = some last) (hchat : action.eventType = .chat)
    (hpayload : Carries action.payloadJson last) :
    ∃ rows, enqueueReply out routes newIds action reply s =
        .ok { s with outbox := s.outbox ++ rows } ∧
      ((∀ c, some c ∈ sources → ∃ row ∈ rows, RepliesTo row c reply) ↔
        OneConversation sources) := by
  have hnone (h : last.bind Conversation.addressed = none) :
      (∀ c, some c ∈ sources → ∃ row ∈ ([] : List PluginImDeliveryOutbox), RepliesTo row c reply) ↔
        OneConversation sources := by
    refine forall₂_congr fun c _ => ?_
    simp [hlast, h]
  cases last with
  | none =>
    refine ⟨[], ?_, hnone rfl⟩
    rw [enqueueReply_of_web hchat hpayload, List.append_nil]
  | some c =>
    rcases enqueueReply_of_im out s reply routes newIds hpayload with
      ⟨haddr, hok⟩ | ⟨addressed, row, haddr, hrow, hok⟩
    · refine ⟨[], ?_, hnone haddr⟩
      rw [hok, List.append_nil]
    · refine ⟨[row], hok, forall₂_congr fun c' _ => ?_⟩
      simp only [List.mem_singleton, exists_eq_left, hlast, Option.bind_some, haddr,
        Option.some.injEq]
      constructor
      · exact fun h => hrow.unique h
      · rintro rfl
        exact hrow

/-! ## Steps -/

/-- The payload of an action is as the last message that joined it has left it. -/
def Consistent (s : State) : Prop :=
  ∀ row ∈ s.db.actions, ∀ last, (s.sources row.id).getLast? = some last →
    row.eventType = .chat ∧ Carries row.payloadJson last

section Steps

omit s s'

variable {s s' : State}

lemma consistent_commit (h : Consistent s) (h' : KeysDrawnOnce s s'.db → Consistent s') :
    Consistent (s.commit s') := by
  unfold State.commit
  split
  · next hkeys => exact h' hkeys
  · exact h

lemma Consistent.of_sameRoutes (h : Consistent s)
    (hsources : ∀ row ∈ s'.db.actions, s'.sources row.id = s.sources row.id)
    (hrows : ∀ row' ∈ s'.db.actions,
      (∃ row ∈ s.db.actions, SameRoute row row') ∨ s.sources row'.id = []) : Consistent s' := by
  intro row' hrow' last hlast
  rw [hsources row' hrow'] at hlast
  rcases hrows row' hrow' with ⟨row, hrow, hsame⟩ | hnone
  · obtain ⟨hchat, hpayload⟩ := h row hrow last (hsame.id ▸ hlast)
    exact ⟨hsame.eventType.trans hchat, hpayload.congr hsame.payloadJson⟩
  · rw [hnone] at hlast
    cases hlast

lemma SameRoute.refl (row : ActionDispatch) : SameRoute row row := ⟨rfl, rfl, fun _ _ => rfl⟩

lemma sameRoute_withUsedMemories (usedMemoryIds : List RowId) (row : ActionDispatch)
    (now : Timestamp) :
    SameRoute row ((withUsedMemories usedMemoryIds row).finishAction .completed none now) := by
  have hpayload : ∀ k ∈ routeFields,
      (withUsedMemories usedMemoryIds row).payloadJson k = row.payloadJson k := by
    intro k hk
    refine JsonDict.set_other _ _ ?_
    rintro rfl
    revert hk
    decide
  unfold ActionDispatch.finishAction
  split
  · exact ⟨rfl, rfl, hpayload⟩
  · exact ⟨rfl, rfl, hpayload⟩

lemma sourcesOf_append (arrivals new : List Arrival) (actionId : RowId) :
    sourcesOf (arrivals ++ new) actionId =
      sourcesOf arrivals actionId ++ sourcesOf new actionId := by
  simp [sourcesOf]

lemma sourcesOf_singleton (arrival : Arrival) (actionId : RowId) :
    sourcesOf [arrival] actionId =
      if arrival.actionId = actionId then [arrival.source] else [] := by
  by_cases h : arrival.actionId = actionId <;> simp [sourcesOf, h]

lemma sourcesOf_moved (arrivals : List Arrival) (fromId toId actionId : RowId) :
    sourcesOf ((arrivals.filter fun a => a.actionId = fromId).map fun a =>
      { a with actionId := toId }) actionId =
      if toId = actionId then sourcesOf arrivals fromId else [] := by
  by_cases h : toId = actionId
  · simp [sourcesOf, List.filter_map, Function.comp_def, h]
  · simp [sourcesOf, List.filter_map, Function.comp_def, h]

lemma arrivalsBetween_commitChat (svc : MessageDispatchService) (db : Db) (target : Target)
    (pending : Option ActionDispatch) (sub : ChatSubmission) (keys : NewKeys) (now : Timestamp)
    (source : Option Conversation) :
    arrivalsBetween db (svc.commitChat db target pending sub keys now).1 source =
      [{ actionId := (svc.commitChat db target pending sub keys now).2.id
         messageId := keys.messageId
         source := source }] := by
  rw [arrivalsBetween, commitChat_messages, List.drop_left,
    List.filterMap_cons_some (b := ⟨_, _, _⟩) ?_, List.filterMap_nil]
  rw [chatMessage_actionId, Option.map_some, chatMessage_id]

lemma commitChat_rows (svc : MessageDispatchService) {db : Db} {target : Target}
    {pending : Option ActionDispatch} {sub : ChatSubmission} {keys : NewKeys} {now : Timestamp}
    (hpending : ∀ a ∈ pending, a ∈ db.actions ∧ PendingChat target a)
    (hkeys : ((svc.commitChat db target pending sub keys now).1.actions.map key).Nodup) :
    ∀ row ∈ (svc.commitChat db target pending sub keys now).1.actions,
      (row.id = (svc.commitChat db target pending sub keys now).2.id ∧ row.eventType = .chat ∧
          row.payloadJson = svc.chatPayload db target pending sub keys now) ∨
        (row.id ≠ (svc.commitChat db target pending sub keys now).2.id ∧ row ∈ db.actions) := by
  intro row hrow
  cases pending with
  | none =>
    rw [commitChat_create_actions] at hrow hkeys
    rcases List.mem_append.mp hrow with hold | hnew
    · refine .inr ⟨fun hid => ?_, hold⟩
      rw [List.map_append, List.map_singleton, ← List.concat_eq_append,
        List.nodup_concat] at hkeys
      exact hkeys.1 (List.mem_map.mpr ⟨row, hold, hid⟩)
    · rw [List.mem_singleton.mp hnew]
      exact .inl ⟨rfl, rfl, rfl⟩
  | some action =>
    obtain ⟨hmem, hchat⟩ := hpending action rfl
    rw [commitChat_aggregate_actions] at hrow hkeys
    have hsame : ∀ row : ActionDispatch, key (row.joined (svc.debounceUntil target now)
        (svc.chatPayload db target (some action) sub keys now)) = key row := fun _ => rfl
    rw [map_key_update hsame] at hkeys
    rw [commitChat_aggregate_id]
    rcases mem_update.mp hrow with ⟨old, hold, hid, rfl⟩ | ⟨hold, hne⟩
    · -- the row under the key is the pending action
      obtain rfl : old = action := List.inj_on_of_nodup_map hkeys hold hmem hid
      exact .inl ⟨rfl, hchat.1, rfl⟩
    · exact .inr ⟨hne, hold⟩

lemma consistent_submit {out : Outside} {target : Target} {sub : ChatSubmission}
    {source : Option Conversation} (h : Consistent s)
    (hcarries : ∀ pending, Carries (out.messageDispatchService.chatPayload s.db target pending sub
      (out.newKeys s.db) out.now) source) :
    Consistent (s.submit out target sub source) := by
  unfold State.submit
  cases hcall : out.messageDispatchService.enqueueChat s.db target sub (out.newKeys s.db)
      out.now with
  | error error => exact h
  | ok result =>
    refine consistent_commit h fun hkeys => ?_
    rcases enqueueChat_ok hcall with heq | ⟨pending, hpending, heq⟩
    · -- a repetition inserts no message
      refine h.of_sameRoutes (fun row _ => ?_) fun row hrow => .inl ⟨row, ?_, .refl row⟩
      · simp only [State.sources, sourcesOf_append, heq, arrivalsBetween, List.drop_length]
        exact List.append_nil _
      · exact heq ▸ hrow
    · have hdb := congrArg Prod.fst heq
      have hnew := arrivalsBetween_commitChat out.messageDispatchService s.db target pending sub
        (out.newKeys s.db) out.now source
      intro row hrow last hlast
      simp only [State.sources, sourcesOf_append, hdb, hnew, sourcesOf_singleton] at hlast
      dsimp only at hrow hkeys
      rw [hdb] at hrow hkeys
      rcases commitChat_rows _ hpending hkeys.nodup row hrow with
        ⟨hid, hchat, hjson⟩ | ⟨hne, hold⟩
      · rw [if_pos hid.symm, List.getLast?_concat] at hlast
        cases hlast
        exact ⟨hchat, hjson ▸ hcarries pending⟩
      · rw [if_neg (Ne.symm hne), List.append_nil] at hlast
        exact h row hold last hlast

lemma consistent_ingest {out : Outside} {pluginId : RowId} {payload : JsonDict}
    (h : Consistent s) : Consistent (s.ingest out pluginId payload) := by
  unfold State.ingest
  split
  · next target sub message hsub hmessage =>
    exact consistent_submit h fun pending =>
      carries_im _ _ _ _ _ _ (carriesRoute_of_inbound out hsub hmessage)
  · exact h

lemma retryAction_routes {worker : ChatDispatchWorkerService} {seen retry : ActionDispatch}
    {newId : RowId} {now : Timestamp} (h : worker.retryAction seen newId now = some retry) :
    ∀ k ∈ routeFields, retry.payloadJson k = seen.payloadJson k := by
  intro k hk
  unfold ChatDispatchWorkerService.retryAction at h
  dsimp only at h
  split at h
  · cases h
    have hattempt : k ≠ "chat_retry_attempt" := by
      rintro rfl
      revert hk
      decide
    have hparent : k ≠ "chat_retry_parent_action_id" := by
      rintro rfl
      revert hk
      decide
    dsimp only
    rw [JsonDict.set_other _ _ hparent, JsonDict.set_other _ _ hattempt]
  · cases h

lemma consistent_timeOut {out : Outside} {worker : ChatDispatchWorkerService}
    {actionId newId : RowId} (h : Consistent s) :
    Consistent (s.timeOut out worker actionId newId) := by
  unfold State.timeOut
  cases hseen : (get s.db.actions actionId).filter fun seen => seen.status = .running with
  | none => exact h
  | some seen =>
    obtain ⟨hget, -⟩ := Option.filter_eq_some_iff.mp hseen
    obtain rfl : seen.id = actionId := key_of_get hget
    have htimedOut : ∀ row ∈ update s.db.actions seen.id (worker.timedOut seen out.now),
        ∃ old ∈ s.db.actions, SameRoute old row := by
      intro row hrow
      rcases mem_update.mp hrow with ⟨old, hold, -, rfl⟩ | ⟨hold, -⟩
      · exact ⟨old, hold, rfl, rfl, fun _ _ => rfl⟩
      · exact ⟨row, hold, .refl row⟩
    refine consistent_commit h fun hkeys => ?_
    cases hretry : worker.retryAction seen newId out.now with
    | none =>
      refine h.of_sameRoutes (fun row _ => ?_) fun row hrow => .inl (htimedOut row ?_)
      · simp only [State.sources, sourcesOf_append]
        exact List.append_nil _
      · simpa [hretry] using hrow
    | some retry =>
      have hsources : ∀ actionId,
          sourcesOf (s.arrivals ++ [retry].flatMap fun r =>
            (s.arrivals.filter fun a => a.actionId = seen.id).map fun a =>
              { a with actionId := r.id }) actionId =
            s.sources actionId ++ if retry.id = actionId then s.sources seen.id else [] := by
        intro actionId
        rw [sourcesOf_append, List.flatMap_singleton, sourcesOf_moved]
        rfl
      have hnodup := hkeys.nodup
      simp only [hretry, Option.toList_some] at hkeys hnodup ⊢
      rw [List.map_append, List.map_singleton, ← List.concat_eq_append, List.nodup_concat,
        map_key_update (by exact fun _ => rfl)] at hnodup
      intro row hrow last hlast
      simp only [State.sources, hsources] at hlast
      rcases List.mem_append.mp hrow with hold | hnew
      · obtain ⟨old, hold, hsame⟩ := htimedOut row hold
        have hne : retry.id ≠ row.id := by
          intro heq
          exact hnodup.1 (List.mem_map.mpr ⟨old, hold, hsame.id.symm.trans heq.symm⟩)
        rw [if_neg hne, List.append_nil, hsame.id] at hlast
        obtain ⟨hchat, hpayload⟩ := h old hold last hlast
        exact ⟨hsame.eventType.trans hchat, hpayload.congr hsame.payloadJson⟩
      · obtain rfl := List.mem_singleton.mp hnew
        have hfresh : sourcesOf s.arrivals row.id = [] := by
          rcases hkeys.fresh row (List.mem_append_right _ hnew) with hmem | hnone
          · exact absurd hmem hnodup.1
          · exact hnone
        rw [if_pos rfl, hfresh, List.nil_append] at hlast
        obtain ⟨-, hpayload⟩ := h seen (mem_of_get hget) last hlast
        exact ⟨(retryAction_spec hretry).2.2.1, hpayload.congr (retryAction_routes hretry)⟩

lemma consistent_step {event : Event} (h : Consistent s) (hstep : step s event = some s') :
    Consistent s' := by
  cases event with
  | web out target sub =>
    cases hstep
    exact consistent_submit h fun pending => carries_web _ _ _ _ _ _ rfl
  | im out pluginId payload =>
    cases hstep
    exact consistent_ingest h
  | timeOut out worker actionId newId =>
    cases hstep
    exact consistent_timeOut h
  | answer out routes newIds actionId usedMemoryIds reply =>
    unfold step at hstep
    dsimp only at hstep
    split at hstep
    · cases hstep
    split at hstep
    · cases hstep
    cases hstep
    refine h.of_sameRoutes (fun _ _ => rfl) fun row hrow => .inl ?_
    rcases mem_update.mp hrow with ⟨old, hold, -, rfl⟩ | ⟨hold, -⟩
    · exact ⟨old, hold, sameRoute_withUsedMemories ..⟩
    · exact ⟨row, hold, .refl row⟩
  | elsewhere transaction =>
    cases hstep
    refine consistent_commit h fun hkeys => h.of_sameRoutes (fun _ _ => rfl) fun row hrow => ?_
    rcases transaction.keeps s.db row hrow with hsame | hnew
    · exact .inl hsame
    · exact .inr ((hkeys.fresh row hrow).resolve_left hnew)

lemma answered_iff_undiverted_step (h : Consistent s) (event : Event) :
    (∀ s', step s event = some s' → Answered s event s') ↔ Undiverted s event := by
  cases event with
  | web out target sub => exact iff_of_true (fun _ _ => trivial) trivial
  | im out pluginId payload => exact iff_of_true (fun _ _ => trivial) trivial
  | timeOut out worker actionId newId => exact iff_of_true (fun _ _ => trivial) trivial
  | elsewhere transaction => exact iff_of_true (fun _ _ => trivial) trivial
  | answer out routes newIds actionId usedMemoryIds reply =>
    cases hget : (get s.db.actions actionId).filter fun row => row.status = .running with
    | none =>
      refine iff_of_true (fun s' hstep => ?_) fun row hrow hrunning => ?_
      · simp only [step, hget] at hstep
        cases hstep
      · rw [hrow, Option.filter_some, if_pos (by simpa using hrunning)] at hget
        cases hget
    | some row =>
      obtain ⟨hrow, hrunning⟩ := Option.filter_eq_some_iff.mp hget
      obtain rfl : row.id = actionId := key_of_get hrow
      have hcondition : Undiverted s (.answer out routes newIds row.id usedMemoryIds reply) ↔
          OneConversation (s.sources row.id) := by
        refine ⟨fun hall => hall row hrow (by simpa using hrunning), fun hone row' _ _ => hone⟩
      rw [hcondition]
      cases hlast : (s.sources row.id).getLast? with
      | none =>
        -- nothing has joined the action
        rw [List.getLast?_eq_none_iff] at hlast
        rw [hlast]
        refine iff_of_true (fun s' hstep => ?_) fun _ hc => absurd hc List.not_mem_nil
        simp only [step, hget] at hstep
        split at hstep
        · cases hstep
        · next deliveries hreply =>
          cases hstep
          obtain ⟨rows, hrows⟩ := enqueueReply_appends hreply
          refine ⟨rows, hrows, fun c hc => ?_⟩
          rw [hlast] at hc
          cases hc
      | some last =>
        obtain ⟨hchat, hpayload⟩ := h row (mem_of_get hrow) last hlast
        have hsame := sameRoute_withUsedMemories usedMemoryIds row out.now
        have hpayload' : Carries (withUsedMemories usedMemoryIds row).payloadJson last := by
          refine hpayload.congr fun k hk => JsonDict.set_other _ _ ?_
          rintro rfl
          revert hk
          decide
        have hchat' : (withUsedMemories usedMemoryIds row).eventType = .chat := hchat
        obtain ⟨rows, hreply, hiff⟩ := repliesToAll_iff out s.deliveries reply routes
          newIds hlast hchat' hpayload'
        rw [← hiff]
        simp only [step, hget, hreply, Option.some.injEq, forall_eq', Answered,
          List.append_cancel_left_eq, exists_eq_left']

end Steps

/-- The state before anything has joined an action. -/
def State.start (db : Db) (deliveries : Deliveries) : State :=
  { db := db, deliveries := deliveries }

lemma consistent_start (db : Db) (deliveries : Deliveries) :
    Consistent (State.start db deliveries) := by
  intro row _ last hlast
  cases hlast

/-- In every run, every round's reply is enqueued to the conversation of every message it answers
that came from an instant messenger, if and only if each action that is answered was joined last
from the conversation that all these messages came from. -/
theorem answered_iff_undiverted (db : Db) (deliveries : Deliveries) (events : List Event) :
    AllSteps step Answered (State.start db deliveries) events ↔
      StepsMeet step Undiverted (State.start db deliveries) events :=
  allSteps_iff_stepsMeet Consistent (fun _ event h => answered_iff_undiverted_step h event)
    (fun _ _ _ h _ hstep => consistent_step h hstep) (consistent_start db deliveries)

/-- `_claim_next_ready_action`. -/
def claimNext (now : Timestamp) : OtherTransaction where
  run db :=
    match nextReadyAction db.actions now with
    | none => db
    | some seen => { db with actions := update db.actions seen.id (seen.claimed now) }
  keeps db row' hrow' := by
    left
    split at hrow'
    · exact ⟨row', hrow', .refl row'⟩
    · rcases mem_update.mp hrow' with ⟨old, hold, -, rfl⟩ | ⟨hold, -⟩
      · exact ⟨old, hold, rfl, rfl, fun _ _ => rfl⟩
      · exact ⟨row', hold, .refl row'⟩

def privateMessage : JsonDict :=
  .ofList
    [("message_kind", .str "private"),
     ("route", .obj [("target_type", .str "cocoon"), ("target_id", .str "c")]),
     ("message", .obj
       [("message_id", .str "m"), ("account_id", .str "bot"), ("conversation_id", .str "friend"),
        ("sender_id", .str "friend"), ("text", .str "Are you there?")])]

/-- A message of a messenger and one of the web client come in within the debounce window, and one
round answers both. -/
def phoneThenWeb : List Event :=
  [.im allWell "onebot" privateMessage,
    .web allWell (.cocoon "c") { content := "Now I am here.", clientRequestId := "web" },
    .elsewhere (claimNext (seconds 3)),
    .answer allWell [] (fun _ => "reply") "action" []
      { id := "answer"
        target := .cocoon "c"
        role := .assistant
        content := "Yes."
        createdAt := 0 }]

/-- The reply is not enqueued for the messenger. -/
theorem phone_unanswered :
    ¬ ∀ db deliveries events, AllSteps step Answered (State.start db deliveries) events := by
  intro h
  let db : Db := { cocoons := [{ id := "c", ownerUserId := "u", characterId := "k" }] }
  have hmeet : StepsMeet step Undiverted (State.start db {}) phoneThenWeb := by
    refine (allSteps_iff_stepsMeet Consistent
      (fun _ event h => answered_iff_undiverted_step h event)
      (fun _ _ _ h _ hstep => consistent_step h hstep) (consistent_start db {})).mp (h db {} _)
  revert hmeet
  decide +kernel

end ReplyRoutes

end CocoonSit
