import CocoonSit.Lib.Session
import CocoonSit.Plugins.Manager
import CocoonSit.Workspace.Creation

/-!
# RPC requests of instant messengers

The process of an `im` plugin asks the backend for something by an `rpc_request` in its queue:
`_handle_im_rpc_request` runs one of seven methods on the session of the queue's message, puts the
answer into the process's queue, and returns to `_handle_queue_message`, which commits.  The
exception of a method is caught and answered; what the method had written by then stays in the
session.

Every flush and the commit may be refused.  Sessions do not flush on queries.
-/

namespace CocoonSit

open Table PluginRuntimeManager SessionM

namespace ImRpc

/-! ## Rows -/

/-- `user_im_bind_tokens`. -/
structure UserImBindToken where
  id : RowId
  userId : RowId
  tokenHash : String
  expiresAt : Timestamp
  revokedAt : Option Timestamp := none
  lastValidatedAt : Option Timestamp := none
  createdAt : Timestamp := 0

/-- `plugin_im_target_routes`; plugin, platform, kind, account and conversation are unique. -/
structure PluginImTargetRoute where
  id : RowId
  pluginId : RowId
  targetType : String
  targetId : RowId
  externalPlatform : String
  conversationKind : String
  externalAccountId : String
  externalConversationId : String
  routeMetadataJson : JsonDict := .empty

instance : Keyed UserImBindToken RowId := ⟨UserImBindToken.id⟩
instance : Keyed PluginImTargetRoute RowId := ⟨PluginImTargetRoute.id⟩

@[simp] lemma key_bindToken (row : UserImBindToken) : key row = row.id := rfl

@[simp] lemma key_imTargetRoute (row : PluginImTargetRoute) : key row = row.id := rfl

/-- The tables the methods read and write. -/
structure ImTables where
  db : Db := {}
  accounts : Accounts := {}
  availableModels : List RowId := []
  members : List ChatGroupMember := []
  bindTokens : List UserImBindToken := []
  imTargetRoutes : List PluginImTargetRoute := []

/-- The flushes of a request. -/
inductive FlushPoint where
  /-- Of `_ensure_run_state`, when the plugin has no run state yet. -/
  | runState
  /-- Of the row of a cocoon or a room. -/
  | target
  /-- One of those of `ensure_session_state`. -/
  | sessionState
  /-- The method's last. -/
  | last

structure RpcOutside extends PluginRuntimeManager.Outside where
  settings : Settings := {}
  refused : FlushPoint → Bool
  commitRefused : Bool
  /-- `str(exc)` of what is no `ValueError`. -/
  errorText : PyError → String
  /-- What is raised for a refused flush. -/
  refusal : PyError := .integrityError
  newId : RowId
  memberKeys : ℕ → RowId
  /-- What the columns keep of a JSON value; one they do not take is a refused flush. -/
  floatColumn : JsonValue → Rat
  integerColumn : JsonValue → ℤ
  booleanColumn : JsonValue → Bool
  /-- `created_at` and `name` of cocoons, rooms and characters. -/
  createdAt : RowId → Timestamp
  nameOf : RowId → String

structure RpcResponse where
  requestId : String
  ok : Bool
  error : Option String := none
  payload : JsonDict := .empty
  occurredAt : String

abbrev RpcM := SessionM ImTables PyError

section Methods

variable (out : RpcOutside)

/-- `str(d.get(k) or "").strip()`. -/
def field (d : JsonDict) (k : String) : String := textField out.toOutside d k

/-- `d.get(k)`, unless it is `None`. -/
def given (d : JsonDict) (k : String) : Option JsonValue :=
  match d k with
  | some .null => none
  | v => v

def flushAt (point : FlushPoint) : RpcM PUnit := flush (out.refused point) out.refusal

/-! ## Users -/

def resolveRpcUser (users : List User) (payload : JsonDict) (idKey usernameKey subject : String) :
    Except PyError User :=
  let rawId := field out payload idKey
  let rawUsername := field out payload usernameKey
  if rawId ≠ "" ↔ rawUsername ≠ "" then
    .error (.valueError
      ("Exactly one of " ++ idKey ++ " or " ++ usernameKey ++ " is required for " ++ subject))
  else if rawId ≠ "" then
    match get users rawId with
    | none => .error (.valueError (idKey ++ " must reference an existing user"))
    | some user => .ok user
  else
    match users.find? fun u => u.username = rawUsername with
    | none => .error (.valueError (usernameKey ++ " must reference an existing user"))
    | some user => .ok user

/-! ## `create_cocoon` -/

/-- The checks of `_rpc_create_cocoon`: owner and row. -/
def newCocoon (t : ImTables) (payload : JsonDict) : Except PyError (User × Cocoon) :=
  (resolveRpcUser out t.accounts.users payload "owner_user_id" "owner_username" "owner").bind
    fun owner =>
      match Creation.rpcCreateCocoon { availableModels := t.availableModels }
          { accounts := t.accounts }
          { owner := some owner
            name := ContextBuilder.truthyText out.pyStr payload "name"
            characterId := ContextBuilder.truthyText out.pyStr payload "character_id"
            selectedModelId := ContextBuilder.truthyText out.pyStr payload "selected_model_id"
            parentId := ContextBuilder.truthyText out.pyStr payload "parent_id"
            defaultTemperature := (given payload "default_temperature").map out.floatColumn
            maxContextMessages := (given payload "max_context_messages").map out.integerColumn
            autoCompactionEnabled :=
              (given payload "auto_compaction_enabled").map out.booleanColumn }
          out.newId with
      | .error text => .error (.valueError text)
      | .ok cocoon => .ok (owner, cocoon)

def ImTables.addCocoon (t : ImTables) (cocoon : Cocoon) : ImTables :=
  { t with db := { t.db with cocoons := t.db.cocoons ++ [cocoon] } }

/-- `ensure_session_state`. -/
def ImTables.withSessionState (t : ImTables) (target : Target) : ImTables :=
  { t with db := (ensureSessionState t.db target out.newTagId out.now).1 }

/-- What `create_cocoon` and `create_chat_group` answer. -/
def createdPayload (id name characterId selectedModelId : String) (owner : User) : JsonDict :=
  .ofList
    [("id", .str id), ("name", .str name), ("owner_user_id", .str owner.id),
     ("owner_username", .str owner.username), ("character_id", .str characterId),
     ("selected_model_id", .str selectedModelId)]

def rpcCreateCocoon (payload : JsonDict) : RpcM JsonDict := do
  let t ← work
  let (owner, cocoon) ← check (newCocoon out t payload)
  change fun t => t.addCocoon cocoon
  flushAt out .target
  change fun t => t.withSessionState out (.cocoon cocoon.id)
  flushAt out .sessionState
  flushAt out .last
  return createdPayload cocoon.id cocoon.name cocoon.characterId cocoon.selectedModelId owner

/-! ## `create_chat_group` -/

/-- The checks of `_rpc_create_chat_group` up to the insert of the room: owner and row. -/
def newChatGroup (t : ImTables) (payload : JsonDict) : Except PyError (User × ChatGroupRoom) :=
  (resolveRpcUser out t.accounts.users payload "owner_user_id" "owner_username" "owner").bind
    fun owner =>
      let characterId := field out payload "character_id"
      let selectedModelId := field out payload "selected_model_id"
      if characterId = "" ∨ get t.accounts.characters characterId = none then
        .error (.valueError "character_id must reference an existing character")
      else if selectedModelId = "" ∨ selectedModelId ∉ t.availableModels then
        .error (.valueError "selected_model_id must reference an existing model")
      else if field out payload "name" = "" then .error (.valueError "name is required")
      else .ok (owner, newRoom owner.id out.newId
        { characterId := characterId
          maxContextMessages := (given payload "max_context_messages").map out.integerColumn })

/-- `for user_id in payload.get("initial_member_ids") or []`: the texts of what it goes through. -/
def initialMemberIds (payload : JsonDict) : Except PyError (List String) :=
  match (payload "initial_member_ids").filter JsonValue.truthy with
  | none => .ok []
  | some (.arr items) =>
    .ok (items.map fun v => if v.truthy then ContextBuilder.textOf out.pyStr v else "")
  | some (.str s) => .ok (s.toList.map String.singleton)
  | some (.obj fields) => .ok (fields.map Prod.fst).eraseDups
  | some _ => .error .typeError

def ImTables.addRoom (t : ImTables) (room : ChatGroupRoom) : ImTables :=
  { t with db := { t.db with rooms := t.db.rooms ++ [room] } }

def ImTables.addMembers (t : ImTables) (rows : List ChatGroupMember) : ImTables :=
  { t with members := t.members ++ rows }

/-- The rows the loop over the initial members adds. -/
def otherMembers (accounts : Accounts) (ownerId roomId : RowId) (ids : List String) :
    List ChatGroupMember :=
  (initialMembers ownerId roomId out.memberKeys (rpcMemberIds accounts ownerId ids)).tail

/-- `_rpc_create_chat_group`: the members are read only when the room is there. -/
def rpcCreateChatGroup (payload : JsonDict) : RpcM JsonDict := do
  let t ← work
  let (owner, room) ← check (newChatGroup out t payload)
  change fun t => t.addRoom room
  flushAt out .target
  change fun t => t.addMembers [ownerMember owner.id room.id out.memberKeys]
  let ids ← check (initialMemberIds out payload)
  change fun t => t.addMembers (otherMembers out t.accounts owner.id room.id ids)
  change fun t => t.withSessionState out (.chatGroup room.id)
  flushAt out .sessionState
  flushAt out .last
  return createdPayload room.id (field out payload "name") room.characterId
    (field out payload "selected_model_id") owner

/-! ## `verify_user_binding` -/

/-- The checks of `verify_user_token` before it looks at tokens. -/
def userToVerify (t : ImTables) (payload : JsonDict) : Except PyError User :=
  let username := field out payload "username"
  if username = "" ∨ field out payload "token" = "" then
    .error (.valueError "username and token are required")
  else
    match (t.accounts.users.find? fun u => u.username = username).filter User.isActive with
    | none => .error (.valueError "invalid username or token")
    | some user => .ok user

/-- `_prune_expired_tokens` revokes it. -/
def UserImBindToken.Lapsed (now : Timestamp) (row : UserImBindToken) : Prop :=
  row.revokedAt = none ∧ row.expiresAt ≤ now

instance (now : Timestamp) (row : UserImBindToken) : Decidable (row.Lapsed now) :=
  inferInstanceAs (Decidable (_ ∧ _))

/-- `_prune_expired_tokens`: those of every user. -/
def ImTables.pruneExpiredTokens (t : ImTables) (now : Timestamp) : ImTables :=
  { t with bindTokens := t.bindTokens.map fun row =>
      if row.Lapsed now then { row with revokedAt := some now } else row }

/-- The newest current token of the user that is the given one. -/
def verifiedToken (tokens : List UserImBindToken) (userId : RowId) (payload : JsonDict) :
    Option UserImBindToken :=
  (orderBy (fun row => OrderDual.toDual row.createdAt) (tokens.filter fun row =>
    row.userId = userId ∧ row.revokedAt = none ∧ out.now < row.expiresAt)).find? fun row =>
      out.messageDispatchService.sha256Hex (field out payload "token") = row.tokenHash

def ImTables.validated (t : ImTables) (tokenId : RowId) (now : Timestamp) : ImTables :=
  { t with bindTokens := update t.bindTokens tokenId fun row =>
      { row with lastValidatedAt := some now } }

def rpcVerifyUserBinding (payload : JsonDict) : RpcM JsonDict := do
  let t ← work
  let user ← check (userToVerify out t payload)
  change fun t => t.pruneExpiredTokens out.now
  match verifiedToken out t.bindTokens user.id payload with
  | none => check (.error (.valueError "invalid username or token"))
  | some row => do
      change fun t => t.validated row.id out.now
      flushAt out .last
      return .ofList [("user_id", .str user.id), ("username", .str user.username)]

/-! ## `list_accessible_targets` and `list_accessible_characters` -/

def targetTypeOf : Target → String
  | .cocoon _ => "cocoon"
  | .chatGroup _ => "chat_group"

def targetIdOf : Target → RowId
  | .cocoon id => id
  | .chatGroup id => id

/-- Cocoons and rooms the user sees, the newest first. -/
def accessibleTargets (t : ImTables) (user : User) : List Target :=
  let cocoons := (t.db.cocoons.filter fun cocoon =>
    canAccessCocoon out.settings t.accounts user cocoon false false).map fun c => Target.cocoon c.id
  let rooms := (t.db.rooms.filter fun room =>
    canReadChatGroup out.settings t.accounts t.members user room).map fun r => Target.chatGroup r.id
  orderBy
    (fun target => OrderDual.toDual (toLex (out.isoformat (out.createdAt (targetIdOf target)),
      toLex (targetTypeOf target, targetIdOf target))))
    (cocoons ++ rooms)

def targetItem (target : Target) : JsonValue :=
  .obj
    [("target_type", .str (targetTypeOf target)), ("target_id", .str (targetIdOf target)),
     ("name", .str (out.nameOf (targetIdOf target))),
     ("created_at", .str (out.isoformat (out.createdAt (targetIdOf target))))]

def rpcListAccessibleTargets (payload : JsonDict) : RpcM JsonDict := do
  let t ← work
  let user ← check (resolveRpcUser out t.accounts.users payload "user_id" "username" "user")
  return .ofList [("items", .arr ((accessibleTargets out t user).map (targetItem out)))]

def rpcListAccessibleCharacters (payload : JsonDict) : RpcM JsonDict := do
  let t ← work
  let user ← check (resolveRpcUser out t.accounts.users payload "user_id" "username" "user")
  let characters := orderBy (fun c => OrderDual.toDual (out.createdAt c.id)) t.accounts.characters
  let items := (characters.filter fun c => canUseCharacter out.settings t.accounts user c).map
    fun c => JsonValue.obj
      [("character_id", .str c.id), ("name", .str (out.nameOf c.id)),
       ("created_at", .str (out.isoformat (out.createdAt c.id)))]
  return .ofList [("items", .arr items)]

/-! ## Routes -/

/-- What names a route of a plugin. -/
structure ImConversation where
  externalPlatform : String
  conversationKind : String
  externalAccountId : String
  externalConversationId : String
deriving DecidableEq

/-- Where a conversation is to be routed to. -/
structure RouteTarget where
  targetType : String
  targetId : RowId
  metadataJson : JsonDict

def PluginImTargetRoute.IsOf (pluginId : RowId) (conversation : ImConversation)
    (route : PluginImTargetRoute) : Prop :=
  route.pluginId = pluginId ∧ route.externalPlatform = conversation.externalPlatform ∧
    route.conversationKind = conversation.conversationKind ∧
    route.externalAccountId = conversation.externalAccountId ∧
    route.externalConversationId = conversation.externalConversationId

instance (pluginId : RowId) (conversation : ImConversation) (route : PluginImTargetRoute) :
    Decidable (route.IsOf pluginId conversation) :=
  inferInstanceAs (Decidable (_ ∧ _))

def findRoute (routes : List PluginImTargetRoute) (pluginId : RowId)
    (conversation : ImConversation) :
    Option PluginImTargetRoute :=
  routes.find? fun route => route.IsOf pluginId conversation

def conversationOf (payload : JsonDict) : ImConversation where
  externalPlatform := field out payload "external_platform"
  conversationKind := field out payload "conversation_kind"
  externalAccountId := field out payload "external_account_id"
  externalConversationId := field out payload "external_conversation_id"

/-- The checks of a conversation. -/
def requireConversation (payload : JsonDict) : Except PyError ImConversation :=
  let conversation := conversationOf out payload
  if conversation.conversationKind ≠ "private" ∧ conversation.conversationKind ≠ "group" then
    .error (.valueError "conversation_kind must be 'private' or 'group'")
  else if conversation.externalPlatform = "" ∨ conversation.externalAccountId = "" ∨
      conversation.externalConversationId = "" then
    .error (.valueError
      "external_platform, external_account_id, and external_conversation_id are required")
  else .ok conversation

/-- The checks of `_rpc_upsert_im_target_route`. -/
def routeToUpsert (t : ImTables) (payload : JsonDict) :
    Except PyError (ImConversation × RouteTarget) :=
  let targetType := field out payload "target_type"
  let targetId := field out payload "target_id"
  (dictOf (payload "metadata_json")).bind fun metadataJson =>
    if (targetType ≠ "cocoon" ∧ targetType ≠ "chat_group") ∨ targetId = "" then
      .error (.valueError "target_type must be 'cocoon' or 'chat_group' and target_id is required")
    else
      (requireConversation out payload).bind fun conversation =>
        if targetType = "cocoon" ∧ (get t.db.cocoons targetId).isNone then
          .error (.valueError "target_id must reference an existing cocoon")
        else if targetType ≠ "cocoon" ∧ (get t.db.rooms targetId).isNone then
          .error (.valueError "target_id must reference an existing chat group")
        else .ok (conversation, ⟨targetType, targetId, metadataJson⟩)

def newRoute (pluginId : RowId) (conversation : ImConversation) (target : RouteTarget) :
    PluginImTargetRoute where
  id := out.newId
  pluginId := pluginId
  targetType := target.targetType
  targetId := target.targetId
  externalPlatform := conversation.externalPlatform
  conversationKind := conversation.conversationKind
  externalAccountId := conversation.externalAccountId
  externalConversationId := conversation.externalConversationId
  routeMetadataJson := target.metadataJson

def PluginImTargetRoute.retargeted (target : RouteTarget) (route : PluginImTargetRoute) :
    PluginImTargetRoute :=
  { route with
    targetType := target.targetType
    targetId := target.targetId
    routeMetadataJson := target.metadataJson }

/-- The row after the upsert. -/
def upsertedRoute (t : ImTables) (pluginId : RowId) (conversation : ImConversation)
    (target : RouteTarget) : PluginImTargetRoute :=
  match findRoute t.imTargetRoutes pluginId conversation with
  | none => newRoute out pluginId conversation target
  | some route => route.retargeted target

def ImTables.upsertRoute (t : ImTables) (pluginId : RowId) (conversation : ImConversation)
    (target : RouteTarget) : ImTables :=
  { t with imTargetRoutes :=
      match findRoute t.imTargetRoutes pluginId conversation with
      | none => t.imTargetRoutes ++ [newRoute out pluginId conversation target]
      | some route => update t.imTargetRoutes route.id fun r => r.retargeted target }

def rpcUpsertImTargetRoute (pluginId : RowId) (payload : JsonDict) : RpcM JsonDict := do
  let t ← work
  let (conversation, target) ← check (routeToUpsert out t payload)
  change fun t => t.upsertRoute out pluginId conversation target
  flushAt out .last
  let route := upsertedRoute out t pluginId conversation target
  return .ofList
    [("id", .str route.id), ("plugin_id", .str route.pluginId),
     ("target_type", .str route.targetType), ("target_id", .str route.targetId),
     ("external_platform", .str route.externalPlatform),
     ("conversation_kind", .str route.conversationKind),
     ("external_account_id", .str route.externalAccountId),
     ("external_conversation_id", .str route.externalConversationId)]

def ImTables.deleteRoute (t : ImTables) (route : PluginImTargetRoute) : ImTables :=
  { t with imTargetRoutes := t.imTargetRoutes.filter fun r => r.id ≠ route.id }

def rpcDeleteImTargetRoute (pluginId : RowId) (payload : JsonDict) : RpcM JsonDict := do
  let t ← work
  let conversation ← check (requireConversation out payload)
  match findRoute t.imTargetRoutes pluginId conversation with
  | none => return .ofList [("deleted", .bool false)]
  | some route => do
      change fun t => t.deleteRoute route
      flushAt out .last
      return .ofList [("deleted", .bool true)]

/-! ## The handler -/

/-- The method a request names. -/
def rpcMethod (pluginId : RowId) (method : String) (payload : JsonDict) : RpcM JsonDict :=
  if method = "create_cocoon" then rpcCreateCocoon out payload
  else if method = "create_chat_group" then rpcCreateChatGroup out payload
  else if method = "verify_user_binding" then rpcVerifyUserBinding out payload
  else if method = "list_accessible_targets" then rpcListAccessibleTargets out payload
  else if method = "list_accessible_characters" then rpcListAccessibleCharacters out payload
  else if method = "upsert_im_target_route" then rpcUpsertImTargetRoute out pluginId payload
  else if method = "delete_im_target_route" then rpcDeleteImTargetRoute out pluginId payload
  else check (.error (.valueError ("Unsupported IM RPC method: " ++ method)))

/-- `str(exc)`. -/
def strOf : PyError → String
  | .valueError text => text
  | error => out.errorText error

/-- What is put into the process's queue for the result of a method. -/
def responseTo (requestId : String) : Except PyError JsonDict → RpcResponse
  | .error error =>
    { requestId := requestId
      ok := false
      error := some (strOf out error)
      occurredAt := out.isoformat out.now }
  | .ok payload =>
    { requestId := requestId
      ok := true
      payload := payload
      occurredAt := out.isoformat out.now }

/-- `_handle_im_rpc_request`: the responses it puts. -/
def handleImRpcRequest (handle : Option DaemonHandle) (pluginId : RowId) (message : JsonDict)
    (s : Session ImTables) : Except PyError (List RpcResponse) × Session ImTables :=
  let requestId := field out message "request_id"
  let method := field out message "method"
  match dictOf (message "payload") with
  | .error error => (.error error, s)
  | .ok request =>
    if requestId = "" ∨ ¬ handle.any DaemonHandle.hasInboundQueue then (.ok [], s)
    else
      let result := run (rpcMethod out pluginId method request) s
      (.ok [responseTo out requestId result.1], result.2)

/-- What comes of a request: the responses, what its session had come to, and what the database
holds after it. -/
structure Handled where
  responses : List RpcResponse
  work : ImTables
  stored : ImTables

/-- `_handle_queue_message` of an `rpc_request`, the run state of the plugin aside. -/
def handleQueueMessage (plugin : Option PluginDefinition) (version : Option PluginVersion)
    (handle : Option DaemonHandle) (message : JsonDict) (t : ImTables) : Handled :=
  match plugin, version with
  | some plugin, some _ =>
    if out.refused .runState then ⟨[], t, t⟩
    else
      match handleImRpcRequest out handle plugin.id message { work := t } with
      | (.error _, s) => ⟨[], s.work, t⟩
      | (.ok responses, s) => ⟨responses, s.work, committed t out.commitRefused s⟩
  | _, _ => ⟨[], t, t⟩

end Methods

end ImRpc

end CocoonSit
