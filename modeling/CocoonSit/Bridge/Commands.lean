import CocoonSit.Plugins.ImRpc

/-!
# Commands of the OneBot bridge

The bridge keeps in a store of its own which private chat and which group of the messenger is
attached to which target, and tells the backend by RPC, which keeps a route for each.  Users attach
and detach in a private chat by commands; operators do so for groups.  A command names its target by
what the backend lists as accessible to the sender, and every target that has been listed or created
is cached in the store.

The answers of the RPC requests are given; a request that succeeds has done in the backend what its
method does.  Parsing of the commands is left out.  The ids of accounts and chats are the
messenger's numbers or words of a command, without white space at their ends, and an account's has
no colon, so that the store's keys `account:conversation` are pairs.
-/

namespace CocoonSit

open Table ImRpc TransitionSystem

namespace Bridge

def PLUGIN_PLATFORM : String := "nonebot_onebot_v11"

/-! ## The store -/

/-- A chat of an account of the messenger. -/
structure Chat where
  accountId : String
  conversationId : String
  strip_accountId : strip accountId = accountId
  strip_conversationId : strip conversationId = conversationId
deriving DecidableEq

inductive ConversationKind where
  | privateChat
  | groupChat
deriving DecidableEq

def ConversationKind.text : ConversationKind → String
  | .privateChat => "private"
  | .groupChat => "group"

/-- `metadata_json` of a route. -/
structure RouteMetadata where
  platform : String
  conversationKind : String
  externalAccountId : String
  externalConversationId : String
  tags : List String
deriving DecidableEq

structure Route where
  targetType : String
  targetId : RowId
  metadataJson : RouteMetadata
deriving DecidableEq

/-- What the store keeps of a private chat. -/
structure PrivateBinding where
  chat : Chat
  attached : Bool
  route : Option Route
  tags : List String
  updatedAt : String

structure GroupState where
  chat : Chat
  enabled : Bool
  attached : Bool
  route : Option Route
  targetType : String := ""
  targetId : RowId := ""
  targetName : String := ""
  updatedAt : String

/-- The user of the backend that a private chat is bound to. -/
structure PlatformBinding where
  chat : Chat
  platformUserId : RowId
  platformUsername : String

structure CachedTarget where
  targetType : String
  targetId : RowId
  name : String
  createdAt : String
  updatedAt : String
  tags : List String

instance : Keyed PrivateBinding Chat := ⟨PrivateBinding.chat⟩
instance : Keyed GroupState Chat := ⟨GroupState.chat⟩
instance : Keyed PlatformBinding Chat := ⟨PlatformBinding.chat⟩
instance : Keyed CachedTarget RowId := ⟨CachedTarget.targetId⟩

@[simp] lemma key_privateBinding (b : PrivateBinding) : key b = b.chat := rfl

@[simp] lemma key_groupState (g : GroupState) : key g = g.chat := rfl

/-- The dicts of `routes.json`. -/
structure RouteStore where
  bindings : List PrivateBinding := []
  groupStates : List GroupState := []
  platformBindings : List PlatformBinding := []
  targets : List CachedTarget := []

namespace RouteStore

def saveBinding (store : RouteStore) (b : PrivateBinding) : RouteStore :=
  { store with bindings := put store.bindings b }

def saveGroupState (store : RouteStore) (g : GroupState) : RouteStore :=
  { store with groupStates := put store.groupStates g }

def savePlatformBinding (store : RouteStore) (b : PlatformBinding) : RouteStore :=
  { store with platformBindings := put store.platformBindings b }

def clearPlatformBinding (store : RouteStore) (chat : Chat) : RouteStore :=
  { store with platformBindings := store.platformBindings.filter fun b => b.chat ≠ chat }

end RouteStore

def Route.retagged (tags : List String) (route : Route) : Route :=
  { route with metadataJson := { route.metadataJson with tags := tags } }

namespace RouteStore

def updateBindingTags (store : RouteStore) (chat : Chat) (tags : List String) (now : String) :
    RouteStore :=
  match get store.bindings chat with
  | none => store
  | some b => store.saveBinding
      { b with
        tags := tags
        updatedAt := now
        route := b.route.map (Route.retagged tags) }

/-- `a or b or c` of texts. -/
def firstText (texts : List String) : String := (texts.find? fun s => s ≠ "").getD ""

def upsertTarget (store : RouteStore) (targetType : String) (targetId : RowId) (name : String)
    (tags : Option (List String)) (now : String) : RouteStore :=
  let current := get store.targets targetId
  let target : CachedTarget :=
    { targetType := targetType
      targetId := targetId
      name := firstText [name, (current.map CachedTarget.name).getD "", targetId]
      createdAt := firstText [(current.map CachedTarget.createdAt).getD "", now]
      updatedAt := now
      tags := tags.getD ((current.map CachedTarget.tags).getD []) }
  { store with targets := put store.targets target }

def listTargets (store : RouteStore) : List CachedTarget :=
  orderBy (fun target => OrderDual.toDual target.updatedAt) store.targets

/-- The route a chat's messages take. -/
def attachedRoute (store : RouteStore) (kind : ConversationKind) (chat : Chat) : Option Route :=
  match kind with
  | .privateChat => (get store.bindings chat).bind fun b => if b.attached then b.route else none
  | .groupChat =>
    (get store.groupStates chat).bind fun g => if g.enabled && g.attached then g.route else none

end RouteStore

def buildRoute (targetType : String) (targetId : RowId) (kind : ConversationKind) (chat : Chat)
    (tags : List String) : Route where
  targetType := targetType
  targetId := targetId
  metadataJson :=
    { platform := PLUGIN_PLATFORM
      conversationKind := kind.text
      externalAccountId := chat.accountId
      externalConversationId := chat.conversationId
      tags := tags }

/-! ## The backend -/

/-- What names the chat in the backend. -/
def conversationOf (kind : ConversationKind) (chat : Chat) : ImConversation where
  externalPlatform := PLUGIN_PLATFORM
  conversationKind := kind.text
  externalAccountId := chat.accountId
  externalConversationId := chat.conversationId

def jsonOfTags (tags : List String) : JsonValue := .arr (tags.map JsonValue.str)

def RouteMetadata.toJson (metadata : RouteMetadata) : JsonDict := .ofList
  [("platform", .str metadata.platform),
   ("conversation_kind", .str metadata.conversationKind),
   ("external_account_id", .str metadata.externalAccountId),
   ("external_conversation_id", .str metadata.externalConversationId),
   ("tags", jsonOfTags metadata.tags)]

/-- The conversation `_upsert_backend_route` names. -/
def Route.conversation (route : Route) : ImConversation where
  externalPlatform := strip route.metadataJson.platform
  conversationKind := strip route.metadataJson.conversationKind
  externalAccountId := strip route.metadataJson.externalAccountId
  externalConversationId := strip route.metadataJson.externalConversationId

def Route.target (route : Route) : RouteTarget where
  targetType := strip route.targetType
  targetId := strip route.targetId
  metadataJson := route.metadataJson.toJson

/-- The bridge's store and the backend's tables. -/
structure BridgeState where
  store : RouteStore := {}
  backend : ImTables := {}

/-- Whom the bridge asks for. -/
inductive Identity where
  | userId (id : RowId)
  | username (name : String)

def Identity.payload : Identity → JsonDict
  | .userId id => .ofList [("user_id", .str id)]
  | .username name => .ofList [("username", .str name)]

structure BridgeConfig where
  defaultOwnerUsername : String
  casefold : String → String

/-- A target as the commands see it. -/
structure Item where
  targetType : String
  targetId : RowId
  name : String
  tags : List String
  createdAt : String

/-- A command: who sends it and when, and what comes of its RPC requests, an exception's text or
nothing. -/
structure Call where
  sender : Chat
  now : String
  listing : Option String := none
  route : Option String := none
  /-- The key of a route the backend may insert. -/
  newId : RowId

/-- What a command answers. -/
inductive Reply where
  | failed (text : String)
  | done (text : String)
  /-- A page of targets; `fetchError` says why they are cached ones. -/
  | page (items : List Item) (page totalPages : ℕ) (fetchError : String)

/-- The command reports success. -/
def Reply.Success : Reply → Prop
  | .failed _ => False
  | .done _ => True
  | .page _ _ _ _ => True

instance (reply : Reply) : Decidable reply.Success := by
  cases reply <;> unfold Reply.Success <;> infer_instance

/-- The targets it lists. -/
def Reply.items : Reply → List Item
  | .page items _ _ _ => items
  | _ => []

inductive AttachMode where
  | byId
  | byName

inductive TagEdit where
  | list
  | add (values : List String)
  | remove (values : List String)
  | clear

/-- The tags after `/tag`. -/
def TagEdit.apply : TagEdit → List String → List String
  | .list, tags => tags
  | .add values, tags => (tags ++ values).eraseDups
  | .remove values, tags => tags.filter fun tag => tag ∉ values
  | .clear, _ => []

inductive Command where
  /-- `user` is the answer of `verify_user_binding`. -/
  | bind (user : Except String (RowId × String))
  | unbind
  | list (cocoonsOnly : Bool) (page : ℕ)
  /-- `created` is the answer of `create_cocoon` or `create_chat_group`. -/
  | create (targetType name : String) (created : Except String (RowId × String))
  | attach (mode : AttachMode) (value : String)
  | detach
  | tag (edit : TagEdit)
  | opGroupEnable (group : Chat)
  | opGroupAttach (group : Chat) (chatGroupId : RowId)
  | opGroupDetach (group : Chat)
  | opGroupDisable (group : Chat)

inductive Event where
  | command (call : Call) (command : Command)
  /-- The bridge starts again; `refused` tells the requests that fail. -/
  | restart (refused : ImConversation → Bool) (newIds : ImConversation → RowId)
  /-- Something else changes in the backend. -/
  | backendChanges (tables : ImTables)

section Handlers

variable (out : RpcOutside) (config : BridgeConfig) (pluginId : RowId)

/-! ## Accessible targets -/

def ownerLookupIdentity (store : RouteStore) (sender : Chat) : Identity :=
  match (get store.platformBindings sender).filter fun b => b.platformUserId ≠ "" with
  | some b => .userId b.platformUserId
  | none => .username config.defaultOwnerUsername

/-- The user an identity is resolved to in the backend. -/
def resolveIdentity (t : ImTables) (identity : Identity) : Except PyError User :=
  resolveRpcUser out t.accounts.users identity.payload "user_id" "username" "user"

/-- Type and id of the targets that are accessible to an identity. -/
def accessibleTo (t : ImTables) (identity : Identity) : List (String × RowId) :=
  match resolveIdentity out t identity with
  | .error _ => []
  | .ok user => (accessibleTargets out t user).map fun target =>
    (targetTypeOf target, strip (targetIdOf target))

/-- An item of the list for an accessible target. -/
def itemOf (store : RouteStore) (target : Target) : Item :=
  let id := strip (targetIdOf target)
  let known := get store.targets id
  { targetType := targetTypeOf target
    targetId := id
    name := RouteStore.firstText [strip (RouteStore.firstText
      [out.nameOf (targetIdOf target), (known.map CachedTarget.name).getD "", id]), id]
    tags := (known.map CachedTarget.tags).getD []
    createdAt := out.isoformat (out.createdAt (targetIdOf target)) }

/-- The loop of `_fetch_accessible_targets`: every target is cached. -/
def rememberTargets (now : String) : RouteStore → List Target → RouteStore × List Item
  | store, [] => (store, [])
  | store, target :: targets =>
    let item := itemOf out store target
    if item.targetId = "" then rememberTargets now store targets
    else
      let rest := rememberTargets now
        (store.upsertTarget item.targetType item.targetId item.name none now) targets
      (rest.1, item :: rest.2)

def newestFirst (items : List Item) : List Item :=
  orderBy (fun item => OrderDual.toDual item.createdAt) items

def fetchAccessibleTargets (s : BridgeState) (call : Call) :
    RouteStore × Except String (List Item) :=
  match call.listing,
      resolveIdentity out s.backend (ownerLookupIdentity config s.store call.sender) with
  | some error, _ => (s.store, .error error)
  | none, .error error => (s.store, .error (strOf out error))
  | none, .ok user =>
    let fetched := rememberTargets out call.now s.store (accessibleTargets out s.backend user)
    (fetched.1, .ok (newestFirst fetched.2))

def CachedTarget.item (target : CachedTarget) : Item where
  targetType := target.targetType
  targetId := target.targetId
  name := target.name
  tags := target.tags
  createdAt := target.createdAt

/-- The cached targets, for when the list cannot be fetched. -/
def cachedItems (store : RouteStore) : List Item := store.listTargets.map CachedTarget.item

def listAttachCandidates (s : BridgeState) (call : Call) (allowedType : String) :
    RouteStore × List Item :=
  let fetched := fetchAccessibleTargets out config s call
  let items :=
    match fetched.2 with
    | .ok items => items
    | .error _ => cachedItems s.store
  (fetched.1, newestFirst (items.filter fun item => item.targetType = allowedType))

/-- The item is what the command names. -/
def AttachMode.names (mode : AttachMode) (value : String) (item : Item) : Bool :=
  match mode with
  | .byId => strip item.targetId = value
  | .byName => config.casefold (strip item.name) = config.casefold value

/-- `_resolve_attach_target` among the candidates. -/
def resolveAttachTarget (candidates : List Item) (mode : AttachMode) (value : String) :
    Except String (Option Item) :=
  match candidates.filter (mode.names config value), mode with
  | [], _ => .ok none
  | [item], _ => .ok (some item)
  | _, .byName => .error "Multiple targets share that name. Use /attach id <id>."
  | _, .byId => .error "Multiple targets share that id. Check /list targets."

/-- `_resolve_target_by_id` among the candidates. -/
def resolveTargetById (candidates : List Item) (targetId : RowId) : Option Item :=
  candidates.find? fun item => strip item.targetId = strip targetId

/-! ## Routes -/

def upsertBackendRoute (t : ImTables) (failure : Option String) (newId : RowId) (route : Route) :
    Except String ImTables :=
  match failure with
  | some error => .error error
  | none => .ok (t.upsertRoute { out with newId := newId } pluginId route.conversation route.target)

def deleteBackendRoute (t : ImTables) (failure : Option String) (kind : ConversationKind)
    (chat : Chat) : Except String ImTables :=
  match failure with
  | some error => .error error
  | none =>
    match findRoute t.imTargetRoutes pluginId (conversationOf kind chat) with
    | none => .ok t
    | some route => .ok (t.deleteRoute route)

/-! ## Commands -/

def commandBind (s : BridgeState) (call : Call) (user : Except String (RowId × String)) :
    Reply × BridgeState :=
  match user with
  | .error error => (.failed ("Bind failed: " ++ error), s)
  | .ok (userId, username) =>
    (.done ("Bound platform user: " ++ username),
      { s with store := s.store.savePlatformBinding ⟨call.sender, userId, username⟩ })

def commandUnbind (s : BridgeState) (call : Call) : Reply × BridgeState :=
  (.done "Platform binding cleared.",
    { s with store := s.store.clearPlatformBinding call.sender })

/-- `_command_create` from the creating request on. -/
def commandCreate (s : BridgeState) (call : Call) (targetType name : String)
    (created : Except String (RowId × String)) : Reply × BridgeState :=
  match created with
  | .error error => (.failed error, s)
  | .ok (id, createdName) =>
    let name := RouteStore.firstText [createdName, name]
    (.done ("Created " ++ targetType ++ ": " ++ name),
      { s with store := s.store.upsertTarget targetType id name none call.now })

def LIST_PAGE_SIZE : ℕ := 10

/-- `_paginate_items`: the items of the page, the page, and how many there are. -/
def paginateItems (items : List Item) (page : ℕ) : List Item × ℕ × ℕ :=
  let totalPages := max ((items.length + LIST_PAGE_SIZE - 1) / LIST_PAGE_SIZE) 1
  let currentPage := min (max page 1) totalPages
  ((items.drop ((currentPage - 1) * LIST_PAGE_SIZE)).take LIST_PAGE_SIZE, currentPage, totalPages)

/-- `_render_target_page`. -/
def targetPage (label : String) (items : List Item) (page : ℕ) (fetchError : String) : Reply :=
  if items = [] ∧ fetchError ≠ "" then .failed ("Failed to fetch " ++ label ++ ": " ++ fetchError)
  else if items = [] then .done ("No " ++ label ++ " available.")
  else
    let paged := paginateItems items page
    .page paged.1 paged.2.1 paged.2.2 fetchError

/-- The items `/list` goes through. -/
def listed (cocoonsOnly : Bool) (items : List Item) : List Item :=
  if cocoonsOnly then items.filter fun item => item.targetType = "cocoon" else items

def commandList (s : BridgeState) (call : Call) (cocoonsOnly : Bool) (page : ℕ) :
    Reply × BridgeState :=
  let fetched := fetchAccessibleTargets out config s call
  let label := if cocoonsOnly then "cocoons" else "targets"
  let reply :=
    match fetched.2 with
    | .ok items => targetPage label (listed cocoonsOnly items) page ""
    | .error error => targetPage label (listed cocoonsOnly (cachedItems s.store)) page
        (RouteStore.firstText [strip error, "unknown error"])
  (reply, { s with store := fetched.1 })

/-- The end of `_command_attach`, when the target is found. -/
def attachTo (s : BridgeState) (call : Call) (item : Item) : Reply × BridgeState :=
  let tags := ((get s.store.bindings call.sender).map PrivateBinding.tags).getD []
  let route := buildRoute "cocoon" item.targetId .privateChat call.sender tags
  match upsertBackendRoute out pluginId s.backend call.route call.newId route with
  | .error error => (.failed ("Failed to sync route: " ++ error), s)
  | .ok backend =>
    let name := RouteStore.firstText [item.name, item.targetId]
    (.done ("Attached to cocoon: " ++ name),
      { store :=
          (s.store.saveBinding ⟨call.sender, true, some route, tags, call.now⟩).upsertTarget
          "cocoon" item.targetId name none call.now
        backend := backend })

def commandAttach (s : BridgeState) (call : Call) (mode : AttachMode) (value : String) :
    Reply × BridgeState :=
  let candidates := listAttachCandidates out config s call "cocoon"
  let s := { s with store := candidates.1 }
  match resolveAttachTarget config candidates.2 mode value with
  | .error error => (.failed error, s)
  | .ok none => (.failed "Target not found. Use /list and then /attach id <id>.", s)
  | .ok (some item) => attachTo out pluginId s call item

def commandDetach (s : BridgeState) (call : Call) : Reply × BridgeState :=
  match get s.store.bindings call.sender with
  | none => (.failed "No active private attachment.", s)
  | some b =>
    if b.route = none then (.failed "No active private attachment.", s)
    else
      match deleteBackendRoute pluginId s.backend call.route .privateChat call.sender with
      | .error error => (.failed ("Failed to sync route: " ++ error), s)
      | .ok backend => (.done "Private attachment removed.",
          { store := s.store.saveBinding { b with attached := false, updatedAt := call.now }
            backend := backend })

/-- The answer of `/tag`. -/
def tagsText (tags : List String) : String :=
  "tags: " ++ RouteStore.firstText [String.intercalate ", " tags, "-"]

/-- `_command_tag`: only the store is written. -/
def commandTag (s : BridgeState) (call : Call) (edit : TagEdit) : Reply × BridgeState :=
  match get s.store.bindings call.sender with
  | none => (.failed "No private target is attached.", s)
  | some b =>
    match b.route, edit with
    | none, _ => (.failed "No private target is attached.", s)
    | some _, .list => (.done (tagsText b.tags), s)
    | some route, edit =>
      let nextTags := edit.apply b.tags
      let store := s.store.updateBindingTags call.sender nextTags call.now
      let store :=
        match get store.targets route.targetId with
        | none => store
        | some target => store.upsertTarget
            (RouteStore.firstText [target.targetType, route.targetType]) route.targetId
            (RouteStore.firstText [target.name, route.targetId]) (some nextTags) call.now
      (.done (tagsText nextTags), { s with store := store })

/-- A group that is attached to nothing. -/
def looseGroup (group : Chat) (enabled : Bool) (now : String) : GroupState where
  chat := group
  enabled := enabled
  attached := false
  route := none
  updatedAt := now

/-- `_command_op_group_enable`: only the store is written. -/
def commandOpGroupEnable (s : BridgeState) (call : Call) (group : Chat) : Reply × BridgeState :=
  (.done ("Enabled IM group: " ++ group.conversationId),
    { s with store := s.store.saveGroupState (looseGroup group true call.now) })

/-- The end of `_command_op_group_attach`, when the chat group is found. -/
def attachGroupTo (s : BridgeState) (call : Call) (group : Chat) (chatGroupId : RowId)
    (item : Item) : Reply × BridgeState :=
  let route := buildRoute "chat_group" chatGroupId .groupChat group []
  match upsertBackendRoute out pluginId s.backend call.route call.newId route with
  | .error error => (.failed ("Failed to sync route: " ++ error), s)
  | .ok backend =>
    let name := RouteStore.firstText [item.name, chatGroupId]
    (.done ("Attached IM group " ++ group.conversationId ++ " to chat_group " ++ name),
      { store := (s.store.upsertTarget "chat_group" chatGroupId name none call.now).saveGroupState
          { chat := group
            enabled := true
            attached := true
            route := some route
            targetType := "chat_group"
            targetId := chatGroupId
            targetName := name
            updatedAt := call.now }
        backend := backend })

/-- The group has been enabled. -/
def isEnabled (store : RouteStore) (group : Chat) : Bool :=
  (get store.groupStates group).any GroupState.enabled

def commandOpGroupAttach (s : BridgeState) (call : Call) (group : Chat) (chatGroupId : RowId) :
    Reply × BridgeState :=
  let chatGroupId := strip chatGroupId
  if ¬ isEnabled s.store group then
    (.failed "IM group is not enabled. Use /op group enable first.", s)
  else
    let candidates := listAttachCandidates out config s call "chat_group"
    let s := { s with store := candidates.1 }
    match resolveTargetById candidates.2 chatGroupId with
    | none => (.failed "Chat group not found or not visible.", s)
    | some item => attachGroupTo out pluginId s call group chatGroupId item

def commandOpGroupDetach (s : BridgeState) (call : Call) (group : Chat) : Reply × BridgeState :=
  match (get s.store.groupStates group).filter GroupState.enabled with
  | none => (.failed "IM group is not enabled.", s)
  | some g =>
    if g.attached = false ∨ g.route = none then (.failed "IM group is not attached.", s)
    else
      match deleteBackendRoute pluginId s.backend call.route .groupChat group with
      | .error error => (.failed ("Failed to sync route: " ++ error), s)
      | .ok backend => (.done ("Detached IM group: " ++ group.conversationId),
          { store := s.store.saveGroupState (looseGroup group true call.now)
            backend := backend })

/-- The group has a route, whether it is enabled or not. -/
def hasRoute (store : RouteStore) (group : Chat) : Bool :=
  (get store.groupStates group).any fun g => g.attached && g.route.isSome

def commandOpGroupDisable (s : BridgeState) (call : Call) (group : Chat) : Reply × BridgeState :=
  let deleted :=
    if hasRoute s.store group then
      deleteBackendRoute pluginId s.backend call.route .groupChat group
    else .ok s.backend
  match deleted with
  | .error error => (.failed ("Failed to sync route: " ++ error), s)
  | .ok backend => (.done ("Disabled IM group: " ++ group.conversationId),
      { store := s.store.saveGroupState (looseGroup group false call.now), backend := backend })

/-- What a command answers and leaves. -/
def handleCommand (s : BridgeState) (call : Call) : Command → Reply × BridgeState
  | .bind user => commandBind s call user
  | .unbind => commandUnbind s call
  | .list cocoonsOnly page => commandList out config s call cocoonsOnly page
  | .create targetType name created => commandCreate s call targetType name created
  | .attach mode value => commandAttach out config pluginId s call mode value
  | .detach => commandDetach pluginId s call
  | .tag edit => commandTag s call edit
  | .opGroupEnable group => commandOpGroupEnable s call group
  | .opGroupAttach group chatGroupId =>
    commandOpGroupAttach out config pluginId s call group chatGroupId
  | .opGroupDetach group => commandOpGroupDetach pluginId s call group
  | .opGroupDisable group => commandOpGroupDisable pluginId s call group

/-! ## Restarts -/

/-- One turn of the loops of `_sync_attached_routes`. -/
def syncRoute (refused : ImConversation → Bool) (newIds : ImConversation → RowId) (t : ImTables)
    (route : Route) : ImTables :=
  if refused route.conversation then t
  else t.upsertRoute { out with newId := newIds route.conversation } pluginId route.conversation
    route.target

/-- The routes `_sync_attached_routes` sends. -/
def attachedRoutes (store : RouteStore) : List Route :=
  ((orderBy (fun b => OrderDual.toDual b.updatedAt) store.bindings).filterMap fun b =>
      if b.attached then b.route else none) ++
    (orderBy (fun g => OrderDual.toDual g.updatedAt) store.groupStates).filterMap fun g =>
      if g.enabled && g.attached then g.route else none

def syncAttachedRoutes (refused : ImConversation → Bool) (newIds : ImConversation → RowId)
    (s : BridgeState) : BridgeState :=
  let sync := syncRoute out pluginId refused newIds
  { s with backend := (attachedRoutes s.store).foldl sync s.backend }

/-- The command may have the backend insert a route. -/
def Command.routes : Command → Bool
  | .attach _ _ | .opGroupAttach _ _ => true
  | _ => false

/-- Keys of routes are drawn fresh; what else changes in the backend leaves the routes. -/
def step (s : BridgeState) : Event → Option BridgeState
  | .command call command =>
    if command.routes ∧ call.newId ∈ s.backend.imTargetRoutes.map key then none
    else some (handleCommand out config pluginId s call command).2
  | .restart refused newIds => some (syncAttachedRoutes out pluginId refused newIds s)
  | .backendChanges tables =>
    let backend := { tables with imTargetRoutes := s.backend.imTargetRoutes }
    some { s with backend := backend }

end Handlers

end Bridge

end CocoonSit
