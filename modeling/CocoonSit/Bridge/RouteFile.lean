import CocoonSit.Lib.Run
import CocoonSit.Model.PyValues
import CocoonSit.Model.Python

/-!
# The route file of the bridge

`RouteStore` of `nbbridge/store.py`: the dicts that the bridge keeps in `routes.json`, how they are
read from a file of any of the three formats, the operations, and what the bridge reads of them.
A pair of an account and a conversation is one key, the two texts with a colon between them.

The clock, and how Python prints a value that is no text, are given.
-/

namespace CocoonSit.RouteFile

open PyDict PyValue

instance : Table.Keyed (String × PyDict) String := ⟨Prod.fst⟩

section Model

variable (pyStr : PyValue → String) (now : String)

/-- `_payload`; `otherBindings` are the buckets of `bindings` besides the two that are read. -/
structure Payload where
  privateBindings : PyDict := []
  groupBindings : PyDict := []
  otherBindings : List (String × PyDict) := []
  targets : PyDict := []
  platformBindings : PyDict := []
  groupStates : PyDict := []
  opUserIds : List String := []

/-! ## Loading -/

/-- `str(d.get(k) or "").strip()`. -/
def strippedField (d : PyDict) (k : String) : String := strip (textOr pyStr "" (d.field k))

/-- The entries of `op_user_ids` that are not blank. -/
def opUserIdsOf (items : List PyValue) : List String :=
  (items.map fun item => strip (textOf pyStr item)).filter (· ≠ "")

/-- The group state of a binding with a route. -/
def boundState (fields route target : PyDict) : PyValue :=
  let targetId := strippedField pyStr route "target_id"
  let name := strip (textOr pyStr targetId (target.field "name"))
  .dict
    [(.text "enabled", .bool true),
     (.text "attached", .bool ((fields.field "attached").any truthy)),
     (.text "route", .dict route),
     (.text "target_type", .str (strippedField pyStr route "target_type")),
     (.text "target_id", .str targetId),
     (.text "target_name", .str (if name = "" then targetId else name)),
     (.text "updated_at", .str (textOr pyStr now (fields.field "updated_at")))]

/-- The state that `_migrate_group_bindings_to_states` makes of a binding, `some none` where it
skips it. -/
def migratedState (targets : PyDict) (value : PyValue) : Option (Option PyValue) :=
  match value with
  | .dict fields => do
      let route ← dictOf (field fields "route")
      if route.isEmpty then some none
      else
        let target ← dictOf (targets.field (strippedField pyStr route "target_id"))
        some (some (boundState pyStr now fields route target))
  | _ => some none

/-- `_migrate_group_bindings_to_states`. -/
def migrateGroupBindings (groupBindings targets : PyDict) : Option PyDict :=
  groupBindings.foldlM
    (fun states entry => do
      let state ← migratedState pyStr now targets entry.2
      some (state.elim states (states.set entry.1)))
    []

/-- The group states of a file that has none are made from its group bindings. -/
def statesOf (groupBindings targets groupStates : PyDict) : Option PyDict :=
  if groupStates.isEmpty then migrateGroupBindings pyStr now groupBindings targets
  else some groupStates

/-- `_load` of a file with `bindings`. -/
def loadBindings (payload : PyDict) : Option Payload := do
  let bindings ← fieldsOf (payload.field "bindings")
  let privateBindings ← dictOf (bindings.field "private")
  let groupBindings ← dictOf (bindings.field "group")
  let targets ← dictOf (payload.field "targets")
  let platformBindings ← dictOf (payload.field "platform_bindings")
  let groupStates ← dictOf (payload.field "group_states")
  let opUserIds ← listOf (payload.field "op_user_ids")
  let states ← statesOf pyStr now groupBindings targets groupStates
  some
    { privateBindings, groupBindings, targets, platformBindings
      groupStates := states
      opUserIds := opUserIdsOf pyStr opUserIds }

/-- The route of an entry of the first format. -/
def legacyRoute (value metadataJson : PyDict) : PyDict :=
  [(.text "target_type", .str (strippedField pyStr value "target_type")),
   (.text "target_id", .str (strippedField pyStr value "target_id")),
   (.text "metadata_json", .dict metadataJson)]

/-- The binding that an entry of `private` becomes. -/
def legacyBinding (value metadataJson : PyDict) (tags : List PyValue) : PyValue :=
  .dict
    [(.text "attached", .bool true),
     (.text "route", .dict (legacyRoute pyStr value metadataJson)),
     (.text "tags", .list tags),
     (.text "updated_at", .str now)]

/-- The state that an entry of `group` becomes. -/
def legacyState (value metadataJson : PyDict) : PyValue :=
  .dict
    [(.text "enabled", .bool true),
     (.text "attached", .bool true),
     (.text "route", .dict (legacyRoute pyStr value metadataJson)),
     (.text "target_type", .str (strippedField pyStr value "target_type")),
     (.text "target_id", .str (strippedField pyStr value "target_id")),
     (.text "target_name", .str (strippedField pyStr value "target_id")),
     (.text "updated_at", .str now)]

/-- The target that is remembered for an entry with a target id. -/
def legacyTarget (value : PyDict) (tags : List PyValue) : PyValue :=
  .dict
    [(.text "target_type", .str (strippedField pyStr value "target_type")),
     (.text "target_id", .str (strippedField pyStr value "target_id")),
     (.text "name", .str (strippedField pyStr value "target_id")),
     (.text "created_at", .str now),
     (.text "updated_at", .str now),
     (.text "tags", .list tags)]

/-- `migrated["targets"][target_id] = …`. -/
def rememberTarget (value : PyDict) (tags : Option PyValue) (migrated : Payload) :
    Option Payload :=
  if strippedField pyStr value "target_id" = "" then some migrated
  else do
    let tags ← listOf tags
    some { migrated with
      targets := migrated.targets.set (.text (strippedField pyStr value "target_id"))
        (legacyTarget pyStr now value tags) }

/-- The fields of an entry of the first format. -/
def legacyFields : PyValue → Option PyDict
  | .dict value =>
    if (field value "target_type").isSome && (field value "target_id").isSome then some value
    else none
  | _ => none

/-- A turn of `_migrate_legacy_payload` over `private`. -/
def migratePrivate (migrated : Payload) (entry : PyKey × PyValue) : Option Payload :=
  match legacyFields entry.2 with
  | none => some migrated
  | some value => do
      let metadataJson ← dictOf (value.field "metadata_json")
      let tags ← listOf (metadataJson.field "tags")
      rememberTarget pyStr now value (metadataJson.field "tags")
        { migrated with
          privateBindings := migrated.privateBindings.set entry.1
            (legacyBinding pyStr now value metadataJson tags) }

/-- A turn of `_migrate_legacy_payload` over `group`. -/
def migrateGroup (migrated : Payload) (entry : PyKey × PyValue) : Option Payload :=
  match legacyFields entry.2 with
  | none => some migrated
  | some value => do
      let metadataJson ← dictOf (value.field "metadata_json")
      rememberTarget pyStr now value (metadataJson.field "tags")
        { migrated with
          groupStates := migrated.groupStates.set entry.1
            (legacyState pyStr now value metadataJson) }

/-- The items of a bucket that is a `dict`. -/
def bucketOf : Option PyValue → PyDict
  | some (.dict bucket) => bucket
  | _ => []

def migrateLegacyPayload (payload : PyDict) : Option Payload := do
  let migrated ← (bucketOf (payload.field "private")).foldlM (migratePrivate pyStr now) {}
  (bucketOf (payload.field "group")).foldlM (migrateGroup pyStr now) migrated

/-- `_load`: `none` where it raises; the content is `none` where there is no file, or none that can
be parsed. -/
def load : Option PyValue → Option Payload
  | some (.dict payload) =>
    if (field payload "bindings").isSome then loadBindings pyStr now payload
    else migrateLegacyPayload pyStr now payload
  | _ => some {}

/-! ## Saving -/

/-- `_payload` as a value. -/
def Payload.value (s : Payload) : PyValue :=
  .dict
    [(.text "bindings", .dict
      ((.text "private", .dict s.privateBindings) :: (.text "group", .dict s.groupBindings) ::
        s.otherBindings.map fun bucket => (.text bucket.1, .dict bucket.2))),
     (.text "targets", .dict s.targets),
     (.text "platform_bindings", .dict s.platformBindings),
     (.text "group_states", .dict s.groupStates),
     (.text "op_user_ids", .list (s.opUserIds.map .str))]

/-- `_save`: the content of the file. -/
def Payload.save (s : Payload) : PyValue := dumped s.value

/-! ## Operations -/

def bindingKey (accountId conversationId : String) : String := accountId ++ ":" ++ conversationId

/-- The bucket of a kind. -/
def Payload.bucket (s : Payload) (messageKind : String) : PyDict :=
  if messageKind = "private" then s.privateBindings
  else if messageKind = "group" then s.groupBindings
  else ((Table.get s.otherBindings messageKind).map Prod.snd).getD []

/-- `bindings[message_kind] = bucket`. -/
def Payload.setBucket (s : Payload) (messageKind : String) (bucket : PyDict) : Payload :=
  if messageKind = "private" then { s with privateBindings := bucket }
  else if messageKind = "group" then { s with groupBindings := bucket }
  else { s with otherBindings := Table.put s.otherBindings (messageKind, bucket) }

/-- `get_binding`; `some none` where there is none. -/
def Payload.getBinding (s : Payload) (messageKind accountId conversationId : String) :
    Option (Option PyDict) :=
  (dictOf ((s.bucket messageKind).field (bindingKey accountId conversationId))).map fun binding =>
    if binding.isEmpty then none else some binding

def Payload.getGroupState (s : Payload) (accountId conversationId : String) :
    Option (Option PyDict) :=
  (dictOf (s.groupStates.field (bindingKey accountId conversationId))).map fun state =>
    if state.isEmpty then none else some state

/-- `dict(route or {}) if route else None`. -/
def routeValue (route : Option PyDict) : PyValue :=
  match route with
  | none | some [] => .null
  | some route => .dict route

def Payload.saveBinding (s : Payload) (messageKind accountId conversationId : String)
    (route : Option PyDict) (attached : Bool) (tags : List String) : Payload :=
  s.setBucket messageKind ((s.bucket messageKind).set (.text (bindingKey accountId conversationId))
    (.dict
      [(.text "attached", .bool attached),
       (.text "route", routeValue route),
       (.text "tags", .list (tags.map .str)),
       (.text "updated_at", .str now)]))

/-- The binding with these tags. -/
def retagged (binding : PyDict) (tags : List String) : Option PyDict := do
  let current := (binding.set (.text "tags") (.list (tags.map .str))).set (.text "updated_at")
    (.str now)
  let route ← dictOf (current.field "route")
  if route.isEmpty then some current
  else
    let metadataJson ← dictOf (route.field "metadata_json")
    let metadataJson := metadataJson.set (.text "tags") (.list (tags.map .str))
    some (current.set (.text "route") (.dict (route.set (.text "metadata_json")
      (.dict metadataJson))))

def Payload.updateBindingTags (s : Payload) (messageKind accountId conversationId : String)
    (tags : List String) : Option Payload := do
  let binding ← dictOf ((s.bucket messageKind).field (bindingKey accountId conversationId))
  if binding.isEmpty then some (s.setBucket messageKind (s.bucket messageKind))
  else
    let current ← retagged now binding tags
    some (s.setBucket messageKind ((s.bucket messageKind).set
      (.text (bindingKey accountId conversationId)) (.dict current)))

/-- `d.get(k) or default`. -/
def valueOr (default : PyValue) (v : Option PyValue) : PyValue := (v.filter truthy).getD default

def Payload.upsertTarget (s : Payload) (targetType targetId name : String)
    (tags : Option (List String)) : Option Payload := do
  let current ← dictOf (s.targets.field targetId)
  let tags ← listOf (tags.elim (current.field "tags") fun tags => some (.list (tags.map .str)))
  some { s with
    targets := s.targets.set (.text targetId) (.dict
      [(.text "target_type", .str targetType),
       (.text "target_id", .str targetId),
       (.text "name", if name ≠ "" then .str name
        else valueOr (.str targetId) (current.field "name")),
       (.text "created_at", valueOr (.str now) (current.field "created_at")),
       (.text "updated_at", .str now),
       (.text "tags", .list tags)]) }

def Payload.savePlatformBinding (s : Payload) (accountId conversationId platformUserId
    platformUsername : String) : Payload :=
  { s with
    platformBindings := s.platformBindings.set (.text (bindingKey accountId conversationId)) (.dict
      [(.text "platform_user_id", .str platformUserId),
       (.text "platform_username", .str platformUsername),
       (.text "updated_at", .str now)]) }

def Payload.clearPlatformBinding (s : Payload) (accountId conversationId : String) : Payload :=
  { s with
    platformBindings := s.platformBindings.filter fun f =>
      f.1 ≠ .text (bindingKey accountId conversationId) }

def Payload.saveGroupState (s : Payload) (accountId conversationId : String)
    (enabled attached : Bool) (route : Option PyDict)
    (targetType targetId targetName : Option String) : Option Payload := do
  let current ← s.getGroupState accountId conversationId
  let kept (given : Option String) (k : String) : PyValue :=
    .str (strip (given.getD (textOr pyStr "" ((current.getD []).field k))))
  some { s with
    groupStates := s.groupStates.set (.text (bindingKey accountId conversationId)) (.dict
      [(.text "enabled", .bool enabled),
       (.text "attached", .bool attached),
       (.text "route", routeValue route),
       (.text "target_type", kept targetType "target_type"),
       (.text "target_id", kept targetId "target_id"),
       (.text "target_name", kept targetName "target_name"),
       (.text "updated_at", .str now)]) }

def Payload.addOpUserId (s : Payload) (userId : String) : Payload :=
  if strip userId = "" then s
  else
    let current := opUserIdsOf pyStr (s.opUserIds.map .str)
    { s with
      opUserIds := if strip userId ∈ current then current else current ++ [strip userId] }

def Payload.removeOpUserId (s : Payload) (userId : String) : Payload :=
  { s with
    opUserIds := (opUserIdsOf pyStr (s.opUserIds.map .str)).filter (· ≠ strip userId) }

/-! ## Reading -/

/-- `key.split(":", 1) if ":" in key else (key, "")`. -/
def splitKey (key : String) : String × String :=
  (String.ofList (key.toList.takeWhile (· ≠ ':')),
    String.ofList ((key.toList.dropWhile (· ≠ ':')).drop 1))

/-- An item of `list_bindings` or `list_group_states`. -/
structure Listed where
  accountId : String
  conversationId : String
  value : PyDict

/-- The items of a bucket, before they are sorted; `none` where a key is no text, or a value no
`dict`. -/
def listBucket (bucket : PyDict) : Option (List Listed) :=
  bucket.mapM fun entry =>
    match entry.1 with
    | .text k => (dictOf (some entry.2)).map fun value =>
      { accountId := (splitKey k).1, conversationId := (splitKey k).2, value }
    | _ => none

/-- `ImInboundRoute`. -/
structure InboundRoute where
  targetType : String
  targetId : String
  metadataJson : PyDict

/-- `ImInboundRoute(…)` of a route, `some none` where it is empty. -/
def inboundRoute (route : PyDict) : Option (Option InboundRoute) :=
  if route.isEmpty then some none
  else (dictOf (route.field "metadata_json")).map fun metadataJson => some
    { targetType := textOr pyStr "" (route.field "target_type")
      targetId := textOr pyStr "" (route.field "target_id")
      metadataJson }

/-- A field of a binding is true. -/
def isSet (binding : PyDict) (k : String) : Bool := (binding.field k).any truthy

/-- `_binding_route` of a group's state. -/
def stateRoute (state : PyDict) : Option (Option InboundRoute) :=
  if isSet state "enabled" && isSet state "attached" then do
    let route ← dictOf (state.field "route")
    inboundRoute pyStr route
  else some none

/-- `_binding_route` of a binding, whose tags take the place of its route's. -/
def taggedRoute (binding : PyDict) : Option (Option InboundRoute) :=
  if isSet binding "attached" then do
    let route ← dictOf (binding.field "route")
    if route.isEmpty then some none
    else
      let metadataJson ← dictOf (route.field "metadata_json")
      let tags ← listOf (binding.field "tags")
      inboundRoute pyStr (route.set (.text "metadata_json")
        (.dict (metadataJson.set (.text "tags") (.list tags))))
  else some none

/-- `_binding_route`; `some none` where there is no route, `none` where it raises. -/
def bindingRoute (s : Payload) (messageKind accountId conversationId : String) :
    Option (Option InboundRoute) :=
  if messageKind = "group" then
    (s.getGroupState accountId conversationId).bind fun state =>
      state.elim (some none) (stateRoute pyStr)
  else
    (s.getBinding messageKind accountId conversationId).bind fun binding =>
      binding.elim (some none) (taggedRoute pyStr)

end Model

end CocoonSit.RouteFile
