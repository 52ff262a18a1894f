import CocoonSit.Bridge.Commands
import CocoonSit.Plugins.ImRoutes
import CocoonSit.Plugins.ImRpcAtomic

/-!
# What the bridge and the backend keep of a chat

A chat is to be routed in the backend exactly when it is attached in the bridge's store, to the same
target and with the same tags.  A command that attaches or detaches asks the backend first and
writes the store when that has succeeded; a restart sends again what is attached.  `/tag` and
`/op group enable` write the store alone.
-/

namespace CocoonSit

open Table ImRpc TransitionSystem

namespace Bridge

section Spec

variable (out : RpcOutside) (config : BridgeConfig) (pluginId : RowId)

/-- Target and tags of a route of the backend. -/
def routedOf (row : PluginImTargetRoute) : String × RowId × Option JsonValue :=
  (row.targetType, row.targetId, row.routeMetadataJson "tags")

/-- Target and tags of a route of the store. -/
def Route.routed (route : Route) : String × RowId × Option JsonValue :=
  (route.target.targetType, route.target.targetId, route.target.metadataJson "tags")

/-- The backend's route for a chat. -/
def backendRoute (t : ImTables) (kind : ConversationKind) (chat : Chat) :
    Option PluginImTargetRoute :=
  findRoute t.imTargetRoutes pluginId (conversationOf kind chat)

/-- The backend has a route for a chat iff the store has it attached, with the same target and
tags. -/
def Agree (s : BridgeState) : Prop :=
  ∀ kind chat, (backendRoute pluginId s.backend kind chat).map routedOf =
    (s.store.attachedRoute kind chat).map Route.routed

/-- The dicts have each key once, and a route is for the chat it is kept with. -/
structure StoreWellFormed (store : RouteStore) : Prop where
  bindings : (store.bindings.map key).Nodup
  groupStates : (store.groupStates.map key).Nodup
  bindingRoutes : ∀ chat b, get store.bindings chat = some b → ∀ route ∈ b.route,
    route.conversation = conversationOf .privateChat chat ∧ route.metadataJson.tags = b.tags
  groupRoutes : ∀ chat g, get store.groupStates chat = some g → ∀ route ∈ g.route,
    route.conversation = conversationOf .groupChat chat

/-- Store and backend keep the same. -/
structure InStep (s : BridgeState) : Prop where
  routes : RoutesUnique s.backend.imTargetRoutes
  store : StoreWellFormed s.store
  agree : Agree pluginId s

/-- What the command answers is a success. -/
def ReportsSuccess (s : BridgeState) : Event → Prop
  | .command call command => (handleCommand out config pluginId s call command).1.Success
  | _ => False

/-- A command that writes the store alone changes nothing of an attachment: `/tag` in an attached
chat leaves its tags, and the group to be enabled is not attached. -/
def LeavesAttachments (s : BridgeState) : Event → Prop
  | .command call (.tag edit) => ∀ b, get s.store.bindings call.sender = some b →
      b.attached = true → b.route.isSome → edit.apply b.tags = b.tags
  | .command _ (.opGroupEnable group) => s.store.attachedRoute .groupChat group = none
  | _ => True

/-- Whether an edit of the tags of a binding leaves them, if it is attached. -/
instance decidableLeavesAttachments (s : BridgeState) : ∀ e, Decidable (LeavesAttachments s e)
  | .command call (.tag edit) =>
    match hget : get s.store.bindings call.sender with
    | none => .isTrue fun b hb => by
        rw [hget] at hb
        cases hb
    | some b => decidable_of_iff
        (b.attached = true → b.route.isSome = true → edit.apply b.tags = b.tags)
        ⟨fun h b' hb' => by
            rw [hget] at hb'
            cases hb'
            exact h,
          fun h => h b hget⟩
  | .command _ (.opGroupEnable group) =>
    inferInstanceAs (Decidable (s.store.attachedRoute .groupChat group = none))
  | .command _ (.bind _) | .command _ .unbind | .command _ (.list _ _)
  | .command _ (.create _ _ _) | .command _ (.attach _ _) | .command _ .detach
  | .command _ (.opGroupAttach _ _) | .command _ (.opGroupDetach _)
  | .command _ (.opGroupDisable _) | .restart _ _ | .backendChanges _ => .isTrue trivial

instance (s : BridgeState) (e : Event) : Decidable (ReportsSuccess out config pluginId s e) := by
  cases e <;> unfold ReportsSuccess <;> infer_instance

end Spec

variable {out : RpcOutside} {config : BridgeConfig} {pluginId : RowId} {s : BridgeState}
  {store : RouteStore} {call : Call} {kind kind' : ConversationKind} {chat chat' : Chat}

/-! ## Chats and their routes -/

lemma conversationOf_inj (h : conversationOf kind' chat' = conversationOf kind chat) :
    kind' = kind ∧ chat' = chat := by
  simp only [conversationOf, ImConversation.mk.injEq, true_and] at h
  obtain ⟨hkind, haccount, hconversation⟩ := h
  refine ⟨?_, ?_⟩
  · cases kind' <;> cases kind <;> first | rfl | exact absurd hkind (by decide)
  · cases chat'
    cases chat
    cases haccount
    cases hconversation
    rfl

lemma conversation_buildRoute (targetType : String) (targetId : RowId) (kind : ConversationKind)
    (chat : Chat) (tags : List String) :
    (buildRoute targetType targetId kind chat tags).conversation = conversationOf kind chat := by
  have hplatform : strip PLUGIN_PLATFORM = PLUGIN_PLATFORM := by decide +kernel
  have hkind : strip kind.text = kind.text := by cases kind <;> decide +kernel
  simp only [buildRoute, Route.conversation, conversationOf, hplatform, hkind,
    chat.strip_accountId, chat.strip_conversationId]

lemma routed_snd (route : Route) :
    route.routed = (strip route.targetType, strip route.targetId,
      some (jsonOfTags route.metadataJson.tags)) := rfl

lemma jsonOfTags_inj {tags tags' : List String} (h : jsonOfTags tags = jsonOfTags tags') :
    tags = tags' := by
  simp only [jsonOfTags, JsonValue.arr.injEq] at h
  exact List.map_injective_iff.mpr (fun _ _ => JsonValue.str.inj) h

lemma routed_retagged_iff {route : Route} {tags : List String} :
    (route.retagged tags).routed = route.routed ↔ tags = route.metadataJson.tags := by
  rw [routed_snd, routed_snd]
  constructor
  · intro h
    simp only [Route.retagged, Prod.mk.injEq, true_and, Option.some.injEq] at h
    exact jsonOfTags_inj h
  · rintro rfl
    rfl

lemma routedOf_upsertedRoute (t : ImTables) (conv : ImConversation) (route : Route) :
    routedOf (upsertedRoute out t pluginId conv route.target) = route.routed := by
  unfold upsertedRoute
  split <;> rfl

/-! ## What the store's operations do to attachments -/

lemma attachedRoute_saveBinding (b : PrivateBinding) :
    (store.saveBinding b).attachedRoute kind chat =
      if kind = .privateChat ∧ chat = b.chat then (if b.attached then b.route else none)
      else store.attachedRoute kind chat := by
  cases kind with
  | groupChat => rfl
  | privateChat =>
    simp only [RouteStore.attachedRoute, RouteStore.saveBinding, get_put, key_privateBinding,
      true_and]
    by_cases hchat : chat = b.chat
    · rw [if_pos hchat, if_pos hchat, Option.bind_some]
    · rw [if_neg hchat, if_neg hchat]

lemma attachedRoute_saveGroupState (g : GroupState) :
    (store.saveGroupState g).attachedRoute kind chat =
      if kind = .groupChat ∧ chat = g.chat then
        (if g.enabled && g.attached then g.route else none)
      else store.attachedRoute kind chat := by
  cases kind with
  | privateChat => rfl
  | groupChat =>
    simp only [RouteStore.attachedRoute, RouteStore.saveGroupState, get_put, key_groupState,
      true_and]
    by_cases hchat : chat = g.chat
    · rw [if_pos hchat, if_pos hchat, Option.bind_some]
    · rw [if_neg hchat, if_neg hchat]

lemma StoreWellFormed.saveBinding (h : StoreWellFormed store) {b : PrivateBinding}
    (hroute : ∀ route ∈ b.route, route.conversation = conversationOf .privateChat b.chat ∧
      route.metadataJson.tags = b.tags) : StoreWellFormed (store.saveBinding b) := by
  refine ⟨nodup_put h.bindings, h.groupStates, fun chat b' hget => ?_, h.groupRoutes⟩
  simp only [RouteStore.saveBinding, get_put, key_privateBinding] at hget
  split at hget
  · next hchat =>
    cases hget
    rw [hchat]
    exact hroute
  · exact h.bindingRoutes chat b' hget

lemma StoreWellFormed.saveGroupState (h : StoreWellFormed store) {g : GroupState}
    (hroute : ∀ route ∈ g.route, route.conversation = conversationOf .groupChat g.chat) :
    StoreWellFormed (store.saveGroupState g) := by
  refine ⟨h.bindings, nodup_put h.groupStates, h.bindingRoutes, fun chat g' hget => ?_⟩
  simp only [RouteStore.saveGroupState, get_put, key_groupState] at hget
  split at hget
  · next hchat =>
    cases hget
    rw [hchat]
    exact hroute
  · exact h.groupRoutes chat g' hget

/-- Nothing but caches and bindings to users differs. -/
structure SameChats (store store' : RouteStore) : Prop where
  bindings : store'.bindings = store.bindings
  groupStates : store'.groupStates = store.groupStates

namespace SameChats

variable {store' store'' : RouteStore}

lemma refl (store : RouteStore) : SameChats store store := ⟨rfl, rfl⟩

lemma trans (h : SameChats store store') (h' : SameChats store' store'') :
    SameChats store store'' :=
  ⟨h'.bindings.trans h.bindings, h'.groupStates.trans h.groupStates⟩

lemma upsertTarget (targetType targetId name : String) (tags : Option (List String))
    (now : String) : SameChats store (store.upsertTarget targetType targetId name tags now) :=
  ⟨rfl, rfl⟩

lemma attachedRoute (h : SameChats store store') :
    store'.attachedRoute kind chat = store.attachedRoute kind chat := by
  cases kind with
  | privateChat => simp only [RouteStore.attachedRoute, h.bindings]
  | groupChat => simp only [RouteStore.attachedRoute, h.groupStates]

lemma wellFormed (h : SameChats store store') (hstore : StoreWellFormed store) :
    StoreWellFormed store' := by
  refine ⟨?_, ?_, ?_, ?_⟩
  · rw [h.bindings]
    exact hstore.bindings
  · rw [h.groupStates]
    exact hstore.groupStates
  · rw [h.bindings]
    exact hstore.bindingRoutes
  · rw [h.groupStates]
    exact hstore.groupRoutes

lemma inStep (h : SameChats s.store store') (hs : InStep pluginId s) :
    InStep pluginId { s with store := store' } :=
  ⟨hs.routes, h.wellFormed hs.store, fun kind chat => by
    rw [h.attachedRoute]
    exact hs.agree kind chat⟩

lemma rememberTargets (now : String) (targets : List Target) :
    SameChats store (Bridge.rememberTargets out now store targets).1 := by
  induction targets generalizing store with
  | nil => exact refl store
  | cons target targets ih =>
    unfold Bridge.rememberTargets
    dsimp only
    split
    · exact ih
    · exact (upsertTarget _ _ _ _ _).trans ih

lemma fetchAccessibleTargets :
    SameChats s.store (Bridge.fetchAccessibleTargets out config s call).1 := by
  unfold Bridge.fetchAccessibleTargets
  split
  · exact refl _
  · exact refl _
  · exact rememberTargets _ _

end SameChats

/-! ## What keeps store and backend in step -/

lemma InStep.attach (h : InStep pluginId s) {store' : RouteStore} {route : Route} {newId : RowId}
    (hconv : route.conversation = conversationOf kind chat)
    (hnew : backendRoute pluginId s.backend kind chat = none →
      newId ∉ s.backend.imTargetRoutes.map key)
    (hstore : StoreWellFormed store')
    (hattached : ∀ kind' chat', store'.attachedRoute kind' chat' =
      if kind' = kind ∧ chat' = chat then some route else s.store.attachedRoute kind' chat') :
    InStep pluginId
      { store := store'
        backend := s.backend.upsertRoute { out with newId := newId } pluginId route.conversation
          route.target } := by
  rw [hconv]
  refine ⟨h.routes.upsertRoute hnew, hstore, fun kind' chat' => ?_⟩
  rw [hattached, backendRoute, findRoute_upsertRoute h.routes]
  by_cases hsame : kind' = kind ∧ chat' = chat
  · rw [if_pos hsame, hsame.1, hsame.2, if_pos rfl, Option.map_some, Option.map_some,
      routedOf_upsertedRoute]
  · rw [if_neg hsame, if_neg fun heq => hsame (conversationOf_inj heq)]
    exact h.agree kind' chat'

lemma InStep.detach (h : InStep pluginId s) {store' : RouteStore} {t : ImTables}
    {failure : Option String}
    (hdelete : deleteBackendRoute pluginId s.backend failure kind chat = .ok t)
    (hstore : StoreWellFormed store')
    (hattached : ∀ kind' chat', store'.attachedRoute kind' chat' =
      if kind' = kind ∧ chat' = chat then none else s.store.attachedRoute kind' chat') :
    InStep pluginId { store := store', backend := t } := by
  cases failure with
  | some error => cases hdelete
  | none =>
    simp only [deleteBackendRoute] at hdelete
    cases hfind : findRoute s.backend.imTargetRoutes pluginId (conversationOf kind chat) with
    | none =>
      simp only [hfind, Except.ok.injEq] at hdelete
      subst hdelete
      refine ⟨h.routes, hstore, fun kind' chat' => ?_⟩
      rw [hattached]
      by_cases hsame : kind' = kind ∧ chat' = chat
      · rw [if_pos hsame, hsame.1, hsame.2, backendRoute, hfind]
        rfl
      · rw [if_neg hsame]
        exact h.agree kind' chat'
    | some route =>
      simp only [hfind, Except.ok.injEq] at hdelete
      subst hdelete
      refine ⟨h.routes.deleteRoute, hstore, fun kind' chat' => ?_⟩
      rw [hattached, backendRoute, findRoute_deleteRoute h.routes hfind]
      by_cases hsame : kind' = kind ∧ chat' = chat
      · rw [if_pos hsame, hsame.1, hsame.2, if_pos rfl]
        rfl
      · rw [if_neg hsame, if_neg fun heq => hsame (conversationOf_inj heq)]
        exact h.agree kind' chat'

lemma InStep.agree_write_iff (h : InStep pluginId s) {store' : RouteStore} {after : Option Route}
    (hattached : ∀ kind' chat', store'.attachedRoute kind' chat' =
      if kind' = kind ∧ chat' = chat then after else s.store.attachedRoute kind' chat') :
    Agree pluginId { s with store := store' } ↔
      after.map Route.routed = (s.store.attachedRoute kind chat).map Route.routed := by
  constructor
  · intro hagree
    have hafter := hagree kind chat
    rw [hattached, if_pos ⟨rfl, rfl⟩] at hafter
    exact hafter.symm.trans (h.agree kind chat)
  · intro hsame kind' chat'
    rw [hattached]
    by_cases heq : kind' = kind ∧ chat' = chat
    · rw [if_pos heq, heq.1, heq.2, hsame]
      exact h.agree kind chat
    · rw [if_neg heq]
      exact h.agree kind' chat'

/-! ## Commands -/

lemma inStep_attachTo (h : InStep pluginId s)
    (hnew : call.newId ∉ s.backend.imTargetRoutes.map key) (item : Item) :
    InStep pluginId (attachTo out pluginId s call item).2 := by
  unfold attachTo upsertBackendRoute
  cases call.route with
  | some error => exact h
  | none =>
    dsimp only
    have hconv := conversation_buildRoute "cocoon" item.targetId .privateChat call.sender
      (((get s.store.bindings call.sender).map PrivateBinding.tags).getD [])
    refine h.attach hconv (fun _ => hnew) ?_ fun kind chat => ?_
    · refine (SameChats.upsertTarget _ _ _ _ _).wellFormed (h.store.saveBinding ?_)
      rintro route ⟨⟩
      exact ⟨hconv, rfl⟩
    · rw [(SameChats.upsertTarget _ _ _ _ _).attachedRoute, attachedRoute_saveBinding]
      rfl

lemma inStep_commandAttach (h : InStep pluginId s)
    (hnew : call.newId ∉ s.backend.imTargetRoutes.map key) (mode : AttachMode) (value : String) :
    InStep pluginId (commandAttach out config pluginId s call mode value).2 := by
  have hfetched : InStep pluginId
      { s with store := (listAttachCandidates out config s call "cocoon").1 } :=
    SameChats.fetchAccessibleTargets.inStep h
  unfold commandAttach
  dsimp only
  split
  · exact hfetched
  · exact hfetched
  · exact inStep_attachTo hfetched hnew _

lemma inStep_commandDetach (h : InStep pluginId s) :
    InStep pluginId (commandDetach pluginId s call).2 := by
  unfold commandDetach
  cases hget : get s.store.bindings call.sender with
  | none => exact h
  | some b =>
    dsimp only
    have hchat : b.chat = call.sender := key_of_get hget
    split_ifs
    · exact h
    cases hdelete : deleteBackendRoute pluginId s.backend call.route .privateChat call.sender with
    | error error => exact h
    | ok t =>
      refine h.detach hdelete (h.store.saveBinding fun route hroute => ?_) fun kind chat => ?_
      · rw [show ({ b with attached := false, updatedAt := call.now } : PrivateBinding).chat =
          call.sender from hchat]
        exact h.store.bindingRoutes _ b hget route hroute
      · rw [attachedRoute_saveBinding]
        simp only [hchat, Bool.false_eq_true, if_false]

lemma inStep_commandOpGroupAttach (h : InStep pluginId s)
    (hnew : call.newId ∉ s.backend.imTargetRoutes.map key) (group : Chat) (chatGroupId : RowId) :
    InStep pluginId (commandOpGroupAttach out config pluginId s call group chatGroupId).2 := by
  have hfetched : InStep pluginId
      { s with store := (listAttachCandidates out config s call "chat_group").1 } :=
    SameChats.fetchAccessibleTargets.inStep h
  unfold commandOpGroupAttach
  dsimp only
  by_cases henabled : isEnabled s.store group = true
  swap
  · rw [if_pos henabled]
    exact h
  rw [if_neg (not_not.mpr henabled)]
  split
  · exact hfetched
  · next item _ =>
    unfold attachGroupTo upsertBackendRoute
    cases call.route with
    | some error => exact hfetched
    | none =>
      dsimp only
      have hconv := conversation_buildRoute "chat_group" (strip chatGroupId) .groupChat group []
      refine hfetched.attach hconv (fun _ => hnew) ?_ fun kind chat => ?_
      · refine StoreWellFormed.saveGroupState
          ((SameChats.upsertTarget _ _ _ _ _).wellFormed hfetched.store) ?_
        rintro route ⟨⟩
        exact hconv
      · rw [attachedRoute_saveGroupState, (SameChats.upsertTarget _ _ _ _ _).attachedRoute]
        rfl

lemma attachedRoute_looseGroup (group : Chat) (enabled : Bool) (now : String) :
    (store.saveGroupState (looseGroup group enabled now)).attachedRoute kind chat =
      if kind = .groupChat ∧ chat = group then none else store.attachedRoute kind chat := by
  rw [attachedRoute_saveGroupState]
  simp only [looseGroup, Bool.and_false, Bool.false_eq_true, if_false]

lemma wellFormed_looseGroup (h : StoreWellFormed store) (group : Chat) (enabled : Bool)
    (now : String) : StoreWellFormed (store.saveGroupState (looseGroup group enabled now)) :=
  h.saveGroupState fun _ hroute => nomatch hroute

lemma inStep_commandOpGroupDetach (h : InStep pluginId s) (group : Chat) :
    InStep pluginId (commandOpGroupDetach pluginId s call group).2 := by
  unfold commandOpGroupDetach
  split
  · exact h
  split_ifs
  · exact h
  cases hdelete : deleteBackendRoute pluginId s.backend call.route .groupChat group with
  | error error => exact h
  | ok t =>
    exact h.detach hdelete (wellFormed_looseGroup h.store group true call.now)
      fun kind chat => attachedRoute_looseGroup group true call.now

lemma attachedRoute_of_not_hasRoute {group : Chat} (h : ¬ hasRoute store group = true) :
    store.attachedRoute .groupChat group = none := by
  simp only [RouteStore.attachedRoute, hasRoute] at h ⊢
  cases hget : get store.groupStates group with
  | none => rfl
  | some g =>
    rw [hget, Option.any_some] at h
    rw [Option.bind_some]
    cases hattached : g.attached with
    | false => rw [Bool.and_false, if_neg Bool.false_ne_true]
    | true =>
      rw [hattached, Bool.true_and, Bool.not_eq_true, Option.isSome_eq_false_iff,
        Option.isNone_iff_eq_none] at h
      rw [h, ite_self]

lemma inStep_commandOpGroupDisable (h : InStep pluginId s) (group : Chat) :
    InStep pluginId (commandOpGroupDisable pluginId s call group).2 := by
  unfold commandOpGroupDisable
  dsimp only
  by_cases hroute : hasRoute s.store group = true
  · rw [if_pos hroute]
    cases hdelete : deleteBackendRoute pluginId s.backend call.route .groupChat group with
    | error error => exact h
    | ok t =>
      exact h.detach hdelete (wellFormed_looseGroup h.store group false call.now)
        fun kind chat => attachedRoute_looseGroup group false call.now
  · rw [if_neg hroute]
    refine ⟨h.routes, wellFormed_looseGroup h.store group false call.now, ?_⟩
    refine (h.agree_write_iff fun kind chat => attachedRoute_looseGroup group false call.now).mpr ?_
    rw [attachedRoute_of_not_hasRoute hroute]

lemma agree_commandOpGroupEnable_iff (h : InStep pluginId s) (group : Chat) :
    Agree pluginId (commandOpGroupEnable s call group).2 ↔
      s.store.attachedRoute .groupChat group = none := by
  refine (h.agree_write_iff fun kind chat => attachedRoute_looseGroup group true call.now).trans ?_
  rw [Option.map_none, eq_comm, Option.map_eq_none_iff]

lemma attachedRoute_updateBindingTags {b : PrivateBinding} {tags : List String} {now : String}
    (hget : get store.bindings chat = some b) :
    (store.updateBindingTags chat tags now).attachedRoute kind' chat' =
      if kind' = .privateChat ∧ chat' = chat then
        (store.attachedRoute .privateChat chat).map (Route.retagged tags)
      else store.attachedRoute kind' chat' := by
  have hchat : b.chat = chat := key_of_get hget
  simp only [RouteStore.updateBindingTags, hget]
  rw [attachedRoute_saveBinding]
  simp only [hchat, RouteStore.attachedRoute, hget, Option.bind_some]
  cases b.attached <;> rfl

lemma wellFormed_updateBindingTags (h : StoreWellFormed store) {tags : List String}
    {now : String} : StoreWellFormed (store.updateBindingTags chat tags now) := by
  unfold RouteStore.updateBindingTags
  cases hget : get store.bindings chat with
  | none => exact h
  | some b =>
    have hchat : b.chat = chat := key_of_get hget
    refine h.saveBinding fun route hroute => ?_
    obtain ⟨old, hold, rfl⟩ := Option.map_eq_some_iff.mp hroute
    obtain ⟨hconv, _⟩ := h.bindingRoutes chat b hget old hold
    exact ⟨hconv.trans (congrArg _ hchat.symm), rfl⟩

lemma commandTag_edit {b : PrivateBinding} {route : Route} {edit : TagEdit}
    (hget : get s.store.bindings call.sender = some b) (hroute : b.route = some route)
    (hedit : edit ≠ .list) :
    ∃ store',
      SameChats (s.store.updateBindingTags call.sender (edit.apply b.tags) call.now) store' ∧
      (commandTag s call edit).2 = { s with store := store' } := by
  unfold commandTag
  rw [hget]
  dsimp only
  rw [hroute]
  cases edit with
  | list => exact absurd rfl hedit
  | _ =>
    dsimp only
    refine ⟨_, ?_, rfl⟩
    split
    · exact .refl _
    · exact .upsertTarget _ _ _ _ _

lemma routed_map_retagged_iff {route : Option Route} {tags : List String} :
    (route.map (Route.retagged tags)).map Route.routed = route.map Route.routed ↔
      ∀ r ∈ route, tags = r.metadataJson.tags := by
  cases route with
  | none => simp
  | some r => simp [routed_retagged_iff]

lemma retag_attached_iff (h : StoreWellFormed store) {b : PrivateBinding} {tags : List String}
    (hget : get store.bindings chat = some b) :
    (∀ r ∈ store.attachedRoute .privateChat chat, tags = r.metadataJson.tags) ↔
      (b.attached = true → b.route.isSome → tags = b.tags) := by
  simp only [RouteStore.attachedRoute, hget, Option.bind_some]
  cases hattached : b.attached with
  | false => simp
  | true =>
    cases hroute : b.route with
    | none => simp
    | some route =>
      have htags := (h.bindingRoutes chat b hget route hroute).2
      simp [htags]

lemma commandTag_spec (h : InStep pluginId s) (edit : TagEdit) :
    RoutesUnique (commandTag s call edit).2.backend.imTargetRoutes ∧
      StoreWellFormed (commandTag s call edit).2.store ∧
        (Agree pluginId (commandTag s call edit).2 ↔
          LeavesAttachments s (.command call (.tag edit))) := by
  have hnothing : (commandTag s call edit).2 = s →
      LeavesAttachments s (.command call (.tag edit)) →
        RoutesUnique (commandTag s call edit).2.backend.imTargetRoutes ∧
          StoreWellFormed (commandTag s call edit).2.store ∧
            (Agree pluginId (commandTag s call edit).2 ↔
              LeavesAttachments s (.command call (.tag edit))) := by
    intro hsame hleaves
    rw [hsame]
    exact ⟨h.routes, h.store, iff_of_true h.agree hleaves⟩
  cases hget : get s.store.bindings call.sender with
  | none =>
    refine hnothing (by simp only [commandTag, hget]) fun b hb => ?_
    rw [hget] at hb
    cases hb
  | some b =>
    cases hroute : b.route with
    | none =>
      refine hnothing (by simp only [commandTag, hget, hroute]) fun b' hb' _ hsome => ?_
      rw [hget] at hb'
      cases hb'
      rw [hroute] at hsome
      cases hsome
    | some route =>
      by_cases hedit : edit = .list
      · subst hedit
        exact hnothing (by simp only [commandTag, hget, hroute]) fun _ _ _ _ => rfl
      obtain ⟨store', hsame, hafter⟩ := commandTag_edit hget hroute hedit
      rw [hafter]
      refine ⟨h.routes, hsame.wellFormed (wellFormed_updateBindingTags h.store), ?_⟩
      have hattached : ∀ kind' chat', store'.attachedRoute kind' chat' =
          if kind' = .privateChat ∧ chat' = call.sender then
            (s.store.attachedRoute .privateChat call.sender).map
              (Route.retagged (edit.apply b.tags))
          else s.store.attachedRoute kind' chat' := fun kind' chat' => by
        rw [hsame.attachedRoute, attachedRoute_updateBindingTags hget]
      rw [h.agree_write_iff hattached, routed_map_retagged_iff,
        retag_attached_iff h.store hget]
      refine ⟨fun htags b' hb' => ?_, fun hleaves => hleaves b hget⟩
      rw [hget] at hb'
      cases hb'
      exact htags

lemma handleCommand_spec (h : InStep pluginId s) {command : Command}
    (hnew : command.routes → call.newId ∉ s.backend.imTargetRoutes.map key) :
    RoutesUnique (handleCommand out config pluginId s call command).2.backend.imTargetRoutes ∧
      StoreWellFormed (handleCommand out config pluginId s call command).2.store ∧
        (Agree pluginId (handleCommand out config pluginId s call command).2 ↔
          LeavesAttachments s (.command call command)) := by
  have hall : ∀ s' : BridgeState, InStep pluginId s' → RoutesUnique s'.backend.imTargetRoutes ∧
      StoreWellFormed s'.store ∧ (Agree pluginId s' ↔ True) :=
    fun s' hs' => ⟨hs'.routes, hs'.store, iff_true_intro hs'.agree⟩
  cases command with
  | bind user =>
    refine hall _ ?_
    cases user with
    | error error => exact h
    | ok user => exact SameChats.inStep ⟨rfl, rfl⟩ h
  | unbind => exact hall _ (SameChats.inStep ⟨rfl, rfl⟩ h)
  | list cocoonsOnly page => exact hall _ (SameChats.fetchAccessibleTargets.inStep h)
  | create targetType name created =>
    refine hall _ ?_
    cases created with
    | error error => exact h
    | ok created => exact (SameChats.upsertTarget _ _ _ _ _).inStep h
  | attach mode value => exact hall _ (inStep_commandAttach h (hnew rfl) mode value)
  | detach => exact hall _ (inStep_commandDetach h)
  | tag edit => exact commandTag_spec h edit
  | opGroupEnable group =>
    exact ⟨h.routes, wellFormed_looseGroup h.store group true call.now,
      agree_commandOpGroupEnable_iff h group⟩
  | opGroupAttach group chatGroupId =>
    exact hall _ (inStep_commandOpGroupAttach h (hnew rfl) group chatGroupId)
  | opGroupDetach group => exact hall _ (inStep_commandOpGroupDetach h group)
  | opGroupDisable group => exact hall _ (inStep_commandOpGroupDisable h group)

/-! ## Restarts -/

lemma mem_attachedRoutes (h : StoreWellFormed store) {route : Route}
    (hroute : route ∈ attachedRoutes store) :
    ∃ kind chat, store.attachedRoute kind chat = some route ∧
      route.conversation = conversationOf kind chat := by
  rcases List.mem_append.mp hroute with hroute | hroute
  · obtain ⟨b, hb, hsome⟩ := List.mem_filterMap.mp hroute
    have hget := get_of_mem h.bindings ((mem_orderBy).mp hb)
    have hattached : store.attachedRoute .privateChat b.chat = some route := by
      simp only [RouteStore.attachedRoute]
      rw [show get store.bindings b.chat = some b from hget, Option.bind_some, hsome]
    refine ⟨.privateChat, b.chat, hattached, ?_⟩
    split_ifs at hsome
    exact (h.bindingRoutes b.chat b hget route hsome).1
  · obtain ⟨g, hg, hsome⟩ := List.mem_filterMap.mp hroute
    have hget := get_of_mem h.groupStates ((mem_orderBy).mp hg)
    have hattached : store.attachedRoute .groupChat g.chat = some route := by
      simp only [RouteStore.attachedRoute]
      rw [show get store.groupStates g.chat = some g from hget, Option.bind_some, hsome]
    refine ⟨.groupChat, g.chat, hattached, ?_⟩
    split_ifs at hsome
    exact h.groupRoutes g.chat g hget route hsome

lemma inStep_syncRoute (h : InStep pluginId s) {refused : ImConversation → Bool}
    {newIds : ImConversation → RowId} {route : Route} (hroute : route ∈ attachedRoutes s.store) :
    InStep pluginId
      { s with backend := syncRoute out pluginId refused newIds s.backend route } := by
  unfold syncRoute
  split
  · exact h
  obtain ⟨kind, chat, hattached, hconv⟩ := mem_attachedRoutes h.store hroute
  have hagree := h.agree kind chat
  rw [hattached] at hagree
  refine h.attach hconv (fun hnone => ?_) h.store fun kind' chat' => ?_
  · rw [hnone] at hagree
    cases hagree
  · by_cases hsame : kind' = kind ∧ chat' = chat
    · rw [if_pos hsame, hsame.1, hsame.2, hattached]
    · rw [if_neg hsame]

lemma inStep_syncAttachedRoutes (h : InStep pluginId s) (refused : ImConversation → Bool)
    (newIds : ImConversation → RowId) :
    InStep pluginId (syncAttachedRoutes out pluginId refused newIds s) := by
  unfold syncAttachedRoutes
  have hall : ∀ routes : List Route, routes ⊆ attachedRoutes s.store → ∀ t : ImTables,
      InStep pluginId { s with backend := t } →
        InStep pluginId
          { s with backend := routes.foldl (syncRoute out pluginId refused newIds) t } := by
    intro routes
    induction routes with
    | nil => exact fun _ t ht => ht
    | cons route routes ih =>
      intro hsub t ht
      rw [List.cons_subset] at hsub
      exact ih hsub.2 _ (inStep_syncRoute (s := { s with backend := t }) ht hsub.1)
  exact hall _ (List.Subset.refl _) s.backend h

/-! ## Runs -/

lemma step_command {command : Command}
    (hnew : ¬ (command.routes ∧ call.newId ∈ s.backend.imTargetRoutes.map key)) :
    step out config pluginId s (.command call command) =
      some (handleCommand out config pluginId s call command).2 := if_neg hnew

lemma step_spec {s' : BridgeState} {e : Event} (h : InStep pluginId s)
    (hs : step out config pluginId s e = some s') :
    RoutesUnique s'.backend.imTargetRoutes ∧ StoreWellFormed s'.store ∧
      (Agree pluginId s' ↔ LeavesAttachments s e) := by
  cases e with
  | command call command =>
    simp only [step] at hs
    split_ifs at hs with hnew
    cases hs
    exact handleCommand_spec h fun hroutes hmem => hnew ⟨hroutes, hmem⟩
  | restart refused newIds =>
    cases hs
    have hsync : InStep pluginId (syncAttachedRoutes out pluginId refused newIds s) :=
      inStep_syncAttachedRoutes h refused newIds
    exact ⟨hsync.routes, hsync.store, iff_true_intro hsync.agree⟩
  | backendChanges tables =>
    cases hs
    exact ⟨h.routes, h.store, iff_true_intro h.agree⟩

lemma reportsSuccess_of_not_leaves {e : Event} (h : ¬ LeavesAttachments s e) :
    ReportsSuccess out config pluginId s e := by
  cases e with
  | restart refused newIds => exact absurd trivial h
  | backendChanges tables => exact absurd trivial h
  | command call command =>
    cases command with
    | opGroupEnable group => exact trivial
    | tag edit =>
      simp only [LeavesAttachments, not_forall] at h
      obtain ⟨b, hget, _, hsome, hne⟩ := h
      obtain ⟨route, hroute⟩ := Option.isSome_iff_exists.mp hsome
      cases edit with
      | list => exact absurd rfl hne
      | _ =>
        simp only [ReportsSuccess, handleCommand, commandTag, hget, hroute]
        exact trivial
    | _ => exact absurd trivial h

lemma exists_step_of_not_leaves {e : Event} (h : ¬ LeavesAttachments s e) :
    ∃ s', step out config pluginId s e = some s' := by
  cases e with
  | restart refused newIds => exact absurd trivial h
  | backendChanges tables => exact absurd trivial h
  | command call command =>
    cases command with
    | tag edit => exact ⟨_, step_command (by simp [Command.routes])⟩
    | opGroupEnable group => exact ⟨_, step_command (by simp [Command.routes])⟩
    | _ => exact absurd trivial h

/-- The stores agree after each command that reports success exactly when every command that writes
the bridge's store alone leaves what is attached. -/
theorem agreesAfterSuccess_iff (s₀ : BridgeState) (es : List Event) (h₀ : InStep pluginId s₀) :
    AllSteps (step out config pluginId)
        (fun s e s' => ReportsSuccess out config pluginId s e → Agree pluginId s') s₀ es ↔
      StepsMeet (step out config pluginId) LeavesAttachments s₀ es := by
  refine allSteps_iff_stepsMeet (InStep pluginId) (fun s e h => ?_) (fun s e s' h hok hs => ?_) h₀
  · constructor
    · intro hagree
      by_contra hleaves
      obtain ⟨s', hs⟩ : ∃ s', step out config pluginId s e = some s' :=
        exists_step_of_not_leaves hleaves
      have hsuccess : ReportsSuccess out config pluginId s e := reportsSuccess_of_not_leaves hleaves
      exact hleaves ((step_spec h hs).2.2.mp (hagree s' hs hsuccess))
    · exact fun hleaves s' hs _ => (step_spec h hs).2.2.mpr hleaves
  · obtain ⟨hroutes, hstore, hagree⟩ := step_spec h hs
    exact ⟨hroutes, hstore, hagree.mpr hok⟩

/-- The private chat of a sender with a bot. -/
def annsChat : Chat := ⟨"10", "20", by decide, by decide⟩

def annsConfig : BridgeConfig where
  defaultOwnerUsername := "ann"
  casefold name := name

/-- A new bridge, and a backend where Ann owns a cocoon. -/
def newBridge : BridgeState where
  backend :=
    { accounts := { users := [{ id := "ann", username := "ann", passwordHash := "" }] }
      db := { cocoons := [{ id := "c", ownerUserId := "ann", characterId := "muse" }] } }

lemma newBridge_inStep : InStep "bridge" newBridge where
  routes := ⟨List.nodup_nil, List.nodup_nil⟩
  store := ⟨List.nodup_nil, List.nodup_nil, fun _ _ h => (nomatch h), fun _ _ h => nomatch h⟩
  agree := fun kind chat => by cases kind <;> rfl

def annsCall : Call where
  sender := annsChat
  now := "2026-01-01"
  newId := "route"

/-- A chat that is attached, detached and tagged is in step all the time. -/
theorem detached_and_tagged_agrees :
    AllSteps (step accepting annsConfig "bridge")
      (fun s e s' => ReportsSuccess accepting annsConfig "bridge" s e → Agree "bridge" s') newBridge
      [.command annsCall (.attach .byId "c"), .command annsCall .detach,
        .command annsCall (.tag (.add ["x"]))] :=
  (agreesAfterSuccess_iff newBridge _ newBridge_inStep).mpr (by decide +kernel)

/-- How many tags a route has. -/
def tagCount (routed : Option (String × RowId × Option JsonValue)) : ℕ :=
  match routed with
  | some (_, _, some (.arr tags)) => tags.length
  | _ => 0

/-- The backend is not told of a tag. -/
theorem tag_not_told :
    ¬ AllSteps (step accepting annsConfig "bridge")
      (fun s e s' => ReportsSuccess accepting annsConfig "bridge" s e → Agree "bridge" s') newBridge
      [.command annsCall (.attach .byId "c"), .command annsCall (.tag (.add ["x"]))] := by
  rintro ⟨_, h⟩
  rw [step_command (by decide +kernel)] at h
  have hagree := h.1 _ (step_command (by decide +kernel)) (by decide +kernel) .privateChat annsChat
  have hcount := congrArg tagCount hagree
  revert hcount
  decide +kernel

end Bridge

end CocoonSit
