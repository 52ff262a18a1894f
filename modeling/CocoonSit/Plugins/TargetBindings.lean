import CocoonSit.Plugins.ShortLivedScopes
import CocoonSit.Security.Authorization

/-!
# What a plugin is bound to

Users bind plugins they can see to their cocoons and to the rooms they manage; the bootstrap admin
decides who sees a plugin.  The plugin manager reads the bindings when it delivers an event, asking
of the scope of a binding what the service has asked of the user who made it.
-/

namespace CocoonSit

open Table TransitionSystem

namespace PluginRuntimeManager.TargetBindings

/-- `plugin_target_bindings`. -/
structure BindingRow extends PluginTargetBinding where
  pluginId : RowId

/-- What the service and the manager share; `rows` are the bindings of all plugins. -/
structure State where
  manager : Manager
  rows : List BindingRow := []
  members : List ChatGroupMember := []

def State.bindings (s : State) (pluginId : RowId) : List PluginTargetBinding :=
  (s.rows.filter fun row => row.pluginId = pluginId).map BindingRow.toPluginTargetBinding

/-- What the plugin manager reads. -/
def State.runtime (s : State) : Manager := { s.manager with bindings := s.bindings }

/-! ## Who sees a plugin -/

/-- `mapping.setdefault(item.plugin_id, []).append(bool(item.is_visible))`. -/
def addVisibility (mapping : RowId → List Bool) (row : PluginGroupVisibility) :
    RowId → List Bool :=
  Function.update mapping row.pluginId (mapping row.pluginId ++ [row.isVisible])

/-- `_group_visibility_map`; a key that is missing is read as an empty list. -/
def groupVisibilityMap (s : State) (pluginIds groupIds : List RowId) : RowId → List Bool :=
  if pluginIds.isEmpty || groupIds.isEmpty then fun _ => []
  else
    (s.manager.groupVisibility.filter fun row =>
      row.pluginId ∈ pluginIds ∧ row.groupId ∈ groupIds).foldl addVisibility fun _ => []

def resolvePluginVisibility (isGloballyVisible : Bool) (groupOverrides : List Bool) : Bool :=
  if groupOverrides.isEmpty then isGloballyVisible else groupOverrides.any id

def requireUserVisiblePlugin (s : State) (user : User) (pluginId : RowId) :
    Except HttpError PluginDefinition :=
  match get s.manager.tables.plugins pluginId with
  | none => .error ⟨404, "Plugin not found"⟩
  | some plugin =>
    if resolvePluginVisibility (s.manager.globallyVisible plugin.id)
        (groupVisibilityMap s [plugin.id] (s.manager.groupIds user.id) plugin.id) then .ok plugin
    else .error ⟨404, "Plugin not found"⟩

/-- The plugins that `list_plugins_for_user` shows. -/
def listPluginsForUser (s : State) (user : User) : List PluginDefinition :=
  let plugins := s.manager.tables.plugins
  let visibilityMap := groupVisibilityMap s (plugins.map PluginDefinition.id)
    (s.manager.groupIds user.id)
  plugins.filter fun plugin =>
    resolvePluginVisibility (s.manager.globallyVisible plugin.id) (visibilityMap plugin.id)

/-! ## Who binds a plugin, and to what -/

def requireUserCanManageChatGroup (s : State) (user : User) (chatGroupId : RowId) :
    Except HttpError ChatGroupRoom :=
  match get s.manager.db.rooms chatGroupId with
  | none => .error ⟨404, "Chat group not found"⟩
  | some room =>
    if room.ownerUserId = user.id then .ok room
    else if (getChatGroupMembership s.members user.id chatGroupId).any fun membership =>
        membership.memberRole = "admin" then .ok room
    else .error ⟨403, "Chat group management denied"⟩

def requireUserCanBindTarget (s : State) (user : User) : Target → Except HttpError Unit
  | .cocoon id =>
    match get s.manager.db.cocoons id with
    | none => .error ⟨404, "Cocoon not found"⟩
    | some cocoon =>
      if cocoon.ownerUserId = user.id then .ok ()
      else .error ⟨403, "Only the cocoon owner can bind plugins"⟩
  | .chatGroup id => (requireUserCanManageChatGroup s user id).map fun _ => ()

def scopeForBindingTarget (s : State) (user : User) : Target → Except HttpError (String × RowId)
  | .cocoon id =>
    match get s.manager.db.cocoons id with
    | none => .error ⟨404, "Cocoon not found"⟩
    | some cocoon => .ok ("user", cocoon.ownerUserId)
  | .chatGroup id => (requireUserCanManageChatGroup s user id).map fun _ => ("chat_group", id)

def canUserManageBindingTarget (s : State) (user : User) (b : PluginTargetBinding) : Bool :=
  if b.scopeType = "user" ∧ b.scopeId ≠ user.id then false
  else if b.scopeType = "chat_group" then (requireUserCanManageChatGroup s user b.scopeId).isOk
  else (requireUserCanBindTarget s user b.target).isOk

def targetOf (targetType targetId : String) : Except HttpError Target :=
  if strip targetType = "cocoon" then .ok (.cocoon (strip targetId))
  else if strip targetType = "chat_group" then .ok (.chatGroup (strip targetId))
  else .error ⟨400, "target_type must be 'cocoon' or 'chat_group'"⟩

/-- `add_target_binding_for_user`; a binding that there is already is kept. -/
def addTargetBindingForUser (s : State) (user : User) (pluginId : RowId)
    (targetType targetId : String) (newId : RowId) : Except HttpError State := do
  let _ ← requireUserVisiblePlugin s user pluginId
  let target ← targetOf targetType targetId
  requireUserCanBindTarget s user target
  let (scopeType, scopeId) ← scopeForBindingTarget s user target
  if s.rows.any fun row => row.pluginId = pluginId ∧ row.scopeType = scopeType ∧
      row.scopeId = scopeId ∧ row.target = target then return s
  else return { s with rows := s.rows ++ [⟨⟨newId, scopeType, scopeId, target⟩, pluginId⟩] }

def deleteTargetBindingForUser (s : State) (user : User) (pluginId bindingId : RowId) :
    Except HttpError State := do
  let _ ← requireUserVisiblePlugin s user pluginId
  match s.rows.find? fun row => row.id = bindingId ∧ row.pluginId = pluginId with
  | none => .error ⟨404, "Plugin target binding not found"⟩
  | some row =>
    if canUserManageBindingTarget s user row.toPluginTargetBinding then
      return { s with rows := s.rows.filter fun row => row.id ≠ bindingId }
    else .error ⟨403, "Plugin target binding access denied"⟩

/-! ## Runs -/

inductive Event where
  | addBinding (user : User) (pluginId : RowId) (targetType targetId : String) (newId : RowId)
  | deleteBinding (user : User) (pluginId bindingId : RowId)
  /-- What else is written: cocoons, rooms and their members, users and their groups, who sees a
  plugin, configs, and what the manager writes.  Plugins that are deleted take their bindings. -/
  | elsewhere (manager : Manager) (members : List ChatGroupMember) (kept : RowId → Bool)

def ownerOf (db : Db) : Target → Option RowId
  | .cocoon id => (get db.cocoons id).map Cocoon.ownerUserId
  | .chatGroup _ => none

/-- Others leave the plugins of bindings and the owners of bound cocoons, which may be deleted. -/
def Keeps (s : State) (manager : Manager) (kept : RowId → Bool) : Prop :=
  ∀ row ∈ s.rows, kept row.pluginId → row.pluginId ∈ manager.tables.plugins.map key ∧
    (ownerOf manager.db row.target = none ∨
      ownerOf manager.db row.target = ownerOf s.manager.db row.target)

instance (s : State) (manager : Manager) (kept : RowId → Bool) :
    Decidable (Keeps s manager kept) :=
  inferInstanceAs (Decidable (∀ row ∈ s.rows, _ → _ ∧ _))

/-- A request that fails leaves everything as it was. -/
def step (s : State) : Event → Option State
  | .addBinding user pluginId targetType targetId newId =>
    if newId ∈ s.rows.map fun row => row.id then none
    else some ((addTargetBindingForUser s user pluginId targetType targetId newId).toOption.getD s)
  | .deleteBinding user pluginId bindingId =>
    some ((deleteTargetBindingForUser s user pluginId bindingId).toOption.getD s)
  | .elsewhere manager members kept =>
    if Keeps s manager kept then
      some ⟨manager, s.rows.filter fun row => kept row.pluginId, members⟩
    else none

/-! ## Service and manager agree on who sees a plugin -/

section Visibility

variable {s : State} {user : User} {pluginId : RowId}

lemma foldl_addVisibility (rows : List PluginGroupVisibility) (mapping : RowId → List Bool)
    (pluginId : RowId) :
    rows.foldl addVisibility mapping pluginId =
      mapping pluginId ++ (rows.filter fun row => row.pluginId = pluginId).map
        PluginGroupVisibility.isVisible := by
  induction rows generalizing mapping with
  | nil => exact (List.append_nil _).symm
  | cons row rows ih =>
    rw [List.foldl_cons, ih, addVisibility]
    by_cases hrow : row.pluginId = pluginId
    · subst hrow
      simp
    · rw [Function.update_of_ne (Ne.symm hrow), List.filter_cons_of_neg (by simpa using hrow)]

lemma groupVisibilityMap_eq {pluginIds : List RowId} (groupIds : List RowId)
    (hmem : pluginId ∈ pluginIds) :
    groupVisibilityMap s pluginIds groupIds pluginId =
      (s.manager.groupVisibility.filter fun row =>
        row.pluginId = pluginId ∧ row.groupId ∈ groupIds).map PluginGroupVisibility.isVisible := by
  unfold groupVisibilityMap
  rw [List.isEmpty_eq_false_iff.mpr (List.ne_nil_of_mem hmem), Bool.false_or]
  split
  · next hempty => simp [List.isEmpty_iff.mp hempty]
  · rw [foldl_addVisibility, List.nil_append, List.filter_filter]
    refine congrArg _ (List.filter_congr fun row _ => ?_)
    by_cases hrow : row.pluginId = pluginId
    · simp [hrow, hmem]
    · simp [hrow]

lemma resolvePluginVisibility_eq {pluginIds : List RowId} (hmem : pluginId ∈ pluginIds)
    (userId : RowId) :
    resolvePluginVisibility (s.manager.globallyVisible pluginId)
        (groupVisibilityMap s pluginIds (s.manager.groupIds userId) pluginId) =
      s.runtime.isVisibleTo pluginId userId := by
  rw [groupVisibilityMap_eq _ hmem, resolvePluginVisibility, List.isEmpty_map, List.any_map]
  rfl

lemma requireUserVisiblePlugin_isOk_iff :
    (requireUserVisiblePlugin s user pluginId).isOk ↔
      pluginId ∈ s.manager.tables.plugins.map key ∧ s.runtime.isVisibleTo pluginId user.id := by
  unfold requireUserVisiblePlugin
  cases hget : get s.manager.tables.plugins pluginId with
  | none => exact iff_of_false nofun fun h => get_eq_none_iff.mp hget h.1
  | some plugin =>
    have hkey : plugin.id = pluginId := key_of_get hget
    have hmem : pluginId ∈ s.manager.tables.plugins.map key := get_isSome_iff.mp (hget ▸ rfl)
    dsimp only
    rw [and_iff_right hmem, hkey, resolvePluginVisibility_eq (List.mem_singleton.mpr rfl)]
    split
    · next hvisible => exact iff_of_true rfl hvisible
    · next hhidden => exact iff_of_false nofun hhidden

lemma mem_listPluginsForUser_iff :
    (∃ plugin ∈ listPluginsForUser s user, plugin.id = pluginId) ↔
      pluginId ∈ s.manager.tables.plugins.map key ∧ s.runtime.isVisibleTo pluginId user.id := by
  rw [List.mem_map]
  constructor
  · rintro ⟨plugin, hplugin, rfl⟩
    obtain ⟨hmem, hvisible⟩ := List.mem_filter.mp hplugin
    rw [resolvePluginVisibility_eq (List.mem_map_of_mem hmem)] at hvisible
    exact ⟨⟨plugin, hmem, rfl⟩, hvisible⟩
  · rintro ⟨⟨plugin, hmem, rfl⟩, hvisible⟩
    refine ⟨plugin, List.mem_filter.mpr ⟨hmem, ?_⟩, rfl⟩
    rw [resolvePluginVisibility_eq (List.mem_map_of_mem hmem)]
    exact hvisible

end Visibility

/-! ## The scope of a binding -/

/-- The scope follows from the target: the owner of a cocoon while there is one, or the room. -/
def Scoped (db : Db) (b : PluginTargetBinding) : Prop :=
  match b.target with
  | .cocoon _ => b.scopeType = "user" ∧ ∀ owner ∈ ownerOf db b.target, b.scopeId = owner
  | .chatGroup id => b.scopeType = "chat_group" ∧ b.scopeId = id

/-- What every run keeps. -/
structure WellScoped (s : State) : Prop where
  scopes : ∀ row ∈ s.rows, Scoped s.manager.db row.toPluginTargetBinding
  boundOnce : (s.rows.map fun row => (row.pluginId, row.target)).Nodup
  installed : ∀ row ∈ s.rows, row.pluginId ∈ s.manager.tables.plugins.map key

section Steps

variable {s s' : State} {user : User} {pluginId : RowId} {target : Target}
  {scope : String × RowId} {e : Event}

lemma Scoped.congr {db : Db} {b : PluginTargetBinding} (h : Scoped s.manager.db b)
    (howner : ownerOf db b.target = none ∨ ownerOf db b.target = ownerOf s.manager.db b.target) :
    Scoped db b := by
  unfold Scoped at h ⊢
  cases htarget : b.target with
  | cocoon id =>
    rw [htarget] at h howner
    refine ⟨h.1, fun owner hmem => ?_⟩
    rcases howner with hnone | hsame
    · rw [hnone] at hmem
      cases hmem
    · exact h.2 owner (hsame ▸ hmem)
  | chatGroup id =>
    rw [htarget] at h
    exact h

lemma scoped_iff {b : PluginTargetBinding}
    (hscope : scopeForBindingTarget s user b.target = .ok scope) :
    Scoped s.manager.db b ↔ (b.scopeType, b.scopeId) = scope := by
  unfold Scoped
  cases htarget : b.target with
  | cocoon id =>
    rw [htarget] at hscope
    cases hget : get s.manager.db.cocoons id with
    | none => simp [scopeForBindingTarget, hget] at hscope
    | some cocoon =>
      obtain rfl : ("user", cocoon.ownerUserId) = scope := by
        simpa [scopeForBindingTarget, hget] using hscope
      simp [ownerOf, hget]
  | chatGroup id =>
    rw [htarget] at hscope
    obtain ⟨_, -, rfl⟩ := except_map_eq_ok.mp hscope
    exact Prod.mk_inj.symm

lemma requireUserVisiblePlugin_installed {plugin : PluginDefinition}
    (h : requireUserVisiblePlugin s user pluginId = .ok plugin) :
    pluginId ∈ s.manager.tables.plugins.map key :=
  (requireUserVisiblePlugin_isOk_iff.mp (by rw [h]; rfl)).1

lemma addTargetBinding_cases {targetType targetId : String} {newId : RowId}
    (h : addTargetBindingForUser s user pluginId targetType targetId newId = .ok s') :
    s' = s ∨ ∃ target scope, pluginId ∈ s.manager.tables.plugins.map key ∧
      scopeForBindingTarget s user target = .ok scope ∧
      (∀ row ∈ s.rows, ¬ (row.pluginId = pluginId ∧ row.scopeType = scope.1 ∧
        row.scopeId = scope.2 ∧ row.target = target)) ∧
      s' = { s with rows := s.rows ++ [⟨⟨newId, scope.1, scope.2, target⟩, pluginId⟩] } := by
  obtain ⟨plugin, hplugin, h⟩ := except_bind_eq_ok.mp h
  obtain ⟨target, -, h⟩ := except_bind_eq_ok.mp h
  obtain ⟨_, -, h⟩ := except_bind_eq_ok.mp h
  obtain ⟨scope, hscope, h⟩ := except_bind_eq_ok.mp h
  dsimp only at h
  split at h
  · cases h
    exact .inl rfl
  · next hnew =>
    cases h
    refine .inr ⟨target, scope, requireUserVisiblePlugin_installed hplugin, hscope, ?_, rfl⟩
    simpa using hnew

lemma WellScoped.filter (h : WellScoped s) (p : BindingRow → Bool) :
    WellScoped { s with rows := s.rows.filter p } where
  scopes row hrow := h.scopes row (List.mem_filter.mp hrow).1
  boundOnce := h.boundOnce.sublist (List.filter_sublist.map _)
  installed row hrow := h.installed row (List.mem_filter.mp hrow).1

lemma wellScoped_addTargetBinding (h : WellScoped s) {targetType targetId : String} {newId : RowId}
    (hok : addTargetBindingForUser s user pluginId targetType targetId newId = .ok s') :
    WellScoped s' := by
  obtain rfl | ⟨target, scope, hinstalled, hscope, hnew, rfl⟩ := addTargetBinding_cases hok
  · exact h
  · refine ⟨?_, ?_, ?_⟩
    · exact List.forall_mem_append.mpr
        ⟨h.scopes, List.forall_mem_singleton.mpr ((scoped_iff hscope).mpr rfl)⟩
    · rw [List.map_append]
      refine h.boundOnce.append (List.nodup_singleton _) (List.disjoint_singleton.mpr ?_)
      -- another binding of the target would have its scope, and would have been found
      rw [List.mem_map]
      rintro ⟨row, hrow, heq⟩
      obtain ⟨hplugin, htarget⟩ : row.pluginId = pluginId ∧ row.target = target :=
        Prod.mk.inj heq
      have hsame := (scoped_iff (htarget ▸ hscope)).mp (h.scopes row hrow)
      exact hnew row hrow ⟨hplugin, congrArg Prod.fst hsame, congrArg Prod.snd hsame, htarget⟩
    · exact List.forall_mem_append.mpr ⟨h.installed, List.forall_mem_singleton.mpr hinstalled⟩

lemma wellScoped_deleteTargetBinding (h : WellScoped s) {bindingId : RowId}
    (hok : deleteTargetBindingForUser s user pluginId bindingId = .ok s') : WellScoped s' := by
  obtain ⟨_, -, hok⟩ := except_bind_eq_ok.mp hok
  split at hok
  · cases hok
  · split at hok
    · cases hok
      exact h.filter _
    · cases hok

lemma wellScoped_step (h : WellScoped s) (hs : step s e = some s') : WellScoped s' := by
  cases e with
  | addBinding user pluginId targetType targetId newId =>
    obtain ⟨-, hs⟩ := Option.ite_none_left_eq_some.mp hs
    cases hs
    cases hok : addTargetBindingForUser s user pluginId targetType targetId newId with
    | error => exact h
    | ok s' => exact wellScoped_addTargetBinding h hok
  | deleteBinding user pluginId bindingId =>
    cases hs
    cases hok : deleteTargetBindingForUser s user pluginId bindingId with
    | error => exact h
    | ok s' => exact wellScoped_deleteTargetBinding h hok
  | elsewhere manager members kept =>
    obtain ⟨hkeeps, hs⟩ := Option.ite_none_right_eq_some.mp hs
    cases hs
    refine ⟨fun row hrow => ?_, (h.filter _).boundOnce, fun row hrow => ?_⟩
    · obtain ⟨hmem, hkept⟩ := List.mem_filter.mp hrow
      exact (h.scopes row hmem).congr (hkeeps row hmem hkept).2
    · obtain ⟨hmem, hkept⟩ := List.mem_filter.mp hrow
      exact (hkeeps row hmem hkept).1

end Steps

/-! ## What every run promises -/

section Runs

variable {s₀ s : State} {es : List Event} {pluginId : RowId} {b : PluginTargetBinding}

lemma wellScoped_of_run (h₀ : s₀.rows = []) (hrun : run step s₀ es = some s) : WellScoped s := by
  refine invariant_run WellScoped (fun _ _ _ => wellScoped_step) ?_ hrun
  constructor <;> simp [h₀]

lemma canBind_cocoon_iff {user : User} {id : RowId} :
    (requireUserCanBindTarget s user (.cocoon id)).isOk ↔
      ownerOf s.manager.db (.cocoon id) = some user.id := by
  rw [requireUserCanBindTarget, ownerOf]
  cases get s.manager.db.cocoons id with
  | none => exact iff_of_false nofun nofun
  | some cocoon =>
    rw [Option.map_some, Option.some_inj]
    dsimp only
    split
    · next hown => exact iff_of_true rfl hown
    · next hother => exact iff_of_false nofun hother

lemma Scoped.canUserManage_iff (h : Scoped s.manager.db b) (user : User) :
    canUserManageBindingTarget s user b ↔ (requireUserCanBindTarget s user b.target).isOk := by
  unfold Scoped at h
  unfold canUserManageBindingTarget
  cases htarget : b.target with
  | cocoon id =>
    rw [htarget] at h
    have hkind : b.scopeType ≠ "chat_group" := by rw [h.1]; decide
    by_cases hid : b.scopeId = user.id
    · rw [if_neg fun hother => hother.2 hid, if_neg hkind]
    · rw [if_pos ⟨h.1, hid⟩, canBind_cocoon_iff]
      exact iff_of_false nofun fun howner => hid (h.2 user.id howner)
  | chatGroup id =>
    rw [htarget] at h
    have hkind : b.scopeType ≠ "user" := by rw [h.1]; decide
    rw [if_neg fun hother => hkind hother.1, if_pos h.1, h.2, requireUserCanBindTarget]
    cases requireUserCanManageChatGroup s user id <;> rfl

lemma exists_row (hb : b ∈ s.bindings pluginId) :
    ∃ row ∈ s.rows, row.pluginId = pluginId ∧ row.toPluginTargetBinding = b := by
  obtain ⟨row, hrow, rfl⟩ := List.mem_map.mp hb
  obtain ⟨hmem, hplugin⟩ := List.mem_filter.mp hrow
  exact ⟨row, hmem, of_decide_eq_true hplugin, rfl⟩

def mia : User := { id := "mia", username := "mia", passwordHash := "h" }

/-- A plugin that everyone sees, and Mia's cocoon. -/
def unbound : State where
  manager :=
    { db := { cocoons := [{ id := "den", ownerUserId := "mia", characterId := "c" }] }
      tables := { plugins := [
        { id := "weather"
          name := "weather"
          displayName := "Weather"
          pluginType := "external"
          entryModule := "main"
          dataDir := "data" }] } }

def boundDen : State :=
  { unbound with rows := [⟨⟨"b1", "user", "mia", .cocoon "den"⟩, "weather"⟩] }

lemma run_bindDen :
    run step unbound [.addBinding mia "weather" " cocoon" "den" "b1"] = some boundDen := rfl

/-- A target is bound to a plugin at most once, and those who manage a binding are those who could
make it. -/
theorem boundOnce_and_managed_of_run (h₀ : s₀.rows = []) (hrun : run step s₀ es = some s) :
    ((s.bindings pluginId).map PluginTargetBinding.target).Nodup ∧
      ∀ b ∈ s.bindings pluginId, ∀ user,
        canUserManageBindingTarget s user b ↔ (requireUserCanBindTarget s user b.target).isOk := by
  have h := wellScoped_of_run h₀ hrun
  constructor
  · have hpairs : ((s.rows.filter fun row => row.pluginId = pluginId).map fun row =>
        (row.pluginId, row.target)) =
          ((s.bindings pluginId).map PluginTargetBinding.target).map (Prod.mk pluginId) := by
      rw [State.bindings, List.map_map, List.map_map]
      refine List.map_congr_left fun row hrow => ?_
      rw [of_decide_eq_true (List.mem_filter.mp hrow).2]
      rfl
    refine List.Nodup.of_map (Prod.mk pluginId) ?_
    rw [← hpairs]
    exact h.boundOnce.sublist (List.filter_sublist.map _)
  · intro b hb user
    obtain ⟨row, hrow, -, rfl⟩ := exists_row hb
    exact (h.scopes row hrow).canUserManage_iff user

theorem boundDen_boundOnce_and_managed :
    ((boundDen.bindings "weather").map PluginTargetBinding.target).Nodup ∧
      ∀ b ∈ boundDen.bindings "weather", ∀ user, canUserManageBindingTarget boundDen user b ↔
        (requireUserCanBindTarget boundDen user b.target).isOk :=
  boundOnce_and_managed_of_run rfl run_bindDen

/-- What the manager may deliver to a cocoon comes from a plugin that its owner sees and may unbind;
what it may deliver to a room is for that room. -/
theorem delivered_of_run (h₀ : s₀.rows = []) (hrun : run step s₀ es = some s)
    (hb : b ∈ s.bindings pluginId) (hdeliver : s.runtime.canDeliver pluginId b = true) :
    match b.target with
    | .cocoon id => ∃ cocoon, get s.manager.db.cocoons id = some cocoon ∧
        ∀ user : User, user.id = cocoon.ownerUserId → canUserManageBindingTarget s user b ∧
          ∃ plugin ∈ listPluginsForUser s user, plugin.id = pluginId
    | .chatGroup id => b.scopeId = id ∧ (get s.manager.db.rooms id).isSome := by
  have h := wellScoped_of_run h₀ hrun
  obtain ⟨row, hrow, rfl, rfl⟩ := exists_row hb
  have hscope := h.scopes row hrow
  have hmanage := hscope.canUserManage_iff
  unfold Scoped at hscope
  unfold Manager.canDeliver at hdeliver
  cases htarget : row.target with
  | cocoon id =>
    rw [htarget] at hscope hmanage hdeliver
    have hkind : row.scopeType ≠ "chat_group" := by rw [hscope.1]; decide
    rw [if_neg hkind, if_pos hscope.1, Bool.and_eq_true, Bool.and_eq_true] at hdeliver
    obtain ⟨hexists, -, hvisible⟩ := hdeliver
    obtain ⟨cocoon, hget⟩ : ∃ cocoon, get s.manager.db.cocoons id = some cocoon := by
      simpa [targetCharacter, State.runtime, Option.isSome_iff_exists] using hexists
    have howner : ownerOf s.manager.db (.cocoon id) = some cocoon.ownerUserId := by
      simp [ownerOf, hget]
    refine ⟨cocoon, hget, fun user huser => ⟨?_, ?_⟩⟩
    · rw [hmanage, canBind_cocoon_iff, howner, huser]
    · rw [mem_listPluginsForUser_iff, huser, ← hscope.2 _ howner]
      exact ⟨h.installed row hrow, hvisible⟩
  | chatGroup id =>
    rw [htarget] at hscope
    rw [if_pos hscope.1, Bool.and_eq_true, hscope.2] at hdeliver
    exact ⟨hscope.2, hdeliver.1⟩

theorem boundDen_delivered : ∃ cocoon, get boundDen.manager.db.cocoons "den" = some cocoon ∧
    ∀ user : User, user.id = cocoon.ownerUserId →
      canUserManageBindingTarget boundDen user ⟨"b1", "user", "mia", .cocoon "den"⟩ ∧
        ∃ plugin ∈ listPluginsForUser boundDen user, plugin.id = "weather" :=
  @delivered_of_run unbound boundDen _ "weather" _ rfl run_bindDen (List.mem_singleton.mpr rfl) rfl

end Runs

/-- What is listed for a user is what the other requests let through, and what the manager delivers
to. -/
theorem listPluginsForUser_agrees (s : State) (user : User) (pluginId : RowId) :
    ((∃ plugin ∈ listPluginsForUser s user, plugin.id = pluginId) ↔
      (requireUserVisiblePlugin s user pluginId).isOk) ∧
    ((requireUserVisiblePlugin s user pluginId).isOk ↔
      pluginId ∈ s.manager.tables.plugins.map key ∧ s.runtime.isVisibleTo pluginId user.id) :=
  ⟨mem_listPluginsForUser_iff.trans requireUserVisiblePlugin_isOk_iff.symm,
    requireUserVisiblePlugin_isOk_iff⟩

end PluginRuntimeManager.TargetBindings

end CocoonSit
