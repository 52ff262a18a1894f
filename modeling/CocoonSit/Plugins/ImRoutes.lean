import CocoonSit.Lib.Owned
import CocoonSit.Plugins.ImRpc

/-!
# Routes of instant messengers, by conversation

`plugin_im_target_routes` has at most one route for each conversation of a plugin.  As long as that
holds, the methods that upsert and delete a route change what is found for their own conversation
and nothing else.
-/

namespace CocoonSit

open Table

namespace ImRpc

def PluginImTargetRoute.conversation (route : PluginImTargetRoute) : ImConversation where
  externalPlatform := route.externalPlatform
  conversationKind := route.conversationKind
  externalAccountId := route.externalAccountId
  externalConversationId := route.externalConversationId

/-- The columns of the unique constraint. -/
def PluginImTargetRoute.uniqueKey (route : PluginImTargetRoute) : RowId × ImConversation :=
  (route.pluginId, route.conversation)

/-- What the database's constraints say of the table. -/
structure RoutesUnique (routes : List PluginImTargetRoute) : Prop where
  ids : (routes.map key).Nodup
  uniqueKeys : (routes.map PluginImTargetRoute.uniqueKey).Nodup

variable {out : RpcOutside} {t : ImTables} {pluginId : RowId} {conv conv' : ImConversation}
  {target : RouteTarget} {route : PluginImTargetRoute}

lemma isOf_iff : route.IsOf pluginId conv ↔ route.uniqueKey = (pluginId, conv) := by
  cases conv
  simp [PluginImTargetRoute.IsOf, PluginImTargetRoute.uniqueKey, PluginImTargetRoute.conversation]

lemma uniqueKey_of_findRoute (h : findRoute t.imTargetRoutes pluginId conv = some route) :
    route ∈ t.imTargetRoutes ∧ route.uniqueKey = (pluginId, conv) := by
  refine ⟨List.mem_of_find?_eq_some h, isOf_iff.mp ?_⟩
  simpa using List.find?_some h

lemma uniqueKey_newRoute : (newRoute out pluginId conv target).uniqueKey = (pluginId, conv) := rfl

lemma uniqueKey_retargeted : (route.retargeted target).uniqueKey = route.uniqueKey := rfl

lemma notMem_of_findRoute_eq_none (h : findRoute t.imTargetRoutes pluginId conv = none) :
    (pluginId, conv) ∉ t.imTargetRoutes.map PluginImTargetRoute.uniqueKey := by
  intro hmem
  obtain ⟨route, hroute, hkey⟩ := List.mem_map.mp hmem
  have hnone := List.find?_eq_none.mp h route hroute
  rw [decide_eq_true_eq] at hnone
  exact hnone (isOf_iff.mpr hkey)

lemma map_uniqueKey_update {id : RowId} :
    (update t.imTargetRoutes id fun r => r.retargeted target).map PluginImTargetRoute.uniqueKey =
      t.imTargetRoutes.map PluginImTargetRoute.uniqueKey := by
  rw [update, List.map_map]
  refine List.map_congr_left fun r _ => ?_
  simp only [Function.comp_apply]
  split
  · exact uniqueKey_retargeted
  · rfl

/-! ## Upserts -/

lemma RoutesUnique.upsertRoute (h : RoutesUnique t.imTargetRoutes)
    (hnew : findRoute t.imTargetRoutes pluginId conv = none →
      out.newId ∉ t.imTargetRoutes.map key) :
    RoutesUnique (t.upsertRoute out pluginId conv target).imTargetRoutes := by
  cases hfind : findRoute t.imTargetRoutes pluginId conv with
  | none =>
    simp only [ImTables.upsertRoute, hfind]
    constructor
    · rw [List.map_append, List.map_singleton, ← List.concat_eq_append, List.nodup_concat]
      exact ⟨hnew hfind, h.ids⟩
    · rw [List.map_append, List.map_singleton, ← List.concat_eq_append, List.nodup_concat]
      exact ⟨notMem_of_findRoute_eq_none hfind, h.uniqueKeys⟩
  | some route =>
    simp only [ImTables.upsertRoute, hfind]
    constructor
    · have hkey : ∀ r : PluginImTargetRoute, key (r.retargeted target) = key r := fun _ => rfl
      rw [map_key_update hkey]
      exact h.ids
    · rw [map_uniqueKey_update]
      exact h.uniqueKeys

lemma findRoute_upsertRoute (h : RoutesUnique t.imTargetRoutes) :
    findRoute (t.upsertRoute out pluginId conv target).imTargetRoutes pluginId conv' =
      if conv' = conv then some (upsertedRoute out t pluginId conv target)
      else findRoute t.imTargetRoutes pluginId conv' := by
  cases hfind : findRoute t.imTargetRoutes pluginId conv with
  | none =>
    simp only [ImTables.upsertRoute, upsertedRoute, hfind]
    rw [findRoute, List.find?_append]
    by_cases hconv : conv' = conv
    · rw [if_pos hconv, hconv]
      change (findRoute t.imTargetRoutes pluginId conv).or _ = _
      rw [hfind, Option.none_or]
      exact List.find?_cons_of_pos (decide_eq_true (isOf_iff.mpr uniqueKey_newRoute))
    · rw [if_neg hconv]
      have hother : ¬ (newRoute out pluginId conv target).IsOf pluginId conv' := by
        rw [isOf_iff, uniqueKey_newRoute]
        exact fun heq => hconv (Prod.mk.inj heq).2.symm
      rw [List.find?_cons_of_neg (by simpa using hother), List.find?_nil, Option.or_none]
      rfl
  | some route =>
    simp only [ImTables.upsertRoute, upsertedRoute, hfind]
    have hsearch : ∀ r : PluginImTargetRoute,
        decide ((r.retargeted target).IsOf pluginId conv') = decide (r.IsOf pluginId conv') :=
      fun _ => rfl
    rw [findRoute, find?_update hsearch]
    obtain ⟨hmem, hkey⟩ := uniqueKey_of_findRoute hfind
    by_cases hconv : conv' = conv
    · rw [if_pos hconv, hconv]
      change (findRoute t.imTargetRoutes pluginId conv).map _ = _
      rw [hfind, Option.map_some, key_imTargetRoute, if_pos rfl]
    · rw [if_neg hconv]
      change (findRoute t.imTargetRoutes pluginId conv').map _ = findRoute t.imTargetRoutes _ _
      cases hfind' : findRoute t.imTargetRoutes pluginId conv' with
      | none => rfl
      | some route' =>
        -- two rows of one key are one row
        obtain ⟨hmem', hkey'⟩ := uniqueKey_of_findRoute hfind'
        refine congrArg some (if_neg fun hid => hconv ?_)
        have hsame : route' = route := List.inj_on_of_nodup_map h.ids hmem' hmem hid
        rw [hsame, hkey] at hkey'
        exact (Prod.mk.inj hkey').2.symm

/-! ## Deletions -/

lemma RoutesUnique.deleteRoute (h : RoutesUnique t.imTargetRoutes) :
    RoutesUnique (t.deleteRoute route).imTargetRoutes :=
  ⟨h.ids.sublist (List.filter_sublist.map _), h.uniqueKeys.sublist (List.filter_sublist.map _)⟩

lemma findRoute_deleteRoute (h : RoutesUnique t.imTargetRoutes)
    (hfind : findRoute t.imTargetRoutes pluginId conv = some route) :
    findRoute (t.deleteRoute route).imTargetRoutes pluginId conv' =
      if conv' = conv then none else findRoute t.imTargetRoutes pluginId conv' := by
  obtain ⟨hmem, hkey⟩ := uniqueKey_of_findRoute hfind
  by_cases hconv : conv' = conv
  · rw [if_pos hconv, hconv, findRoute, List.find?_eq_none]
    intro r hr hof
    obtain ⟨hr, hne⟩ := List.mem_filter.mp hr
    have hsame : r = route := List.inj_on_of_nodup_map h.uniqueKeys hr hmem
      ((isOf_iff.mp (by simpa using hof)).trans hkey.symm)
    simp [hsame] at hne
  · rw [if_neg hconv]
    refine Owned.find?_filter_of_find? fun route' hfind' => ?_
    obtain ⟨_, hkey'⟩ := uniqueKey_of_findRoute (t := t) hfind'
    refine decide_eq_true fun hid => hconv ?_
    have hsame : route' = route :=
      List.inj_on_of_nodup_map h.ids (List.mem_of_find?_eq_some hfind') hmem hid
    rw [hsame, hkey] at hkey'
    exact (Prod.mk.inj hkey').2.symm

end ImRpc

end CocoonSit
