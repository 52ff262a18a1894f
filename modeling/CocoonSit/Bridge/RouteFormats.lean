import CocoonSit.Bridge.RouteFile

/-!
# Loading the route file

What a file of each format must look like for `_load` to return, and what the bridge then routes a
conversation to.
-/

namespace CocoonSit.RouteFile

open PyDict PyValue Table Traverse

/-! ## Shapes -/

/-- `v or {}` is a `dict`. -/
def ObjectLike (v : Option PyValue) : Prop := v.filter truthy = none ∨ ∃ d, v = some (.dict d)

/-- `dict(v or {})` returns: `v` is false, a `dict`, or a list of pairs. -/
def DictLike (v : Option PyValue) : Prop :=
  ObjectLike v ∨ ∃ items, v = some (.list items) ∧ ∀ item ∈ items, (asPair item).isSome

/-- `list(v or [])` returns: `v` is false, or no number and no bool. -/
def ListLike (v : Option PyValue) : Prop :=
  v.filter truthy = none ∨ (∃ items, v = some (.list items)) ∨ (∃ s, v = some (.str s)) ∨
    ∃ d, v = some (.dict d)

lemma isSome_fieldsOf {v : Option PyValue} : (fieldsOf v).isSome ↔ ObjectLike v := by
  unfold fieldsOf ObjectLike
  cases hv : v.filter truthy with
  | none => simp
  | some w =>
    obtain rfl := (Option.filter_eq_some_iff.mp hv).1
    cases w <;> simp

lemma isSome_dictOf {v : Option PyValue} : (dictOf v).isSome ↔ DictLike v := by
  unfold dictOf DictLike ObjectLike
  cases hv : v.filter truthy with
  | none => simp
  | some w =>
    obtain rfl := (Option.filter_eq_some_iff.mp hv).1
    cases w with
    | list items => simp [isSome_mapM_iff]
    | _ => simp

lemma isSome_listOf {v : Option PyValue} : (listOf v).isSome ↔ ListLike v := by
  unfold listOf ListLike
  cases hv : v.filter truthy with
  | none => simp
  | some w =>
    obtain rfl := (Option.filter_eq_some_iff.mp hv).1
    cases w <;> simp

/-- What `dict(v or {})` is where it returns. -/
def coerced (v : Option PyValue) : PyDict := (dictOf v).getD []

lemma eq_coerced {v : Option PyValue} {d : PyDict} (h : dictOf v = some d) : d = coerced v := by
  rw [coerced, h, Option.getD_some]

section Loading

variable (pyStr : PyValue → String)

/-- The route of a binding can be read, and the target that it names. -/
def LoadableGroup (targets : PyDict) (value : PyValue) : Prop :=
  ∀ d : PyDict, value = .dict d → DictLike (d.field "route") ∧
    (coerced (d.field "route") ≠ [] →
      DictLike (targets.field (strippedField pyStr (coerced (d.field "route")) "target_id")))

/-- A file with `bindings` has dicts and a list where they are asked for. -/
structure LoadableBindings (payload : PyDict) : Prop where
  bindings : ObjectLike (payload.field "bindings")
  privateBindings : DictLike ((coerced (payload.field "bindings")).field "private")
  groupBindings : DictLike ((coerced (payload.field "bindings")).field "group")
  targets : DictLike (payload.field "targets")
  platformBindings : DictLike (payload.field "platform_bindings")
  groupStates : DictLike (payload.field "group_states")
  opUserIds : ListLike (payload.field "op_user_ids")
  groups : coerced (payload.field "group_states") = [] →
    ∀ f ∈ coerced ((coerced (payload.field "bindings")).field "group"),
      LoadableGroup pyStr (coerced (payload.field "targets")) f.2

/-- The metadata of an entry of the first format can be read, and the tags in it where they are
asked for. -/
def LoadableEntry (asksTags : PyDict → Prop) (value : PyValue) : Prop :=
  ∀ d, legacyFields value = some d → DictLike (d.field "metadata_json") ∧
    (asksTags d → ListLike ((coerced (d.field "metadata_json")).field "tags"))

structure LoadableLegacy (payload : PyDict) : Prop where
  privateEntries : ∀ f ∈ bucketOf (payload.field "private"), LoadableEntry (fun _ => True) f.2
  groupEntries : ∀ f ∈ bucketOf (payload.field "group"),
    LoadableEntry (fun d => strippedField pyStr d "target_id" ≠ "") f.2

/-- The condition on the content of the file. -/
def Loadable : Option PyValue → Prop
  | some (.dict payload) =>
    if (field payload "bindings").isSome then LoadableBindings pyStr payload
    else LoadableLegacy pyStr payload
  | _ => True

variable {pyStr} {now : String}

lemma isSome_migratedState {targets : PyDict} {value : PyValue} :
    (migratedState pyStr now targets value).isSome ↔ LoadableGroup pyStr targets value := by
  unfold migratedState LoadableGroup
  split
  · next d =>
    simp only [PyValue.dict.injEq, forall_eq']
    refine (isSome_bind_iff []).trans (and_congr isSome_dictOf ?_)
    change (Option.isSome (if (coerced (field d "route")).isEmpty then _ else _)) = true ↔ _
    split
    · next hempty => simp [List.isEmpty_iff.mp hempty]
    · next hroute =>
      rw [List.isEmpty_iff] at hroute
      simp only [ne_eq, hroute, not_false_eq_true, forall_const]
      refine (isSome_bind_iff []).trans ?_
      rw [isSome_dictOf]
      exact and_iff_left rfl
  · next hne => simpa using fun d hd => absurd hd (hne d)

lemma isSome_migrateGroupBindings {groupBindings targets : PyDict} :
    (migrateGroupBindings pyStr now groupBindings targets).isSome ↔
      ∀ f ∈ groupBindings, LoadableGroup pyStr targets f.2 := by
  refine isSome_foldlM_iff fun states f => ?_
  rw [← @isSome_migratedState pyStr now]
  cases migratedState pyStr now targets f.2 <;> simp

lemma fieldsOf_eq {v : Option PyValue} (h : ObjectLike v) : fieldsOf v = some (coerced v) := by
  unfold coerced fieldsOf dictOf
  rcases h with h | ⟨d, rfl⟩
  · rw [h]
    rfl
  · cases hv : (some (PyValue.dict d)).filter truthy with
    | none => rfl
    | some w =>
      obtain rfl := Option.some.inj (Option.filter_eq_some_iff.mp hv).1
      rfl

lemma isSome_loadBindings {payload : PyDict} :
    (loadBindings pyStr now payload).isSome ↔ LoadableBindings pyStr payload := by
  have hstates : ∀ bindings targets groupStates : PyDict,
      (statesOf pyStr now bindings targets groupStates).isSome ↔
      (groupStates = [] → ∀ f ∈ bindings, LoadableGroup pyStr targets f.2) := by
    intro bindings targets groupStates
    unfold statesOf
    split
    · next hempty =>
      rw [isSome_migrateGroupBindings]
      exact ⟨fun h _ => h, fun h => h (List.isEmpty_iff.mp hempty)⟩
    · next hne => simp [List.isEmpty_iff.not.mp hne]
  constructor
  · intro h
    unfold loadBindings at h
    obtain ⟨hbindings, h⟩ := (isSome_bind_iff []).mp h
    rw [isSome_fieldsOf] at hbindings
    rw [fieldsOf_eq hbindings, Option.getD_some] at h
    obtain ⟨hprivate, h⟩ := (isSome_bind_iff []).mp h
    obtain ⟨hgroup, h⟩ := (isSome_bind_iff []).mp h
    obtain ⟨htargets, h⟩ := (isSome_bind_iff []).mp h
    obtain ⟨hplatform, h⟩ := (isSome_bind_iff []).mp h
    obtain ⟨hgroupStates, h⟩ := (isSome_bind_iff []).mp h
    obtain ⟨hops, h⟩ := (isSome_bind_iff []).mp h
    obtain ⟨hmigrated, -⟩ := (isSome_bind_iff []).mp h
    exact ⟨hbindings, isSome_dictOf.mp hprivate, isSome_dictOf.mp hgroup, isSome_dictOf.mp htargets,
      isSome_dictOf.mp hplatform, isSome_dictOf.mp hgroupStates, isSome_listOf.mp hops,
      (hstates _ _ _).mp hmigrated⟩
  · intro h
    unfold loadBindings
    refine (isSome_bind_iff []).mpr ⟨isSome_fieldsOf.mpr h.bindings, ?_⟩
    rw [fieldsOf_eq h.bindings, Option.getD_some]
    refine (isSome_bind_iff []).mpr ⟨isSome_dictOf.mpr h.privateBindings, ?_⟩
    refine (isSome_bind_iff []).mpr ⟨isSome_dictOf.mpr h.groupBindings, ?_⟩
    refine (isSome_bind_iff []).mpr ⟨isSome_dictOf.mpr h.targets, ?_⟩
    refine (isSome_bind_iff []).mpr ⟨isSome_dictOf.mpr h.platformBindings, ?_⟩
    refine (isSome_bind_iff []).mpr ⟨isSome_dictOf.mpr h.groupStates, ?_⟩
    refine (isSome_bind_iff []).mpr ⟨isSome_listOf.mpr h.opUserIds, ?_⟩
    exact (isSome_bind_iff []).mpr ⟨(hstates _ _ _).mpr h.groups, rfl⟩

lemma isSome_rememberTarget {value : PyDict} {tags : Option PyValue} {migrated : Payload} :
    (rememberTarget pyStr now value tags migrated).isSome ↔
      (strippedField pyStr value "target_id" ≠ "" → ListLike tags) := by
  unfold rememberTarget
  split
  · next hblank => simp [hblank]
  · next htarget =>
    rw [← isSome_listOf]
    cases listOf tags <;> simp [htarget]

lemma isSome_migratePrivate (migrated : Payload) (f : PyKey × PyValue) :
    (migratePrivate pyStr now migrated f).isSome ↔ LoadableEntry (fun _ => True) f.2 := by
  unfold migratePrivate LoadableEntry
  cases legacyFields f.2 with
  | none => simp
  | some value =>
    simp only [Option.some.injEq, forall_eq', forall_const]
    refine (isSome_bind_iff []).trans (and_congr isSome_dictOf ?_)
    refine (isSome_bind_iff []).trans ?_
    rw [isSome_listOf, isSome_rememberTarget]
    exact and_iff_left_of_imp fun h _ => h

lemma isSome_migrateGroup (migrated : Payload) (f : PyKey × PyValue) :
    (migrateGroup pyStr now migrated f).isSome ↔
      LoadableEntry (fun d => strippedField pyStr d "target_id" ≠ "") f.2 := by
  unfold migrateGroup LoadableEntry
  cases legacyFields f.2 with
  | none => simp
  | some value =>
    simp only [Option.some.injEq, forall_eq']
    refine (isSome_bind_iff []).trans (and_congr isSome_dictOf ?_)
    exact isSome_rememberTarget

lemma isSome_migrateLegacyPayload {payload : PyDict} :
    (migrateLegacyPayload pyStr now payload).isSome ↔ LoadableLegacy pyStr payload := by
  refine (isSome_bind_iff {}).trans ?_
  rw [isSome_foldlM_iff isSome_migratePrivate, isSome_foldlM_iff isSome_migrateGroup]
  exact ⟨fun h => ⟨h.1, h.2⟩, fun h => ⟨h.privateEntries, h.groupEntries⟩⟩

/-- `_load` returns if the file has the shapes that it coerces. -/
theorem isSome_load_iff {content : Option PyValue} :
    (load pyStr now content).isSome ↔ Loadable pyStr content := by
  cases content with
  | none => simp [load, Loadable]
  | some v =>
    cases v with
    | dict payload =>
      unfold load Loadable
      by_cases hbindings : (field payload "bindings").isSome
      · simp only [hbindings, if_true]
        exact isSome_loadBindings
      · simp only [hbindings]
        exact isSome_migrateLegacyPayload
    | _ => simp [load, Loadable]

/-! ## What a file records -/

/-- A route names its target by texts. -/
structure RouteShape (route : PyDict) (targetType targetId : String) : Prop where
  targetType : route.field "target_type" = some (.str targetType)
  targetId : route.field "target_id" = some (.str targetId)
  metadataJson : ObjectLike (route.field "metadata_json")

/-- What an entry records of its conversation: the target of its route while it is `on`. -/
inductive EntryRoute (on : PyDict → Bool) : Option PyValue → Option (String × String) → Prop
  | absent : EntryRoute on none none
  | off {entry : PyDict} (h : on entry = false) : EntryRoute on (some (.dict entry)) none
  | routed {entry route : PyDict} {targetType targetId : String} (h : on entry = true)
      (hroute : entry.field "route" = some (.dict route))
      (hshape : RouteShape route targetType targetId) (htags : ListLike (entry.field "tags")) :
      EntryRoute on (some (.dict entry)) (some (targetType, targetId))

/-- What an entry of the first format records. -/
inductive LegacyRoute : Option PyValue → Option (String × String) → Prop
  | absent : LegacyRoute none none
  | skipped {v : PyValue} (h : legacyFields v = none) : LegacyRoute (some v) none
  | routed {entry : PyDict} {targetType targetId : String}
      (htype : entry.field "target_type" = some (.str targetType))
      (hid : entry.field "target_id" = some (.str targetId)) :
      LegacyRoute (some (.dict entry)) (some (strip targetType, strip targetId))

/-- What a file records of a conversation: in its bindings and its group states, in its bindings
where it has no group states, or in the two buckets of the first format. -/
inductive Records (payload : PyDict) (key : String) :
    (messageKind : String) → Option (String × String) → Prop
  | privateBinding {r : Option (String × String)} (h : (payload.field "bindings").isSome)
      (hentry : EntryRoute (isSet · "attached")
        ((coerced ((coerced (payload.field "bindings")).field "private")).field key) r) :
      Records payload key "private" r
  | groupState {r : Option (String × String)} (h : (payload.field "bindings").isSome)
      (hstates : coerced (payload.field "group_states") ≠ [])
      (hentry : EntryRoute (fun entry => isSet entry "enabled" && isSet entry "attached")
        ((coerced (payload.field "group_states")).field key) r) :
      Records payload key "group" r
  | groupBinding {r : Option (String × String)} (h : (payload.field "bindings").isSome)
      (hstates : coerced (payload.field "group_states") = [])
      (hentry : EntryRoute (isSet · "attached")
        ((coerced ((coerced (payload.field "bindings")).field "group")).field key) r) :
      Records payload key "group" r
  | legacyPrivate {r : Option (String × String)} (h : payload.field "bindings" = none)
      (hentry : LegacyRoute ((bucketOf (payload.field "private")).field key) r) :
      Records payload key "private" r
  | legacyGroup {r : Option (String × String)} (h : payload.field "bindings" = none)
      (hentry : LegacyRoute ((bucketOf (payload.field "group")).field key) r) :
      Records payload key "group" r

/-- The target that `_binding_route` returns. -/
def routedTo (pyStr : PyValue → String) (s : Payload)
    (messageKind accountId conversationId : String) : Option (Option (String × String)) :=
  (bindingRoute pyStr s messageKind accountId conversationId).map
    (Option.map fun route => (route.targetType, route.targetId))

/-! ## Routing -/

@[simp] lemma dictOf_dict (d : PyDict) : dictOf (some (.dict d)) = some d := by
  cases d <;> rfl

lemma dictOf_of_objectLike {v : Option PyValue} (h : ObjectLike v) :
    dictOf v = some (coerced v) := by
  obtain ⟨d, hd⟩ := Option.isSome_iff_exists.mp (isSome_dictOf.mpr (.inl h))
  rw [coerced, hd, Option.getD_some]

lemma textOr_str (pyStr : PyValue → String) (text : String) :
    textOr pyStr "" (some (.str text)) = text := by
  by_cases htext : text = ""
  · subst htext
    rfl
  · have htrue : truthy (.str text) = true := by simp [truthy, htext]
    rw [textOr, Option.filter_some, if_pos htrue]
    rfl

lemma RouteShape.ne_nil {route : PyDict} {targetType targetId : String}
    (h : RouteShape route targetType targetId) : route ≠ [] := by
  rintro rfl
  cases h.targetId

lemma RouteShape.inbound {route : PyDict} {targetType targetId : String}
    (h : RouteShape route targetType targetId) :
    (inboundRoute pyStr route).map
      (Option.map fun route => (route.targetType, route.targetId)) =
        some (some (targetType, targetId)) := by
  rw [inboundRoute, if_neg (List.isEmpty_iff.not.mpr h.ne_nil), dictOf_of_objectLike h.metadataJson,
    h.targetType, h.targetId, textOr_str, textOr_str]
  rfl

lemma RouteShape.setMetadata {route metadataJson : PyDict} {targetType targetId : String}
    (h : RouteShape route targetType targetId) :
    RouteShape (route.set (.text "metadata_json") (.dict metadataJson)) targetType targetId where
  targetType := by
    rw [field, find_set, if_neg (by decide)]
    exact h.targetType
  targetId := by
    rw [field, find_set, if_neg (by decide)]
    exact h.targetId
  metadataJson := by
    rw [field, find_set, if_pos rfl]
    exact .inr ⟨_, rfl⟩

variable {s : Payload} {accountId conversationId : String} {r : Option (String × String)}

lemma routed_of_entry {route : PyDict → Option (Option InboundRoute)} {entry : PyDict}
    (hempty : route [] = some none) :
    ((dictOf (some (.dict entry))).map fun d => if d.isEmpty then none else some d).bind
      (fun d => d.elim (some none) route) = route entry := by
  rw [dictOf_dict]
  cases entry with
  | nil => exact hempty.symm
  | cons f entry => rfl

lemma routedTo_private
    (h : EntryRoute (isSet · "attached")
      (s.privateBindings.field (bindingKey accountId conversationId)) r) :
    routedTo pyStr s "private" accountId conversationId = some r := by
  have hroute : bindingRoute pyStr s "private" accountId conversationId =
      ((dictOf (s.privateBindings.field (bindingKey accountId conversationId))).map fun d =>
        if d.isEmpty then none else some d).bind fun d => d.elim (some none) (taggedRoute pyStr) :=
    rfl
  rw [routedTo, hroute]
  cases hentry : s.privateBindings.field (bindingKey accountId conversationId) with
  | none =>
    rw [hentry] at h
    cases h
    rfl
  | some v =>
    rw [hentry] at h
    cases h with
    | off h =>
      rw [routed_of_entry rfl, taggedRoute, h]
      rfl
    | routed h hfield hshape htags =>
      obtain ⟨tags, htags⟩ := Option.isSome_iff_exists.mp (isSome_listOf.mpr htags)
      rw [routed_of_entry rfl, taggedRoute, h, if_pos rfl, hfield, dictOf_dict]
      change Option.map _ (if List.isEmpty _ then _ else _) = _
      rw [if_neg (List.isEmpty_iff.not.mpr hshape.ne_nil),
        dictOf_of_objectLike hshape.metadataJson, htags]
      exact hshape.setMetadata.inbound

lemma routedTo_group
    (h : EntryRoute (fun entry => isSet entry "enabled" && isSet entry "attached")
      (s.groupStates.field (bindingKey accountId conversationId)) r) :
    routedTo pyStr s "group" accountId conversationId = some r := by
  have hroute : bindingRoute pyStr s "group" accountId conversationId =
      ((dictOf (s.groupStates.field (bindingKey accountId conversationId))).map fun d =>
        if d.isEmpty then none else some d).bind fun d => d.elim (some none) (stateRoute pyStr) :=
    rfl
  rw [routedTo, hroute]
  cases hentry : s.groupStates.field (bindingKey accountId conversationId) with
  | none =>
    rw [hentry] at h
    cases h
    rfl
  | some v =>
    rw [hentry] at h
    cases h with
    | off h =>
      rw [routed_of_entry rfl, stateRoute, h]
      rfl
    | routed h hfield hshape htags =>
      rw [routed_of_entry rfl, stateRoute, h, if_pos rfl, hfield, dictOf_dict]
      exact hshape.inbound

/-! ## What is loaded -/

lemma find_foldlM {σ : Type*} {step : σ → PyKey × PyValue → Option σ} (stored : σ → PyDict)
    (g : PyValue → Option PyValue)
    (hstep : ∀ s f s', step s f = some s' →
      stored s' = (g f.2).elim (stored s) ((stored s).set f.1))
    {bucket : PyDict} (hnodup : (bucket.map key).Nodup) {s s' : σ}
    (h : bucket.foldlM step s = some s') (k : PyKey) :
    (stored s').find k = ((bucket.find k).bind g).or ((stored s).find k) := by
  induction bucket generalizing s with
  | nil =>
    cases h
    rfl
  | cons f bucket ih =>
    rw [List.foldlM_cons] at h
    obtain ⟨s₁, hs₁, h⟩ := Option.bind_eq_some_iff.mp h
    obtain ⟨hhead, htail⟩ := List.nodup_cons.mp hnodup
    rw [ih htail h, hstep s f s₁ hs₁]
    by_cases hk : f.1 = k
    · subst hk
      have hnone : find bucket f.1 = none := find_eq_none_iff.mpr hhead
      rw [hnone, find_cons, if_pos rfl, Option.bind_none, Option.none_or, Option.bind_some]
      cases g f.2 with
      | none => rfl
      | some v => rw [Option.elim_some, find_set, if_pos rfl, Option.some_or]
    · rw [find_cons, if_neg hk]
      cases g f.2 with
      | none => rfl
      | some v => rw [Option.elim_some, find_set, if_neg (Ne.symm hk)]

lemma loadBindings_eq {payload : PyDict} (h : loadBindings pyStr now payload = some s) :
    s.privateBindings = coerced ((coerced (payload.field "bindings")).field "private") ∧
      s.groupBindings = coerced ((coerced (payload.field "bindings")).field "group") ∧
      s.otherBindings = [] ∧ s.targets = coerced (payload.field "targets") ∧
      s.platformBindings = coerced (payload.field "platform_bindings") ∧
      statesOf pyStr now s.groupBindings s.targets (coerced (payload.field "group_states")) =
        some s.groupStates ∧
      ∃ items, s.opUserIds = opUserIdsOf pyStr items := by
  unfold loadBindings at h
  obtain ⟨bindings, hbindings, h⟩ := Option.bind_eq_some_iff.mp h
  have hlike := isSome_fieldsOf.mp (Option.isSome_iff_exists.mpr ⟨bindings, hbindings⟩)
  obtain rfl : bindings = coerced (payload.field "bindings") :=
    Option.some.inj (hbindings.symm.trans (fieldsOf_eq hlike))
  obtain ⟨privateBindings, hprivate, h⟩ := Option.bind_eq_some_iff.mp h
  obtain ⟨groupBindings, hgroup, h⟩ := Option.bind_eq_some_iff.mp h
  obtain ⟨targets, htargets, h⟩ := Option.bind_eq_some_iff.mp h
  obtain ⟨platformBindings, hplatform, h⟩ := Option.bind_eq_some_iff.mp h
  obtain ⟨groupStates, hgroupStates, h⟩ := Option.bind_eq_some_iff.mp h
  obtain ⟨items, -, h⟩ := Option.bind_eq_some_iff.mp h
  obtain ⟨states, hstates, h⟩ := Option.bind_eq_some_iff.mp h
  cases h
  refine ⟨eq_coerced hprivate, eq_coerced hgroup, rfl, eq_coerced htargets, eq_coerced hplatform,
    ?_, items, rfl⟩
  rw [← eq_coerced hgroupStates]
  exact hstates

lemma migratedState_spec {targets fields : PyDict} {state : Option PyValue}
    (h : migratedState pyStr now targets (.dict fields) = some state) :
    (coerced (fields.field "route") = [] ∧ state = none) ∨
      (coerced (fields.field "route") ≠ [] ∧ ∃ target,
        state = some (boundState pyStr now fields (coerced (fields.field "route")) target)) := by
  obtain ⟨route, hroute, h⟩ := Option.bind_eq_some_iff.mp h
  obtain rfl := eq_coerced hroute
  by_cases hempty : coerced (field fields "route") = []
  · rw [if_pos (List.isEmpty_iff.mpr hempty)] at h
    exact .inl ⟨hempty, (Option.some.inj h).symm⟩
  · rw [if_neg (List.isEmpty_iff.not.mpr hempty)] at h
    obtain ⟨target, -, h⟩ := Option.bind_eq_some_iff.mp h
    exact .inr ⟨hempty, target, (Option.some.inj h).symm⟩

lemma entryRoute_migrated {targets : PyDict} {v : Option PyValue}
    (h : EntryRoute (isSet · "attached") v r)
    (hok : ∀ w, v = some w → (migratedState pyStr now targets w).isSome) :
    EntryRoute (fun entry => isSet entry "enabled" && isSet entry "attached")
      (v.bind fun w => (migratedState pyStr now targets w).join) r := by
  cases h with
  | absent => exact .absent
  | @off entry h =>
    obtain ⟨state, hstate⟩ := Option.isSome_iff_exists.mp (hok _ rfl)
    rw [Option.bind_some, hstate, Option.join_some]
    obtain ⟨-, rfl⟩ | ⟨-, target, rfl⟩ := migratedState_spec hstate
    · exact .absent
    · refine .off ?_
      rw [Bool.and_eq_false_iff]
      exact .inr h
  | @routed entry route targetType targetId h hfield hshape htags =>
    obtain ⟨state, hstate⟩ := Option.isSome_iff_exists.mp (hok _ rfl)
    rw [Option.bind_some, hstate, Option.join_some]
    have hroute : coerced (field entry "route") = route := by
      rw [show field entry "route" = some (.dict route) from hfield, coerced, dictOf_dict,
        Option.getD_some]
    obtain ⟨hempty, -⟩ | ⟨-, target, rfl⟩ := migratedState_spec hstate
    · exact absurd (hroute.symm.trans hempty) hshape.ne_nil
    · rw [show coerced (PyDict.field entry "route") = route from hroute]
      refine .routed ?_ rfl hshape (.inl rfl)
      rw [Bool.and_eq_true]
      exact ⟨rfl, h⟩

/-! ## The first format -/

/-- What an entry of `private` becomes. -/
def legacyBindingOf (pyStr : PyValue → String) (now : String) (v : PyValue) : Option PyValue :=
  (legacyFields v).map fun value =>
    let metadataJson := coerced (value.field "metadata_json")
    legacyBinding pyStr now value metadataJson ((listOf (metadataJson.field "tags")).getD [])

/-- What an entry of `group` becomes. -/
def legacyStateOf (pyStr : PyValue → String) (now : String) (v : PyValue) : Option PyValue :=
  (legacyFields v).map fun value =>
    legacyState pyStr now value (coerced (value.field "metadata_json"))

/-- What a turn over an entry of the first format does besides storing what the entry becomes. -/
structure Migrates (pyStr : PyValue → String) (now : String) (v : PyValue) (m m' : Payload) :
    Prop where
  groupBindings : m'.groupBindings = m.groupBindings
  otherBindings : m'.otherBindings = m.otherBindings
  platformBindings : m'.platformBindings = m.platformBindings
  opUserIds : m'.opUserIds = m.opUserIds
  targets : m'.targets = m.targets ∨ ∃ value items, legacyFields v = some value ∧
    listOf ((coerced (value.field "metadata_json")).field "tags") = some items ∧
    m'.targets = m.targets.set (.text (strippedField pyStr value "target_id"))
      (legacyTarget pyStr now value items)

lemma rememberTarget_spec {v : PyValue} {value : PyDict} {m m' : Payload}
    (hv : legacyFields v = some value)
    (h : rememberTarget pyStr now value ((coerced (value.field "metadata_json")).field "tags") m =
      some m') :
    Migrates pyStr now v m m' ∧ m'.privateBindings = m.privateBindings ∧
      m'.groupStates = m.groupStates := by
  unfold rememberTarget at h
  split at h
  · cases h
    exact ⟨⟨rfl, rfl, rfl, rfl, .inl rfl⟩, rfl, rfl⟩
  · obtain ⟨items, hitems, h⟩ := Option.bind_eq_some_iff.mp h
    cases h
    exact ⟨⟨rfl, rfl, rfl, rfl, .inr ⟨value, items, hv, hitems, rfl⟩⟩, rfl, rfl⟩

lemma migratePrivate_spec {m m' : Payload} {f : PyKey × PyValue}
    (h : migratePrivate pyStr now m f = some m') :
    Migrates pyStr now f.2 m m' ∧ m'.groupStates = m.groupStates ∧
      m'.privateBindings = (legacyBindingOf pyStr now f.2).elim m.privateBindings
        (m.privateBindings.set f.1) := by
  unfold migratePrivate at h
  unfold legacyBindingOf
  cases hfields : legacyFields f.2 with
  | none =>
    rw [hfields] at h
    cases h
    exact ⟨⟨rfl, rfl, rfl, rfl, .inl rfl⟩, rfl, rfl⟩
  | some value =>
    rw [hfields] at h
    obtain ⟨metadataJson, hmetadata, h⟩ := Option.bind_eq_some_iff.mp h
    obtain rfl := eq_coerced hmetadata
    obtain ⟨tags, htags, h⟩ := Option.bind_eq_some_iff.mp h
    obtain ⟨hrest, hprivate, hstates⟩ := rememberTarget_spec hfields h
    refine ⟨⟨hrest.groupBindings, hrest.otherBindings, hrest.platformBindings, hrest.opUserIds,
      hrest.targets⟩, hstates, ?_⟩
    rw [hprivate, Option.map_some, Option.elim_some]
    simp only [htags, Option.getD_some]

lemma migrateGroup_spec {m m' : Payload} {f : PyKey × PyValue}
    (h : migrateGroup pyStr now m f = some m') :
    Migrates pyStr now f.2 m m' ∧ m'.privateBindings = m.privateBindings ∧
      m'.groupStates = (legacyStateOf pyStr now f.2).elim m.groupStates
        (m.groupStates.set f.1) := by
  unfold migrateGroup at h
  unfold legacyStateOf
  cases hfields : legacyFields f.2 with
  | none =>
    rw [hfields] at h
    cases h
    exact ⟨⟨rfl, rfl, rfl, rfl, .inl rfl⟩, rfl, rfl⟩
  | some value =>
    rw [hfields] at h
    obtain ⟨metadataJson, hmetadata, h⟩ := Option.bind_eq_some_iff.mp h
    obtain rfl := eq_coerced hmetadata
    obtain ⟨hrest, hprivate, hstates⟩ := rememberTarget_spec hfields h
    refine ⟨⟨hrest.groupBindings, hrest.otherBindings, hrest.platformBindings, hrest.opUserIds,
      hrest.targets⟩, hprivate, ?_⟩
    rw [hstates, Option.map_some, Option.elim_some]

lemma migrateLegacyPayload_find {payload : PyDict}
    (hprivate : ((bucketOf (payload.field "private")).map key).Nodup)
    (hgroup : ((bucketOf (payload.field "group")).map key).Nodup)
    (h : migrateLegacyPayload pyStr now payload = some s) (k : PyKey) :
    s.privateBindings.find k =
        ((bucketOf (payload.field "private")).find k).bind (legacyBindingOf pyStr now) ∧
      s.groupStates.find k =
        ((bucketOf (payload.field "group")).find k).bind (legacyStateOf pyStr now) := by
  obtain ⟨m, hm, h⟩ := Option.bind_eq_some_iff.mp h
  have hbindings := find_foldlM Payload.privateBindings (legacyBindingOf pyStr now)
    (fun _ _ _ hstep => (migratePrivate_spec hstep).2.2) hprivate hm k
  have hstates := find_foldlM Payload.groupStates (legacyStateOf pyStr now)
    (fun _ _ _ hstep => (migrateGroup_spec hstep).2.2) hgroup h k
  have hkept := foldlM_induction (fun s => s.privateBindings = m.privateBindings)
    (fun _ _ _ _ hs hstep => (migrateGroup_spec hstep).2.1.trans hs) rfl h
  have hnone := foldlM_induction (fun s => s.groupStates = [])
    (fun _ _ _ _ hs hstep => (migratePrivate_spec hstep).2.1.trans hs) rfl hm
  rw [hkept, hbindings, hstates, hnone]
  exact ⟨Option.or_none .., Option.or_none ..⟩

lemma strippedField_of_str {value : PyDict} {k text : String}
    (h : value.field k = some (.str text)) : strippedField pyStr value k = strip text := by
  rw [strippedField, h, textOr_str]

lemma legacyFields_of_str {entry : PyDict} {targetType targetId : String}
    (htype : entry.field "target_type" = some (.str targetType))
    (hid : entry.field "target_id" = some (.str targetId)) :
    legacyFields (.dict entry) = some entry := by
  change (if (field entry "target_type").isSome && (field entry "target_id").isSome then some entry
    else none) = some entry
  rw [htype, hid]
  rfl

lemma routeShape_legacy {entry metadataJson : PyDict} {targetType targetId : String}
    (htype : entry.field "target_type" = some (.str targetType))
    (hid : entry.field "target_id" = some (.str targetId)) :
    RouteShape (legacyRoute pyStr entry metadataJson) (strip targetType) (strip targetId) where
  targetType := by
    rw [← @strippedField_of_str pyStr _ _ _ htype]
    rfl
  targetId := by
    rw [← @strippedField_of_str pyStr _ _ _ hid]
    rfl
  metadataJson := .inr ⟨metadataJson, rfl⟩

lemma entryRoute_legacyBinding {v : Option PyValue} (h : LegacyRoute v r) :
    EntryRoute (isSet · "attached") (v.bind (legacyBindingOf pyStr now)) r := by
  cases h with
  | absent => exact .absent
  | skipped h =>
    rw [Option.bind_some, legacyBindingOf, h]
    exact .absent
  | routed htype hid =>
    rw [Option.bind_some, legacyBindingOf, legacyFields_of_str htype hid]
    exact .routed rfl rfl (routeShape_legacy htype hid) (.inr (.inl ⟨_, rfl⟩))

lemma entryRoute_legacyState {v : Option PyValue} (h : LegacyRoute v r) :
    EntryRoute (fun entry => isSet entry "enabled" && isSet entry "attached")
      (v.bind (legacyStateOf pyStr now)) r := by
  cases h with
  | absent => exact .absent
  | skipped h =>
    rw [Option.bind_some, legacyStateOf, h]
    exact .absent
  | routed htype hid =>
    rw [Option.bind_some, legacyStateOf, legacyFields_of_str htype hid]
    exact .routed rfl rfl (routeShape_legacy htype hid) (.inl rfl)

/-! ## The routes of a loaded file -/

lemma plain_field {payload : PyDict} (h : Plain (.dict payload)) (k : String) (w : PyValue)
    (hw : payload.field k = some w) : Plain w := h.find hw

lemma nodup_coerced {v : Option PyValue} (h : ∀ w, v = some w → Plain w) :
    ((coerced v).map key).Nodup := by
  unfold coerced
  cases hd : dictOf v with
  | none => exact List.nodup_nil
  | some d => exact (plain_of_dictOf h hd).1

lemma plain_coerced {v : Option PyValue} (h : ∀ w, v = some w → Plain w) {k : PyKey} {w : PyValue}
    (hw : (coerced v).find k = some w) : Plain w := by
  have hmem := mem_of_find hw
  unfold coerced at hmem
  cases hd : dictOf v with
  | none =>
    rw [hd] at hmem
    exact absurd hmem List.not_mem_nil
  | some d =>
    rw [hd] at hmem
    exact (plain_of_dictOf h hd).2 _ hmem

lemma nodup_bucketOf {v : Option PyValue} (h : ∀ w, v = some w → Plain w) :
    ((bucketOf v).map key).Nodup := by
  unfold bucketOf
  split
  · next bucket =>
    cases h _ rfl with
    | dict nodup _ _ => exact nodup
  · exact List.nodup_nil

lemma load_of_bindings {payload : PyDict} (h : (payload.field "bindings").isSome)
    (hload : load pyStr now (some (.dict payload)) = some s) :
    loadBindings pyStr now payload = some s := by
  rwa [load, if_pos h] at hload

lemma load_of_legacy {payload : PyDict} (h : payload.field "bindings" = none)
    (hload : load pyStr now (some (.dict payload)) = some s) :
    migrateLegacyPayload pyStr now payload = some s := by
  rwa [load, h, if_neg (by decide)] at hload

lemma find_migrateGroupBindings {groupBindings targets states : PyDict}
    (hnodup : (groupBindings.map key).Nodup)
    (h : migrateGroupBindings pyStr now groupBindings targets = some states) (k : PyKey) :
    states.find k =
      (groupBindings.find k).bind fun v => (migratedState pyStr now targets v).join := by
  refine (find_foldlM id (fun v => (migratedState pyStr now targets v).join) ?_ hnodup h k).trans
    (Option.or_none ..)
  intro states f states' hstep
  obtain ⟨state, hstate, hstep⟩ := Option.bind_eq_some_iff.mp hstep
  rw [hstate, Option.join_some]
  exact (Option.some.inj hstep).symm

/-- What a file records of a conversation is where the bridge routes it once the file is loaded. -/
theorem routedTo_of_records {payload : PyDict} (hplain : Plain (.dict payload))
    (hload : load pyStr now (some (.dict payload)) = some s) {messageKind : String}
    (h : Records payload (bindingKey accountId conversationId) messageKind r) :
    routedTo pyStr s messageKind accountId conversationId = some r := by
  cases h with
  | privateBinding h hentry =>
    obtain ⟨hprivate, -⟩ := loadBindings_eq (load_of_bindings h hload)
    rw [← hprivate] at hentry
    exact routedTo_private hentry
  | groupState h hstates hentry =>
    obtain ⟨-, -, -, -, -, hmigrated, -⟩ := loadBindings_eq (load_of_bindings h hload)
    rw [statesOf, if_neg (List.isEmpty_iff.not.mpr hstates)] at hmigrated
    rw [Option.some.inj hmigrated] at hentry
    exact routedTo_group hentry
  | groupBinding h hstates hentry =>
    obtain ⟨-, hgroup, -, -, -, hmigrated, -⟩ := loadBindings_eq (load_of_bindings h hload)
    rw [statesOf, if_pos (List.isEmpty_iff.mpr hstates)] at hmigrated
    rw [← hgroup] at hentry
    refine routedTo_group ?_
    have hnodup : (s.groupBindings.map key).Nodup := by
      rw [hgroup]
      exact nodup_coerced fun w hw => plain_coerced (plain_field hplain "bindings") hw
    rw [field, find_migrateGroupBindings hnodup hmigrated]
    refine entryRoute_migrated hentry fun w hw => ?_
    rw [isSome_migratedState]
    have hmem := mem_of_find hw
    exact isSome_migrateGroupBindings.mp (Option.isSome_iff_exists.mpr ⟨_, hmigrated⟩) _ hmem
  | legacyPrivate h hentry =>
    have hfound := (migrateLegacyPayload_find (nodup_bucketOf (plain_field hplain "private"))
      (nodup_bucketOf (plain_field hplain "group")) (load_of_legacy h hload)
      (.text (bindingKey accountId conversationId))).1
    refine routedTo_private ?_
    rw [field, hfound]
    exact entryRoute_legacyBinding hentry
  | legacyGroup h hentry =>
    have hfound := (migrateLegacyPayload_find (nodup_bucketOf (plain_field hplain "private"))
      (nodup_bucketOf (plain_field hplain "group")) (load_of_legacy h hload)
      (.text (bindingKey accountId conversationId))).2
    refine routedTo_group ?_
    rw [field, hfound]
    exact entryRoute_legacyState hentry

end Loading

end CocoonSit.RouteFile
