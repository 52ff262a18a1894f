import CocoonSit.Bridge.RouteFormats

/-!
# The route file over runs

The calls on `RouteStore`, the invariant by which a state comes back from the file it is saved to,
and the pairs of an account and a conversation under the keys they are stored by.
-/

namespace CocoonSit.RouteFile

open PyDict PyValue Table Traverse TransitionSystem

/-! ## Calls -/

/-- A call that may write the file. -/
inductive Call
  | saveBinding (messageKind accountId conversationId : String) (route : Option PyDict)
      (attached : Bool) (tags : List String)
  | updateBindingTags (messageKind accountId conversationId : String) (tags : List String)
  | upsertTarget (targetType targetId name : String) (tags : Option (List String))
  | savePlatformBinding (accountId conversationId platformUserId platformUsername : String)
  | clearPlatformBinding (accountId conversationId : String)
  | saveGroupState (accountId conversationId : String) (enabled attached : Bool)
      (route : Option PyDict) (targetType targetId targetName : Option String)
  | addOpUserId (userId : String)
  | removeOpUserId (userId : String)

/-- A call at this time, `none` where it raises. -/
def Call.apply (pyStr : PyValue → String) (now : String) (s : Payload) : Call → Option Payload
  | .saveBinding messageKind accountId conversationId route attached tags =>
    some (s.saveBinding now messageKind accountId conversationId route attached tags)
  | .updateBindingTags messageKind accountId conversationId tags =>
    s.updateBindingTags now messageKind accountId conversationId tags
  | .upsertTarget targetType targetId name tags => s.upsertTarget now targetType targetId name tags
  | .savePlatformBinding accountId conversationId platformUserId platformUsername =>
    some (s.savePlatformBinding now accountId conversationId platformUserId platformUsername)
  | .clearPlatformBinding accountId conversationId =>
    some (s.clearPlatformBinding accountId conversationId)
  | .saveGroupState accountId conversationId enabled attached route targetType targetId
      targetName =>
      s.saveGroupState pyStr now accountId conversationId enabled attached route targetType targetId
        targetName
  | .addOpUserId userId => some (s.addOpUserId pyStr userId)
  | .removeOpUserId userId => some (s.removeOpUserId pyStr userId)

/-- A call and its time; one that raises leaves the state. -/
def step (pyStr : PyValue → String) (s : Payload) (e : String × Call) : Option Payload :=
  some ((e.2.apply pyStr e.1 s).getD s)

/-! ## The invariant -/

/-- The keys of a bucket are texts, and its values what `dict(…)` takes. -/
structure Listable (bucket : PyDict) : Prop where
  plain : Plain (.dict bucket)
  values : ∀ f ∈ bucket, DictLike (some f.2)

/-- No state is made of a binding. -/
def Routeless (v : PyValue) : Prop := ∀ d : PyDict, v = .dict d → dictOf (d.field "route") = some []

/-- The state comes back from its file. -/
structure Settled (s : Payload) : Prop where
  privateBindings : Listable s.privateBindings
  groupBindings : Listable s.groupBindings
  otherBindings : s.otherBindings = []
  targets : Plain (.dict s.targets)
  platformBindings : Plain (.dict s.platformBindings)
  groupStates : Listable s.groupStates
  opUserIds : ∀ userId ∈ s.opUserIds, strip userId = userId ∧ userId ≠ ""
  migrated : s.groupStates ≠ [] ∨ ∀ f ∈ s.groupBindings, Routeless f.2

section

variable {pyStr : PyValue → String} {now : String} {s s' : Payload}

lemma Listable.set {bucket fields : PyDict} (h : Listable bucket) (k : String)
    (hfields : Plain (.dict fields)) : Listable (bucket.set (.text k) (.dict fields)) where
  plain := h.plain.set k hfields
  values := by
    intro f hf
    rcases mem_put hf with rfl | hf
    · exact .inl (.inr ⟨fields, rfl⟩)
    · exact h.values f hf

lemma listable_nil : Listable [] := ⟨plain_nil, fun _ hf => absurd hf List.not_mem_nil⟩

/-! ## Reloading -/

lemma plain_value (h : Settled s) : Plain s.value := by
  have hbindings : Plain (.dict ((.text "private", .dict s.privateBindings) ::
      (.text "group", .dict s.groupBindings) ::
        s.otherBindings.map fun bucket => (.text bucket.1, .dict bucket.2))) := by
    rw [h.otherBindings]
    exact plain_record ["private", "group"] (by decide) rfl
      (by simp [h.privateBindings.plain, h.groupBindings.plain])
  exact plain_record ["bindings", "targets", "platform_bindings", "group_states", "op_user_ids"]
    (by decide) rfl
    (by simp [hbindings, h.targets, h.platformBindings, h.groupStates.plain, plain_texts])

lemma opUserIdsOf_texts {userIds : List String}
    (h : ∀ userId ∈ userIds, strip userId = userId ∧ userId ≠ "") :
    opUserIdsOf pyStr (userIds.map .str) = userIds := by
  have hstrip : userIds.map (fun userId => strip (textOf pyStr (.str userId))) = userIds :=
    map_eq_self_iff.mpr fun userId hmem => (h userId hmem).1
  rw [opUserIdsOf, List.map_map]
  change (userIds.map fun userId => strip (textOf pyStr (.str userId))).filter (· ≠ "") = userIds
  rw [hstrip, List.filter_eq_self]
  exact fun userId hmem => decide_eq_true (h userId hmem).2

lemma listOf_list (items : List PyValue) : listOf (some (.list items)) = some items := by
  cases items <;> rfl

lemma migrateGroupBindings_of_routeless {groupBindings targets : PyDict}
    (h : ∀ f ∈ groupBindings, Routeless f.2) :
    migrateGroupBindings pyStr now groupBindings targets = some [] := by
  unfold migrateGroupBindings
  induction groupBindings with
  | nil => rfl
  | cons f groupBindings ih =>
    obtain ⟨hf, hrest⟩ := List.forall_mem_cons.mp h
    have hstate : migratedState pyStr now targets f.2 = some none := by
      unfold migratedState
      split
      · next d hd =>
        rw [hf d hd]
        rfl
      · rfl
    rw [List.foldlM_cons, hstate]
    exact ih hrest

/-- A settled state is the one its file is loaded as, at any time. -/
theorem load_save (h : Settled s) (now : String) : load pyStr now (some s.save) = some s := by
  have hstates : statesOf pyStr now s.groupBindings s.targets s.groupStates =
      some s.groupStates := by
    unfold statesOf
    split
    · next hempty =>
      rw [List.isEmpty_iff] at hempty
      rw [hempty]
      exact migrateGroupBindings_of_routeless (h.migrated.resolve_left (absurd hempty))
    · rfl
  have hops := @opUserIdsOf_texts pyStr _ h.opUserIds
  have hother := h.otherBindings
  rw [Payload.save, dumped_of_plain (plain_value h)]
  obtain ⟨privateBindings, groupBindings, otherBindings, targets, platformBindings, groupStates,
    opUserIds⟩ := s
  obtain rfl : otherBindings = [] := hother
  change (do
    let privateBindings ← dictOf (some (.dict privateBindings))
    let groupBindings ← dictOf (some (.dict groupBindings))
    let targets ← dictOf (some (.dict targets))
    let platformBindings ← dictOf (some (.dict platformBindings))
    let groupStates ← dictOf (some (.dict groupStates))
    let opUserIds ← listOf (some (.list (opUserIds.map .str)))
    let states ← statesOf pyStr now groupBindings targets groupStates
    some
      { privateBindings, groupBindings, targets, platformBindings
        groupStates := states
        opUserIds := opUserIdsOf pyStr opUserIds : Payload }) = _
  simp only [dictOf_dict, listOf_list, Option.bind_eq_bind, Option.bind_some, hstates, hops]

/-! ## What a call keeps -/

lemma plain_dict_coerced {v : Option PyValue} (hv : ∀ w, v = some w → Plain w)
    (htexts : TextKeys (coerced v)) : Plain (.dict (coerced v)) := by
  unfold coerced at htexts ⊢
  cases hd : dictOf v with
  | none => exact plain_nil
  | some d =>
    rw [hd] at htexts
    obtain ⟨hnodup, hvalues⟩ := plain_of_dictOf hv hd
    exact .dict hnodup htexts hvalues

/-- The bucket is one that is loaded, and no state is made of a route in it. -/
def BucketOk (s : Payload) (messageKind : String) (route : PyDict) : Prop :=
  messageKind = "private" ∨ messageKind = "group" ∧ (s.groupStates ≠ [] ∨ route = [])

/-- The binding that is stored for a conversation. -/
def Payload.binding (s : Payload) (messageKind accountId conversationId : String) : PyDict :=
  coerced ((s.bucket messageKind).field (bindingKey accountId conversationId))

/-- The condition on a call: the routes it is given and the bindings it rewrites are JSON objects,
in the bucket of a kind that is loaded. -/
def CallOk (s : Payload) (e : String × Call) : Prop :=
  match e.2 with
  | .saveBinding messageKind _ _ route _ _ =>
    Plain (.dict (route.getD [])) ∧ BucketOk s messageKind (route.getD [])
  | .updateBindingTags messageKind accountId conversationId _ =>
    let binding := s.binding messageKind accountId conversationId
    let route := coerced (binding.field "route")
    TextKeys binding ∧ TextKeys route ∧ TextKeys (coerced (route.field "metadata_json")) ∧
      BucketOk s messageKind route
  | .saveGroupState _ _ _ _ route _ _ _ => Plain (.dict (route.getD []))
  | _ => True

lemma plain_routeValue {route : Option PyDict} (h : Plain (.dict (route.getD []))) :
    Plain (routeValue route) := by
  unfold routeValue
  split
  · exact .null
  · exact .null
  · exact h

lemma put_ne_nil {d : PyDict} {k : PyKey} {v : PyValue} : d.set k v ≠ [] := by
  intro h
  have hfound : find (d.set k v) k = some v := by rw [find_set, if_pos rfl]
  rw [h] at hfound
  cases hfound

lemma settled_setBucket {messageKind accountId conversationId : String} {fields route : PyDict}
    (h : Settled s) (hok : BucketOk s messageKind route) (hfields : Plain (.dict fields))
    (hroute : route = [] → dictOf (fields.field "route") = some []) :
    Settled (s.setBucket messageKind ((s.bucket messageKind).set
      (.text (bindingKey accountId conversationId)) (.dict fields))) := by
  obtain rfl | ⟨rfl, hok⟩ := hok
  · exact { h with privateBindings := h.privateBindings.set _ hfields }
  · refine { h with
      groupBindings := h.groupBindings.set _ hfields
      migrated := ?_ }
    rcases h.migrated with hstates | hbindings
    · exact .inl hstates
    · refine hok.imp id fun hempty f hf => ?_
      rcases mem_put hf with rfl | hf
      · rintro d hd
        cases hd
        exact hroute hempty
      · exact hbindings f hf

lemma settled_setBucket_self {messageKind : String} {route : PyDict} (h : Settled s)
    (hok : BucketOk s messageKind route) :
    Settled (s.setBucket messageKind (s.bucket messageKind)) := by
  obtain rfl | ⟨rfl, -⟩ := hok
  · exact h
  · exact h

lemma settled_saveBinding {messageKind accountId conversationId : String} {route : Option PyDict}
    {attached : Bool} {tags : List String} (h : Settled s)
    (hroute : Plain (.dict (route.getD []))) (hok : BucketOk s messageKind (route.getD [])) :
    Settled (s.saveBinding now messageKind accountId conversationId route attached tags) := by
  refine settled_setBucket h hok ?_ fun hempty => ?_
  · exact plain_record ["attached", "route", "tags", "updated_at"] (by decide) rfl
      (by simp [Plain.bool, Plain.str, plain_routeValue hroute, plain_texts])
  · have hnull : routeValue route = .null := by
      cases route with
      | none => rfl
      | some route =>
        obtain rfl : route = [] := hempty
        rfl
    change dictOf (some (routeValue route)) = some []
    rw [hnull]
    rfl

lemma retagged_spec {binding current : PyDict} {tags : List String}
    (hcurrent : retagged now binding tags = some current) (hbinding : Plain (.dict binding))
    (hroute : TextKeys (coerced (binding.field "route")))
    (hmetadata : TextKeys (coerced ((coerced (binding.field "route")).field "metadata_json"))) :
    Plain (.dict current) ∧
      (coerced (binding.field "route") = [] → dictOf (current.field "route") = some []) := by
  unfold retagged at hcurrent
  set stamped := (binding.set (.text "tags") (.list (tags.map .str))).set (.text "updated_at")
    (.str now) with hstamped
  have hplain : Plain (.dict stamped) := (hbinding.set "tags" (plain_texts tags)).set _ (.str now)
  have hsame : stamped.field "route" = binding.field "route" := by
    rw [hstamped, field, find_set, if_neg (by decide), find_set, if_neg (by decide)]
    rfl
  obtain ⟨route, hdict, hcurrent⟩ := Option.bind_eq_some_iff.mp hcurrent
  obtain rfl := eq_coerced hdict
  rw [hsame] at hdict hcurrent
  have hplainRoute : Plain (.dict (coerced (binding.field "route"))) :=
    plain_dict_coerced (fun w hw => hbinding.find hw) hroute
  split at hcurrent
  · next hempty =>
    rw [← Option.some.inj hcurrent]
    refine ⟨hplain, fun _ => ?_⟩
    rw [hsame, hdict, List.isEmpty_iff.mp hempty]
  · next hne =>
    obtain ⟨metadataJson, hdictMetadata, hcurrent⟩ := Option.bind_eq_some_iff.mp hcurrent
    obtain rfl := eq_coerced hdictMetadata
    cases hcurrent
    have hplainMetadata := plain_dict_coerced (fun w hw => hplainRoute.find hw) hmetadata
    refine ⟨hplain.set _ (hplainRoute.set _ (hplainMetadata.set _ (plain_texts tags))), ?_⟩
    exact fun hempty => absurd (List.isEmpty_iff.mpr hempty) hne

lemma plain_bucket (h : Settled s) {messageKind : String} {route : PyDict}
    (hok : BucketOk s messageKind route) : Plain (.dict (s.bucket messageKind)) := by
  obtain rfl | ⟨rfl, -⟩ := hok
  · exact h.privateBindings.plain
  · exact h.groupBindings.plain

lemma settled_updateBindingTags {messageKind accountId conversationId : String} {tags : List String}
    (h : Settled s) (hok : CallOk s (now, .updateBindingTags messageKind accountId conversationId
      tags))
    (hs : s.updateBindingTags now messageKind accountId conversationId tags = some s') :
    Settled s' := by
  obtain ⟨htexts, hroute, hmetadata, hbucket⟩ := hok
  obtain ⟨binding, hbinding, hs⟩ := Option.bind_eq_some_iff.mp hs
  obtain rfl : binding = s.binding messageKind accountId conversationId := eq_coerced hbinding
  split at hs
  · cases hs
    exact settled_setBucket_self h hbucket
  · obtain ⟨current, hcurrent, hs⟩ := Option.bind_eq_some_iff.mp hs
    cases hs
    have hplain : Plain (.dict (s.binding messageKind accountId conversationId)) :=
      plain_dict_coerced (fun w hw => (plain_bucket h hbucket).find hw) htexts
    obtain ⟨hfields, hempty⟩ := retagged_spec hcurrent hplain hroute hmetadata
    exact settled_setBucket h hbucket hfields hempty

lemma settled_upsertTarget {targetType targetId name : String} {tags : Option (List String)}
    (h : Settled s) (hs : s.upsertTarget now targetType targetId name tags = some s') :
    Settled s' := by
  obtain ⟨current, hcurrent, hs⟩ := Option.bind_eq_some_iff.mp hs
  obtain ⟨items, hitems, hs⟩ := Option.bind_eq_some_iff.mp hs
  cases hs
  have hvalue : ∀ k w, current.field k = some w → Plain w := by
    intro k w hw
    obtain ⟨-, hvalues⟩ := plain_of_dictOf (fun w hw => h.targets.find hw) hcurrent
    exact hvalues _ (mem_of_find hw)
  have hplainItems : Plain (.list items) := by
    cases tags with
    | none => exact plain_of_listOf (hvalue "tags") hitems
    | some tags =>
      rw [Option.elim_some, listOf_list] at hitems
      cases hitems
      exact plain_texts tags
  have hvalueOr : ∀ k text, Plain (valueOr (.str text) (current.field k)) := by
    intro k text
    unfold valueOr
    cases hfilter : (current.field k).filter truthy with
    | none => exact .str text
    | some w => exact hvalue k w (Option.filter_eq_some_iff.mp hfilter).1
  have hname : Plain (if name ≠ "" then .str name
      else valueOr (.str targetId) (current.field "name")) := by
    split
    · exact .str name
    · exact hvalueOr "name" targetId
  exact { h with
    targets := h.targets.set _
      (plain_record ["target_type", "target_id", "name", "created_at", "updated_at", "tags"]
        (by decide) rfl (by
          simp only [List.forall_mem_cons, List.not_mem_nil, false_imp_iff, implies_true, and_true]
          exact ⟨.str _, .str _, hname, hvalueOr _ _, .str _, hplainItems⟩)) }

lemma settled_saveGroupState {accountId conversationId : String} {enabled attached : Bool}
    {route : Option PyDict} {targetType targetId targetName : Option String} (h : Settled s)
    (hroute : Plain (.dict (route.getD [])))
    (hs : s.saveGroupState pyStr now accountId conversationId enabled attached route targetType
      targetId targetName = some s') : Settled s' := by
  obtain ⟨current, -, hs⟩ := Option.bind_eq_some_iff.mp hs
  cases hs
  exact { h with
    groupStates := h.groupStates.set _
      (plain_record ["enabled", "attached", "route", "target_type", "target_id", "target_name",
        "updated_at"] (by decide) rfl
        (by simp [Plain.bool, Plain.str, plain_routeValue hroute]))
    migrated := .inl put_ne_nil }

lemma mem_opUserIdsOf {items : List PyValue} {userId : String}
    (h : userId ∈ opUserIdsOf pyStr items) : strip userId = userId ∧ userId ≠ "" := by
  obtain ⟨hmem, hne⟩ := List.mem_filter.mp h
  obtain ⟨item, -, rfl⟩ := List.mem_map.mp hmem
  exact ⟨strip_strip _, of_decide_eq_true hne⟩

lemma settled_addOpUserId {userId : String} (h : Settled s) :
    Settled (s.addOpUserId pyStr userId) := by
  unfold Payload.addOpUserId
  split
  · exact h
  · next hne =>
    refine { h with opUserIds := ?_ }
    intro u hu
    dsimp only at hu
    split at hu
    · exact mem_opUserIdsOf hu
    · rcases List.mem_append.mp hu with hu | hu
      · exact mem_opUserIdsOf hu
      · rw [List.mem_singleton.mp hu]
        exact ⟨strip_strip userId, hne⟩

lemma settled_clearPlatformBinding {accountId conversationId : String} (h : Settled s) :
    Settled (s.clearPlatformBinding accountId conversationId) := by
  refine { h with platformBindings := ?_ }
  cases h.platformBindings with
  | dict nodup texts hvalues =>
    exact .dict (nodup.sublist (List.filter_sublist.map key))
      (fun f hf => texts f (List.mem_of_mem_filter hf))
      (fun f hf => hvalues f (List.mem_of_mem_filter hf))

/-- A call that meets the condition, or raises, leads from a settled state to one. -/
theorem settled_step {e : String × Call} (h : Settled s) (hok : CallOk s e)
    (hs : step pyStr s e = some s') : Settled s' := by
  obtain ⟨now, call⟩ := e
  obtain rfl := Option.some.inj hs
  cases happly : call.apply pyStr now s with
  | none => exact h
  | some s' =>
    rw [Option.getD_some]
    cases call with
    | saveBinding messageKind accountId conversationId route attached tags =>
      cases happly
      exact settled_saveBinding h hok.1 hok.2
    | updateBindingTags messageKind accountId conversationId tags =>
      exact settled_updateBindingTags h hok happly
    | upsertTarget targetType targetId name tags => exact settled_upsertTarget h happly
    | savePlatformBinding accountId conversationId platformUserId platformUsername =>
      cases happly
      refine { h with platformBindings := h.platformBindings.set _ ?_ }
      exact plain_record ["platform_user_id", "platform_username", "updated_at"] (by decide) rfl
        (by simp [Plain.str])
    | clearPlatformBinding accountId conversationId =>
      cases happly
      exact settled_clearPlatformBinding h
    | saveGroupState accountId conversationId enabled attached route targetType targetId
        targetName => exact settled_saveGroupState h hok happly
    | addOpUserId userId =>
      cases happly
      exact settled_addOpUserId h
    | removeOpUserId userId =>
      cases happly
      exact { h with
        opUserIds := fun u hu => mem_opUserIdsOf (List.mem_of_mem_filter hu) }

/-! ## The file at the start -/

/-- The keys of a bucket are texts, and its values what `dict(…)` takes. -/
structure BucketShape (v : Option PyValue) : Prop where
  texts : TextKeys (coerced v)
  values : ∀ f ∈ coerced v, DictLike (some f.2)

/-- Every key of a file with `bindings` that is kept is a text. -/
structure ShapedBindings (payload : PyDict) : Prop where
  privateBindings : BucketShape ((coerced (payload.field "bindings")).field "private")
  groupBindings : BucketShape ((coerced (payload.field "bindings")).field "group")
  targets : TextKeys (coerced (payload.field "targets"))
  platformBindings : TextKeys (coerced (payload.field "platform_bindings"))
  groupStates : BucketShape (payload.field "group_states")
  routes : coerced (payload.field "group_states") = [] →
    ∀ f ∈ coerced ((coerced (payload.field "bindings")).field "group"), ∀ d : PyDict,
      f.2 = .dict d → TextKeys (coerced (d.field "route"))

/-- The metadata of an entry of the first format has text keys. -/
def ShapedEntry (value : PyValue) : Prop :=
  ∀ d, legacyFields value = some d → TextKeys (coerced (d.field "metadata_json"))

/-- The condition on the file that a run starts from. -/
def WellShaped : Option PyValue → Prop
  | some (.dict payload) =>
    if (field payload "bindings").isSome then ShapedBindings payload
    else ∀ f ∈ bucketOf (field payload "private") ++ bucketOf (field payload "group"),
      ShapedEntry f.2
  | _ => True

lemma listable_coerced {v : Option PyValue} (hv : ∀ w, v = some w → Plain w)
    (h : BucketShape v) : Listable (coerced v) :=
  ⟨plain_dict_coerced hv h.texts, h.values⟩

lemma plain_boundState {fields route target : PyDict} (hroute : Plain (.dict route)) :
    Plain (boundState pyStr now fields route target) :=
  plain_record ["enabled", "attached", "route", "target_type", "target_id", "target_name",
    "updated_at"] (by decide) rfl (by simp [Plain.bool, Plain.str, hroute])

lemma listable_migrateGroupBindings {groupBindings targets states : PyDict}
    (hbindings : Plain (.dict groupBindings))
    (hroutes : ∀ f ∈ groupBindings, ∀ d : PyDict, f.2 = .dict d →
      TextKeys (coerced (d.field "route")))
    (h : migrateGroupBindings pyStr now groupBindings targets = some states) : Listable states := by
  refine foldlM_induction Listable ?_ listable_nil h
  intro f hf states states' hlist hstep
  obtain ⟨state, hstate, hstep⟩ := Option.bind_eq_some_iff.mp hstep
  obtain rfl := Option.some.inj hstep
  cases state with
  | none => exact hlist
  | some state =>
    obtain ⟨k, hk⟩ := hbindings.textKeys f hf
    rw [Option.elim_some, hk]
    unfold migratedState at hstate
    split at hstate
    · next d hd =>
      have hplain : Plain (.dict d) := by
        rw [← hd]
        cases hbindings with
        | dict _ _ h => exact h f hf
      obtain ⟨route, hroute, hstate⟩ := Option.bind_eq_some_iff.mp hstate
      obtain rfl := eq_coerced hroute
      split at hstate
      · cases hstate
      · obtain ⟨target, -, hstate⟩ := Option.bind_eq_some_iff.mp hstate
        cases hstate
        have hplainRoute : Plain (.dict (coerced (field d "route"))) :=
          plain_dict_coerced (fun w hw => hplain.find hw) (hroutes f hf d hd)
        exact hlist.set k (plain_boundState hplainRoute)
    · cases hstate

lemma routeless_of_skipped {targets : PyDict} {v : PyValue}
    (h : migratedState pyStr now targets v = some none) : Routeless v := by
  rintro d rfl
  obtain ⟨route, hroute, h⟩ := Option.bind_eq_some_iff.mp h
  split at h
  · next hempty => rw [hroute, List.isEmpty_iff.mp hempty]
  · obtain ⟨target, -, h⟩ := Option.bind_eq_some_iff.mp h
    cases h

lemma routeless_of_migrated {groupBindings targets : PyDict}
    (hnodup : (groupBindings.map key).Nodup)
    (h : migrateGroupBindings pyStr now groupBindings targets = some []) :
    ∀ f ∈ groupBindings, Routeless f.2 := by
  intro f hf
  have hload := isSome_migrateGroupBindings.mp (Option.isSome_iff_exists.mpr ⟨_, h⟩) f hf
  obtain ⟨state, hstate⟩ := Option.isSome_iff_exists.mp
    ((@isSome_migratedState pyStr now targets f.2).mpr hload)
  have hfound := find_migrateGroupBindings hnodup h f.1
  rw [find_of_mem hnodup hf, Option.bind_some, hstate, Option.join_some] at hfound
  refine @routeless_of_skipped pyStr now targets f.2 ?_
  rw [hstate, ← hfound]
  rfl

lemma settled_loadBindings {payload : PyDict} (hplain : Plain (.dict payload))
    (hshape : ShapedBindings payload) (h : loadBindings pyStr now payload = some s) :
    Settled s := by
  obtain ⟨hprivate, hgroup, hother, htargets, hplatform, hstates, items, hops⟩ := loadBindings_eq h
  have hbucket : ∀ k w, (coerced (payload.field "bindings")).field k = some w → Plain w :=
    fun k w hw => plain_coerced (plain_field hplain "bindings") hw
  have hlistGroup : Listable s.groupBindings := by
    rw [hgroup]
    exact listable_coerced (hbucket "group") hshape.groupBindings
  have hmigrated : Listable s.groupStates ∧
      (s.groupStates ≠ [] ∨ ∀ f ∈ s.groupBindings, Routeless f.2) := by
    unfold statesOf at hstates
    split at hstates
    · next hempty =>
      have hroutes := hshape.routes (List.isEmpty_iff.mp hempty)
      rw [← hgroup] at hroutes
      refine ⟨listable_migrateGroupBindings hlistGroup.plain hroutes hstates, ?_⟩
      by_cases hnone : s.groupStates = []
      · rw [hnone] at hstates
        refine .inr (@routeless_of_migrated pyStr now _ s.targets ?_ hstates)
        cases hlistGroup.plain with
        | dict nodup _ _ => exact nodup
      · exact .inl hnone
    · next hne =>
      rw [← Option.some.inj hstates]
      exact ⟨listable_coerced (plain_field hplain "group_states") hshape.groupStates,
        .inl (List.isEmpty_iff.not.mp hne)⟩
  refine ⟨?_, hlistGroup, hother, ?_, ?_, hmigrated.1, ?_, hmigrated.2⟩
  · rw [hprivate]
    exact listable_coerced (hbucket "private") hshape.privateBindings
  · rw [htargets]
    exact plain_dict_coerced (plain_field hplain "targets") hshape.targets
  · rw [hplatform]
    exact plain_dict_coerced (plain_field hplain "platform_bindings") hshape.platformBindings
  · rw [hops]
    exact fun u hu => mem_opUserIdsOf hu

lemma eq_dict_of_legacyFields {v : PyValue} {value : PyDict} (h : legacyFields v = some value) :
    v = .dict value := by
  unfold legacyFields at h
  split at h
  · split at h
    · cases h
      rfl
    · cases h
  · cases h

lemma plain_legacyRoute {value metadataJson : PyDict} (h : Plain (.dict metadataJson)) :
    Plain (.dict (legacyRoute pyStr value metadataJson)) :=
  plain_record ["target_type", "target_id", "metadata_json"] (by decide) rfl
    (by simp [legacyRoute, Plain.str, h])

lemma settled_migrates {v : PyValue} {m m' : Payload} (h : Settled m ∧ m.groupBindings = [])
    (hv : Plain v) (hshape : ShapedEntry v) (hm : Migrates pyStr now v m m')
    (hprivate : Listable m'.privateBindings) (hstates : Listable m'.groupStates) :
    Settled m' ∧ m'.groupBindings = [] := by
  have hgroup : m'.groupBindings = [] := hm.groupBindings.trans h.2
  refine ⟨⟨hprivate, ?_, hm.otherBindings.trans h.1.otherBindings, ?_, ?_, hstates, ?_, ?_⟩, hgroup⟩
  · rw [hgroup]
    exact listable_nil
  · rcases hm.targets with htargets | ⟨value, items, hvalue, hitems, htargets⟩
    · rw [htargets]
      exact h.1.targets
    · rw [htargets]
      have hplainValue : Plain (.dict value) := eq_dict_of_legacyFields hvalue ▸ hv
      have hmetadata := plain_dict_coerced (fun w hw => hplainValue.find hw) (hshape value hvalue)
      have hplainItems := plain_of_listOf (fun w hw => hmetadata.find hw) hitems
      exact h.1.targets.set _
        (plain_record ["target_type", "target_id", "name", "created_at", "updated_at", "tags"]
          (by decide) rfl (by simp [Plain.str, hplainItems]))
  · rw [hm.platformBindings]
    exact h.1.platformBindings
  · rw [hm.opUserIds]
    exact h.1.opUserIds
  · rw [hgroup]
    exact .inr fun _ hf => absurd hf List.not_mem_nil

lemma listable_migratePrivate {m m' : Payload} {f : PyKey × PyValue}
    (h : Listable m.privateBindings) (hkey : ∃ k, f.1 = .text k) (hv : Plain f.2)
    (hshape : ShapedEntry f.2) (hm : migratePrivate pyStr now m f = some m') :
    Listable m'.privateBindings := by
  rw [(migratePrivate_spec hm).2.2]
  obtain ⟨k, hk⟩ := hkey
  cases hbinding : legacyBindingOf pyStr now f.2 with
  | none => exact h
  | some binding =>
    obtain ⟨value, hvalue, rfl⟩ := Option.map_eq_some_iff.mp hbinding
    have hplain : Plain (.dict value) := eq_dict_of_legacyFields hvalue ▸ hv
    have hmetadata : Plain (.dict (coerced (value.field "metadata_json"))) :=
      plain_dict_coerced (fun w hw => hplain.find hw) (hshape value hvalue)
    have htags : Plain (.list ((listOf ((coerced (value.field "metadata_json")).field
        "tags")).getD [])) := by
      cases hlist : listOf ((coerced (value.field "metadata_json")).field "tags") with
      | none => exact plain_texts []
      | some items => exact plain_of_listOf (fun w hw => hmetadata.find hw) hlist
    rw [Option.elim_some, hk]
    exact h.set k (plain_record ["attached", "route", "tags", "updated_at"] (by decide) rfl
      (by simp [Plain.bool, Plain.str, @plain_legacyRoute pyStr value _ hmetadata, htags]))

lemma listable_migrateGroup {m m' : Payload} {f : PyKey × PyValue} (h : Listable m.groupStates)
    (hkey : ∃ k, f.1 = .text k) (hv : Plain f.2) (hshape : ShapedEntry f.2)
    (hm : migrateGroup pyStr now m f = some m') : Listable m'.groupStates := by
  rw [(migrateGroup_spec hm).2.2]
  obtain ⟨k, hk⟩ := hkey
  cases hstate : legacyStateOf pyStr now f.2 with
  | none => exact h
  | some state =>
    obtain ⟨value, hvalue, rfl⟩ := Option.map_eq_some_iff.mp hstate
    have hplain : Plain (.dict value) := eq_dict_of_legacyFields hvalue ▸ hv
    have hmetadata : Plain (.dict (coerced (value.field "metadata_json"))) :=
      plain_dict_coerced (fun w hw => hplain.find hw) (hshape value hvalue)
    rw [Option.elim_some, hk]
    exact h.set k (plain_record ["enabled", "attached", "route", "target_type", "target_id",
      "target_name", "updated_at"] (by decide) rfl
      (by simp [Plain.bool, Plain.str, @plain_legacyRoute pyStr value _ hmetadata]))

lemma plain_bucketOf {v : Option PyValue} (hv : ∀ w, v = some w → Plain w) :
    Plain (.dict (bucketOf v)) := by
  unfold bucketOf
  split
  · exact hv _ rfl
  · exact plain_nil

lemma settled_empty : Settled {} :=
  ⟨listable_nil, listable_nil, rfl, plain_nil, plain_nil, listable_nil,
    fun _ hu => absurd hu List.not_mem_nil, .inr fun _ hf => absurd hf List.not_mem_nil⟩

lemma settled_migrateLegacyPayload {payload : PyDict} (hplain : Plain (.dict payload))
    (hshape : ∀ f ∈ bucketOf (payload.field "private") ++ bucketOf (payload.field "group"),
      ShapedEntry f.2)
    (h : migrateLegacyPayload pyStr now payload = some s) : Settled s := by
  obtain ⟨m, hm, h⟩ := Option.bind_eq_some_iff.mp h
  have hentry : ∀ k, ∀ f ∈ bucketOf (payload.field k), (∃ t, f.1 = .text t) ∧ Plain f.2 := by
    intro k f hf
    cases plain_bucketOf (plain_field hplain k) with
    | dict _ texts hvalues => exact ⟨texts f hf, hvalues f hf⟩
  have hprivate : Settled m ∧ m.groupBindings = [] := by
    refine foldlM_induction (fun m => Settled m ∧ m.groupBindings = []) ?_ ⟨settled_empty, rfl⟩ hm
    intro f hf m m' hinv hstep
    obtain ⟨hkey, hv⟩ := hentry "private" f hf
    have hshapef := hshape f (List.mem_append_left _ hf)
    obtain ⟨hmigrates, hstates, -⟩ := migratePrivate_spec hstep
    exact settled_migrates hinv hv hshapef hmigrates
      (listable_migratePrivate hinv.1.privateBindings hkey hv hshapef hstep)
      (hstates ▸ hinv.1.groupStates)
  refine (foldlM_induction (fun m => Settled m ∧ m.groupBindings = []) ?_ hprivate h).1
  intro f hf m m' hinv hstep
  obtain ⟨hkey, hv⟩ := hentry "group" f hf
  have hshapef := hshape f (List.mem_append_right _ hf)
  obtain ⟨hmigrates, hbindings, -⟩ := migrateGroup_spec hstep
  exact settled_migrates hinv hv hshapef hmigrates (hbindings ▸ hinv.1.privateBindings)
    (listable_migrateGroup hinv.1.groupStates hkey hv hshapef hstep)

/-- A file of these shapes is loaded as a settled state. -/
theorem settled_load {content : Option PyValue} (hplain : ∀ v, content = some v → Plain v)
    (hshape : WellShaped content) (h : load pyStr now content = some s) : Settled s := by
  unfold load at h
  split at h
  · next payload =>
    have hpayload := hplain _ rfl
    unfold WellShaped at hshape
    split at h
    · next hbindings =>
      simp only [hbindings, if_true] at hshape
      exact settled_loadBindings hpayload hshape h
    · next hbindings =>
      simp only [hbindings] at hshape
      exact settled_migrateLegacyPayload hpayload hshape h
  · cases h
    exact settled_empty

/-! ## Keys -/

lemma splitKey_bindingKey_iff {accountId conversationId : String} :
    splitKey (bindingKey accountId conversationId) = (accountId, conversationId) ↔
      ':' ∉ accountId.toList := by
  have htext : (bindingKey accountId conversationId).toList =
      accountId.toList ++ ':' :: conversationId.toList := by
    rw [bindingKey, String.toList_append, String.toList_append, List.append_assoc]
    rfl
  rw [splitKey, htext]
  constructor
  · intro h hcolon
    have haccount := congrArg (String.toList ∘ Prod.fst) h
    simp only [Function.comp_apply, String.toList_ofList] at haccount
    rw [← haccount] at hcolon
    simpa using List.mem_takeWhile_imp hcolon
  · intro h
    have hall : ∀ c ∈ accountId.toList, decide (c ≠ ':') = true :=
      fun c hc => decide_eq_true fun hcolon => h (hcolon ▸ hc)
    rw [List.takeWhile_append_of_pos hall, List.dropWhile_append_of_pos hall]
    simp

/-- Pairs with these accounts have keys of their own, and a listing splits the keys back. -/
structure KeysWork (accounts : Set String) : Prop where
  distinct : ∀ accountId ∈ accounts, ∀ accountId' ∈ accounts, ∀ conversationId conversationId',
    bindingKey accountId conversationId = bindingKey accountId' conversationId' →
      accountId = accountId' ∧ conversationId = conversationId'
  listed : ∀ stored : List Listed, (∀ e ∈ stored, e.accountId ∈ accounts) →
    listBucket (stored.map fun e =>
      (.text (bindingKey e.accountId e.conversationId), .dict e.value)) = some stored

theorem keysWork_iff {accounts : Set String} :
    KeysWork accounts ↔ ∀ accountId ∈ accounts, ':' ∉ accountId.toList := by
  constructor
  · intro h accountId haccount
    have hlisted := h.listed [⟨accountId, "", []⟩] (by simpa using haccount)
    rw [← @splitKey_bindingKey_iff accountId ""]
    obtain ⟨hfirst, hsecond, -⟩ := Listed.mk.inj (List.cons.inj (Option.some.inj hlisted)).1
    exact Prod.ext hfirst hsecond
  · intro h
    refine ⟨?_, ?_⟩
    · intro accountId haccount accountId' haccount' conversationId conversationId' heq
      have hsplit := (@splitKey_bindingKey_iff _ conversationId).mpr (h accountId haccount)
      have hsplit' := (@splitKey_bindingKey_iff _ conversationId').mpr (h accountId' haccount')
      rw [heq, hsplit'] at hsplit
      exact ⟨(Prod.mk.inj hsplit).1.symm, (Prod.mk.inj hsplit).2.symm⟩
    · intro stored hstored
      induction stored with
      | nil => rfl
      | cons e stored ih =>
        obtain ⟨he, hrest⟩ := List.forall_mem_cons.mp hstored
        have hsplit := (@splitKey_bindingKey_iff _ e.conversationId).mpr (h _ he)
        rw [List.map_cons, listBucket, List.mapM_cons]
        simp only [dictOf_dict, Option.map_some, hsplit]
        have := ih hrest
        rw [listBucket] at this
        rw [this]
        rfl

lemma exists_listBucket {bucket : PyDict} (h : Listable bucket) :
    ∃ items, listBucket bucket = some items ∧ ∀ accountId conversationId v,
      ':' ∉ accountId.toList → bucket.field (bindingKey accountId conversationId) = some v →
        ⟨accountId, conversationId, coerced (some v)⟩ ∈ items := by
  have hsome : (listBucket bucket).isSome := by
    refine isSome_mapM_iff.mpr fun f hf => ?_
    obtain ⟨k, hk⟩ := h.plain.textKeys f hf
    rw [hk]
    simpa using isSome_dictOf.mpr (h.values f hf)
  obtain ⟨items, hitems⟩ := Option.isSome_iff_exists.mp hsome
  refine ⟨items, hitems, fun accountId conversationId v haccount hv => ?_⟩
  obtain ⟨item, hmem, hitem⟩ := exists_mem_of_mapM hitems (mem_of_find hv)
  obtain ⟨d, hd, rfl⟩ := Option.map_eq_some_iff.mp hitem
  rw [splitKey_bindingKey_iff.mpr haccount] at hmem
  rwa [← eq_coerced hd]

/-- What holds of every state: it comes back from its file, and its listings return what is
stored. -/
structure Kept (pyStr : PyValue → String) (s : Payload) : Prop where
  reload : ∀ now, load pyStr now (some s.save) = some s
  listed : ∀ bucket ∈ [s.privateBindings, s.groupBindings, s.groupStates],
    ∃ items, listBucket bucket = some items ∧ ∀ accountId conversationId v,
      ':' ∉ accountId.toList → bucket.field (bindingKey accountId conversationId) = some v →
        ⟨accountId, conversationId, coerced (some v)⟩ ∈ items

lemma kept_of_settled (h : Settled s) : Kept pyStr s where
  reload := load_save h
  listed := by
    simp only [List.forall_mem_cons, List.not_mem_nil, false_imp_iff, implies_true, and_true]
    exact ⟨exists_listBucket h.privateBindings, exists_listBucket h.groupBindings,
      exists_listBucket h.groupStates⟩

/-- Every state of a run whose calls meet the condition is kept. -/
theorem allStates_kept {content : Option PyValue} (hplain : ∀ v, content = some v → Plain v)
    (hshape : WellShaped content) (hload : load pyStr now content = some s)
    {es : List (String × Call)} (hok : StepsMeet (step pyStr) CallOk s es) :
    AllStates (step pyStr) (Kept pyStr) s es :=
  allStates_of_stepsMeet Settled (fun _ _ _ h hok hs => settled_step h hok hs)
    (fun _ h => kept_of_settled h) (settled_load hplain hshape hload) hok

end

/-- Loading returns if the file has the shapes that are coerced, and routes each conversation as the
file records it; the states of a run come back from their files while its calls meet the condition;
and the keys work for accounts with no colon. -/
theorem routes_kept_iff (pyStr : PyValue → String) :
    (∀ now content, (load pyStr now content).isSome ↔ Loadable pyStr content) ∧
      (∀ now payload s messageKind accountId conversationId r, Plain (.dict payload) →
        load pyStr now (some (.dict payload)) = some s →
        Records payload (bindingKey accountId conversationId) messageKind r →
          routedTo pyStr s messageKind accountId conversationId = some r) ∧
      (∀ now content s es, (∀ v, content = some v → Plain v) → WellShaped content →
        load pyStr now content = some s → StepsMeet (step pyStr) CallOk s es →
          AllStates (step pyStr) (Kept pyStr) s es) ∧
      ∀ accounts : Set String,
        KeysWork accounts ↔ ∀ accountId ∈ accounts, ':' ∉ accountId.toList :=
  ⟨fun _ _ => isSome_load_iff,
    fun _ _ _ _ _ _ _ hplain hload h => routedTo_of_records hplain hload h,
    fun _ _ _ _ hplain hshape hload hok => allStates_kept hplain hshape hload hok,
    fun _ => keysWork_iff⟩

def demoRoute : PyDict := [(.text "target_type", .str "cocoon"), (.text "target_id", .str "c1")]

def demoBinding : PyDict := [(.text "attached", .bool true), (.text "route", .dict demoRoute)]

def demoGroup : PyDict := [(.text "1:2", .dict demoBinding)]

/-- A group's binding in a file with no group states. -/
def demoFile : PyDict := [(.text "bindings", .dict [(.text "group", .dict demoGroup)])]

lemma plain_demoGroup : Plain (.dict demoGroup) := by
  have hroute : Plain (.dict demoRoute) :=
    plain_record ["target_type", "target_id"] (by decide) rfl (by simp [demoRoute, Plain.str])
  have hbinding : Plain (.dict demoBinding) :=
    plain_record ["attached", "route"] (by decide) rfl (by simp [demoBinding, Plain.bool, hroute])
  exact plain_record ["1:2"] (by decide) rfl (by simp [demoGroup, hbinding])

lemma plain_demoFile : Plain (.dict demoFile) := by
  have hbindings : Plain (.dict [(.text "group", .dict demoGroup)]) :=
    plain_record ["group"] (by decide) rfl (by simp [plain_demoGroup])
  exact plain_record ["bindings"] (by decide) rfl (by simp [demoFile, hbindings])

lemma wellShaped_demoFile : WellShaped (some (.dict demoFile)) := by
  have hnil : TextKeys [] := plain_nil.textKeys
  have hempty : ∀ v, coerced v = [] → BucketShape v := by
    intro v hv
    refine ⟨hv ▸ hnil, ?_⟩
    rw [hv]
    exact fun _ hf => absurd hf List.not_mem_nil
  have hshape : ShapedBindings demoFile := by
    refine ⟨hempty _ rfl, ⟨plain_demoGroup.textKeys, ?_⟩, hnil, hnil, hempty _ rfl, ?_⟩
    · intro f hf
      rw [show f = (.text "1:2", .dict demoBinding) from List.mem_singleton.mp hf]
      exact .inl (.inr ⟨demoBinding, rfl⟩)
    · rintro - f hf d hd
      rw [show f = (.text "1:2", .dict demoBinding) from List.mem_singleton.mp hf] at hd
      cases hd
      intro f hf
      rcases List.mem_pair.mp hf with rfl | rfl
      · exact ⟨_, rfl⟩
      · exact ⟨_, rfl⟩
  exact hshape

theorem demoFile_kept : ∃ s, load (fun _ => "") "t" (some (.dict demoFile)) = some s ∧
    routedTo (fun _ => "") s "group" "1" "2" = some (some ("cocoon", "c1")) ∧
    AllStates (step fun _ => "") (Kept fun _ => "") s
      [("u", .saveBinding "private" "1" "3" none true ["a"]), ("v", .addOpUserId "7")] ∧
    KeysWork {"1"} := by
  obtain ⟨hloads, hroutes, hruns, hkeys⟩ := routes_kept_iff fun _ => ""
  refine ⟨_, rfl, ?_, ?_, ?_⟩
  · exact hroutes "t" demoFile _ "group" "1" "2" _ plain_demoFile rfl
      (.groupBinding rfl rfl (.routed rfl rfl ⟨rfl, rfl, .inl rfl⟩ (.inl rfl)))
  · refine hruns "t" (some (.dict demoFile)) _ _ ?_ wellShaped_demoFile rfl ?_
    · rintro _ ⟨⟩
      exact plain_demoFile
    · exact ⟨⟨plain_nil, .inl rfl⟩, trivial, trivial⟩
  · refine (hkeys {"1"}).mpr ?_
    rintro _ rfl
    decide

/-- A file with a list where a `dict` of buckets is read. -/
def nestedFile : PyDict := [(.text "bindings", .list [.num "1" true])]

/-- A file can stop the bridge; a group's binding comes back as a state of the group; and a colon in
an account makes two pairs one. -/
theorem nestedFile_not_loaded : load (fun _ => "") "t" (some (.dict nestedFile)) = none ∧
    ¬ Kept (fun _ => "")
      (({} : Payload).saveBinding "t" "group" "1" "2" (some demoRoute) true []) ∧
    bindingKey "1:2" "3" = bindingKey "1" "2:3" := by
  refine ⟨rfl, ?_, by decide⟩
  intro h
  have hstates := congrArg (Option.map fun s => s.groupStates.length) (h.reload "u")
  exact absurd hstates (by decide)

end CocoonSit.RouteFile
