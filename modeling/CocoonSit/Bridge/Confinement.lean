import CocoonSit.Bridge.Agreement

/-!
# Who may attach to what

A chat is to be attached only to a target that is accessible to whom its sender is for the backend,
and a list is to show nothing else.  A list that is fetched is of that kind.  When it cannot be
fetched, the bridge falls back on the targets it has cached, and those come from the lists of all
its users.
-/

namespace CocoonSit

open Table ImRpc TransitionSystem

namespace Bridge

section Spec

variable (out : RpcOutside) (config : BridgeConfig) (pluginId : RowId)

def Item.id (item : Item) : String × RowId := (item.targetType, item.targetId)

/-- The targets that are accessible to the sender of a command. -/
def accessibleToSender (s : BridgeState) (call : Call) : List (String × RowId) :=
  accessibleTo out s.backend (ownerLookupIdentity config s.store call.sender)

def Command.attaches (sender : Chat) : Command → Option (ConversationKind × Chat)
  | .attach _ _ => some (.privateChat, sender)
  | .opGroupAttach group _ => some (.groupChat, group)
  | _ => none

/-- A command that succeeds in attaching a chat attaches it to a target that is accessible to the
sender, and what a command lists is accessible to them. -/
def Confined (s : BridgeState) : Event → BridgeState → Prop
  | .command call command, s' =>
    (∀ kind chat, command.attaches call.sender = some (kind, chat) →
      (handleCommand out config pluginId s call command).1.Success →
        ∀ route, s'.store.attachedRoute kind chat = some route →
          (route.targetType, route.targetId) ∈ accessibleToSender out config s call) ∧
    ∀ item ∈ (handleCommand out config pluginId s call command).1.items,
      item.id ∈ accessibleToSender out config s call
  | _, _ => True

/-- The list of accessible targets cannot be fetched: the request fails, or the user it names is
rejected. -/
def ListingFails (s : BridgeState) (call : Call) : Prop :=
  call.listing.isSome ∨
    (resolveIdentity out s.backend (ownerLookupIdentity config s.store call.sender)).isOk = false

/-- The cached targets of a type, in the order they are looked through. -/
def cachedCandidates (store : RouteStore) (allowedType : String) : List Item :=
  newestFirst ((cachedItems store).filter fun item => item.targetType = allowedType)

/-- Where the list cannot be fetched, the cached targets a command goes by are accessible to its
sender. -/
def CacheHarmless (s : BridgeState) : Event → Prop
  | .command call (.attach mode value) => ListingFails out config s call → call.route = none →
      ∀ item, (cachedCandidates s.store "cocoon").filter (mode.names config value) = [item] →
        item.id ∈ accessibleToSender out config s call
  | .command call (.opGroupAttach group chatGroupId) => ListingFails out config s call →
      call.route = none → isEnabled s.store group = true →
        ∀ item, resolveTargetById (cachedCandidates s.store "chat_group") chatGroupId = some item →
          ("chat_group", strip chatGroupId) ∈ accessibleToSender out config s call
  | .command call (.list cocoonsOnly page) => ListingFails out config s call →
      ∀ item ∈ (paginateItems (listed cocoonsOnly (cachedItems s.store)) page).1,
        item.id ∈ accessibleToSender out config s call
  | _ => True

end Spec

variable {out : RpcOutside} {config : BridgeConfig} {pluginId : RowId} {s s' : BridgeState}
  {store : RouteStore} {call : Call}

/-! ## Lists that are fetched, and lists that are not -/

lemma mem_rememberTargets {now : String} {targets : List Target} {item : Item}
    (h : item ∈ (rememberTargets out now store targets).2) :
    item.id ∈ targets.map fun target => (targetTypeOf target, strip (targetIdOf target)) := by
  induction targets generalizing store with
  | nil => cases h
  | cons target targets ih =>
    rw [List.map_cons]
    unfold rememberTargets at h
    dsimp only at h
    split at h
    · exact List.mem_cons_of_mem _ (ih h)
    · rcases List.mem_cons.mp h with rfl | h
      · exact List.mem_cons_self
      · exact List.mem_cons_of_mem _ (ih h)

lemma fetch_cases (out : RpcOutside) (config : BridgeConfig) (s : BridgeState) (call : Call) :
    (ListingFails out config s call ∧
        ∃ error, fetchAccessibleTargets out config s call = (s.store, .error error)) ∨
      (¬ ListingFails out config s call ∧
        ∃ store' items, fetchAccessibleTargets out config s call = (store', .ok items) ∧
          ∀ item ∈ items, item.id ∈ accessibleToSender out config s call) := by
  unfold fetchAccessibleTargets ListingFails
  cases hlisting : call.listing with
  | some error => exact .inl ⟨.inl rfl, error, rfl⟩
  | none =>
    cases huser : resolveIdentity out s.backend
        (ownerLookupIdentity config s.store call.sender) with
    | error error => exact .inl ⟨.inr rfl, strOf out error, rfl⟩
    | ok user =>
      refine .inr ⟨?_, _, _, rfl, fun item hitem => ?_⟩
      · rintro (h | h) <;> cases h
      · have hmem := mem_rememberTargets ((mem_orderBy).mp hitem)
        unfold accessibleToSender accessibleTo
        rw [huser]
        exact hmem

lemma strip_of_mem_accessible {item : Item}
    (h : item.id ∈ accessibleToSender out config s call) : strip item.targetId = item.targetId := by
  unfold accessibleToSender accessibleTo at h
  split at h
  · cases h
  · obtain ⟨target, _, hid⟩ := List.mem_map.mp h
    have htarget : strip (targetIdOf target) = item.targetId := (Prod.mk.inj hid).2
    rw [← htarget, strip_strip]

lemma candidates_cases (out : RpcOutside) (config : BridgeConfig) (s : BridgeState) (call : Call)
    (allowedType : String) :
    (ListingFails out config s call ∧ listAttachCandidates out config s call allowedType =
        (s.store, cachedCandidates s.store allowedType)) ∨
      (¬ ListingFails out config s call ∧
        ∀ item ∈ (listAttachCandidates out config s call allowedType).2,
          item.id ∈ accessibleToSender out config s call) := by
  unfold listAttachCandidates
  rcases fetch_cases out config s call with
    ⟨hfails, error, hfetch⟩ | ⟨hfetched, _, items, hfetch, hitems⟩
  · refine .inl ⟨hfails, ?_⟩
    rw [hfetch]
    rfl
  · refine .inr ⟨hfetched, fun item hitem => ?_⟩
    rw [hfetch] at hitem
    exact hitems item (List.mem_filter.mp ((mem_orderBy).mp hitem)).1

lemma targetType_of_mem_candidates {allowedType : String} {item : Item}
    (h : item ∈ (listAttachCandidates out config s call allowedType).2) :
    item.targetType = allowedType := by
  simpa using (List.mem_filter.mp ((mem_orderBy).mp h)).2

lemma resolveAttachTarget_eq_some {candidates : List Item} {mode : AttachMode} {value : String}
    {item : Item} : resolveAttachTarget config candidates mode value = .ok (some item) ↔
      candidates.filter (mode.names config value) = [item] := by
  unfold resolveAttachTarget
  rcases candidates.filter (mode.names config value) with _ | ⟨a, _ | ⟨b, items⟩⟩
  · simp
  · simp
  · cases mode <;> simp

/-! ## What a command attaches -/

lemma attachTo_confined_iff (item : Item) {accessible : List (String × RowId)} :
    ((attachTo out pluginId s call item).1.Success →
        ∀ route,
          (attachTo out pluginId s call item).2.store.attachedRoute .privateChat call.sender =
          some route → (route.targetType, route.targetId) ∈ accessible) ↔
      (call.route = none → ("cocoon", item.targetId) ∈ accessible) := by
  unfold attachTo upsertBackendRoute
  cases call.route with
  | some error => exact iff_of_true (fun h => h.elim) fun h => nomatch h
  | none =>
    dsimp only
    rw [(SameChats.upsertTarget _ _ _ _ _).attachedRoute, attachedRoute_saveBinding,
      if_pos ⟨rfl, rfl⟩, if_pos rfl]
    simp [Reply.Success, buildRoute]

lemma attachGroupTo_confined_iff (group : Chat) (chatGroupId : RowId) (item : Item)
    {accessible : List (String × RowId)} :
    ((attachGroupTo out pluginId s call group chatGroupId item).1.Success →
        ∀ route, (attachGroupTo out pluginId s call group chatGroupId item).2.store.attachedRoute
          .groupChat group = some route → (route.targetType, route.targetId) ∈ accessible) ↔
      (call.route = none → ("chat_group", chatGroupId) ∈ accessible) := by
  unfold attachGroupTo upsertBackendRoute
  cases call.route with
  | some error => exact iff_of_true (fun h => h.elim) fun h => nomatch h
  | none =>
    dsimp only
    rw [attachedRoute_saveGroupState, if_pos ⟨rfl, rfl⟩]
    simp [Reply.Success, buildRoute]

lemma confined_of_attaches {command : Command} {kind : ConversationKind} {chat : Chat}
    (hattaches : command.attaches call.sender = some (kind, chat))
    (hitems : (handleCommand out config pluginId s call command).1.items = []) :
    Confined out config pluginId s (.command call command) s' ↔
      ((handleCommand out config pluginId s call command).1.Success →
        ∀ route, s'.store.attachedRoute kind chat = some route →
          (route.targetType, route.targetId) ∈ accessibleToSender out config s call) := by
  simp [Confined, hattaches, hitems]

lemma items_attachTo (item : Item) : (attachTo out pluginId s call item).1.items = [] := by
  unfold attachTo
  dsimp only
  split <;> rfl

lemma items_attachGroupTo (group : Chat) (chatGroupId : RowId) (item : Item) :
    (attachGroupTo out pluginId s call group chatGroupId item).1.items = [] := by
  unfold attachGroupTo
  dsimp only
  split <;> rfl

lemma attach_confined_iff (mode : AttachMode) (value : String) :
    Confined out config pluginId s (.command call (.attach mode value))
        (handleCommand out config pluginId s call (.attach mode value)).2 ↔
      CacheHarmless out config s (.command call (.attach mode value)) := by
  have hitems : (handleCommand out config pluginId s call (.attach mode value)).1.items = [] := by
    simp only [handleCommand, commandAttach]
    split
    · rfl
    · rfl
    · exact items_attachTo _
  rw [confined_of_attaches rfl hitems]
  simp only [handleCommand, commandAttach, CacheHarmless]
  have hcases := candidates_cases out config s call "cocoon"
  cases hresolve : resolveAttachTarget config
      (listAttachCandidates out config s call "cocoon").2 mode value with
  | error error =>
    refine iff_of_true (fun h => h.elim) fun hfails _ item hitem => ?_
    rcases hcases with ⟨_, hcached⟩ | ⟨hfetched, _⟩
    · rw [hcached, resolveAttachTarget_eq_some.mpr hitem] at hresolve
      cases hresolve
    · exact absurd hfails hfetched
  | ok found =>
    cases found with
    | none =>
      refine iff_of_true (fun h => h.elim) fun hfails _ item hitem => ?_
      rcases hcases with ⟨_, hcached⟩ | ⟨hfetched, _⟩
      · rw [hcached, resolveAttachTarget_eq_some.mpr hitem] at hresolve
        cases hresolve
      · exact absurd hfails hfetched
    | some item =>
      have hfilter := resolveAttachTarget_eq_some.mp hresolve
      have hmem : item ∈ (listAttachCandidates out config s call "cocoon").2 :=
        (List.mem_filter.mp (hfilter ▸ List.mem_singleton_self item)).1
      have hid : ("cocoon", item.targetId) = item.id := by
        rw [Item.id, targetType_of_mem_candidates hmem]
      refine attachTo_confined_iff item |>.trans ?_
      rw [hid]
      rcases hcases with ⟨hfails, hcached⟩ | ⟨hfetched, haccessible⟩
      · rw [hcached] at hfilter
        refine ⟨fun h _ hroute item' hitem' => ?_, fun h hroute => h hfails hroute item hfilter⟩
        rw [hfilter] at hitem'
        rw [← List.singleton_inj.mp hitem']
        exact h hroute
      · exact iff_of_true (fun _ => haccessible item hmem) fun hfails => absurd hfails hfetched

lemma opGroupAttach_confined_iff (group : Chat) (chatGroupId : RowId) :
    Confined out config pluginId s (.command call (.opGroupAttach group chatGroupId))
        (handleCommand out config pluginId s call (.opGroupAttach group chatGroupId)).2 ↔
      CacheHarmless out config s (.command call (.opGroupAttach group chatGroupId)) := by
  have hitems :
      (handleCommand out config pluginId s call (.opGroupAttach group chatGroupId)).1.items
        = [] := by
    simp only [handleCommand, commandOpGroupAttach]
    split
    · rfl
    split
    · rfl
    · exact items_attachGroupTo _ _ _
  rw [confined_of_attaches rfl hitems]
  simp only [handleCommand, commandOpGroupAttach, CacheHarmless]
  by_cases henabled : isEnabled s.store group = true
  swap
  · rw [if_pos henabled]
    exact iff_of_true (fun h => h.elim) fun _ _ h => absurd h henabled
  rw [if_neg (not_not.mpr henabled)]
  have hcases := candidates_cases out config s call "chat_group"
  have hstrip : ∀ items, resolveTargetById items (strip chatGroupId) =
      resolveTargetById items chatGroupId := fun items => by
    unfold resolveTargetById
    rw [strip_strip]
  rw [hstrip]
  cases hresolve : resolveTargetById
      (listAttachCandidates out config s call "chat_group").2 chatGroupId with
  | none =>
    refine iff_of_true (fun h => h.elim) fun hfails _ _ item hitem => ?_
    rcases hcases with ⟨_, hcached⟩ | ⟨hfetched, _⟩
    · rw [hcached, hitem] at hresolve
      cases hresolve
    · exact absurd hfails hfetched
  | some item =>
    refine attachGroupTo_confined_iff group (strip chatGroupId) item |>.trans ?_
    rcases hcases with ⟨hfails, hcached⟩ | ⟨hfetched, haccessible⟩
    · rw [hcached] at hresolve
      exact ⟨fun h _ hroute _ _ _ => h hroute,
        fun h hroute => h hfails hroute henabled item hresolve⟩
    · refine iff_of_true (fun _ => ?_) fun hfails => absurd hfails hfetched
      -- what is fetched has an id without white space around it
      have hmem := List.mem_of_find?_eq_some hresolve
      have hnamed : strip item.targetId = strip chatGroupId := by
        simpa using List.find?_some hresolve
      have hid : item.id = ("chat_group", strip chatGroupId) := by
        rw [Item.id, targetType_of_mem_candidates hmem, ← hnamed,
          strip_of_mem_accessible (haccessible item hmem)]
      exact hid ▸ haccessible item hmem

lemma items_targetPage (label : String) (items : List Item) (page : ℕ) (fetchError : String) :
    (targetPage label items page fetchError).items = (paginateItems items page).1 := by
  unfold targetPage
  by_cases hempty : items = []
  · subst hempty
    split_ifs
    · simp [Reply.items, paginateItems]
    · simp [Reply.items, paginateItems]
    · contradiction
  · rw [if_neg fun h => hempty h.1, if_neg hempty]
    rfl

lemma mem_of_mem_page {items : List Item} {page : ℕ} {item : Item}
    (h : item ∈ (paginateItems items page).1) : item ∈ items :=
  List.mem_of_mem_drop (List.mem_of_mem_take h)

lemma mem_of_mem_listed {cocoonsOnly : Bool} {items : List Item} {item : Item}
    (h : item ∈ listed cocoonsOnly items) : item ∈ items := by
  unfold listed at h
  split at h
  · exact (List.mem_filter.mp h).1
  · exact h

lemma list_confined_iff (cocoonsOnly : Bool) (page : ℕ) :
    Confined out config pluginId s (.command call (.list cocoonsOnly page)) s' ↔
      CacheHarmless out config s (.command call (.list cocoonsOnly page)) := by
  unfold Confined CacheHarmless
  simp only [handleCommand, commandList, Command.attaches, reduceCtorEq, false_imp_iff,
    implies_true, true_and]
  rcases fetch_cases out config s call with
    ⟨hfails, error, hfetch⟩ | ⟨hfetched, _, items, hfetch, hitems⟩
  · rw [hfetch]
    simp only [items_targetPage]
    exact ⟨fun h _ => h, fun h => h hfails⟩
  · rw [hfetch]
    simp only [items_targetPage]
    exact iff_of_true (fun item hitem => hitems item (mem_of_mem_listed (mem_of_mem_page hitem)))
      fun hfails => absurd hfails hfetched

/-! ## Runs -/

lemma step_confined_iff {e : Event} (hs : step out config pluginId s e = some s') :
    Confined out config pluginId s e s' ↔ CacheHarmless out config s e := by
  cases e with
  | restart refused newIds => exact Iff.rfl
  | backendChanges tables => exact Iff.rfl
  | command call command =>
    simp only [step] at hs
    split_ifs at hs
    cases hs
    have hquiet : command.attaches call.sender = none →
        (handleCommand out config pluginId s call command).1.items = [] →
          Confined out config pluginId s (.command call command)
            (handleCommand out config pluginId s call command).2 := by
      intro hattaches hitems
      simp [Confined, hattaches, hitems]
    cases command with
    | attach mode value => exact attach_confined_iff mode value
    | opGroupAttach group chatGroupId => exact opGroupAttach_confined_iff group chatGroupId
    | list cocoonsOnly page => exact list_confined_iff cocoonsOnly page
    | bind user => exact iff_of_true (hquiet rfl (by cases user <;> rfl)) trivial
    | unbind => exact iff_of_true (hquiet rfl rfl) trivial
    | create targetType name created =>
      exact iff_of_true (hquiet rfl (by cases created <;> rfl)) trivial
    | detach =>
      refine iff_of_true (hquiet rfl ?_) trivial
      simp only [handleCommand, commandDetach]
      split
      · rfl
      split
      · rfl
      split <;> rfl
    | tag edit =>
      refine iff_of_true (hquiet rfl ?_) trivial
      simp only [handleCommand, commandTag]
      split
      · rfl
      split <;> rfl
    | opGroupEnable group => exact iff_of_true (hquiet rfl rfl) trivial
    | opGroupDetach group =>
      refine iff_of_true (hquiet rfl ?_) trivial
      simp only [handleCommand, commandOpGroupDetach]
      split
      · rfl
      split
      · rfl
      split <;> rfl
    | opGroupDisable group =>
      refine iff_of_true (hquiet rfl ?_) trivial
      simp only [handleCommand, commandOpGroupDisable]
      split <;> rfl

/-- Chats are attached to what is accessible to their senders, and nothing else is listed, exactly
when every command whose list cannot be fetched goes by cached targets that are accessible to its
sender. -/
theorem confined_iff_cacheHarmless (s₀ : BridgeState) (es : List Event) :
    AllSteps (step out config pluginId) (Confined out config pluginId) s₀ es ↔
      AllSteps (step out config pluginId) (fun s e _ => CacheHarmless out config s e) s₀ es := by
  unfold AllSteps
  refine stepsMeet_congr (fun _ => True) (fun _ _ _ _ _ => trivial) (fun s e _ => ?_) trivial
  exact forall₂_congr fun s' hs => step_confined_iff hs

def bobsChat : Chat := ⟨"10", "21", rfl, rfl⟩

/-- A new bridge, and a backend where Bob owns a cocoon. -/
def bobsHost : BridgeState where
  backend :=
    { accounts :=
        { users :=
            [{ id := "ann", username := "ann", passwordHash := "" },
             { id := "bob", username := "bob", passwordHash := "" }] }
      db := { cocoons := [{ id := "bobs", ownerUserId := "bob", characterId := "muse" }] } }

def bobsCall : Call where
  sender := bobsChat
  now := "2026-01-01"
  newId := "route"

/-- Bob has a look at his cocoons, and when the backend cannot be reached, Ann attaches her chat. -/
def annAttachesBobs : List Event :=
  [.command bobsCall (.bind (.ok ("bob", "bob"))),
   .command bobsCall (.list true 1),
   .command annsCall (.bind (.ok ("ann", "ann"))),
   .command { annsCall with listing := some "down" } (.attach .byId "bobs")]

/-- Ann's chat is attached to a cocoon she has no access to. -/
theorem ann_attached_to_bobs :
    ¬ AllSteps (step accepting annsConfig "bridge") (Confined accepting annsConfig "bridge")
      bobsHost
      annAttachesBobs := by
  rintro ⟨_, h⟩
  rw [step_command (by decide +kernel)] at h
  obtain ⟨_, h⟩ := h
  rw [step_command (by decide +kernel)] at h
  obtain ⟨_, h⟩ := h
  rw [step_command (by decide +kernel)] at h
  have hmem := (h.1 _ (step_command (by decide +kernel))).1 .privateChat annsChat rfl
    (by decide +kernel) (buildRoute "cocoon" "bobs" .privateChat annsChat []) (by decide +kernel)
  revert hmem
  decide +kernel

end Bridge

end CocoonSit
