import CocoonSit.Plugins.ManagerIsolation

/-!
# For whom short-lived events are run

Before an event is run, `_list_short_lived_scopes` goes through the bindings of its plugin and lists
the users and rooms to run it for; when it has returned, `ingest` goes through the bindings again
and schedules a wakeup for each that the result may be delivered to.  The first makes sure of config
rows and the second does not; and only the second asks whether plugin and event are switched on,
which callers of the first have done.
-/

namespace CocoonSit

open Table

namespace PluginRuntimeManager

namespace ShortLivedScopes

variable (out : Outside)

/-! ## Listing -/

/-- What `_list_short_lived_scopes` has come to. -/
structure Listing where
  tables : PluginTables
  scopes : List ShortLivedScope := []

/-- `key in scopes`. -/
def Listing.has (listing : Listing) (b : PluginTargetBinding) : Bool :=
  listing.scopes.any fun scope => scope.scopeType = b.scopeType ∧ scope.scopeId = b.scopeId

/-- `_ensure_user_config` and `_ensure_chat_group_config`, whose flush may be refused. -/
def ensureConfig (s : Manager) (scope : ConfigScope) (plugin : PluginDefinition) (scopeId : RowId)
    (tables : PluginTables) : Except PyError PluginTables :=
  if { s with tables := tables }.RefusesConfig out scope plugin.id scopeId then
    .error .integrityError
  else .ok (ensureScopeConfig scope tables plugin scopeId)

/-- The part that is the same for users and rooms: the config is made sure of, and the scope is
listed if that is on and `eligible`. -/
def listScope (s : Manager) (kind : ConfigScope) (plugin : PluginDefinition)
    (scope : ShortLivedScope) (eligible : Bool) (listing : Listing) : Except PyError Listing := do
  let tables ← ensureConfig out s kind plugin scope.scopeId listing.tables
  if { s with tables := tables }.scopeEnabled kind plugin.id scope.scopeId && eligible then
    .ok { tables := tables, scopes := listing.scopes ++ [scope] }
  else .ok { listing with tables := tables }

def userScope (s : Manager) (userId : RowId) : ShortLivedScope :=
  { scopeType := "user"
    scopeId := userId
    timezone := some (((s.timezone userId).filter (· ≠ "")).getD "UTC") }

def roomScope (roomId : RowId) : ShortLivedScope := { scopeType := "chat_group", scopeId := roomId }

/-- One turn of the loop. -/
def listBinding (s : Manager) (plugin : PluginDefinition) (listing : Listing)
    (b : PluginTargetBinding) : Except PyError Listing :=
  if listing.has b then .ok listing
  else if b.scopeType = "user" then
    if (targetCharacter s.db b.target).isSome then
      listScope out s .user plugin (userScope s b.scopeId) (s.isVisibleTo plugin.id b.scopeId)
        listing
    else .ok listing
  else if b.scopeType = "chat_group" then
    if (get s.db.rooms b.scopeId).isSome then
      listScope out s .chatGroup plugin (roomScope b.scopeId) true listing
    else .ok listing
  else .ok listing

def listShortLivedScopes (s : Manager) (plugin : PluginDefinition) : Except PyError Listing :=
  (s.bindings plugin.id).foldlM (listBinding out s plugin) { tables := s.tables }

/-! ## What is asked -/

/-- The scope is listed. -/
def Listed (s : Manager) (plugin : PluginDefinition) (scopeType : String) (scopeId : RowId) :
    Prop :=
  ∃ listing, listShortLivedScopes out s plugin = .ok listing ∧
    ∃ scope ∈ listing.scopes, scope.scopeType = scopeType ∧ scope.scopeId = scopeId

/-- A result for the scope leads to a wakeup. -/
def Schedules (s : Manager) (plugin : PluginDefinition) (version : PluginVersion)
    (eventName : String) (envelope : JsonDict) (scopeType : String) (scopeId : RowId) : Prop :=
  ∃ s', s.ingest out plugin version eventName envelope (some (scopeType, scopeId)) = .ok s' ∧
    s.db.wakeupTasks.length < s'.db.wakeupTasks.length

/-- The envelope has a summary, and its payload is one. -/
def WellFormed (envelope : JsonDict) : Prop :=
  textField out envelope "summary" ≠ "" ∧ ∃ payload, fieldsOf (envelope "payload") = .ok payload

/-- The keys of new tasks are new, and different from each other. -/
structure FreshKeys (s : Manager) : Prop where
  injective : Function.Injective fun i => (out.wakeupKeys s.db i).taskId
  new : ∀ i, (out.wakeupKeys s.db i).taskId ∉ s.db.wakeupTasks.map key
  nonempty : ∀ i, (out.wakeupKeys s.db i).taskId ≠ ""

/-- Where the database looks after its keys, the users of the bindings are there. -/
def UsersExist (s : Manager) (plugin : PluginDefinition) : Prop :=
  out.foreignKeys = true → ∀ b ∈ s.bindings plugin.id, b.scopeType = "user" → b.scopeId ∈ s.db.users

/-! ## The listing -/

section Listing

variable {out} {s : Manager} {plugin : PluginDefinition} {tables : PluginTables}

/-- The row that is made when a config is first needed. -/
def newConfig (plugin : PluginDefinition) (scopeId : RowId) : PluginScopeConfig :=
  { pluginId := plugin.id
    scopeId := scopeId
    configJson := plugin.userDefaultConfigJson }

lemma scopeConfigs_ensureScopeConfig (kind kind' : ConfigScope) (tables : PluginTables)
    (plugin : PluginDefinition) (scopeId : RowId) :
    scopeConfigs kind' (ensureScopeConfig kind tables plugin scopeId) = scopeConfigs kind' tables ∨
      kind' = kind ∧ scopeConfigs kind' (ensureScopeConfig kind tables plugin scopeId) =
        scopeConfigs kind' tables ++ [newConfig plugin scopeId] := by
  unfold ensureScopeConfig
  split
  · exact .inl rfl
  · cases kind <;> cases kind' <;> first | exact .inr ⟨rfl, rfl⟩ | exact .inl rfl

lemma scopeEnabled_ensureScopeConfig (s : Manager) (tables : PluginTables)
    (kind kind' : ConfigScope) (plugin : PluginDefinition) (scopeId scopeId' : RowId) :
    { s with tables := ensureScopeConfig kind tables plugin scopeId }.scopeEnabled kind' plugin.id
        scopeId' = { s with tables := tables }.scopeEnabled kind' plugin.id scopeId' := by
  unfold Manager.scopeEnabled
  refine congrArg (· && _) ?_
  dsimp only
  rcases scopeConfigs_ensureScopeConfig kind kind' tables plugin scopeId with hsame | ⟨-, hnew⟩
  · rw [hsame]
  · rw [hnew, List.find?_append]
    cases hfind : (scopeConfigs kind' tables).find? (isOf plugin.id scopeId') with
    | some config => rfl
    | none =>
      rw [Option.none_or, List.find?_singleton]
      split <;> rfl

/-- The rows of scopes that are not there. -/
def SameMissing (out : Outside) (s : Manager) (plugin : PluginDefinition) (tables : PluginTables) :
    Prop :=
  out.foreignKeys = true → ∀ kind scopeId, s.scopeExists kind scopeId = false →
    (scopeConfigs kind tables).any (isOf plugin.id scopeId) =
      (scopeConfigs kind s.tables).any (isOf plugin.id scopeId)

/-- What has been made sure of leaves the tables as far as the listing looks at them. -/
structure Unchanged (out : Outside) (s : Manager) (plugin : PluginDefinition)
    (tables : PluginTables) : Prop where
  enabled : ∀ kind scopeId, { s with tables := tables }.scopeEnabled kind plugin.id scopeId =
    s.scopeEnabled kind plugin.id scopeId
  missing : SameMissing out s plugin tables

lemma Unchanged.refusesConfig_iff (h : Unchanged out s plugin tables) (kind : ConfigScope)
    (scopeId : RowId) :
    { s with tables := tables }.RefusesConfig out kind plugin.id scopeId ↔
      s.RefusesConfig out kind plugin.id scopeId := by
  unfold Manager.RefusesConfig
  refine and_congr_right fun hkeys => and_congr_right fun hexists => ?_
  exact iff_of_eq (congrArg (· = false) (h.missing hkeys kind scopeId hexists))

lemma Unchanged.ensureScopeConfig (h : Unchanged out s plugin tables) {kind : ConfigScope}
    {scopeId : RowId} (haccepted : ¬ s.RefusesConfig out kind plugin.id scopeId) :
    Unchanged out s plugin (ensureScopeConfig kind tables plugin scopeId) := by
  refine ⟨fun kind' scopeId' => ?_, fun hkeys kind' scopeId' hmissing => ?_⟩
  · rw [scopeEnabled_ensureScopeConfig, h.enabled]
  · rw [← h.missing hkeys kind' scopeId' hmissing]
    rcases scopeConfigs_ensureScopeConfig kind kind' tables plugin scopeId with
      hsame | ⟨hkind, hnew⟩
    · rw [hsame]
    · rw [hnew, List.any_append]
      -- a row that is made for a missing scope would have been refused, unless there is one
      by_cases hid : scopeId' = scopeId
      · subst hid hkind
        have hrow : (scopeConfigs kind' tables).any (isOf plugin.id scopeId') = true := by
          rw [h.missing hkeys kind' scopeId' hmissing, ← Bool.not_eq_false]
          exact fun hnone => haccepted ⟨hkeys, hmissing, hnone⟩
        rw [hrow, Bool.true_or]
      · have hother : isOf plugin.id scopeId' (newConfig plugin scopeId) = false := by
          simp [isOf, newConfig, Ne.symm hid]
        simp [hother]

lemma listScope_eq {listing : Listing} (h : Unchanged out s plugin listing.tables)
    (kind : ConfigScope) (scope : ShortLivedScope) (eligible : Bool) :
    (s.RefusesConfig out kind plugin.id scope.scopeId ∧
      listScope out s kind plugin scope eligible listing = .error .integrityError) ∨
    ¬ s.RefusesConfig out kind plugin.id scope.scopeId ∧ ∃ tables, Unchanged out s plugin tables ∧
      listScope out s kind plugin scope eligible listing = .ok
        { tables := tables
          scopes := listing.scopes ++
            if s.scopeEnabled kind plugin.id scope.scopeId && eligible then [scope] else [] } := by
  by_cases hrefused : s.RefusesConfig out kind plugin.id scope.scopeId
  · refine .inl ⟨hrefused, ?_⟩
    unfold listScope ensureConfig
    rw [if_pos ((h.refusesConfig_iff kind scope.scopeId).mpr hrefused)]
    rfl
  · have hensured := h.ensureScopeConfig hrefused
    refine .inr ⟨hrefused, _, hensured, ?_⟩
    unfold listScope ensureConfig
    rw [if_neg fun hno => hrefused ((h.refusesConfig_iff kind scope.scopeId).mp hno)]
    change (if _ then _ else _) = _
    rw [hensured.enabled]
    split
    · rfl
    · rw [List.append_nil]

/-- A scope joins those listed, unless it is listed already. -/
def addScope (scopes : List ShortLivedScope) : Option ShortLivedScope → List ShortLivedScope
  | none => scopes
  | some scope =>
    if scopes.any fun sc => sc.scopeType = scope.scopeType ∧ sc.scopeId = scope.scopeId then
      scopes
    else scopes ++ [scope]

/-- The config of the binding's user is needed, and refused. -/
def RefusesBinding (out : Outside) (s : Manager) (plugin : PluginDefinition)
    (b : PluginTargetBinding) : Prop :=
  b.scopeType = "user" ∧ (targetCharacter s.db b.target).isSome = true ∧
    s.RefusesConfig out .user plugin.id b.scopeId

lemma scopeOf_eq_some {b : PluginTargetBinding} {scope : ShortLivedScope}
    (h : s.scopeOf plugin.id b = some scope) :
    scope.scopeType = b.scopeType ∧ scope.scopeId = b.scopeId := by
  unfold Manager.scopeOf at h
  split at h
  · next htype =>
    split at h
    · cases h
      exact ⟨htype.symm, rfl⟩
    · cases h
  · split at h
    · next htype =>
      split at h
      · cases h
        exact ⟨htype.symm, rfl⟩
      · cases h
    · cases h

lemma mem_addScope {scopes : List ShortLivedScope} {found : Option ShortLivedScope}
    {scope : ShortLivedScope} (h : scope ∈ addScope scopes found) :
    scope ∈ scopes ∨ found = some scope := by
  cases found with
  | none => exact .inl h
  | some new =>
    by_cases hhas : scopes.any fun sc => sc.scopeType = new.scopeType ∧ sc.scopeId = new.scopeId
    · rw [addScope, if_pos hhas] at h
      exact .inl h
    · rw [addScope, if_neg hhas] at h
      exact (List.mem_append.mp h).imp_right fun h => by rw [List.mem_singleton.mp h]

/-- The scope is the one asked for. -/
def OfScope (scopeType : String) (scopeId : RowId) (scope : ShortLivedScope) : Prop :=
  scope.scopeType = scopeType ∧ scope.scopeId = scopeId

lemma exists_addScope {scopeType : String} {scopeId : RowId} (scopes : List ShortLivedScope)
    (found : Option ShortLivedScope) :
    (∃ scope ∈ addScope scopes found, OfScope scopeType scopeId scope) ↔
      (∃ scope ∈ scopes, OfScope scopeType scopeId scope) ∨
        ∃ scope, found = some scope ∧ OfScope scopeType scopeId scope := by
  constructor
  · rintro ⟨scope, hscope, hof⟩
    exact (mem_addScope hscope).imp (fun hmem => ⟨scope, hmem, hof⟩) fun heq => ⟨scope, heq, hof⟩
  · rintro (⟨scope, hscope, hof⟩ | ⟨scope, rfl, hof⟩)
    · refine ⟨scope, ?_, hof⟩
      cases found with
      | none => exact hscope
      | some new =>
        rw [addScope]
        split
        · exact hscope
        · exact List.mem_append_left _ hscope
    · rw [addScope]
      split
      · next hhas =>
        obtain ⟨sc, hsc, heq⟩ := List.any_eq_true.mp hhas
        obtain ⟨htype, hid⟩ := of_decide_eq_true heq
        exact ⟨sc, hsc, htype.trans hof.1, hid.trans hof.2⟩
      · exact ⟨scope, List.mem_append_right _ (List.mem_singleton.mpr rfl), hof⟩

lemma exists_foldl_addScope {scopeType : String} {scopeId : RowId}
    (bindings : List PluginTargetBinding) (scopes : List ShortLivedScope) :
    (∃ scope ∈ bindings.foldl (fun scopes b => addScope scopes (s.scopeOf plugin.id b)) scopes,
        OfScope scopeType scopeId scope) ↔
      (∃ scope ∈ scopes, OfScope scopeType scopeId scope) ∨
        ∃ b ∈ bindings, ∃ scope, s.scopeOf plugin.id b = some scope ∧
          OfScope scopeType scopeId scope := by
  induction bindings generalizing scopes with
  | nil => simp
  | cons b bindings ih =>
    rw [List.foldl_cons, ih, exists_addScope, or_assoc, List.exists_mem_cons_iff]

lemma shortLivedScopes_eq : s.shortLivedScopes plugin.id = (s.bindings plugin.id).foldl
    (fun scopes b => addScope scopes (s.scopeOf plugin.id b)) [] := by
  unfold Manager.shortLivedScopes
  rw [List.foldl_filterMap]
  refine List.foldl_ext _ _ _ fun scopes b _ => ?_
  cases s.scopeOf plugin.id b <;> rfl

/-- What the listing keeps: the tables as far as it looks at them, and no user whose config would be
refused among those listed. -/
structure Keeps (out : Outside) (s : Manager) (plugin : PluginDefinition) (listing : Listing) :
    Prop where
  unchanged : Unchanged out s plugin listing.tables
  accepted : ∀ scope ∈ listing.scopes, scope.scopeType = "user" →
    ¬ s.RefusesConfig out .user plugin.id scope.scopeId

lemma listBinding_eq {listing : Listing} (h : Keeps out s plugin listing)
    (b : PluginTargetBinding) :
    (RefusesBinding out s plugin b ∧ listBinding out s plugin listing b = .error .integrityError) ∨
    ¬ RefusesBinding out s plugin b ∧ ∃ tables, Unchanged out s plugin tables ∧
      listBinding out s plugin listing b = .ok
        { tables := tables, scopes := addScope listing.scopes (s.scopeOf plugin.id b) } := by
  unfold listBinding
  by_cases hhas : listing.has b = true
  · rw [if_pos hhas]
    obtain ⟨scope, hscope, heq⟩ := List.any_eq_true.mp hhas
    obtain ⟨htype, hid⟩ := of_decide_eq_true heq
    refine .inr ⟨fun hrefused => ?_, listing.tables, h.unchanged, ?_⟩
    · refine h.accepted scope hscope (htype.trans hrefused.1) ?_
      rw [hid]
      exact hrefused.2.2
    · cases hof : s.scopeOf plugin.id b with
      | none => rfl
      | some new =>
        obtain ⟨htype', hid'⟩ := scopeOf_eq_some hof
        have hany : (listing.scopes.any fun sc =>
            sc.scopeType = new.scopeType ∧ sc.scopeId = new.scopeId) = true := by
          rw [htype', hid']
          exact hhas
        rw [addScope, if_pos hany]
  · rw [if_neg hhas]
    -- a scope that is not listed yet is added
    have hadd : ∀ scope : ShortLivedScope,
        scope.scopeType = b.scopeType → scope.scopeId = b.scopeId →
        addScope listing.scopes (some scope) = listing.scopes ++ [scope] := by
      intro scope htype hid
      rw [addScope, htype, hid]
      exact if_neg hhas
    by_cases huser : b.scopeType = "user"
    · rw [if_pos huser]
      cases htarget : (targetCharacter s.db b.target).isSome with
      | false =>
        refine .inr ⟨fun hrefused => ?_, listing.tables, h.unchanged, ?_⟩
        · rw [hrefused.2.1] at htarget
          cases htarget
        · simp [Manager.scopeOf, huser, htarget, addScope]
      | true =>
        rw [if_pos rfl]
        rcases listScope_eq h.unchanged .user (userScope s b.scopeId)
          (s.isVisibleTo plugin.id b.scopeId) with
          ⟨hrefused, heq⟩ | ⟨haccepted, tables, htables, heq⟩
        · exact .inl ⟨⟨huser, htarget, hrefused⟩, heq⟩
        · refine .inr ⟨fun hrefused => haccepted hrefused.2.2, tables, htables, ?_⟩
          rw [heq]
          unfold Manager.scopeOf
          rw [if_pos huser, htarget, Bool.true_and]
          change Except.ok (Listing.mk tables (listing.scopes ++
            if (s.scopeEnabled .user plugin.id b.scopeId &&
              s.isVisibleTo plugin.id b.scopeId) = true
            then [userScope s b.scopeId] else [])) = _
          split
          · exact congrArg (fun scopes => Except.ok (Listing.mk tables scopes))
              (hadd (userScope s b.scopeId) huser.symm rfl).symm
          · rw [List.append_nil]
            rfl
    · rw [if_neg huser]
      have hnot : ¬ RefusesBinding out s plugin b := fun hrefused => huser hrefused.1
      by_cases hroom : b.scopeType = "chat_group"
      · rw [if_pos hroom]
        cases hexists : (get s.db.rooms b.scopeId).isSome with
        | false =>
          refine .inr ⟨hnot, listing.tables, h.unchanged, ?_⟩
          simp [Manager.scopeOf, hroom, hexists, addScope]
        | true =>
          rw [if_pos rfl]
          rcases listScope_eq h.unchanged .chatGroup (roomScope b.scopeId) true with
            ⟨hrefused, -⟩ | ⟨-, tables, htables, heq⟩
          · -- the config of a room that is there is not refused
            have hmissing : (get s.db.rooms b.scopeId).isSome = false := hrefused.2.1
            rw [hexists] at hmissing
            cases hmissing
          · refine .inr ⟨hnot, tables, htables, ?_⟩
            rw [heq]
            unfold Manager.scopeOf
            rw [if_neg huser, if_pos hroom, hexists, Bool.true_and, Bool.and_true]
            change Except.ok (Listing.mk tables (listing.scopes ++
              if s.scopeEnabled .chatGroup plugin.id b.scopeId = true
              then [roomScope b.scopeId] else [])) = _
            split
            · exact congrArg (fun scopes => Except.ok (Listing.mk tables scopes))
                (hadd (roomScope b.scopeId) hroom.symm rfl).symm
            · rw [List.append_nil]
              rfl
      · rw [if_neg hroom]
        refine .inr ⟨hnot, listing.tables, h.unchanged, ?_⟩
        simp [Manager.scopeOf, huser, hroom, addScope]

lemma foldlM_listBinding {bindings : List PluginTargetBinding} {listing : Listing}
    (h : Keeps out s plugin listing) (haccepted : ∀ b ∈ bindings, ¬ RefusesBinding out s plugin b) :
    ∃ tables, bindings.foldlM (listBinding out s plugin) listing = .ok
      { tables := tables
        scopes := bindings.foldl (fun scopes b => addScope scopes (s.scopeOf plugin.id b))
          listing.scopes } := by
  induction bindings generalizing listing with
  | nil => exact ⟨listing.tables, rfl⟩
  | cons b bindings ih =>
    obtain ⟨hb, hrest⟩ := List.forall_mem_cons.mp haccepted
    rcases listBinding_eq h b with ⟨hrefused, -⟩ | ⟨-, tables, htables, heq⟩
    · exact absurd hrefused hb
    · rw [List.foldlM_cons, heq]
      refine ih ⟨htables, fun scope hscope huser => ?_⟩ hrest
      rcases mem_addScope hscope with hscope | hof
      · exact h.accepted scope hscope huser
      · obtain ⟨htype, hid⟩ := scopeOf_eq_some hof
        rw [hid]
        intro hrefused
        refine hb ⟨htype.symm.trans huser, ?_, hrefused⟩
        unfold Manager.scopeOf at hof
        rw [if_pos (htype.symm.trans huser)] at hof
        split at hof
        · next heligible => exact (Bool.and_eq_true_iff.mp heligible).1
        · cases hof

lemma listShortLivedScopes_eq
    (haccepted : ∀ b ∈ s.bindings plugin.id, ¬ RefusesBinding out s plugin b) :
    ∃ tables, listShortLivedScopes out s plugin = .ok
      { tables := tables, scopes := s.shortLivedScopes plugin.id } := by
  have hstart : Keeps out s plugin { tables := s.tables } :=
    ⟨⟨fun _ _ => rfl, fun _ _ _ _ => rfl⟩, fun _ h => absurd h List.not_mem_nil⟩
  obtain ⟨tables, heq⟩ := foldlM_listBinding hstart haccepted
  refine ⟨tables, heq.trans ?_⟩
  rw [shortLivedScopes_eq]

lemma UsersExist.accepted (h : UsersExist out s plugin) :
    ∀ b ∈ s.bindings plugin.id, ¬ RefusesBinding out s plugin b := by
  rintro b hb ⟨huser, -, hkeys, hmissing, -⟩
  have hexists : decide (b.scopeId ∈ s.db.users) = true := decide_eq_true (h hkeys b hb huser)
  exact absurd (hmissing.symm.trans hexists) Bool.false_ne_true

lemma isSome_scopeOf {b : PluginTargetBinding}
    (hkind : b.scopeType = "user" ∨ b.scopeType = "chat_group") :
    (s.scopeOf plugin.id b).isSome = s.canDeliver plugin.id b := by
  unfold Manager.scopeOf Manager.canDeliver
  rcases hkind with huser | hroom
  · have hroom : b.scopeType ≠ "chat_group" := by rw [huser]; decide
    rw [if_pos huser, if_neg hroom, if_pos huser]
    split
    · next heligible => exact heligible.symm
    · next heligible => exact (Bool.eq_false_of_not_eq_true heligible).symm
  · have huser : b.scopeType ≠ "user" := by rw [hroom]; decide
    rw [if_neg huser, if_pos hroom, if_pos hroom]
    split
    · next heligible => exact heligible.symm
    · next heligible => exact (Bool.eq_false_of_not_eq_true heligible).symm

/-- There is a binding of the scope to which a result may be delivered. -/
def Deliverable (s : Manager) (pluginId : RowId) (scopeType : String) (scopeId : RowId) : Prop :=
  ∃ b ∈ s.bindings pluginId,
    s.canDeliver pluginId b = true ∧ b.scopeType = scopeType ∧ b.scopeId = scopeId

lemma listed_iff (husers : UsersExist out s plugin) {scopeType : String} {scopeId : RowId}
    (hkind : scopeType = "user" ∨ scopeType = "chat_group") :
    Listed out s plugin scopeType scopeId ↔ Deliverable s plugin.id scopeType scopeId := by
  obtain ⟨tables, heq⟩ := listShortLivedScopes_eq husers.accepted
  have hmem := @exists_foldl_addScope s plugin scopeType scopeId (s.bindings plugin.id) []
  rw [← shortLivedScopes_eq] at hmem
  constructor
  · rintro ⟨listing, hlisting, hscope⟩
    cases heq.symm.trans hlisting
    rcases hmem.mp hscope with ⟨scope, hnone, -⟩ | ⟨b, hb, scope, hof, htype, hid⟩
    · exact absurd hnone List.not_mem_nil
    · obtain ⟨htype', hid'⟩ := scopeOf_eq_some hof
      have hb' : b.scopeType = scopeType := htype'.symm.trans htype
      refine ⟨b, hb, ?_, hb', hid'.symm.trans hid⟩
      rw [← isSome_scopeOf (hb' ▸ hkind), hof]
      rfl
  · rintro ⟨b, hb, hdeliver, htype, hid⟩
    rw [← isSome_scopeOf (htype ▸ hkind)] at hdeliver
    obtain ⟨scope, hof⟩ := Option.isSome_iff_exists.mp hdeliver
    obtain ⟨htype', hid'⟩ := scopeOf_eq_some hof
    exact ⟨_, heq, hmem.mpr (.inr ⟨b, hb, scope, hof, htype'.trans htype, hid'.trans hid⟩)⟩

end Listing

/-! ## The wakeups -/

section Wakeups

variable {db : Db} {event : PluginEvent}

lemma scheduleOp_new (target : Target) (req : WakeupRequest) (keys : WakeupKeys)
    (newTagId : RowId) (now : Timestamp) (hreason : (req.reason.map strip).getD "" ≠ "")
    (hnew : keys.taskId ∉ db.wakeupTasks.map key)
    (hne : keys.taskId ≠ "") :
    ∃ db', scheduleOp db target req keys newTagId now = some db' ∧
      db'.wakeupTasks.map key = db.wakeupTasks.map key ++ [keys.taskId] := by
  have hsome : ∃ db', scheduleOp db target req keys newTagId now = some db' := by
    unfold scheduleOp scheduleWakeup
    rw [if_neg (not_or.mpr ⟨hnew, hne⟩), if_neg hreason]
    exact ⟨_, rfl⟩
  obtain ⟨db', hdb'⟩ := hsome
  refine ⟨db', hdb', ?_⟩
  rw [scheduleOp_tasks hdb', List.map_append]
  rfl

lemma foldlM_scheduleOp (newTagId : RowId) (now : Timestamp)
    {requests : List (PluginTargetBinding × WakeupKeys)}
    (hreason : strip (strip (event.summary.getD "")) ≠ "")
    (hkeys : (requests.map fun r => r.2.taskId).Nodup)
    (hnew : ∀ r ∈ requests, r.2.taskId ∉ db.wakeupTasks.map key ∧ r.2.taskId ≠ "") :
    ∃ db', requests.foldlM (fun db b => scheduleOp db b.1.target (event.request b.1 now) b.2
        newTagId now) db = some db' ∧
      db'.wakeupTasks.length = db.wakeupTasks.length + requests.length := by
  induction requests generalizing db with
  | nil => exact ⟨db, rfl, rfl⟩
  | cons r requests ih =>
    obtain ⟨hr, hrest⟩ := List.forall_mem_cons.mp hnew
    obtain ⟨hother, hkeys⟩ := List.nodup_cons.mp hkeys
    obtain ⟨db₁, hdb₁, htasks⟩ :=
      scheduleOp_new r.1.target (event.request r.1 now) r.2 newTagId now hreason hr.1 hr.2
    have hlength : db₁.wakeupTasks.length = db.wakeupTasks.length + 1 := by
      simpa using congrArg List.length htasks
    have hnew₁ : ∀ r' ∈ requests, r'.2.taskId ∉ db₁.wakeupTasks.map key ∧ r'.2.taskId ≠ "" := by
      intro r' hr'
      refine ⟨fun hmem => ?_, (hrest r' hr').2⟩
      rw [htasks] at hmem
      rcases List.mem_append.mp hmem with hold | hlast
      · exact (hrest r' hr').1 hold
      · exact hother (List.mem_map.mpr ⟨r', hr', List.mem_singleton.mp hlast⟩)
    obtain ⟨db', hdb', hlength'⟩ := ih hkeys hnew₁
    refine ⟨db', ?_, ?_⟩
    · rw [List.foldlM_cons, hdb₁]
      exact hdb'
    · rw [hlength', hlength, List.length_cons, Nat.add_assoc, Nat.add_comm 1]

end Wakeups

/-! ## The two agree -/

section Agree

variable {out} {s : Manager} {plugin : PluginDefinition}

lemma exists_delivers {event : PluginEvent} {scopeType : String} {scopeId : RowId}
    (hscopeType : scopeType ≠ "") (hscopeId : scopeId ≠ "")
    (htype : event.scopeType = some scopeType) (hid : event.scopeId = some scopeId)
    (hdeliverable : event.deliverable = s.canDeliver plugin.id) (b : PluginTargetBinding) :
    event.delivers b = true ↔
      s.canDeliver plugin.id b = true ∧ b.scopeType = scopeType ∧ b.scopeId = scopeId := by
  unfold PluginEvent.delivers
  rw [htype, hid, hdeliverable]
  simp [hscopeType, hscopeId]
  tauto

lemma ingest_delivers (plugin : PluginDefinition) {event : PluginEvent} (hfresh : FreshKeys out s)
    (hreason : strip (strip (event.summary.getD "")) ≠ "") :
    ∃ db', CocoonSit.ingest s.db event ((s.bindings plugin.id).zipIdx.map fun b =>
        (b.1, out.wakeupKeys s.db b.2)) out.newTagId out.now = some db' ∧
      (s.db.wakeupTasks.length < db'.wakeupTasks.length ↔
        ∃ b ∈ s.bindings plugin.id, event.delivers b = true) := by
  set requests := (((s.bindings plugin.id).zipIdx.map fun b =>
    (b.1, out.wakeupKeys s.db b.2)).filter fun b => event.delivers b.1) with hrequests
  have hkeys : (requests.map fun r => r.2.taskId).Nodup := by
    refine List.Nodup.sublist (List.Sublist.map _ List.filter_sublist) ?_
    have hindices : ((s.bindings plugin.id).zipIdx.map Prod.snd).Nodup := by
      rw [List.zipIdx_map_snd]
      exact List.nodup_range'
    have hmap := hindices.map hfresh.injective
    rw [List.map_map] at hmap ⊢
    exact hmap
  have hnew : ∀ r ∈ requests, r.2.taskId ∉ s.db.wakeupTasks.map key ∧ r.2.taskId ≠ "" := by
    intro r hr
    obtain ⟨b, -, rfl⟩ := List.mem_map.mp (List.mem_filter.mp hr).1
    exact ⟨hfresh.new b.2, hfresh.nonempty b.2⟩
  obtain ⟨db', hdb', hlength⟩ := foldlM_scheduleOp out.newTagId out.now hreason hkeys hnew
  refine ⟨db', hdb', ?_⟩
  rw [hlength, Nat.lt_add_right_iff_pos, List.length_pos_iff_exists_mem]
  constructor
  · rintro ⟨r, hr⟩
    obtain ⟨hmem, hr⟩ := List.mem_filter.mp hr
    obtain ⟨b, hb, rfl⟩ := List.mem_map.mp hmem
    exact ⟨b.1, List.fst_mem_of_mem_zipIdx hb, hr⟩
  · rintro ⟨b, hb, hdeliver⟩
    obtain ⟨i, hi⟩ := List.mem_iff_getElem?.mp hb
    have hzip : (b, i) ∈ (s.bindings plugin.id).zipIdx := List.mk_mem_zipIdx_iff_getElem?.mpr hi
    exact ⟨_, List.mem_filter.mpr ⟨List.mem_map_of_mem hzip, hdeliver⟩⟩

lemma schedules_iff_deliverable (version : PluginVersion) (eventName : String) {envelope : JsonDict}
    (hwell : WellFormed out envelope) (hfresh : FreshKeys out s) {scopeType : String}
    {scopeId : RowId} (hscopeType : scopeType ≠ "") (hscopeId : scopeId ≠ "") :
    Schedules out s plugin version eventName envelope scopeType scopeId ↔
      plugin.status = .enabled ∧ s.eventDisabled plugin.id eventName = false ∧
        Deliverable s plugin.id scopeType scopeId := by
  unfold Schedules Manager.ingest
  by_cases hoff : plugin.status ≠ .enabled ∨ s.eventDisabled plugin.id eventName = true
  · rw [if_pos hoff]
    constructor
    · rintro ⟨s', hs', hlt⟩
      cases hs'
      exact absurd hlt (lt_irrefl _)
    · rintro ⟨hstatus, hevent, -⟩
      rcases hoff with hoff | hoff
      · exact absurd hstatus hoff
      · rw [hevent] at hoff
        cases hoff
  · rw [if_neg hoff]
    rw [not_or, not_not, Bool.not_eq_true] at hoff
    obtain ⟨hsummary, payload, hpayload⟩ := hwell
    rw [and_iff_right hoff.1, and_iff_right hoff.2, hpayload]
    simp only [bind, Except.bind, if_neg hsummary, Option.map_some]
    set event : PluginEvent :=
      { pluginId := plugin.id
        pluginVersion := version.version
        eventName := eventName
        summary := some (textField out envelope "summary")
        payload := payload
        scopeType := some scopeType
        scopeId := some scopeId
        deliverable := s.canDeliver plugin.id } with hevent
    have hreason : strip (strip (event.summary.getD "")) ≠ "" := by
      change strip (strip (textField out envelope "summary")) ≠ ""
      unfold textField at hsummary ⊢
      rw [strip_strip, strip_strip]
      exact hsummary
    obtain ⟨db', hdb', hgrown⟩ := ingest_delivers plugin hfresh hreason
    have hdelivers : (∃ b ∈ s.bindings plugin.id, event.delivers b = true) ↔
        Deliverable s plugin.id scopeType scopeId :=
      exists_congr fun b => and_congr_right fun _ =>
        exists_delivers hscopeType hscopeId rfl rfl rfl b
    rw [← hdelivers, ← hgrown, hdb']
    constructor
    · rintro ⟨s', hs', hlt⟩
      cases hs'
      exact hlt
    · exact fun hlt => ⟨_, rfl, hlt⟩

/-- A scope is listed exactly when a result for it leads to a wakeup, where plugin and event are
switched on. -/
theorem schedules_iff (out : Outside) (s : Manager) (plugin : PluginDefinition)
    (version : PluginVersion) (eventName : String) (envelope : JsonDict) (scopeType : String)
    (scopeId : RowId) (hkind : scopeType = "user" ∨ scopeType = "chat_group")
    (hscopeId : scopeId ≠ "") (hwell : WellFormed out envelope) (hfresh : FreshKeys out s)
    (husers : UsersExist out s plugin) :
    Schedules out s plugin version eventName envelope scopeType scopeId ↔
      plugin.status = .enabled ∧ s.eventDisabled plugin.id eventName = false ∧
        Listed out s plugin scopeType scopeId := by
  have hscopeType : scopeType ≠ "" := by
    rcases hkind with rfl | rfl <;> decide
  rw [listed_iff husers hkind,
    schedules_iff_deliverable version eventName hwell hfresh hscopeType hscopeId]

/-! ## A plugin that is switched off -/

/-- Every key is longer than those before it. -/
def countingKeys : Outside :=
  { allWell with
    wakeupKeys := fun _ i =>
      { taskId := String.ofList (List.replicate (i + 1) 't')
        jobId := "job" } }

/-- A plugin bound to the cocoon of a user. -/
def ownCocoon : Manager :=
  { db :=
      { users := ["u"]
        cocoons := [{ id := "c", ownerUserId := "u", characterId := "k" }] }
    tables := {}
    bindings := fun _ =>
      [{ id := "b", scopeType := "user", scopeId := "u", target := .cocoon "c" }] }

/-- It has something to say. -/
def news : JsonDict := .ofList [("summary", .str "Rain tomorrow")]

lemma wellFormed_news : WellFormed countingKeys news :=
  ⟨by decide, [], rfl⟩

lemma freshKeys_ownCocoon : FreshKeys countingKeys ownCocoon := by
  refine ⟨fun i j hij => ?_, fun i => List.not_mem_nil, fun i => ?_⟩
  · have hlength := congrArg String.length hij
    simpa [countingKeys] using hlength
  · intro h
    have hlength := congrArg String.length h
    simp [countingKeys] at hlength

lemma usersExist_ownCocoon (plugin : PluginDefinition) :
    UsersExist countingKeys ownCocoon plugin := by
  intro _ b hb _
  rw [List.mem_singleton.mp hb]
  exact List.mem_singleton.mpr rfl

/-- The user is listed, and hears of it. -/
theorem news_for_owner :
    Listed countingKeys ownCocoon (imPlugin "a") "user" "u" ∧
      Schedules countingKeys ownCocoon (imPlugin "a") (imVersion "a") "weather" news "user"
        "u" := by
  have hlisted : Listed countingKeys ownCocoon (imPlugin "a") "user" "u" := ⟨_, rfl, _,
    List.mem_singleton.mpr rfl, rfl, rfl⟩
  exact ⟨hlisted, (schedules_iff countingKeys ownCocoon (imPlugin "a") (imVersion "a") "weather"
    news "user" "u" (.inl rfl) (by decide) wellFormed_news freshKeys_ownCocoon
    (usersExist_ownCocoon _)).mpr ⟨rfl, rfl, hlisted⟩⟩

/-- The scopes of a plugin that is switched off are listed all the same. -/
theorem disabled_plugin_listed :
    ¬ ∀ (out : Outside) (s : Manager) (plugin : PluginDefinition) (version : PluginVersion)
      (eventName : String) (envelope : JsonDict) (scopeType : String) (scopeId : RowId),
      (scopeType = "user" ∨ scopeType = "chat_group") → scopeId ≠ "" → WellFormed out envelope →
      FreshKeys out s → UsersExist out s plugin →
      (Listed out s plugin scopeType scopeId ↔
        Schedules out s plugin version eventName envelope scopeType scopeId) := by
  intro hagree
  have hlisted :
      Listed countingKeys ownCocoon { imPlugin "a" with status := .disabled } "user" "u" :=
    ⟨_, rfl, _, List.mem_singleton.mpr rfl, rfl, rfl⟩
  obtain ⟨s', hs', hlt⟩ := (hagree countingKeys ownCocoon { imPlugin "a" with status := .disabled }
    (imVersion "a") "weather" news "user" "u" (.inl rfl) (by decide) wellFormed_news
    freshKeys_ownCocoon (usersExist_ownCocoon _)).mp hlisted
  cases hs'
  exact absurd hlt (lt_irrefl _)

end Agree

end ShortLivedScopes

end PluginRuntimeManager

end CocoonSit
