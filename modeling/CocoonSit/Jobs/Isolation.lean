import CocoonSit.Jobs.Parts

/-!
# Jobs enqueued for a cocoon

The routes `POST /{cocoon_id}/rollback` and `POST /{cocoon_id}/reorganize` check that the caller may
write the cocoon, and enqueue a job with the ids of the request.  The job looks these up by primary
key.  It is confined to the cocoon when they name rows of the cocoon, and then two databases that
differ only in the data of other targets make it do the same; an id of another target's row reaches
that target.
-/

namespace CocoonSit

open Table Owned

section Operations

variable {c : RowId} {db : Db}

/-! ## Removing messages -/

/-- What goes with the messages belongs to the cocoon. -/
structure RemovesOwn (c : RowId) (db : Db) (messageIds : List RowId) : Prop where
  memories : ∀ m ∈ db.memories, RoundCleanup.removesMemory messageIds m = true →
    inCocoon c m = true
  failedRounds : ∀ r ∈ db.failedRounds,
    RoundCleanup.ofActions db messageIds r.actionId = true → inCocoon c r = true
  auditRuns : ∀ r ∈ db.auditRuns,
    RoundCleanup.ofActions db messageIds r.actionId = true → inCocoon c r = true

section Removal

variable {messageIds : List RowId}

lemma others_keptMessages
    (hmessages : ∀ m ∈ db.messages, m.id ∈ messageIds → inCocoon c m = true) :
    others c (RoundCleanup.deleteMessageRelatedRows db messageIds).messages =
      others c db.messages :=
  filter_filter_eq fun m hm hother => decide_eq_true fun hin => by
    rw [hmessages m hm hin] at hother
    cases hother

lemma others_keptMemories (h : RemovesOwn c db messageIds) :
    others c (RoundCleanup.deleteMessageRelatedRows db messageIds).memories =
      others c db.memories :=
  filter_filter_eq fun m hm hother => by
    by_contra hremoved
    rw [h.memories m hm (by simpa using hremoved)] at hother
    cases hother

lemma otherPart_deleteMessageRelatedRows
    (hmessages : ∀ m ∈ db.messages, m.id ∈ messageIds → inCocoon c m = true)
    (h : RemovesOwn c db messageIds)
    (hids : ∀ m ∈ others c db.memories, m.id ∉ RoundCleanup.memoryIds db messageIds) :
    otherPart c (RoundCleanup.deleteMessageRelatedRows db messageIds) = otherPart c db := by
  have hkeptMessages := others_keptMessages hmessages
  have hkeptMemories := others_keptMemories h
  refine (Db.mk.injEq ..).mpr ⟨rfl, rfl, rfl, rfl, hkeptMessages, ?_, hkeptMemories, ?_, rfl, rfl,
    rfl, rfl, rfl, ?_, ?_, rfl, rfl⟩
  · rw [otherMessage_congr hkeptMessages]
    refine filter_filter_eq fun t _ ht => ?_
    obtain ⟨m, hm, hid⟩ := List.any_eq_true.mp ht
    obtain ⟨hm, hother⟩ := mem_others.mp hm
    have hid : m.id = t.messageId := of_decide_eq_true hid
    refine decide_eq_true fun hin => ?_
    rw [hmessages m hm (hid ▸ hin)] at hother
    cases hother
  · rw [otherMemory_congr hkeptMemories]
    refine filter_filter_eq fun t _ ht => ?_
    obtain ⟨m, hm, hid⟩ := List.any_eq_true.mp ht
    have hid : m.id = t.memoryChunkId := of_decide_eq_true hid
    exact decide_eq_true (hid ▸ hids m hm)
  · refine filter_filter_eq fun r hr hother => ?_
    by_contra hremoved
    rw [h.failedRounds r hr (by simpa using hremoved)] at hother
    cases hother
  · refine filter_filter_eq fun r hr hother => ?_
    by_contra hremoved
    rw [h.auditRuns r hr (by simpa using hremoved)] at hother
    cases hother

lemma deleteMessageRelatedRows_ownPart
    (hmessages : ∀ m ∈ db.messages, m.id ∈ messageIds → inCocoon c m = true)
    (h : RemovesOwn c db messageIds) :
    RoundCleanup.deleteMessageRelatedRows (ownPart c db) messageIds =
      ownPart c (RoundCleanup.deleteMessageRelatedRows db messageIds) := by
  have hactions : RoundCleanup.actionIds (ownPart c db) messageIds =
      RoundCleanup.actionIds db messageIds :=
    congrArg (List.filterMap Message.actionId)
      (filter_filter_eq fun m hm hin => hmessages m hm (of_decide_eq_true hin))
  have hmemoryIds : RoundCleanup.memoryIds (ownPart c db) messageIds =
      RoundCleanup.memoryIds db messageIds :=
    congrArg (List.map MemoryChunk.id) (filter_filter_eq h.memories)
  have hofActions : RoundCleanup.ofActions (ownPart c db) messageIds =
      RoundCleanup.ofActions db messageIds := by
    funext actionId
    rw [RoundCleanup.ofActions, hactions, RoundCleanup.ofActions]
  have hmessageTags :
      (RoundCleanup.deleteMessageRelatedRows (ownPart c db) messageIds).messageTags =
      (ownPart c (RoundCleanup.deleteMessageRelatedRows db messageIds)).messageTags := by
    show ((db.messageTags.filter _).filter _) = (db.messageTags.filter _).filter _
    rw [otherMessage_congr (others_keptMessages hmessages)]
    exact filter_filter_comm
  have hmemoryTags : (RoundCleanup.deleteMessageRelatedRows (ownPart c db) messageIds).memoryTags =
      (ownPart c (RoundCleanup.deleteMessageRelatedRows db messageIds)).memoryTags := by
    show ((db.memoryTags.filter _).filter _) = (db.memoryTags.filter _).filter _
    rw [otherMemory_congr (others_keptMemories h), hmemoryIds]
    exact filter_filter_comm
  have hfailed : (RoundCleanup.deleteMessageRelatedRows (ownPart c db) messageIds).failedRounds =
      (ownPart c (RoundCleanup.deleteMessageRelatedRows db messageIds)).failedRounds := by
    show ((db.failedRounds.filter _).filter _) = (db.failedRounds.filter _).filter _
    rw [hofActions]
    exact filter_filter_comm
  have hruns : (RoundCleanup.deleteMessageRelatedRows (ownPart c db) messageIds).auditRuns =
      (ownPart c (RoundCleanup.deleteMessageRelatedRows db messageIds)).auditRuns := by
    show ((db.auditRuns.filter _).filter _) = (db.auditRuns.filter _).filter _
    rw [hofActions]
    exact filter_filter_comm
  exact (Db.mk.injEq ..).mpr ⟨rfl, rfl, rfl, rfl, filter_filter_comm, hmessageTags,
    filter_filter_comm, hmemoryTags, rfl, rfl, rfl, rfl, rfl, hfailed, hruns, rfl, rfl⟩

end Removal

/-! ## The rollback job -/

section Rollback

variable {request : RollbackRequest} {env : JobEnv}

lemma otherPart_moveToAnchor (h : request.checkpoint.cocoonId = c) :
    otherPart c (moveToAnchor db request) = otherPart c db := by
  have hcocoons : others c (moveToAnchor db request).cocoons = others c db.cocoons := by
    refine filter_map_eq (fun r => ?_) fun r _ hr => ?_
    · split <;> rfl
    · have hne : key r ≠ request.checkpoint.cocoonId := fun heq => by
        rw [h] at heq
        simp [inCocoon, ← heq] at hr
      rw [if_neg hne]
  have hcheckpoints : others c (moveToAnchor db request).checkpoints =
      others c db.checkpoints := by
    refine filter_map_eq (fun r => ?_) fun r _ hr => ?_
    · split <;> rfl
    · have hne : r.cocoonId ≠ request.checkpoint.cocoonId := fun heq => by
        rw [h] at heq
        simp [inCocoon, heq] at hr
      rw [if_neg hne]
  exact congrArg₂ (fun cocoons checkpoints =>
    { otherPart c db with cocoons := cocoons, checkpoints := checkpoints }) hcocoons hcheckpoints

lemma moveToAnchor_ownPart :
    moveToAnchor (ownPart c db) request = ownPart c (moveToAnchor db request) := by
  have hcocoons : own c (moveToAnchor db request).cocoons =
      (moveToAnchor (ownPart c db) request).cocoons :=
    filter_map_comm (fun r => by split <;> rfl) db.cocoons
  have hcheckpoints : own c (moveToAnchor db request).checkpoints =
      (moveToAnchor (ownPart c db) request).checkpoints :=
    filter_map_comm (fun r => by split <;> rfl) db.checkpoints
  exact congrArg₂ (fun cocoons checkpoints =>
    { ownPart c db with cocoons := cocoons, checkpoints := checkpoints })
    hcocoons.symm hcheckpoints.symm

lemma otherPart_restoreState (h : request.checkpoint.cocoonId = c) :
    otherPart c (restoreState db request env) = otherPart c db := by
  unfold restoreState
  rw [h]
  have hstate : otherPart c (getSessionState db (.cocoon c) env.newTagId env.now).1 =
      otherPart c db := otherPart_getSessionState env.newTagId env.now
  dsimp only
  generalize getSessionState db (.cocoon c) env.newTagId env.now = looked at hstate
  cases looked.2 with
  | none => exact hstate
  | some state =>
    exact (otherPart_updateState (restoredState request) fun _ => rfl).trans hstate

lemma restoreState_ownPart (h : request.checkpoint.cocoonId = c) :
    restoreState (ownPart c db) request env = ownPart c (restoreState db request env) := by
  unfold restoreState
  rw [h]
  dsimp only
  rw [getSessionState_ownPart]
  dsimp only [Prod.map, id_eq]
  generalize getSessionState db (.cocoon c) env.newTagId env.now = looked
  cases looked.2 with
  | none => rfl
  | some state => exact updateState_ownPart (restoredState request) fun _ => rfl

lemma laterMessageIds_ownPart (h : request.checkpoint.cocoonId = c) :
    laterMessageIds (ownPart c db) request = laterMessageIds db request := by
  refine congrArg (List.map Message.id) (filter_filter_eq fun m _ hm => ?_)
  have htarget : m.target = .cocoon request.checkpoint.cocoonId :=
    of_decide_eq_true (Bool.and_eq_true_iff.mp hm).1
  exact decide_eq_true (htarget.trans (congrArg Target.cocoon h))

end Rollback

end Operations

/-! ## Databases and keys -/

/-- What the tables' keys see to, and `create_checkpoint`, which looks for the anchor among the
messages of the cocoon. -/
structure RowsSound (db : Db) : Prop where
  messageIds : (db.messages.map key).Nodup
  memoryIds : (db.memories.map key).Nodup
  candidateIds : (db.memoryCandidates.map key).Nodup
  anchors : ∀ checkpoint ∈ db.checkpoints, ∀ m ∈ db.messages,
    m.id = checkpoint.anchorMessageId → m.target = .cocoon checkpoint.cocoonId

/-- The keys that are drawn are new. -/
structure JobEnv.FreshFor (env : JobEnv) (db : Db) : Prop where
  runId : ∀ r ∈ db.auditRuns, r.id ≠ env.runId
  memoryId : ∀ i, ∀ m ∈ db.memories, m.id ≠ (env.memoryKeys i).memoryId
  candidateId : ∀ i, ∀ a ∈ db.memoryCandidates, a.id ≠ (env.memoryKeys i).candidateId

section Jobs

variable {c : RowId} {db : Db} {env : JobEnv}

/-! ## Rolling back -/

/-- The checkpoint is the cocoon's, and so is what goes with the messages after its anchor. -/
def RollbackInScope (c : RowId) (db : Db) (checkpointId : RowId) : Prop :=
  ∀ checkpoint, get db.checkpoints checkpointId = some checkpoint →
    checkpoint.cocoonId = c ∧
      ∀ request, resolveRollback db checkpoint = some request →
        RemovesOwn c db (laterMessageIds db request)

section

variable {checkpoint : Checkpoint} {request : RollbackRequest} {checkpointId : RowId}

lemma resolveRollback_checkpoint (h : resolveRollback db checkpoint = some request) :
    request.checkpoint = checkpoint := by
  obtain ⟨anchor, -, h⟩ := Option.bind_eq_some_iff.mp h
  obtain ⟨cocoon, -, h⟩ := Option.bind_eq_some_iff.mp h
  exact (congrArg RollbackRequest.checkpoint (Option.some.inj h)).symm

lemma inCocoon_of_later (hids : (db.messages.map key).Nodup)
    (h : request.checkpoint.cocoonId = c) :
    ∀ m ∈ db.messages, m.id ∈ laterMessageIds db request → inCocoon c m = true := by
  intro m hm hlater
  obtain ⟨m', hm', hid⟩ := List.mem_map.mp hlater
  obtain ⟨hm', hp⟩ := List.mem_filter.mp hm'
  have htarget : m'.target = .cocoon request.checkpoint.cocoonId :=
    of_decide_eq_true (Bool.and_eq_true_iff.mp hp).1
  rw [List.inj_on_of_nodup_map hids hm hm' hid.symm]
  exact decide_eq_true (htarget.trans (congrArg Target.cocoon h))

lemma RemovesOwn.startRun {messageIds : List RowId} (h : RemovesOwn c db messageIds)
    (target : Option Target) (operationType : String) (runId : RowId) :
    RemovesOwn c (startRun db target operationType runId) messageIds where
  memories := h.memories
  failedRounds := h.failedRounds
  auditRuns r hr hremoved := by
    rcases List.mem_append.mp hr with hr | hr
    · exact h.auditRuns r hr hremoved
    · obtain rfl := List.mem_singleton.mp hr
      cases hremoved

lemma otherPart_rollBack (env : JobEnv) (db : Db) (hmessageIds : (db.messages.map key).Nodup)
    (hmemoryIds : (db.memories.map key).Nodup) (h : request.checkpoint.cocoonId = c)
    (hremoves : RemovesOwn c db (laterMessageIds db request))
    (hrun : ∀ r ∈ others c db.auditRuns, r.id ≠ env.runId) :
    otherPart c (rollBack db request env) = otherPart c db := by
  have hids : ∀ m ∈ others c db.memories,
      m.id ∉ RoundCleanup.memoryIds db (laterMessageIds db request) := by
    intro m hm hin
    obtain ⟨m', hm', hid⟩ := List.mem_map.mp hin
    obtain ⟨hm', hremoved⟩ := List.mem_filter.mp hm'
    obtain ⟨hm, hother⟩ := mem_others.mp hm
    obtain rfl := List.inj_on_of_nodup_map hmemoryIds hm' hm hid
    rw [hremoves.memories m' hm' hremoved] at hother
    cases hother
  have hdeleted := otherPart_deleteMessageRelatedRows (inCocoon_of_later hmessageIds h) hremoves
    hids
  unfold rollBack
  generalize RoundCleanup.deleteMessageRelatedRows db (laterMessageIds db request) = deleted
    at hdeleted
  have hrestored : otherPart c (restoreState (moveToAnchor deleted request) request env) =
      otherPart c db :=
    ((otherPart_restoreState h).trans (otherPart_moveToAnchor h)).trans hdeleted
  have hruns := OthersUnchanged.auditRuns hrestored
  exact (otherPart_finishRun fun r hr => hrun r (hruns ▸ hr)).trans hrestored

lemma rollBack_ownPart (hmessageIds : (db.messages.map key).Nodup)
    (h : request.checkpoint.cocoonId = c)
    (hremoves : RemovesOwn c db (laterMessageIds db request)) :
    rollBack (ownPart c db) request env = ownPart c (rollBack db request env) := by
  unfold rollBack
  dsimp only
  rw [laterMessageIds_ownPart h,
    deleteMessageRelatedRows_ownPart (inCocoon_of_later hmessageIds h) hremoves,
    moveToAnchor_ownPart, restoreState_ownPart h, finishRun_ownPart]

lemma resolveRollback_ownPart (hsound : RowsSound db) (hmem : checkpoint ∈ db.checkpoints)
    (h : checkpoint.cocoonId = c) :
    resolveRollback (ownPart c db) checkpoint = resolveRollback db checkpoint := by
  have hanchor : get (ownPart c db).messages checkpoint.anchorMessageId =
      get db.messages checkpoint.anchorMessageId :=
    get_own fun m hm hk =>
      decide_eq_true ((hsound.anchors checkpoint hmem m hm hk).trans (congrArg Target.cocoon h))
  have hcocoon : get (ownPart c db).cocoons checkpoint.cocoonId =
      get db.cocoons checkpoint.cocoonId :=
    get_own fun r _ hk => decide_eq_true (Eq.trans hk h)
  rw [resolveRollback, hanchor, hcocoon, resolveRollback]

lemma rollback_othersUnchanged (hsound : RowsSound db) (hfresh : env.FreshFor db)
    (hscope : RollbackInScope c db checkpointId) :
    OthersUnchanged c db (executeRollbackJob db checkpointId env).session := by
  unfold executeRollbackJob
  cases hget : get db.checkpoints checkpointId with
  | none => exact rfl
  | some checkpoint =>
    obtain ⟨hcocoon, hremoves⟩ := hscope checkpoint hget
    have hstarted : OthersUnchanged c db (startRun db (some (.cocoon c)) "rollback" env.runId) :=
      otherPart_startRun ..
    have hruns := hstarted.auditRuns
    dsimp only
    rw [hcocoon]
    cases hresolve : resolveRollback
      (startRun db (some (.cocoon c)) "rollback" env.runId) checkpoint with
    | none => exact hstarted
    | some request =>
      have hrequest := congrArg Checkpoint.cocoonId (resolveRollback_checkpoint hresolve)
      have hrolled := otherPart_rollBack env
        (startRun db (some (.cocoon c)) "rollback" env.runId) hsound.messageIds hsound.memoryIds
          (hrequest.trans hcocoon)
        ((hremoves request hresolve).startRun ..)
        fun r hr => hfresh.runId r (mem_others.mp (hruns ▸ hr)).1
      exact hrolled.trans hstarted

lemma rollback_ownPart (env : JobEnv) (hsound : RowsSound db)
    (hscope : RollbackInScope c db checkpointId) :
    executeRollbackJob (ownPart c db) checkpointId env =
      (executeRollbackJob db checkpointId env).map (ownPart c) := by
  have hget : get (ownPart c db).checkpoints checkpointId = get db.checkpoints checkpointId :=
    find?_filter_of_find? fun r hr => decide_eq_true (hscope r hr).1
  unfold executeRollbackJob
  rw [hget]
  cases hcheckpoint : get db.checkpoints checkpointId with
  | none => rfl
  | some checkpoint =>
    obtain ⟨hcocoon, hremoves⟩ := hscope checkpoint hcheckpoint
    have hmem := mem_of_get hcheckpoint
    dsimp only
    rw [hcocoon, startRun_ownPart]
    have hresolves : resolveRollback
        (ownPart c (startRun db (some (.cocoon c)) "rollback" env.runId)) checkpoint =
        resolveRollback (startRun db (some (.cocoon c)) "rollback" env.runId) checkpoint :=
      resolveRollback_ownPart ⟨hsound.messageIds, hsound.memoryIds, hsound.candidateIds,
        hsound.anchors⟩ hmem hcocoon
    rw [hresolves]
    cases hresolve : resolveRollback
      (startRun db (some (.cocoon c)) "rollback" env.runId) checkpoint with
    | none => rfl
    | some request =>
      have hrequest := congrArg Checkpoint.cocoonId (resolveRollback_checkpoint hresolve)
      exact congrArg JobEnd.returned (rollBack_ownPart hsound.messageIds
        (hrequest.trans hcocoon) ((hremoves request hresolve).startRun ..))

/-! What is left of the rows when the job is through. -/

lemma restoreState_frame : TagsOnly db (restoreState db request env) := by
  unfold restoreState
  have hstate := getSessionState_frame db (.cocoon request.checkpoint.cocoonId) env.newTagId env.now
  dsimp only
  generalize getSessionState db (.cocoon request.checkpoint.cocoonId) env.newTagId env.now = looked
    at hstate
  cases looked.2 with
  | none => exact hstate
  | some state => exact hstate.trans ⟨rfl⟩

lemma rollBack_memories : (rollBack db request env).memories =
    db.memories.filter fun m => !RoundCleanup.removesMemory (laterMessageIds db request) m :=
  congrArg Db.memories restoreState_frame.frame

lemma rollBack_failedRounds : (rollBack db request env).failedRounds =
    db.failedRounds.filter fun r =>
      !RoundCleanup.ofActions db (laterMessageIds db request) r.actionId :=
  congrArg Db.failedRounds restoreState_frame.frame

lemma rollBack_auditRuns : (rollBack db request env).auditRuns =
    update (db.auditRuns.filter fun r =>
      !RoundCleanup.ofActions db (laterMessageIds db request) r.actionId) env.runId
      fun r => { r with status := .completed, finishedAt := some env.now } :=
  congrArg (fun runs => update runs env.runId fun r : AuditRun =>
    { r with status := .completed, finishedAt := some env.now })
    (congrArg Db.auditRuns restoreState_frame.frame)

lemma mem_rollBack_auditRuns {r : AuditRun} (h : r ∈ (rollBack db request env).auditRuns) :
    RoundCleanup.ofActions db (laterMessageIds db request) r.actionId = false := by
  rw [rollBack_auditRuns] at h
  rcases mem_update.mp h with ⟨r₀, hr₀, -, rfl⟩ | ⟨hr, -⟩
  · simpa using (List.mem_filter.mp hr₀).2
  · simpa using (List.mem_filter.mp hr).2

lemma rollback_leavesRun (env : JobEnv) (h : get db.checkpoints checkpointId = some checkpoint) :
    ∃ r ∈ (executeRollbackJob db checkpointId env).session.auditRuns,
      r.id = env.runId ∧ r.target = some (.cocoon checkpoint.cocoonId) := by
  unfold executeRollbackJob
  rw [h]
  dsimp only
  cases resolveRollback (startRun db (some (.cocoon checkpoint.cocoonId)) "rollback" env.runId)
    checkpoint with
  | none => exact ⟨_, List.mem_append_right _ (List.mem_singleton_self _), rfl, rfl⟩
  | some request =>
    show ∃ r ∈ (rollBack _ request env).auditRuns, _
    rw [rollBack_auditRuns]
    refine ⟨_, mem_update.mpr (.inl ⟨_, List.mem_filter.mpr
      ⟨List.mem_append_right _ (List.mem_singleton_self _), rfl⟩, rfl, rfl⟩), rfl, rfl⟩

lemma rollback_inScope (hfresh : env.FreshFor db)
    (h : OthersUnchanged c db (executeRollbackJob db checkpointId env).session) :
    RollbackInScope c db checkpointId := by
  intro checkpoint hget
  have hcocoon : checkpoint.cocoonId = c := by
    obtain ⟨r, hr, hid, htarget⟩ := rollback_leavesRun env hget
    by_contra hne
    have hother : inCocoon c r = false := decide_eq_false fun heq => hne (by
      rw [htarget] at heq
      exact Target.cocoon.inj (Option.some.inj heq))
    have hold : r ∈ others c db.auditRuns := h.auditRuns ▸ mem_others.mpr ⟨hr, hother⟩
    exact hfresh.runId r (mem_others.mp hold).1 hid
  refine ⟨hcocoon, fun request hresolve => ?_⟩
  have hsession : (executeRollbackJob db checkpointId env).session =
      rollBack (startRun db (some (.cocoon checkpoint.cocoonId)) "rollback" env.runId) request
        env := by
    have hresolve' : resolveRollback
        (startRun db (some (.cocoon checkpoint.cocoonId)) "rollback" env.runId) checkpoint =
        some request := hresolve
    simp only [executeRollbackJob, hget, hresolve', JobEnd.session]
  rw [hsession] at h
  -- a row that goes with the messages is no other target's, or it would still be there
  refine ⟨fun m hm hremoved => ?_, fun r hr hremoved => ?_, fun r hr hremoved => ?_⟩
  · by_contra hother
    have hleft := h.memories ▸ mem_others.mpr ⟨hm, Bool.eq_false_of_not_eq_true hother⟩
    have hleft := (mem_others.mp hleft).1
    rw [rollBack_memories] at hleft
    have hkept : (!RoundCleanup.removesMemory (laterMessageIds db request) m) = true :=
      (List.mem_filter.mp hleft).2
    rw [hremoved] at hkept
    cases hkept
  · by_contra hother
    have hleft := h.failedRounds ▸ mem_others.mpr ⟨hr, Bool.eq_false_of_not_eq_true hother⟩
    have hleft := (mem_others.mp hleft).1
    rw [rollBack_failedRounds] at hleft
    have hkept : (!RoundCleanup.ofActions db (laterMessageIds db request) r.actionId) = true :=
      (List.mem_filter.mp hleft).2
    rw [hremoved] at hkept
    cases hkept
  · by_contra hother
    have hleft := h.auditRuns ▸ mem_others.mpr ⟨hr, Bool.eq_false_of_not_eq_true hother⟩
    have hkept := mem_rollBack_auditRuns (mem_others.mp hleft).1
    have hkept : RoundCleanup.ofActions db (laterMessageIds db request) r.actionId = false := hkept
    rw [hremoved] at hkept
    cases hkept

end

/-! ## Reorganising memories -/

/-- The memories the request names are the cocoon's. -/
def ReorganizeInScope (c : RowId) (db : Db) (memoryIds : List RowId) : Prop :=
  (get db.cocoons c).isSome → ∀ m ∈ reorganizedMemories db memoryIds, inCocoon c m = true

section

variable {memoryIds : List RowId} {instructions : Option String} {provider : SummaryProvider}

lemma otherPart_archiveMemories {memories : List MemoryChunk}
    (h : ∀ m ∈ others c db.memories, m.id ∉ memories.map MemoryChunk.id) :
    otherPart c (archiveMemories db memories) = otherPart c db := by
  have hmemories : others c (archiveMemories db memories).memories = others c db.memories := by
    refine filter_map_eq (fun m => ?_) fun m hm hother => ?_
    · split <;> rfl
    · have hnot : key m ∉ memories.map MemoryChunk.id := h m (List.mem_filter.mpr ⟨hm, hother⟩)
      rw [if_neg hnot]
  have htags : ((archiveMemories db memories).memoryTags.filter fun t =>
      otherMemory c (archiveMemories db memories) t.memoryChunkId) =
      db.memoryTags.filter fun t => otherMemory c db t.memoryChunkId := by
    rw [otherMemory_congr hmemories]
    rfl
  exact congrArg₂ (fun memories tags =>
    { otherPart c db with memories := memories, memoryTags := tags }) hmemories htags

lemma archiveMemories_ownPart {memories : List MemoryChunk}
    (h : ∀ m ∈ others c db.memories, m.id ∉ memories.map MemoryChunk.id) :
    archiveMemories (ownPart c db) memories = ownPart c (archiveMemories db memories) := by
  have hmemories : own c (archiveMemories db memories).memories =
      (archiveMemories (ownPart c db) memories).memories :=
    filter_map_comm (fun m => by split <;> rfl) db.memories
  have hothers := OthersUnchanged.memories (otherPart_archiveMemories h)
  have htags : ((archiveMemories db memories).memoryTags.filter fun t =>
      !otherMemory c (archiveMemories db memories) t.memoryChunkId) =
      db.memoryTags.filter fun t => !otherMemory c db t.memoryChunkId := by
    rw [otherMemory_congr hothers]
    rfl
  exact congrArg₂ (fun memories tags =>
    { ownPart c db with memories := memories, memoryTags := tags }) hmemories.symm htags.symm

lemma candidatesApart (hids : (db.memoryCandidates.map key).Nodup) : CandidatesApart c db := by
  intro a ha b hb hid
  obtain ⟨ha, hown⟩ := mem_own.mp ha
  obtain ⟨hb, hother⟩ := mem_others.mp hb
  obtain rfl := List.inj_on_of_nodup_map hids hb ha hid
  rw [hown] at hother
  cases hother

lemma JobEnv.FreshFor.keysFree (h : env.FreshFor db) (i : ℕ) :
    KeysFree c db (env.memoryKeys i) where
  memoryId := by
    refine List.any_eq_false.mpr fun m hm => ?_
    have hne := h.memoryId i m (mem_others.mp hm).1
    simpa using hne
  candidateId a ha := h.candidateId i a (mem_others.mp ha).1

lemma storeReorganized_confined (env : JobEnv) {cocoon : Cocoon} (hcocoon : cocoon.id = c)
    (hfree : ∀ i, KeysFree c db (env.memoryKeys i)) (hapart : CandidatesApart c db)
    (catalog : List RowId) (memories : List MemoryChunk) (output : CompactionOutput) :
    otherPart c (storeReorganized db cocoon catalog memories output env) = otherPart c db ∧
      storeReorganized (ownPart c db) cocoon catalog memories output env =
        ownPart c (storeReorganized db cocoon catalog memories output env) := by
  unfold storeReorganized
  rw [ensureUserSystemTag_ownPart]
  have hothers : otherPart c (ensureUserSystemTag db cocoon.ownerUserId env.newTagId).1 =
      otherPart c db := otherPart_ensureUserSystemTag cocoon.ownerUserId env.newTagId
  have hframe := ensureUserSystemTag_frame db cocoon.ownerUserId env.newTagId
  dsimp only [Prod.map, id_eq]
  generalize ensureUserSystemTag db cocoon.ownerUserId env.newTagId = tagged at hothers hframe
  have hcandidates : tagged.1.memoryCandidates = db.memoryCandidates := by rw [hframe.frame]
  have hstorable : Storable c db tagged.1 := by
    refine ⟨hothers, ?_⟩
    unfold CandidatesApart
    rw [hcandidates]
    exact hapart
  obtain ⟨hstored, hown⟩ := storeItems_confined (reorganizeSource memories)
    { cocoon := cocoon, catalog := catalog, defaultTagId := tagged.2
      candidatePromoteHits := env.candidatePromoteHits
      candidateTtlHours := env.candidateTtlHours
      newTagId := env.newTagId, now := env.now } hcocoon hfree hstorable
    output.longTermMemories
  exact ⟨hstored, congrArg Prod.fst hown⟩

lemma reorganize_confined (instructions : Option String) (provider : SummaryProvider)
    (hsound : RowsSound db) (hfresh : env.FreshFor db)
    (hscope : ReorganizeInScope c db memoryIds) :
    OthersUnchanged c db
        (executeReorganize db c memoryIds instructions provider env).session ∧
      executeReorganize (ownPart c db) c memoryIds instructions provider env =
        (executeReorganize db c memoryIds instructions provider env).map (ownPart c) := by
  have hcocoon : get (ownPart c db).cocoons c = get db.cocoons c :=
    get_own fun r _ hk => decide_eq_true hk
  unfold executeReorganize
  rw [hcocoon]
  cases hget : get db.cocoons c with
  | none => exact ⟨rfl, rfl⟩
  | some cocoon =>
    have hmine := hscope (Option.isSome_iff_exists.mpr ⟨cocoon, hget⟩)
    have hmemories : reorganizedMemories (ownPart c db) memoryIds =
        reorganizedMemories db memoryIds := by
      refine filter_filter_eq fun m hm hselected => hmine m ?_
      exact List.mem_filter.mpr ⟨hm, hselected⟩
    have hids : ∀ m ∈ others c db.memories,
        m.id ∉ (reorganizedMemories db memoryIds).map MemoryChunk.id := by
      intro m hm hin
      obtain ⟨m', hm', hid⟩ := List.mem_map.mp hin
      obtain ⟨hm, hother⟩ := mem_others.mp hm
      obtain rfl := List.inj_on_of_nodup_map hsound.memoryIds
        (List.mem_filter.mp hm').1 hm hid
      rw [hmine m' hm'] at hother
      cases hother
    dsimp only
    rw [hmemories]
    generalize reorganizedMemories db memoryIds = memories at hids
    by_cases hempty : memories.isEmpty
    · rw [if_pos hempty, if_pos hempty]
      exact ⟨rfl, rfl⟩
    · rw [if_neg hempty, if_neg hempty, startRun_ownPart, serializePromptTagCatalog_ownPart]
      have hstarted : otherPart c (startRun db (some (.cocoon c)) "memory_reorganize" env.runId) =
          otherPart c db := otherPart_startRun ..
      have hapart : CandidatesApart c
          (startRun db (some (.cocoon c)) "memory_reorganize" env.runId) :=
        candidatesApart hsound.candidateIds
      generalize startRun db (some (.cocoon c)) "memory_reorganize" env.runId = started
        at hstarted hapart
      have hshown : otherPart c (serializePromptTagCatalog started (.cocoon c) env.newTagId
          env.now).1 = otherPart c started := otherPart_serializePromptTagCatalog ..
      have hframe := serializePromptTagCatalog_frame started (.cocoon c) env.newTagId env.now
      dsimp only [Prod.map, id_eq]
      generalize serializePromptTagCatalog started (.cocoon c) env.newTagId env.now = shown
        at hshown hframe
      have htags : (ownPart c shown.1).tags = shown.1.tags := rfl
      rw [htags]
      cases provider instructions memories (shown.2.filterMap (get shown.1.tags)) with
      | none => exact ⟨hshown.trans hstarted, rfl⟩
      | some output =>
        have hcandidates : shown.1.memoryCandidates = started.memoryCandidates := by
          rw [hframe.frame]
        have hshownApart : CandidatesApart c shown.1 := by
          unfold CandidatesApart
          rw [hcandidates]
          exact hapart
        have hunchanged : OthersUnchanged c db shown.1 := hshown.trans hstarted
        obtain ⟨hstored, hown⟩ := storeReorganized_confined env
          (key_of_get hget) (fun i => (hfresh.keysFree i).congr hunchanged) hshownApart
          shown.2 memories output
        have hstoredAll : OthersUnchanged c db
            (storeReorganized shown.1 cocoon shown.2 memories output env) :=
          hstored.trans hunchanged
        have hleft : ∀ m ∈ others c
            (storeReorganized shown.1 cocoon shown.2 memories output env).memories,
            m.id ∉ memories.map MemoryChunk.id := by
          rw [hstoredAll.memories]
          exact hids
        have harchived := (otherPart_archiveMemories hleft).trans hstoredAll
        have hruns := OthersUnchanged.auditRuns harchived
        refine ⟨Eq.trans (otherPart_finishRun fun r hr => ?_) harchived, ?_⟩
        · exact hfresh.runId r (mem_others.mp (hruns ▸ hr)).1
        · show JobEnd.returned (finishRun (archiveMemories _ memories) env.runId .completed
            env.now) = _
          rw [hown, archiveMemories_ownPart hleft, finishRun_ownPart]
          rfl

lemma memories_reorganize_empty {cocoon : Cocoon} (hget : get db.cocoons c = some cocoon)
    (hsome : reorganizedMemories db memoryIds ≠ []) :
    (executeReorganize db c memoryIds instructions (fun _ _ _ => some {}) env).session.memories =
      updateIn db.memories ((reorganizedMemories db memoryIds).map MemoryChunk.id) fun m =>
        { m with status := "archived" } := by
  unfold executeReorganize
  rw [hget]
  dsimp only
  rw [if_neg (by simpa using hsome)]
  have hframe := serializePromptTagCatalog_frame
    (startRun db (some (.cocoon c)) "memory_reorganize" env.runId) (.cocoon c) env.newTagId env.now
  generalize serializePromptTagCatalog (startRun db (some (.cocoon c)) "memory_reorganize"
    env.runId) (.cocoon c) env.newTagId env.now = shown at hframe
  have htag := ensureUserSystemTag_frame shown.1 cocoon.ownerUserId env.newTagId
  have hstored : (storeReorganized shown.1 cocoon shown.2 (reorganizedMemories db memoryIds) {}
      env).memories = db.memories := by
    show (ensureUserSystemTag shown.1 cocoon.ownerUserId env.newTagId).1.memories = db.memories
    rw [htag.frame, hframe.frame]
    rfl
  show updateIn (storeReorganized shown.1 cocoon shown.2 (reorganizedMemories db memoryIds) {}
    env).memories _ _ = _
  rw [hstored]

lemma reorganize_inScope (instructions : Option String)
    (h : OthersUnchanged c db
      (executeReorganize db c memoryIds instructions (fun _ _ _ => some {}) env).session) :
    ReorganizeInScope c db memoryIds := by
  intro hcocoon m hm
  obtain ⟨cocoon, hget⟩ := Option.isSome_iff_exists.mp hcocoon
  obtain ⟨hmem, hselected⟩ := List.mem_filter.mp hm
  have hactive : m.status = "active" := of_decide_eq_true (Bool.and_eq_true_iff.mp hselected).2
  by_contra hother
  have hmemories := h.memories
  rw [memories_reorganize_empty hget (List.ne_nil_of_mem hm)] at hmemories
  -- the memory taken would be archived
  have harchived : (others c db.memories).map (fun m => if key m ∈
      (reorganizedMemories db memoryIds).map MemoryChunk.id then
        { m with status := "archived" } else m) = (others c db.memories).map id := by
    rw [List.map_id]
    refine Eq.trans (filter_map_comm (fun m => ?_) db.memories).symm hmemories
    split <;> rfl
  have hsame := List.map_inj_left.mp harchived m
    (mem_others.mpr ⟨hmem, Bool.eq_false_of_not_eq_true hother⟩)
  have hin : key m ∈ (reorganizedMemories db memoryIds).map MemoryChunk.id :=
    List.mem_map_of_mem hm
  rw [if_pos hin] at hsame
  have hstatus : "archived" = m.status := congrArg MemoryChunk.status hsame
  rw [hactive] at hstatus
  exact absurd hstatus (by decide)

end

end Jobs

/-! ## The two jobs -/

/-- What the two routes enqueue for a cocoon. -/
inductive CocoonJob where
  | rollback (checkpointId : RowId)
  | memoryReorganize (memoryIds : List RowId) (instructions : Option String)

/-- `DurableJobExecutor.execute` for the job of a cocoon. -/
def CocoonJob.execute (job : CocoonJob) (cocoonId : RowId) (provider : SummaryProvider)
    (env : JobEnv) (db : Db) : JobEnd :=
  match job with
  | .rollback checkpointId => executeRollbackJob db checkpointId env
  | .memoryReorganize memoryIds instructions =>
    executeReorganize db cocoonId memoryIds instructions provider env

/-- The ids of the request name rows of the cocoon. -/
def CocoonJob.InScope (c : RowId) (db : Db) : CocoonJob → Prop
  | .rollback checkpointId => RollbackInScope c db checkpointId
  | .memoryReorganize memoryIds _ => ReorganizeInScope c db memoryIds

/-- The two ends are alike, and so is what they leave of the cocoon's rows. -/
def JobEnd.SameOn (c : RowId) (e₁ e₂ : JobEnd) : Prop := e₁.map (ownPart c) = e₂.map (ownPart c)

/-- A job changes nothing of other targets, whatever the provider answers, exactly when its ids name
rows of its cocoon; and then the data of other targets make no difference to the cocoon. -/
theorem cocoonJob_confined_iff (c : RowId) (job : CocoonJob) (env : JobEnv)
    (provider : SummaryProvider) (db₁ db₂ : Db) (hsound₁ : RowsSound db₁) (hsound₂ : RowsSound db₂)
    (hfresh₁ : env.FreshFor db₁) (hfresh₂ : env.FreshFor db₂) :
    ((∀ provider, OthersUnchanged c db₁ (job.execute c provider env db₁).session) ↔
        job.InScope c db₁) ∧
      (job.InScope c db₁ → job.InScope c db₂ → SameOn c db₁ db₂ →
        (job.execute c provider env db₁).SameOn c (job.execute c provider env db₂)) := by
  cases job with
  | rollback checkpointId =>
    refine ⟨⟨fun h => rollback_inScope hfresh₁ (h provider),
      fun hscope _ => rollback_othersUnchanged hsound₁ hfresh₁ hscope⟩,
      fun hscope₁ hscope₂ hsame => ?_⟩
    have hown₁ := rollback_ownPart env hsound₁ hscope₁
    have hown₂ := rollback_ownPart env hsound₂ hscope₂
    have hsame : ownPart c db₁ = ownPart c db₂ := hsame
    exact hown₁.symm.trans (hsame ▸ hown₂)
  | memoryReorganize memoryIds instructions =>
    refine ⟨⟨fun h => reorganize_inScope instructions (h fun _ _ _ => some {}),
      fun hscope provider =>
        (reorganize_confined instructions provider hsound₁ hfresh₁ hscope).1⟩,
      fun hscope₁ hscope₂ hsame => ?_⟩
    have hown₁ := (reorganize_confined instructions provider hsound₁ hfresh₁ hscope₁).2
    have hown₂ := (reorganize_confined instructions provider hsound₂ hfresh₂ hscope₂).2
    have hsame : ownPart c db₁ = ownPart c db₂ := hsame
    exact hown₁.symm.trans (hsame ▸ hown₂)

/-! Two cocoons, each with a conversation, a checkpoint and a memory. -/

def twoCocoons (memories : List MemoryChunk) : Db :=
  { cocoons := [{ id := "c", ownerUserId := "ada", characterId := "bo" },
      { id := "d", ownerUserId := "eve", characterId := "bo" }]
    messages := [
      { id := "m₁", target := .cocoon "c", role := .user, content := "hi", createdAt := 1 },
      { id := "m₂", target := .cocoon "c", role := .assistant, content := "hello", createdAt := 2 },
      { id := "n₁", target := .cocoon "d", role := .user, content := "tea?", createdAt := 1 },
      { id := "n₂", target := .cocoon "d", role := .assistant, content := "yes", createdAt := 2 }]
    checkpoints := [{ id := "k", cocoonId := "c", anchorMessageId := "m₁" },
      { id := "l", cocoonId := "d", anchorMessageId := "n₁" }]
    memories := { id := "p", cocoonId := some "c", sourceMessageId := some "m₂", scope := "memory"
                  content := "Ada says hello" } :: memories }

def teaMemory : MemoryChunk :=
  { id := "q", cocoonId := some "d", scope := "memory", content := "Eve drinks tea" }

def jobDraws : JobEnv :=
  { runId := "r", newTagId := "t", memoryKeys := fun _ => ⟨"x", "y"⟩, now := 3 }

lemma rowsSound_twoCocoons : RowsSound (twoCocoons []) ∧ RowsSound (twoCocoons [teaMemory]) :=
  ⟨⟨by decide +kernel, by decide +kernel, by decide +kernel, by decide +kernel⟩,
    ⟨by decide +kernel, by decide +kernel, by decide +kernel, by decide +kernel⟩⟩

lemma freshFor_twoCocoons :
    jobDraws.FreshFor (twoCocoons []) ∧ jobDraws.FreshFor (twoCocoons [teaMemory]) :=
  ⟨⟨by decide +kernel, fun _ => by simp [twoCocoons, jobDraws], fun _ => by simp [twoCocoons]⟩,
    ⟨by decide +kernel, fun _ => by simp [twoCocoons, jobDraws, teaMemory],
      fun _ => by simp [twoCocoons]⟩⟩

lemma rollbackInScope_twoCocoons :
    RollbackInScope "c" (twoCocoons []) "k" ∧ RollbackInScope "c" (twoCocoons [teaMemory]) "k" := by
  constructor
  all_goals
    intro checkpoint hget
    obtain rfl := Option.some.inj hget
    refine ⟨rfl, fun request hresolve => ?_⟩
    obtain rfl := Option.some.inj hresolve
    exact ⟨by decide +kernel, by decide +kernel, by decide +kernel⟩

/-- Going back to its own checkpoint the cocoon is confined, whatever the other remembers. -/
theorem ownCheckpoint_confined :
    OthersUnchanged "c" (twoCocoons [teaMemory])
        (executeRollbackJob (twoCocoons [teaMemory]) "k" jobDraws).session ∧
      (executeRollbackJob (twoCocoons [teaMemory]) "k" jobDraws).SameOn "c"
        (executeRollbackJob (twoCocoons []) "k" jobDraws) := by
  have h := cocoonJob_confined_iff "c" (.rollback "k") jobDraws (fun _ _ _ => none)
    (twoCocoons [teaMemory]) (twoCocoons []) rowsSound_twoCocoons.2 rowsSound_twoCocoons.1
    freshFor_twoCocoons.2 freshFor_twoCocoons.1
  have hscope := rollbackInScope_twoCocoons
  exact ⟨h.1.mpr hscope.2 fun _ _ _ => none, h.2 hscope.2 hscope.1 rfl⟩

/-- A job of the one cocoon with an id of the other deletes the other's messages, or archives the
other's memory. -/
theorem foreignIds_not_confined :
    ¬ (∀ (c : RowId) (job : CocoonJob) (env : JobEnv) (provider : SummaryProvider) (db : Db),
        RowsSound db → env.FreshFor db →
          OthersUnchanged c db (job.execute c provider env db).session) ∧
      (executeRollbackJob (twoCocoons []) "l" jobDraws).session.messages.map Message.id =
        ["m₁", "m₂", "n₁"] ∧
      (executeReorganize (twoCocoons [teaMemory]) "c" ["q"] none (fun _ _ _ => some {})
        jobDraws).session.memories.map MemoryChunk.status = ["active", "archived"] := by
  refine ⟨fun h => ?_, by decide +kernel, by decide +kernel⟩
  have hothers := h "c" (.rollback "l") jobDraws (fun _ _ _ => none) (twoCocoons [])
    rowsSound_twoCocoons.1 freshFor_twoCocoons.1
  have hmessages := congrArg (fun db : Db => db.messages.length) hothers
  revert hmessages
  decide +kernel

end CocoonSit
