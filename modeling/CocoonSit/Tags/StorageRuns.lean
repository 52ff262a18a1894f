import CocoonSit.Tags.ActiveTagsRuns
import CocoonSit.Tags.Reconcile
import CocoonSit.Tags.StorageRequests

/-!
# The two copies of tags over whole runs

Messages, memory operations, jobs, requests and reconciliations in any order.  Tags in arrays and
rows agree throughout exactly when every reconciliation finds references that resolve for their
owner, and no two of one item to the same tag.
-/

namespace CocoonSit

open Table TransitionSystem

namespace TagStorage

inductive Event where
  /-- A lookup of a session state, a tag request or a state patch. -/
  | tags (event : ActiveTags.Event)
  | userMessage (target : Target) (sub : ChatSubmission) (keys : NewKeys) (now : Timestamp)
  /-- A round persists a message. -/
  | roundMessage (event : RuntimeEvent) (role : MessageRole) (content : String) (isThought : Bool)
      (retractionNote : Option String) (messageId : RowId) (now : Timestamp)
  /-- A round carries memory operations out; the active tags are those of its session state. -/
  | memoryOps (ctx : MemoryContext) (ops : List MemoryOperation) (keys : ℕ → MemoryKeys)
      (now : Timestamp)
  | touch (memoryIds : List String) (boost : Option (ℤ → ℤ)) (now : Timestamp)
  | compaction (cocoonId : RowId) (beforeMessageId : Option RowId) (output : CompactionOutput)
      (env : JobEnv)
  /-- The provider's answer is `none` where the job raises. -/
  | reorganize (cocoonId : RowId) (memoryIds : List RowId) (answer : Option CompactionOutput)
      (env : JobEnv)
  | rollback (checkpointId : RowId) (env : JobEnv)
  | editCleanup (target : Target) (editedMessageId : RowId)
  | retryCleanup (target : Target) (messageId : Option RowId)
  | updateMemory (accounts : Accounts) (user : User) (cocoonId memoryId : RowId)
      (payload : MemoryUpdateRequest) (draws : MemoryUpdateDraws)
  | deleteMemory (accounts : Accounts) (user : User) (cocoonId memoryId : RowId)
  /-- The backend starts. -/
  | reconcile (draws : ReconcileDraws) (now : Timestamp)

/-- What the services are configured with. -/
structure Services where
  chat : MessageDispatchService
  text : TextFunctions
  settings : Settings

/-- The tables after a memory route; the index has no part in them. -/
def routed (db : Db) (route : IndexedDb → Except HttpError IndexedDb) : Db :=
  (route { toDb := db }).toOption.elim db IndexedDb.toDb

/-- A step, for keys that have not been drawn before. -/
def step (svc : Services) (db : Db) : Event → Option Db
  | .tags event => ActiveTags.step db event
  | .userMessage target sub keys now =>
    if keys.messageId ∉ db.messages.map key then
      some (ActiveTags.answered db (svc.chat.enqueueChat db target sub keys now))
    else none
  | .roundMessage event role content isThought retractionNote messageId now =>
    if messageId ∉ db.messages.map key then
      some (persistMessage db event role content isThought retractionNote messageId now)
    else none
  | .memoryOps ctx ops keys now =>
    if FreshKeys (opMemoryIds keys ops) (db.memories.map key) then
      some (persistMemoryOps svc.text { ctx with activeTags := activeTags db ctx.event.target }
        now keys ops db)
    else none
  | .touch memoryIds boost now => some (touchMemories db memoryIds boost now)
  | .compaction cocoonId before output env =>
    if FreshKeys (opMemoryIds env.memoryKeys output.longTermMemories) (db.memories.map key) then
      executeCompaction db cocoonId before output env
    else none
  | .reorganize cocoonId memoryIds answer env =>
    if FreshKeys (opMemoryIds env.memoryKeys (answer.elim [] CompactionOutput.longTermMemories))
        (db.memories.map key) then
      some (executeReorganize db cocoonId memoryIds none (fun _ _ _ => answer) env).session
    else none
  | .rollback checkpointId env => some (executeRollbackJob db checkpointId env).session
  | .editCleanup target id => some (RoundCleanup.cleanupForEdit db target id)
  | .retryCleanup target id => some (RoundCleanup.cleanupForRetry db target id)
  | .updateMemory accounts user cocoonId memoryId payload draws =>
    if FreshKeys (MemoryUpdateRequest.drawn payload draws) (db.tags.map key) then
      some (routed db fun s =>
        updateMemory svc.settings accounts s user cocoonId memoryId payload draws)
    else none
  | .deleteMemory accounts user cocoonId memoryId =>
    some (routed db fun s => deleteMemory svc.settings accounts s user cocoonId memoryId)
  | .reconcile draws now => some (reconcileTagStorage db draws now)

/-- Every reconciliation finds references that fit; nothing is asked of the other steps. -/
def EventFits (db : Db) : Event → Prop
  | .reconcile _ _ => ReconcileFits db
  | _ => True

instance (db : Db) : ∀ e, Decidable (EventFits db e)
  | .reconcile _ _ => inferInstanceAs (Decidable (ReconcileFits db))
  | .tags _ | .userMessage .. | .roundMessage .. | .memoryOps .. | .touch .. | .compaction ..
  | .reorganize .. | .rollback .. | .editCleanup .. | .retryCleanup .. | .updateMemory ..
  | .deleteMemory .. => inferInstanceAs (Decidable True)

variable {svc : Services} {db db' : Db}

/-! ## One step -/

lemma kept_answered {ε α : Type} (ho : InOrder db) {answer : Except ε (Db × α)}
    (h : ∀ r, answer = .ok r → Kept db r.1) : Kept db (ActiveTags.answered db answer) := by
  cases answer with
  | error e => exact .refl ho
  | ok r => exact h r rfl

lemma kept_routed (ho : InOrder db) {route : IndexedDb → Except HttpError IndexedDb}
    (h : ∀ s', route { toDb := db } = .ok s' → Kept db s'.toDb) : Kept db (routed db route) := by
  unfold routed
  cases hroute : route { toDb := db } with
  | error e => exact .refl ho
  | ok s' => exact h s' hroute

lemma kept_tags (ho : InOrder db) {event : ActiveTags.Event}
    (h : ActiveTags.step db event = some db') : Kept db db' := by
  have hreg := ho.registry
  cases event with
  | lookup target newTagId now =>
    obtain ⟨-, heq⟩ := Option.ite_none_right_eq_some.mp h
    cases heq
    exact (settled_ensureSessionState hreg target newTagId now).kept ho
  | createTag userId payload newTagId =>
    obtain ⟨hfresh, heq⟩ := Option.ite_none_right_eq_some.mp h
    cases heq
    exact kept_answered ho fun _ hr => kept_createTag ho hfresh hr
  | deleteTag userId tagRef newTagId =>
    cases h
    exact kept_answered ho fun _ hr => kept_deleteTag ho hr
  | bindTag target tagId newTagId now =>
    obtain ⟨-, heq⟩ := Option.ite_none_right_eq_some.mp h
    cases heq
    exact kept_answered ho fun _ hr => (settled_bindTargetTag hreg hr).kept ho
  | unbindTag target tagId newTagId now =>
    obtain ⟨-, heq⟩ := Option.ite_none_right_eq_some.mp h
    cases heq
    exact kept_answered ho fun _ hr => (settled_unbindTargetTag hreg hr).kept ho
  | patch event decision keys now =>
    obtain ⟨-, hpatch⟩ := Option.ite_none_right_eq_some.mp h
    exact (settled_statePatch hreg hpatch).kept ho

lemma step_kept (ho : InOrder db) {e : Event} (hstep : step svc db e = some db') :
    InOrder db' ∧ (TagsAgree db → (TagsAgree db' ↔ EventFits db e)) := by
  have hplain : Kept db db' → InOrder db' ∧ (TagsAgree db → (TagsAgree db' ↔ True)) :=
    fun hk => ⟨hk.inOrder, fun hagree => iff_of_true (hk.agree hagree) trivial⟩
  cases e with
  | tags event => exact hplain (kept_tags ho hstep)
  | userMessage target sub keys now =>
    obtain ⟨hnew, heq⟩ := Option.ite_none_right_eq_some.mp hstep
    cases heq
    exact hplain (kept_answered ho fun _ hr => kept_enqueueChat ho hnew hr)
  | roundMessage event role content isThought retractionNote messageId now =>
    obtain ⟨hnew, heq⟩ := Option.ite_none_right_eq_some.mp hstep
    cases heq
    exact hplain (kept_persistMessage ho hnew)
  | memoryOps ctx ops keys now =>
    obtain ⟨hfresh, heq⟩ := Option.ite_none_right_eq_some.mp hstep
    cases heq
    exact hplain (kept_persistMemoryOps ho svc.text (ho.nodup_activeTags _) hfresh)
  | touch memoryIds boost now =>
    cases hstep
    refine hplain (memoryKept_map ho (fun m => ?_) (fun m => ?_) "").toKept
    · split <;> rfl
    · split <;> rfl
  | compaction cocoonId before output env =>
    obtain ⟨hfresh, hexec⟩ := Option.ite_none_right_eq_some.mp hstep
    exact hplain (kept_executeCompaction ho hfresh hexec)
  | reorganize cocoonId memoryIds answer env =>
    obtain ⟨hfresh, heq⟩ := Option.ite_none_right_eq_some.mp hstep
    cases heq
    refine hplain (kept_executeReorganize ho fun _ _ _ output hanswer => ?_)
    rwa [hanswer] at hfresh
  | rollback checkpointId env =>
    cases hstep
    exact hplain (kept_executeRollbackJob ho checkpointId env)
  | editCleanup target id =>
    cases hstep
    exact hplain (kept_deleteMessageRelatedRows ho _)
  | retryCleanup target id =>
    cases hstep
    exact hplain (kept_deleteMessageRelatedRows ho _)
  | updateMemory accounts user cocoonId memoryId payload draws =>
    obtain ⟨hfresh, heq⟩ := Option.ite_none_right_eq_some.mp hstep
    cases heq
    exact hplain (kept_routed ho fun _ hr => kept_updateMemory ho hfresh hr)
  | deleteMemory accounts user cocoonId memoryId =>
    cases hstep
    exact hplain (kept_routed ho fun _ hr => kept_deleteMemory ho hr)
  | reconcile draws now =>
    cases hstep
    exact ⟨inOrder_reconcile ho draws now,
      fun hagree => tagsAgree_reconcile_iff ho hagree draws now⟩

/-! ## Runs -/

/-- From tables in order whose copies agree: they agree throughout a run if and only if all its
reconciliations fit, and then either copy selects the same items throughout. -/
theorem tagsAgree_iff_reconciliationsFit {db₀ db : Db} (ho : InOrder db₀) (hagree : TagsAgree db₀)
    {es : List Event} (hrun : run (step svc) db₀ es = some db) :
    (AllStates (step svc) TagsAgree db₀ es ↔ StepsMeet (step svc) EventFits db₀ es) ∧
      (StepsMeet (step svc) EventFits db₀ es → AllStates (step svc) SelectsSame db₀ es) := by
  have hkeep : ∀ s e s', InOrder s ∧ TagsAgree s → EventFits s e → step svc s e = some s' →
      InOrder s' ∧ TagsAgree s' := fun s e s' h hfits hs =>
    ⟨(step_kept h.1 hs).1, ((step_kept h.1 hs).2 h.2).mpr hfits⟩
  refine ⟨⟨?_, ?_⟩, ?_⟩
  · exact stepsMeet_of_allStates InOrder (fun _ _ _ h hs => (step_kept h hs).1)
      (fun _ _ _ h hagree hs hagree' => ((step_kept h hs).2 hagree).mp hagree') ho hrun
  · exact allStates_of_stepsMeet (fun db => InOrder db ∧ TagsAgree db) hkeep (fun _ h => h.2)
      ⟨ho, hagree⟩
  · exact allStates_of_stepsMeet (fun db => InOrder db ∧ TagsAgree db) hkeep
      (fun _ h => h.2.selectsSame) ⟨ho, hagree⟩

/-- Two users with their default tags, and a room of the first. -/
def roomOfTwo : Db where
  users := ["u1", "u2"]
  rooms := [{ id := "r1", ownerUserId := "u1", characterId := "ch1" }]
  tags :=
    [{ id := "d1", ownerUserId := "u1", tagId := "default", brief := "", isSystem := true },
      { id := "d2", ownerUserId := "u2", tagId := "default", brief := "", isSystem := true }]

lemma inOrder_roomOfTwo : InOrder roomOfTwo := by
  refine ⟨List.nodup_nil, List.nodup_nil, ?_, ?_, ?_, ?_, ?_, ?_, ⟨?_, ?_, ?_⟩⟩
  · exact fun _ hr => absurd hr List.not_mem_nil
  · exact fun _ hr => absurd hr List.not_mem_nil
  · exact fun _ hm => absurd hm List.not_mem_nil
  · exact fun _ hm => absurd hm List.not_mem_nil
  · exact fun _ hc => absurd hc List.not_mem_nil
  · exact fun _ hs => absurd hs List.not_mem_nil
  · decide
  · simp [tagLabels, tagLabel, roomOfTwo, SYSTEM_TAG_SLUG]
  · simp [tagLabels, tagLabel, tagOwners, roomOfTwo]

lemma tagsAgree_roomOfTwo : TagsAgree roomOfTwo :=
  ⟨fun _ hm => absurd hm List.not_mem_nil, fun _ hm => absurd hm List.not_mem_nil,
    fun _ hm => absurd hm List.not_mem_nil, fun _ hm => absurd hm List.not_mem_nil⟩

def plainServices : Services where
  chat := { sha256Hex := id }
  text := ⟨id, fun _ => none⟩
  settings := {}

/-- The first memory of a conversation in the room, of something this user has said; then the
backend is started again. -/
def rememberAndRestart (sender : RowId) : List Event :=
  [.tags (.lookup (.chatGroup "r1") "d3" 0),
    .memoryOps
      { event := { eventType := .chat, target := .chatGroup "r1", actionId := "a1" }
        characterId := "ch1", memoryOwnerUserId := some sender, activeTags := [], tagCatalog := [] }
      [{ op := .upsert, content := "likes tea" }] (fun _ => ⟨"m1", "k1"⟩) 1,
    .reconcile ⟨fun _ => "d4", fun _ => "d5"⟩ 2]

theorem rememberAndRestart_owner_agrees :
    AllStates (step plainServices) TagsAgree roomOfTwo (rememberAndRestart "u1") :=
  (tagsAgree_iff_reconciliationsFit inOrder_roomOfTwo tagsAgree_roomOfTwo rfl).1.mpr (by decide)

/-- The memory is the sender's, its tag the owner's: the restart takes the tag out of the array and
leaves the row. -/
theorem rememberAndRestart_member_drifts : InOrder roomOfTwo ∧ TagsAgree roomOfTwo ∧
    ¬ AllStates (step plainServices) TagsAgree roomOfTwo (rememberAndRestart "u2") := by
  refine ⟨inOrder_roomOfTwo, tagsAgree_roomOfTwo, fun h => ?_⟩
  have hlast := h.last rfl
  have hrow := (hlast.memories _ List.mem_cons_self).2 "d1"
  exact absurd (hrow.mp (by decide)) (by decide)

end TagStorage

end CocoonSit
