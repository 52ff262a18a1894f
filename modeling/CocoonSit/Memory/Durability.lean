import CocoonSit.Memory.Ops

/-!
# What makes a memory

The analysis of a round asks for memories with an importance, and is told that below three nothing
becomes more than a candidate.  The normalisation reads an importance of zero as three, so the
answer to which texts are kept for good is the model's own for every importance but zero.
-/

namespace CocoonSit

open Table

namespace Durability

/-- The operation asks for a memory, and calls it important. -/
def Durable (item : MemoryOperationModel) : Prop :=
  (item.op = some .upsert ∨ item.op = some .update) ∧ 3 ≤ item.importance

/-- The operation has a text, and is not about the end of a memory. -/
def HasContent (item : MemoryOperationModel) : Prop :=
  (∃ kind, item.op = some kind ∧ kind ≠ .archive) ∧ strip item.content ≠ ""

/-- A memory is asked for with an importance of zero. -/
def AsksForZero (item : MemoryOperationModel) : Prop :=
  (item.op = some .upsert ∨ item.op = some .update) ∧ item.importance = 0 ∧
    strip item.content ≠ ""

instance (item : MemoryOperationModel) : Decidable (AsksForZero item) :=
  inferInstanceAs (Decidable (_ ∧ _ ∧ _))

/-- The pool of the item's candidate. -/
def candidatePool (ctx : MemoryContext) (item : MemoryOperationModel) : String :=
  normalizeMemoryPool ctx.event.target ((item.memoryPool.filter (· ≠ "")).map strip)

/-- The candidate there is of the item's text. -/
def candidateOf (ctx : MemoryContext) (item : MemoryOperationModel) (db : Db) :
    Option MemoryCandidate :=
  findCandidate db ctx.event.target (strip item.content) (candidatePool ctx item)

/-- How often the item's text has been sighted, this time included. -/
def sightings (ctx : MemoryContext) (item : MemoryOperationModel) (db : Db) : ℤ :=
  (candidateOf ctx item db).elim 0 MemoryCandidate.hitCount + 1

/-- The candidate of the item's text has been sighted often enough. -/
def Earned (ctx : MemoryContext) (item : MemoryOperationModel) (db : Db) : Prop :=
  HasContent item ∧ ctx.candidatePromoteHits ≤ sightings ctx item db

/-- What a candidate leaves of a turn: it has been sighted once more, and nothing else has
changed. -/
def LeavesCandidate (ctx : MemoryContext) (item : MemoryOperationModel) (db db' : Db) : Prop :=
  db'.memories = db.memories ∧ db'.memoryTags = db.memoryTags ∧
    (candidateOf ctx item db').map MemoryCandidate.hitCount = some (sightings ctx item db)

/-- What is asked of one turn of the loop. -/
structure TurnSound (ctx : MemoryContext) (item : MemoryOperationModel) (db db' : Db) : Prop where
  /-- A memory that is new has been asked for, or is a candidate's that has earned it. -/
  created : ∀ m ∈ db'.memories.drop db.memories.length,
    Durable item ∨ Earned ctx item db ∧ m.sourceKind = "candidate_promotion"
  /-- What is not important enough leaves a candidate and nothing else, or its promotion. -/
  candidateOnly : HasContent item → ¬ Durable item → LeavesCandidate ctx item db db' ∨
    Earned ctx item db ∧ ∃ m, db'.memories = db.memories ++ [m] ∧
      m.sourceKind = "candidate_promotion"

section Turns

variable (text : TextFunctions) (ctx : MemoryContext) (now : Timestamp) (keys : ℕ → MemoryKeys)

/-- The answer's operations, normalised and carried out. -/
def runItems (items : List MemoryOperationModel) (db : Db) : Db :=
  persistMemoryOps text ctx now keys (normalizeMemoryOps items) db

/-- Every turn of the loop is sound. -/
def Sound (items : List MemoryOperationModel) (db : Db) : Prop :=
  ∀ before item after, items = before ++ item :: after →
    TurnSound ctx item (runItems text ctx now keys before db)
      (runItems text ctx now keys (before ++ [item]) db)

variable {text ctx now keys} {item : MemoryOperationModel} {op : MemoryOperation} {db : Db}

lemma runItems_concat (before : List MemoryOperationModel) (item : MemoryOperationModel) :
    runItems text ctx now keys (before ++ [item]) db =
      (normalizeMemoryOp item).elim (runItems text ctx now keys before db) fun op =>
        persistMemoryOp text ctx now (runItems text ctx now keys before db) op
          (keys (normalizeMemoryOps before).length) := by
  unfold runItems persistMemoryOps normalizeMemoryOps
  rw [List.filterMap_append, List.zipIdx_append, List.foldl_append]
  cases hop : normalizeMemoryOp item with
  | none => simp [hop]
  | some op => simp [hop]

/-! ## One turn -/

lemma normalizeMemoryOp_eq (ctx : MemoryContext) {kind : MemoryOpKind}
    (hkind : item.op = some kind) :
    ∃ op, normalizeMemoryOp item = some op ∧ op.op = kind ∧ op.content = strip item.content ∧
      op.importance = intOr item.importance 3 ∧
      normalizeMemoryPool ctx.event.target op.memoryPool = candidatePool ctx item := by
  rw [normalizeMemoryOp, hkind]
  exact ⟨_, rfl, rfl, rfl, rfl, rfl⟩

lemma candidateOf_upsertCandidate (db : Db) {new : MemoryCandidate}
    (hcontent : new.content = strip item.content) (hpool : new.memoryPool = candidatePool ctx item)
    (hcocoon : new.cocoonId = ctx.event.target.cocoonId?)
    (hroom : new.chatGroupId = ctx.event.target.chatGroupId?) (hhits : new.hitCount = 1) :
    candidateOf ctx item (upsertCandidate db ctx.event.target new).1 =
        some (upsertCandidate db ctx.event.target new).2 ∧
      (upsertCandidate db ctx.event.target new).2.hitCount = sightings ctx item db := by
  unfold upsertCandidate sightings candidateOf
  rw [hcontent, hpool]
  cases hfound :
      findCandidate db ctx.event.target (strip item.content) (candidatePool ctx item) with
  | none =>
    refine ⟨?_, hhits⟩
    unfold findCandidate at hfound ⊢
    dsimp only
    rw [List.find?_append, hfound, Option.none_or]
    refine List.find?_cons_of_pos ?_
    rw [hcocoon, hroom]
    cases ctx.event.target <;> simp [hcontent, hpool, Target.cocoonId?, Target.chatGroupId?]
  | some found =>
    refine ⟨?_, rfl⟩
    unfold findCandidate at hfound ⊢
    dsimp only
    refine (find?_update (t := db.memoryCandidates) (k := found.id) (f := fun c => c.hitBy new)
      fun _ => rfl).trans ?_
    rw [hfound]
    exact congrArg some (if_pos rfl)

lemma turnSound_persistCandidate (keys : MemoryKeys) (hcontent : HasContent item)
    (hop : op.content = strip item.content)
    (hpool : normalizeMemoryPool ctx.event.target op.memoryPool = candidatePool ctx item) :
    TurnSound ctx item db (persistCandidate text ctx db op keys now) := by
  set new :=
    op.toCandidate text ctx (resolveMemoryOwnerUserId db ctx) keys.candidateId now with hnew
  have hnewContent : new.content = strip item.content := by
    rw [hnew, MemoryOperation.toCandidate, hop, strip_strip]
  have hnewPool : new.memoryPool = candidatePool ctx item := by
    rw [hnew, MemoryOperation.toCandidate_memoryPool, hpool]
  obtain ⟨hfound, hcount⟩ := candidateOf_upsertCandidate db hnewContent hnewPool rfl rfl rfl
  obtain ⟨hmemories, htags⟩ : (upsertCandidate db ctx.event.target new).1.memories = db.memories ∧
      (upsertCandidate db ctx.event.target new).1.memoryTags = db.memoryTags := by
    unfold upsertCandidate
    split <;> exact ⟨rfl, rfl⟩
  have hcases : persistCandidate text ctx db op keys now =
      if ctx.candidatePromoteHits ≤ (upsertCandidate db ctx.event.target new).2.hitCount then
        promoteCandidateToMemory (upsertCandidate db ctx.event.target new).1
          (upsertCandidate db ctx.event.target new).2 "candidate_promotion" keys.memoryId
      else (upsertCandidate db ctx.event.target new).1 := rfl
  rw [hcases, hcount]
  by_cases hearned : ctx.candidatePromoteHits ≤ sightings ctx item db
  · have hpromoted : (promoteCandidateToMemory (upsertCandidate db ctx.event.target new).1
        (upsertCandidate db ctx.event.target new).2 "candidate_promotion" keys.memoryId).memories =
        db.memories ++ [(upsertCandidate db ctx.event.target new).2.toMemory "candidate_promotion"
          keys.memoryId] :=
      congrArg (· ++ _) hmemories
    rw [if_pos hearned]
    refine ⟨fun m hm => .inr ⟨⟨hcontent, hearned⟩, ?_⟩,
      fun _ _ => .inr ⟨⟨hcontent, hearned⟩, _, hpromoted, rfl⟩⟩
    rw [hpromoted, List.drop_left, List.mem_singleton] at hm
    rw [hm]
    rfl
  · rw [if_neg hearned]
    refine ⟨fun m hm => ?_, fun _ _ => .inl ⟨hmemories, htags, ?_⟩⟩
    · rw [hmemories, List.drop_length] at hm
      exact absurd hm List.not_mem_nil
    · rw [hfound, Option.map_some, hcount]

lemma setMemoryStatus_frame (status : String) (db : Db) (memoryIds : List String) :
    (memoryIds.foldl (setMemoryStatus status) db).memories.map MemoryChunk.sourceKind =
        db.memories.map MemoryChunk.sourceKind ∧
      (memoryIds.foldl (setMemoryStatus status) db).memoryCandidates = db.memoryCandidates := by
  induction memoryIds generalizing db with
  | nil => exact ⟨rfl, rfl⟩
  | cons memoryId memoryIds ih =>
    obtain ⟨hkinds, hcandidates⟩ := ih (setMemoryStatus status db memoryId)
    refine ⟨hkinds.trans ?_, hcandidates⟩
    unfold setMemoryStatus update
    rw [List.map_map]
    refine List.map_congr_left fun m _ => ?_
    dsimp only [Function.comp]
    split <;> rfl

lemma persistMemory_frame (keys : MemoryKeys) :
    ((persistMemory text ctx db op keys).memories.map MemoryChunk.sourceKind =
        db.memories.map MemoryChunk.sourceKind ∨
      (persistMemory text ctx db op keys).memories.map MemoryChunk.sourceKind =
        db.memories.map MemoryChunk.sourceKind ++ ["runtime_analysis"]) ∧
      (persistMemory text ctx db op keys).memoryCandidates = db.memoryCandidates := by
  unfold persistMemory
  cases updatedMemory db op with
  | none => exact ⟨.inr (List.map_append ..), rfl⟩
  | some memory =>
    refine ⟨.inl ?_, rfl⟩
    change ((update db.memories memory.id _).map MemoryChunk.sourceKind) = _
    unfold update
    rw [List.map_map]
    refine List.map_congr_left fun m _ => ?_
    dsimp only [Function.comp]
    split
    · simp only [MemoryOperation.sign, MemoryOperation.update]
    · rfl

lemma turnSound_of_kinds {db' : Db} (hcontent : ¬ HasContent item)
    (hkinds : db'.memories.map MemoryChunk.sourceKind = db.memories.map MemoryChunk.sourceKind) :
    TurnSound ctx item db db' := by
  refine ⟨fun m hm => ?_, fun h => absurd h hcontent⟩
  have hlength : db'.memories.length = db.memories.length := by
    simpa only [List.length_map] using congrArg List.length hkinds
  rw [← hlength, List.drop_length] at hm
  exact absurd hm List.not_mem_nil

lemma not_turnSound_of_kinds {db' : Db} (hcontent : HasContent item) (hdurable : ¬ Durable item)
    (hkinds : db'.memories.map MemoryChunk.sourceKind = db.memories.map MemoryChunk.sourceKind ∨
      db'.memories.map MemoryChunk.sourceKind =
        db.memories.map MemoryChunk.sourceKind ++ ["runtime_analysis"])
    (hcandidates : db'.memoryCandidates = db.memoryCandidates) :
    ¬ TurnSound ctx item db db' := by
  intro hsound
  rcases hsound.candidateOnly hcontent hdurable with ⟨-, -, hcount⟩ | ⟨-, m, hm, hkind⟩
  · -- the text has not been counted
    have hsame : candidateOf ctx item db' = candidateOf ctx item db := by
      unfold candidateOf findCandidate
      rw [hcandidates]
    rw [hsame] at hcount
    unfold sightings at hcount
    cases hfound : candidateOf ctx item db with
    | none => rw [hfound] at hcount; cases hcount
    | some found =>
      rw [hfound] at hcount
      have hnext : found.hitCount = found.hitCount + 1 := Option.some.inj hcount
      omega
  · -- the new memory is not of a candidate
    rw [hm, List.map_append, List.map_singleton, hkind] at hkinds
    rcases hkinds with hkinds | hkinds
    · simpa using congrArg List.length hkinds
    · simpa using List.append_cancel_left hkinds

lemma turnSound_iff (keys : MemoryKeys) : TurnSound ctx item db ((normalizeMemoryOp item).elim db
      fun op => persistMemoryOp text ctx now db op keys) ↔ ¬ AsksForZero item := by
  cases hkind : item.op with
  | none =>
    have hnone : normalizeMemoryOp item = none := by rw [normalizeMemoryOp, hkind]; rfl
    rw [hnone]
    refine iff_of_true (turnSound_of_kinds (fun h => ?_) rfl) fun h => ?_
    · obtain ⟨kind, hsome, -⟩ := h.1
      rw [hkind] at hsome
      cases hsome
    · rcases h.1 with hsome | hsome <;> rw [hkind] at hsome <;> cases hsome
  | some kind =>
    obtain ⟨op, hop, hopKind, hopContent, himportance, hpool⟩ :=
      normalizeMemoryOp_eq ctx hkind
    rw [hop, Option.elim_some]
    unfold persistMemoryOp
    rw [hopKind, hopContent, strip_strip]
    by_cases harchive : kind = .archive
    · -- an archive changes no more than the memories' status
      rw [if_pos harchive]
      refine iff_of_true (turnSound_of_kinds (fun h => ?_) ?_) fun h => ?_
      · obtain ⟨kind', hsome, hne⟩ := h.1
        exact hne (Option.some.inj (hsome.symm.trans (hkind.trans (congrArg some harchive))))
      · rw [(setMemoryStatus_frame ..).1]
        cases op.target? with
        | none => rfl
        | some memoryId => exact (setMemoryStatus_frame "archived" db [memoryId]).1
      · rcases h.1 with hsome | hsome <;> rw [hkind, harchive] at hsome <;> cases hsome
    rw [if_neg harchive]
    by_cases hblank : strip item.content = ""
    · rw [if_pos hblank]
      exact iff_of_true (turnSound_of_kinds (fun h => h.2 hblank) rfl) fun h => h.2.2 hblank
    rw [if_neg hblank]
    have hcontent : HasContent item := ⟨⟨kind, hkind, harchive⟩, hblank⟩
    by_cases hlow : kind = .candidate ∨ op.importance < 3
    · rw [if_pos hlow]
      refine iff_of_true (turnSound_persistCandidate keys hcontent hopContent hpool) fun h => ?_
      rcases hlow with rfl | hlow
      · rcases h.1 with hsome | hsome <;> rw [hkind] at hsome <;> cases hsome
      · rw [himportance, intOr, if_pos h.2.1] at hlow
        omega
    · rw [if_neg hlow]
      push Not at hlow
      have hasked : item.op = some .upsert ∨ item.op = some .update := by
        rw [hkind]
        cases kind with
        | upsert => exact .inl rfl
        | update => exact .inr rfl
        | candidate => exact absurd rfl hlow.1
        | archive => exact absurd rfl harchive
      by_cases hzero : item.importance = 0
      · refine iff_of_false (not_turnSound_of_kinds hcontent (fun h => ?_) ?_ ?_)
          fun h => h ⟨hasked, hzero, hblank⟩
        · rw [Durable, hzero] at h
          omega
        · rw [(setMemoryStatus_frame ..).1]
          exact (persistMemory_frame keys).1
        · rw [(setMemoryStatus_frame ..).2]
          exact (persistMemory_frame keys).2
      · have hdurable : Durable item := by
          have himportance' := hlow.2
          rw [himportance, intOr, if_neg hzero] at himportance'
          exact ⟨hasked, himportance'⟩
        exact iff_of_true ⟨fun _ _ => .inl hdurable, fun _ h => absurd hdurable h⟩
          fun h => hzero h.2.1

/-! ## The whole answer -/

/-- Memories come about as they are asked for exactly if none is asked for with an importance of
zero. -/
theorem durability_sound_iff (items : List MemoryOperationModel) (db : Db) :
    Sound text ctx now keys items db ↔ ∀ item ∈ items, ¬ AsksForZero item := by
  constructor
  · intro hsound item hitem
    obtain ⟨before, after, hsplit⟩ := List.append_of_mem hitem
    have hturn := hsound before item after hsplit
    rw [runItems_concat] at hturn
    exact (turnSound_iff _).mp hturn
  · rintro hnone before item after rfl
    rw [runItems_concat]
    exact (turnSound_iff _).mpr (hnone item (by simp))

/-- A remark in passing, of no importance at all. -/
def smallTalk : MemoryOperationModel :=
  { op := some .upsert, content := "It is raining.", importance := 0 }

/-- The round it is made in. -/
def smallTalkRound : MemoryContext :=
  { event := { eventType := .chat, target := .cocoon "c1", actionId := "a" }
    characterId := "ch"
    memoryOwnerUserId := none
    activeTags := []
    tagCatalog := [] }

/-- The remark is kept for good. -/
theorem smallTalk_kept :
    ¬ Sound ⟨id, fun _ => none⟩ smallTalkRound 0 (fun _ => ⟨"m1", "k1"⟩) [smallTalk] {} := by
  intro hsound
  have hturn := hsound [] smallTalk [] rfl
  rw [runItems_concat] at hturn
  exact (turnSound_iff _).mp hturn (by decide)

end Turns

end Durability

end CocoonSit
