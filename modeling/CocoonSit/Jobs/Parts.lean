import CocoonSit.Jobs.Reorganize
import CocoonSit.Jobs.Rollback
import CocoonSit.Lib.Owned

/-!
# What a job sees and writes of a cocoon

A database falls into the part of one cocoon and the part of all others.  An operation is confined
to the cocoon when it leaves the other part as it is and does on the cocoon's part what it does on
the whole database: `otherPart c (f db) = otherPart c db` and `f (ownPart c db) = ownPart c (f db)`.
Both are closed under composition, so the operations the jobs are made of are treated one by one.

Tags belong to users.  They count as the cocoon's here, since the jobs of a cocoon go by them, and
are in no other's part.
-/

namespace CocoonSit

open Table Owned

/-! ## Rows of a cocoon -/

/-- Rows of which some belong to a cocoon. -/
class InCocoon (ρ : Type) where
  inCocoon : RowId → ρ → Bool

export InCocoon (inCocoon)

instance : InCocoon Cocoon := ⟨fun c r => r.id = c⟩
instance : InCocoon SessionState := ⟨fun c r => r.target = .cocoon c⟩
instance : InCocoon Message := ⟨fun c r => r.target = .cocoon c⟩
instance : InCocoon MemoryChunk := ⟨fun c r => r.cocoonId = some c⟩
instance : InCocoon MemoryCandidate := ⟨fun c r => r.cocoonId = some c⟩
instance : InCocoon TagBinding := ⟨fun c r => r.target = .cocoon c⟩
instance : InCocoon Checkpoint := ⟨fun c r => r.cocoonId = c⟩
instance : InCocoon FailedRound := ⟨fun c r => r.target = .cocoon c⟩
instance : InCocoon AuditRun := ⟨fun c r => r.target = some (.cocoon c)⟩

section Rows

variable {ρ : Type} [InCocoon ρ] (c : RowId)

def own (l : List ρ) : List ρ := l.filter fun r => inCocoon c r

def others (l : List ρ) : List ρ := l.filter fun r => !inCocoon c r

variable {c} {l : List ρ} {r : ρ}

lemma mem_own : r ∈ own c l ↔ r ∈ l ∧ inCocoon c r = true := List.mem_filter

lemma mem_others : r ∈ others c l ↔ r ∈ l ∧ inCocoon c r = false := by
  simp [others]

lemma own_concat (h : inCocoon c r = true) : own c (l ++ [r]) = own c l ++ [r] := by
  simp [own, h]

lemma others_concat (h : inCocoon c r = true) : others c (l ++ [r]) = others c l := by
  simp [others, h]

end Rows

/-! ## The two parts of a database -/

section Parts

variable (c : RowId) (db : Db)

/-- A memory of another target has this key. -/
def otherMemory (id : RowId) : Bool := (others c db.memories).any fun m => m.id = id

def otherMessage (id : RowId) : Bool := (others c db.messages).any fun m => m.id = id

/-- The cocoon's rows, with the tags of its messages and memories and the tags there are. -/
def ownPart : Db :=
  { sessionStates := own c db.sessionStates
    messages := own c db.messages
    messageTags := db.messageTags.filter fun t => !otherMessage c db t.messageId
    memories := own c db.memories
    memoryTags := db.memoryTags.filter fun t => !otherMemory c db t.memoryChunkId
    memoryCandidates := own c db.memoryCandidates
    tags := db.tags
    tagBindings := own c db.tagBindings
    cocoons := own c db.cocoons
    checkpoints := own c db.checkpoints
    failedRounds := own c db.failedRounds
    auditRuns := own c db.auditRuns }

/-- All rows that are not the cocoon's. -/
def otherPart : Db :=
  { db with
    sessionStates := others c db.sessionStates
    messages := others c db.messages
    messageTags := db.messageTags.filter fun t => otherMessage c db t.messageId
    memories := others c db.memories
    memoryTags := db.memoryTags.filter fun t => otherMemory c db t.memoryChunkId
    memoryCandidates := others c db.memoryCandidates
    tags := []
    tagBindings := others c db.tagBindings
    cocoons := others c db.cocoons
    checkpoints := others c db.checkpoints
    failedRounds := others c db.failedRounds
    auditRuns := others c db.auditRuns }

end Parts

/-- The two databases differ only in the data of other targets. -/
def SameOn (c : RowId) (db₁ db₂ : Db) : Prop := ownPart c db₁ = ownPart c db₂

/-- Nothing has become of the rows of other targets. -/
def OthersUnchanged (c : RowId) (db db' : Db) : Prop := otherPart c db' = otherPart c db

namespace OthersUnchanged

variable {c : RowId} {db db' : Db} (h : OthersUnchanged c db db')

include h

lemma memories : others c db'.memories = others c db.memories := congrArg Db.memories h

lemma memoryCandidates : others c db'.memoryCandidates = others c db.memoryCandidates :=
  congrArg Db.memoryCandidates h

lemma failedRounds : others c db'.failedRounds = others c db.failedRounds :=
  congrArg Db.failedRounds h

lemma auditRuns : others c db'.auditRuns = others c db.auditRuns := congrArg Db.auditRuns h

end OthersUnchanged

section Operations

variable {c : RowId} {db : Db}

lemma otherMemory_congr {db db' : Db} (h : others c db'.memories = others c db.memories) :
    otherMemory c db' = otherMemory c db := by
  funext id
  rw [otherMemory, h, otherMemory]

lemma otherMessage_congr {db db' : Db} (h : others c db'.messages = others c db.messages) :
    otherMessage c db' = otherMessage c db := by
  funext id
  rw [otherMessage, h, otherMessage]

/-! ## Audit runs -/

lemma otherPart_startRun (operationType : String) (runId : RowId) :
    otherPart c (startRun db (some (.cocoon c)) operationType runId) = otherPart c db := by
  have hruns : others c (startRun db (some (.cocoon c)) operationType runId).auditRuns =
      others c db.auditRuns := others_concat (decide_eq_true rfl)
  exact congrArg (fun runs => { otherPart c db with auditRuns := runs }) hruns

lemma startRun_ownPart (operationType : String) (runId : RowId) :
    startRun (ownPart c db) (some (.cocoon c)) operationType runId =
      ownPart c (startRun db (some (.cocoon c)) operationType runId) := by
  have hruns : own c (startRun db (some (.cocoon c)) operationType runId).auditRuns =
      own c db.auditRuns ++
        [{ id := runId, target := some (.cocoon c), operationType := operationType }] :=
    own_concat (decide_eq_true rfl)
  exact congrArg (fun runs => { ownPart c db with auditRuns := runs }) hruns.symm

lemma otherPart_finishRun {runId : RowId} {status : ActionStatus} {now : Timestamp}
    (h : ∀ r ∈ others c db.auditRuns, r.id ≠ runId) :
    otherPart c (finishRun db runId status now) = otherPart c db := by
  have hruns : others c (finishRun db runId status now).auditRuns = others c db.auditRuns := by
    refine filter_map_eq (fun r => ?_) fun r hr hp => ?_
    · split <;> rfl
    · have hne : key r ≠ runId := h r (List.mem_filter.mpr ⟨hr, hp⟩)
      rw [if_neg hne]
  exact congrArg (fun runs => { otherPart c db with auditRuns := runs }) hruns

lemma finishRun_ownPart (runId : RowId) (status : ActionStatus) (now : Timestamp) :
    finishRun (ownPart c db) runId status now = ownPart c (finishRun db runId status now) := by
  have hruns : own c (finishRun db runId status now).auditRuns =
      (finishRun (ownPart c db) runId status now).auditRuns :=
    filter_map_comm (fun r => by split <;> rfl) db.auditRuns
  exact congrArg (fun runs => { ownPart c db with auditRuns := runs }) hruns.symm

/-! ## Tags, bindings and the session state -/

lemma get_own {ρ κ : Type} [InCocoon ρ] [Keyed ρ κ] [DecidableEq κ] {l : List ρ} {k : κ}
    (h : ∀ r ∈ l, key r = k → inCocoon c r = true) : get (own c l) k = get l k :=
  find?_filter_eq fun r hr hk => h r hr (by simpa using hk)

lemma resolveTagOwnerUserIdForTarget_ownPart :
    resolveTagOwnerUserIdForTarget (ownPart c db) (.cocoon c) =
      resolveTagOwnerUserIdForTarget db (.cocoon c) :=
  congrArg (Option.map Cocoon.ownerUserId) (get_own fun _ _ hk => decide_eq_true hk)

lemma otherPart_ensureUserSystemTag (userId newTagId : RowId) :
    otherPart c (ensureUserSystemTag db userId newTagId).1 = otherPart c db := by
  unfold ensureUserSystemTag
  split <;> rfl

lemma ensureUserSystemTag_ownPart (userId newTagId : RowId) :
    ensureUserSystemTag (ownPart c db) userId newTagId =
      Prod.map (ownPart c) id (ensureUserSystemTag db userId newTagId) := by
  have hfind : findSystemTag (ownPart c db) userId = findSystemTag db userId := rfl
  unfold ensureUserSystemTag
  rw [hfind]
  cases findSystemTag db userId with
  | none => rfl
  | some tag => rfl

lemma otherPart_canonicalizeTagRefs (refs : List String) (includeDefault : Bool)
    (owner : Option RowId) (newTagId : RowId) :
    otherPart c (canonicalizeTagRefs db refs includeDefault owner newTagId).1 =
      otherPart c db := by
  unfold canonicalizeTagRefs
  split
  · exact otherPart_ensureUserSystemTag ..
  · rfl

lemma canonicalizeTagRefs_ownPart (refs : List String) (includeDefault : Bool)
    (owner : Option RowId) (newTagId : RowId) :
    canonicalizeTagRefs (ownPart c db) refs includeDefault owner newTagId =
      Prod.map (ownPart c) id (canonicalizeTagRefs db refs includeDefault owner newTagId) := by
  have href : ∀ ref, getTagByAnyRef (ownPart c db) ref owner = getTagByAnyRef db ref owner := by
    have htags : (ownPart c db).tags = db.tags := rfl
    intro ref
    unfold getTagByAnyRef getTagByCanonicalId
    rw [htags]
  have hresolve : resolveTagRefs (ownPart c db) owner refs = resolveTagRefs db owner refs := by
    simp only [resolveTagRefs, href]
  unfold canonicalizeTagRefs
  rw [hresolve]
  generalize resolveTagRefs db owner refs = resolved
  cases includeDefault with
  | false => rfl
  | true =>
    cases owner with
    | none => rfl
    | some owner =>
      dsimp only
      rw [ensureUserSystemTag_ownPart]
      rfl

lemma otherPart_insertBinding (tagId : RowId) (now : Timestamp) :
    otherPart c { db with tagBindings := db.tagBindings ++
      [{ target := .cocoon c, tagId := tagId, createdAt := now }] } = otherPart c db := by
  have hbindings : others c (db.tagBindings ++
      [{ target := .cocoon c, tagId := tagId, createdAt := now }]) = others c db.tagBindings :=
    others_concat (decide_eq_true rfl)
  exact congrArg (fun bindings => { otherPart c db with tagBindings := bindings }) hbindings

lemma insertBinding_ownPart (tagId : RowId) (now : Timestamp) :
    { ownPart c db with tagBindings := (ownPart c db).tagBindings ++
      [{ target := .cocoon c, tagId := tagId, createdAt := now }] } =
    ownPart c { db with tagBindings := db.tagBindings ++
      [{ target := .cocoon c, tagId := tagId, createdAt := now }] } := by
  have hbindings : own c (db.tagBindings ++
      [{ target := .cocoon c, tagId := tagId, createdAt := now }]) = own c db.tagBindings ++
        [{ target := .cocoon c, tagId := tagId, createdAt := now }] :=
    own_concat (decide_eq_true rfl)
  exact congrArg (fun bindings => { ownPart c db with tagBindings := bindings }) hbindings.symm

lemma otherPart_ensureTargetDefaultBinding (newTagId : RowId) (now : Timestamp) :
    otherPart c (ensureTargetDefaultBinding db (.cocoon c) newTagId now).1 = otherPart c db := by
  unfold ensureTargetDefaultBinding
  split
  · rfl
  · next owner _ =>
    have htag : otherPart c (ensureUserSystemTag db owner newTagId).1 = otherPart c db :=
      otherPart_ensureUserSystemTag owner newTagId
    dsimp only
    split
    · exact htag
    · exact (otherPart_insertBinding ..).trans htag

lemma ensureTargetDefaultBinding_ownPart (newTagId : RowId) (now : Timestamp) :
    ensureTargetDefaultBinding (ownPart c db) (.cocoon c) newTagId now =
      Prod.map (ownPart c) id (ensureTargetDefaultBinding db (.cocoon c) newTagId now) := by
  unfold ensureTargetDefaultBinding
  rw [resolveTagOwnerUserIdForTarget_ownPart]
  cases resolveTagOwnerUserIdForTarget db (.cocoon c) with
  | none => rfl
  | some owner =>
    dsimp only
    rw [ensureUserSystemTag_ownPart]
    generalize ensureUserSystemTag db owner newTagId = r
    have hany : ((ownPart c r.1).tagBindings.any fun b => b.target = .cocoon c ∧ b.tagId = r.2) =
        r.1.tagBindings.any fun b => b.target = .cocoon c ∧ b.tagId = r.2 := by
      show (own c r.1.tagBindings).any _ = _
      rw [own, List.any_filter]
      refine congrArg _ (funext fun b => ?_)
      show (decide (b.target = .cocoon c) && _) = _
      by_cases hb : b.target = .cocoon c
      · simp [hb]
      · simp [hb]
    show (if (ownPart c r.1).tagBindings.any _ = true then _ else _) = _
    rw [Prod.map_snd, id_eq, hany]
    split
    · rfl
    · exact Prod.ext (insertBinding_ownPart ..) rfl

lemma boundTagIds_ownPart :
    boundTagIds (ownPart c db) (.cocoon c) = boundTagIds db (.cocoon c) := by
  have hbindings : ((ownPart c db).tagBindings.filter fun b => b.target = .cocoon c) =
      db.tagBindings.filter fun b => b.target = .cocoon c :=
    filter_filter_eq fun _ _ hb => hb
  rw [boundTagIds, hbindings, boundTagIds]

lemma otherPart_listTargetBoundTagIds (newTagId : RowId) (now : Timestamp) :
    otherPart c (listTargetBoundTagIds db (.cocoon c) newTagId now).1 = otherPart c db :=
  otherPart_ensureTargetDefaultBinding newTagId now

lemma listTargetBoundTagIds_ownPart (newTagId : RowId) (now : Timestamp) :
    listTargetBoundTagIds (ownPart c db) (.cocoon c) newTagId now =
      Prod.map (ownPart c) id (listTargetBoundTagIds db (.cocoon c) newTagId now) := by
  unfold listTargetBoundTagIds
  rw [ensureTargetDefaultBinding_ownPart]
  exact Prod.ext rfl boundTagIds_ownPart

lemma otherPart_serializePromptTagCatalog (newTagId : RowId) (now : Timestamp) :
    otherPart c (serializePromptTagCatalog db (.cocoon c) newTagId now).1 = otherPart c db := by
  unfold serializePromptTagCatalog listVisibleBoundTags
  cases resolveTagOwnerUserIdForTarget db (.cocoon c) with
  | none => rfl
  | some owner => exact otherPart_listTargetBoundTagIds newTagId now

lemma serializePromptTagCatalog_ownPart (newTagId : RowId) (now : Timestamp) :
    serializePromptTagCatalog (ownPart c db) (.cocoon c) newTagId now =
      Prod.map (ownPart c) id (serializePromptTagCatalog db (.cocoon c) newTagId now) := by
  unfold serializePromptTagCatalog listVisibleBoundTags
  rw [resolveTagOwnerUserIdForTarget_ownPart]
  cases resolveTagOwnerUserIdForTarget db (.cocoon c) with
  | none => rfl
  | some owner =>
    dsimp only
    rw [listTargetBoundTagIds_ownPart]
    rfl

lemma otherPart_updateState (f : SessionState → SessionState) (hf : ∀ s, (f s).target = s.target) :
    otherPart c { db with sessionStates := update db.sessionStates (.cocoon c) f } =
      otherPart c db := by
  have hstates : others c (update db.sessionStates (.cocoon c) f) = others c db.sessionStates := by
    refine filter_map_eq (fun s => ?_) fun s _ hs => ?_
    · show (!decide _) = !decide _
      split
      · rw [hf]
      · rfl
    · have hne : key s ≠ .cocoon c := fun heq => absurd hs (by simp [inCocoon, ← heq])
      rw [if_neg hne]
  exact congrArg (fun states => { otherPart c db with sessionStates := states }) hstates

lemma updateState_ownPart (f : SessionState → SessionState) (hf : ∀ s, (f s).target = s.target) :
    { ownPart c db with sessionStates := update (ownPart c db).sessionStates (.cocoon c) f } =
      ownPart c { db with sessionStates := update db.sessionStates (.cocoon c) f } := by
  have hstates : own c (update db.sessionStates (.cocoon c) f) =
      update (own c db.sessionStates) (.cocoon c) f := by
    refine filter_map_comm (fun s => ?_) db.sessionStates
    show decide _ = decide _
    split
    · rw [hf]
    · rfl
  exact congrArg (fun states => { ownPart c db with sessionStates := states }) hstates.symm

lemma otherPart_ensureStateBoundTags {state : SessionState} (h : state.target = .cocoon c)
    (newTagId : RowId) (now : Timestamp) :
    otherPart c (ensureStateBoundTags db state newTagId now).1 = otherPart c db := by
  unfold ensureStateBoundTags
  rw [h]
  have hbound : otherPart c (listTargetBoundTagIds db (.cocoon c) newTagId now).1 =
      otherPart c db := otherPart_listTargetBoundTagIds newTagId now
  dsimp only
  generalize listTargetBoundTagIds db (.cocoon c) newTagId now = bound at hbound
  have hcanonical : otherPart c (canonicalizeTagRefs bound.1 (state.activeTagsJson ++ bound.2) true
      (resolveTagOwnerUserIdForTarget db (.cocoon c)) newTagId).1 = otherPart c bound.1 :=
    otherPart_canonicalizeTagRefs ..
  generalize canonicalizeTagRefs bound.1 _ true _ newTagId = canonical at hcanonical
  have hset : otherPart c (setActiveTags canonical.1 (.cocoon c) canonical.2) =
      otherPart c canonical.1 := otherPart_updateState _ fun _ => rfl
  exact hset.trans (hcanonical.trans hbound)

lemma ensureStateBoundTags_ownPart {state : SessionState} (h : state.target = .cocoon c)
    (newTagId : RowId) (now : Timestamp) :
    ensureStateBoundTags (ownPart c db) state newTagId now =
      Prod.map (ownPart c) id (ensureStateBoundTags db state newTagId now) := by
  unfold ensureStateBoundTags
  rw [h, resolveTagOwnerUserIdForTarget_ownPart, listTargetBoundTagIds_ownPart]
  dsimp only [Prod.map]
  generalize listTargetBoundTagIds db (.cocoon c) newTagId now = bound
  rw [canonicalizeTagRefs_ownPart]
  dsimp only [Prod.map, id_eq]
  generalize canonicalizeTagRefs bound.1 _ true _ newTagId = canonical
  exact Prod.ext (updateState_ownPart _ fun _ => rfl) rfl

lemma otherPart_getSessionState (newTagId : RowId) (now : Timestamp) :
    otherPart c (getSessionState db (.cocoon c) newTagId now).1 = otherPart c db := by
  unfold getSessionState
  split
  · rfl
  · next state hstate => exact otherPart_ensureStateBoundTags (key_of_get hstate) newTagId now

lemma getSessionState_ownPart (newTagId : RowId) (now : Timestamp) :
    getSessionState (ownPart c db) (.cocoon c) newTagId now =
      Prod.map (ownPart c) id (getSessionState db (.cocoon c) newTagId now) := by
  have hget : get (ownPart c db).sessionStates (.cocoon c) = get db.sessionStates (.cocoon c) :=
    get_own fun _ _ hk => decide_eq_true hk
  unfold getSessionState
  rw [hget]
  cases hstate : get db.sessionStates (.cocoon c) with
  | none => rfl
  | some state =>
    dsimp only
    rw [ensureStateBoundTags_ownPart (key_of_get hstate)]
    rfl

/-! ## Memories and candidates -/

/-- The keys of the cocoon's candidates are not those of others. -/
def CandidatesApart (c : RowId) (db : Db) : Prop :=
  ∀ a ∈ own c db.memoryCandidates, ∀ b ∈ others c db.memoryCandidates, b.id ≠ a.id

/-- No other target's memory or candidate has these keys. -/
structure KeysFree (c : RowId) (db : Db) (keys : MemoryKeys) : Prop where
  memoryId : otherMemory c db keys.memoryId = false
  candidateId : ∀ b ∈ others c db.memoryCandidates, b.id ≠ keys.candidateId

lemma KeysFree.congr {db db' : Db} {keys : MemoryKeys} (hfree : KeysFree c db keys)
    (h : otherPart c db' = otherPart c db) : KeysFree c db' keys := by
  refine ⟨?_, OthersUnchanged.memoryCandidates h ▸ hfree.candidateId⟩
  rw [otherMemory_congr (OthersUnchanged.memories h)]
  exact hfree.memoryId

lemma otherPart_insertMemory (db : Db) (memory : MemoryChunk) (h : memory.cocoonId = some c)
    (hfree : otherMemory c db memory.id = false) (tags : List String) :
    otherPart c (addMemoryTags { db with memories := db.memories ++ [memory] } memory.id tags) =
      otherPart c db := by
  have hmemories : others c (db.memories ++ [memory]) = others c db.memories :=
    others_concat (decide_eq_true h)
  have htags : ((db.memoryTags ++ tags.map fun tag => (⟨memory.id, tag⟩ : MemoryTag)).filter
      fun t => otherMemory c { db with memories := db.memories ++ [memory] } t.memoryChunkId) =
      db.memoryTags.filter fun t => otherMemory c db t.memoryChunkId := by
    rw [otherMemory_congr hmemories]
    refine filter_append_eq fun t ht => ?_
    obtain ⟨tag, -, rfl⟩ := List.mem_map.mp ht
    exact hfree
  exact congrArg₂ (fun memories tags =>
    { otherPart c db with memories := memories, memoryTags := tags }) hmemories htags

lemma insertMemory_ownPart (db : Db) (memory : MemoryChunk) (h : memory.cocoonId = some c)
    (hfree : otherMemory c db memory.id = false) (tags : List String) :
    addMemoryTags { ownPart c db with memories := (ownPart c db).memories ++ [memory] } memory.id
      tags =
    ownPart c
      (addMemoryTags { db with memories := db.memories ++ [memory] } memory.id tags) := by
  have hmemories : own c (db.memories ++ [memory]) = own c db.memories ++ [memory] :=
    own_concat (decide_eq_true h)
  have hothers : others c (db.memories ++ [memory]) = others c db.memories :=
    others_concat (decide_eq_true h)
  have htags : ((db.memoryTags ++ tags.map fun tag => (⟨memory.id, tag⟩ : MemoryTag)).filter
      fun t => !otherMemory c { db with memories := db.memories ++ [memory] } t.memoryChunkId) =
      (db.memoryTags.filter fun t => !otherMemory c db t.memoryChunkId) ++
        tags.map fun tag => (⟨memory.id, tag⟩ : MemoryTag) := by
    rw [otherMemory_congr hothers, List.filter_append]
    refine congrArg _ (List.filter_eq_self.mpr fun t ht => ?_)
    obtain ⟨tag, -, rfl⟩ := List.mem_map.mp ht
    simp [hfree]
  exact congrArg₂ (fun memories tags =>
    { ownPart c db with memories := memories, memoryTags := tags }) hmemories.symm htags.symm

section Candidates

variable {new : MemoryCandidate}

lemma findCandidate_ownPart (content memoryPool : String) :
    findCandidate (ownPart c db) (.cocoon c) content memoryPool =
      findCandidate db (.cocoon c) content memoryPool := by
  refine find?_filter_eq fun a _ ha => ?_
  have hcocoon : a.cocoonId = some c := by simpa using (Bool.and_eq_true_iff.mp ha).2
  exact decide_eq_true hcocoon

lemma findCandidate_own {content memoryPool : String} {item : MemoryCandidate}
    (h : findCandidate db (.cocoon c) content memoryPool = some item) :
    item ∈ own c db.memoryCandidates := by
  have hitem := List.find?_some h
  have hcocoon : item.cocoonId = some c := by simpa using (Bool.and_eq_true_iff.mp hitem).2
  exact mem_own.mpr ⟨List.mem_of_find?_eq_some h, decide_eq_true hcocoon⟩

lemma otherPart_upsertCandidate (hapart : CandidatesApart c db) (hnew : new.cocoonId = some c) :
    otherPart c (upsertCandidate db (.cocoon c) new).1 = otherPart c db := by
  unfold upsertCandidate
  split
  · next item hitem =>
    have hcandidates : others c (update db.memoryCandidates item.id fun a => a.hitBy new) =
        others c db.memoryCandidates := by
      refine filter_map_eq (fun a => ?_) fun a ha hother => ?_
      · split <;> rfl
      · have hne : key a ≠ item.id :=
          hapart item (findCandidate_own hitem) a (List.mem_filter.mpr ⟨ha, hother⟩)
        rw [if_neg hne]
    exact congrArg (fun candidates => { otherPart c db with memoryCandidates := candidates })
      hcandidates
  · have hcandidates : others c (db.memoryCandidates ++ [new]) = others c db.memoryCandidates :=
      others_concat (decide_eq_true hnew)
    exact congrArg (fun candidates => { otherPart c db with memoryCandidates := candidates })
      hcandidates

lemma upsertCandidate_ownPart (hnew : new.cocoonId = some c) :
    upsertCandidate (ownPart c db) (.cocoon c) new =
      Prod.map (ownPart c) id (upsertCandidate db (.cocoon c) new) := by
  unfold upsertCandidate
  rw [findCandidate_ownPart]
  cases findCandidate db (.cocoon c) new.content new.memoryPool with
  | some item =>
    have hcandidates : own c (update db.memoryCandidates item.id fun a => a.hitBy new) =
        update (own c db.memoryCandidates) item.id fun a => a.hitBy new :=
      filter_map_comm (fun a => by split <;> rfl) db.memoryCandidates
    exact Prod.ext (congrArg (fun candidates => { ownPart c db with
      memoryCandidates := candidates }) hcandidates.symm) rfl
  | none =>
    have hcandidates : own c (db.memoryCandidates ++ [new]) =
        own c db.memoryCandidates ++ [new] := own_concat (decide_eq_true hnew)
    exact Prod.ext (congrArg (fun candidates => { ownPart c db with
      memoryCandidates := candidates }) hcandidates.symm) rfl

lemma upsertCandidate_spec (hapart : CandidatesApart c db) (hnew : new.cocoonId = some c)
    (hfree : ∀ b ∈ others c db.memoryCandidates, b.id ≠ new.id) :
    (upsertCandidate db (.cocoon c) new).2.cocoonId = some c ∧
      (∀ b ∈ others c db.memoryCandidates, b.id ≠ (upsertCandidate db (.cocoon c) new).2.id) ∧
      ∀ a ∈ own c (upsertCandidate db (.cocoon c) new).1.memoryCandidates,
        ∀ b ∈ others c db.memoryCandidates, b.id ≠ a.id := by
  unfold upsertCandidate
  split
  · next item hitem =>
    have hown := findCandidate_own hitem
    refine ⟨of_decide_eq_true (mem_own.mp hown).2, hapart item hown, fun a ha => ?_⟩
    obtain ⟨ha, hcocoon⟩ := mem_own.mp ha
    rcases mem_update.mp ha with ⟨a₀, ha₀, -, rfl⟩ | ⟨ha, -⟩
    · exact hapart a₀ (mem_own.mpr ⟨ha₀, hcocoon⟩)
    · exact hapart a (mem_own.mpr ⟨ha, hcocoon⟩)
  · refine ⟨hnew, hfree, fun a ha => ?_⟩
    obtain ⟨ha, hcocoon⟩ := mem_own.mp ha
    rcases List.mem_append.mp ha with ha | ha
    · exact hapart a (mem_own.mpr ⟨ha, hcocoon⟩)
    · obtain rfl := List.mem_singleton.mp ha
      exact hfree

variable {candidate : MemoryCandidate}

lemma otherPart_promoteCandidateToMemory (hcocoon : candidate.cocoonId = some c)
    (hkey : ∀ b ∈ others c db.memoryCandidates, b.id ≠ candidate.id) {memoryId : RowId}
    (hfree : otherMemory c db memoryId = false) (sourceKind : String) :
    otherPart c (promoteCandidateToMemory db candidate sourceKind memoryId) = otherPart c db := by
  have hmemory := otherPart_insertMemory db (candidate.toMemory sourceKind memoryId) hcocoon hfree
    candidate.tagsJson
  have hcandidates : others c (db.memoryCandidates.filter fun a => a.id ≠ candidate.id) =
      others c db.memoryCandidates :=
    filter_filter_eq fun a ha hother =>
      decide_eq_true (hkey a (List.mem_filter.mpr ⟨ha, hother⟩))
  refine Eq.trans ?_ hmemory
  exact congrArg (fun candidates => { otherPart c (addMemoryTags { db with
    memories := db.memories ++ [candidate.toMemory sourceKind memoryId] } memoryId
      candidate.tagsJson) with memoryCandidates := candidates }) hcandidates

lemma promoteCandidateToMemory_ownPart (hcocoon : candidate.cocoonId = some c) {memoryId : RowId}
    (hfree : otherMemory c db memoryId = false) (sourceKind : String) :
    promoteCandidateToMemory (ownPart c db) candidate sourceKind memoryId =
      ownPart c (promoteCandidateToMemory db candidate sourceKind memoryId) := by
  have hmemory := insertMemory_ownPart db (candidate.toMemory sourceKind memoryId) hcocoon hfree
    candidate.tagsJson
  have hcandidates : own c (db.memoryCandidates.filter fun a => a.id ≠ candidate.id) =
      (own c db.memoryCandidates).filter fun a => a.id ≠ candidate.id :=
    filter_filter_comm
  have hdrop := congrArg (fun part : Db => { part with
    memoryCandidates := part.memoryCandidates.filter fun a => a.id ≠ candidate.id }) hmemory
  refine hdrop.trans ?_
  exact congrArg (fun candidates => { ownPart c (addMemoryTags { db with
    memories := db.memories ++ [candidate.toMemory sourceKind memoryId] } memoryId
      candidate.tagsJson) with memoryCandidates := candidates }) hcandidates.symm

end Candidates

/-! ## Storing what a model makes of memories -/

section Items

variable {source : SummarySource} {ctx : SummaryContext} {keys : MemoryKeys}

/-- What storing an item needs of the database, and leaves. -/
structure Storable (c : RowId) (db₀ db : Db) : Prop where
  others : otherPart c db = otherPart c db₀
  apart : CandidatesApart c db

lemma Storable.step {db₀ db' : Db} (h : Storable c db₀ db)
    (hothers : otherPart c db' = otherPart c db)
    (hcandidates : ∀ a ∈ own c db'.memoryCandidates, ∃ a₀ ∈ own c db.memoryCandidates,
      a.id = a₀.id) : Storable c db₀ db' := by
  refine ⟨hothers.trans h.others, fun a ha b hb => ?_⟩
  obtain ⟨a₀, ha₀, hid⟩ := hcandidates a ha
  rw [hid]
  exact h.apart a₀ ha₀ b (OthersUnchanged.memoryCandidates hothers ▸ hb)

lemma storable_storeItem {db₀ : Db} (hcocoon : ctx.cocoon.id = c) (h : Storable c db₀ db)
    (hfree : KeysFree c db₀ keys) (item : CompactionMemoryItem) :
    Storable c db₀ (storeItem source ctx db item keys).1 := by
  unfold storeItem
  generalize strip item.summary = summary
  generalize strip item.content = content
  by_cases hblank : summary = "" ∨ content = ""
  · rw [if_pos hblank]
    exact h
  · rw [if_neg hblank]
    have hframe := canonicalizeTagRefs_frame db (ctx.defaultTagId :: item.resolvedTags ctx.catalog)
      true (some ctx.cocoon.ownerUserId) ctx.newTagId
    have hothers : otherPart c (canonicalizeTagRefs db
        (ctx.defaultTagId :: item.resolvedTags ctx.catalog) true (some ctx.cocoon.ownerUserId)
        ctx.newTagId).1 = otherPart c db := otherPart_canonicalizeTagRefs ..
    dsimp only
    generalize canonicalizeTagRefs db (ctx.defaultTagId :: item.resolvedTags ctx.catalog) true
      (some ctx.cocoon.ownerUserId) ctx.newTagId = tagged at hframe hothers
    have htagged : Storable c db₀ tagged.1 := by
      have hcandidates : tagged.1.memoryCandidates = db.memoryCandidates := by rw [hframe.frame]
      exact h.step hothers fun a ha => ⟨a, hcandidates ▸ ha, rfl⟩
    have hkeys : KeysFree c tagged.1 keys := hfree.congr htagged.others
    have hnew : (item.toCandidate source ctx tagged.2 keys.candidateId).cocoonId = some c :=
      congrArg some hcocoon
    generalize hcandidate : item.toCandidate source ctx tagged.2 keys.candidateId = new at hnew
    have hnewKey : ∀ b ∈ others c tagged.1.memoryCandidates, b.id ≠ new.id :=
      hcandidate ▸ hkeys.candidateId
    by_cases hlow : item.importance < 3
    · rw [if_pos hlow, hcocoon]
      obtain ⟨hupserted, hkey, hids⟩ := upsertCandidate_spec htagged.apart hnew hnewKey
      have hupsert := otherPart_upsertCandidate htagged.apart hnew
      generalize upsertCandidate tagged.1 (.cocoon c) new = upserted at hupserted hkey hids hupsert
      have hsame := OthersUnchanged.memoryCandidates hupsert
      have hstored : Storable c db₀ upserted.1 :=
        ⟨hupsert.trans htagged.others, fun a ha b hb => hids a ha b (hsame ▸ hb)⟩
      split
      · have hpromote := otherPart_promoteCandidateToMemory hupserted (hsame ▸ hkey)
          (hfree.congr hstored.others).memoryId source.promotionKind
        refine hstored.step hpromote fun a ha => ?_
        obtain ⟨ha, hown⟩ := mem_own.mp ha
        exact ⟨a, mem_own.mpr ⟨List.mem_of_mem_filter ha, hown⟩, rfl⟩
      · exact hstored
    · rw [if_neg hlow]
      have hmemory : (item.toMemory source ctx tagged.2 keys.memoryId).cocoonId = some c :=
        congrArg some hcocoon
      exact htagged.step (otherPart_insertMemory _ _ hmemory hkeys.memoryId tagged.2)
        fun a ha => ⟨a, ha, rfl⟩

lemma storeItem_ownPart (source : SummarySource) (hcocoon : ctx.cocoon.id = c)
    (hfree : KeysFree c db keys) (hapart : CandidatesApart c db) (item : CompactionMemoryItem) :
    storeItem source ctx (ownPart c db) item keys =
      Prod.map (ownPart c) id (storeItem source ctx db item keys) := by
  unfold storeItem
  generalize strip item.summary = summary
  generalize strip item.content = content
  by_cases hblank : summary = "" ∨ content = ""
  · rw [if_pos hblank, if_pos hblank]
    rfl
  · rw [if_neg hblank, if_neg hblank, canonicalizeTagRefs_ownPart]
    have hframe := canonicalizeTagRefs_frame db (ctx.defaultTagId :: item.resolvedTags ctx.catalog)
      true (some ctx.cocoon.ownerUserId) ctx.newTagId
    have hothers : otherPart c (canonicalizeTagRefs db
        (ctx.defaultTagId :: item.resolvedTags ctx.catalog) true (some ctx.cocoon.ownerUserId)
        ctx.newTagId).1 = otherPart c db := otherPart_canonicalizeTagRefs ..
    dsimp only [Prod.map, id_eq]
    generalize canonicalizeTagRefs db (ctx.defaultTagId :: item.resolvedTags ctx.catalog) true
      (some ctx.cocoon.ownerUserId) ctx.newTagId = tagged at hframe hothers
    have hkeys : KeysFree c tagged.1 keys := hfree.congr hothers
    have hcandidates : tagged.1.memoryCandidates = db.memoryCandidates := by rw [hframe.frame]
    have htagged : CandidatesApart c tagged.1 := by
      unfold CandidatesApart
      rw [hcandidates]
      exact hapart
    have hnew : (item.toCandidate source ctx tagged.2 keys.candidateId).cocoonId = some c :=
      congrArg some hcocoon
    by_cases hlow : item.importance < 3
    · rw [if_pos hlow, if_pos hlow, hcocoon, upsertCandidate_ownPart hnew]
      obtain ⟨hupserted, -, -⟩ := upsertCandidate_spec htagged hnew hkeys.candidateId
      have hupsert := otherPart_upsertCandidate htagged hnew
      dsimp only [Prod.map, id_eq]
      generalize upsertCandidate tagged.1 (.cocoon c) _ = upserted at hupserted hupsert
      split
      · rw [promoteCandidateToMemory_ownPart hupserted (hkeys.congr hupsert).memoryId]
      · rfl
    · rw [if_neg hlow, if_neg hlow]
      have hmemory : (item.toMemory source ctx tagged.2 keys.memoryId).cocoonId = some c :=
        congrArg some hcocoon
      exact Prod.ext (insertMemory_ownPart _ _ hmemory hkeys.memoryId tagged.2) rfl

lemma storeItems_confined (source : SummarySource) (ctx : SummaryContext) {db₀ : Db}
    (hcocoon : ctx.cocoon.id = c) {keys : ℕ → MemoryKeys}
    (hfree : ∀ i, KeysFree c db₀ (keys i)) (h : Storable c db₀ db)
    (items : List CompactionMemoryItem) :
    otherPart c (storeItems source ctx keys db items).1 = otherPart c db₀ ∧
      storeItems source ctx keys (ownPart c db) items =
        Prod.map (ownPart c) id (storeItems source ctx keys db items) := by
  have hloop : ∀ (items : List (CompactionMemoryItem × ℕ)) (stored : Db × List RowId),
      Storable c db₀ stored.1 →
      Storable c db₀ (items.foldl (storeNext source ctx keys) stored).1 ∧
        items.foldl (storeNext source ctx keys) (ownPart c stored.1, stored.2) =
          Prod.map (ownPart c) id (items.foldl (storeNext source ctx keys) stored) := by
    intro items
    induction items with
    | nil => exact fun stored h => ⟨h, rfl⟩
    | cons item items ih =>
      intro stored h
      have hstep : storeNext source ctx keys (ownPart c stored.1, stored.2) item =
          (ownPart c (storeNext source ctx keys stored item).1,
            (storeNext source ctx keys stored item).2) := by
        unfold storeNext
        have hitem := storeItem_ownPart source hcocoon
          ((hfree item.2).congr h.others) h.apart item.1
        generalize storeItem source ctx stored.1 item.1 (keys item.2) = r at hitem
        generalize storeItem source ctx (ownPart c stored.1) item.1 (keys item.2) = r' at hitem
        rw [hitem]
        rfl
      rw [List.foldl_cons, List.foldl_cons, hstep]
      have hnext : Storable c db₀ (storeNext source ctx keys stored item).1 := by
        rw [storeNext_fst]
        exact storable_storeItem hcocoon h (hfree item.2) item.1
      exact ih _ hnext
  obtain ⟨hstored, hown⟩ := hloop items.zipIdx (db, []) h
  exact ⟨hstored.others, hown⟩

end Items

end Operations

end CocoonSit
