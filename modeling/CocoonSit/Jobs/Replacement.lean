import CocoonSit.Jobs.Isolation

/-!
# What takes the place of reorganised memories

A reorganisation archives the memories it was given after it has stored the model's answer, whatever
that answer was.  An item without text is dropped, and one of low importance stays a candidate until
its text has come up often enough: the answer may leave nothing in the place of what is archived.
-/

namespace CocoonSit

open Table

/-! ## What an answer yields -/

namespace CompactionMemoryItem

/-- Neither the summary nor the content is blank. -/
def HasText (item : CompactionMemoryItem) : Prop :=
  strip item.summary ≠ "" ∧ strip item.content ≠ ""

instance (item : CompactionMemoryItem) : Decidable item.HasText :=
  inferInstanceAs (Decidable (_ ∧ _))

/-- The item goes to the candidates. -/
def IsMinor (item : CompactionMemoryItem) : Prop := item.HasText ∧ item.importance < 3

instance (item : CompactionMemoryItem) : Decidable item.IsMinor :=
  inferInstanceAs (Decidable (_ ∧ _))

def pool (item : CompactionMemoryItem) : String := textOr (item.memoryPool.getD "") "tree_private"

/-- A candidate of this text and pool would be the item's. -/
def SightingOf (item : CompactionMemoryItem) (content memoryPool : String) : Prop :=
  item.IsMinor ∧ strip item.content = content ∧ item.pool = memoryPool

instance (item : CompactionMemoryItem) (content memoryPool : String) :
    Decidable (item.SightingOf content memoryPool) :=
  inferInstanceAs (Decidable (_ ∧ _ ∧ _))

end CompactionMemoryItem

/-- How often the text of a candidate has come up. -/
def storedHits (db : Db) (cocoonId : RowId) (content memoryPool : String) : ℤ :=
  ((findCandidate db (.cocoon cocoonId) content memoryPool).map MemoryCandidate.hitCount).getD 0

/-- How often the text of an item comes up in an answer, for the candidates. -/
def sightingsIn (items : List CompactionMemoryItem) (item : CompactionMemoryItem) : ℕ :=
  items.countP fun other => other.SightingOf (strip item.content) item.pool

/-- An item of the answer becomes a memory: it is important enough, or its text has come up often
enough before and in the answer. -/
def Yields (hits : String → String → ℤ) (promoteHits : ℤ) (items : List CompactionMemoryItem) :
    Prop :=
  ∃ item ∈ items, item.HasText ∧ (3 ≤ item.importance ∨
    promoteHits ≤ hits (strip item.content) item.pool + sightingsIn items item)

/-- The model's answer. -/
def reorganizeAnswer (db : Db) (cocoonId : RowId) (memoryIds : List RowId)
    (instructions : Option String) (provider : SummaryProvider) (env : JobEnv) :
    Option CompactionOutput :=
  let (db', catalog) := serializePromptTagCatalog
    (startRun db (some (.cocoon cocoonId)) "memory_reorganize" env.runId) (.cocoon cocoonId)
    env.newTagId env.now
  provider instructions (reorganizedMemories db memoryIds) (catalog.filterMap (get db'.tags))

/-- Where there is something to archive, the answer yields a memory. -/
def AnswerYields (db : Db) (cocoonId : RowId) (memoryIds : List RowId)
    (instructions : Option String) (provider : SummaryProvider) (env : JobEnv) : Prop :=
  (get db.cocoons cocoonId).isSome → reorganizedMemories db memoryIds ≠ [] →
    ∀ output ∈ reorganizeAnswer db cocoonId memoryIds instructions provider env,
      Yields (storedHits db cocoonId) env.candidatePromoteHits output.longTermMemories

/-- The selected memories are active still, or an active memory is there that was not. -/
def KeptOrReplaced (db db' : Db) (memoryIds : List RowId) : Prop :=
  (∀ m ∈ reorganizedMemories db memoryIds,
      ∃ m' ∈ db'.memories, m'.id = m.id ∧ m'.status = "active") ∨
    ∃ m' ∈ db'.memories, m'.status = "active" ∧ m'.id ∉ db.memories.map MemoryChunk.id

/-! ## Counting sightings -/

section Sightings

variable {hits : String → String → ℤ} {promoteHits : ℤ} {item : CompactionMemoryItem}
  {items : List CompactionMemoryItem}

/-- The next item becomes a memory. -/
def MakesMemory (hits : String → String → ℤ) (promoteHits : ℤ) (item : CompactionMemoryItem) :
    Prop :=
  item.HasText ∧
    (3 ≤ item.importance ∨ promoteHits ≤ hits (strip item.content) item.pool + 1)

def hitsAfter (hits : String → String → ℤ) (item : CompactionMemoryItem) :
    String → String → ℤ := fun content memoryPool =>
  hits content memoryPool + if item.SightingOf content memoryPool then 1 else 0

lemma sightingsIn_cons (other : CompactionMemoryItem) :
    (sightingsIn (item :: items) other : ℤ) =
      sightingsIn items other +
        if item.SightingOf (strip other.content) other.pool then 1 else 0 := by
  unfold sightingsIn
  rw [List.countP_cons]
  by_cases h : item.SightingOf (strip other.content) other.pool
  · simp [h]
  · simp [h]

lemma sightingsIn_pos (hmem : item ∈ items) (hminor : item.IsMinor) :
    0 < sightingsIn items item :=
  List.countP_pos_iff.mpr ⟨item, hmem, decide_eq_true ⟨hminor, rfl, rfl⟩⟩

lemma yields_of_makesMemory (h : MakesMemory hits promoteHits item) :
    Yields hits promoteHits (item :: items) := by
  obtain ⟨htext, himportant | hearned⟩ := h
  · exact ⟨item, List.mem_cons_self, htext, .inl himportant⟩
  · refine ⟨item, List.mem_cons_self, htext, ?_⟩
    by_cases hlow : item.importance < 3
    · have hpos : 0 < sightingsIn (item :: items) item :=
        sightingsIn_pos List.mem_cons_self ⟨htext, hlow⟩
      exact .inr (by omega)
    · exact .inl (not_lt.mp hlow)

lemma yields_cons (h : ¬ MakesMemory hits promoteHits item) :
    Yields hits promoteHits (item :: items) ↔ Yields (hitsAfter hits item) promoteHits items := by
  have hsum : ∀ other : CompactionMemoryItem,
      hits (strip other.content) other.pool + (sightingsIn (item :: items) other : ℤ) =
        hitsAfter hits item (strip other.content) other.pool + sightingsIn items other := by
    intro other
    rw [sightingsIn_cons, hitsAfter]
    split <;> omega
  constructor
  · rintro ⟨other, hother, htext, hmade⟩
    rw [hsum] at hmade
    rcases List.mem_cons.mp hother with rfl | hother
    · rcases hmade with himportant | hearned
      · exact absurd ⟨htext, .inl himportant⟩ h
      · -- a later item has the same text, or the count would not be there
        have hlow : other.importance < 3 :=
          lt_of_not_ge fun himportant => h ⟨htext, .inl himportant⟩
        have hself : other.SightingOf (strip other.content) other.pool :=
          ⟨⟨htext, hlow⟩, rfl, rfl⟩
        have hless : ¬ promoteHits ≤ hits (strip other.content) other.pool + 1 :=
          fun hle => h ⟨htext, .inr hle⟩
        have hafter : hitsAfter hits other (strip other.content) other.pool =
            hits (strip other.content) other.pool + 1 := by
          rw [hitsAfter, if_pos hself]
        rw [hafter] at hearned
        have hpos : 0 < sightingsIn items other := by omega
        obtain ⟨later, hlater, hsame⟩ := List.countP_pos_iff.mp hpos
        obtain ⟨hminor, hcontent, hpool⟩ := of_decide_eq_true hsame
        refine ⟨later, hlater, hminor.1, .inr ?_⟩
        unfold sightingsIn
        rw [hcontent, hpool, hafter]
        exact hearned
    · exact ⟨other, hother, htext, hmade⟩
  · rintro ⟨other, hother, htext, hmade⟩
    rw [← hsum] at hmade
    exact ⟨other, List.mem_cons_of_mem _ hother, htext, hmade⟩

end Sightings

/-! ## Storing an item -/

section Item

variable {db : Db}

lemma storedHits_upsertCandidate (db : Db) (c : RowId) (new : MemoryCandidate)
    (hnodup : (db.memoryCandidates.map key).Nodup)
    (hcocoon : new.cocoonId = some c) (hhits : new.hitCount = 1) :
    (upsertCandidate db (.cocoon c) new).2.hitCount =
        storedHits db c new.content new.memoryPool + 1 ∧
      ∀ content memoryPool, storedHits (upsertCandidate db (.cocoon c) new).1 c content memoryPool =
        storedHits db c content memoryPool +
          if new.content = content ∧ new.memoryPool = memoryPool then 1 else 0 := by
  unfold upsertCandidate
  cases hfound : findCandidate db (.cocoon c) new.content new.memoryPool with
  | none =>
    refine ⟨by rw [storedHits, hfound, hhits]; rfl, fun content memoryPool => ?_⟩
    unfold storedHits
    by_cases hsame : new.content = content ∧ new.memoryPool = memoryPool
    · obtain ⟨rfl, rfl⟩ := hsame
      have hnew : findCandidate { db with memoryCandidates := db.memoryCandidates ++ [new] }
          (.cocoon c) new.content new.memoryPool = some new := by
        unfold findCandidate at hfound ⊢
        rw [List.find?_append, hfound, Option.none_or]
        exact List.find?_cons_of_pos (by simp [hcocoon])
      rw [hnew, hfound, if_pos ⟨rfl, rfl⟩]
      exact hhits
    · have hother : findCandidate { db with memoryCandidates := db.memoryCandidates ++ [new] }
          (.cocoon c) content memoryPool = findCandidate db (.cocoon c) content memoryPool := by
        unfold findCandidate
        have hone : [new].find? (fun a => a.content = content && a.memoryPool = memoryPool &&
            a.cocoonId = some c) = none :=
          List.find?_cons_of_neg (by simpa using fun h h' => absurd ⟨h, h'⟩ hsame)
        rw [List.find?_append, hone, Option.or_none]
      rw [hother, if_neg hsame, add_zero]
  | some found =>
    refine ⟨by rw [storedHits, hfound]; rfl, fun content memoryPool => ?_⟩
    have hupdate : findCandidate
        { db with
          memoryCandidates := update db.memoryCandidates found.id fun a => a.hitBy new }
        (.cocoon c) content memoryPool =
          (findCandidate db (.cocoon c) content memoryPool).map fun a =>
            if key a = found.id then a.hitBy new else a :=
      find?_update fun _ => rfl
    unfold storedHits
    rw [hupdate]
    by_cases hsame : new.content = content ∧ new.memoryPool = memoryPool
    · obtain ⟨rfl, rfl⟩ := hsame
      have hkey : key found = found.id := rfl
      rw [hfound, Option.map_some, if_pos hkey, if_pos ⟨rfl, rfl⟩]
      rfl
    · rw [if_neg hsame, add_zero]
      cases hother : findCandidate db (.cocoon c) content memoryPool with
      | none => rfl
      | some other =>
        have hne : key other ≠ found.id := by
          intro hid
          obtain rfl : other = found := List.inj_on_of_nodup_map hnodup
            (List.mem_of_find?_eq_some hother) (List.mem_of_find?_eq_some hfound) hid
          have htext := List.find?_some hother
          have htext' := List.find?_some hfound
          simp only [Bool.and_eq_true, decide_eq_true_eq] at htext htext'
          exact hsame ⟨htext'.1.1.symm.trans htext.1.1, htext'.1.2.symm.trans htext.1.2⟩
        rw [Option.map_some, if_neg hne]

lemma storedHits_congr {db' : Db} (h : db'.memoryCandidates = db.memoryCandidates) (c : RowId) :
    storedHits db' c = storedHits db c := by
  unfold storedHits findCandidate
  rw [h]

lemma memories_upsertCandidate (db : Db) (target : Target) (new : MemoryCandidate) :
    (upsertCandidate db target new).1.memories = db.memories := by
  unfold upsertCandidate
  split <;> rfl

lemma candidateIds_upsertCandidate (db : Db) (target : Target) (new : MemoryCandidate) :
    (upsertCandidate db target new).1.memoryCandidates.map key = db.memoryCandidates.map key ∨
      (upsertCandidate db target new).1.memoryCandidates.map key =
        db.memoryCandidates.map key ++ [new.id] := by
  unfold upsertCandidate
  split
  · exact .inl (map_key_update fun _ => rfl)
  · exact .inr List.map_append

variable {source : SummarySource} {ctx : SummaryContext} {item : CompactionMemoryItem}
  {keys : MemoryKeys}

lemma storeItem_of_hasText (source : SummarySource) (ctx : SummaryContext) (keys : MemoryKeys)
    (h : item.HasText) : ∃ tagged : Db × List RowId, TagsOnly db tagged.1 ∧
    storeItem source ctx db item keys =
      if item.importance < 3 then
        let upserted := upsertCandidate tagged.1 (.cocoon ctx.cocoon.id)
          (item.toCandidate source ctx tagged.2 keys.candidateId)
        if ctx.candidatePromoteHits ≤ upserted.2.hitCount then
          (promoteCandidateToMemory upserted.1 upserted.2 source.promotionKind keys.memoryId,
            some keys.memoryId)
        else (upserted.1, none)
      else
        (addMemoryTags { tagged.1 with memories := tagged.1.memories ++
          [item.toMemory source ctx tagged.2 keys.memoryId] } keys.memoryId tagged.2,
          some keys.memoryId) := by
  refine ⟨canonicalizeTagRefs db (ctx.defaultTagId :: item.resolvedTags ctx.catalog) true
    (some ctx.cocoon.ownerUserId) ctx.newTagId, canonicalizeTagRefs_frame .., ?_⟩
  unfold storeItem
  rw [if_neg (not_or.mpr h)]
  rfl

lemma storeItem_of_blank (source : SummarySource) (ctx : SummaryContext) (db : Db)
    (keys : MemoryKeys) (h : ¬ item.HasText) : storeItem source ctx db item keys = (db, none) := by
  have hblank : strip item.summary = "" ∨ strip item.content = "" := by
    by_contra hnone
    exact h (not_or.mp hnone)
  unfold storeItem
  rw [if_pos hblank]

/-- A new memory under a drawn key. -/
def AddsMemory (db db' : Db) (memoryId : RowId) : Prop :=
  ∃ m : MemoryChunk, m.id = memoryId ∧ m.status = "active" ∧ db'.memories = db.memories ++ [m]

lemma storeItem_addsMemory (source : SummarySource) (keys : MemoryKeys)
    (hnodup : (db.memoryCandidates.map key).Nodup)
    (h : MakesMemory (storedHits db ctx.cocoon.id) ctx.candidatePromoteHits item) :
    AddsMemory db (storeItem source ctx db item keys).1 keys.memoryId := by
  obtain ⟨htext, hmade⟩ := h
  obtain ⟨tagged, hframe, hstore⟩ := storeItem_of_hasText source ctx keys htext
  have hmemories : tagged.1.memories = db.memories := by rw [hframe.frame]
  have hcandidates : tagged.1.memoryCandidates = db.memoryCandidates := by rw [hframe.frame]
  rw [hstore]
  by_cases hlow : item.importance < 3
  · rw [if_pos hlow]
    have hhits := (storedHits_upsertCandidate tagged.1 ctx.cocoon.id
      (item.toCandidate source ctx tagged.2 keys.candidateId) (hcandidates ▸ hnodup) rfl rfl).1
    have hsame := storedHits_congr hcandidates ctx.cocoon.id
    have hpromoted : ctx.candidatePromoteHits ≤ (upsertCandidate tagged.1 (.cocoon ctx.cocoon.id)
        (item.toCandidate source ctx tagged.2 keys.candidateId)).2.hitCount := by
      rw [hhits, hsame]
      exact hmade.resolve_left (not_le.mpr hlow)
    dsimp only
    rw [if_pos hpromoted]
    refine ⟨(upsertCandidate tagged.1 (.cocoon ctx.cocoon.id) (item.toCandidate source ctx tagged.2
      keys.candidateId)).2.toMemory source.promotionKind keys.memoryId, rfl, rfl, ?_⟩
    rw [← hmemories, ← memories_upsertCandidate tagged.1 (.cocoon ctx.cocoon.id)]
    rfl
  · rw [if_neg hlow]
    refine ⟨item.toMemory source ctx tagged.2 keys.memoryId, rfl, rfl, ?_⟩
    rw [← hmemories]
    rfl

lemma storeItem_of_not_makesMemory (source : SummarySource) (keys : MemoryKeys)
    (hnodup : (db.memoryCandidates.map key).Nodup)
    (h : ¬ MakesMemory (storedHits db ctx.cocoon.id) ctx.candidatePromoteHits item) :
    (storeItem source ctx db item keys).1.memories = db.memories ∧
      storedHits (storeItem source ctx db item keys).1 ctx.cocoon.id =
        hitsAfter (storedHits db ctx.cocoon.id) item ∧
      ((storeItem source ctx db item keys).1.memoryCandidates.map key =
          db.memoryCandidates.map key ∨
        (storeItem source ctx db item keys).1.memoryCandidates.map key =
          db.memoryCandidates.map key ++ [keys.candidateId]) := by
  by_cases htext : item.HasText
  · obtain ⟨tagged, hframe, hstore⟩ := storeItem_of_hasText source ctx keys htext
    have hmemories : tagged.1.memories = db.memories := by rw [hframe.frame]
    have hcandidates : tagged.1.memoryCandidates = db.memoryCandidates := by rw [hframe.frame]
    have hlow : item.importance < 3 := lt_of_not_ge fun himportant => h ⟨htext, .inl himportant⟩
    obtain ⟨hcount, hhits⟩ := storedHits_upsertCandidate tagged.1 ctx.cocoon.id
      (item.toCandidate source ctx tagged.2 keys.candidateId) (hcandidates ▸ hnodup) rfl rfl
    have hsame := storedHits_congr hcandidates ctx.cocoon.id
    have hkept : ¬ ctx.candidatePromoteHits ≤ (upsertCandidate tagged.1 (.cocoon ctx.cocoon.id)
        (item.toCandidate source ctx tagged.2 keys.candidateId)).2.hitCount := by
      rw [hcount, hsame]
      exact fun hearned => h ⟨htext, .inr hearned⟩
    rw [hstore, if_pos hlow]
    dsimp only
    rw [if_neg hkept]
    refine ⟨(memories_upsertCandidate ..).trans hmemories, ?_, ?_⟩
    · funext content memoryPool
      rw [hhits, hsame, hitsAfter]
      refine congrArg _ (if_congr ?_ rfl rfl)
      exact ⟨fun hkey => ⟨⟨htext, hlow⟩, hkey.1, hkey.2⟩, fun hsight => ⟨hsight.2.1, hsight.2.2⟩⟩
    · rw [← hcandidates]
      exact candidateIds_upsertCandidate ..
  · rw [storeItem_of_blank source ctx db keys htext]
    refine ⟨rfl, ?_, .inl rfl⟩
    funext content memoryPool
    rw [hitsAfter, if_neg fun hsight => htext hsight.1.1, add_zero]

lemma memories_storeItem (source : SummarySource) (ctx : SummaryContext) (db : Db)
    (item : CompactionMemoryItem) (keys : MemoryKeys) :
    db.memories ⊆ (storeItem source ctx db item keys).1.memories := by
  by_cases htext : item.HasText
  · obtain ⟨tagged, hframe, hstore⟩ := storeItem_of_hasText source ctx keys htext
    have hmemories : tagged.1.memories = db.memories := by rw [hframe.frame]
    rw [hstore, ← hmemories]
    split
    · rw [← memories_upsertCandidate tagged.1 (.cocoon ctx.cocoon.id)]
      dsimp only
      split
      · exact List.subset_append_left _ _
      · exact List.Subset.refl _
    · exact List.subset_append_left _ _
  · rw [storeItem_of_blank source ctx db keys htext]
    exact List.Subset.refl _

end Item

/-! ## Storing the answer -/

section Loop

variable {source : SummarySource} {ctx : SummaryContext} {keys : ℕ → MemoryKeys} {db : Db}
  {items : List CompactionMemoryItem}

lemma memories_foldl_storeNext (source : SummarySource) (ctx : SummaryContext)
    (keys : ℕ → MemoryKeys) (items : List (CompactionMemoryItem × ℕ)) (stored : Db × List RowId) :
    stored.1.memories ⊆ (items.foldl (storeNext source ctx keys) stored).1.memories := by
  induction items generalizing stored with
  | nil => exact List.Subset.refl _
  | cons item items ih =>
    have hone : stored.1.memories ⊆ (storeNext source ctx keys stored item).1.memories := by
      rw [storeNext_fst]
      exact memories_storeItem ..
    exact List.Subset.trans hone (ih _)

/-- The candidates have different keys, and the ones that are drawn from the `n`-th on are new. -/
structure CandidateKeysReady (keys : ℕ → MemoryKeys) (n : ℕ) (db : Db) : Prop where
  nodup : (db.memoryCandidates.map key).Nodup
  fresh : ∀ i ≥ n, (keys i).candidateId ∉ db.memoryCandidates.map key

lemma CandidateKeysReady.next {n : ℕ} {db' : Db} (h : CandidateKeysReady keys n db)
    (hdistinct : Function.Injective fun i => (keys i).candidateId)
    (hids : db'.memoryCandidates.map key = db.memoryCandidates.map key ∨
      db'.memoryCandidates.map key = db.memoryCandidates.map key ++ [(keys n).candidateId]) :
    CandidateKeysReady keys (n + 1) db' := by
  rcases hids with hids | hids
  · exact ⟨hids ▸ h.nodup, fun i hi => hids ▸ h.fresh i (Nat.le_of_succ_le hi)⟩
  · refine ⟨?_, fun i hi hmem => ?_⟩
    · rw [hids]
      exact List.nodup_append_comm.mp (List.nodup_cons.mpr ⟨h.fresh n (le_refl n), h.nodup⟩)
    · rw [hids] at hmem
      rcases List.mem_append.mp hmem with hmem | hmem
      · exact h.fresh i (Nat.le_of_succ_le hi) hmem
      · have heq : i = n := hdistinct (List.mem_singleton.mp hmem)
        omega

lemma foldl_storeNext_memories (source : SummarySource) (ctx : SummaryContext)
    (items : List CompactionMemoryItem)
    (hdistinct : Function.Injective fun i => (keys i).candidateId) (n : ℕ)
    (stored : Db × List RowId) (hready : CandidateKeysReady keys n stored.1) :
    (Yields (storedHits stored.1 ctx.cocoon.id) ctx.candidatePromoteHits items →
      ∃ m ∈ ((items.zipIdx n).foldl (storeNext source ctx keys) stored).1.memories,
        m.status = "active" ∧ ∃ i, m.id = (keys i).memoryId) ∧
    (¬ Yields (storedHits stored.1 ctx.cocoon.id) ctx.candidatePromoteHits items →
      ((items.zipIdx n).foldl (storeNext source ctx keys) stored).1.memories =
        stored.1.memories) := by
  induction items generalizing n stored with
  | nil =>
    refine ⟨fun hyields => ?_, fun _ => rfl⟩
    obtain ⟨item, hitem, -⟩ := hyields
    exact absurd hitem List.not_mem_nil
  | cons item items ih =>
    rw [List.zipIdx_cons, List.foldl_cons]
    have hstep : (storeNext source ctx keys stored (item, n)).1 =
        (storeItem source ctx stored.1 item (keys n)).1 := storeNext_fst ..
    by_cases hmakes :
        MakesMemory (storedHits stored.1 ctx.cocoon.id) ctx.candidatePromoteHits item
    · obtain ⟨m, hid, hactive, hmemories⟩ :=
        storeItem_addsMemory source (keys n) hready.nodup hmakes
      refine ⟨fun _ => ⟨m, memories_foldl_storeNext _ _ _ _ _ ?_, hactive, n, hid⟩,
        fun hnot => absurd (yields_of_makesMemory hmakes) hnot⟩
      rw [hstep, hmemories]
      exact List.mem_append_right _ (List.mem_singleton_self m)
    · obtain ⟨hmemories, hhits, hids⟩ :=
        storeItem_of_not_makesMemory source (keys n) hready.nodup hmakes
      have hnext := ih (n + 1) (storeNext source ctx keys stored (item, n))
        (hready.next hdistinct (by rw [hstep]; exact hids))
      rw [hstep, hhits, hmemories] at hnext
      rw [yields_cons hmakes]
      exact hnext

end Loop

/-! ## The job -/

section Job

variable {db : Db} {cocoonId : RowId} {memoryIds : List RowId} {instructions : Option String}
  {provider : SummaryProvider} {env : JobEnv}

lemma status_of_mem_reorganizedMemories {m : MemoryChunk}
    (h : m ∈ reorganizedMemories db memoryIds) :
    m ∈ db.memories ∧ m.status = "active" := by
  obtain ⟨hmem, hm⟩ := List.mem_filter.mp h
  rw [Bool.and_eq_true, decide_eq_true_eq, decide_eq_true_eq] at hm
  exact ⟨hmem, hm.2⟩

lemma keptOrReplaced_of_memories {db' : Db} (h : db'.memories = db.memories) :
    KeptOrReplaced db db' memoryIds := by
  refine .inl fun m hm => ?_
  obtain ⟨hmem, hactive⟩ := status_of_mem_reorganizedMemories hm
  exact ⟨m, h ▸ hmem, rfl, hactive⟩

lemma storeReorganized_memories (cocoon : Cocoon) (catalog : List RowId)
    (memories : List MemoryChunk) (output : CompactionOutput)
    (hready : CandidateKeysReady env.memoryKeys 0 db)
    (hdistinct : Function.Injective fun i => (env.memoryKeys i).candidateId) :
    (Yields (storedHits db cocoon.id) env.candidatePromoteHits output.longTermMemories →
      ∃ m ∈ (storeReorganized db cocoon catalog memories output env).memories,
        m.status = "active" ∧ ∃ i, m.id = (env.memoryKeys i).memoryId) ∧
    (¬ Yields (storedHits db cocoon.id) env.candidatePromoteHits output.longTermMemories →
      (storeReorganized db cocoon catalog memories output env).memories = db.memories) := by
  unfold storeReorganized storeItems
  have hframe := ensureUserSystemTag_frame db cocoon.ownerUserId env.newTagId
  dsimp only
  generalize ensureUserSystemTag db cocoon.ownerUserId env.newTagId = r at hframe
  have hmemories : r.1.memories = db.memories := by rw [hframe.frame]
  have hcandidates : r.1.memoryCandidates = db.memoryCandidates := by rw [hframe.frame]
  rw [← storedHits_congr hcandidates, ← hmemories]
  have hready' : CandidateKeysReady env.memoryKeys 0 r.1 :=
    ⟨hcandidates ▸ hready.nodup, fun i hi => hcandidates ▸ hready.fresh i hi⟩
  have hloop := foldl_storeNext_memories (reorganizeSource memories)
    { cocoon := cocoon, catalog := catalog, defaultTagId := r.2
      candidatePromoteHits := env.candidatePromoteHits, candidateTtlHours := env.candidateTtlHours
      newTagId := env.newTagId, now := env.now }
    output.longTermMemories hdistinct 0 (r.1, []) hready'
  exact hloop

lemma not_active_archiveMemories {memories : List MemoryChunk} {m m' : MemoryChunk} {db : Db}
    (hm : m ∈ memories) (hm' : m' ∈ (archiveMemories db memories).memories) (hid : m'.id = m.id) :
    m'.status = "archived" := by
  rcases mem_updateIn.mp hm' with ⟨r, -, -, rfl⟩ | ⟨-, hout⟩
  · rfl
  · exact absurd (List.mem_map.mpr ⟨m, hm, hid.symm⟩) hout

/-- A reorganisation keeps the memories it was given or puts something in their place, if and only
if the model's answer yields a memory. -/
theorem executeReorganize_keptOrReplaced_iff (db : Db) (cocoonId : RowId) (memoryIds : List RowId)
    (instructions : Option String) (provider : SummaryProvider) (env : JobEnv)
    (hsound : RowsSound db) (hfresh : env.FreshFor db)
    (hdistinct : Function.Injective fun i => (env.memoryKeys i).candidateId) :
    KeptOrReplaced db (executeReorganize db cocoonId memoryIds instructions provider env).session
        memoryIds ↔
      AnswerYields db cocoonId memoryIds instructions provider env := by
  unfold executeReorganize AnswerYields
  cases hcocoon : get db.cocoons cocoonId with
  | none =>
    exact ⟨fun _ h => absurd h Bool.false_ne_true, fun _ => keptOrReplaced_of_memories rfl⟩
  | some cocoon =>
    obtain rfl : cocoon.id = cocoonId := key_of_get hcocoon
    dsimp only
    by_cases hempty : reorganizedMemories db memoryIds = []
    · rw [hempty]
      exact ⟨fun _ _ h => absurd rfl h, fun _ => keptOrReplaced_of_memories rfl⟩
    · have hnonempty : (reorganizedMemories db memoryIds).isEmpty = false :=
        List.isEmpty_eq_false_iff.mpr hempty
      rw [hnonempty]
      unfold reorganizeAnswer
      have hframe := serializePromptTagCatalog_frame
        (startRun db (some (.cocoon cocoon.id)) "memory_reorganize" env.runId)
        (.cocoon cocoon.id) env.newTagId env.now
      dsimp only
      generalize serializePromptTagCatalog
        (startRun db (some (.cocoon cocoon.id)) "memory_reorganize" env.runId)
        (.cocoon cocoon.id) env.newTagId env.now = r at hframe
      have hmemories : r.1.memories = db.memories := by
        rw [hframe.frame]
        rfl
      have hcandidates : r.1.memoryCandidates = db.memoryCandidates := by
        rw [hframe.frame]
        rfl
      cases hanswer : provider instructions (reorganizedMemories db memoryIds)
          (r.2.filterMap (get r.1.tags)) with
      | none =>
        exact ⟨fun _ _ _ output houtput => absurd houtput (by simp),
          fun _ => keptOrReplaced_of_memories hmemories⟩
      | some output =>
        have hready : CandidateKeysReady env.memoryKeys 0 r.1 := by
          refine ⟨hcandidates ▸ hsound.candidateIds, fun i _ hmem => ?_⟩
          obtain ⟨a, ha, hid⟩ := List.mem_map.mp (hcandidates ▸ hmem)
          exact hfresh.candidateId i a ha hid
        obtain ⟨hmade, hunmade⟩ := storeReorganized_memories cocoon r.2
          (reorganizedMemories db memoryIds) output hready hdistinct
        rw [storedHits_congr hcandidates] at hmade hunmade
        constructor
        · intro hkept _ _ output' houtput
          obtain rfl := Option.some.inj houtput
          by_contra hnone
          have hsame := (hunmade hnone).trans hmemories
          rcases hkept with hkept | ⟨m, hmem, -, hnew⟩
          · obtain ⟨m, hm⟩ := List.exists_mem_of_ne_nil _ hempty
            obtain ⟨m', hmem, hid, hactive⟩ := hkept m hm
            have harchived := not_active_archiveMemories hm hmem hid
            rw [hactive] at harchived
            exact absurd harchived (by decide)
          · rcases mem_updateIn.mp hmem with ⟨old, hold, -, rfl⟩ | ⟨hold, -⟩
            · exact hnew (List.mem_map.mpr ⟨old, hsame ▸ hold, rfl⟩)
            · exact hnew (List.mem_map_of_mem (hsame ▸ hold))
        · intro hyields
          obtain ⟨m, hmem, hactive, i, hid⟩ := hmade (hyields rfl hempty output rfl)
          have hnew : m.id ∉ db.memories.map MemoryChunk.id := by
            rw [hid]
            intro hin
            obtain ⟨old, hold, hsame⟩ := List.mem_map.mp hin
            exact hfresh.memoryId i old hold hsame
          refine .inr ⟨m, ?_, hactive, hnew⟩
          refine mem_updateIn.mpr (.inr ⟨hmem, fun hin => hnew ?_⟩)
          obtain ⟨old, hold, hsame⟩ := List.mem_map.mp hin
          exact List.mem_map.mpr ⟨old, (status_of_mem_reorganizedMemories hold).1, hsame⟩

end Job

/-! Two answers: one without items, and one with an item that is important enough. -/

def reorganizeDraws : JobEnv :=
  { jobDraws with memoryKeys := fun i => ⟨"x", String.ofList (List.replicate i 'y')⟩ }

lemma reorganizeDraws_distinct :
    Function.Injective fun i => (reorganizeDraws.memoryKeys i).candidateId :=
  fun i j h => by simpa [reorganizeDraws] using congrArg String.length h

lemma reorganizeDraws_fresh : reorganizeDraws.FreshFor (twoCocoons []) :=
  ⟨by decide +kernel, fun _ => by simp [twoCocoons, reorganizeDraws], fun _ => by simp [twoCocoons]⟩

/-- An answer without items leaves the cocoon without the memory, and nothing in its place. -/
theorem emptyAnswer_not_replaced : RowsSound (twoCocoons []) ∧
    reorganizeDraws.FreshFor (twoCocoons []) ∧
    ¬ KeptOrReplaced (twoCocoons []) (executeReorganize (twoCocoons []) "c" ["p"] none
      (fun _ _ _ => some {}) reorganizeDraws).session ["p"] := by
  refine ⟨rowsSound_twoCocoons.1, reorganizeDraws_fresh, ?_⟩
  unfold KeptOrReplaced
  decide +kernel

/-- An item of importance 4 takes its place. -/
theorem importantAnswer_replaced :
    KeptOrReplaced (twoCocoons []) (executeReorganize (twoCocoons []) "c" ["p"] none
      (fun _ _ _ => some
        { longTermMemories := [{ summary := "hi", content := "Ada says hi", importance := 4 }] })
      reorganizeDraws).session ["p"] := by
  refine (executeReorganize_keptOrReplaced_iff _ _ _ _ _ _ rowsSound_twoCocoons.1
    reorganizeDraws_fresh reorganizeDraws_distinct).mpr fun _ _ output houtput => ?_
  obtain rfl := Option.some.inj houtput
  exact ⟨_, List.mem_cons_self, by decide +kernel, .inl (by decide)⟩

end CocoonSit
