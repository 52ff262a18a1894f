import CocoonSit.Lib.LastWord
import CocoonSit.Memory.Ops

/-!
# What memory operations write

An operation reaches the memories that are there already through their keys only: it updates one
and sets the status of others.  `writesOn` lists what it writes to one memory; carrying operations
out applies these writes one after the other, and whether the memory comes out as it was depends on
the last update and on the last status.
-/

namespace CocoonSit

open Table LastWord

/-- One write to a memory. -/
inductive ChunkWrite where
  | update (op : MemoryOperation)
  | status (value : String)

namespace ChunkWrite

def apply (text : TextFunctions) (ctx : MemoryContext) (memory : MemoryChunk) :
    ChunkWrite → MemoryChunk
  | .update op => op.sign ctx (op.update text ctx memory)
  | .status value => { memory with status := value }

def isUpdate : ChunkWrite → Bool
  | .update _ => true
  | .status _ => false

/-- The status a write leaves; an update makes the memory active. -/
def leavesStatus : ChunkWrite → String
  | .update _ => "active"
  | .status value => value

end ChunkWrite

/-- The writes of a list of keys that share a new status. -/
def statusWrites (memoryId : RowId) (status : String) (ids : List String) : List ChunkWrite :=
  (ids.filter fun id => id = memoryId).map fun _ => .status status

def MemoryOperation.writesOn (op : MemoryOperation) (memoryId : RowId) : List ChunkWrite :=
  if op.op = .archive then
    statusWrites memoryId "archived" (op.target?.toList ++ op.supersedesMemoryIds)
  else if strip op.content = "" ∨ op.op = .candidate ∨ op.importance < 3 then []
  else
    (if op.op = .update ∧ op.target? = some memoryId then [.update op] else []) ++
      statusWrites memoryId "contradicted" op.supersedesMemoryIds

variable {text : TextFunctions} {ctx : MemoryContext} {db : Db} {memoryId : RowId}
  {memory : MemoryChunk} {now : Timestamp}

@[simp] lemma ChunkWrite.apply_accessCount (w : ChunkWrite) :
    (w.apply text ctx memory).accessCount = memory.accessCount := by
  cases w <;> simp only [ChunkWrite.apply, MemoryOperation.sign, MemoryOperation.update]

@[simp] lemma ChunkWrite.apply_status (w : ChunkWrite) :
    (w.apply text ctx memory).status = w.leavesStatus := by
  cases w <;> rfl

/-! ## One operation -/

lemma get_setMemoryStatus (status : String) (id : String)
    (h : get db.memories memoryId = some memory) :
    get (setMemoryStatus status db id).memories memoryId =
      some ((statusWrites memoryId status [id]).foldl (ChunkWrite.apply text ctx) memory) := by
  have hkey : key memory = memoryId := key_of_get h
  have hget : get (setMemoryStatus status db id).memories memoryId =
      (get db.memories memoryId).map fun m =>
        if key m = id then { m with status := status } else m :=
    get_update fun _ => rfl
  rw [hget, h, Option.map_some, hkey]
  by_cases hid : memoryId = id
  · subst hid
    simp [statusWrites, ChunkWrite.apply]
  · have hne : id ≠ memoryId := Ne.symm hid
    simp [statusWrites, hid, hne]

lemma get_foldl_setMemoryStatus (status : String) (ids : List String)
    (h : get db.memories memoryId = some memory) :
    get (ids.foldl (setMemoryStatus status) db).memories memoryId =
      some ((statusWrites memoryId status ids).foldl (ChunkWrite.apply text ctx) memory) := by
  induction ids generalizing db memory with
  | nil => exact h
  | cons id ids ih =>
    have hsplit : statusWrites memoryId status (id :: ids) =
        statusWrites memoryId status [id] ++ statusWrites memoryId status ids := by
      rw [← List.singleton_append, statusWrites, List.filter_append, List.map_append]
      rfl
    rw [List.foldl_cons, ih (get_setMemoryStatus status id h), hsplit, List.foldl_append]

lemma get_persistCandidate (op : MemoryOperation) (keys : MemoryKeys)
    (h : get db.memories memoryId = some memory) :
    get (persistCandidate text ctx db op keys now).memories memoryId = some memory := by
  have hupsert : ∀ new, (upsertCandidate db ctx.event.target new).1.memories = db.memories := by
    intro new
    unfold upsertCandidate
    split <;> rfl
  unfold persistCandidate
  dsimp only
  split
  · simp only [promoteCandidateToMemory, addMemoryTags, hupsert]
    rw [get_append, h, Option.some_or]
  · rw [hupsert]
    exact h

lemma memories_persistMemory_of_some {op : MemoryOperation} {keys : MemoryKeys}
    {updated : MemoryChunk} (h : updatedMemory db op = some updated) :
    (persistMemory text ctx db op keys).memories = Table.update db.memories updated.id fun m =>
      op.sign ctx (op.update text ctx m) := by
  simp only [persistMemory, h, addMemoryTags]

lemma memories_persistMemory_of_none {op : MemoryOperation} {keys : MemoryKeys}
    (h : updatedMemory db op = none) :
    ∃ new, (persistMemory text ctx db op keys).memories = db.memories ++ [new] := by
  unfold persistMemory
  rw [h]
  exact ⟨_, rfl⟩

lemma get_persistMemory (op : MemoryOperation) (keys : MemoryKeys)
    (h : get db.memories memoryId = some memory) :
    get (persistMemory text ctx db op keys).memories memoryId =
      some ((if op.op = .update ∧ op.target? = some memoryId then [ChunkWrite.update op] else
        []).foldl (ChunkWrite.apply text ctx) memory) := by
  cases hupdated : updatedMemory db op with
  | some updated =>
    -- the operation names the memory it updates
    obtain ⟨hop, id, hid, hget⟩ : op.op = .update ∧ ∃ id, op.target? = some id ∧
        get db.memories id = some updated := by
      unfold updatedMemory at hupdated
      split at hupdated
      · next hop =>
        obtain ⟨id, hid, hget⟩ := Option.bind_eq_some_iff.mp hupdated
        exact ⟨hop, id, hid, hget⟩
      · cases hupdated
    have hkey : updated.id = id := key_of_get hget
    have hkey' : key memory = memoryId := key_of_get h
    subst hkey
    have hwrite : get (Table.update db.memories updated.id fun m =>
          op.sign ctx (op.update text ctx m)) memoryId =
        (get db.memories memoryId).map fun m =>
          if key m = updated.id then op.sign ctx (op.update text ctx m) else m :=
      get_update fun _ => by simp only [key_memoryChunk, MemoryOperation.sign_id,
        MemoryOperation.update_id]
    rw [memories_persistMemory_of_some hupdated, hwrite, h, Option.map_some, hkey', hid]
    by_cases hself : memoryId = updated.id
    · subst hself
      simp only [hop, and_self, if_true, List.foldl_cons, List.foldl_nil, ChunkWrite.apply]
    · have hne : updated.id ≠ memoryId := Ne.symm hself
      simp [hself, hne]
  | none =>
    have hother : ¬ (op.op = .update ∧ op.target? = some memoryId) := by
      rintro ⟨hop, hid⟩
      rw [updatedMemory, if_pos hop, hid, Option.bind_some, h] at hupdated
      cases hupdated
    obtain ⟨new, hnew⟩ : ∃ new, (persistMemory text ctx db op keys).memories =
        db.memories ++ [new] := memories_persistMemory_of_none hupdated
    rw [if_neg hother, hnew, get_append, h, Option.some_or]
    rfl

lemma get_persistMemoryOp (op : MemoryOperation) (keys : MemoryKeys)
    (h : get db.memories memoryId = some memory) :
    get (persistMemoryOp text ctx now db op keys).memories memoryId =
      some ((op.writesOn memoryId).foldl (ChunkWrite.apply text ctx) memory) := by
  unfold persistMemoryOp MemoryOperation.writesOn
  generalize strip op.content = content
  by_cases harchive : op.op = .archive
  · rw [if_pos harchive, if_pos harchive]
    have hall : op.target?.elim db (setMemoryStatus "archived" db) =
        op.target?.toList.foldl (setMemoryStatus "archived") db := by
      cases op.target? <;> rfl
    dsimp only
    rw [hall, ← List.foldl_append]
    exact get_foldl_setMemoryStatus _ _ h
  · rw [if_neg harchive, if_neg harchive]
    by_cases hblank : content = ""
    · rw [if_pos hblank, if_pos (.inl hblank)]
      exact h
    · rw [if_neg hblank]
      by_cases hcand : op.op = .candidate ∨ op.importance < 3
      · rw [if_pos hcand, if_pos (.inr hcand)]
        exact get_persistCandidate op keys h
      · rw [if_neg hcand, if_neg (by simpa [hblank] using hcand), List.foldl_append]
        exact get_foldl_setMemoryStatus _ _ (get_persistMemory op keys h)

lemma get_persistMemoryOps (keys : ℕ → MemoryKeys) (ops : List MemoryOperation)
    (h : get db.memories memoryId = some memory) :
    get (persistMemoryOps text ctx now keys ops db).memories memoryId =
      some ((ops.flatMap fun op => op.writesOn memoryId).foldl (ChunkWrite.apply text ctx)
        memory) := by
  have hindexed : ∀ indexed : List (MemoryOperation × ℕ), ∀ {db memory},
      get db.memories memoryId = some memory →
      get
        (indexed.foldl (fun db op => persistMemoryOp text ctx now db op.1 (keys op.2)) db).memories
        memoryId = some (((indexed.map Prod.fst).flatMap fun op => op.writesOn memoryId).foldl
          (ChunkWrite.apply text ctx) memory) := by
    intro indexed
    induction indexed with
    | nil => exact fun h => h
    | cons op indexed ih =>
      intro db memory h
      rw [List.foldl_cons, ih (get_persistMemoryOp op.1 (keys op.2) h), List.map_cons,
        List.flatMap_cons, List.foldl_append]
  have hfst : ops.zipIdx.map Prod.fst = ops := by simp
  rw [persistMemoryOps, hindexed ops.zipIdx h, hfst]

/-! ## Whether a memory comes out as it was -/

def MemoryOperation.Numbered (op : MemoryOperation) : Prop := op.importance ≠ 0 ∧ op.confidence ≠ 0

lemma update_update {op op' : MemoryOperation} (h : op.Numbered) :
    (ChunkWrite.update op).apply text ctx ((ChunkWrite.update op').apply text ctx memory) =
      (ChunkWrite.update op).apply text ctx memory := by
  simp only [ChunkWrite.apply, MemoryOperation.sign, MemoryOperation.update, intOr, if_neg h.1,
    if_neg h.2, MemoryChunk.mk.injEq, true_and]
  exact JsonDict.merge_ofList_merge_ofList _ rfl

lemma update_status (op : MemoryOperation) (status : String) :
    (ChunkWrite.update op).apply text ctx { memory with status := status } =
      (ChunkWrite.update op).apply text ctx memory := rfl

/-- Apart from the status, the update writes what the memory has already. -/
def ChunkWrite.Rewrites (text : TextFunctions) (ctx : MemoryContext) (memory : MemoryChunk) :
    ChunkWrite → Prop
  | .update op =>
    { op.sign ctx (op.update text ctx memory) with status := memory.status } = memory
  | .status _ => True

/-- The last update, if there is one, writes what the memory has already, and the last status
written, if there is one, is the one it has already. -/
def WritesNothingNew (text : TextFunctions) (ctx : MemoryContext) (memory : MemoryChunk)
    (ws : List ChunkWrite) : Prop :=
  lastWord ChunkWrite.isUpdate (fun w => w.Rewrites text ctx memory) True ws ∧
    lastWord (fun _ => true) (fun w => w.leavesStatus = memory.status) True ws

/-- Updates do the same to both memories. -/
def UpdatedAlike (text : TextFunctions) (ctx : MemoryContext) (m m' : MemoryChunk) : Prop :=
  ∀ op : MemoryOperation, op.Numbered →
    (ChunkWrite.update op).apply text ctx m = (ChunkWrite.update op).apply text ctx m'

lemma UpdatedAlike.apply {m m' : MemoryChunk} (h : UpdatedAlike text ctx m m') {w : ChunkWrite}
    (hw : ∀ op, w = .update op → op.Numbered) :
    UpdatedAlike text ctx (w.apply text ctx m) m' := by
  intro op hop
  cases w with
  | update op' =>
    rw [h op' (hw op' rfl), update_update hop]
  | status value => exact (update_status op value).trans (h op hop)

lemma rest_foldl_apply_iff {ws : List ChunkWrite}
    (hws : ∀ op, ChunkWrite.update op ∈ ws → op.Numbered) :
    { ws.foldl (ChunkWrite.apply text ctx) memory with status := memory.status } = memory ↔
      lastWord ChunkWrite.isUpdate (fun w => w.Rewrites text ctx memory) True ws := by
  have hbefore : ({ memory with status := memory.status } = memory) = True := eq_true rfl
  have hlast := @foldl_iff_lastWord _ _ (ChunkWrite.apply text ctx)
    (fun m => { m with status := memory.status } = memory)
    (fun m => UpdatedAlike text ctx m memory) ChunkWrite.isUpdate
    (fun w => w.Rewrites text ctx memory) ws
  rw [← hbefore]
  refine hlast ?_ ?_ ?_ fun _ _ => rfl
  · intro m w hw hm
    exact hm.apply fun op heq => hws op (heq ▸ hw)
  · intro m w hw hm hupdate
    cases w with
    | update op =>
      rw [hm op (hws op hw)]
      exact Iff.rfl
    | status value => cases hupdate
  · intro m w hw hm hupdate
    cases w with
    | update op => cases hupdate
    | status value => exact Iff.rfl

lemma status_foldl_apply_iff {ws : List ChunkWrite} :
    (ws.foldl (ChunkWrite.apply text ctx) memory).status = memory.status ↔
      lastWord (fun _ => true) (fun w : ChunkWrite => w.leavesStatus = memory.status) True ws := by
  have hbefore : (memory.status = memory.status) = True := eq_true rfl
  have hlast := @foldl_iff_lastWord _ _ (ChunkWrite.apply text ctx)
    (fun m : MemoryChunk => m.status = memory.status) (fun _ => True) (fun _ => true)
    (fun w : ChunkWrite => w.leavesStatus = memory.status) ws
  rw [← hbefore]
  refine hlast (fun _ _ _ _ => trivial) ?_ ?_ trivial
  · intro m w _ _ _
    rw [ChunkWrite.apply_status]
  · intro m w _ _ h
    cases h

/-- Writes that nothing new comes of are the ones that leave the memory as it is. -/
theorem foldl_apply_eq_self_iff {ws : List ChunkWrite}
    (hws : ∀ op, ChunkWrite.update op ∈ ws → op.Numbered) :
    ws.foldl (ChunkWrite.apply text ctx) memory = memory ↔
      WritesNothingNew text ctx memory ws := by
  have hstatus : (ws.foldl (ChunkWrite.apply text ctx) memory).status = memory.status ↔ _ :=
    status_foldl_apply_iff
  rw [WritesNothingNew, ← rest_foldl_apply_iff hws, ← hstatus]
  constructor
  · intro h
    rw [h]
    exact ⟨rfl, rfl⟩
  · rintro ⟨hrest, hsame⟩
    rw [← hsame] at hrest
    exact hrest

end CocoonSit
