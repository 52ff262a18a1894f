import CocoonSit.Memory.Summaries
import CocoonSit.Messages.Window
import CocoonSit.Tags.Services

/-!
# The compaction job

`CompactionJobService.execute` has an earlier part of a cocoon's own messages summarised, stores
the memories the model makes of it, and moves the context start behind that part.  The part ends
before a message named by the request, or is chosen by default: most of what the window would
show.  The prompt and the call of the provider are left out; its answer may be anything.
-/

namespace CocoonSit

open Table

/-! ## Audit runs -/

/-- `AuditRunService.start_run`, without an action. -/
def startRun (db : Db) (target : Option Target) (operationType : String) (runId : RowId) : Db :=
  { db with auditRuns :=
      db.auditRuns ++ [{ id := runId, target := target, operationType := operationType }] }

def finishRun (db : Db) (runId : RowId) (status : ActionStatus) (now : Timestamp) : Db :=
  { db with auditRuns := update db.auditRuns runId fun r =>
      { r with status := status, finishedAt := some now } }

/-- What an executor draws and reads of the clock. -/
structure JobEnv where
  runId : RowId
  newTagId : RowId
  memoryKeys : ℕ → MemoryKeys
  candidatePromoteHits : ℤ := 2
  candidateTtlHours : ℤ := 72
  now : Timestamp

/-- How an executor ends, with what its session holds then: a raise undoes nothing. -/
inductive JobEnd where
  | returned (db : Db)
  | raised (db : Db)

def JobEnd.session : JobEnd → Db
  | .returned db => db
  | .raised db => db

def JobEnd.map (f : Db → Db) : JobEnd → JobEnd
  | .returned db => .returned (f db)
  | .raised db => .raised (f db)

/-! ## What is compacted -/

def resolveMessageIndex (messages : List Message) (messageId : Option RowId) : Option ℕ :=
  (messageId.filter (· ≠ "")).bind fun id => messages.findIdx? fun m => m.id = id

def resolveAnchorIndex (messages : List Message) (anchorMessageId : Option RowId) : ℕ :=
  (resolveMessageIndex messages anchorMessageId).getD 0

def resolveDefaultCompactionSelection (cocoon : Cocoon) (messages : List Message)
    (startIndex : ℕ) : List Message × Option Message :=
  let candidates := messages.drop startIndex
  let window := sliceLast candidates cocoon.maxContextMessages
  let count := compressCount cocoon.maxContextMessages window
  if candidates.length < 2 ∨ window.length < 2 then ([], none)
  else if count = 0 ∨ window.length ≤ count then ([], none)
  else (window.take count, window[count]?)

/-- `_select_messages_for_compaction`: what to summarise, and the first message to keep. -/
def selectMessagesForCompaction (cocoon : Cocoon) (messages : List Message)
    (beforeMessageId : Option RowId) : List Message × Option Message :=
  let startIndex := resolveAnchorIndex messages cocoon.contextStartMessageId
  if (beforeMessageId.filter (· ≠ "")).isSome then
    match resolveMessageIndex messages beforeMessageId with
    | none => ([], none)
    | some endIndex =>
      if endIndex ≤ startIndex then ([], none)
      else ((messages.take endIndex).drop startIndex, messages[endIndex]?)
  else resolveDefaultCompactionSelection cocoon messages startIndex

/-- The query of `execute`. -/
def compactionHistory (db : Db) (cocoonId : RowId) : List Message :=
  orderBy Message.createdAt (db.messages.filter fun m => m.target = .cocoon cocoonId)

/-- What a job of this cocoon summarises, and the first message it keeps. -/
def compactionSelection (db : Db) (cocoon : Cocoon) (beforeMessageId : Option RowId) :
    List Message × Option Message :=
  let messages := compactionHistory db cocoon.id
  if messages.length < 2 then ([], none)
  else selectMessagesForCompaction cocoon messages beforeMessageId

/-! ## The job -/

/-- What a compaction writes into its rows. -/
def compactionSource (selected : List Message) (output : CompactionOutput) : SummarySource :=
  let compressed := JsonValue.arr (selected.map fun m => .str m.id)
  { sourceKind := "compaction"
    promotionKind := "compaction_candidate_promotion"
    candidateMeta := .ofList
      [("compressed_message_ids", compressed), ("source_kind", .str "compaction"),
       ("compaction_summary", .str (strip output.summary))]
    memoryMeta := fun item => .ofList
      [("compressed_message_ids", compressed), ("source_kind", .str "compaction"),
       ("importance", .num item.importance), ("confidence", .num item.confidence),
       ("compaction_summary", .str (strip output.summary))] }

/-- The memories of the summary: the database, and the ids of the memories created. -/
def storeCompaction (db : Db) (cocoon : Cocoon) (selected : List Message)
    (output : CompactionOutput) (env : JobEnv) : Db × List RowId :=
  let (db, _) := ensureSessionState db (.cocoon cocoon.id) env.newTagId env.now
  let (db, catalog) := serializePromptTagCatalog db (.cocoon cocoon.id) env.newTagId env.now
  let (db, defaultTagId) := ensureUserSystemTag db cocoon.ownerUserId env.newTagId
  storeItems (compactionSource selected output)
    { cocoon := cocoon, catalog := catalog, defaultTagId := defaultTagId
      candidatePromoteHits := env.candidatePromoteHits
      candidateTtlHours := env.candidateTtlHours
      newTagId := env.newTagId, now := env.now }
    env.memoryKeys db output.longTermMemories

lemma memoriesOnly_storeCompaction (db : Db) (cocoon : Cocoon) (selected : List Message)
    (output : CompactionOutput) (env : JobEnv) :
    MemoriesOnly db (storeCompaction db cocoon selected output env).1 := by
  unfold storeCompaction
  have h₁ := ensureSessionState_frame db (.cocoon cocoon.id) env.newTagId env.now
  dsimp only
  generalize ensureSessionState db (.cocoon cocoon.id) env.newTagId env.now = r₁ at h₁
  have h₂ := serializePromptTagCatalog_frame r₁.1 (.cocoon cocoon.id) env.newTagId env.now
  generalize serializePromptTagCatalog r₁.1 (.cocoon cocoon.id) env.newTagId env.now = r₂ at h₂
  have h₃ := ensureUserSystemTag_frame r₂.1 cocoon.ownerUserId env.newTagId
  generalize ensureUserSystemTag r₂.1 cocoon.ownerUserId env.newTagId = r₃ at h₃
  exact (MemoriesOnly.ofTags ((h₁.trans h₂).trans h₃)).trans (memoriesOnly_storeItems ..)

/-- `cocoon.context_start_message_id = …`. -/
def setContextStart (db : Db) (cocoonId messageId : RowId) : Db :=
  { db with cocoons := update db.cocoons cocoonId fun c =>
      { c with contextStartMessageId := some messageId } }

/-- `CompactionJobService.execute`, for the model's answer; it raises when the cocoon is not
found. -/
def executeCompaction (db : Db) (cocoonId : RowId) (beforeMessageId : Option RowId)
    (output : CompactionOutput) (env : JobEnv) : Option Db :=
  (get db.cocoons cocoonId).map fun cocoon =>
    let db := startRun db (some (.cocoon cocoonId)) "compaction" env.runId
    let (selected, retainedStart) := compactionSelection db cocoon beforeMessageId
    if selected.isEmpty then finishRun db env.runId .completed env.now
    else
      let (db, created) := storeCompaction db cocoon selected output env
      let db := match retainedStart with
        | some retained => if created.isEmpty then db else setContextStart db cocoonId retained.id
        | none => db
      finishRun db env.runId .completed env.now

/-! ## Selections -/

variable {db db' : Db} {cocoon : Cocoon} {messages : List Message} {m : Message} {id : RowId}

lemma resolveMessageIndex_eq_some {i : ℕ} (h : resolveMessageIndex messages (some id) = some i) :
    id ≠ "" ∧ ∃ m, messages[i]? = some m ∧ m.id = id := by
  obtain ⟨id', hid, hidx⟩ := Option.bind_eq_some_iff.mp h
  obtain ⟨hid, hne⟩ := Option.filter_eq_some_iff.mp hid
  cases hid
  obtain ⟨hlt, hm, -⟩ := List.findIdx?_eq_some_iff_getElem.mp hidx
  exact ⟨by simpa using hne, messages[i], List.getElem?_eq_getElem hlt, by simpa using hm⟩

lemma resolveMessageIndex_of_getElem? (hids : (messages.map key).Nodup) {i : ℕ}
    (h : messages[i]? = some m) (hne : m.id ≠ "") :
    resolveMessageIndex messages (some m.id) = some i := by
  obtain ⟨hlt, hm⟩ := List.getElem?_eq_some_iff.mp h
  have hfilter : Option.filter (fun id : RowId => decide (id ≠ "")) (some m.id) = some m.id := by
    simp [hne]
  rw [resolveMessageIndex, hfilter, Option.bind_some, List.findIdx?_eq_some_iff_getElem]
  refine ⟨hlt, by simp [hm], fun j hj => ?_⟩
  have hother : messages[j].id ≠ messages[i].id := by
    intro heq
    have hjlt : j < (messages.map key).length := by rw [List.length_map]; omega
    have hilt : i < (messages.map key).length := by rw [List.length_map]; omega
    have hkeys : (messages.map key)[j] = (messages.map key)[i] := by simpa using heq
    have hji : j = i := (List.Nodup.getElem_inj_iff hids).mp hkeys
    omega
  simpa [hm] using hother

lemma mem_drop_take {l : List Message} {i j : ℕ} :
    m ∈ (l.take j).drop i ↔ ∃ k, i ≤ k ∧ k < j ∧ l[k]? = some m := by
  rw [List.mem_iff_getElem?]
  constructor
  · rintro ⟨k, hk⟩
    rw [List.getElem?_drop, List.getElem?_take] at hk
    obtain ⟨hlt, hk⟩ := Option.ite_none_right_eq_some.mp hk
    exact ⟨i + k, Nat.le_add_right i k, hlt, hk⟩
  · rintro ⟨k, hik, hkj, hk⟩
    refine ⟨k - i, ?_⟩
    rw [List.getElem?_drop, List.getElem?_take, Nat.add_sub_cancel' hik, if_pos hkj, hk]

/-! ## The history -/

lemma mem_compactionHistory {cocoonId : RowId} :
    m ∈ compactionHistory db cocoonId ↔ m ∈ db.messages ∧ m.target = .cocoon cocoonId := by
  simp [compactionHistory]

lemma nodup_compactionHistory (hids : (db.messages.map key).Nodup) (cocoonId : RowId) :
    ((compactionHistory db cocoonId).map key).Nodup := by
  refine ((perm_orderBy _ _).map key).nodup_iff.mpr ?_
  exact hids.sublist (List.filter_sublist.map key)

lemma index_lt_of_createdAt_lt {cocoonId : RowId} {i j : ℕ} {a b : Message}
    (ha : (compactionHistory db cocoonId)[i]? = some a)
    (hb : (compactionHistory db cocoonId)[j]? = some b) (h : a.createdAt < b.createdAt) :
    i < j := by
  obtain ⟨hi, rfl⟩ := List.getElem?_eq_some_iff.mp ha
  obtain ⟨hj, rfl⟩ := List.getElem?_eq_some_iff.mp hb
  have hsorted := List.pairwise_iff_getElem.mp
    (pairwise_orderBy Message.createdAt (db.messages.filter fun m => m.target = .cocoon cocoonId))
  by_contra hji
  rcases Nat.lt_or_eq_of_le (Nat.le_of_not_lt hji) with hlt | heq
  · exact absurd h (not_lt_of_ge (hsorted j i hj hi hlt))
  · subst heq
    exact lt_irrefl _ h

end CocoonSit
