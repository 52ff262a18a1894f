import CocoonSit.Lib.Table
import Mathlib.Data.Prod.Lex

/-!
# Data model

The rows of the backend's tables, with the columns the modelled services read or write, and the
database as one record of tables.  A row that belongs to a conversation carries a `Target`: the
tables' check constraints say that exactly one of `cocoon_id` and `chat_group_id` is set, so the
pair of columns is one value of a two-case type, and a row with both or neither cannot be built.

Times are microseconds since the epoch.  Primary keys are the texts `new_id` draws (`uuid4`);
operations that insert rows take the drawn keys and the current time as arguments.
-/

namespace CocoonSit

open Table

/-- A primary key: the text of a `uuid4`. -/
abbrev RowId := String

/-- Microseconds since the epoch (`datetime.now(UTC).replace(tzinfo=None)`). -/
abbrev Timestamp := ℕ

/-- A conversation target: a cocoon or a chat-group room. -/
inductive Target where
  | cocoon (id : RowId)
  | chatGroup (id : RowId)
deriving DecidableEq, Repr

def Target.cocoonId? : Target → Option RowId
  | .cocoon id => some id
  | .chatGroup _ => none

def Target.chatGroupId? : Target → Option RowId
  | .cocoon _ => none
  | .chatGroup id => some id

/-! ## JSON columns -/

/-- A JSON value as the ORM hands it to the code. -/
inductive JsonValue where
  | null
  | bool (b : Bool)
  | num (n : ℤ)
  | str (s : String)
  | arr (items : List JsonValue)
  | obj (fields : List (String × JsonValue))

/-- A JSON object column, as a Python `dict`: a partial map from field names to values. -/
abbrev JsonDict := String → Option JsonValue

namespace JsonDict

/-- `{}`. -/
def empty : JsonDict := fun _ => none

/-- A dict literal; a later occurrence of a key wins. -/
def ofList (fields : List (String × JsonValue)) : JsonDict :=
  fun k => (fields.reverse.find? fun f => f.1 = k).map Prod.snd

/-- `d[k] = v`. -/
def set (d : JsonDict) (k : String) (v : JsonValue) : JsonDict :=
  fun k' => if k' = k then some v else d k'

/-- `{**d, **e}`. -/
def merge (d e : JsonDict) : JsonDict :=
  fun k => e k <|> d k

/-- The field holds this text. -/
def isStr (d : JsonDict) (k s : String) : Bool :=
  match d k with
  | some (.str t) => t = s
  | _ => false

/-- The field's text, when it holds a nonempty one. -/
def text? (d : JsonDict) (k : String) : Option String :=
  match d k with
  | some (.str t) => if t = "" then none else some t
  | _ => none

@[simp] lemma set_same (d : JsonDict) (k : String) (v : JsonValue) : d.set k v k = some v := by
  simp [set]

lemma set_other (d : JsonDict) {k k' : String} (v : JsonValue) (h : k' ≠ k) :
    d.set k v k' = d k' := by
  simp [set, h]

lemma merge_of_some {d e : JsonDict} {k : String} {v : JsonValue} (h : e k = some v) :
    d.merge e k = some v := by
  simp [merge, h]

lemma merge_of_none {d e : JsonDict} {k : String} (h : e k = none) : d.merge e k = d k := by
  simp [merge, h]

lemma ofList_isSome {fields : List (String × JsonValue)} {k : String} :
    (ofList fields k).isSome ↔ k ∈ fields.map Prod.fst := by
  simp [ofList]

lemma merge_ofList_merge_ofList (d : JsonDict) {fields fields' : List (String × JsonValue)}
    (h : fields.map Prod.fst = fields'.map Prod.fst) :
    (d.merge (ofList fields)).merge (ofList fields') = d.merge (ofList fields') := by
  funext k
  cases hk : ofList fields' k with
  | some v => rw [merge_of_some hk, merge_of_some hk]
  | none =>
    have hk' : ofList fields k = none := by
      rw [← Option.not_isSome_iff_eq_none, ofList_isSome, h, ← ofList_isSome, hk]
      exact Bool.false_ne_true
    rw [merge_of_none hk, merge_of_none hk, merge_of_none hk']

end JsonDict

/-- An optional text as a JSON value. -/
def jsonOfText (s : Option String) : JsonValue :=
  match s with
  | some s => .str s
  | none => .null

/-! ## Enumerations -/

inductive ActionStatus where
  | queued | running | completed | failed
deriving DecidableEq, Repr

inductive DurableJobStatus where
  | queued | running | completed | failed | cancelled
deriving DecidableEq, Repr

inductive EventType where
  | chat | edit | retry | wakeup | pull | merge
deriving DecidableEq, Repr

/-- `Message.role`. -/
inductive MessageRole where
  | user | assistant | system
deriving DecidableEq, Repr

/-! ## Rows -/

/-- `action_dispatches`: one runtime round asked for. -/
structure ActionDispatch where
  id : RowId
  target : Target
  eventType : EventType
  status : ActionStatus := .queued
  clientRequestId : Option String := none
  debounceUntil : Option Timestamp := none
  payloadJson : JsonDict := .empty
  errorText : Option String := none
  queuedAt : Timestamp
  startedAt : Option Timestamp := none
  finishedAt : Option Timestamp := none

/-- `durable_jobs`: one piece of background work.  Its check constraint allows a job without a
target. -/
structure DurableJob where
  id : RowId
  target : Option Target := none
  jobType : String
  status : DurableJobStatus := .queued
  lockKey : String
  payloadJson : JsonDict := .empty
  availableAt : Timestamp
  createdAt : Timestamp
  startedAt : Option Timestamp := none
  finishedAt : Option Timestamp := none
  workerName : Option String := none
  errorText : Option String := none

/-- `wakeup_tasks`: a runtime round planned for `runAt`. -/
structure WakeupTask where
  id : RowId
  target : Target
  runAt : Timestamp
  reason : Option String := none
  payloadJson : JsonDict := .empty
  status : DurableJobStatus := .queued
  cancelledAt : Option Timestamp := none
  createdAt : Timestamp

def DEFAULT_RELATION_SCORE : ℤ := 50
def MIN_RELATION_SCORE : ℤ := 0
def MAX_RELATION_SCORE : ℤ := 100

/-- `session_states`: one row a target, which is its key here (both id columns are unique). -/
structure SessionState where
  target : Target
  relationScore : ℤ := DEFAULT_RELATION_SCORE
  personaJson : JsonDict := .empty
  activeTagsJson : List RowId := []
  currentWakeupTaskId : Option RowId := none

/-- `messages`. -/
structure Message where
  id : RowId
  target : Target
  actionId : Option RowId := none
  clientRequestId : Option String := none
  senderUserId : Option RowId := none
  externalSenderId : Option String := none
  externalSenderDisplayName : Option String := none
  role : MessageRole
  content : String
  isThought : Bool := false
  isRetracted : Bool := false
  retractionNote : Option String := none
  tagsJson : List RowId := []
  createdAt : Timestamp

/-- `message_tags`. -/
structure MessageTag where
  messageId : RowId
  tagId : RowId
deriving DecidableEq, Repr

/-- `memory_chunks`: a long-term memory.  Nothing ties its two target columns together. -/
structure MemoryChunk where
  id : RowId
  cocoonId : Option RowId := none
  chatGroupId : Option RowId := none
  ownerUserId : Option RowId := none
  characterId : Option RowId := none
  sourceMessageId : Option RowId := none
  memoryPool : String := "tree_private"
  memoryType : String := "preference"
  scope : String
  content : String
  summary : Option String := none
  tagsJson : List String := []
  importance : ℤ := 3
  confidence : ℤ := 3
  status : String := "active"
  validUntil : Option Timestamp := none
  lastAccessedAt : Option Timestamp := none
  accessCount : ℤ := 0
  sourceKind : String := "runtime_analysis"
  metaJson : JsonDict := .empty

/-- `memory_tags`. -/
structure MemoryTag where
  memoryChunkId : RowId
  tagId : String
deriving DecidableEq, Repr

/-- `memory_candidates`: what may become a memory when it comes up often enough. -/
structure MemoryCandidate where
  id : RowId
  cocoonId : Option RowId := none
  chatGroupId : Option RowId := none
  ownerUserId : Option RowId := none
  characterId : Option RowId := none
  memoryPool : String := "tree_private"
  memoryType : String := "preference"
  summary : Option String := none
  content : String
  tagsJson : List String := []
  importance : ℤ := 2
  confidence : ℤ := 2
  hitCount : ℤ := 1
  firstSeenAt : Timestamp
  lastSeenAt : Timestamp
  validUntil : Option Timestamp := none
  metaJson : JsonDict := .empty

/-- `tag_registry`: a tag of a user; `tagId` is its name. -/
structure TagRegistry where
  id : RowId
  ownerUserId : RowId
  tagId : String
  brief : String
  visibility : String := "private"
  isIsolated : Bool := false
  isSystem : Bool := false
  isHidden : Bool := false
  metaJson : JsonDict := .empty

/-- `cocoon_tag_bindings` and `chat_group_tag_bindings`: the tag is bound to the target. -/
structure TagBinding where
  target : Target
  tagId : RowId
  createdAt : Timestamp
deriving DecidableEq, Repr

/-- `cocoons`. -/
structure Cocoon where
  id : RowId
  parentId : Option RowId := none
  ownerUserId : RowId
  characterId : RowId
  maxContextMessages : ℤ := 12
  autoCompactionEnabled : Bool := true
  contextStartMessageId : Option RowId := none
  rollbackAnchorMsgId : Option RowId := none
  name : String := ""
  selectedModelId : RowId := ""
  defaultTemperature : Rat := 7 / 10
  memoryProfile : String := "meta_reply"

/-- `checkpoints`: a place in a cocoon's history to roll back to. -/
structure Checkpoint where
  id : RowId
  cocoonId : RowId
  anchorMessageId : RowId
  isActive : Bool := true

/-- `failed_rounds`. -/
structure FailedRound where
  id : RowId
  target : Target
  actionId : Option RowId := none
  eventType : String := "unknown"
  reason : String

/-- `audit_runs`: the trace of a round or a job.  Its two target columns may both be empty. -/
structure AuditRun where
  id : RowId
  target : Option Target := none
  actionId : Option RowId := none
  operationType : String
  status : ActionStatus := .running
  finishedAt : Option Timestamp := none

/-- `chat_group_rooms`. -/
structure ChatGroupRoom where
  id : RowId
  ownerUserId : RowId
  characterId : RowId
  maxContextMessages : ℤ := 12

instance : Keyed ActionDispatch RowId := ⟨ActionDispatch.id⟩
instance : Keyed DurableJob RowId := ⟨DurableJob.id⟩
instance : Keyed WakeupTask RowId := ⟨WakeupTask.id⟩
instance : Keyed SessionState Target := ⟨SessionState.target⟩
instance : Keyed Message RowId := ⟨Message.id⟩
instance : Keyed MemoryChunk RowId := ⟨MemoryChunk.id⟩
instance : Keyed MemoryCandidate RowId := ⟨MemoryCandidate.id⟩
instance : Keyed TagRegistry RowId := ⟨TagRegistry.id⟩
instance : Keyed Cocoon RowId := ⟨Cocoon.id⟩
instance : Keyed Checkpoint RowId := ⟨Checkpoint.id⟩
instance : Keyed ChatGroupRoom RowId := ⟨ChatGroupRoom.id⟩
instance : Keyed FailedRound RowId := ⟨FailedRound.id⟩
instance : Keyed AuditRun RowId := ⟨AuditRun.id⟩

@[simp] lemma key_actionDispatch (r : ActionDispatch) : key r = r.id := rfl

@[simp] lemma key_durableJob (r : DurableJob) : key r = r.id := rfl

@[simp] lemma key_wakeupTask (r : WakeupTask) : key r = r.id := rfl

@[simp] lemma key_sessionState (r : SessionState) : key r = r.target := rfl

@[simp] lemma key_message (r : Message) : key r = r.id := rfl

@[simp] lemma key_memoryChunk (r : MemoryChunk) : key r = r.id := rfl

@[simp] lemma key_cocoon (r : Cocoon) : key r = r.id := rfl

@[simp] lemma key_checkpoint (r : Checkpoint) : key r = r.id := rfl

@[simp] lemma key_auditRun (r : AuditRun) : key r = r.id := rfl

@[simp] lemma key_tagRegistry (r : TagRegistry) : key r = r.id := rfl

/-! ## The database -/

/-- The committed tables. -/
structure Db where
  actions : List ActionDispatch := []
  jobs : List DurableJob := []
  wakeupTasks : List WakeupTask := []
  sessionStates : List SessionState := []
  messages : List Message := []
  messageTags : List MessageTag := []
  memories : List MemoryChunk := []
  memoryTags : List MemoryTag := []
  memoryCandidates : List MemoryCandidate := []
  tags : List TagRegistry := []
  tagBindings : List TagBinding := []
  cocoons : List Cocoon := []
  checkpoints : List Checkpoint := []
  failedRounds : List FailedRound := []
  auditRuns : List AuditRun := []
  rooms : List ChatGroupRoom := []
  /-- The keys of `users`. -/
  users : List RowId := []

end CocoonSit
