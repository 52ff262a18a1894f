import CocoonSit.Memory.Ranking
import CocoonSit.Runtime.WakeupHints

/-!
# Time limits

The model gives facts, memories and the task state a time up to which they are good, as a text.
`_parse_timestamp` drops the offset from it, where the scheduler converts to UTC, and a text that it
cannot read sets no limit at all.  The queries compare with a UTC clock; the task state is handed
out without a look at its time.
-/

namespace CocoonSit.TimeLimits

open Table SchedulerNode Ranking

/-! ## Texts -/

/-- `value.replace("Z", "+00:00")`. -/
def replaceZ (value : String) : String :=
  String.ofList (value.toList.flatMap fun c => if c = 'Z' then "+00:00".toList else [c])

example : replaceZ "2026-05-01T10:00:00Z" = "2026-05-01T10:00:00+00:00" := by decide

/-- A time ends in `Z`, or has none. -/
def ZOnlyLast (value : String) : Prop := 'Z' ∉ value.toList.dropLast

/-- A `Z` at the end says the same as `+00:00`. -/
def ReadsZ (fromisoformat : String → Except String IsoDatetime) : Prop :=
  ∀ value, (fromisoformat (value ++ "Z")).toOption = (fromisoformat (value ++ "+00:00")).toOption

section Reading

variable (fromisoformat : String → Except String IsoDatetime)

/-- What a text from the model is read as. -/
def reading (raw : String) : Option IsoDatetime :=
  (fromisoformat (replaceZ (strip raw))).toOption

/-- The text functions that go with a `fromisoformat`. -/
def textFunctions (casefold : String → String) : TextFunctions where
  casefold := casefold
  fromisoformat := fun value =>
    (fromisoformat (replaceZ value)).toOption.map fun parsed => parsed.naive.micros

end Reading

/-! ## The fact cache -/

/-- `FactCacheOperation.op`. -/
inductive FactCacheOpKind where
  | upsert | delete
deriving DecidableEq, Repr

structure FactCacheOperation where
  op : FactCacheOpKind
  cacheKey : String
  content : String := ""
  summary : Option String := none
  validUntil : Option String := none
  metaJson : JsonDict := .empty

/-- `fact_cache_entries`. -/
structure FactCacheEntry where
  id : RowId
  target : Target
  cacheKey : String
  content : String
  summary : Option String := none
  validUntil : Option Timestamp := none
  metaJson : JsonDict := .empty
  lastAccessedAt : Timestamp
  updatedAt : Timestamp

def FactCacheEntry.isFor (target : Target) (cacheKey : String) (e : FactCacheEntry) : Bool :=
  e.cacheKey = cacheKey && e.target = target

/-- The first row found is changed; if there is none, a new one comes at the end. -/
def upsertFirst {ρ : Type*} (p : ρ → Bool) (f : ρ → ρ) (new : ρ) : List ρ → List ρ
  | [] => [new]
  | r :: rs => if p r then f r :: rs else r :: upsertFirst p f new rs

/-- The id and the time of a write. -/
structure Draw where
  id : RowId
  now : Timestamp

def upsertFactCacheEntry (target : Target) (op : FactCacheOperation)
    (validUntil : Option Timestamp) (draw : Draw) (entries : List FactCacheEntry) :
    List FactCacheEntry :=
  upsertFirst (FactCacheEntry.isFor target op.cacheKey)
    (fun item =>
      { item with
        content := op.content
        summary := op.summary
        validUntil := validUntil
        metaJson := op.metaJson
        lastAccessedAt := draw.now
        updatedAt := draw.now })
    { id := draw.id
      target := target
      cacheKey := op.cacheKey
      content := op.content
      summary := op.summary
      validUntil := validUntil
      metaJson := op.metaJson
      lastAccessedAt := draw.now
      updatedAt := draw.now }
    entries

def deleteFactCacheEntry (target : Target) (cacheKey : String) (entries : List FactCacheEntry) :
    List FactCacheEntry :=
  entries.filter fun e => !e.isFor target cacheKey

/-- One turn of the loop of `apply_fact_cache_ops`. -/
def applyFactCacheOp (text : TextFunctions) (target : Target) (entries : List FactCacheEntry)
    (op : FactCacheOperation × Draw) : List FactCacheEntry :=
  match op.1.op with
  | .delete => deleteFactCacheEntry target op.1.cacheKey entries
  | .upsert =>
    upsertFactCacheEntry target op.1 (parseTimestamp text op.1.validUntil) op.2 entries

/-- `apply_fact_cache_ops`, with the keys it returns. -/
def applyFactCacheOps (text : TextFunctions) (target : Target)
    (ops : List (FactCacheOperation × Draw)) (entries : List FactCacheEntry) :
    List FactCacheEntry × List String :=
  (ops.foldl (applyFactCacheOp text target) entries, ops.map fun op => op.1.cacheKey)

def listFactCacheEntries (entries : List FactCacheEntry) (target : Target) (limit : ℕ)
    (now : Timestamp) : List FactCacheEntry :=
  (orderBy (fun e => OrderDual.toDual e.updatedAt) (entries.filter fun e =>
    (e.validUntil.all fun validUntil => now ≤ validUntil) && e.target = target)).take limit

/-! ## The task state -/

/-- `target_task_states`. -/
structure TargetTaskState where
  id : RowId
  target : Target
  taskName : Option String := none
  goal : Option String := none
  progress : Option String := none
  status : String := "active"
  metaJson : JsonDict := .empty
  expiresAt : Option Timestamp := none
  completedAt : Option Timestamp := none

/-- `TaskStateUpdateModel`. -/
structure TaskStateUpdate where
  taskName : Option String := none
  goal : Option String := none
  progress : Option String := none
  status : Option String := none
  expiresAt : Option String := none
  completed : Bool := false
  metaJson : JsonDict := .empty

/-- What an update writes into the row. -/
def TaskStateUpdate.write (text : TextFunctions) (payload : TaskStateUpdate) (now : Timestamp)
    (state : TargetTaskState) : TargetTaskState :=
  { state with
    taskName := payload.taskName.or state.taskName
    goal := payload.goal.or state.goal
    progress := payload.progress.or state.progress
    status := if payload.completed then "completed" else payload.status.getD state.status
    metaJson := state.metaJson.merge payload.metaJson
    completedAt := if payload.completed then some now else state.completedAt
    expiresAt := (parseTimestamp text payload.expiresAt).or state.expiresAt }

def applyTaskStatePatch (text : TextFunctions) (target : Target) (payload : TaskStateUpdate)
    (draw : Draw) (states : List TargetTaskState) : List TargetTaskState :=
  upsertFirst (fun s => s.target = target) (payload.write text draw.now)
    (payload.write text draw.now { id := draw.id, target := target }) states

def getTargetTaskState (states : List TargetTaskState) (target : Target) :
    Option TargetTaskState :=
  states.find? fun s => s.target = target

/-! ## Good until -/

/-- What is stored and handed out for a text: the instant that the text names, in UTC and as the
scheduler has it; up to that instant and not after; and not for ever, if the text cannot be
read. -/
structure GoodUntil (fromisoformat : String → Except String IsoDatetime) (raw : String)
    (stored : Option Timestamp) (offered : Timestamp → Prop) : Prop where
  instant : ∀ parsed, reading fromisoformat raw = some parsed →
    stored.map Int.ofNat = some parsed.instant
  upTo : ∀ parsed, reading fromisoformat raw = some parsed →
    ∀ now : Timestamp, offered now ↔ (now : ℤ) ≤ parsed.instant
  asScheduled : ZOnlyLast (strip raw) → ∀ now runAt,
    resolveRunAt fromisoformat now { runAt := some (strip raw) } = .ok runAt →
      stored = some runAt.micros
  limited : reading fromisoformat raw = none → ∃ now, ¬ offered now

/-- The text can be read, and what it says is in UTC. -/
def InUtc (fromisoformat : String → Except String IsoDatetime) (raw : String) : Prop :=
  ∃ parsed, reading fromisoformat raw = some parsed ∧ parsed.utcoffset.getD 0 = 0

section Parsing

variable {fromisoformat : String → Except String IsoDatetime} {casefold : String → String}
  {raw : String} {stored : Option Timestamp} {offered : Timestamp → Prop}

lemma replaceZ_of_notMem {value : String} (h : 'Z' ∉ value.toList) : replaceZ value = value := by
  have hself : (value.toList.flatMap fun c => if c = 'Z' then "+00:00".toList else [c]) =
      value.toList := by
    generalize value.toList = cs at h
    induction cs with
    | nil => rfl
    | cons c cs ih =>
      rw [List.mem_cons, not_or] at h
      rw [List.flatMap_cons, if_neg (Ne.symm h.1), ih h.2, List.singleton_append]
  rw [replaceZ, hself, String.ofList_toList]

lemma replaceZ_append (value rest : String) :
    replaceZ (value ++ rest) = replaceZ value ++ replaceZ rest := by
  simp only [replaceZ, String.toList_append, List.flatMap_append, String.ofList_append]

lemma ZOnlyLast.cases {value : String} (h : ZOnlyLast value) :
    'Z' ∉ value.toList ∨ ∃ init : String, 'Z' ∉ init.toList ∧ value = init ++ "Z" := by
  by_cases hmem : 'Z' ∈ value.toList
  · refine .inr ⟨String.ofList value.toList.dropLast, by rwa [String.toList_ofList], ?_⟩
    have hne : value.toList ≠ [] := List.ne_nil_of_mem hmem
    have hsplit := List.dropLast_append_getLast hne
    have hlast : value.toList.getLast hne = 'Z' := by
      rw [← hsplit, List.mem_append, List.mem_singleton] at hmem
      exact (hmem.resolve_left h).symm
    rw [hlast] at hsplit
    rw [← String.toList_inj, String.toList_append, String.toList_ofList]
    exact hsplit.symm
  · exact .inl hmem

lemma toOption_replaceZ (hz : ReadsZ fromisoformat) {value : String} (h : ZOnlyLast value) :
    (fromisoformat (replaceZ value)).toOption = (fromisoformat value).toOption := by
  obtain hmem | ⟨init, hinit, rfl⟩ := h.cases
  · rw [replaceZ_of_notMem hmem]
  · have hlast : replaceZ "Z" = "+00:00" := by decide
    rw [replaceZ_append, replaceZ_of_notMem hinit, hlast, hz]

lemma micros_of_toUtc {parsed : IsoDatetime} {t : Datetime} (hzero : parsed.utcoffset.getD 0 = 0)
    (h : parsed.toUtc = .ok t) : t.micros = parsed.naive.micros := by
  unfold IsoDatetime.toUtc at h
  cases hoffset : parsed.utcoffset with
  | none =>
    rw [hoffset] at h
    cases h
    rfl
  | some offset =>
    rw [hoffset, Option.getD_some] at hzero
    simp only [hoffset, hzero, sub_zero, Datetime.ofInstant] at h
    split at h
    · cases h
      exact Int.toNat_natCast _
    · cases h

lemma parseTimestamp_eq (hraw : strip raw ≠ "") :
    parseTimestamp (textFunctions fromisoformat casefold) (some raw) =
      (reading fromisoformat raw).map fun parsed => parsed.naive.micros := by
  simp only [parseTimestamp, Option.bind_some, stripOrNone, if_neg hraw, textFunctions, reading]

lemma goodUntil_iff (hz : ReadsZ fromisoformat) (hraw : strip raw ≠ "")
    (hstored : stored = parseTimestamp (textFunctions fromisoformat casefold) (some raw))
    (hoffered : ∀ now, offered now ↔ stored.all fun validUntil => now ≤ validUntil) :
    GoodUntil fromisoformat raw stored offered ↔ InUtc fromisoformat raw := by
  rw [parseTimestamp_eq hraw] at hstored
  constructor
  · rintro ⟨hinstant, -, -, hlimited⟩
    cases hread : reading fromisoformat raw with
    | none =>
      obtain ⟨now, hnow⟩ := hlimited hread
      refine absurd ((hoffered now).mpr ?_) hnow
      rw [hstored, hread]
      rfl
    | some parsed =>
      refine ⟨parsed, hread, ?_⟩
      have hsame := hinstant parsed hread
      rw [hstored, hread] at hsame
      simp only [Option.map_some, Option.some.injEq, IsoDatetime.instant] at hsame
      have hcast : Int.ofNat parsed.naive.micros = (parsed.naive.micros : ℤ) := rfl
      omega
  · rintro ⟨parsed, hread, hzero⟩
    have hsome : stored = some parsed.naive.micros := by rw [hstored, hread, Option.map_some]
    have hutc : parsed.instant = parsed.naive.micros := by
      rw [IsoDatetime.instant, hzero, sub_zero]
    refine ⟨?_, ?_, ?_, fun hnone => by rw [hread] at hnone; cases hnone⟩
    · intro parsed' h
      obtain rfl := Option.some.inj (hread.symm.trans h)
      rw [hsome, hutc]
      rfl
    · intro parsed' h now
      obtain rfl := Option.some.inj (hread.symm.trans h)
      rw [hoffered, hsome, hutc, Option.all_some, decide_eq_true_eq, Int.ofNat_le]
    · intro hlast now runAt hrun
      have hparsed : fromisoformat (strip raw) = .ok parsed := by
        have hoption := toOption_replaceZ hz hlast
        rw [← reading, hread] at hoption
        cases hiso : fromisoformat (strip raw) with
        | error text =>
          rw [hiso] at hoption
          cases hoption
        | ok parsed' =>
          rw [hiso] at hoption
          cases hoption
          rfl
      have hnonempty : nonempty (some (strip raw)) = some (strip raw) := by
        simp [nonempty, hraw]
      simp only [resolveRunAt, hnonempty, hparsed] at hrun
      rw [hsome]
      exact congrArg some (micros_of_toUtc hzero hrun).symm

end Parsing

/-! ## What becomes of a row -/

section Rows

variable {ρ : Type*} {p q : ρ → Bool} {f : ρ → ρ} {new : ρ} {rows : List ρ}

lemma find?_upsertFirst (hf : ∀ r, p r = true → p (f r) = true) (hnew : p new = true) :
    (upsertFirst p f new rows).find? p = some ((rows.find? p).elim new f) := by
  induction rows with
  | nil => simp [upsertFirst, hnew]
  | cons r rows ih =>
    by_cases hr : p r = true
    · simp [upsertFirst, hr, hf r hr]
    · rw [upsertFirst, if_neg hr, List.find?_cons_of_neg hr, List.find?_cons_of_neg hr, ih]

lemma find?_upsertFirst_other (hf : ∀ r, p r = true → q r = false ∧ q (f r) = false)
    (hnew : q new = false) : (upsertFirst p f new rows).find? q = rows.find? q := by
  induction rows with
  | nil => simp [upsertFirst, hnew]
  | cons r rows ih =>
    by_cases hr : p r = true
    · simp [upsertFirst, hr, hf r hr]
    · rw [upsertFirst, if_neg hr]
      by_cases hq : q r = true
      · rw [List.find?_cons_of_pos hq, List.find?_cons_of_pos hq]
      · rw [List.find?_cons_of_neg hq, List.find?_cons_of_neg hq, ih]

end Rows

section Facts

variable {text : TextFunctions} {target : Target} {entries : List FactCacheEntry}
  {op : FactCacheOperation × Draw} {cacheKey : String}

lemma isFor_other {e : FactCacheEntry} (hne : op.1.cacheKey ≠ cacheKey)
    (h : e.isFor target op.1.cacheKey = true) : e.isFor target cacheKey = false := by
  simp only [FactCacheEntry.isFor, Bool.and_eq_true, decide_eq_true_eq] at h
  simp [FactCacheEntry.isFor, h.1, hne]

lemma find?_applyFactCacheOp_other (hne : op.1.cacheKey ≠ cacheKey) :
    (applyFactCacheOp text target entries op).find? (FactCacheEntry.isFor target cacheKey) =
      entries.find? (FactCacheEntry.isFor target cacheKey) := by
  unfold applyFactCacheOp
  cases op.1.op with
  | delete =>
    dsimp only [deleteFactCacheEntry]
    rw [List.find?_filter]
    refine congrArg (entries.find? ·) (funext fun e => ?_)
    cases h : e.isFor target op.1.cacheKey with
    | false => simp
    | true => simp [isFor_other hne h]
  | upsert =>
    refine find?_upsertFirst_other (fun e h => ?_) ?_
    · have hother := isFor_other hne h
      exact ⟨hother, hother⟩
    · simp [FactCacheEntry.isFor, hne]

lemma find?_applyFactCacheOp (hop : op.1.op = .upsert) :
    ∃ e, (applyFactCacheOp text target entries op).find?
        (FactCacheEntry.isFor target op.1.cacheKey) = some e ∧
      e.validUntil = parseTimestamp text op.1.validUntil := by
  simp only [applyFactCacheOp, hop, upsertFactCacheEntry]
  rw [find?_upsertFirst (by exact fun _ h => h) (by simp [FactCacheEntry.isFor])]
  cases entries.find? (FactCacheEntry.isFor target op.1.cacheKey) with
  | none => exact ⟨_, rfl, rfl⟩
  | some item => exact ⟨_, rfl, rfl⟩

lemma find?_applyFactCacheOps (text : TextFunctions) (target : Target)
    (entries : List FactCacheEntry) (before after : List (FactCacheOperation × Draw))
    (hop : op.1.op = .upsert) (hafter : ∀ later ∈ after, later.1.cacheKey ≠ op.1.cacheKey) :
    ∃ e, (applyFactCacheOps text target (before ++ op :: after) entries).1.find?
        (FactCacheEntry.isFor target op.1.cacheKey) = some e ∧
      e.validUntil = parseTimestamp text op.1.validUntil := by
  rw [applyFactCacheOps, List.foldl_append, List.foldl_cons]
  generalize before.foldl (applyFactCacheOp text target) entries = entries'
  have hkeep : ∀ rows, (after.foldl (applyFactCacheOp text target) rows).find?
      (FactCacheEntry.isFor target op.1.cacheKey) =
        rows.find? (FactCacheEntry.isFor target op.1.cacheKey) := by
    induction after with
    | nil => exact fun _ => rfl
    | cons later after ih =>
      intro rows
      rw [List.foldl_cons, ih fun o ho => hafter o (List.mem_cons_of_mem _ ho)]
      exact find?_applyFactCacheOp_other (hafter later List.mem_cons_self)
  rw [hkeep]
  exact find?_applyFactCacheOp hop

lemma mem_listFactCacheEntries {e : FactCacheEntry} {now : Timestamp} :
    (∃ limit, e ∈ listFactCacheEntries entries target limit now) ↔
      e ∈ entries ∧ (e.validUntil.all fun validUntil => now ≤ validUntil) = true ∧
        e.target = target := by
  constructor
  · rintro ⟨limit, h⟩
    have hmem := mem_orderBy.mp (List.mem_of_mem_take h)
    simpa only [List.mem_filter, Bool.and_eq_true, decide_eq_true_eq] using hmem
  · intro h
    refine ⟨(orderBy (fun e : FactCacheEntry => OrderDual.toDual e.updatedAt)
      (entries.filter fun e =>
        (e.validUntil.all fun validUntil => now ≤ validUntil) && e.target = target)).length, ?_⟩
    rw [listFactCacheEntries, List.take_length, mem_orderBy, List.mem_filter, Bool.and_eq_true,
      decide_eq_true_eq]
    exact h

end Facts

/-! ## What is good until the time the model gave -/

/-- A memory that a query finds as long as it is good. -/
def FoundBy (db : Db) (q : Query) (m : MemoryChunk) : Prop :=
  m ∈ db.memories ∧ m.status = "active" ∧ visibilityFilter db q.target q.ownerUserId m = true ∧
    (q.scopes.isEmpty || m.scope ∈ q.scopes) = true

lemma mem_matchingMemories {db : Db} {q : Query} {m : MemoryChunk} (h : FoundBy db q m)
    (now : Timestamp) :
    m ∈ matchingMemories db q now ↔
      (m.validUntil.all fun validUntil => now ≤ validUntil) = true := by
  obtain ⟨hmem, hactive, hvisible, hscope⟩ := h
  simp [matchingMemories, List.mem_filter, hmem, hactive, hvisible, hscope]

/-- The memory that an operation creates, or the memory it makes of one that is there. -/
def WrittenBy (text : TextFunctions) (ctx : MemoryContext) (op : MemoryOperation)
    (m : MemoryChunk) : Prop :=
  (∃ ownerUserId memoryId, m = op.sign ctx (op.toMemory text ctx ownerUserId memoryId)) ∨
    ∃ memory, m = op.sign ctx (op.update text ctx memory)

lemma validUntil_of_writtenBy {text : TextFunctions} {ctx : MemoryContext} {op : MemoryOperation}
    {m : MemoryChunk} (h : WrittenBy text ctx op m) :
    m.validUntil = parseTimestamp text op.validUntil := by
  obtain ⟨ownerUserId, memoryId, rfl⟩ | ⟨memory, rfl⟩ := h
  · simp only [MemoryOperation.sign, MemoryOperation.toMemory]
  · simp only [MemoryOperation.sign, MemoryOperation.update]

lemma getTargetTaskState_applyTaskStatePatch (text : TextFunctions) (target : Target)
    (payload : TaskStateUpdate) (draw : Draw) (states : List TargetTaskState) :
    ∃ state, getTargetTaskState (applyTaskStatePatch text target payload draw states) target =
      some state := by
  rw [getTargetTaskState, applyTaskStatePatch, find?_upsertFirst (by exact fun _ h => h)
    (by exact decide_eq_true rfl)]
  exact ⟨_, rfl⟩

lemma not_goodUntil_of_always {fromisoformat : String → Except String IsoDatetime} {raw : String}
    {stored : Option Timestamp} {offered : Timestamp → Prop} (h : ∀ now, offered now) :
    ¬ GoodUntil fromisoformat raw stored offered := by
  rintro ⟨-, hupTo, -, hlimited⟩
  cases hread : reading fromisoformat raw with
  | none =>
    obtain ⟨now, hnow⟩ := hlimited hread
    exact hnow (h now)
  | some parsed =>
    have hle := (hupTo parsed hread (parsed.instant.toNat + 1)).mp (h _)
    have hself := Int.self_le_toNat parsed.instant
    push_cast at hle
    omega

/-- A fact or a memory is good until the time that the model gave for it exactly when that time can
be read and is in UTC; the task state is handed out whatever time was given for it. -/
theorem goodUntil_iff_inUtc (fromisoformat : String → Except String IsoDatetime)
    (hz : ReadsZ fromisoformat) (casefold : String → String) (raw : String)
    (hraw : strip raw ≠ "") :
    let text := textFunctions fromisoformat casefold
    (∀ target entries before after, ∀ op : FactCacheOperation × Draw, op.1.op = .upsert →
      op.1.validUntil = some raw → (∀ later ∈ after, later.1.cacheKey ≠ op.1.cacheKey) →
      let entries' := (applyFactCacheOps text target (before ++ op :: after) entries).1
      ∃ entry, entries'.find? (FactCacheEntry.isFor target op.1.cacheKey) = some entry ∧
        (GoodUntil fromisoformat raw entry.validUntil
            (fun now => ∃ limit, entry ∈ listFactCacheEntries entries' target limit now) ↔
          InUtc fromisoformat raw)) ∧
    (∀ ctx op m db q, op.validUntil = some raw → WrittenBy text ctx op m → FoundBy db q m →
      (GoodUntil fromisoformat raw m.validUntil (fun now => m ∈ matchingMemories db q now) ↔
        InUtc fromisoformat raw)) ∧
    ∀ target states payload draw, payload.expiresAt = some raw →
      let states' := applyTaskStatePatch text target payload draw states
      ∃ state, getTargetTaskState states' target = some state ∧
        ¬ GoodUntil fromisoformat raw state.expiresAt
          fun _ => getTargetTaskState states' target = some state := by
  intro text
  refine ⟨?_, ?_, ?_⟩
  · intro target entries before after op hop huntil hafter entries'
    obtain ⟨entry, hfind, hvalid⟩ := find?_applyFactCacheOps text target entries before after
      hop hafter
    rw [huntil] at hvalid
    have htarget : entry.target = target := by
      have hfor := List.find?_some hfind
      simp only [FactCacheEntry.isFor, Bool.and_eq_true, decide_eq_true_eq] at hfor
      exact hfor.2
    refine ⟨entry, hfind, goodUntil_iff hz hraw hvalid fun now => ?_⟩
    rw [mem_listFactCacheEntries]
    exact ⟨fun h => h.2.1, fun h => ⟨List.mem_of_find?_eq_some hfind, h, htarget⟩⟩
  · intro ctx op m db q huntil hwritten hfound
    have hvalid := validUntil_of_writtenBy hwritten
    rw [huntil] at hvalid
    exact goodUntil_iff hz hraw hvalid fun now => mem_matchingMemories hfound now
  · intro target states payload draw _ states'
    obtain ⟨state, hstate⟩ :=
      getTargetTaskState_applyTaskStatePatch text target payload draw states
    exact ⟨state, hstate, not_goodUntil_of_always fun _ => hstate⟩

/-! ## Ten o'clock in Shanghai -/

/-- The first of May 2026, 10:00. -/
def tenOClock : Datetime := ⟨63913226400000000, by decide⟩

/-- `datetime.fromisoformat` on three texts. -/
def readTen (value : String) : Except String IsoDatetime :=
  if value = "2026-05-01T10:00:00Z" ∨ value = "2026-05-01T10:00:00+00:00" then
    .ok ⟨tenOClock, some 0⟩
  else if value = "2026-05-01T10:00:00+08:00" then .ok ⟨tenOClock, some 28800000000⟩
  else .error ("Invalid isoformat string: " ++ value)

lemma append_eq_append_iff_of_length (value base s t : String)
    (hlength : s.toList.length = t.toList.length) :
    value ++ s = base ++ t ↔ value = base ∧ s = t := by
  constructor
  · intro h
    rw [← String.toList_inj, String.toList_append, String.toList_append] at h
    obtain ⟨hvalue, hend⟩ := List.append_inj' h hlength
    exact ⟨String.toList_inj.mp hvalue, String.toList_inj.mp hend⟩
  · rintro ⟨rfl, rfl⟩
    rfl

lemma readsZ_readTen : ReadsZ readTen := by
  intro value
  have hz : value ++ "Z" = "2026-05-01T10:00:00Z" ↔ value = "2026-05-01T10:00:00" := by
    simpa using append_eq_append_iff_of_length value "2026-05-01T10:00:00" "Z" "Z" rfl
  have hz' : value ++ "Z" ≠ "2026-05-01T10:00:00+00:00" := by
    simpa using append_eq_append_iff_of_length value "2026-05-01T10:00:00+00:0" "Z" "0" rfl
  have hz'' : value ++ "Z" ≠ "2026-05-01T10:00:00+08:00" := by
    simpa using append_eq_append_iff_of_length value "2026-05-01T10:00:00+08:0" "Z" "0" rfl
  have ho : value ++ "+00:00" ≠ "2026-05-01T10:00:00Z" := by
    simpa using append_eq_append_iff_of_length value "2026-05-01T10:" "+00:00" "00:00Z" (by simp)
  have ho' : value ++ "+00:00" = "2026-05-01T10:00:00+00:00" ↔ value = "2026-05-01T10:00:00" := by
    simpa using append_eq_append_iff_of_length value "2026-05-01T10:00:00" "+00:00" "+00:00" rfl
  have ho'' : value ++ "+00:00" ≠ "2026-05-01T10:00:00+08:00" := by
    simpa using append_eq_append_iff_of_length value "2026-05-01T10:00:00" "+00:00" "+08:00"
      (by simp)
  simp only [readTen, hz, hz', hz'', ho, ho', ho'', or_false, false_or, if_false]
  split <;> rfl

/-- A fact that is good until ten o'clock. -/
def goodUntilTen (validUntil : String) : FactCacheOperation × Draw :=
  ({ op := .upsert, cacheKey := "weather", validUntil := some validUntil }, ⟨"f1", 0⟩)

/-- With the time in UTC, the fact is good until then. -/
theorem goodUntil_iff_inUtc_ten :
    let entries := (applyFactCacheOps (textFunctions readTen id) (.cocoon "c1")
      ([] ++ goodUntilTen "2026-05-01T10:00:00Z" :: []) []).1
    ∃ entry, entries.find? (FactCacheEntry.isFor (.cocoon "c1") "weather") = some entry ∧
      GoodUntil readTen "2026-05-01T10:00:00Z" entry.validUntil
        fun now => ∃ limit, entry ∈ listFactCacheEntries entries (.cocoon "c1") limit now := by
  obtain ⟨entry, hfind, hgood⟩ := (goodUntil_iff_inUtc readTen readsZ_readTen id
    "2026-05-01T10:00:00Z" (by decide)).1 (.cocoon "c1") [] [] []
      (goodUntilTen "2026-05-01T10:00:00Z") rfl rfl (fun _ h => by cases h)
  exact ⟨entry, hfind, hgood.mpr ⟨⟨tenOClock, some 0⟩, rfl, rfl⟩⟩

/-- With the time in Shanghai, the fact is handed out for eight hours more. -/
theorem shanghai_not_goodUntil :
    ¬ ∀ (fromisoformat : String → Except String IsoDatetime) (casefold : String → String)
      (raw : String), ReadsZ fromisoformat → strip raw ≠ "" →
      ∀ target entries before after, ∀ op : FactCacheOperation × Draw, op.1.op = .upsert →
      op.1.validUntil = some raw → (∀ later ∈ after, later.1.cacheKey ≠ op.1.cacheKey) →
      let entries' := (applyFactCacheOps (textFunctions fromisoformat casefold) target
        (before ++ op :: after) entries).1
      ∃ entry, entries'.find? (FactCacheEntry.isFor target op.1.cacheKey) = some entry ∧
        GoodUntil fromisoformat raw entry.validUntil
          fun now => ∃ limit, entry ∈ listFactCacheEntries entries' target limit now := by
  intro h
  obtain ⟨entry, hfind, hgood⟩ := h readTen id "2026-05-01T10:00:00+08:00" readsZ_readTen
    (by decide) (.cocoon "c1") [] [] [] (goodUntilTen "2026-05-01T10:00:00+08:00") rfl rfl
    (fun _ h => by cases h)
  obtain ⟨entry', hfind', hvalid⟩ := @find?_applyFactCacheOps
    (goodUntilTen "2026-05-01T10:00:00+08:00") (textFunctions readTen id) (.cocoon "c1") [] [] []
    rfl (fun _ h => by cases h)
  obtain rfl := Option.some.inj (hfind.symm.trans hfind')
  have hinstant := hgood.instant ⟨tenOClock, some 28800000000⟩ rfl
  rw [hvalid] at hinstant
  exact absurd hinstant (by decide +kernel)

end CocoonSit.TimeLimits
