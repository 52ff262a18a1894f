import CocoonSit.Lib.Buckets
import CocoonSit.Lib.Collect
import CocoonSit.Lib.Rounding
import CocoonSit.Lib.Traverse
import CocoonSit.Runtime.WakeupHints
import CocoonSit.Security.Authorization
import CocoonSit.Wakeup.Provenance
import Mathlib.Algebra.BigOperators.Ring.Finset
import Mathlib.Algebra.Field.Rat
import Mathlib.Algebra.Order.BigOperators.Group.List

/-!
# The dashboard

`InsightQueryService.dashboard` counts the runs, artifacts, memories and messages of a window of
time that the user may see, and breaks the counts down: by hour or day, by provider, by model, by
operation.  The values of the series are floats; the other counts are integers.  The averages,
rates, latencies and rankings, and the decisions, which are read from stored artifacts, are left
out.
-/

namespace CocoonSit

open Table Buckets Rounding Traverse

namespace Insights

/-! ## Rows -/

/-- `audit_runs`, with the column `started_at`. -/
structure InsightRun where
  run : AuditRun
  startedAt : Timestamp

/-- `audit_artifacts`. -/
structure AuditArtifact where
  runId : RowId
  kind : String
  createdAt : Timestamp
  metadataJson : JsonDict := .empty

/-- `memory_chunks`, with the column `created_at`. -/
structure InsightMemory where
  memory : MemoryChunk
  createdAt : Timestamp

/-- The tables that the dashboard reads. -/
structure InsightTables where
  cocoons : List Cocoon := []
  rooms : List ChatGroupRoom := []
  members : List ChatGroupMember := []
  runs : List InsightRun := []
  artifacts : List AuditArtifact := []
  memories : List InsightMemory := []
  messages : List Message := []
  wakeupTasks : List WakeupTask := []

/-! ## The window -/

inductive InsightsRange where
  | hours24
  | days7
  | days30
  | days90

inductive ResolvedInsightsInterval where
  | hour
  | day

/-- `DashboardWindow`, in microseconds. -/
structure DashboardWindow where
  interval : ResolvedInsightsInterval
  start : ℤ
  stop : ℤ

def InsightsRange.delta : InsightsRange → ℤ
  | .hours24 => 86400000000
  | .days7 => 7 * 86400000000
  | .days30 => 30 * 86400000000
  | .days90 => 90 * 86400000000

/-- `_resolve_window`; there is no interval for `"auto"`. -/
def resolveWindow (range : InsightsRange) (interval : Option ResolvedInsightsInterval)
    (now : Timestamp) : DashboardWindow where
  interval := interval.getD <| match range with
    | .hours24 => .hour
    | _ => .day
  start := now - range.delta
  stop := now

def inWindow (value : Timestamp) (window : DashboardWindow) : Bool :=
  window.start ≤ value && value ≤ window.stop

/-- The `timedelta` from one bucket to the next. -/
def ResolvedInsightsInterval.step : ResolvedInsightsInterval → ℤ
  | .hour => 3600000000
  | .day => 86400000000

lemma ResolvedInsightsInterval.step_pos (interval : ResolvedInsightsInterval) :
    0 < interval.step := by
  cases interval <;> decide

def bucketStart (value : ℤ) (interval : ResolvedInsightsInterval) : ℤ :=
  floorTo interval.step value

/-! ## What the user sees -/

/-- The answer of `_resolve_visibility`. -/
structure Visible where
  isAdmin : Bool
  cocoons : List Cocoon
  chatGroups : List ChatGroupRoom

section Visibility

variable (settings : Settings) (accounts : Accounts)

def resolveVisibility (t : InsightTables) (user : Option User) : Visible where
  isAdmin := user.any fun u => CocoonSit.isAdmin settings accounts u
  cocoons := user.elim t.cocoons fun u =>
    if CocoonSit.isAdmin settings accounts u then t.cocoons
    else filterVisibleCocoons settings accounts u t.cocoons false "visible"
  chatGroups := user.elim t.rooms fun u =>
    if CocoonSit.isAdmin settings accounts u then t.rooms
    else filterVisibleChatGroups settings accounts t.members u t.rooms

end Visibility

/-- A record of a target is visible with the target, and one without a target if `otherwise`. -/
def isVisibleRecord (visible : Visible) (cocoonId chatGroupId : Option RowId) (otherwise : Bool) :
    Bool :=
  match cocoonId, chatGroupId with
  | some cocoonId, _ => cocoonId ∈ visible.cocoons.map Cocoon.id
  | none, some chatGroupId => chatGroupId ∈ visible.chatGroups.map ChatGroupRoom.id
  | none, none => otherwise

def isVisibleRun (run : AuditRun) (visible : Visible) : Bool :=
  isVisibleRecord visible (run.target.bind Target.cocoonId?) (run.target.bind Target.chatGroupId?)
    visible.isAdmin

def isVisibleMessage (message : Message) (visible : Visible) : Bool :=
  isVisibleRecord visible message.target.cocoonId? message.target.chatGroupId? false

def isVisibleMemory (memory : MemoryChunk) (visible : Visible) (user : Option User) : Bool :=
  isVisibleRecord visible memory.cocoonId memory.chatGroupId
    (visible.isAdmin || memory.ownerUserId.any fun owner => user.any fun u => owner = u.id)

def isVisibleWakeup (item : WakeupTask) (visible : Visible) : Bool :=
  isVisibleRecord visible item.target.cocoonId? item.target.chatGroupId? false

/-! ## Breaking counts down -/

/-- `buckets[bucket] += float(value)`, where there is such a bucket. -/
def addToBucket (buckets : List (ℤ × ℚ)) (bucket value : ℤ) : List (ℤ × ℚ) :=
  buckets.map fun b => if b.1 = bucket then (b.1, roundFloat (b.2 + roundFloat value)) else b

def bucketSeries (window : DashboardWindow) (items : List (ℤ × ℤ)) : List (ℤ × ℚ) :=
  let buckets := (upTo window.interval.step_pos (bucketStart window.start window.interval)
    (bucketStart window.stop window.interval)).map fun current => (current, 0)
  orderBy Prod.fst (items.foldl
    (fun buckets item => addToBucket buckets (bucketStart item.1 window.interval) item.2) buckets)

/-- `Counter(labels).most_common()`, the names alone. -/
def mostCommon (labels : List String) : List String :=
  orderBy (fun name => OrderDual.toDual (labels.count name)) (Collect.collect some labels)

/-- `_counter_metrics`, with the value of the items of one name. -/
def counterMetrics {α : Type*} (label : α → String) (value : List α → ℤ) (items : List α) :
    List (String × ℤ) :=
  (mostCommon (items.map label)).map fun name =>
    (name, value (items.filter fun x => label x = name))

/-! ## The answer -/

structure InsightsSummary where
  totalMessages : ℕ
  totalRuns : ℕ
  totalTokens : ℤ
  activeCocoons : ℕ
  pendingWakeupCount : ℕ

structure TokenUsageInsights where
  series : List (ℤ × ℚ)
  byProvider : List (String × ℤ)
  byModel : List (String × ℤ)
  byOperation : List (String × ℤ)

structure MemoryInsights where
  totalMemories : ℕ
  growth : List (ℤ × ℚ)
  bySourceKind : List (String × ℤ)
  byMemoryType : List (String × ℤ)

structure RuntimeInsights where
  requestSeries : List (ℤ × ℚ)

structure InsightsDashboard where
  summary : InsightsSummary
  tokenUsage : TokenUsageInsights
  memory : MemoryInsights
  runtime : RuntimeInsights

/-- `int(metadata_json.get("total_tokens") or 0)`. -/
def totalTokensOf (metadataJson : JsonDict) : Option ℤ :=
  ((metadataJson "total_tokens").filter JsonValue.truthy).elim (some 0) SchedulerNode.intOfJson

/-- `str(d.get(k) or "unknown")`. -/
def labelOf (pyStr : JsonValue → String) (d : JsonDict) (k : String) : String :=
  (ContextBuilder.truthyText pyStr d k).getD "unknown"

section Dashboard

variable (settings : Settings) (accounts : Accounts) (pyStr : JsonValue → String)
  (t : InsightTables) (user : Option User) (window : DashboardWindow)

def visibleRuns : List InsightRun :=
  (orderBy InsightRun.startedAt t.runs).filter fun r =>
    isVisibleRun r.run (resolveVisibility settings accounts t user)

def runsInRange : List InsightRun :=
  (visibleRuns settings accounts t user).filter fun r => inWindow r.startedAt window

/-- `run_by_id.get(…)`: of runs with one key, the dictionary has the last. -/
def runById (runId : RowId) : Option InsightRun :=
  (visibleRuns settings accounts t user).reverse.find? fun r => r.run.id = runId

def artifactsInRange : List AuditArtifact :=
  (orderBy AuditArtifact.createdAt t.artifacts).filter fun a =>
    a.runId ∈ (visibleRuns settings accounts t user).map (·.run.id) && inWindow a.createdAt window

def providerArtifacts : List AuditArtifact :=
  (artifactsInRange settings accounts t user window).filter fun a => a.kind = "provider_raw_output"

def messagesInRange : List Message :=
  (orderBy Message.createdAt t.messages).filter fun m =>
    isVisibleMessage m (resolveVisibility settings accounts t user) && inWindow m.createdAt window

def memoriesInRange : List InsightMemory :=
  (orderBy InsightMemory.createdAt t.memories).filter fun m =>
    isVisibleMemory m.memory (resolveVisibility settings accounts t user) user &&
      inWindow m.createdAt window

def pendingWakeups : List WakeupTask :=
  t.wakeupTasks.filter fun item => item.status = .queued &&
    isVisibleWakeup item (resolveVisibility settings accounts t user)

/-- The artifacts of the provider's answers with their tokens; `none` where `int(…)` raises. -/
def providerTokens : Option (List (AuditArtifact × ℤ)) :=
  (providerArtifacts settings accounts t user window).mapM fun a =>
    (totalTokensOf a.metadataJson).map fun tokens => (a, tokens)

/-- `run_by_id[…].operation_type`. -/
def operationOf (a : AuditArtifact) : String :=
  ((runById settings accounts t user a.runId).map fun r => r.run.operationType).getD ""

def dashboard (range : InsightsRange) (interval : Option ResolvedInsightsInterval)
    (now : Timestamp) : Option InsightsDashboard :=
  let window := resolveWindow range interval now
  let runs := runsInRange settings accounts t user window
  let memories := memoriesInRange settings accounts t user window
  (providerTokens settings accounts t user window).map fun artifacts =>
    let tokens := fun (items : List (AuditArtifact × ℤ)) => (items.map Prod.snd).sum
    { summary :=
        { totalMessages := (messagesInRange settings accounts t user window).length
          totalRuns := runs.length
          totalTokens := tokens artifacts
          activeCocoons := (Collect.collect (fun r : InsightRun =>
            (r.run.target.bind Target.cocoonId?).filter (· ≠ "")) runs).length
          pendingWakeupCount := (pendingWakeups settings accounts t user).length }
      tokenUsage :=
        { series := bucketSeries window (artifacts.map fun a => ((a.1.createdAt : ℤ), a.2))
          byProvider := counterMetrics (fun a => labelOf pyStr a.1.metadataJson "provider_kind")
            tokens artifacts
          byModel := counterMetrics (fun a => labelOf pyStr a.1.metadataJson "model_name")
            tokens artifacts
          byOperation := counterMetrics (fun a => operationOf settings accounts t user a.1)
            tokens artifacts }
      memory :=
        { totalMemories := memories.length
          growth := bucketSeries window (memories.map fun m => ((m.createdAt : ℤ), 1))
          bySourceKind := counterMetrics (fun m => labelOf pyStr m.memory.metaJson "source_kind")
            (fun items => items.length) memories
          byMemoryType := counterMetrics
            (fun m => if m.memory.scope = "" then "unknown" else m.memory.scope)
            (fun items => items.length) memories }
      runtime :=
        { requestSeries := bucketSeries window (runs.map fun r => ((r.startedAt : ℤ), 1)) } }

end Dashboard

/-! ## Groups -/

section Groups

variable {α : Type*} {label : α → String} {items : List α}

lemma nodup_mostCommon (labels : List String) : (mostCommon labels).Nodup :=
  (perm_orderBy _ _).nodup_iff.mpr (Collect.nodup_collect some labels)

lemma mem_mostCommon {labels : List String} {name : String} :
    name ∈ mostCommon labels ↔ name ∈ labels := by
  rw [mostCommon, mem_orderBy, Collect.mem_collect]
  exact ⟨fun ⟨x, hx, heq⟩ => Option.some.inj heq ▸ hx, fun h => ⟨name, h, rfl⟩⟩

lemma sum_counterMetrics (label : α → String) (value : α → ℤ) (items : List α) :
    ((counterMetrics label (fun l => (l.map value).sum) items).map Prod.snd).sum =
      (items.map value).sum := by
  unfold counterMetrics
  rw [List.map_map]
  exact sum_groups (nodup_mostCommon _) label value items fun x hx =>
    mem_mostCommon.mpr (List.mem_map_of_mem hx)

lemma sum_counterMetrics_length (label : α → String) (items : List α) :
    ((counterMetrics label (fun l => (l.length : ℤ)) items).map Prod.snd).sum = items.length := by
  have hone : ∀ l : List α, (l.length : ℤ) = (l.map fun _ => (1 : ℤ)).sum := fun l => by simp
  have hsum := sum_counterMetrics label (fun _ => 1) items
  rw [← hone] at hsum
  rw [← hsum]
  simp only [hone]

end Groups

/-! ## Buckets -/

section Series

variable {window : DashboardWindow} {items : List (ℤ × ℤ)}

/-- What a bucket comes to. -/
def bucketValue (interval : ResolvedInsightsInterval) (items : List (ℤ × ℤ)) (x : ℚ) (b : ℤ) : ℚ :=
  (items.filter fun item => bucketStart item.1 interval = b).foldl
    (fun x item => roundFloat (x + roundFloat item.2)) x

lemma foldl_addToBucket (interval : ResolvedInsightsInterval) (items : List (ℤ × ℤ))
    (starts : List ℤ) (f : ℤ → ℚ) :
    items.foldl (fun buckets item => addToBucket buckets (bucketStart item.1 interval) item.2)
        (starts.map fun b => (b, f b)) =
      starts.map fun b => (b, bucketValue interval items (f b) b) := by
  induction items generalizing f with
  | nil => rfl
  | cons item items ih =>
    have hstep : addToBucket (starts.map fun b => (b, f b)) (bucketStart item.1 interval) item.2 =
        starts.map fun b => (b, if b = bucketStart item.1 interval then
          roundFloat (f b + roundFloat item.2) else f b) := by
      unfold addToBucket
      rw [List.map_map]
      refine List.map_congr_left fun b _ => ?_
      rw [Function.comp_apply]
      split <;> rfl
    rw [List.foldl_cons, hstep, ih]
    refine List.map_congr_left fun b _ => ?_
    unfold bucketValue
    rw [List.filter_cons]
    by_cases hb : b = bucketStart item.1 interval
    · rw [if_pos hb, if_pos (decide_eq_true hb.symm), List.foldl_cons]
    · rw [if_neg hb, if_neg (by simpa using fun h : bucketStart item.1 interval = b => hb h.symm)]

/-- The first microseconds of the buckets. -/
def bucketStarts (window : DashboardWindow) : List ℤ :=
  upTo window.interval.step_pos (bucketStart window.start window.interval)
    (bucketStart window.stop window.interval)

lemma bucketSeries_eq (window : DashboardWindow) (items : List (ℤ × ℤ)) :
    bucketSeries window items =
      (bucketStarts window).map fun b => (b, bucketValue window.interval items 0 b) := by
  unfold bucketSeries
  dsimp only
  rw [foldl_addToBucket window.interval items _ fun _ => 0]
  refine List.Pairwise.insertionSort_eq (List.pairwise_map.mpr ?_)
  have hlt : (bucketStarts window).IsChain (· < ·) :=
    (isChain_upTo window.interval.step_pos _ _).imp fun a b h => by
      have := window.interval.step_pos
      omega
  exact hlt.pairwise.imp le_of_lt

lemma foldl_roundFloat {l : List (ℤ × ℤ)} {x : ℤ}
    (hsmall : |x| + (l.map fun item => |item.2|).sum ≤ 2 ^ 53) :
    l.foldl (fun x item => roundFloat (x + roundFloat item.2)) (x : ℚ) =
      x + (l.map fun item => (item.2 : ℚ)).sum := by
  induction l generalizing x with
  | nil => simp
  | cons item l ih =>
    rw [List.map_cons, List.sum_cons] at hsmall
    have hrest : 0 ≤ (l.map fun item => |item.2|).sum :=
      List.sum_nonneg fun n hn => by
        obtain ⟨item, -, rfl⟩ := List.mem_map.mp hn
        exact abs_nonneg item.2
    have habs := abs_add_le x item.2
    have hx := abs_nonneg x
    have hitem : roundFloat (item.2 : ℚ) = item.2 := roundFloat_intCast (by omega)
    have hsum : roundFloat ((x : ℚ) + item.2) = ((x + item.2 : ℤ) : ℚ) := by
      rw [← Int.cast_add]
      exact roundFloat_intCast (by omega)
    rw [List.foldl_cons, hitem, hsum, ih (by omega), List.map_cons, List.sum_cons, Int.cast_add,
      add_assoc]

lemma sum_bucketSeries (hwindow : ∀ item ∈ items, window.start ≤ item.1 ∧ item.1 ≤ window.stop)
    (hsmall : (items.map fun item => |item.2|).sum ≤ 2 ^ 53) :
    ((bucketSeries window items).map Prod.snd).sum = ((items.map Prod.snd).sum : ℤ) := by
  have hvalue : ∀ b, bucketValue window.interval items 0 b =
      ((items.filter fun item => bucketStart item.1 window.interval = b).map
        fun item => (item.2 : ℚ)).sum := by
    intro b
    have hle : ((items.filter fun item => bucketStart item.1 window.interval = b).map
        fun item => |item.2|).sum ≤ (items.map fun item => |item.2|).sum :=
      (List.filter_sublist.map _).sum_le_sum fun n hn => by
        obtain ⟨item, -, rfl⟩ := List.mem_map.mp hn
        exact abs_nonneg item.2
    have hfold := foldl_roundFloat (x := 0) (show |(0 : ℤ)| + _ ≤ 2 ^ 53 by
      rw [abs_zero, zero_add]; exact hle.trans hsmall)
    rw [bucketValue]
    simpa using hfold
  rw [bucketSeries_eq, List.map_map]
  have hcomp : (Prod.snd ∘ fun b => (b, bucketValue window.interval items 0 b)) =
      fun b => ((items.filter fun item => bucketStart item.1 window.interval = b).map
        fun item => (item.2 : ℚ)).sum := funext hvalue
  have hgroups := sum_groups (nodup_upTo window.interval.step_pos _ _)
    (fun item : ℤ × ℤ => bucketStart item.1 window.interval) (fun item => (item.2 : ℚ)) items
    fun item hitem => floorTo_mem_upTo window.interval.step_pos (hwindow item hitem).1
      (hwindow item hitem).2
  rw [hcomp]
  refine hgroups.trans ?_
  rw [Int.cast_list_sum, List.map_map]
  rfl

lemma sum_bucketSeries_singleton (window : DashboardWindow) (item : ℤ × ℤ)
    (hstart : window.start ≤ item.1)
    (hstop : item.1 ≤ window.stop) :
    ((bucketSeries window [item]).map Prod.snd).sum = roundFloat (0 + roundFloat item.2) := by
  have hvalue : (Prod.snd ∘ fun b => (b, bucketValue window.interval [item] 0 b)) =
      fun b => (([item].filter fun x => bucketStart x.1 window.interval = b).map
        fun x => roundFloat (0 + roundFloat x.2)).sum := by
    funext b
    rw [Function.comp_apply, bucketValue, List.filter_singleton]
    cases decide (bucketStart item.1 window.interval = b) <;> simp
  have hgroups := sum_groups (nodup_upTo window.interval.step_pos _ _)
    (fun x : ℤ × ℤ => bucketStart x.1 window.interval)
    (fun x => roundFloat (0 + roundFloat (x.2 : ℚ))) [item] fun x hx =>
      List.mem_singleton.mp hx ▸ floorTo_mem_upTo window.interval.step_pos hstart hstop
  rw [bucketSeries_eq, List.map_map, hvalue]
  exact hgroups.trans (by simp)

lemma map_fst_bucketSeries (window : DashboardWindow) (items : List (ℤ × ℤ)) :
    (bucketSeries window items).map Prod.fst = bucketStarts window := by
  rw [bucketSeries_eq, List.map_map]
  exact List.map_id _

/-- The buckets follow each other without a gap, and each time of the window is in one of them. -/
structure Contiguous (window : DashboardWindow) (series : List (ℤ × ℚ)) : Prop where
  isChain : (series.map Prod.fst).IsChain fun a b => b = a + window.interval.step
  increasing : (series.map Prod.fst).Pairwise (· < ·)
  unique : ∀ t : ℤ, window.start ≤ t → t ≤ window.stop →
    ∃! b, b ∈ series.map Prod.fst ∧ b ≤ t ∧ t < b + window.interval.step

lemma contiguous_bucketSeries (window : DashboardWindow) (items : List (ℤ × ℤ)) :
    Contiguous window (bucketSeries window items) := by
  have hchain := isChain_upTo window.interval.step_pos
    (bucketStart window.start window.interval) (bucketStart window.stop window.interval)
  constructor
  · rw [map_fst_bucketSeries]
    exact hchain
  · rw [map_fst_bucketSeries]
    have hlt : (bucketStarts window).IsChain (· < ·) := hchain.imp fun a b h => by
      have := window.interval.step_pos
      omega
    exact hlt.pairwise
  · rw [map_fst_bucketSeries]
    exact fun t hstart hstop => existsUnique_interval window.interval.step_pos hstart hstop

end Series

/-! ## Who sees what -/

section Visibility

variable (settings : Settings) (accounts : Accounts) (t : InsightTables) (user : Option User)

/-- The target is there, and the user may read it; without a user, all are read. -/
def SeesTarget : Target → Prop
  | .cocoon id => ∃ c ∈ t.cocoons, c.id = id ∧
      ∀ u ∈ user, canAccessCocoon settings accounts u c false false = true
  | .chatGroup id => ∃ room ∈ t.rooms, room.id = id ∧
      ∀ u ∈ user, canReadChatGroup settings accounts t.members u room = true

/-- The user is an admin. -/
def SeesAll : Prop := ∃ u ∈ user, isAdmin settings accounts u = true

/-- What one may count of a memory without a target. -/
def SeesMemory (memory : MemoryChunk) : Prop :=
  match memory.cocoonId, memory.chatGroupId with
  | some id, _ => SeesTarget settings accounts t user (.cocoon id)
  | none, some id => SeesTarget settings accounts t user (.chatGroup id)
  | none, none => SeesAll settings accounts user ∨ ∃ u ∈ user, memory.ownerUserId = some u.id

/-- What one may count of a run. -/
def SeesRun (run : AuditRun) : Prop :=
  run.target.elim (SeesAll settings accounts user) (SeesTarget settings accounts t user)

variable {settings accounts t user}

lemma seesTarget_cocoon {id : RowId}
    (h : id ∈ (resolveVisibility settings accounts t user).cocoons.map Cocoon.id) :
    SeesTarget settings accounts t user (.cocoon id) := by
  obtain ⟨c, hc, rfl⟩ := List.mem_map.mp h
  cases user with
  | none => exact ⟨c, hc, rfl, fun u hu => by cases hu⟩
  | some u =>
    have hcocoons : (resolveVisibility settings accounts t (some u)).cocoons =
        if isAdmin settings accounts u then t.cocoons
        else filterVisibleCocoons settings accounts u t.cocoons false "visible" := rfl
    rw [hcocoons] at hc
    by_cases hadmin : isAdmin settings accounts u = true
    · rw [if_pos hadmin] at hc
      refine ⟨c, hc, rfl, fun u' hu' => ?_⟩
      obtain rfl := Option.some.inj hu'
      rw [canAccessCocoon, hadmin]
      rfl
    · rw [if_neg hadmin] at hc
      obtain ⟨hmem, haccess⟩ := List.mem_filter.mp hc
      refine ⟨c, hmem, rfl, fun u' hu' => ?_⟩
      obtain rfl := Option.some.inj hu'
      exact haccess

lemma seesTarget_chatGroup {id : RowId}
    (h : id ∈ (resolveVisibility settings accounts t user).chatGroups.map ChatGroupRoom.id) :
    SeesTarget settings accounts t user (.chatGroup id) := by
  obtain ⟨room, hroom, rfl⟩ := List.mem_map.mp h
  cases user with
  | none => exact ⟨room, hroom, rfl, fun u hu => by cases hu⟩
  | some u =>
    have hrooms : (resolveVisibility settings accounts t (some u)).chatGroups =
        if isAdmin settings accounts u then t.rooms
        else filterVisibleChatGroups settings accounts t.members u t.rooms := rfl
    rw [hrooms] at hroom
    by_cases hadmin : isAdmin settings accounts u = true
    · rw [if_pos hadmin] at hroom
      refine ⟨room, hroom, rfl, fun u' hu' => ?_⟩
      obtain rfl := Option.some.inj hu'
      rw [canReadChatGroup, hadmin]
      rfl
    · rw [if_neg hadmin] at hroom
      obtain ⟨hmem, hread⟩ := List.mem_filter.mp hroom
      refine ⟨room, hmem, rfl, fun u' hu' => ?_⟩
      obtain rfl := Option.some.inj hu'
      exact hread

lemma seesTarget_of_isVisibleRecord {target : Target} {otherwise : Bool}
    (h : isVisibleRecord (resolveVisibility settings accounts t user) target.cocoonId?
      target.chatGroupId? otherwise = true) : SeesTarget settings accounts t user target := by
  cases target with
  | cocoon id => exact seesTarget_cocoon (of_decide_eq_true h)
  | chatGroup id => exact seesTarget_chatGroup (of_decide_eq_true h)

lemma seesAll_of_isAdmin (h : (resolveVisibility settings accounts t user).isAdmin = true) :
    SeesAll settings accounts user := by
  cases user with
  | none => cases h
  | some u => exact ⟨u, rfl, h⟩

lemma seesRun_of_isVisibleRun {run : AuditRun}
    (h : isVisibleRun run (resolveVisibility settings accounts t user) = true) :
    SeesRun settings accounts t user run := by
  unfold isVisibleRun at h
  unfold SeesRun
  cases htarget : run.target with
  | none =>
    rw [htarget] at h
    exact seesAll_of_isAdmin h
  | some target =>
    rw [htarget] at h
    exact seesTarget_of_isVisibleRecord h

lemma seesMemory_of_isVisibleMemory {memory : MemoryChunk}
    (h : isVisibleMemory memory (resolveVisibility settings accounts t user) user = true) :
    SeesMemory settings accounts t user memory := by
  unfold isVisibleMemory isVisibleRecord at h
  unfold SeesMemory
  cases hcocoon : memory.cocoonId with
  | some id =>
    rw [hcocoon] at h
    exact seesTarget_cocoon (of_decide_eq_true h)
  | none =>
    cases hroom : memory.chatGroupId with
    | some id =>
      rw [hcocoon, hroom] at h
      exact seesTarget_chatGroup (of_decide_eq_true h)
    | none =>
      rw [hcocoon, hroom] at h
      rcases Bool.or_eq_true_iff.mp h with hadmin | howner
      · exact .inl (seesAll_of_isAdmin hadmin)
      · cases hid : memory.ownerUserId with
        | none =>
          rw [hid] at howner
          cases howner
        | some owner =>
          rw [hid] at howner
          cases user with
          | none => cases howner
          | some u => exact .inr ⟨u, rfl, congrArg some (of_decide_eq_true howner)⟩

lemma seesRun_of_mem_visibleRuns {r : InsightRun}
    (h : r ∈ visibleRuns settings accounts t user) :
    r ∈ t.runs ∧ SeesRun settings accounts t user r.run := by
  obtain ⟨hmem, hvisible⟩ := List.mem_filter.mp h
  exact ⟨mem_orderBy.mp hmem, seesRun_of_isVisibleRun hvisible⟩

end Visibility

/-! ## The dashboard -/

section Main

variable (settings : Settings) (accounts : Accounts) (pyStr : JsonValue → String)
  (t : InsightTables) (user : Option User)

/-- Everything that is counted may be seen. -/
structure CountsVisible (window : DashboardWindow) : Prop where
  runs : ∀ r ∈ runsInRange settings accounts t user window, SeesRun settings accounts t user r.run
  artifacts : ∀ a ∈ providerArtifacts settings accounts t user window, ∃ r ∈ t.runs,
    r.run.id = a.runId ∧ SeesRun settings accounts t user r.run
  memories : ∀ m ∈ memoriesInRange settings accounts t user window,
    SeesMemory settings accounts t user m.memory
  messages : ∀ m ∈ messagesInRange settings accounts t user window,
    SeesTarget settings accounts t user m.target
  wakeups : ∀ item ∈ pendingWakeups settings accounts t user,
    SeesTarget settings accounts t user item.target

/-- The numbers add up; those of a series, which are floats, up to `2 ^ 53`. -/
structure AddsUp (window : DashboardWindow) (d : InsightsDashboard) : Prop where
  byProvider : (d.tokenUsage.byProvider.map Prod.snd).sum = d.summary.totalTokens
  byModel : (d.tokenUsage.byModel.map Prod.snd).sum = d.summary.totalTokens
  byOperation : (d.tokenUsage.byOperation.map Prod.snd).sum = d.summary.totalTokens
  bySourceKind : (d.memory.bySourceKind.map Prod.snd).sum = d.memory.totalMemories
  byMemoryType : (d.memory.byMemoryType.map Prod.snd).sum = d.memory.totalMemories
  series : ∀ artifacts ∈ providerTokens settings accounts t user window,
    (artifacts.map fun a => |a.2|).sum ≤ 2 ^ 53 →
      (d.tokenUsage.series.map Prod.snd).sum = d.summary.totalTokens
  growth : d.memory.totalMemories ≤ 2 ^ 53 →
    (d.memory.growth.map Prod.snd).sum = d.memory.totalMemories
  requests : d.summary.totalRuns ≤ 2 ^ 53 →
    (d.runtime.requestSeries.map Prod.snd).sum = d.summary.totalRuns

variable {settings accounts pyStr t user}

lemma countsVisible (window : DashboardWindow) : CountsVisible settings accounts t user window where
  runs r hr := (seesRun_of_mem_visibleRuns (List.mem_of_mem_filter hr)).2
  artifacts := by
    intro a ha
    obtain ⟨ha, -⟩ := List.mem_filter.mp ha
    obtain ⟨-, hcounted⟩ := List.mem_filter.mp ha
    obtain ⟨r, hr, hid⟩ := List.mem_map.mp (of_decide_eq_true (Bool.and_eq_true_iff.mp hcounted).1)
    obtain ⟨hmem, hsees⟩ := seesRun_of_mem_visibleRuns hr
    exact ⟨r, hmem, hid, hsees⟩
  memories m hm :=
    seesMemory_of_isVisibleMemory (Bool.and_eq_true_iff.mp (List.mem_filter.mp hm).2).1
  messages m hm :=
    seesTarget_of_isVisibleRecord (Bool.and_eq_true_iff.mp (List.mem_filter.mp hm).2).1
  wakeups item hitem :=
    seesTarget_of_isVisibleRecord (Bool.and_eq_true_iff.mp (List.mem_filter.mp hitem).2).2

lemma map_fst_providerTokens {window : DashboardWindow} {artifacts : List (AuditArtifact × ℤ)}
    (h : providerTokens settings accounts t user window = some artifacts) :
    artifacts.map Prod.fst = providerArtifacts settings accounts t user window := by
  unfold providerTokens at h
  rw [mapM_eq_some_iff] at h
  generalize providerArtifacts settings accounts t user window = counted at h
  induction h with
  | nil => rfl
  | cons hpair _ ih =>
    obtain ⟨tokens, -, rfl⟩ := Option.map_eq_some_iff.mp hpair
    rw [List.map_cons, ih]

lemma inWindow_iff {value : Timestamp} {window : DashboardWindow} :
    inWindow value window = true ↔ window.start ≤ value ∧ value ≤ window.stop := by
  rw [inWindow, Bool.and_eq_true, decide_eq_true_eq, decide_eq_true_eq]

lemma sum_bucketSeries_ones {α : Type*} {window : DashboardWindow} (at_ : α → Timestamp)
    {records : List α} (hwindow : ∀ x ∈ records, inWindow (at_ x) window = true)
    (hsmall : records.length ≤ 2 ^ 53) :
    ((bucketSeries window (records.map fun x => ((at_ x : ℤ), 1))).map Prod.snd).sum =
      records.length := by
  have hone : (records.map fun _ => (1 : ℤ)).sum = records.length := by simp
  rw [sum_bucketSeries]
  · rw [List.map_map]
    exact_mod_cast congrArg (Int.cast (R := ℚ)) hone
  · intro item hitem
    obtain ⟨x, hx, rfl⟩ := List.mem_map.mp hitem
    exact inWindow_iff.mp (hwindow x hx)
  · rw [List.map_map]
    exact hone.le.trans (by exact_mod_cast hsmall)

/-- Every breakdown adds up to its total, a series up to what floats can count; the buckets follow
each other without a gap; and only what the user may see is counted. -/
theorem dashboard_conservative {range : InsightsRange} {interval : Option ResolvedInsightsInterval}
    {now : Timestamp} {d : InsightsDashboard}
    (h : dashboard settings accounts pyStr t user range interval now = some d) :
    AddsUp settings accounts t user (resolveWindow range interval now) d ∧
      Contiguous (resolveWindow range interval now) d.tokenUsage.series ∧
      Contiguous (resolveWindow range interval now) d.memory.growth ∧
      Contiguous (resolveWindow range interval now) d.runtime.requestSeries ∧
      CountsVisible settings accounts t user (resolveWindow range interval now) := by
  obtain ⟨artifacts, hartifacts, rfl⟩ := Option.map_eq_some_iff.mp h
  refine ⟨?_, contiguous_bucketSeries _ _, contiguous_bucketSeries _ _,
    contiguous_bucketSeries _ _, countsVisible _⟩
  constructor
  · exact sum_counterMetrics _ Prod.snd artifacts
  · exact sum_counterMetrics _ Prod.snd artifacts
  · exact sum_counterMetrics _ Prod.snd artifacts
  · exact sum_counterMetrics_length _ _
  · exact sum_counterMetrics_length _ _
  · intro artifacts' hartifacts' hsmall
    obtain rfl : artifacts = artifacts' := Option.some.inj (hartifacts.symm.trans hartifacts')
    dsimp only
    rw [sum_bucketSeries]
    · rw [List.map_map]
      rfl
    · intro item hitem
      obtain ⟨a, ha, rfl⟩ := List.mem_map.mp hitem
      have hmem : a.1 ∈
          providerArtifacts settings accounts t user (resolveWindow range interval now) :=
        map_fst_providerTokens hartifacts ▸ List.mem_map_of_mem ha
      obtain ⟨hmem, -⟩ := List.mem_filter.mp hmem
      exact inWindow_iff.mp (Bool.and_eq_true_iff.mp (List.mem_filter.mp hmem).2).2
    · rwa [List.map_map]
  · intro hsmall
    exact sum_bucketSeries_ones InsightMemory.createdAt
      (fun m hm => (Bool.and_eq_true_iff.mp (List.mem_filter.mp hm).2).2) hsmall
  · intro hsmall
    exact sum_bucketSeries_ones InsightRun.startedAt
      (fun r hr => (List.mem_filter.mp hr).2) hsmall

end Main

/-! Two dashboards: of an answer of 12 tokens, and of one with more than a float can count. -/

def ann : User where
  id := "ann"
  username := "ann"
  passwordHash := "h"

/-- A run of `ann`'s cocoon, with one answer of the provider. -/
def oneAnswer (tokens : ℤ) : InsightTables where
  cocoons := [{ id := "c", ownerUserId := "ann", characterId := "ch" }]
  runs := [{ run := { id := "r", target := some (.cocoon "c"), operationType := "chat" }
             startedAt := 86400000000 }]
  artifacts := [{ runId := "r", kind := "provider_raw_output", createdAt := 86400000000
                  metadataJson := .ofList [("total_tokens", .num tokens)] }]

theorem oneAnswer_conservative : ∃ d,
    dashboard {} {} (fun _ => "") (oneAnswer 12) (some ann) .hours24 none 86400000000 = some d ∧
      AddsUp {} {} (oneAnswer 12) (some ann) (resolveWindow .hours24 none 86400000000) d ∧
      Contiguous (resolveWindow .hours24 none 86400000000) d.tokenUsage.series ∧
      Contiguous (resolveWindow .hours24 none 86400000000) d.memory.growth ∧
      Contiguous (resolveWindow .hours24 none 86400000000) d.runtime.requestSeries ∧
      CountsVisible {} {} (oneAnswer 12) (some ann) (resolveWindow .hours24 none 86400000000) :=
  ⟨_, rfl, dashboard_conservative rfl⟩

/-- The first integer that is no float is lost from the series. -/
theorem hugeAnswer_not_conservative : ∃ d,
    dashboard {} {} (fun _ => "") (oneAnswer (2 ^ 53 + 1)) (some ann) .hours24 none 86400000000 =
        some d ∧
      (d.tokenUsage.series.map Prod.snd).sum ≠ d.summary.totalTokens := by
  refine ⟨_, rfl, ?_⟩
  have hseries := sum_bucketSeries_singleton (resolveWindow .hours24 none 86400000000)
    (86400000000, 2 ^ 53 + 1) (by decide) (by decide)
  have hround : roundFloat (((2 ^ 53 + 1 : ℤ)) : ℚ) = ((2 ^ 53 : ℤ) : ℚ) := by
    rw [roundFloat, if_neg (by norm_num), Int.cast_add, Int.cast_pow, Int.cast_ofNat, Int.cast_one]
    exact toFloat_two_pow_add_one
  rw [hround, zero_add, roundFloat_intCast (by norm_num)] at hseries
  intro hsame
  have hvalue : ((2 ^ 53 : ℤ) : ℚ) = ((2 ^ 53 + 1 : ℤ) : ℚ) := hseries.symm.trans hsame
  norm_num at hvalue

end Insights

end CocoonSit
