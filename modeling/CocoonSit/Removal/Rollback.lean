import CocoonSit.Removal.Messages

/-!
# Foreign keys after a removal

A rollback does more than remove messages: it writes an audit trail, whose rows refer to new keys
only, and sets the two anchors of its cocoon to a message that stays.  So it leaves a state as good
as a bare removal does, but for the anchors of that one cocoon.

Which references the removal forgets is `NoReferenceLeft`; here it is settled for all four users of
the removal at once.
-/

namespace CocoonSit

open Relational

/-! ## The rows a rollback writes -/

section Rows

variable (plan : RollbackPlan) (r : DbRow)

@[simp] lemma rollbackRow_table : (rollbackRow plan r).table = r.table := by
  unfold rollbackRow
  split <;> (try split) <;> rfl

@[simp] lemma rollbackRow_id : (rollbackRow plan r).id = r.id := by
  unfold rollbackRow
  split <;> (try split) <;> rfl

variable {plan r}

lemma rollbackRow_refs (h : r.table = .cocoons → r.id ≠ plan.cocoonId) :
    (rollbackRow plan r).refs = r.refs := by
  unfold rollbackRow
  split
  · rename_i htable
    rw [if_neg (h htable)]
  all_goals (try split) <;> rfl

lemma refIn_rollbackRow (h : r.table ≠ .cocoons) (c : Column) (ids : List RowId) :
    refIn (rollbackRow plan r) c ids = refIn r c ids := by
  unfold refIn
  rw [rollbackRow_refs fun htable => absurd htable h]

lemma rollbackRow_cocoon (htable : r.table = .cocoons) (hid : r.id = plan.cocoonId) (c : Column) :
    (rollbackRow plan r).refs c =
      if c = .contextStartMessageId ∨ c = .rollbackAnchorMsgId then some plan.anchor.id
      else r.refs c := by
  unfold rollbackRow
  simp only [htable, if_pos hid]
  cases c <;> rfl

end Rows

/-- The rows before the deletions of a rollback, as it leaves those of them that stay. -/
def rollbackBase (db : Rows) (plan : RollbackPlan) (draws : RollbackDraws) : Rows :=
  (db ++ rollbackTrail plan draws).map (rollbackRow plan)

/-- The keys drawn are new. -/
def RollbackDraws.Fresh (db : Rows) (draws : RollbackDraws) : Prop :=
  ∀ r ∈ db, (r.table = .auditRuns → r.id ≠ draws.runId) ∧
    (r.table = .auditSteps → r.id ≠ draws.stepId) ∧
    (r.table = .auditArtifacts → r.id ≠ draws.artifactId)

lemma findRow_eq_some {db : Rows} {table : TableName} {id : RowId} {r : DbRow}
    (h : findRow db table id = some r) : r ∈ db ∧ r.table = table ∧ r.id = id := by
  have hfound := List.find?_some h
  simp only [Bool.and_eq_true, decide_eq_true_eq] at hfound
  exact ⟨List.mem_of_find?_eq_some h, hfound⟩

lemma rollbackPlan_spec {db : Rows} {checkpointId : RowId} {plan : RollbackPlan}
    (h : rollbackPlan db checkpointId = some plan) :
    (plan.anchor ∈ db ∧ plan.anchor.table = .messages) ∧
      ∃ cocoon ∈ db, cocoon.table = .cocoons ∧ cocoon.id = plan.cocoonId := by
  unfold rollbackPlan at h
  simp only [Option.bind_eq_bind, Option.bind_eq_some_iff, Option.pure_def,
    Option.some.injEq] at h
  obtain ⟨checkpoint, -, cocoonId, -, anchor, ⟨anchorId, -, hanchor⟩, cocoon, hcocoon, rfl⟩ := h
  obtain ⟨hmem, htable, -⟩ := findRow_eq_some hanchor
  exact ⟨⟨hmem, htable⟩, cocoon, findRow_eq_some hcocoon⟩

section Base

variable {db : Rows} {plan : RollbackPlan} {draws : RollbackDraws} {ids : List RowId}

lemma trail_table {r : DbRow} (hr : r ∈ rollbackTrail plan draws) :
    (r.table = .auditRuns ∧ r.id = draws.runId ∧ r.refs .actionId = none) ∨
      (r.table = .auditSteps ∧ r.refs .runId = some draws.runId) := by
  simp only [rollbackTrail, List.mem_cons, List.not_mem_nil, or_false] at hr
  rcases hr with rfl | rfl
  · exact .inl ⟨rfl, rfl, rfl⟩
  · exact .inr ⟨rfl, rfl⟩

/-! ## What the deletions find

The rollback's writes change no column that the deletions read, and its trail is none of what they
look for. -/

lemma selectIds_map_rollbackRow {table : TableName} {c : Column} (htable : table ≠ .cocoons) :
    selectIds (db.map (rollbackRow plan)) table (fun r => refIn r c ids) =
      selectIds db table fun r => refIn r c ids := by
  have hkeep : (fun r : DbRow => (decide (r.table = table) && refIn r c ids)) ∘ rollbackRow plan =
      fun r => (decide (r.table = table) && refIn r c ids) := by
    funext r
    show (decide ((rollbackRow plan r).table = table) && refIn (rollbackRow plan r) c ids) = _
    rw [rollbackRow_table]
    by_cases hr : r.table = table
    · rw [refIn_rollbackRow (hr ▸ htable)]
    · simp [hr]
  unfold selectIds
  rw [List.filter_map, List.map_map, hkeep]
  exact List.map_congr_left fun r _ => rollbackRow_id plan r

lemma selectIds_append_trail {table : TableName} {c : Column}
    (htrail : ∀ r ∈ rollbackTrail plan draws, r.table = table → refIn r c ids = false) :
    selectIds (db ++ rollbackTrail plan draws) table (fun r => refIn r c ids) =
      selectIds db table fun r => refIn r c ids := by
  have hnone : (rollbackTrail plan draws).filter (fun r => r.table = table && refIn r c ids) =
      [] := by
    refine List.filter_eq_nil_iff.mpr fun r hr => ?_
    by_cases hrt : r.table = table
    · simp [htrail r hr hrt]
    · simp [hrt]
  unfold selectIds
  rw [List.filter_append, hnone, List.append_nil]

lemma removedActionIds_map_rollbackRow :
    removedActionIds (db.map (rollbackRow plan)) ids = removedActionIds db ids := by
  have hkeep : (fun r : DbRow => (decide (r.table = .messages) && decide (r.id ∈ ids))) ∘
      rollbackRow plan = fun r => (decide (r.table = .messages) && decide (r.id ∈ ids)) := by
    funext r
    simp
  unfold removedActionIds
  rw [List.filter_map, List.filterMap_map, hkeep]
  refine List.filterMap_congr fun r hr => ?_
  have htable : r.table = .messages ∧ r.id ∈ ids := by simpa using (List.mem_filter.mp hr).2
  show (rollbackRow plan r).refs .actionId = r.refs .actionId
  rw [rollbackRow_refs fun h => absurd (htable.1.symm.trans h) (by decide)]

lemma removedActionIds_append_trail :
    removedActionIds (db ++ rollbackTrail plan draws) ids = removedActionIds db ids := by
  have hnone : (rollbackTrail plan draws).filter (fun r => r.table = .messages && r.id ∈ ids) =
      [] := by
    refine List.filter_eq_nil_iff.mpr fun r hr => ?_
    rcases trail_table hr with ⟨htable, -⟩ | ⟨htable, -⟩ <;> simp [htable]
  unfold removedActionIds
  rw [List.filter_append, hnone, List.append_nil]

lemma removedRunIds_map_rollbackRow :
    removedRunIds (db.map (rollbackRow plan)) ids = removedRunIds db ids := by
  unfold removedRunIds
  rw [removedActionIds_map_rollbackRow, selectIds_map_rollbackRow (by decide)]

lemma removedRunIds_append_trail :
    removedRunIds (db ++ rollbackTrail plan draws) ids = removedRunIds db ids := by
  unfold removedRunIds
  rw [removedActionIds_append_trail]
  refine selectIds_append_trail fun r hr htable => ?_
  rcases trail_table hr with ⟨-, -, hnone⟩ | ⟨hstep, -⟩
  · simp [refIn, hnone]
  · rw [htable] at hstep
    cases hstep

lemma removedMemoryIds_map_rollbackRow :
    removedMemoryIds (db.map (rollbackRow plan)) ids = removedMemoryIds db ids :=
  selectIds_map_rollbackRow (by decide)

lemma removedMemoryIds_append_trail :
    removedMemoryIds (db ++ rollbackTrail plan draws) ids = removedMemoryIds db ids := by
  refine selectIds_append_trail fun r hr htable => ?_
  rcases trail_table hr with ⟨h, -⟩ | ⟨h, -⟩ <;> rw [htable] at h <;> cases h

lemma removedArtifactIds_rollbackBase (db : Rows) (plan : RollbackPlan) (draws : RollbackDraws)
    (ids : List RowId) :
    removedArtifactIds (rollbackBase db plan draws) ids = removedArtifactIds db ids := by
  unfold removedArtifactIds rollbackBase
  rw [removedRunIds_map_rollbackRow, removedRunIds_append_trail,
    selectIds_map_rollbackRow (by decide)]
  refine selectIds_append_trail fun r hr htable => ?_
  rcases trail_table hr with ⟨h, -⟩ | ⟨h, -⟩ <;> rw [htable] at h <;> cases h

lemma isRemoved_rollbackRow (r : DbRow) :
    isRemoved (db.map (rollbackRow plan)) ids (rollbackRow plan r) = isRemoved db ids r := by
  unfold isRemoved
  rw [rollbackRow_table, rollbackRow_id, removedMemoryIds_map_rollbackRow,
    removedRunIds_map_rollbackRow, removedActionIds_map_rollbackRow]
  cases htable : r.table <;>
    first
    | rfl
    | exact refIn_rollbackRow (by simp [htable]) _ _

variable (hfresh : draws.Fresh db)
include hfresh

lemma runId_not_removed : draws.runId ∉ removedRunIds db ids := by
  intro h
  obtain ⟨r, hr, htable, -, hid⟩ := mem_selectIds.mp h
  exact (hfresh r hr).1 htable hid

lemma removedStepIds_rollbackBase (plan : RollbackPlan) (ids : List RowId) :
    removedStepIds (rollbackBase db plan draws) ids = removedStepIds db ids := by
  unfold removedStepIds rollbackBase
  rw [removedRunIds_map_rollbackRow, removedRunIds_append_trail,
    selectIds_map_rollbackRow (by decide)]
  refine selectIds_append_trail fun r hr htable => ?_
  rcases trail_table hr with ⟨h, -⟩ | ⟨-, hrun⟩
  · rw [htable] at h
    cases h
  · simp [refIn, hrun, runId_not_removed hfresh]

/-! ## Foreign keys before the deletions -/

lemma uniqueKeys_rollbackBase (hkeys : UniqueKeys db) :
    UniqueKeys (rollbackBase db plan draws) := by
  have htrail : UniqueKeys (db ++ rollbackTrail plan draws) := by
    have hrun := hkeys.concat (r := rollbackRun plan draws) fun r hr htable =>
      (hfresh r hr).1 htable
    have hstep := hrun.concat (r := rollbackStep draws) fun r hr htable => by
      rcases List.mem_append.mp hr with hr | hr
      · exact (hfresh r hr).2.1 htable
      · rw [List.mem_singleton.mp hr] at htable
        cases htable
    rwa [List.append_assoc] at hstep
  unfold UniqueKeys rollbackBase at *
  rw [List.map_map]
  have hfun : ((fun r : DbRow => (r.table, r.id)) ∘ rollbackRow plan) =
      fun r : DbRow => (r.table, r.id) := by
    funext r
    simp
  rwa [hfun]

lemma holds_trail (hdb : Holds dbSchema db) (hcocoon : ∃ cocoon ∈ db, cocoon.table = .cocoons ∧
    cocoon.id = plan.cocoonId) : Holds dbSchema (db ++ rollbackTrail plan draws) := by
  obtain ⟨cocoon, hmem, htable, hid⟩ := hcocoon
  have hrun : Holds dbSchema (db ++ [rollbackRun plan draws]) := by
    refine (holds_concat_iff (fun c _ _ k hk => ?_) fun r hr c henforced =>
      hdb.not_refersTo (fun r' hr' h => (hfresh r' hr').1 h) hr henforced).mpr hdb
    cases c <;> simp only [rollbackRun, reduceCtorEq, Option.some.injEq] at hk
    exact ⟨cocoon, hmem, htable, hid.trans hk⟩
  have hnew : ∀ r ∈ db ++ [rollbackRun plan draws],
      r.table = .auditSteps → r.id ≠ draws.stepId := by
    intro r hr hrt
    rcases List.mem_append.mp hr with hr | hr
    · exact (hfresh r hr).2.1 hrt
    · rw [List.mem_singleton.mp hr] at hrt
      cases hrt
  have hstep : Holds dbSchema ((db ++ [rollbackRun plan draws]) ++
      [rollbackStep draws]) := by
    refine (holds_concat_iff (fun c _ _ k hk => ?_) fun r hr c henforced =>
      hrun.not_refersTo hnew hr henforced).mpr hrun
    cases c <;> simp only [rollbackStep, reduceCtorEq, Option.some.injEq] at hk
    exact ⟨_, List.mem_append_right _ (List.mem_singleton_self _), rfl, hk⟩
  rwa [List.append_assoc] at hstep

lemma holds_rollbackBase {checkpointId : RowId} (hdb : Holds dbSchema db)
    (hplan : rollbackPlan db checkpointId = some plan) :
    Holds dbSchema (rollbackBase db plan draws) := by
  obtain ⟨⟨hanchor, hanchorTable⟩, hcocoon⟩ := rollbackPlan_spec hplan
  have hbase := holds_trail hfresh hdb hcocoon
  intro written hwritten c henforced hhas k hk
  obtain ⟨r, hr, rfl⟩ := List.mem_map.mp hwritten
  rw [rollbackRow_table] at hhas
  -- what the column refers to was there before
  have hfound : ∃ r' ∈ db ++ rollbackTrail plan draws, r'.table = c.target ∧ r'.id = k := by
    by_cases hself : r.table = .cocoons ∧ r.id = plan.cocoonId
    · rw [rollbackRow_cocoon hself.1 hself.2] at hk
      split at hk
      · rename_i hc
        rw [Option.some.injEq] at hk
        refine ⟨plan.anchor, List.mem_append_left _ hanchor, ?_, hk⟩
        rcases hc with rfl | rfl <;> exact hanchorTable
      · exact hbase r hr c henforced hhas k hk
    · rw [rollbackRow_refs fun h hid => hself ⟨h, hid⟩] at hk
      exact hbase r hr c henforced hhas k hk
  obtain ⟨r', hr', htable, hid⟩ := hfound
  exact ⟨rollbackRow plan r', List.mem_map_of_mem hr', by rwa [rollbackRow_table],
    by rwa [rollbackRow_id]⟩

/-! ## Foreign keys after the deletions -/

omit hfresh in
lemma forall_rollbackBase (db : Rows) (plan : RollbackPlan) (draws : RollbackDraws)
    (table : TableName) (p : DbRow → Prop)
    (htable : table ≠ .cocoons ∧ table ≠ .auditRuns ∧ table ≠ .auditSteps)
    (hp : ∀ r, r.table = table → (p (rollbackRow plan r) ↔ p r)) :
    (∀ r ∈ rollbackBase db plan draws, r.table = table → p r) ↔
      ∀ r ∈ db, r.table = table → p r := by
  constructor
  · intro h r hr hrt
    have hmem : rollbackRow plan r ∈ rollbackBase db plan draws :=
      List.mem_map_of_mem (List.mem_append_left _ hr)
    exact (hp r hrt).mp (h _ hmem (by rwa [rollbackRow_table]))
  · intro h written hwritten hrt
    obtain ⟨r, hr, rfl⟩ := List.mem_map.mp hwritten
    rw [rollbackRow_table] at hrt
    rcases List.mem_append.mp hr with hr | hr
    · exact (hp r hrt).mpr (h r hr hrt)
    · rcases trail_table hr with ⟨h', -⟩ | ⟨h', -⟩
      · exact absurd (hrt.symm.trans h') htable.2.1
      · exact absurd (hrt.symm.trans h') htable.2.2

omit hfresh in
lemma forall_cocoon_rollbackBase (db : Rows) (draws : RollbackDraws)
    (hanchor : plan.anchor.id ∉ ids) :
    (∀ r ∈ rollbackBase db plan draws, r.table = .cocoons → none ≠ some r.id →
      refIn r .contextStartMessageId ids = false ∧ refIn r .rollbackAnchorMsgId ids = false) ↔
      ∀ r ∈ db, r.table = .cocoons → some plan.cocoonId ≠ some r.id →
        refIn r .contextStartMessageId ids = false ∧
          refIn r .rollbackAnchorMsgId ids = false := by
  have hother : ∀ r : DbRow, some plan.cocoonId ≠ some r.id → ∀ c,
      refIn (rollbackRow plan r) c ids = refIn r c ids := by
    intro r hne c
    unfold refIn
    rw [rollbackRow_refs fun _ hid => hne (congrArg some hid.symm)]
  constructor
  · intro h r hr hrt hne
    have hmem : rollbackRow plan r ∈ rollbackBase db plan draws :=
      List.mem_map_of_mem (List.mem_append_left _ hr)
    have hleft := h _ hmem (by rwa [rollbackRow_table]) (by simp)
    rwa [hother r hne, hother r hne] at hleft
  · intro h written hwritten hrt _
    obtain ⟨r, hr, rfl⟩ := List.mem_map.mp hwritten
    rw [rollbackRow_table] at hrt
    rcases List.mem_append.mp hr with hr | hr
    · by_cases hself : r.id = plan.cocoonId
      · simp only [refIn, rollbackRow_cocoon hrt hself]
        simp [hanchor]
      · have hne : some plan.cocoonId ≠ some r.id := fun heq =>
          hself (Option.some.inj heq).symm
        rw [hother r hne, hother r hne]
        exact h r hr hrt hne
    · rcases trail_table hr with ⟨h', -⟩ | ⟨h', -⟩ <;> rw [hrt] at h' <;> cases h'

lemma noReferenceLeft_rollbackBase (hanchor : plan.anchor.id ∉ ids) :
    NoReferenceLeft (rollbackBase db plan draws) ids none ↔
      NoReferenceLeft db ids (some plan.cocoonId) := by
  have hmemories : removedMemoryIds (rollbackBase db plan draws) ids = removedMemoryIds db ids :=
    removedMemoryIds_map_rollbackRow.trans removedMemoryIds_append_trail
  have hruns : removedRunIds (rollbackBase db plan draws) ids = removedRunIds db ids :=
    removedRunIds_map_rollbackRow.trans removedRunIds_append_trail
  have hsteps := removedStepIds_rollbackBase hfresh plan ids
  have hartifacts := removedArtifactIds_rollbackBase db plan draws ids
  have hcolumn : ∀ {table : TableName}, table ≠ .cocoons → ∀ (c : Column) (ids : List RowId) r,
      r.table = table → refIn (rollbackRow plan r) c ids = refIn r c ids :=
    fun htable c ids r hrt => refIn_rollbackRow (hrt ▸ htable) c ids
  have hembeddings := forall_rollbackBase db plan draws .memoryEmbeddings
    (fun r => refIn r .memoryChunkId (removedMemoryIds db ids) = false) (by decide)
    fun r hrt => by rw [hcolumn (by decide) _ _ r hrt]
  have hcheckpoints := forall_rollbackBase db plan draws .checkpoints
    (fun r => refIn r .anchorMessageId ids = false) (by decide)
    fun r hrt => by rw [hcolumn (by decide) _ _ r hrt]
  have houtbox := forall_rollbackBase db plan draws .pluginImDeliveryOutbox
    (fun r => refIn r .messageId ids = false) (by decide)
    fun r hrt => by rw [hcolumn (by decide) _ _ r hrt]
  have hartifactRows := forall_rollbackBase db plan draws .auditArtifacts
    (fun r => refIn r .stepId (removedStepIds db ids) = true →
      refIn r .runId (removedRunIds db ids) = true) (by decide)
    fun r hrt => by rw [hcolumn (by decide) _ _ r hrt, hcolumn (by decide) _ _ r hrt]
  have hlinkRows := forall_rollbackBase db plan draws .auditLinks
    (fun r => (refIn r .sourceStepId (removedStepIds db ids) ||
      refIn r .targetStepId (removedStepIds db ids) ||
      refIn r .sourceArtifactId (removedArtifactIds db ids) ||
      refIn r .targetArtifactId (removedArtifactIds db ids)) = true →
        refIn r .runId (removedRunIds db ids) = true) (by decide)
    fun r hrt => by simp only [hcolumn (by decide : TableName.auditLinks ≠ .cocoons) _ _ r hrt]
  have hcocoons := forall_cocoon_rollbackBase db draws hanchor
  constructor
  · rintro ⟨h₁, h₂, h₃, h₄, h₅, h₆⟩
    rw [hmemories] at h₁
    rw [hsteps, hruns] at h₅
    rw [hsteps, hartifacts, hruns] at h₆
    exact ⟨hembeddings.mp h₁, hcheckpoints.mp h₂, hcocoons.mp h₃, houtbox.mp h₄,
      hartifactRows.mp h₅, hlinkRows.mp h₆⟩
  · rintro ⟨h₁, h₂, h₃, h₄, h₅, h₆⟩
    refine ⟨?_, hcheckpoints.mpr h₂, hcocoons.mpr h₃, houtbox.mpr h₄, ?_, ?_⟩
    · rw [hmemories]
      exact hembeddings.mpr h₁
    · rw [hsteps, hruns]
      exact hartifactRows.mpr h₅
    · rw [hsteps, hartifacts, hruns]
      exact hlinkRows.mpr h₆

end Base

/-! ## The four users of the removal -/

inductive RemovalCall where
  | rows (messageIds : List RowId)
  | edit (target : Target) (editedMessageId : RowId)
  | retry (target : Target) (messageId : Option RowId)
  | rollback (checkpointId : RowId) (draws : RollbackDraws)

namespace RemovalCall

/-- `none` where the call raises. -/
def result (db : Rows) : RemovalCall → Option Rows
  | rows messageIds => some (deleteMessageRelatedRows db messageIds)
  | edit target editedMessageId => some (cleanupForEdit db target editedMessageId)
  | retry target messageId => some (cleanupForRetry db target messageId)
  | rollback checkpointId draws => executeRollback db checkpointId draws

/-- The messages the call removes. -/
def messageIds (db : Rows) : RemovalCall → List RowId
  | rows messageIds => messageIds
  | edit target editedMessageId => editedMessageIds db target editedMessageId
  | retry target messageId => retriedMessageIds db target messageId
  | rollback checkpointId _ =>
    (rollbackPlan db checkpointId).elim [] (rolledBackMessageIds db)

/-- The cocoon whose anchors the call sets anew. -/
def reset (db : Rows) : RemovalCall → Option RowId
  | rollback checkpointId _ => (rollbackPlan db checkpointId).map RollbackPlan.cocoonId
  | _ => none

def Fresh (db : Rows) : RemovalCall → Prop
  | rollback _ draws => draws.Fresh db
  | _ => True

end RemovalCall

lemma holds_rollbackArtifact {db : Rows} {plan : RollbackPlan} {draws : RollbackDraws}
    {ids : List RowId} (hfresh : draws.Fresh db)
    (hbase : Holds dbSchema (rollbackBase db plan draws)) :
    Holds dbSchema (deleteMessageRelatedRows (rollbackBase db plan draws) ids ++
      [rollbackArtifact draws]) ↔
      Holds dbSchema (deleteMessageRelatedRows (rollbackBase db plan draws) ids) := by
  have hruns : removedRunIds (rollbackBase db plan draws) ids = removedRunIds db ids :=
    removedRunIds_map_rollbackRow.trans removedRunIds_append_trail
  have hnotRemoved : draws.runId ∉ removedRunIds (rollbackBase db plan draws) ids := by
    rw [hruns]
    exact runId_not_removed hfresh
  rw [deleteMessageRelatedRows_eq]
  have htrail : ∀ r ∈ rollbackTrail plan draws,
      isRemoved (rollbackBase db plan draws) ids (rollbackRow plan r) = false →
        rollbackRow plan r ∈ (rollbackBase db plan draws).filter fun r =>
          !isRemoved (rollbackBase db plan draws) ids r := by
    intro r hr hkept
    refine List.mem_filter.mpr ⟨List.mem_map_of_mem (List.mem_append_right _ hr), ?_⟩
    rw [hkept]
    rfl
  have hrun := htrail (rollbackRun plan draws) (by simp [rollbackTrail]) (by
    simpa [isRemoved, rollbackRun] using hnotRemoved)
  have hstep := htrail (rollbackStep draws) (by simp [rollbackTrail]) (by
    show refIn (rollbackStep draws) .runId _ = false
    simpa [refIn, rollbackStep] using hnotRemoved)
  refine holds_concat_iff (fun c _ _ k hk => ?_) fun r hr c henforced => ?_
  · cases c <;> simp only [rollbackArtifact, reduceCtorEq, Option.some.injEq] at hk
    · exact ⟨_, hrun, rfl, hk⟩
    · exact ⟨_, hstep, rfl, hk⟩
  · refine hbase.not_refersTo (fun written hwritten htable => ?_) (List.mem_filter.mp hr).1
      henforced
    obtain ⟨r', hr', rfl⟩ := List.mem_map.mp hwritten
    rw [rollbackRow_table] at htable
    rw [rollbackRow_id]
    rcases List.mem_append.mp hr' with hr' | hr'
    · exact (hfresh r' hr').2.2 htable
    · rcases trail_table hr' with ⟨h, -⟩ | ⟨h, -⟩ <;> rw [htable] at h <;> cases h

lemma executeRollback_eq {db : Rows} {checkpointId : RowId} {plan : RollbackPlan}
    (draws : RollbackDraws) (hplan : rollbackPlan db checkpointId = some plan) :
    executeRollback db checkpointId draws =
      some (deleteMessageRelatedRows (rollbackBase db plan draws) (rolledBackMessageIds db plan) ++
        [rollbackArtifact draws]) := by
  unfold executeRollback
  rw [hplan, Option.map_some, deleteMessageRelatedRows_eq, deleteMessageRelatedRows_eq]
  unfold rollbackBase
  rw [List.filter_map]
  have hkeep : (fun r => !isRemoved ((db ++ rollbackTrail plan draws).map (rollbackRow plan))
      (rolledBackMessageIds db plan) r) ∘ rollbackRow plan = fun r =>
        !isRemoved (db ++ rollbackTrail plan draws) (rolledBackMessageIds db plan) r := by
    funext r
    exact congrArg _ (isRemoved_rollbackRow r)
  rw [hkeep]

lemma anchor_not_removed {db : Rows} {checkpointId : RowId} {plan : RollbackPlan}
    (hkeys : UniqueKeys db) (hplan : rollbackPlan db checkpointId = some plan) :
    plan.anchor.id ∉ rolledBackMessageIds db plan := by
  obtain ⟨⟨hmem, htable⟩, -⟩ := rollbackPlan_spec hplan
  unfold rolledBackMessageIds
  rw [mem_selectIds_of_mem hkeys hmem htable]
  simp

/-- A removal leaves all foreign keys intact exactly when none of the references it does not look at
is to a row it deletes. -/
theorem removal_holds_iff {db db' : Rows} (call : RemovalCall) (hdb : Holds dbSchema db)
    (hkeys : UniqueKeys db) (hfresh : call.Fresh db) (hresult : call.result db = some db') :
    Holds dbSchema db' ↔ NoReferenceLeft db (call.messageIds db) (call.reset db) := by
  cases call with
  | rows messageIds | edit target editedMessageId | retry target messageId =>
    rw [← Option.some.inj hresult]
    exact holds_deleteMessageRelatedRows_iff hdb hkeys
  | rollback checkpointId draws =>
    cases hplan : rollbackPlan db checkpointId with
    | none =>
      simp [RemovalCall.result, executeRollback, hplan] at hresult
    | some plan =>
      have hbase : Holds dbSchema (rollbackBase db plan draws) :=
        holds_rollbackBase hfresh hdb hplan
      have hids : (RemovalCall.rollback checkpointId draws).messageIds db =
          rolledBackMessageIds db plan := by
        simp [RemovalCall.messageIds, hplan]
      have hreset : (RemovalCall.rollback checkpointId draws).reset db =
          some plan.cocoonId := by
        simp [RemovalCall.reset, hplan]
      have hdb' := (executeRollback_eq draws hplan).symm.trans hresult
      rw [← Option.some.inj hdb', hids, hreset, holds_rollbackArtifact hfresh hbase,
        holds_deleteMessageRelatedRows_iff hbase (uniqueKeys_rollbackBase hfresh hkeys),
        noReferenceLeft_rollbackBase hfresh (anchor_not_removed hkeys hplan)]

/-- A cocoon with a message and a later answer, from which a memory was made. -/
def answeredRows : Rows :=
  [{ table := .users, id := "ada", refs := fun _ => none, data := {} },
    { table := .characters, id := "bo", refs := fun _ => none, data := {} },
    { table := .cocoons, id := "c", data := {}
      refs := fun | .ownerUserId => some "ada" | .characterId => some "bo" | _ => none },
    { table := .messages, id := "question", data := { createdAt := 1, role := some .user }
      refs := fun | .cocoonId => some "c" | _ => none },
    { table := .messages, id := "answer", data := { createdAt := 2, role := some .assistant }
      refs := fun | .cocoonId => some "c" | _ => none },
    { table := .memoryChunks, id := "fact", data := { createdAt := 2 }
      refs := fun | .cocoonId => some "c" | .sourceMessageId => some "answer" | _ => none }]

/-- The memory is indexed. -/
def factEmbedding : DbRow :=
  { table := .memoryEmbeddings, id := "vector", data := {}
    refs := fun | .memoryChunkId => some "fact" | _ => none }

/-- An edit of the question takes the answer and its memory with it. -/
theorem answeredRows_edit : Holds dbSchema
    (deleteMessageRelatedRows answeredRows
      (editedMessageIds answeredRows (.cocoon "c") "question")) :=
  (removal_holds_iff (.edit (.cocoon "c") "question") (by decide +kernel)
    (by decide +kernel) trivial rfl).mpr
      ⟨by decide +kernel, by decide +kernel, by decide +kernel, by decide +kernel,
        by decide +kernel, by decide +kernel⟩

/-- The index entry of the memory stays. -/
theorem indexed_edit : ∃ (db db' : Rows) (call : RemovalCall), Holds dbSchema db ∧
    UniqueKeys db ∧ call.result db = some db' ∧ ¬ Holds dbSchema db' :=
  ⟨answeredRows ++ [factEmbedding], _, .edit (.cocoon "c") "question", by decide +kernel,
    by decide +kernel, rfl, by decide +kernel⟩
end CocoonSit
