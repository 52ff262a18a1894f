import CocoonSit.Memory.Candidates
import Mathlib.Data.List.Forall2
import Mathlib.Tactic.Linarith

/-!
# How memories fade

The maintenance job takes a unit of importance from every active memory that has not been accessed
for `maintenance_decay_days`, and archives what has not been accessed for `archive_after_days`.  It
keeps no record of when it has taken a unit, and it does not look at the creation of a memory that
has never been accessed: it takes a unit from such a memory whenever it runs, and reads `updated_at`
to archive it, which the job itself has moved when it took the unit.
-/

namespace CocoonSit

open Table TransitionSystem
open Candidates (MaintenanceProfile daysBefore)

namespace Maintenance

/-! ## Histories -/

/-- A memory with its timestamps, and what the history knows of it: when it was created or accessed
last, its importance then, and when the job has taken a unit since. -/
structure MemoryRow where
  memory : MemoryChunk
  createdAt : Timestamp
  updatedAt : Timestamp
  activeAt : Timestamp
  level : ℤ
  decayedAt : Option Timestamp := none

structure State where
  rows : List MemoryRow := []
  clock : Timestamp := 0

inductive Event where
  | create (memory : MemoryChunk) (now : Timestamp)
  | touch (memoryIds : List RowId) (boost : Option (ℤ → ℤ)) (now : Timestamp)
  | maintain (now : Timestamp)

def Event.now : Event → Timestamp
  | .create _ now => now
  | .touch _ _ now => now
  | .maintain now => now

/-- A memory as the services create one. -/
structure IsNew (memory : MemoryChunk) : Prop where
  active : memory.status = "active"
  unread : memory.lastAccessedAt = none
  nonneg : 0 ≤ memory.importance
  le_five : memory.importance ≤ 5

instance (memory : MemoryChunk) : Decidable (IsNew memory) :=
  decidable_of_iff (memory.status = "active" ∧ memory.lastAccessedAt = none ∧
      0 ≤ memory.importance ∧ memory.importance ≤ 5)
    ⟨fun h => ⟨h.1, h.2.1, h.2.2.1, h.2.2.2⟩, fun h => ⟨h.1, h.2, h.3, h.4⟩⟩

def MemoryRow.new (memory : MemoryChunk) (now : Timestamp) : MemoryRow where
  memory := memory
  createdAt := now
  updatedAt := now
  activeAt := now
  level := memory.importance

/-- An access. -/
def MemoryRow.touched (r : MemoryRow) (boost : Option (ℤ → ℤ)) (now : Timestamp) : MemoryRow :=
  { r with
    memory := r.memory.touched boost now
    updatedAt := now
    activeAt := now
    level := (r.memory.touched boost now).importance
    decayedAt := none }

/-- A run of the job; `onupdate` sets `updated_at` where it changes a column. -/
def MemoryRow.maintained (profile : MaintenanceProfile) (now : Timestamp) (r : MemoryRow) :
    MemoryRow :=
  let memory := Candidates.decay profile now (fun _ => r.updatedAt) r.memory
  { r with
    memory := memory
    updatedAt := if memory.importance = r.memory.importance ∧ memory.status = r.memory.status then
      r.updatedAt else now
    decayedAt := if memory.importance = r.memory.importance then r.decayedAt else some now }

/-- Events come in the order of their times. -/
def step (profile : MaintenanceProfile) (s : State) (e : Event) : Option State :=
  if e.now < s.clock then none
  else match e with
    | .create memory now =>
      if IsNew memory then some { rows := s.rows ++ [.new memory now], clock := now } else none
    | .touch memoryIds boost now =>
      some
        { rows := s.rows.map fun r => if r.memory.id ∈ memoryIds then r.touched boost now else r
          clock := now }
    | .maintain now => some { rows := s.rows.map (·.maintained profile now), clock := now }

section Services

variable {db : Db} {rows : List MemoryRow}

lemma memories_maintain (profile : MaintenanceProfile) {changedAt : MemoryChunk → Timestamp}
    (now : Timestamp) (hdb : db.memories = rows.map MemoryRow.memory)
    (hchanged : ∀ r ∈ rows, changedAt r.memory = r.updatedAt) :
    (Candidates.maintain profile changedAt now db).memories =
      (rows.map (·.maintained profile now)).map MemoryRow.memory := by
  unfold Candidates.maintain
  dsimp only
  rw [hdb, List.map_map, List.map_map]
  refine List.map_congr_left fun r hr => ?_
  rw [Function.comp_apply, Function.comp_apply, MemoryRow.maintained, ← hchanged r hr]
  rfl

lemma memories_touchMemories (memoryIds : List RowId) (boost : Option (ℤ → ℤ)) (now : Timestamp)
    (hdb : db.memories = rows.map MemoryRow.memory) :
    (touchMemories db memoryIds boost now).memories =
      (rows.map fun r => if r.memory.id ∈ memoryIds then r.touched boost now else r).map
        MemoryRow.memory := by
  unfold touchMemories updateIn
  dsimp only
  rw [hdb, List.map_map, List.map_map]
  refine List.map_congr_left fun r _ => ?_
  rw [Function.comp_apply, Function.comp_apply, apply_ite MemoryRow.memory]
  rfl

lemma isNew_of_clamp {memory : MemoryChunk} {n : ℤ} (hactive : memory.status = "active")
    (hunread : memory.lastAccessedAt = none) (himportance : memory.importance = clamp 3 5 n) :
    IsNew memory := by
  refine ⟨hactive, hunread, ?_, ?_⟩
  · rw [himportance]
    exact le_trans (by decide) (le_max_left _ _)
  · rw [himportance]
    exact max_le (by decide) (min_le_left _ _)

lemma isNew_created (text : TextFunctions) (ctx : MemoryContext) (op : MemoryOperation)
    (ownerUserId : Option RowId) (memoryId : RowId) {candidate : MemoryCandidate}
    (hcandidate : candidate.importance ≤ 5) (sourceKind : String) (item : CompactionMemoryItem)
    (source : SummarySource) (summaryCtx : SummaryContext) (tagIds : List RowId) :
    IsNew (op.toMemory text ctx ownerUserId memoryId) ∧
      IsNew (candidate.toMemory sourceKind memoryId) ∧
      IsNew (item.toMemory source summaryCtx tagIds memoryId) := by
  refine ⟨isNew_of_clamp rfl rfl rfl, ⟨rfl, rfl, ?_, ?_⟩, isNew_of_clamp rfl rfl rfl⟩
  · exact le_trans (by decide) (le_max_left _ _)
  · refine max_le (by decide) ?_
    split <;> omega

end Services

/-! ## What is asked of the job -/

/-- A memory that is active, before and after a run of the job: it is decayed only when it was
neither created nor accessed nor decayed within the last `maintenance_decay_days`, and archived
exactly when it was neither created nor accessed within the last `archive_after_days`. -/
structure FadesFor (profile : MaintenanceProfile) (now : Timestamp) (r r' : MemoryRow) : Prop where
  decay : r'.memory.importance < r.memory.importance →
    (r.activeAt : ℤ) ≤ daysBefore now profile.maintenanceDecayDays ∧
      ∀ d ∈ r.decayedAt, (d : ℤ) ≤ daysBefore now profile.maintenanceDecayDays
  archive : r'.memory.status = "archived" ↔
    (r.activeAt : ℤ) < daysBefore now profile.archiveAfterDays

/-- The job takes importance and archives for inactivity alone. -/
def OnlyForInactivity (profile : MaintenanceProfile) (s : State) : Event → State → Prop
  | .maintain now, s' => List.Forall₂
      (fun r r' => r.memory.status = "active" → FadesFor profile now r r') s.rows s'.rows
  | _, _ => True

/-- Since it was created or accessed last, a memory has lost at most one unit for each decay
period. -/
def LossBounded (profile : MaintenanceProfile) (s : State) : Prop :=
  ∀ r ∈ s.rows, (r.level - r.memory.importance) * (86400000000 * profile.maintenanceDecayDays) ≤
    s.clock - r.activeAt

def ImportanceBounded (s : State) : Prop :=
  ∀ r ∈ s.rows, 0 ≤ r.memory.importance ∧ r.memory.importance ≤ 5

/-! ## When the job does that -/

/-- A run of the job finds a memory that it takes a unit from not written for a decay period, and
its test for archiving comes out as the one of the last activity. -/
structure Ready (profile : MaintenanceProfile) (now : Timestamp) (r : MemoryRow) : Prop where
  decay : (r.memory.lastAccessedAt.all fun (at_ : Timestamp) =>
      (at_ : ℤ) < daysBefore now profile.maintenanceDecayDays) → 0 < r.memory.importance →
    (r.updatedAt : ℤ) ≤ daysBefore now profile.maintenanceDecayDays
  unread : r.memory.lastAccessedAt = none →
    (r.createdAt : ℤ) < daysBefore now profile.archiveAfterDays →
      (r.updatedAt : ℤ) < daysBefore now profile.archiveAfterDays
  accessed : ∀ at_ ∈ r.memory.lastAccessedAt,
    ((at_ : ℕ) : ℤ) < daysBefore now profile.archiveAfterDays →
      ((at_ : ℕ) : ℤ) < daysBefore now profile.maintenanceDecayDays

/-- Every active memory is ready when the job runs. -/
def RunsReady (profile : MaintenanceProfile) (s : State) : Event → Prop
  | .maintain now => s.clock ≤ now →
      ∀ r ∈ s.rows, r.memory.status = "active" → Ready profile now r
  | _ => True

/-! ## The rows -/

section Rows

variable {profile : MaintenanceProfile} {now clock : Timestamp} {r : MemoryRow}

/-- What the columns say of the history. -/
structure RowSound (clock : Timestamp) (r : MemoryRow) : Prop where
  activeAt : r.activeAt = r.memory.lastAccessedAt.getD r.createdAt
  updatedAt : r.memory.status = "active" → r.updatedAt = r.decayedAt.getD r.activeAt
  active_le : r.activeAt ≤ r.updatedAt
  updated_le : r.updatedAt ≤ clock
  nonneg : 0 ≤ r.memory.importance
  le_five : r.memory.importance ≤ 5

lemma RowSound.later (h : RowSound clock r) (hle : clock ≤ now) : RowSound now r :=
  { h with updated_le := h.updated_le.trans hle }

lemma RowSound.new {memory : MemoryChunk} (h : IsNew memory) (now : Timestamp) :
    RowSound now (.new memory now) where
  activeAt := by
    rw [MemoryRow.new, h.unread]
    rfl
  updatedAt _ := rfl
  active_le := le_refl _
  updated_le := le_refl _
  nonneg := h.nonneg
  le_five := h.le_five

lemma RowSound.touched (h : RowSound clock r) (boost : Option (ℤ → ℤ)) (now : Timestamp) :
    RowSound now (r.touched boost now) where
  activeAt := rfl
  updatedAt _ := rfl
  active_le := le_refl _
  updated_le := le_refl _
  nonneg := by
    cases boost with
    | none => exact h.nonneg
    | some boost => exact le_max_left _ _
  le_five := by
    cases boost with
    | none => exact h.le_five
    | some boost => exact max_le (by decide) (min_le_left _ _)

/-- The job takes the row. -/
def Taken (profile : MaintenanceProfile) (now : Timestamp) (r : MemoryRow) : Prop :=
  r.memory.status = "active" ∧ r.memory.lastAccessedAt.all fun (at_ : Timestamp) =>
    (at_ : ℤ) < daysBefore now profile.maintenanceDecayDays

instance : Decidable (Taken profile now r) := inferInstanceAs (Decidable (_ ∧ _))

lemma decay_of_taken (h : Taken profile now r) :
    Candidates.decay profile now (fun _ => r.updatedAt) r.memory =
      { r.memory with
        importance := if 0 < r.memory.importance then max 0 (r.memory.importance - 1)
          else r.memory.importance
        status := if ((r.memory.lastAccessedAt.getD r.updatedAt : ℕ) : ℤ) <
            daysBefore now profile.archiveAfterDays then "archived"
          else r.memory.status } := by
  unfold Candidates.decay
  exact if_pos h

lemma decay_of_not_taken (h : ¬ Taken profile now r) :
    Candidates.decay profile now (fun _ => r.updatedAt) r.memory = r.memory := by
  unfold Candidates.decay
  exact if_neg h

lemma maintained_of_not_taken (h : ¬ Taken profile now r) : r.maintained profile now = r := by
  rw [MemoryRow.maintained, decay_of_not_taken h]
  simp

lemma importance_maintained : (r.maintained profile now).memory.importance =
    if Taken profile now r ∧ 0 < r.memory.importance then r.memory.importance - 1
    else r.memory.importance := by
  by_cases htaken : Taken profile now r
  · unfold MemoryRow.maintained
    rw [decay_of_taken htaken]
    dsimp only
    by_cases hpos : 0 < r.memory.importance
    · rw [if_pos hpos, if_pos ⟨htaken, hpos⟩]
      exact max_eq_right (by omega)
    · rw [if_neg hpos, if_neg fun h => hpos h.2]
  · rw [maintained_of_not_taken htaken, if_neg fun h => htaken h.1]

lemma status_maintained : (r.maintained profile now).memory.status =
    if Taken profile now r ∧ ((r.memory.lastAccessedAt.getD r.updatedAt : ℕ) : ℤ) <
      daysBefore now profile.archiveAfterDays then "archived" else r.memory.status := by
  by_cases htaken : Taken profile now r
  · unfold MemoryRow.maintained
    rw [decay_of_taken htaken]
    dsimp only
    exact if_congr (and_iff_right htaken).symm rfl rfl
  · rw [maintained_of_not_taken htaken, if_neg fun h => htaken h.1]

lemma lastAccessedAt_maintained :
    (r.maintained profile now).memory.lastAccessedAt = r.memory.lastAccessedAt := by
  by_cases htaken : Taken profile now r
  · unfold MemoryRow.maintained
    rw [decay_of_taken htaken]
  · rw [maintained_of_not_taken htaken]

lemma decayedAt_maintained : (r.maintained profile now).decayedAt =
    if Taken profile now r ∧ 0 < r.memory.importance then some now else r.decayedAt := by
  have hsame : (r.maintained profile now).decayedAt =
      if (r.maintained profile now).memory.importance = r.memory.importance then r.decayedAt
      else some now := rfl
  rw [hsame, importance_maintained]
  by_cases hdecays : Taken profile now r ∧ 0 < r.memory.importance
  · rw [if_pos hdecays, if_pos hdecays, if_neg (by omega)]
  · rw [if_neg hdecays, if_neg hdecays, if_pos rfl]

lemma updatedAt_maintained : (r.maintained profile now).updatedAt =
    if ¬ (Taken profile now r ∧ 0 < r.memory.importance) ∧
      (r.maintained profile now).memory.status = r.memory.status then r.updatedAt else now := by
  have hsame : (r.maintained profile now).updatedAt =
      if (r.maintained profile now).memory.importance = r.memory.importance ∧
        (r.maintained profile now).memory.status = r.memory.status then r.updatedAt else now := rfl
  rw [hsame, importance_maintained]
  refine if_congr (and_congr_left' ?_) rfl rfl
  by_cases hdecays : Taken profile now r ∧ 0 < r.memory.importance
  · rw [if_pos hdecays]
    exact ⟨fun h => by omega, fun h => absurd hdecays h⟩
  · rw [if_neg hdecays]
    exact ⟨fun _ => hdecays, fun _ => rfl⟩

lemma updatedAt_maintained_le (profile : MaintenanceProfile) (h : r.updatedAt ≤ now) :
    r.updatedAt ≤ (r.maintained profile now).updatedAt ∧
      (r.maintained profile now).updatedAt ≤ now := by
  rw [updatedAt_maintained]
  split
  · exact ⟨le_refl _, h⟩
  · exact ⟨h, le_refl _⟩

lemma RowSound.maintained (h : RowSound clock r) (hle : clock ≤ now) :
    RowSound now (r.maintained profile now) where
  activeAt := by
    rw [lastAccessedAt_maintained]
    exact h.activeAt
  updatedAt := by
    intro hactive
    rw [decayedAt_maintained, updatedAt_maintained]
    by_cases hdecays : Taken profile now r ∧ 0 < r.memory.importance
    · rw [if_pos hdecays, if_neg fun hkept => hkept.1 hdecays]
      rfl
    · -- it is not archived, so nothing of it is written
      have hstatus : (r.maintained profile now).memory.status = r.memory.status := by
        rw [status_maintained] at hactive ⊢
        split at hactive
        · exact absurd hactive (by decide)
        · rw [if_neg ‹_›]
      rw [if_neg hdecays, if_pos ⟨hdecays, hstatus⟩]
      exact h.updatedAt (hstatus ▸ hactive)
  active_le :=
    h.active_le.trans (updatedAt_maintained_le profile (h.updated_le.trans hle)).1
  updated_le := (updatedAt_maintained_le profile (h.updated_le.trans hle)).2
  nonneg := by
    have hpos := h.nonneg
    rw [importance_maintained]
    split <;> omega
  le_five := by
    have hle := h.le_five
    rw [importance_maintained]
    split <;> omega

lemma fadesFor_iff (h : RowSound clock r) (hactive : r.memory.status = "active") :
    FadesFor profile now r (r.maintained profile now) ↔ Ready profile now r := by
  have hdecays : (r.maintained profile now).memory.importance < r.memory.importance ↔
      Taken profile now r ∧ 0 < r.memory.importance := by
    rw [importance_maintained]
    split <;> rename_i hdecays
    · exact ⟨fun _ => hdecays, fun _ => by omega⟩
    · exact ⟨fun hlt => absurd hlt (lt_irrefl _), fun h => absurd h hdecays⟩
  have harchived : (r.maintained profile now).memory.status = "archived" ↔
      Taken profile now r ∧ ((r.memory.lastAccessedAt.getD r.updatedAt : ℕ) : ℤ) <
        daysBefore now profile.archiveAfterDays := by
    rw [status_maintained]
    split <;> rename_i harchived
    · exact ⟨fun _ => harchived, fun _ => rfl⟩
    · rw [hactive]
      exact ⟨fun heq => absurd heq (by decide), fun h => absurd h harchived⟩
  -- `updated_at` is the last of the creation, the accesses and the decays
  have hlast : (r.updatedAt : ℤ) ≤ daysBefore now profile.maintenanceDecayDays ↔
      (r.activeAt : ℤ) ≤ daysBefore now profile.maintenanceDecayDays ∧
        ∀ d ∈ r.decayedAt, (d : ℤ) ≤ daysBefore now profile.maintenanceDecayDays := by
    have hle := h.active_le
    have hupdated := h.updatedAt hactive
    cases hd : r.decayedAt with
    | none =>
      rw [hd, Option.getD_none] at hupdated
      rw [hupdated]
      exact ⟨fun hle => ⟨hle, fun d hd => by cases hd⟩, fun h => h.1⟩
    | some d =>
      rw [hd, Option.getD_some] at hupdated
      rw [hupdated] at hle ⊢
      exact ⟨fun hd => ⟨(Int.ofNat_le.mpr hle).trans hd, fun d' hd' => Option.some.inj hd' ▸ hd⟩,
        fun h => h.2 d rfl⟩
  constructor
  · intro hfades
    refine ⟨fun hold hpos => hlast.mpr (hfades.decay (hdecays.mpr ⟨⟨hactive, hold⟩, hpos⟩)),
      fun hunread hage => ?_, fun at_ hat hage => ?_⟩
    · have hdue := (harchived.mp (hfades.archive.mpr ?_)).2
      · rwa [hunread] at hdue
      · rwa [h.activeAt, hunread]
    · have htaken := (harchived.mp (hfades.archive.mpr ?_)).1.2
      · rw [Option.mem_def.mp hat, Option.all_some] at htaken
        exact of_decide_eq_true htaken
      · rwa [h.activeAt, Option.mem_def.mp hat]
  · intro hready
    refine ⟨fun hlost => ?_, harchived.trans ?_⟩
    · obtain ⟨htaken, hpos⟩ := hdecays.mp hlost
      exact hlast.mp (hready.decay htaken.2 hpos)
    · rw [h.activeAt]
      cases hat : r.memory.lastAccessedAt with
      | none =>
        have hcreated : r.createdAt ≤ r.updatedAt := by
          have hle := h.active_le
          rwa [h.activeAt, hat] at hle
        refine ⟨fun hdue => (Int.ofNat_le.mpr hcreated).trans_lt hdue.2, fun hage => ?_⟩
        exact ⟨⟨hactive, by rw [hat]; rfl⟩, hready.unread hat hage⟩
      | some at_ =>
        refine ⟨fun hdue => hdue.2, fun hage => ⟨⟨hactive, ?_⟩, hage⟩⟩
        rw [hat, Option.all_some]
        exact decide_eq_true (hready.accessed at_ hat hage)

lemma lossBounded_maintained (h : RowSound clock r) (hle : clock ≤ now)
    (hready : r.memory.status = "active" → Ready profile now r)
    (hloss : (r.level - r.memory.importance) * (86400000000 * profile.maintenanceDecayDays) ≤
      (r.updatedAt : ℤ) - r.activeAt) :
    (r.level - (r.maintained profile now).memory.importance) *
        (86400000000 * profile.maintenanceDecayDays) ≤
      ((r.maintained profile now).updatedAt : ℤ) - r.activeAt := by
  have hupdated := (updatedAt_maintained_le profile (h.updated_le.trans hle)).1
  by_cases hdecays : Taken profile now r ∧ 0 < r.memory.importance
  · have hspaced := (hready hdecays.1.1).decay hdecays.1.2 hdecays.2
    rw [importance_maintained, if_pos hdecays, updatedAt_maintained,
      if_neg fun hkept => hkept.1 hdecays]
    unfold daysBefore at hspaced
    have hone : r.level - (r.memory.importance - 1) = r.level - r.memory.importance + 1 := by omega
    rw [hone, add_mul, one_mul]
    linarith
  · rw [importance_maintained, if_neg hdecays]
    exact hloss.trans (sub_le_sub_right (Int.ofNat_le.mpr hupdated) _)

end Rows

/-! ## Histories of accesses and runs -/

section Histories

variable {profile : MaintenanceProfile} {s s' : State} {e : Event}

lemma step_cases (h : step profile s e = some s') : s.clock ≤ e.now ∧ s'.clock = e.now ∧
    ((∃ memory now, e = .create memory now ∧ IsNew memory ∧
        s'.rows = s.rows ++ [.new memory now]) ∨
      (∃ memoryIds boost now, e = .touch memoryIds boost now ∧
        s'.rows = s.rows.map fun r =>
          if r.memory.id ∈ memoryIds then r.touched boost now else r) ∨
      ∃ now, e = .maintain now ∧ s'.rows = s.rows.map (·.maintained profile now)) := by
  unfold step at h
  split at h
  · cases h
  · rename_i hclock
    refine ⟨not_lt.mp hclock, ?_⟩
    cases e with
    | create memory now =>
      dsimp only at h
      split at h
      · obtain rfl := Option.some.inj h
        exact ⟨rfl, .inl ⟨memory, now, rfl, ‹_›, rfl⟩⟩
      · cases h
    | touch memoryIds boost now =>
      obtain rfl := Option.some.inj h
      exact ⟨rfl, .inr (.inl ⟨memoryIds, boost, now, rfl, rfl⟩)⟩
    | maintain now =>
      obtain rfl := Option.some.inj h
      exact ⟨rfl, .inr (.inr ⟨now, rfl, rfl⟩)⟩

/-- The rows are sound. -/
def Sound (s : State) : Prop := ∀ r ∈ s.rows, RowSound s.clock r

lemma sound_step (h : Sound s) (hs : step profile s e = some s') : Sound s' := by
  obtain ⟨hle, hclock, hcases⟩ := step_cases hs
  intro r' hr'
  rw [hclock]
  rcases hcases with ⟨memory, now, rfl, hnew, hrows⟩ | ⟨memoryIds, boost, now, rfl, hrows⟩ |
    ⟨now, rfl, hrows⟩
  · rw [hrows] at hr'
    rcases List.mem_append.mp hr' with hr' | hr'
    · exact (h r' hr').later hle
    · rw [List.mem_singleton.mp hr']
      exact .new hnew now
  · rw [hrows] at hr'
    obtain ⟨r, hr, rfl⟩ := List.mem_map.mp hr'
    split
    · exact (h r hr).touched boost now
    · exact (h r hr).later hle
  · rw [hrows] at hr'
    obtain ⟨r, hr, rfl⟩ := List.mem_map.mp hr'
    exact (h r hr).maintained hle

lemma onlyForInactivity_step (h : Sound s) :
    (∀ s', step profile s e = some s' → OnlyForInactivity profile s e s') ↔
      RunsReady profile s e := by
  cases e with
  | create memory now => exact ⟨fun _ => trivial, fun _ _ _ => trivial⟩
  | touch memoryIds boost now => exact ⟨fun _ => trivial, fun _ _ _ => trivial⟩
  | maintain now =>
    have hrows : ∀ s', step profile s (.maintain now) = some s' ↔
        s.clock ≤ now ∧ s' = { rows := s.rows.map (·.maintained profile now), clock := now } := by
      intro s'
      unfold step
      by_cases hclock : (Event.maintain now).now < s.clock
      · rw [if_pos hclock]
        exact ⟨fun h => (by cases h), fun h => absurd hclock (not_lt.mpr h.1)⟩
      · rw [if_neg hclock]
        exact ⟨fun h => ⟨not_lt.mp hclock, (Option.some.inj h).symm⟩, fun h => by rw [h.2]⟩
    have hall : List.Forall₂ (fun r r' => r.memory.status = "active" → FadesFor profile now r r')
          s.rows (s.rows.map (·.maintained profile now)) ↔
        ∀ r ∈ s.rows, r.memory.status = "active" → Ready profile now r := by
      rw [List.forall₂_map_right_iff, List.forall₂_same]
      exact forall₂_congr fun r hr => forall_congr' fun hactive => fadesFor_iff (h r hr) hactive
    constructor
    · intro hsteps hclock
      exact hall.mp (hsteps _ ((hrows _).mpr ⟨hclock, rfl⟩))
    · intro hready s' hs
      obtain ⟨hclock, rfl⟩ := (hrows s').mp hs
      exact hall.mpr (hready hclock)

/-- The loss of each memory is within the decay periods up to when it was written last. -/
def LossWithin (profile : MaintenanceProfile) (s : State) : Prop :=
  ∀ r ∈ s.rows, (r.level - r.memory.importance) * (86400000000 * profile.maintenanceDecayDays) ≤
    (r.updatedAt : ℤ) - r.activeAt

lemma lossWithin_step (h : Sound s) (hloss : LossWithin profile s) (hready : RunsReady profile s e)
    (hs : step profile s e = some s') : LossWithin profile s' := by
  obtain ⟨hle, -, hcases⟩ := step_cases hs
  intro r' hr'
  rcases hcases with ⟨memory, now, rfl, -, hrows⟩ | ⟨memoryIds, boost, now, rfl, hrows⟩ |
    ⟨now, rfl, hrows⟩
  · rw [hrows] at hr'
    rcases List.mem_append.mp hr' with hr' | hr'
    · exact hloss r' hr'
    · rw [List.mem_singleton.mp hr']
      simp [MemoryRow.new]
  · rw [hrows] at hr'
    obtain ⟨r, hr, rfl⟩ := List.mem_map.mp hr'
    split
    · simp [MemoryRow.touched]
    · exact hloss r hr
  · rw [hrows] at hr'
    obtain ⟨r, hr, rfl⟩ := List.mem_map.mp hr'
    exact lossBounded_maintained (h r hr) hle (hready hle r hr) (hloss r hr)

/-- Importance is lost for inactivity alone, at most one unit a period, exactly in the histories in
which the job always finds the memories ready; and it is between zero and five in all. -/
theorem onlyForInactivity_iff (profile : MaintenanceProfile) (es : List Event) :
    (AllSteps (step profile) (OnlyForInactivity profile) {} es ↔
      StepsMeet (step profile) (RunsReady profile) {} es) ∧
    (StepsMeet (step profile) (RunsReady profile) {} es →
      AllStates (step profile) (LossBounded profile) {} es) ∧
    AllStates (step profile) ImportanceBounded {} es := by
  have hempty : Sound {} := fun r hr => absurd hr List.not_mem_nil
  refine ⟨?_, fun hready => ?_, ?_⟩
  · exact allSteps_iff_stepsMeet Sound (fun s e h => onlyForInactivity_step h)
      (fun s e s' h _ hs => sound_step h hs) hempty
  · refine allStates_of_stepsMeet (fun s => Sound s ∧ LossWithin profile s)
      (fun s e s' h hok hs => ⟨sound_step h.1 hs, lossWithin_step h.1 h.2 hok hs⟩)
      (fun s h r hr => ?_) ⟨hempty, fun r hr => absurd hr List.not_mem_nil⟩ hready
    exact (h.2 r hr).trans (sub_le_sub_right (Int.ofNat_le.mpr (h.1 r hr).updated_le) _)
  · exact allStates_of_invariant Sound (fun s e s' h hs => sound_step h hs)
      (fun s h r hr => ⟨(h r hr).nonneg, (h r hr).le_five⟩) hempty es

end Histories

/-! A memory that is created, and a run of the job an hour later. -/

def newMemory : MemoryChunk := { id := "m", scope := "memory", content := "Ada drinks tea" }

/-- The memory has lost a unit, though it is new. -/
theorem newMemory_decayed :
    (∃ s, run (step {}) {} [.create newMemory 0, .maintain 3600000000] = some s ∧
      s.rows.map (fun r => r.memory.importance) = [2]) ∧
    ¬ AllSteps (step {}) (OnlyForInactivity {}) {}
      [.create newMemory 0, .maintain 3600000000] := by
  refine ⟨⟨_, rfl, rfl⟩, fun h => ?_⟩
  have hfades := (List.forall₂_cons.mp (h.2.1 _ rfl)).1 rfl
  exact absurd (hfades.decay (by decide)).1 (by decide)

end Maintenance

end CocoonSit
