import CocoonSit.Removal.Schema
import Mathlib.Algebra.Order.BigOperators.Group.List
import Mathlib.Algebra.Order.Ring.Nat

/-!
# The subtree of a cocoon

Deleting a cocoon deletes its forks, their forks and so on.  They are collected breadth first,
without a note of what was seen: on a forest the walk ends, as it does for all cocoons that were
forked off cocoons that were there before them.
-/

namespace CocoonSit

/-- `children_by_parent.get(current, [])`. -/
def childIds (db : Rows) (parentId : RowId) : List RowId :=
  selectIds db .cocoons fun r => r.refs .parentId = some parentId

/-- The `while` loop of `_collect_cocoon_subtree_ids`. -/
def collectLoop (db : Rows) : ℕ → List RowId → List RowId → Option (List RowId)
  | _, ordered, [] => some ordered
  | 0, _, _ :: _ => none
  | fuel + 1, ordered, current :: queue =>
    collectLoop db fuel (ordered ++ [current]) (queue ++ childIds db current)

/-- `none` where the loop is not done by then. -/
def collectCocoonSubtreeIds (db : Rows) (fuel : ℕ) (rootId : RowId) : Option (List RowId) :=
  collectLoop db fuel [] [rootId]

/-- The cocoon is the root or was forked off one below it. -/
inductive Descends (db : Rows) (rootId : RowId) : RowId → Prop
  | root : Descends db rootId rootId
  | child {id childId : RowId} (h : Descends db rootId id) (hchild : childId ∈ childIds db id) :
      Descends db rootId childId

variable {db : Rows} {rootId : RowId}

lemma descends_iff {id : RowId} :
    Descends db rootId id ↔ id = rootId ∨ ∃ q ∈ childIds db rootId, Descends db q id := by
  constructor
  · intro h
    induction h with
    | root => exact .inl rfl
    | child h hchild ih =>
      rcases ih with rfl | ⟨q, hq, hdescends⟩
      · exact .inr ⟨_, hchild, .root⟩
      · exact .inr ⟨q, hq, .child hdescends hchild⟩
  · rintro (rfl | ⟨q, hq, h⟩)
    · exact .root
    · induction h with
      | root => exact .child .root hq
      | child h hchild ih => exact .child ih hchild

lemma mem_collectLoop {fuel : ℕ} {ordered queue ids : List RowId}
    (h : collectLoop db fuel ordered queue = some ids) (id : RowId) :
    id ∈ ids ↔ id ∈ ordered ∨ ∃ q ∈ queue, Descends db q id := by
  induction fuel generalizing ordered queue with
  | zero =>
    cases queue with
    | nil =>
      rw [collectLoop, Option.some.injEq] at h
      simp [h]
    | cons current queue => cases h
  | succ fuel ih =>
    cases queue with
    | nil =>
      rw [collectLoop, Option.some.injEq] at h
      simp [h]
    | cons current queue =>
      rw [ih h]
      have hcurrent : Descends db current id ↔
          id = current ∨ ∃ q ∈ childIds db current, Descends db q id := descends_iff
      simp only [List.mem_append, List.mem_cons, List.not_mem_nil, or_false,
        exists_eq_or_imp, hcurrent]
      constructor
      · rintro ((h | rfl) | ⟨q, hq | hq, h⟩)
        · exact .inl h
        · exact .inr (.inl (.inl rfl))
        · exact .inr (.inr ⟨q, hq, h⟩)
        · exact .inr (.inl (.inr ⟨q, hq, h⟩))
      · rintro (h | (rfl | ⟨q, hq, h⟩) | ⟨q, hq, h⟩)
        · exact .inl (.inl h)
        · exact .inl (.inr rfl)
        · exact .inr ⟨q, .inr hq, h⟩
        · exact .inr ⟨q, .inl hq, h⟩

/-- The collected cocoons are those below the root. -/
theorem mem_collectCocoonSubtreeIds {fuel : ℕ} {ids : List RowId}
    (h : collectCocoonSubtreeIds db fuel rootId = some ids) (id : RowId) :
    id ∈ ids ↔ Descends db rootId id := by
  rw [mem_collectLoop h]
  simp

/-! ## The walk ends -/

section Ends

variable {rank : RowId → ℕ} {bound : ℕ}

/-- What is left to do for the cocoons in the queue, when each has fewer than `db.length + 1`
children and the ranks go up to `bound`. -/
def walkMeasure (db : Rows) (rank : RowId → ℕ) (bound : ℕ) (queue : List RowId) : ℕ :=
  (queue.map fun id => (db.length + 1) ^ (bound - rank id)).sum

lemma walkMeasure_childIds_lt (hrank : ∀ id, ∀ childId ∈ childIds db id, rank id < rank childId)
    (hbound : ∀ r ∈ db, rank r.id ≤ bound) (id : RowId) :
    walkMeasure db rank bound (childIds db id) < (db.length + 1) ^ (bound - rank id) := by
  rcases (childIds db id).eq_nil_or_concat with hnil | ⟨_, last, hlast⟩
  · rw [walkMeasure, hnil]
    exact Nat.pow_pos (Nat.succ_pos _)
  · have hlt : rank id < bound := by
      have hmem : last ∈ childIds db id := by simp [hlast]
      obtain ⟨r, hr, -, -, hid⟩ := mem_selectIds.mp hmem
      have hle := hbound r hr
      rw [hid] at hle
      exact (hrank id last hmem).trans_le hle
    -- each child weighs at most this much
    have hchild : ∀ w ∈ (childIds db id).map fun id => (db.length + 1) ^ (bound - rank id),
        w ≤ (db.length + 1) ^ (bound - rank id - 1) := by
      intro w hw
      obtain ⟨childId, hmem, rfl⟩ := List.mem_map.mp hw
      have := hrank id childId hmem
      exact Nat.pow_le_pow_right (by omega) (by omega)
    have hlength : (childIds db id).length ≤ db.length := by
      rw [childIds, selectIds, List.length_map]
      exact List.length_filter_le _ _
    have hpow : (db.length + 1) ^ (bound - rank id) =
        (db.length + 1) ^ (bound - rank id - 1) * (db.length + 1) := by
      rw [← Nat.pow_succ]
      congr 1
      omega
    calc walkMeasure db rank bound (childIds db id)
        ≤ (childIds db id).length * (db.length + 1) ^ (bound - rank id - 1) := by
          have hsum := List.sum_le_card_nsmul _ _ hchild
          simpa [walkMeasure] using hsum
      _ ≤ db.length * (db.length + 1) ^ (bound - rank id - 1) := Nat.mul_le_mul_right _ hlength
      _ < (db.length + 1) ^ (bound - rank id) := by
          rw [hpow, mul_comm]
          exact Nat.mul_lt_mul_of_pos_left (Nat.lt_succ_self _) (Nat.pow_pos (Nat.succ_pos _))

lemma collectLoop_returns (hrank : ∀ id, ∀ childId ∈ childIds db id, rank id < rank childId)
    (hbound : ∀ r ∈ db, rank r.id ≤ bound) (fuel : ℕ) (ordered queue : List RowId)
    (hfuel : walkMeasure db rank bound queue ≤ fuel) :
    ∃ ids, collectLoop db fuel ordered queue = some ids := by
  induction fuel generalizing ordered queue with
  | zero =>
    cases queue with
    | nil => exact ⟨ordered, rfl⟩
    | cons current queue =>
      have hpos : 0 < (db.length + 1) ^ (bound - rank current) :=
        Nat.pow_pos (Nat.succ_pos _)
      simp only [walkMeasure, List.map_cons, List.sum_cons] at hfuel
      omega
  | succ fuel ih =>
    cases queue with
    | nil => exact ⟨ordered, rfl⟩
    | cons current queue =>
      refine ih _ _ ?_
      have hchildren := walkMeasure_childIds_lt hrank hbound current
      simp only [walkMeasure, List.map_append, List.sum_append, List.map_cons,
        List.sum_cons] at hfuel hchildren ⊢
      omega

/-- On a forest, in which a fork comes after what it was forked off, the walk ends, with what is
below the root. -/
theorem collectCocoonSubtreeIds_returns
    (hrank : ∀ id, ∀ childId ∈ childIds db id, rank id < rank childId) (rootId : RowId) :
    ∃ fuel ids, collectCocoonSubtreeIds db fuel rootId = some ids ∧
      ∀ id, id ∈ ids ↔ Descends db rootId id := by
  have hbound : ∀ r ∈ db, rank r.id ≤ (db.map fun r => rank r.id).sum := fun r hr =>
    List.le_sum_of_mem (List.mem_map_of_mem hr)
  obtain ⟨ids, hids⟩ := collectLoop_returns hrank hbound _ [] [rootId] le_rfl
  exact ⟨_, ids, hids, mem_collectCocoonSubtreeIds hids⟩

/-- A cocoon and its fork. -/
def forkedRows : Rows :=
  [⟨.cocoons, "c", fun _ => none, {}⟩,
    ⟨.cocoons, "d", fun c => if c = .parentId then some "c" else none, {}⟩]

theorem forkedRows_returns : ∃ fuel ids, collectCocoonSubtreeIds forkedRows fuel "c" = some ids ∧
    ∀ id, id ∈ ids ↔ Descends forkedRows "c" id := by
  refine @collectCocoonSubtreeIds_returns _ (fun id => if id = "d" then 1 else 0) ?_ "c"
  intro id childId hmem
  obtain ⟨r, hr, -, hparent, rfl⟩ := mem_selectIds.mp hmem
  simp only [forkedRows, List.mem_cons, List.not_mem_nil, or_false] at hr
  rcases hr with rfl | rfl
  · simp at hparent
  · simp at hparent
    subst hparent
    decide

end Ends

end CocoonSit
