import CocoonSit.Lib.Rounding
import CocoonSit.Memory.Service
import Mathlib.Tactic.IntervalCases

/-!
# What many accesses do to a memory's importance

Each call of `touch_memories` adds the boost to the importance, as floats are added, and rounds the
sum to the integer that the column holds.  So a boost is kept or lost at each call: the default one
never counts, and a large one counts as a whole unit.
-/

namespace CocoonSit

open Table Rounding

namespace Accesses

/-- What `touch_memories` computes with `importance_boost`; a boost of zero is none. -/
def accessBoost (boost : ℚ) : Option (ℤ → ℤ) :=
  if boost = 0 then none else some fun importance => roundHalfEven (toFloat (importance + boost))

/-- A call of `touch_memories`. -/
structure Access where
  memoryIds : List String
  now : Timestamp

/-- Calls one after the other. -/
def touches (db : Db) (boost : ℚ) (calls : List Access) : Db :=
  calls.foldl (fun db call => touchMemories db call.memoryIds (accessBoost boost) call.now) db

/-- The importance after one more access. -/
def boosted (boost : ℚ) (importance : ℤ) : ℤ :=
  max 0 (min 5 (roundHalfEven (toFloat (importance + boost))))

/-- The importance after some accesses. -/
def importanceAfter (boost : ℚ) (importance : ℤ) : ℕ → ℤ
  | 0 => importance
  | n + 1 => boosted boost (importanceAfter boost importance n)

/-- Within one unit of `min(5, x)`, where `x` is rounded down or to the nearest. -/
def Near (importance : ℤ) (x : ℚ) : Prop :=
  |importance - min 5 ⌊x⌋| ≤ 1 ∨ |importance - min 5 (roundHalfEven x)| ≤ 1

/-- Accesses accumulate: after any number of them the importance is near what all the boosts make of
it, it is raised by some number of them unless it is five already, and it stays between zero and
five and does not fall. -/
structure Accumulates (db : Db) (memory : MemoryChunk) (boost : ℚ) : Prop where
  near : ∀ calls, (∀ call ∈ calls, memory.id ∈ call.memoryIds) →
    ∀ m ∈ get (touches db boost calls).memories memory.id,
      Near m.importance (memory.importance + calls.length * boost)
  raised : memory.importance = 5 ∨ ∃ n : ℕ, ∀ calls, calls.length = n →
    (∀ call ∈ calls, memory.id ∈ call.memoryIds) →
      ∀ m ∈ get (touches db boost calls).memories memory.id, memory.importance < m.importance
  within : ∀ calls, (∀ call ∈ calls, memory.id ∈ call.memoryIds) →
    ∀ m ∈ get (touches db boost calls).memories memory.id, 0 ≤ m.importance ∧ m.importance ≤ 5
  kept : ∀ calls call, (∀ c ∈ call :: calls, memory.id ∈ c.memoryIds) →
    ∀ m ∈ get (touches db boost calls).memories memory.id,
      ∀ m' ∈ get (touches db boost (calls ++ [call])).memories memory.id,
        m.importance ≤ m'.importance

/-! ## The importance after some accesses -/

section Touches

variable {db : Db} {memory : MemoryChunk} {boost : ℚ}

lemma get_touchMemories {ids : List String} {f : Option (ℤ → ℤ)} {now : Timestamp}
    (h : memory.id ∈ ids) :
    get (touchMemories db ids f now).memories memory.id =
      (get db.memories memory.id).map fun m => m.touched f now := by
  have hkey : ∀ m : MemoryChunk, key (if key m ∈ ids then m.touched f now else m) = key m := by
    intro m
    split <;> rfl
  rw [touchMemories, updateIn, get_map hkey]
  refine Option.map_congr fun m hm => ?_
  rw [if_pos (by rw [key_of_get hm]; exact h)]

lemma get_touches (hboost : boost ≠ 0) (hmemory : get db.memories memory.id = some memory)
    (calls : List Access) (hcalls : ∀ call ∈ calls, memory.id ∈ call.memoryIds) :
    ∃ m, get (touches db boost calls).memories memory.id = some m ∧
      m.importance = importanceAfter boost memory.importance calls.length := by
  induction calls using List.reverseRecOn with
  | nil => exact ⟨memory, hmemory, rfl⟩
  | append_singleton calls call ih =>
    obtain ⟨m, hm, himportance⟩ := ih fun c hc => hcalls c (List.mem_append_left _ hc)
    have hnamed := hcalls call (List.mem_append_right _ List.mem_cons_self)
    refine ⟨m.touched (accessBoost boost) call.now, ?_, ?_⟩
    · rw [touches, List.foldl_append, List.foldl_cons, List.foldl_nil, get_touchMemories hnamed]
      rw [touches] at hm
      rw [hm]
      rfl
    · rw [List.length_append, List.length_singleton, importanceAfter, ← himportance]
      have hsome : accessBoost boost = some fun importance : ℤ =>
          roundHalfEven (toFloat (importance + boost)) := if_neg hboost
      rw [hsome]
      rfl

lemma accumulates_iff_boosted (hboost : boost ≠ 0)
    (hmemory : get db.memories memory.id = some memory) :
    Accumulates db memory boost ↔
      (∀ n : ℕ, Near (importanceAfter boost memory.importance n) (memory.importance + n * boost)) ∧
      (memory.importance = 5 ∨
        ∃ n : ℕ, memory.importance < importanceAfter boost memory.importance n) ∧
      ∀ n : ℕ, 0 ≤ importanceAfter boost memory.importance n ∧
        importanceAfter boost memory.importance n ≤ 5 ∧
        importanceAfter boost memory.importance n ≤
          importanceAfter boost memory.importance (n + 1) := by
  have hcalls : ∀ n : ℕ, ∀ call ∈ List.replicate n (⟨[memory.id], 0⟩ : Access),
      memory.id ∈ call.memoryIds := fun n call hcall => by
    rw [List.eq_of_mem_replicate hcall]
    exact List.mem_cons_self
  have hafter : ∀ calls : List Access, (∀ call ∈ calls, memory.id ∈ call.memoryIds) →
      ∀ m ∈ get (touches db boost calls).memories memory.id,
        m.importance = importanceAfter boost memory.importance calls.length := by
    intro calls hnamed m hm
    obtain ⟨m', hm', himportance⟩ := get_touches hboost hmemory calls hnamed
    rw [hm'] at hm
    cases hm
    exact himportance
  constructor
  · intro h
    refine ⟨fun n => ?_, ?_, fun n => ?_⟩
    · obtain ⟨m, hm, himportance⟩ := get_touches hboost hmemory _ (hcalls n)
      have hnear := h.near _ (hcalls n) m hm
      rwa [himportance, List.length_replicate] at hnear
    · obtain hfive | ⟨n, hn⟩ := h.raised
      · exact .inl hfive
      obtain ⟨m, hm, himportance⟩ := get_touches hboost hmemory _ (hcalls n)
      refine .inr ⟨n, ?_⟩
      have hlt := hn _ List.length_replicate (hcalls n) m hm
      rwa [himportance, List.length_replicate] at hlt
    · obtain ⟨m, hm, himportance⟩ := get_touches hboost hmemory _ (hcalls n)
      have hsucc := hcalls (n + 1)
      obtain ⟨m', hm', himportance'⟩ := get_touches hboost hmemory _ hsucc
      have hwithin := h.within _ (hcalls n) m hm
      have hkept := h.kept (List.replicate n ⟨[memory.id], 0⟩) ⟨[memory.id], 0⟩ hsucc m hm m'
        (by rw [← List.replicate_succ']; exact hm')
      rw [himportance, List.length_replicate] at hwithin hkept
      rw [himportance', List.length_replicate] at hkept
      exact ⟨hwithin.1, hwithin.2, hkept⟩
  · rintro ⟨hnear, hraised, hkept⟩
    refine ⟨fun calls hnamed m hm => ?_, ?_, fun calls hnamed m hm => ?_,
      fun calls call hnamed m hm m' hm' => ?_⟩
    · rw [hafter calls hnamed m hm]
      exact hnear calls.length
    · obtain hfive | ⟨n, hn⟩ := hraised
      · exact .inl hfive
      refine .inr ⟨n, fun calls hlength hnamed m hm => ?_⟩
      rw [hafter calls hnamed m hm, hlength]
      exact hn
    · rw [hafter calls hnamed m hm]
      exact ⟨(hkept calls.length).1, (hkept calls.length).2.1⟩
    · have hall : ∀ c ∈ calls ++ [call], memory.id ∈ c.memoryIds := fun c hc =>
        hnamed c (by simpa [or_comm] using hc)
      rw [hafter calls (fun c hc => hnamed c (List.mem_cons_of_mem _ hc)) m hm,
        hafter _ hall m' hm', List.length_append, List.length_singleton]
      exact (hkept calls.length).2.2

end Touches

/-! ## One access -/

section Boosted

variable {boost : ℚ} {i j k : ℤ} {c : ℤ} {x : ℚ}

lemma boosted_le (hi : 0 ≤ i) (hboost : 0 < boost) (hj : 0 ≤ j) (hk : 0 < k)
    (hfew : k < 2 ^ 52) (hle : (i : ℚ) + boost ≤ k / 2 ^ 3)
    (hround : roundHalfEven ((k : ℚ) / 2 ^ 3) ≤ j) : boosted boost i ≤ j := by
  have hpos : (0 : ℚ) < i + boost := add_pos_of_nonneg_of_pos (by exact_mod_cast hi) hboost
  have hfloat := toFloat_mono hpos hle
  rw [toFloat_dyadic 3 hk hfew] at hfloat
  have hsum := (roundHalfEven_mono hfloat).trans hround
  unfold boosted
  omega

lemma le_boosted (hj : j ≤ 5) (hk : 0 < k) (hfew : k < 2 ^ 52)
    (hle : (k : ℚ) / 2 ^ 3 ≤ i + boost) (hround : j ≤ roundHalfEven ((k : ℚ) / 2 ^ 3)) :
    j ≤ boosted boost i := by
  have hpos : (0 : ℚ) < k / 2 ^ 3 := by positivity
  have hfloat := toFloat_mono hpos hle
  rw [toFloat_dyadic 3 hk hfew] at hfloat
  have hsum := hround.trans (roundHalfEven_mono hfloat)
  unfold boosted
  omega

lemma self_le_boosted (h0 : 0 ≤ i) (h5 : i ≤ 5) (hboost : 0 < boost) : i ≤ boosted boost i := by
  rcases h0.eq_or_lt with rfl | hpos
  · exact le_max_left _ _
  · refine le_boosted (k := 8 * i) h5 (by omega) (by omega) ?_ ?_
    · push_cast
      linarith
    · rw [show ((8 * i : ℤ) : ℚ) / 2 ^ 3 = (i : ℚ) by push_cast; ring, roundHalfEven_intCast]

lemma boosted_nonneg (boost : ℚ) (i : ℤ) : 0 ≤ boosted boost i := le_max_left _ _

lemma boosted_le_five (boost : ℚ) (i : ℤ) : boosted boost i ≤ 5 :=
  max_le (by norm_num) (min_le_left _ _)

/-! ## Near -/

lemma near_of_floor (lo hi : ℤ) (hlo : (lo : ℚ) ≤ x) (hhi : x < hi + 1) (hc : c ≤ min 5 lo + 1)
    (hc' : min 5 hi ≤ c + 1) : Near c x := by
  have hfloor : lo ≤ ⌊x⌋ := Int.le_floor.mpr hlo
  have hfloor' : ⌊x⌋ < hi + 1 := Int.floor_lt.mpr (by push_cast; exact hhi)
  refine .inl (abs_le.mpr ⟨?_, ?_⟩) <;> omega

lemma near_of_round (lo hi : ℤ) (hlo : (lo : ℚ) - 1 / 2 < x) (hhi : x < hi + 1 / 2)
    (hc : c ≤ min 5 lo + 1)
    (hc' : min 5 hi ≤ c + 1) : Near c x := by
  have hround : lo - 1 < roundHalfEven x := lt_roundHalfEven_of_half_lt (by push_cast; linarith)
  have hround' : roundHalfEven x ≤ hi := roundHalfEven_le_of_lt_half hhi
  refine .inr (abs_le.mpr ⟨?_, ?_⟩) <;> omega

lemma near_of_four (hc : 4 ≤ c) (hc' : c ≤ 5) (hx : 7 / 2 ≤ x) : Near c x := by
  have hround : 4 ≤ roundHalfEven x := by
    have hmono := roundHalfEven_mono hx
    have hhalf := roundHalfEven_half 3
    norm_num at hhalf
    omega
  refine .inr (abs_le.mpr ⟨?_, ?_⟩) <;> omega

lemma not_near_of_lt (hi : ℤ) (hx : x < hi + 1 / 2) (hc : min 5 hi + 2 ≤ c) : ¬ Near c x := by
  have hround := roundHalfEven_le_of_lt_half hx
  have hfloor : ⌊x⌋ < hi + 1 := Int.floor_lt.mpr (by push_cast; linarith)
  rintro (h | h) <;> have := abs_le.mp h <;> omega

lemma not_near_of_le (lo : ℤ) (hx : (lo : ℚ) ≤ x) (hc : c + 2 ≤ min 5 lo) : ¬ Near c x := by
  have hround := roundHalfEven_mono hx
  rw [roundHalfEven_intCast] at hround
  have hfloor : lo ≤ ⌊x⌋ := Int.le_floor.mpr hx
  rintro (h | h) <;> have := abs_le.mp h <;> omega

lemma boosted_mono (h0 : 0 ≤ i) (hboost : 0 < boost) (hij : i ≤ j) :
    boosted boost i ≤ boosted boost j := by
  have hpos : (0 : ℚ) < i + boost := add_pos_of_nonneg_of_pos (by exact_mod_cast h0) hboost
  have hsum : (i : ℚ) + boost ≤ j + boost := by
    have : (i : ℚ) ≤ j := by exact_mod_cast hij
    linarith
  have := roundHalfEven_mono (toFloat_mono hpos hsum)
  unfold boosted
  omega

lemma near_boosted (h0 : 0 ≤ i) (hboost : 0 < boost) : Near (boosted boost i) (i + boost) := by
  have hsum : (0 : ℚ) ≤ i + boost := add_nonneg (by exact_mod_cast h0) hboost.le
  rcases le_or_gt 5 ((i : ℚ) + boost) with hlarge | hsmall
  · have hfive : 5 ≤ boosted boost i :=
      le_boosted (k := 40) le_rfl (by norm_num) (by norm_num) (by norm_num; linarith)
        (by norm_num [roundHalfEven])
    exact near_of_four (by omega) (boosted_le_five boost i) (by linarith)
  · have hfloor : 0 ≤ ⌊(i : ℚ) + boost⌋ := Int.floor_nonneg.mpr hsum
    have hlt : ⌊(i : ℚ) + boost⌋ < 5 := Int.floor_lt.mpr (by exact_mod_cast hsmall)
    have hle := Int.floor_le ((i : ℚ) + boost)
    have hlt' := Int.lt_floor_add_one ((i : ℚ) + boost)
    generalize ⌊(i : ℚ) + boost⌋ = k at hfloor hlt hle hlt'
    have heighths : ∀ m : ℤ, ((8 * m : ℤ) : ℚ) / 2 ^ 3 = m := fun m => by
      push_cast
      ring
    have hdown : k ≤ boosted boost i := by
      rcases hfloor.eq_or_lt with rfl | hpos
      · exact boosted_nonneg boost i
      · refine le_boosted (k := 8 * k) (by omega) (by omega) (by omega) ?_ ?_
        · rwa [heighths]
        · rw [heighths, roundHalfEven_intCast]
    have hup : boosted boost i ≤ k + 1 := by
      refine boosted_le (k := 8 * (k + 1)) h0 hboost (by omega) (by omega) (by omega) ?_ ?_
      · rw [heighths]
        push_cast
        exact hlt'.le
      · rw [heighths, roundHalfEven_intCast]
    exact near_of_floor k k hle hlt' (by omega) (by omega)

end Boosted

/-! ## Many accesses -/

section Many

variable {boost : ℚ} {i : ℤ}

lemma importanceAfter_bounds (h0 : 0 ≤ i) (h5 : i ≤ 5) (boost : ℚ) (n : ℕ) :
    0 ≤ importanceAfter boost i n ∧ importanceAfter boost i n ≤ 5 := by
  cases n with
  | zero => exact ⟨h0, h5⟩
  | succ n => exact ⟨boosted_nonneg _ _, boosted_le_five _ _⟩

lemma importanceAfter_le_succ (h0 : 0 ≤ i) (h5 : i ≤ 5) (hboost : 0 < boost) (n : ℕ) :
    importanceAfter boost i n ≤ importanceAfter boost i (n + 1) :=
  self_le_boosted (importanceAfter_bounds h0 h5 boost n).1 (importanceAfter_bounds h0 h5 boost n).2
    hboost

lemma le_importanceAfter_succ {n : ℕ} {a b : ℤ} (ha0 : 0 ≤ a) (hboost : 0 < boost)
    (ha : a ≤ importanceAfter boost i n) (hb : b ≤ boosted boost a) :
    b ≤ importanceAfter boost i (n + 1) :=
  hb.trans (boosted_mono ha0 hboost ha)

lemma importanceAfter_succ_le {n : ℕ} {a b : ℤ} (h0 : 0 ≤ i) (h5 : i ≤ 5) (hboost : 0 < boost)
    (ha : importanceAfter boost i n ≤ a) (hb : boosted boost a ≤ b) :
    importanceAfter boost i (n + 1) ≤ b :=
  (boosted_mono (importanceAfter_bounds h0 h5 boost n).1 hboost ha).trans hb

lemma importanceAfter_fixed {n : ℕ} (h : boosted boost (importanceAfter boost i n) =
    importanceAfter boost i n) {m : ℕ} (hm : n ≤ m) :
    importanceAfter boost i m = importanceAfter boost i n := by
  induction m, hm using Nat.le_induction with
  | base => rfl
  | succ m _ ih => rw [importanceAfter, ih, h]

lemma near_from {n m : ℕ} (h0 : 0 ≤ i) (h5 : i ≤ 5) (hboost : 0 < boost)
    (hfour : 4 ≤ importanceAfter boost i n) (hx : 7 / 2 ≤ (i : ℚ) + n * boost) (hm : n ≤ m) :
    Near (importanceAfter boost i m) (i + m * boost) := by
  have hle : (n : ℚ) * boost ≤ m * boost :=
    mul_le_mul_of_nonneg_right (by exact_mod_cast hm) hboost.le
  have hmono : importanceAfter boost i n ≤ importanceAfter boost i m :=
    monotone_nat_of_le_succ (importanceAfter_le_succ h0 h5 hboost) hm
  exact near_of_four (hfour.trans hmono)
    (importanceAfter_bounds h0 h5 boost m).2 (by linarith)

end Many

/-! ## By how much one access raises -/

section Raises

variable {boost : ℚ} {i m : ℤ}

lemma boosted_le_add (h0 : 0 ≤ i) (h5 : i ≤ 5) (hboost : 0 < boost) (hm : boost ≤ m)
    (hfew : m ≤ 10) : boosted boost i ≤ i + m := by
  have hpos : 0 < m := by exact_mod_cast hboost.trans_le hm
  have heighths : ((8 * (i + m) : ℤ) : ℚ) / 2 ^ 3 = ((i + m : ℤ) : ℚ) := by
    push_cast
    ring
  refine boosted_le (k := 8 * (i + m)) h0 hboost (by omega) (by omega) (by omega) ?_ ?_
  · rw [heighths]
    push_cast
    linarith
  · rw [heighths, roundHalfEven_intCast]

lemma boosted_le_succ (h0 : 0 ≤ i) (h5 : i ≤ 5) (hboost : 0 < boost) (hle : boost ≤ 1) :
    boosted boost i ≤ i + 1 :=
  boosted_le_add h0 h5 hboost (by exact_mod_cast hle) (by norm_num)

lemma succ_le_boosted (h0 : 0 ≤ i) (h4 : i ≤ 4) (hboost : 5 / 8 ≤ boost) :
    i + 1 ≤ boosted boost i := by
  refine le_boosted (k := 8 * i + 5) (by omega) (by omega) (by omega) ?_ ?_
  · push_cast
    linarith
  · refine lt_roundHalfEven_of_half_lt ?_
    push_cast
    linarith

lemma four_le_boosted_two (hboost : 3 / 2 ≤ boost) : 4 ≤ boosted boost 2 := by
  refine le_boosted (k := 28) (by norm_num) (by norm_num) (by norm_num) ?_ ?_
  · push_cast
    linarith
  · norm_num [roundHalfEven]

lemma succ_le_boosted_odd (h0 : 0 ≤ i) (h4 : i ≤ 4) (hodd : i % 2 = 1) (hboost : 1 / 2 ≤ boost) :
    i + 1 ≤ boosted boost i := by
  have heighths : ((8 * i + 4 : ℤ) : ℚ) / 2 ^ 3 = (i : ℚ) + 1 / 2 := by
    push_cast
    ring
  refine le_boosted (k := 8 * i + 4) (by omega) (by omega) (by omega) ?_ ?_
  · rw [heighths]
    linarith
  · rw [heighths, roundHalfEven_half, if_neg (by omega)]

lemma boosted_odd_le (h0 : 0 ≤ i) (h4 : i ≤ 4) (hodd : i % 2 = 1) (hboost : 0 < boost)
    (hle : boost ≤ 3 / 2) : boosted boost i ≤ i + 1 := by
  have heighths : ((8 * i + 12 : ℤ) : ℚ) / 2 ^ 3 = ((i + 1 : ℤ) : ℚ) + 1 / 2 := by
    push_cast
    ring
  refine boosted_le (k := 8 * i + 12) h0 hboost (by omega) (by omega) (by omega) ?_ ?_
  · rw [heighths]
    push_cast
    linarith
  · rw [heighths, roundHalfEven_half, if_pos (by omega)]

lemma succ_le_boosted_of_half_lt (h4 : i ≤ 4) (h : (i : ℚ) + 1 / 2 < toFloat (i + boost)) :
    i + 1 ≤ boosted boost i := by
  have := lt_roundHalfEven_of_half_lt h
  unfold boosted
  omega

lemma four_le_boosted_three (h : 7 / 2 ≤ toFloat (3 + boost)) : 4 ≤ boosted boost 3 := by
  have := roundHalfEven_mono h
  rw [show (7 / 2 : ℚ) = ((3 : ℤ) : ℚ) + 1 / 2 by norm_num, roundHalfEven_half] at this
  unfold boosted
  push_cast
  omega

lemma boosted_le_of_lt_half (h0 : 0 ≤ i) (h : toFloat (i + boost) < (i : ℚ) + 1 / 2) :
    boosted boost i ≤ i := by
  have := roundHalfEven_le_of_lt_half h
  unfold boosted
  omega

lemma boosted_le_of_le_half (h0 : 0 ≤ i) (heven : i % 2 = 0)
    (h : toFloat (i + boost) ≤ (i : ℚ) + 1 / 2) : boosted boost i ≤ i := by
  have := roundHalfEven_mono h
  rw [roundHalfEven_half, if_pos heven] at this
  unfold boosted
  omega

lemma toFloat_le (h0 : 0 ≤ i) (hboost : 0 < boost) {k : ℤ} (hk : 0 < k) (hfew : k < 2 ^ 52)
    (h : (i : ℚ) + boost ≤ k / 2 ^ 3) : toFloat (i + boost) ≤ k / 2 ^ 3 := by
  rw [← toFloat_dyadic 3 hk hfew]
  exact toFloat_mono (add_pos_of_nonneg_of_pos (by exact_mod_cast h0) hboost) h

lemma half_lt_of_toFloat (h0 : 0 ≤ i) (h4 : i ≤ 4) (hboost : 0 < boost)
    (h : (i : ℚ) + 1 / 2 < toFloat (i + boost)) : 1 / 2 < boost := by
  by_contra hle
  have := toFloat_le (k := 8 * i + 4) h0 hboost (by omega) (by omega) (by push_cast; linarith)
  push_cast at this
  linarith

lemma add_le_importanceAfter (h0 : 0 ≤ i) (hboost : 5 / 8 ≤ boost) {n : ℕ} (hn : i + n ≤ 5) :
    i + n ≤ importanceAfter boost i n := by
  induction n with
  | zero => simp [importanceAfter]
  | succ n ih =>
    push_cast at hn ⊢
    rw [← add_assoc]
    exact le_importanceAfter_succ (by omega) (by linarith) (ih (by omega))
      (succ_le_boosted (by omega) (by omega) hboost)

lemma importanceAfter_le_add (h0 : 0 ≤ i) (h5 : i ≤ 5) (hboost : 0 < boost) (hle : boost ≤ 1)
    (n : ℕ) : importanceAfter boost i n ≤ i + n := by
  induction n with
  | zero => simp [importanceAfter]
  | succ n ih =>
    obtain ⟨hn0, hn5⟩ := importanceAfter_bounds h0 h5 boost n
    have hn := boosted_le_succ hn0 hn5 hboost hle
    rw [importanceAfter]
    push_cast
    omega

end Raises

/-! ## Where accesses accumulate -/

/-- The importance is five; or, for four, three and two, the sum of floats is far enough from it to
be rounded up; or the boost is large enough for all the steps from one and zero on. -/
def BoostCounts (boost : ℚ) (importance : ℤ) : Prop :=
  importance = 5 ∨
  (importance = 4 ∧ 9 / 2 < toFloat (4 + boost)) ∨
  (importance = 3 ∧ 7 / 2 ≤ toFloat (3 + boost)) ∨
  (importance = 2 ∧ 5 / 2 < toFloat (2 + boost)) ∨
  (importance = 1 ∧
    (5 / 8 ≤ boost ∨ (5 / 2 < toFloat (2 + boost) ∧ toFloat (4 + boost) ≤ 9 / 2))) ∨
  (importance = 0 ∧ 7 / 10 ≤ boost)

instance (boost : ℚ) (importance : ℤ) : Decidable (BoostCounts boost importance) :=
  inferInstanceAs (Decidable (_ ∨ _ ∨ _ ∨ _ ∨ _ ∨ _))

/-- What is asked of the importance after some accesses. -/
def StaysNear (boost : ℚ) (i : ℤ) : Prop :=
  ∀ n : ℕ, Near (importanceAfter boost i n) (i + n * boost)

section StaysNear

variable {boost : ℚ} {i : ℤ}

lemma staysNear_of_few (h0 : 0 ≤ i) (h5 : i ≤ 5) (hboost : 0 < boost) (n : ℕ)
    (hfour : 4 ≤ importanceAfter boost i n) (hx : 7 / 2 ≤ (i : ℚ) + n * boost)
    (hfew : ∀ m, 2 ≤ m → m < n → Near (importanceAfter boost i m) (i + m * boost)) :
    StaysNear boost i := by
  intro m
  rcases le_or_gt n m with hm | hm
  · exact near_from h0 h5 hboost hfour hx hm
  · rcases Nat.lt_or_ge m 2 with hm' | hm'
    · interval_cases m
      · refine near_of_floor i i (by simp) (by simp) ?_ ?_ <;>
          rw [importanceAfter] <;> omega
      · simpa [importanceAfter] using near_boosted h0 hboost
    · exact hfew m hm' hm

lemma staysNear_four (hboost : 0 < boost) : StaysNear boost 4 :=
  staysNear_of_few (by norm_num) (by norm_num) hboost 0 le_rfl (by norm_num) fun m _ hm => by omega

lemma staysNear_five (hboost : 0 < boost) : StaysNear boost 5 :=
  staysNear_of_few (by norm_num) (by norm_num) hboost 0 (by norm_num [importanceAfter])
    (by norm_num) fun m _ hm => by omega

lemma staysNear_three (hboost : 0 < boost) (hraise : 7 / 2 ≤ toFloat (3 + boost)) :
    StaysNear boost 3 := by
  have hquarter : 1 / 4 ≤ boost := by
    by_contra hsmall
    have hfloat : toFloat (((3 : ℤ) : ℚ) + boost) ≤ ((26 : ℤ) : ℚ) / 2 ^ 3 :=
      toFloat_le (by norm_num) hboost (by norm_num) (by norm_num) (by push_cast; linarith)
    push_cast at hfloat
    linarith
  have h1 := four_le_boosted_three hraise
  have h2 := importanceAfter_le_succ (i := 3) (by norm_num) (by norm_num) hboost 1
  refine staysNear_of_few (by norm_num) (by norm_num) hboost 2 (h1.trans h2) ?_
    fun m _ hm => by omega
  push_cast
  linarith

lemma staysNear_two (hboost : 0 < boost) (hraise : 5 / 2 < toFloat (2 + boost)) :
    StaysNear boost 2 := by
  have hraise' : ((2 : ℤ) : ℚ) + 1 / 2 < toFloat (((2 : ℤ) : ℚ) + boost) := by
    norm_num
    exact hraise
  have hhalf := half_lt_of_toFloat (by norm_num) (by norm_num) hboost hraise'
  have h1 : 3 ≤ importanceAfter boost 2 1 :=
    succ_le_boosted_of_half_lt (i := 2) (by norm_num) hraise'
  have h2 : 4 ≤ importanceAfter boost 2 2 := le_importanceAfter_succ (by norm_num) hboost h1
    (succ_le_boosted_odd (by norm_num) (by norm_num) rfl hhalf.le)
  have h3 := h2.trans (importanceAfter_le_succ (by norm_num) (by norm_num) hboost 2)
  refine staysNear_of_few (by norm_num) (by norm_num) hboost 3 h3 (by push_cast; linarith)
    fun m hm hm' => ?_
  obtain rfl : m = 2 := by omega
  rcases le_or_gt boost 1 with hle | hgt
  · have hu2 := importanceAfter_le_add (i := 2) (by norm_num) (by norm_num) hboost hle 2
    exact near_of_floor 3 4 (by push_cast; linarith) (by push_cast; linarith)
      (by omega) (by omega)
  · exact near_of_four h2 (importanceAfter_bounds (by norm_num) (by norm_num) boost 2).2
      (by push_cast; linarith)

lemma staysNear_one (hboost : 5 / 8 ≤ boost) : StaysNear boost 1 := by
  have hpos : 0 < boost := by linarith
  have h1 : 2 ≤ importanceAfter boost 1 1 :=
    add_le_importanceAfter (by norm_num) hboost (by norm_num)
  have h2 : 3 ≤ importanceAfter boost 1 2 :=
    add_le_importanceAfter (by norm_num) hboost (by norm_num)
  have h3 : 4 ≤ importanceAfter boost 1 3 :=
    add_le_importanceAfter (by norm_num) hboost (by norm_num)
  have h4 := h3.trans (importanceAfter_le_succ (by norm_num) (by norm_num) hpos 3)
  have h5 := (importanceAfter_bounds (i := 1) (by norm_num) (by norm_num) boost 3).2
  refine staysNear_of_few (by norm_num) (by norm_num) hpos 4 h4 (by push_cast; linarith)
    fun m hm hm' => ?_
  rcases le_or_gt boost 1 with hle | hgt
  · have hu := importanceAfter_le_add (i := 1) (by norm_num) (by norm_num) hpos hle m
    interval_cases m
    · exact near_of_floor 2 3 (by push_cast; linarith) (by push_cast; linarith)
        (by omega) (by omega)
    · exact near_of_round 3 4 (by push_cast; linarith) (by push_cast; linarith)
        (by omega) (by omega)
  · interval_cases m
    · rcases le_or_gt boost (3 / 2) with hle | heighths
      · have hu1 : importanceAfter boost 1 1 ≤ 2 :=
          boosted_odd_le (i := 1) (by norm_num) (by norm_num) rfl hpos hle
        have hu2 : importanceAfter boost 1 2 ≤ 4 :=
          importanceAfter_succ_le (by norm_num) (by norm_num) hpos hu1
            (boosted_le_add (m := 2) (by norm_num) (by norm_num) hpos (by push_cast; linarith)
              (by norm_num))
        exact near_of_floor 3 4 (by push_cast; linarith) (by push_cast; linarith)
          (by omega) (by omega)
      · have h2' : 4 ≤ importanceAfter boost 1 2 := le_importanceAfter_succ (by norm_num) hpos h1
          (four_le_boosted_two heighths.le)
        exact near_of_four h2' (importanceAfter_bounds (by norm_num) (by norm_num) boost 2).2
          (by push_cast; linarith)
    · exact near_of_four h3 h5 (by push_cast; linarith)

lemma staysNear_one_of_short (hboost : 0 < boost) (hsmall : boost < 5 / 8)
    (hraise : 5 / 2 < toFloat (2 + boost)) (hshort : toFloat (4 + boost) ≤ 9 / 2) :
    StaysNear boost 1 := by
  have hraise' : ((2 : ℤ) : ℚ) + 1 / 2 < toFloat (((2 : ℤ) : ℚ) + boost) := by
    norm_num
    exact hraise
  have hshort' : toFloat (((4 : ℤ) : ℚ) + boost) ≤ ((4 : ℤ) : ℚ) + 1 / 2 := by
    norm_num
    exact hshort
  have hhalf := half_lt_of_toFloat (by norm_num) (by norm_num) hboost hraise'
  have hle : boost ≤ 1 := by linarith
  have h1 : 2 ≤ importanceAfter boost 1 1 :=
    succ_le_boosted_odd (i := 1) (by norm_num) (by norm_num) rfl hhalf.le
  have h2 : 3 ≤ importanceAfter boost 1 2 := le_importanceAfter_succ (by norm_num) hboost h1
    (succ_le_boosted_of_half_lt (by norm_num) hraise')
  have h3 : 4 ≤ importanceAfter boost 1 3 := le_importanceAfter_succ (by norm_num) hboost h2
    (succ_le_boosted_odd (by norm_num) (by norm_num) rfl hhalf.le)
  have h4 : 4 ≤ importanceAfter boost 1 4 :=
    h3.trans (importanceAfter_le_succ (by norm_num) (by norm_num) hboost 3)
  have h5 := h4.trans (importanceAfter_le_succ (by norm_num) (by norm_num) hboost 4)
  have hu := importanceAfter_le_add (i := 1) (by norm_num) (by norm_num) hboost hle
  have hu2 := hu 2
  have hu3 := hu 3
  have hu4 : importanceAfter boost 1 4 ≤ 4 :=
    importanceAfter_succ_le (by norm_num) (by norm_num) hboost hu3
      (boosted_le_of_le_half (by norm_num) rfl hshort')
  refine staysNear_of_few (by norm_num) (by norm_num) hboost 5 h5 (by push_cast; linarith)
    fun m hm hm' => ?_
  interval_cases m
  · exact near_of_floor 2 2 (by push_cast; linarith) (by push_cast; linarith)
      (by omega) (by omega)
  · exact near_of_round 3 3 (by push_cast; linarith) (by push_cast; linarith)
      (by omega) (by omega)
  · exact near_of_floor 3 3 (by push_cast; linarith) (by push_cast; linarith)
      (by omega) (by omega)

lemma staysNear_zero_of_le_one (hboost : 7 / 10 ≤ boost) (hle : boost ≤ 1) : StaysNear boost 0 := by
  have hpos : 0 < boost := by linarith
  have hlower : ∀ n : ℕ, n ≤ 5 → 0 + (n : ℤ) ≤ importanceAfter boost 0 n := fun n hn =>
    add_le_importanceAfter (by norm_num) (by linarith) (by omega)
  have h5 := hlower 5 le_rfl
  refine staysNear_of_few (by norm_num) (by norm_num) hpos 5 (by omega) (by push_cast; linarith)
    fun m hm hm' => ?_
  have hl := hlower m (by omega)
  have hu := importanceAfter_le_add (i := 0) (by norm_num) (by norm_num) hpos hle m
  interval_cases m
  · exact near_of_floor 1 2 (by push_cast; linarith) (by push_cast; linarith)
      (by omega) (by omega)
  · exact near_of_floor 2 3 (by push_cast; linarith) (by push_cast; linarith)
      (by omega) (by omega)
  · exact near_of_round 3 4 (by push_cast; linarith) (by push_cast; linarith)
      (by omega) (by omega)

lemma staysNear_zero_of_one_lt (hgt : 1 < boost) : StaysNear boost 0 := by
  have hpos : 0 < boost := by linarith
  have hlarge : 5 / 8 ≤ boost := by linarith
  have hlower : ∀ n : ℕ, n ≤ 5 → 0 + (n : ℤ) ≤ importanceAfter boost 0 n := fun n hn =>
    add_le_importanceAfter (by norm_num) hlarge (by omega)
  have h2 := hlower 2 (by norm_num)
  have h3 := hlower 3 (by norm_num)
  have h4 : 4 ≤ importanceAfter boost 0 4 := hlower 4 (by norm_num)
  have h5 : ∀ n, importanceAfter boost 0 n ≤ 5 := fun n =>
    (importanceAfter_bounds (by norm_num) (by norm_num) boost n).2
  have hfive := h5 3
  refine staysNear_of_few (by norm_num) (by norm_num) hpos 4 h4 (by push_cast; linarith)
    fun m hm hm' => ?_
  rcases le_or_gt boost (11 / 8) with hle | heighths
  · have hu1 : importanceAfter boost 0 1 ≤ 1 :=
      boosted_le (i := 0) (k := 11) (by norm_num) hpos (by norm_num) (by norm_num) (by norm_num)
        (by push_cast; linarith) (by norm_num [roundHalfEven])
    have hu2 : importanceAfter boost 0 2 ≤ 2 :=
      importanceAfter_succ_le (by norm_num) (by norm_num) hpos hu1
        (boosted_odd_le (by norm_num) (by norm_num) rfl hpos (by linarith))
    have hu3 : importanceAfter boost 0 3 ≤ 3 :=
      importanceAfter_succ_le (by norm_num) (by norm_num) hpos hu2
        (boosted_le (k := 27) (by norm_num) hpos (by norm_num) (by norm_num) (by norm_num)
          (by push_cast; linarith) (by norm_num [roundHalfEven]))
    interval_cases m
    · exact near_of_floor 2 2 (by push_cast; linarith) (by push_cast; linarith)
        (by omega) (by omega)
    · exact near_of_floor 3 4 (by push_cast; linarith) (by push_cast; linarith)
        (by omega) (by omega)
  · rcases le_or_gt boost (3 / 2) with hle | hhalves
    · have hu1 : importanceAfter boost 0 1 ≤ 2 :=
        boosted_le_add (i := 0) (m := 2) (by norm_num) (by norm_num) hpos (by push_cast; linarith)
          (by norm_num)
      have hu2 : importanceAfter boost 0 2 ≤ 4 :=
        importanceAfter_succ_le (by norm_num) (by norm_num) hpos hu1
          (boosted_le_add (m := 2) (by norm_num) (by norm_num) hpos (by push_cast; linarith)
            (by norm_num))
      interval_cases m
      · exact near_of_round 3 3 (by push_cast; linarith) (by push_cast; linarith)
          (by omega) (by omega)
      · exact near_of_floor 4 4 (by push_cast; linarith) (by push_cast; linarith)
          (by omega) (by omega)
    · have h1' : 2 ≤ importanceAfter boost 0 1 :=
        le_boosted (i := 0) (k := 12) (by norm_num) (by norm_num) (by norm_num)
          (by push_cast; linarith) (by norm_num [roundHalfEven])
      have h2' : 4 ≤ importanceAfter boost 0 2 := le_importanceAfter_succ (by norm_num) hpos h1'
        (four_le_boosted_two hhalves.le)
      have h3' : 4 ≤ importanceAfter boost 0 3 :=
        h2'.trans (importanceAfter_le_succ (by norm_num) (by norm_num) hpos 2)
      interval_cases m
      · rcases le_or_gt boost 2 with hle | htwo
        · have hu1 : importanceAfter boost 0 1 ≤ 2 :=
            boosted_le_add (i := 0) (m := 2) (by norm_num) (by norm_num) hpos
              (by push_cast; linarith) (by norm_num)
          have hu2 : importanceAfter boost 0 2 ≤ 4 :=
            importanceAfter_succ_le (by norm_num) (by norm_num) hpos hu1
              (boosted_le_add (m := 2) (by norm_num) (by norm_num) hpos (by push_cast; linarith)
                (by norm_num))
          exact near_of_floor 3 4 (by push_cast; linarith) (by push_cast; linarith)
            (by omega) (by omega)
        · exact near_of_four h2' (h5 2) (by push_cast; linarith)
      · exact near_of_four h3' (h5 3) (by push_cast; linarith)

end StaysNear

/-! ## Where they do not -/

section NotNear

variable {boost : ℚ}

/-- From one on, a boost that stays near what it should be is as large as `BoostCounts` says. -/
lemma boostCounts_one (hboost : 0 < boost) (hnear : StaysNear boost 1)
    (hraises : 1 < boosted boost 1) : BoostCounts boost 1 := by
  by_cases hlarge : 5 / 8 ≤ boost
  · exact .inr (.inr (.inr (.inr (.inl ⟨rfl, .inl hlarge⟩))))
  have hle : boost ≤ 1 := by linarith
  have hthree : 3 / 8 < boost := by
    by_contra hsmall
    have : boosted boost 1 ≤ 1 :=
      boosted_le (k := 11) (by norm_num) hboost (by norm_num) (by norm_num) (by norm_num)
        (by push_cast; linarith) (by norm_num [roundHalfEven])
    omega
  have h1 : importanceAfter boost 1 1 = 2 :=
    le_antisymm (boosted_le_succ (i := 1) (by norm_num) (by norm_num) hboost hle) hraises
  have htwo : 5 / 2 < toFloat (2 + boost) := by
    -- else the importance stays two for ever
    by_contra hhalf
    have hstuck : boosted boost 2 = 2 := le_antisymm
      (boosted_le_of_le_half (i := 2) (by norm_num) rfl (by norm_num; linarith))
      (self_le_boosted (by norm_num) (by norm_num) hboost)
    have h8 := importanceAfter_fixed (i := 1) (n := 1) (by rw [h1, hstuck])
      (show 1 ≤ 8 by norm_num)
    have hfar := hnear 8
    rw [h8, h1] at hfar
    exact not_near_of_le 4 (by push_cast; linarith) (by norm_num) hfar
  have htwo' : ((2 : ℤ) : ℚ) + 1 / 2 < toFloat (((2 : ℤ) : ℚ) + boost) := by
    norm_num
    exact htwo
  have hhalf := half_lt_of_toFloat (by norm_num) (by norm_num) hboost htwo'
  refine .inr (.inr (.inr (.inr (.inl ⟨rfl, .inr ⟨htwo, ?_⟩⟩))))
  -- else the importance is five after four accesses
  by_contra hfour
  have h2 : 3 ≤ importanceAfter boost 1 2 := le_importanceAfter_succ (by norm_num) hboost h1.ge
    (succ_le_boosted_of_half_lt (by norm_num) htwo')
  have h3 : 4 ≤ importanceAfter boost 1 3 := le_importanceAfter_succ (by norm_num) hboost h2
    (succ_le_boosted_odd (by norm_num) (by norm_num) rfl hhalf.le)
  have h4 : 5 ≤ importanceAfter boost 1 4 := le_importanceAfter_succ (by norm_num) hboost h3
    (succ_le_boosted_of_half_lt (i := 4) (by norm_num) (by norm_num; linarith))
  exact not_near_of_lt 3 (by push_cast; linarith) (by omega) (hnear 4)

lemma boostCounts_zero (hboost : 0 < boost) (hnear : StaysNear boost 0)
    (hraises : 0 < boosted boost 0) : BoostCounts boost 0 := by
  refine .inr (.inr (.inr (.inr (.inr ⟨rfl, ?_⟩))))
  by_contra hsmall
  have hle : boost ≤ 1 := by linarith
  have hthree : 3 / 8 < boost := by
    by_contra hsmaller
    have : boosted boost 0 ≤ 0 :=
      boosted_le (k := 3) (by norm_num) hboost (by norm_num) (by norm_num) (by norm_num)
        (by push_cast; linarith) (by norm_num [roundHalfEven])
    omega
  have h1 : importanceAfter boost 0 1 = 1 :=
    le_antisymm (boosted_le_succ (i := 0) (by norm_num) (by norm_num) hboost hle) hraises
  have hone : 1 < boosted boost 1 := by
    -- else the importance stays one for ever
    by_contra hstays
    have hstuck : boosted boost 1 = 1 :=
      le_antisymm (by omega) (self_le_boosted (by norm_num) (by norm_num) hboost)
    have h8 := importanceAfter_fixed (i := 0) (n := 1) (by rw [h1, hstuck])
      (show 1 ≤ 8 by norm_num)
    have hfar := hnear 8
    rw [h8, h1] at hfar
    exact not_near_of_le 3 (by push_cast; linarith) (by norm_num) hfar
  have h2 : importanceAfter boost 0 2 = 2 := by
    rw [importanceAfter, h1]
    exact le_antisymm (boosted_le_succ (i := 1) (by norm_num) (by norm_num) hboost hle) hone
  have htwo : ((2 : ℤ) : ℚ) + 1 / 2 < toFloat (((2 : ℤ) : ℚ) + boost) := by
    -- else it stays two for ever
    by_contra hhalf
    have hstuck : boosted boost 2 = 2 := le_antisymm
      (boosted_le_of_le_half (i := 2) (by norm_num) rfl (by linarith))
      (self_le_boosted (by norm_num) (by norm_num) hboost)
    have h11 := importanceAfter_fixed (i := 0) (n := 2) (by rw [h2, hstuck])
      (show 2 ≤ 11 by norm_num)
    have hfar := hnear 11
    rw [h11, h2] at hfar
    exact not_near_of_le 4 (by push_cast; linarith) (by norm_num) hfar
  have hhalf := half_lt_of_toFloat (by norm_num) (by norm_num) hboost htwo
  have h3 : 3 ≤ importanceAfter boost 0 3 := le_importanceAfter_succ (by norm_num) hboost h2.ge
    (succ_le_boosted_of_half_lt (by norm_num) htwo)
  have h4 : 4 ≤ importanceAfter boost 0 4 := le_importanceAfter_succ (by norm_num) hboost h3
    (succ_le_boosted_odd (by norm_num) (by norm_num) rfl hhalf.le)
  -- four accesses are too many for a boost near a half, and five for a larger one
  rcases lt_or_ge boost (5 / 8) with hnearHalf | hlarger
  · exact not_near_of_lt 2 (by push_cast; linarith) (by omega) (hnear 4)
  · have h5 : 5 ≤ importanceAfter boost 0 5 := le_importanceAfter_succ (by norm_num) hboost h4
      (succ_le_boosted (by norm_num) (by norm_num) hlarger)
    exact not_near_of_lt 3 (by push_cast; linarith) (by omega) (hnear 5)

end NotNear

/-- Accesses accumulate exactly where the boost counts. -/
theorem accumulates_iff {db : Db} {memory : MemoryChunk} {boost : ℚ}
    (hmemory : get db.memories memory.id = some memory) (h0 : 0 ≤ memory.importance)
    (h5 : memory.importance ≤ 5) (hboost : 0 < boost) :
    Accumulates db memory boost ↔ BoostCounts boost memory.importance := by
  rw [accumulates_iff_boosted hboost.ne' hmemory]
  generalize memory.importance = i at h0 h5
  have hkept : ∀ n : ℕ, 0 ≤ importanceAfter boost i n ∧ importanceAfter boost i n ≤ 5 ∧
      importanceAfter boost i n ≤ importanceAfter boost i (n + 1) := fun n =>
    ⟨(importanceAfter_bounds h0 h5 boost n).1, (importanceAfter_bounds h0 h5 boost n).2,
      importanceAfter_le_succ h0 h5 hboost n⟩
  constructor
  · rintro ⟨hnear, hraised, -⟩
    rcases hraised with rfl | ⟨n, hn⟩
    · exact .inl rfl
    have hraises : i < boosted boost i := by
      by_contra hstays
      have hstuck : boosted boost i = i :=
        le_antisymm (by omega) (self_le_boosted h0 h5 hboost)
      have hfixed : importanceAfter boost i n = i :=
        importanceAfter_fixed (n := 0) hstuck (Nat.zero_le n)
      omega
    interval_cases i
    · exact boostCounts_zero hboost hnear hraises
    · exact boostCounts_one hboost hnear hraises
    · refine .inr (.inr (.inr (.inl ⟨rfl, ?_⟩)))
      by_contra hhalf
      have hstays : boosted boost 2 ≤ 2 :=
        boosted_le_of_le_half (by norm_num) rfl (by norm_num; linarith)
      omega
    · refine .inr (.inr (.inl ⟨rfl, ?_⟩))
      by_contra hhalf
      have hstays : boosted boost 3 ≤ 3 :=
        boosted_le_of_lt_half (by norm_num) (by norm_num; linarith)
      omega
    · refine .inr (.inl ⟨rfl, ?_⟩)
      by_contra hhalf
      have hstays : boosted boost 4 ≤ 4 :=
        boosted_le_of_le_half (by norm_num) rfl (by norm_num; linarith)
      omega
    · exact .inl rfl
  · intro hcounts
    have hraises : i = 5 ∨ i < boosted boost i := by
      rcases hcounts with rfl | ⟨rfl, h⟩ | ⟨rfl, h⟩ | ⟨rfl, h⟩ | ⟨rfl, h⟩ | ⟨rfl, h⟩
      · exact .inl rfl
      · exact .inr (succ_le_boosted_of_half_lt (i := 4) (by norm_num) (by norm_num; linarith))
      · exact .inr (four_le_boosted_three h)
      · exact .inr (succ_le_boosted_of_half_lt (i := 2) (by norm_num) (by norm_num; linarith))
      · refine .inr (succ_le_boosted_odd (i := 1) (by norm_num) (by norm_num) rfl ?_)
        rcases h with hlarge | ⟨htwo, -⟩
        · linarith
        · exact (half_lt_of_toFloat (i := 2) (by norm_num) (by norm_num) hboost
            (by norm_num; linarith)).le
      · exact .inr (succ_le_boosted (i := 0) (by norm_num) (by norm_num) (by linarith))
    refine ⟨?_, hraises.imp_right fun h => ⟨1, h⟩, hkept⟩
    rcases hcounts with rfl | ⟨rfl, -⟩ | ⟨rfl, h⟩ | ⟨rfl, h⟩ | ⟨rfl, h⟩ | ⟨rfl, h⟩
    · exact staysNear_five hboost
    · exact staysNear_four hboost
    · exact staysNear_three hboost h
    · exact staysNear_two hboost h
    · rcases lt_or_ge boost (5 / 8) with hsmall | hlarge
      · obtain ⟨htwo, hfour⟩ := h.resolve_left hsmall.not_ge
        exact staysNear_one_of_short hboost hsmall htwo hfour
      · exact staysNear_one hlarge
    · rcases le_or_gt boost 1 with hle | hgt
      · exact staysNear_zero_of_le_one h hle
      · exact staysNear_zero_of_one_lt hgt

/-- A memory of importance three. -/
def exampleMemory : MemoryChunk :=
  { id := "m", cocoonId := some "c", scope := "dialogue", content := "likes tea", importance := 3 }

theorem whole_unit_accumulates :
    BoostCounts 1 exampleMemory.importance ∧
      Accumulates { memories := [exampleMemory] } exampleMemory 1 := by
  have hcounts : BoostCounts 1 exampleMemory.importance := by
    refine .inr (.inr (.inl ⟨rfl, ?_⟩))
    decide +kernel
  exact ⟨hcounts, (accumulates_iff (by rfl) (by decide) (by decide) (by norm_num)).mpr hcounts⟩

def defaultBoost : ℚ := toFloat (2 / 100)

/-- No number of accesses with the default boost raises an importance of three. -/
theorem default_does_not_accumulate :
    ¬ Accumulates { memories := [exampleMemory] } exampleMemory defaultBoost := by
  have hstuck : boosted defaultBoost 3 = 3 := by decide +kernel
  have hne : defaultBoost ≠ 0 := by decide +kernel
  intro h
  obtain hfive | ⟨n, hn⟩ := ((accumulates_iff_boosted hne (by rfl)).mp h).2.1
  · exact absurd hfive (by decide)
  · have hfixed := importanceAfter_fixed (i := 3) (n := 0) hstuck (Nat.zero_le n)
    exact absurd (hn.trans_eq hfixed) (lt_irrefl 3)

end Accesses

end CocoonSit
