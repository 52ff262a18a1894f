import Mathlib.Data.Int.Log
import Mathlib.Data.Rat.Floor
import Mathlib.Tactic.Linarith

/-!
# Rounding

`roundHalfEven` rounds a rational to the nearest integer, halves to the even one.  `toFloat` rounds
a positive rational to 53 binary digits, in the same way: it is what a sum or a product of floats is
rounded to, where it is neither too large nor too small for one.

Both are monotone and leave alone what needs no rounding, so they can be bounded by the values they
take at integers and at halves.
-/

namespace Rounding

/-! ## To an integer -/

/-- The nearest integer, halves to the even one. -/
def roundHalfEven (x : ℚ) : ℤ :=
  if x - ⌊x⌋ < 1 / 2 then ⌊x⌋
  else if 1 / 2 < x - ⌊x⌋ then ⌊x⌋ + 1
  else if ⌊x⌋ % 2 = 0 then ⌊x⌋
  else ⌊x⌋ + 1

lemma floor_le_roundHalfEven (x : ℚ) : ⌊x⌋ ≤ roundHalfEven x := by
  unfold roundHalfEven
  split
  · exact le_rfl
  · split
    · omega
    · split <;> omega

lemma roundHalfEven_le_floor_add_one (x : ℚ) : roundHalfEven x ≤ ⌊x⌋ + 1 := by
  unfold roundHalfEven
  split
  · omega
  · split
    · exact le_rfl
    · split <;> omega

@[simp] lemma roundHalfEven_intCast (k : ℤ) : roundHalfEven (k : ℚ) = k := by
  simp [roundHalfEven]

theorem roundHalfEven_mono {x y : ℚ} (h : x ≤ y) : roundHalfEven x ≤ roundHalfEven y := by
  rcases (Int.floor_mono h).eq_or_lt with heq | hlt
  · -- with one floor, a larger fraction is not rounded down where a smaller one is rounded up
    unfold roundHalfEven
    rw [heq]
    have hfract : x - (⌊y⌋ : ℚ) ≤ y - (⌊y⌋ : ℚ) := by linarith
    by_cases hx : x - (⌊y⌋ : ℚ) < 1 / 2
    · rw [if_pos hx]
      exact floor_le_roundHalfEven y
    · have hy : ¬ y - (⌊y⌋ : ℚ) < 1 / 2 := fun hy => hx (hfract.trans_lt hy)
      rw [if_neg hx, if_neg hy]
      by_cases hx' : 1 / 2 < x - (⌊y⌋ : ℚ)
      · rw [if_pos hx', if_pos (hx'.trans_le hfract)]
      · rw [if_neg hx']
        split <;> split <;> omega
  · calc roundHalfEven x ≤ ⌊x⌋ + 1 := roundHalfEven_le_floor_add_one x
      _ ≤ ⌊y⌋ := hlt
      _ ≤ roundHalfEven y := floor_le_roundHalfEven y

lemma roundHalfEven_half (k : ℤ) :
    roundHalfEven ((k : ℚ) + 1 / 2) = if k % 2 = 0 then k else k + 1 := by
  have hfloor : ⌊(k : ℚ) + 1 / 2⌋ = k := by
    rw [Int.floor_intCast_add]
    norm_num
  unfold roundHalfEven
  rw [hfloor]
  norm_num

lemma roundHalfEven_le_of_lt_half {x : ℚ} {k : ℤ} (h : x < (k : ℚ) + 1 / 2) :
    roundHalfEven x ≤ k := by
  have hfloor : ⌊x⌋ ≤ k := by
    have hlt : ⌊x⌋ < k + 1 := Int.floor_lt.mpr (by push_cast; linarith)
    omega
  rcases hfloor.eq_or_lt with heq | hlt
  · unfold roundHalfEven
    rw [if_pos (by rw [heq]; linarith), heq]
  · have := roundHalfEven_le_floor_add_one x
    omega

lemma lt_roundHalfEven_of_half_lt {x : ℚ} {k : ℤ} (h : (k : ℚ) + 1 / 2 < x) :
    k < roundHalfEven x := by
  have hfloor : k ≤ ⌊x⌋ := Int.le_floor.mpr (by linarith)
  rcases hfloor.eq_or_lt with heq | hlt
  · have hup : 1 / 2 < x - (⌊x⌋ : ℚ) := by rw [← heq]; linarith
    unfold roundHalfEven
    rw [if_neg hup.not_gt, if_pos hup]
    omega
  · exact hlt.trans_le (floor_le_roundHalfEven x)

/-! ## To 53 binary digits -/

/-- The last of 53 binary digits. -/
def ulp (x : ℚ) : ℚ := (2 : ℚ) ^ (Int.log 2 x - 52)

lemma ulp_pos (x : ℚ) : 0 < ulp x := zpow_pos (by norm_num) _

/-- The nearest number of 53 binary digits, for a positive one. -/
def toFloat (x : ℚ) : ℚ := roundHalfEven (x / ulp x) * ulp x

lemma toFloat_eq_self {x : ℚ} {k : ℤ} (h : x = k * ulp x) : toFloat x = x := by
  have hdiv : x / ulp x = k := by
    rw [div_eq_iff (ulp_pos x).ne']
    exact h
  unfold toFloat
  rw [hdiv, roundHalfEven_intCast]
  exact h.symm

lemma toFloat_le_zpow {x : ℚ} : toFloat x ≤ (2 : ℚ) ^ (Int.log 2 x + 1) := by
  have hlt : x < (2 : ℚ) ^ (Int.log 2 x + 1) := by
    have := Int.lt_zpow_succ_log_self (b := 2) (by norm_num) x
    exact_mod_cast this
  have hsplit : (2 : ℚ) ^ (Int.log 2 x + 1) = ((2 ^ 53 : ℤ) : ℚ) * ulp x := by
    rw [ulp, show Int.log 2 x + 1 = 53 + (Int.log 2 x - 52) by ring, zpow_add₀ (by norm_num)]
    norm_num
  have hdiv : x / ulp x ≤ ((2 ^ 53 : ℤ) : ℚ) := by
    rw [div_le_iff₀ (ulp_pos x), ← hsplit]
    exact hlt.le
  have hround := roundHalfEven_mono hdiv
  rw [roundHalfEven_intCast] at hround
  rw [toFloat, hsplit]
  exact mul_le_mul_of_nonneg_right (by exact_mod_cast hround) (ulp_pos x).le

lemma zpow_le_toFloat {x : ℚ} (hx : 0 < x) : (2 : ℚ) ^ Int.log 2 x ≤ toFloat x := by
  have hle : (2 : ℚ) ^ Int.log 2 x ≤ x := by
    have := Int.zpow_log_le_self (b := 2) (by norm_num) hx
    exact_mod_cast this
  have hsplit : (2 : ℚ) ^ Int.log 2 x = ((2 ^ 52 : ℤ) : ℚ) * ulp x := by
    rw [ulp, show Int.log 2 x = 52 + (Int.log 2 x - 52) by ring, zpow_add₀ (by norm_num)]
    norm_num
  have hdiv : ((2 ^ 52 : ℤ) : ℚ) ≤ x / ulp x := by
    rw [le_div_iff₀ (ulp_pos x), ← hsplit]
    exact hle
  have hround := roundHalfEven_mono hdiv
  rw [roundHalfEven_intCast] at hround
  rw [toFloat, hsplit]
  exact mul_le_mul_of_nonneg_right (by exact_mod_cast hround) (ulp_pos x).le

theorem toFloat_mono {x y : ℚ} (hx : 0 < x) (h : x ≤ y) : toFloat x ≤ toFloat y := by
  rcases (Int.log_mono_right (b := 2) hx h).eq_or_lt with heq | hlt
  · have hulp : ulp x = ulp y := by rw [ulp, ulp, heq]
    rw [toFloat, toFloat, hulp]
    have hdiv : x / ulp y ≤ y / ulp y := div_le_div_of_nonneg_right h (ulp_pos y).le
    exact mul_le_mul_of_nonneg_right (by exact_mod_cast roundHalfEven_mono hdiv) (ulp_pos y).le
  · calc toFloat x ≤ (2 : ℚ) ^ (Int.log 2 x + 1) := toFloat_le_zpow
      _ ≤ (2 : ℚ) ^ Int.log 2 y := zpow_le_zpow_right₀ (by norm_num) hlt
      _ ≤ toFloat y := zpow_le_toFloat (hx.trans_le h)

lemma toFloat_dyadic {k : ℤ} (s : ℕ) (hk : 0 < k) (hfew : k < 2 ^ 52) :
    toFloat ((k : ℚ) / 2 ^ s) = (k : ℚ) / 2 ^ s := by
  have hpos : (0 : ℚ) < (k : ℚ) / 2 ^ s := by positivity
  have hlog : Int.log 2 ((k : ℚ) / 2 ^ s) ≤ 51 - s := by
    by_contra hlarger
    have hle : ((2 : ℕ) : ℚ) ^ ((52 : ℤ) - s) ≤ (k : ℚ) / 2 ^ s :=
      (zpow_le_zpow_right₀ (by norm_num) (by omega)).trans
        (Int.zpow_log_le_self (by norm_num) hpos)
    have hlt : (k : ℚ) < 2 ^ 52 := by exact_mod_cast hfew
    rw [le_div_iff₀ (by positivity), zpow_sub₀ (by norm_num), zpow_natCast] at hle
    norm_num at hle
    linarith
  -- the last digit divides it
  obtain ⟨m, hm⟩ : ∃ m : ℕ, Int.log 2 ((k : ℚ) / 2 ^ s) - 52 = -(s : ℤ) - m :=
    ⟨(52 - s - Int.log 2 ((k : ℚ) / 2 ^ s)).toNat, by omega⟩
  refine toFloat_eq_self (k := k * 2 ^ m) ?_
  rw [ulp, hm, zpow_sub₀ (by norm_num), zpow_neg, zpow_natCast, zpow_natCast]
  push_cast
  field_simp

lemma toFloat_natCast {n : ℕ} (hfew : n ≤ 2 ^ 53) : toFloat (n : ℚ) = n := by
  rcases hfew.eq_or_lt with rfl | hlt
  · refine toFloat_eq_self (k := 2 ^ 52) ?_
    rw [ulp, Int.log_natCast, Nat.log_pow (by norm_num)]
    norm_num
  · obtain ⟨m, hm⟩ : ∃ m : ℕ, (Nat.log 2 n : ℤ) - 52 = -(m : ℤ) := by
      have hlog : Nat.log 2 n ≤ 52 := Nat.le_of_lt_succ (Nat.log_lt_of_lt_pow' (by norm_num) hlt)
      exact ⟨52 - Nat.log 2 n, by omega⟩
    refine toFloat_eq_self (k := n * 2 ^ m) ?_
    rw [ulp, Int.log_natCast, hm, zpow_neg, zpow_natCast]
    push_cast
    field_simp

lemma toFloat_two_pow_add_one : toFloat (2 ^ 53 + 1) = 2 ^ 53 := by
  have hlog : Int.log 2 ((2 : ℚ) ^ 53 + 1) = 53 := by
    rw [show (2 : ℚ) ^ 53 + 1 = ((2 ^ 53 + 1 : ℕ) : ℚ) by norm_num, Int.log_natCast,
      Nat.log_eq_of_pow_le_of_lt_pow (m := 53) (by norm_num) (by norm_num)]
    rfl
  have hulp : ulp ((2 : ℚ) ^ 53 + 1) = 2 := by
    rw [ulp, hlog]
    norm_num
  have hhalf : ((2 : ℚ) ^ 53 + 1) / 2 = ((2 ^ 52 : ℤ) : ℚ) + 1 / 2 := by norm_num
  rw [toFloat, hulp, hhalf, roundHalfEven_half, if_pos (by norm_num)]
  norm_num

/-- The nearest float, of either sign. -/
def roundFloat (x : ℚ) : ℚ := if x < 0 then -toFloat (-x) else toFloat x

lemma roundFloat_intCast {k : ℤ} (hfew : |k| ≤ 2 ^ 53) : roundFloat (k : ℚ) = k := by
  obtain ⟨n, rfl | rfl⟩ := k.eq_nat_or_neg
  · have hle : n ≤ 2 ^ 53 := by
      rw [Nat.abs_cast] at hfew
      exact_mod_cast hfew
    rw [roundFloat, if_neg (by push_cast; exact not_lt.mpr n.cast_nonneg), Int.cast_natCast,
      toFloat_natCast hle]
  · have hle : n ≤ 2 ^ 53 := by
      rw [abs_neg, Nat.abs_cast] at hfew
      exact_mod_cast hfew
    unfold roundFloat
    split
    · rw [Int.cast_neg, neg_neg, Int.cast_natCast, toFloat_natCast hle]
    · rename_i hneg
      have hzero : n = 0 := by
        by_contra hne
        exact hneg (by push_cast; exact neg_neg_of_pos (by positivity))
      subst hzero
      simpa using toFloat_natCast (n := 0) (by norm_num)

end Rounding
