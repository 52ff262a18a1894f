import Mathlib.Algebra.BigOperators.Group.List.Basic
import Mathlib.Algebra.Order.Group.Int
import Mathlib.Algebra.Ring.Int.Defs
import Mathlib.Data.List.Chain
import Mathlib.Data.List.Nodup

/-!
# Sums by groups, and intervals of one width

Items that are put into groups can be summed group by group: the sums add up to the sum of all, when
every item has one of the groups.  Times are put into half-open intervals of one width, which begin
at its multiples; a loop that steps from the beginning of one interval to that of another comes past
the interval of every time between.
-/

namespace Buckets

/-! ## Groups -/

section Groups

variable {α κ M : Type*} [DecidableEq κ] [AddCommMonoid M]

lemma sum_map_ite {keys : List κ} (hnodup : keys.Nodup) {a : κ} (ha : a ∈ keys) (w : M)
    (f : κ → M) :
    (keys.map fun k => if a = k then w + f k else f k).sum = w + (keys.map f).sum := by
  induction keys with
  | nil => exact absurd ha List.not_mem_nil
  | cons k keys ih =>
    obtain ⟨hk, hkeys⟩ := List.nodup_cons.mp hnodup
    rw [List.map_cons, List.map_cons, List.sum_cons, List.sum_cons]
    by_cases heq : a = k
    · subst heq
      have hrest : (keys.map fun k => if a = k then w + f k else f k) = keys.map f := by
        refine List.map_congr_left fun k hmem => if_neg ?_
        rintro rfl
        exact hk hmem
      rw [if_pos rfl, hrest, add_assoc]
    · rw [if_neg heq, ih hkeys ((List.mem_cons.mp ha).resolve_left heq), add_left_comm]

/-- Summed by groups, the items come to what they come to together. -/
theorem sum_groups {keys : List κ} (hnodup : keys.Nodup) (key : α → κ) (value : α → M)
    (items : List α) (hkeys : ∀ x ∈ items, key x ∈ keys) :
    (keys.map fun k => ((items.filter fun x => key x = k).map value).sum).sum =
      (items.map value).sum := by
  induction items with
  | nil =>
    rw [List.map_nil, List.sum_nil]
    exact List.sum_eq_zero fun x hx => by
      obtain ⟨k, -, rfl⟩ := List.mem_map.mp hx
      rfl
  | cons x items ih =>
    have hstep : (fun k => (((x :: items).filter fun x => key x = k).map value).sum) =
        fun k => if key x = k then
          value x + ((items.filter fun x => key x = k).map value).sum
        else ((items.filter fun x => key x = k).map value).sum := by
      funext k
      by_cases hk : key x = k
      · rw [List.filter_cons, if_pos (decide_eq_true hk), List.map_cons, List.sum_cons, if_pos hk]
      · rw [List.filter_cons, if_neg (by simpa using hk), if_neg hk]
    rw [hstep, sum_map_ite hnodup (hkeys x List.mem_cons_self),
      ih fun y hy => hkeys y (List.mem_cons_of_mem x hy), List.map_cons, List.sum_cons]

end Groups

/-! ## Intervals -/

section Intervals

/-- The beginning of the interval of `t`. -/
def floorTo (width t : ℤ) : ℤ := t - t % width

variable {width : ℤ}

lemma floorTo_le (hpos : 0 < width) (t : ℤ) : floorTo width t ≤ t := by
  have := Int.emod_nonneg t hpos.ne'
  unfold floorTo
  omega

lemma lt_floorTo_add (hpos : 0 < width) (t : ℤ) : t < floorTo width t + width := by
  have := Int.emod_lt_of_pos t hpos
  unfold floorTo
  omega

lemma dvd_floorTo (width t : ℤ) : width ∣ floorTo width t := Int.dvd_self_sub_emod

lemma eq_floorTo {t b : ℤ} (hdvd : width ∣ b) (hle : b ≤ t)
    (hlt : t < b + width) : b = floorTo width t := by
  obtain ⟨k, rfl⟩ := hdvd
  have hrest : (t - width * k) % width = t - width * k := Int.emod_eq_of_lt (by omega) (by omega)
  rw [Int.sub_mul_emod_self_left] at hrest
  unfold floorTo
  omega

lemma floorTo_mono (hpos : 0 < width) {s t : ℤ} (h : s ≤ t) :
    floorTo width s ≤ floorTo width t := by
  by_contra hlt
  have hs := floorTo_le hpos s
  have ht := lt_floorTo_add hpos t
  obtain ⟨j, hj⟩ := dvd_floorTo width s
  obtain ⟨k, hk⟩ := dvd_floorTo width t
  rw [hj, hk] at hlt
  have hjk : k + 1 ≤ j := by
    by_contra hless
    exact hlt (Int.mul_le_mul_of_nonneg_left (by omega) hpos.le)
  have hmul : width * (k + 1) ≤ width * j := Int.mul_le_mul_of_nonneg_left hjk hpos.le
  rw [mul_add, mul_one] at hmul
  omega

/-- `while current <= last: …; current += width`: the values that `current` takes. -/
def upTo (hpos : 0 < width) (current last : ℤ) : List ℤ :=
  if current ≤ last then current :: upTo hpos (current + width) last else []
termination_by (last + 1 - current).toNat
decreasing_by omega

lemma isChain_upTo (hpos : 0 < width) (current last : ℤ) :
    (upTo hpos current last).IsChain fun a b => b = a + width := by
  fun_induction upTo hpos current last with
  | case1 current hle ih =>
    unfold upTo at ih ⊢
    split
    · rename_i hnext
      rw [if_pos hnext] at ih
      exact List.isChain_cons_cons.mpr ⟨rfl, ih⟩
    · exact List.isChain_singleton _
  | case2 current hlt => exact List.isChain_nil

lemma mem_upTo (hpos : 0 < width) {current last b : ℤ} :
    b ∈ upTo hpos current last ↔ current ≤ b ∧ b ≤ last ∧ width ∣ b - current := by
  fun_induction upTo hpos current last with
  | case1 current hle ih =>
    rw [List.mem_cons, ih]
    constructor
    · rintro (rfl | ⟨hcurrent, hlast, hdvd⟩)
      · exact ⟨le_refl _, hle, by rw [sub_self]; exact Int.dvd_zero _⟩
      · refine ⟨by omega, hlast, ?_⟩
        have hsum := Int.dvd_add hdvd (dvd_refl width)
        rwa [show b - (current + width) + width = b - current by omega] at hsum
    · rintro ⟨hcurrent, hlast, hdvd⟩
      rcases hcurrent.eq_or_lt with rfl | hlt
      · exact .inl rfl
      · have hwidth : width ≤ b - current := Int.le_of_dvd (by omega) hdvd
        refine .inr ⟨by omega, hlast, ?_⟩
        have hdiff := Int.dvd_sub hdvd (dvd_refl width)
        rwa [show b - current - width = b - (current + width) by omega] at hdiff
  | case2 current hlt =>
    exact ⟨fun h => absurd h List.not_mem_nil, fun h => absurd (h.1.trans h.2.1) hlt⟩

lemma floorTo_mem_upTo (hpos : 0 < width) {first last t : ℤ} (hfirst : first ≤ t)
    (hlast : t ≤ last) :
    floorTo width t ∈ upTo hpos (floorTo width first) (floorTo width last) :=
  (mem_upTo hpos).mpr ⟨floorTo_mono hpos hfirst, floorTo_mono hpos hlast,
    Int.dvd_sub (dvd_floorTo width t) (dvd_floorTo width first)⟩

/-- Each time between is in one of the intervals, and in no other. -/
theorem existsUnique_interval (hpos : 0 < width) {first last t : ℤ} (hfirst : first ≤ t)
    (hlast : t ≤ last) :
    ∃! b, b ∈ upTo hpos (floorTo width first) (floorTo width last) ∧ b ≤ t ∧ t < b + width := by
  refine ⟨floorTo width t, ⟨floorTo_mem_upTo hpos hfirst hlast, floorTo_le hpos t,
    lt_floorTo_add hpos t⟩, ?_⟩
  rintro b ⟨hb, hle, hlt⟩
  have hdvd : width ∣ b := by
    have hsum := Int.dvd_add ((mem_upTo hpos).mp hb).2.2 (dvd_floorTo width first)
    rwa [sub_add_cancel] at hsum
  exact eq_floorTo hdvd hle hlt

lemma nodup_upTo (hpos : 0 < width) (current last : ℤ) : (upTo hpos current last).Nodup := by
  have hlt : (upTo hpos current last).IsChain (· < ·) :=
    (isChain_upTo hpos current last).imp fun a b h => by omega
  exact hlt.pairwise.imp fun h => ne_of_lt h

end Intervals

end Buckets
