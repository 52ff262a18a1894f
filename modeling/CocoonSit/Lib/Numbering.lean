import Mathlib.Data.List.Count
import Mathlib.Data.List.Induction
import Mathlib.Data.List.Nodup

/-!
# Numbered occurrences

A list whose items are counted as they come: the `k`th occurrence of an item is paired with `k`.
The pairs are all different, and they are the pairs of an item and a number up to its count.  A
labelling of the pairs therefore gives different labels exactly if it is injective on these.
-/

namespace Numbering

variable {α β : Type*} [DecidableEq α]

/-- The items with the number of their occurrence. -/
def numbered (xs : List α) : List (α × ℕ) :=
  xs.foldl (fun pairs x => pairs ++ [(x, (pairs.map Prod.fst).count x + 1)]) []

@[simp] lemma numbered_nil : numbered ([] : List α) = [] := rfl

private lemma map_fst_foldl (xs : List α) (pairs : List (α × ℕ)) :
    (xs.foldl (fun pairs x => pairs ++ [(x, (pairs.map Prod.fst).count x + 1)]) pairs).map
      Prod.fst = pairs.map Prod.fst ++ xs := by
  induction xs generalizing pairs with
  | nil => simp
  | cons x xs ih =>
    rw [List.foldl_cons, ih, List.map_append, List.append_assoc]
    rfl

@[simp] lemma map_fst_numbered (xs : List α) : (numbered xs).map Prod.fst = xs :=
  map_fst_foldl xs []

lemma numbered_concat (xs : List α) (x : α) :
    numbered (xs ++ [x]) = numbered xs ++ [(x, xs.count x + 1)] := by
  have hitems := map_fst_numbered xs
  unfold numbered at hitems ⊢
  rw [List.foldl_append, List.foldl_cons, List.foldl_nil, hitems]

@[simp] lemma length_numbered (xs : List α) : (numbered xs).length = xs.length := by
  rw [← List.length_map (f := Prod.fst), map_fst_numbered]

/-- Each item comes with the numbers up to its count. -/
theorem mem_numbered {xs : List α} {x : α} {k : ℕ} :
    (x, k) ∈ numbered xs ↔ 1 ≤ k ∧ k ≤ xs.count x := by
  induction xs using List.reverseRecOn with
  | nil =>
    rw [numbered_nil, List.count_nil]
    refine iff_of_false List.not_mem_nil ?_
    omega
  | append_singleton xs y ih =>
    rw [numbered_concat, List.mem_append, ih, List.mem_singleton, Prod.mk.injEq,
      List.count_append, List.count_singleton]
    by_cases hyx : y = x
    · subst hyx
      simp only [true_and, beq_self_eq_true, if_true]
      omega
    · have hne : ¬ (x = y ∧ k = xs.count y + 1) := fun h => hyx h.1.symm
      have hcount : (if (y == x) = true then 1 else 0) = 0 := if_neg (by simpa using hyx)
      rw [or_iff_left hne, hcount, Nat.add_zero]

theorem nodup_numbered (xs : List α) : (numbered xs).Nodup := by
  induction xs using List.reverseRecOn with
  | nil => exact List.nodup_nil
  | append_singleton xs y ih =>
    rw [numbered_concat]
    refine ih.append (List.nodup_singleton _) (List.disjoint_singleton.mpr fun h => ?_)
    have hle := (mem_numbered.mp h).2
    omega

end Numbering
