import CocoonSit.Lib.Table

/-!
# Ordered queries with a limit

`SELECT … ORDER BY f LIMIT n` returns the first `n` rows.  A program that looks through them for a
row of its own sees the least such row, or none although there are some: then `n` rows that are not
what it looks for are no greater than each of those.
-/

namespace Table

variable {ρ o : Type*} [LinearOrder o] {f : ρ → o} {t : List ρ} {n : ℕ} {r r' : ρ}

lemma le_of_find?_eq_some {l : List ρ} {p : ρ → Bool} (hsorted : l.Pairwise fun a b => f a ≤ f b)
    (h : l.find? p = some r) (hr' : r' ∈ l) (hp : p r' = true) : f r ≤ f r' := by
  obtain ⟨-, before, after, rfl, hbefore⟩ := List.find?_eq_some_iff_append.mp h
  rcases List.mem_append.mp hr' with hmem | hmem
  · have hnot := hbefore r' hmem
    rw [hp] at hnot
    cases hnot
  · rcases List.mem_cons.mp hmem with rfl | hmem
    · exact le_rfl
    · exact (List.pairwise_cons.mp (List.pairwise_append.mp hsorted).2.1).1 r' hmem

lemma mem_drop_of_not_mem_take (hr : r ∈ t) (hcut : r ∉ (orderBy f t).take n) :
    r ∈ (orderBy f t).drop n := by
  have hmem : r ∈ (orderBy f t).take n ++ (orderBy f t).drop n := by
    rw [List.take_append_drop]
    exact mem_orderBy.mpr hr
  exact (List.mem_append.mp hmem).resolve_left hcut

lemma le_of_not_mem_take (hr : r ∈ t) (hcut : r ∉ (orderBy f t).take n)
    (hr' : r' ∈ (orderBy f t).take n) : f r' ≤ f r := by
  have hsorted := pairwise_orderBy f t
  rw [← List.take_append_drop n (orderBy f t)] at hsorted
  exact (List.pairwise_append.mp hsorted).2.2 r' hr' r (mem_drop_of_not_mem_take hr hcut)

lemma length_le_filter_of_not_mem_take (hr : r ∈ t) (hcut : r ∉ (orderBy f t).take n)
    {q : ρ → Bool} (hq : ∀ r' ∈ (orderBy f t).take n, q r' = true) :
    n ≤ (t.filter fun r' => q r' ∧ f r' ≤ f r).length := by
  have hdrop := List.length_pos_of_mem (mem_drop_of_not_mem_take hr hcut)
  have hlength : ((orderBy f t).take n).length = n := by
    rw [List.length_take]
    rw [List.length_drop] at hdrop
    omega
  have hall : ((orderBy f t).take n).filter (fun r' => q r' ∧ f r' ≤ f r) =
      (orderBy f t).take n :=
    List.filter_eq_self.mpr fun r' hr' =>
      decide_eq_true ⟨hq r' hr', le_of_not_mem_take hr hcut hr'⟩
  calc n = (((orderBy f t).take n).filter fun r' => q r' ∧ f r' ≤ f r).length := by
        rw [hall, hlength]
    _ ≤ ((orderBy f t).filter fun r' => q r' ∧ f r' ≤ f r).length :=
        ((List.take_sublist n _).filter _).length_le
    _ = (t.filter fun r' => q r' ∧ f r' ≤ f r).length :=
        ((perm_orderBy f t).filter _).length_eq

end Table
