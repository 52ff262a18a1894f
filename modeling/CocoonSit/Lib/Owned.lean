import Mathlib.Data.List.Find

/-!
# Rows of one owner

A table holds the rows of many owners, of which a predicate picks one.  A write can be seen from the
owner's side, on whose rows it is a function of these rows, and from the other side, where it should
change nothing.
-/

namespace Owned

variable {ρ : Type*} {p q : ρ → Bool} {f : ρ → ρ} {l l₁ l₂ : List ρ}

lemma filter_map_comm (h : ∀ r, p (f r) = p r) (l : List ρ) :
    (l.map f).filter p = (l.filter p).map f := by
  rw [List.filter_map]
  have hfun : p ∘ f = p := funext h
  rw [hfun]

lemma filter_map_eq (h : ∀ r, p (f r) = p r) (hfix : ∀ r ∈ l, p r = true → f r = r) :
    (l.map f).filter p = l.filter p := by
  rw [filter_map_comm h]
  refine (List.map_congr_left fun r hr => ?_).trans (List.map_id _)
  obtain ⟨hr, hp⟩ := List.mem_filter.mp hr
  exact hfix r hr hp

lemma filter_filter_eq (h : ∀ r ∈ l, p r = true → q r = true) :
    (l.filter q).filter p = l.filter p := by
  rw [List.filter_filter]
  refine List.filter_congr fun r hr => ?_
  cases hp : p r with
  | false => rfl
  | true => rw [h r hr hp, Bool.and_true]

lemma filter_filter_comm : (l.filter q).filter p = (l.filter p).filter q := by
  rw [List.filter_filter, List.filter_filter]
  refine List.filter_congr fun r _ => ?_
  rw [Bool.and_comm]

lemma filter_append_eq (h : ∀ r ∈ l₂, p r = false) : (l₁ ++ l₂).filter p = l₁.filter p := by
  have hnone : l₂.filter p = [] := List.filter_eq_nil_iff.mpr fun r hr => by simp [h r hr]
  rw [List.filter_append, hnone, List.append_nil]

lemma find?_filter_eq (h : ∀ r ∈ l, q r = true → p r = true) :
    (l.filter p).find? q = l.find? q := by
  rw [List.find?_filter]
  refine List.find?_congr fun r hr => ?_
  cases hq : q r with
  | false => simp
  | true => simp [h r hr hq]

lemma find?_filter_of_find? (h : ∀ r, l.find? q = some r → p r = true) :
    (l.filter p).find? q = l.find? q := by
  induction l with
  | nil => rfl
  | cons a l ih =>
    by_cases hq : q a = true
    · have hp : p a = true := h a (List.find?_cons_of_pos hq)
      rw [List.filter_cons_of_pos hp, List.find?_cons_of_pos hq, List.find?_cons_of_pos hq]
    · have hl : (l.filter p).find? q = l.find? q :=
        ih fun r hr => h r ((List.find?_cons_of_neg hq).trans hr)
      rw [List.find?_cons_of_neg hq, ← hl]
      by_cases hp : p a = true
      · rw [List.filter_cons_of_pos hp, List.find?_cons_of_neg hq]
      · rw [List.filter_cons_of_neg hp]

end Owned
