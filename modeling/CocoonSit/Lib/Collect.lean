import Mathlib.Data.List.Basic
import Mathlib.Data.List.Nodup

/-!
# Collecting without repetition

The loop that resolves references one by one and appends what it has not collected yet.  As a set
the result is the image of the resolution, and it has no repetitions.
-/

namespace Collect

variable {α β : Type*} [DecidableEq β]

/-- One turn of the loop. -/
def collectStep (f : α → Option β) (kept : List β) (x : α) : List β :=
  match f x with
  | none => kept
  | some y => if y ∈ kept then kept else kept ++ [y]

/-- What `f` makes of the items, in order, each value once. -/
def collect (f : α → Option β) (xs : List α) : List β := xs.foldl (collectStep f) []

lemma mem_collectStep {f : α → Option β} {kept : List β} {x : α} {y : β} :
    y ∈ collectStep f kept x ↔ y ∈ kept ∨ f x = some y := by
  unfold collectStep
  split
  · next h => simp [h]
  · next z h =>
    rw [h]
    by_cases hz : z ∈ kept
    · rw [if_pos hz]
      refine ⟨.inl, fun hy => hy.elim id fun heq => ?_⟩
      rwa [← Option.some.inj heq]
    · rw [if_neg hz]
      simp [eq_comm]

lemma nodup_collectStep {f : α → Option β} {kept : List β} {x : α} (h : kept.Nodup) :
    (collectStep f kept x).Nodup := by
  unfold collectStep
  split
  · exact h
  · next z _ =>
    split
    · exact h
    · next hz => exact h.append (List.nodup_singleton z) (by simpa using hz)

lemma mem_foldl_collectStep {f : α → Option β} {kept : List β} {xs : List α} {y : β} :
    y ∈ xs.foldl (collectStep f) kept ↔ y ∈ kept ∨ ∃ x ∈ xs, f x = some y := by
  induction xs generalizing kept with
  | nil => simp
  | cons x xs ih =>
    rw [List.foldl_cons, ih, mem_collectStep, List.exists_mem_cons_iff, or_assoc]

theorem mem_collect {f : α → Option β} {xs : List α} {y : β} :
    y ∈ collect f xs ↔ ∃ x ∈ xs, f x = some y := by
  rw [collect, mem_foldl_collectStep]
  simp

theorem nodup_collect (f : α → Option β) (xs : List α) : (collect f xs).Nodup := by
  unfold collect
  suffices h : ∀ kept : List β, kept.Nodup → (xs.foldl (collectStep f) kept).Nodup from
    h [] List.nodup_nil
  induction xs with
  | nil => exact fun _ h => h
  | cons x xs ih => exact fun _ h => ih _ (nodup_collectStep h)

end Collect
