import Mathlib.Data.List.Basic

/-!
# Arrivals and services

A log of arrivals and services, each for a key, latest first.  A key *awaits* a service when its
latest arrival is later than its latest service.  `served_or_iff` is what the predicate is for: it
is enough to look after the keys that await a service in order to look after every arrival.
-/

namespace Served

variable {α β κ : Type*}

/-- Something arrived for a key, or a key was served. -/
inductive Mark (α β κ : Type*) where
  | arrived (item : α) (k : κ)
  | served (by_ : β) (k : κ)
deriving DecidableEq

/-- The latest arrival for `k` is later than the latest service of `k`. -/
def Awaits (k : κ) : List (Mark α β κ) → Prop
  | [] => False
  | .arrived _ k' :: log => k' = k ∨ Awaits k log
  | .served _ k' :: log => k' ≠ k ∧ Awaits k log

instance decidableAwaits [DecidableEq κ] (k : κ) :
    ∀ log : List (Mark α β κ), Decidable (Awaits k log)
  | [] => inferInstanceAs (Decidable False)
  | .arrived _ k' :: log =>
    have : Decidable (Awaits k log) := decidableAwaits k log
    inferInstanceAs (Decidable (k' = k ∨ Awaits k log))
  | .served _ k' :: log =>
    have : Decidable (Awaits k log) := decidableAwaits k log
    inferInstanceAs (Decidable (k' ≠ k ∧ Awaits k log))

lemma exists_of_awaits {k : κ} {log : List (Mark α β κ)} (h : Awaits k log) :
    ∃ after item before, log = after ++ .arrived item k :: before ∧
      ∀ b, .served b k ∉ after := by
  induction log with
  | nil => exact absurd h id
  | cons m log ih =>
    cases m with
    | arrived item k' =>
      rcases h with rfl | h
      · exact ⟨[], item, log, rfl, by simp⟩
      · obtain ⟨after, item', before, rfl, hnone⟩ := ih h
        exact ⟨.arrived item k' :: after, item', before, rfl, by simpa using hnone⟩
    | served b k' =>
      obtain ⟨hne, h⟩ := h
      obtain ⟨after, item', before, rfl, hnone⟩ := ih h
      refine ⟨.served b k' :: after, item', before, rfl, fun b' hb' => ?_⟩
      rcases List.mem_cons.mp hb' with heq | hb'
      · cases heq
        exact hne rfl
      · exact hnone b' hb'

lemma awaits_of_split {k : κ} {item : α} {after before : List (Mark α β κ)}
    (h : ∀ b, .served b k ∉ after) : Awaits k (after ++ .arrived item k :: before) := by
  induction after with
  | nil => exact .inl rfl
  | cons m after ih =>
    have hrest := ih fun b hb => h b (List.mem_cons_of_mem _ hb)
    cases m with
    | arrived item' k' => exact .inr hrest
    | served b k' =>
      refine ⟨?_, hrest⟩
      rintro rfl
      exact h b List.mem_cons_self

/-- Every arrival is served later or looked after, when every key that awaits is. -/
theorem served_or_iff {log : List (Mark α β κ)} {P : κ → Prop} :
    (∀ after item k before, log = after ++ .arrived item k :: before →
      (∃ b, .served b k ∈ after) ∨ P k) ↔ ∀ k, Awaits k log → P k := by
  constructor
  · intro h k hk
    obtain ⟨after, item, before, hlog, hnone⟩ := exists_of_awaits hk
    rcases h after item k before hlog with ⟨b, hb⟩ | hP
    · exact absurd hb (hnone b)
    · exact hP
  · rintro h after item k before rfl
    by_cases hserved : ∃ b, .served b k ∈ after
    · exact .inl hserved
    · exact .inr (h k (awaits_of_split fun b hb => hserved ⟨b, hb⟩))

end Served
