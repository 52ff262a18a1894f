import Mathlib.Order.Lattice.Nat
import Mathlib.Data.Option.Basic
import Mathlib.Logic.Function.Basic

/-!
# Parent pointers

A partial function gives each node its parent, if it has one.  Following parents from a node leads
to the root of a tree, off the tree, or around in a circle; what a change of the pointers does to
the ways up is read off one rule, `above_of_step`.
-/

namespace Ancestry

variable {κ : Type*} {parent parent' : κ → Option κ} {x y z r p : κ} {m n : ℕ}

/-- The node `n` steps above. -/
def climb (parent : κ → Option κ) : ℕ → κ → Option κ
  | 0, x => some x
  | n + 1, x => (parent x).bind (climb parent n)

@[simp] lemma climb_zero : climb parent 0 x = some x := rfl

lemma climb_succ : climb parent (n + 1) x = (parent x).bind (climb parent n) := rfl

lemma climb_succ_of_parent (h : parent x = some z) :
    climb parent (n + 1) x = climb parent n z := by
  rw [climb_succ, h, Option.bind_some]

lemma climb_add (m n : ℕ) (x : κ) :
    climb parent (m + n) x = (climb parent m x).bind (climb parent n) := by
  induction m generalizing x with
  | zero => rw [Nat.zero_add, climb_zero, Option.bind_some]
  | succ m ih =>
    rw [Nat.succ_add, climb_succ, climb_succ]
    cases parent x with
    | none => rfl
    | some z => exact ih z

/-- `y` is `x` or above it. -/
def Above (parent : κ → Option κ) (x y : κ) : Prop := ∃ n, climb parent n x = some y

namespace Above

lemma refl (x : κ) : Above parent x x := ⟨0, rfl⟩

lemma step (hz : parent x = some z) (h : Above parent z y) : Above parent x y := by
  obtain ⟨n, hn⟩ := h
  exact ⟨n + 1, (climb_succ_of_parent hz).trans hn⟩

lemma trans (hxy : Above parent x y) (hyz : Above parent y z) : Above parent x z := by
  obtain ⟨m, hm⟩ := hxy
  obtain ⟨n, hn⟩ := hyz
  exact ⟨m + n, by rw [climb_add, hm, Option.bind_some, hn]⟩

end Above

lemma above_iff : Above parent x y ↔ x = y ∨ ∃ z, parent x = some z ∧ Above parent z y := by
  constructor
  · rintro ⟨n, hn⟩
    cases n with
    | zero => exact .inl (Option.some.inj hn)
    | succ n =>
      obtain ⟨z, hz, hn⟩ := Option.bind_eq_some_iff.mp hn
      exact .inr ⟨z, hz, n, hn⟩
  · rintro (rfl | ⟨z, hz, h⟩)
    · exact .refl x
    · exact .step hz h

/-! ## Circles -/

lemma climb_isSome_of_circle (h : climb parent (n + 1) x = some x) (k : ℕ) :
    (climb parent k x).isSome := by
  induction k using Nat.strong_induction_on with
  | _ k ih =>
    rcases Nat.lt_or_ge k (n + 1) with hk | hk
    · have hsplit : climb parent (k + (n + 1 - k)) x = some x := by
        rw [Nat.add_sub_cancel' (Nat.le_of_lt hk), h]
      rw [climb_add] at hsplit
      obtain ⟨z, hz, -⟩ := Option.bind_eq_some_iff.mp hsplit
      rw [hz]
      rfl
    · have hround : climb parent k x = climb parent (k - (n + 1)) x := by
        conv_lhs => rw [← Nat.add_sub_cancel' hk, climb_add, h, Option.bind_some]
      rw [hround]
      exact ih _ (by omega)

lemma no_circle_of_above_root (hr : parent r = none) (h : Above parent x r) (n : ℕ) :
    climb parent (n + 1) x ≠ some x := by
  intro hcircle
  obtain ⟨m, hm⟩ := h
  have hend : climb parent (m + 1) x = none := by
    rw [climb_add, hm, Option.bind_some, climb_succ, hr, Option.bind_none]
  have hsome := climb_isSome_of_circle hcircle (m + 1)
  rw [hend] at hsome
  cases hsome

/-! ## Depth -/

lemma exists_depth (parent : κ → Option κ) : ∃ depth : κ → ℕ, (∀ x, parent x = none → depth x = 0) ∧
    ∀ x r z, parent r = none → Above parent x r → parent x = some z → depth x = depth z + 1 := by
  refine ⟨fun x => sInf {n | climb parent (n + 1) x = none}, fun x hx => ?_,
    fun x r z hr hxr hz => ?_⟩
  · have hmem : 0 ∈ {n | climb parent (n + 1) x = none} := by
      rw [Set.mem_ofPred_eq, climb_succ, hx, Option.bind_none]
    exact Nat.le_zero.mp (Nat.sInf_le hmem)
  · have hstep : ∀ n, climb parent (n + 2) x = climb parent (n + 1) z :=
      fun n => climb_succ_of_parent hz
    have hends : {n | climb parent (n + 1) x = none}.Nonempty := by
      obtain ⟨n, hn⟩ := hxr
      refine ⟨n, ?_⟩
      rw [Set.mem_ofPred_eq, climb_add, hn, Option.bind_some, climb_succ, hr, Option.bind_none]
    -- the way up from `x` is one longer than the way up from `z`
    obtain ⟨n, hn⟩ : ∃ n, sInf {n | climb parent (n + 1) x = none} = n + 1 := by
      refine Nat.exists_eq_succ_of_ne_zero fun hzero => ?_
      have hmem := Nat.sInf_mem hends
      rw [hzero, Set.mem_ofPred_eq, climb_succ_of_parent hz] at hmem
      cases hmem
    have hends' : {n | climb parent (n + 1) z = none}.Nonempty := by
      have hmem := Nat.sInf_mem hends
      rw [hn, Set.mem_ofPred_eq, hstep] at hmem
      exact ⟨n, hmem⟩
    beta_reduce
    refine le_antisymm (Nat.sInf_le ?_) ?_
    · rw [Set.mem_ofPred_eq, hstep]
      exact Nat.sInf_mem hends'
    · have hmem := Nat.sInf_mem hends
      rw [hn, Set.mem_ofPred_eq, hstep] at hmem
      rw [hn]
      exact Nat.succ_le_succ (Nat.sInf_le hmem)

/-! ## Changing the pointers -/

/-- The root is still above a node when each pointer on the way is as it was, or goes to a node that
has the root above it. -/
theorem above_of_step (P : κ → Prop)
    (hstep : ∀ y z, P y → parent y = some z →
      Above parent' y r ∨ (parent' y = some z ∧ P z))
    (hy : P y) (h : Above parent y r) : Above parent' y r := by
  obtain ⟨n, hn⟩ := h
  induction n generalizing y with
  | zero =>
    rw [Option.some.inj hn]
    exact .refl r
  | succ n ih =>
    obtain ⟨z, hz, hn⟩ := Option.bind_eq_some_iff.mp hn
    rcases hstep y z hy hz with hdone | ⟨hsame, hz⟩
    · exact hdone
    · exact .step hsame (ih hz hn)

section Update

variable [DecidableEq κ]

lemma climb_update (h : ∀ k < n, climb parent k y ≠ some x) (v : Option κ) :
    climb (Function.update parent x v) n y = climb parent n y := by
  induction n generalizing y with
  | zero => rfl
  | succ n ih =>
    have hne : y ≠ x := fun heq => h 0 (Nat.succ_pos n) (congrArg some heq)
    rw [climb_succ, climb_succ, Function.update_of_ne hne]
    cases hz : parent y with
    | none => rfl
    | some z =>
      refine ih fun k hk hx => h (k + 1) (Nat.succ_lt_succ hk) ?_
      rw [climb_succ_of_parent hz, hx]

/-- With a parent that is not below it, a node still has the root above it, and so have all. -/
theorem above_update (hp : ¬ Above parent p x) (hpr : Above parent p r)
    (h : Above parent y r) : Above (Function.update parent x (some p)) y r := by
  have hnot : ∀ k, climb parent k p ≠ some x := fun k hk => hp ⟨k, hk⟩
  have hparent : Above (Function.update parent x (some p)) p r := by
    obtain ⟨n, hn⟩ := hpr
    exact ⟨n, (climb_update (fun k _ => hnot k) _).trans hn⟩
  refine above_of_step (fun _ => True) (fun y z _ hz => ?_) trivial h
  by_cases hy : y = x
  · subst hy
    exact .inl (.step (Function.update_self ..) hparent)
  · exact .inr ⟨(Function.update_of_ne hy ..).trans hz, trivial⟩

/-- With a parent below it, a node is on a circle. -/
theorem circle_update (hp : Above parent p x) :
    ∃ n, climb (Function.update parent x (some p)) (n + 1) x = some x := by
  classical
  have hleast := Nat.find_spec hp
  refine ⟨Nat.find hp, ?_⟩
  rw [climb_succ_of_parent (Function.update_self ..), climb_update ?_, hleast]
  intro k hk
  exact Nat.find_min hp hk

end Update

end Ancestry
