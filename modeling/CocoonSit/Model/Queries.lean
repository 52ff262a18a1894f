import CocoonSit.Model.Entities
import Mathlib.Algebra.Order.BigOperators.Group.List
import Mathlib.Algebra.Order.Ring.Nat

/-!
# Keys and unordered queries

Two choices that the services leave to others: the key of a new row, and which row a query without
an order returns.
-/

namespace CocoonSit

/-- `new_id`: a key that no row has yet. -/
structure NewId where
  draw : List RowId → RowId
  draw_notMem : ∀ ids, draw ids ∉ ids

/-- The row that `session.scalar` returns where the query has no order: any of those selected. -/
structure RowChoice (ρ : Type*) where
  pick : List ρ → Option ρ
  mem_of_pick : ∀ {rows r}, pick rows = some r → r ∈ rows
  pick_eq_none : ∀ {rows}, pick rows = none → rows = []

/-- A key longer than those in use. -/
def longerId (ids : List RowId) : RowId :=
  String.ofList (List.replicate ((ids.map String.length).sum + 1) 'x')

lemma longerId_notMem (ids : List RowId) : longerId ids ∉ ids := by
  intro hmem
  have hle : (longerId ids).length ≤ (ids.map String.length).sum :=
    List.single_le_sum (fun _ _ => Nat.zero_le _) _ (List.mem_map_of_mem hmem)
  rw [longerId, String.length_ofList, List.length_replicate] at hle
  omega

def NewId.longer : NewId := ⟨longerId, longerId_notMem⟩

/-- The rows come in the order of their insertion. -/
def RowChoice.oldest {ρ : Type*} : RowChoice ρ where
  pick rows := rows.head?
  mem_of_pick h := List.mem_of_mem_head? h
  pick_eq_none h := List.head?_eq_none_iff.mp h

end CocoonSit
