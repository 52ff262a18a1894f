import Mathlib.Data.List.Forall2

/-!
# A partial function on a list

`mapM` in `Option` gives a result when the function has one for every element, and `foldlM` when its
turns have.
-/

namespace Traverse

variable {α β : Type*} {f : α → Option β} {l : List α}

lemma mapM_eq_some_iff {r : List β} :
    l.mapM f = some r ↔ List.Forall₂ (fun a b => f a = some b) l r := by
  induction l generalizing r with
  | nil =>
    rw [List.mapM_nil, List.forall₂_nil_left_iff]
    exact ⟨fun h => (Option.some.inj h).symm, fun h => h ▸ rfl⟩
  | cons a l ih =>
    rw [List.mapM_cons, List.forall₂_cons_left_iff]
    constructor
    · intro h
      obtain ⟨b, hb, h⟩ := Option.bind_eq_some_iff.mp h
      obtain ⟨r', hr, h⟩ := Option.bind_eq_some_iff.mp h
      exact ⟨b, r', hb, ih.mp hr, (Option.some.inj h).symm⟩
    · rintro ⟨b, r', hb, hr, rfl⟩
      rw [hb, ih.mpr hr]
      rfl

lemma exists_of_mem_mapM {r : List β} (h : l.mapM f = some r) {b : β} (hb : b ∈ r) :
    ∃ a ∈ l, f a = some b := by
  rw [mapM_eq_some_iff] at h
  induction h with
  | nil => exact absurd hb List.not_mem_nil
  | @cons a b' l r hab _ ih =>
    rcases List.mem_cons.mp hb with rfl | hb
    · exact ⟨a, List.mem_cons_self, hab⟩
    · obtain ⟨a', ha', hb'⟩ := ih hb
      exact ⟨a', List.mem_cons_of_mem _ ha', hb'⟩

lemma exists_mem_of_mapM {r : List β} (h : l.mapM f = some r) {a : α} (ha : a ∈ l) :
    ∃ b ∈ r, f a = some b := by
  rw [mapM_eq_some_iff] at h
  induction h with
  | nil => exact absurd ha List.not_mem_nil
  | @cons a' b l r hab _ ih =>
    rcases List.mem_cons.mp ha with rfl | ha
    · exact ⟨b, List.mem_cons_self, hab⟩
    · obtain ⟨b', hb', ha'⟩ := ih ha
      exact ⟨b', List.mem_cons_of_mem _ hb', ha'⟩

lemma isSome_bind_iff {o : Option α} {k : α → Option β} (default : α) :
    (o.bind k).isSome ↔ o.isSome ∧ (k (o.getD default)).isSome := by
  cases o with
  | none => simp
  | some a => simp

lemma isSome_mapM_iff : (l.mapM f).isSome ↔ ∀ a ∈ l, (f a).isSome := by
  induction l with
  | nil => simp
  | cons a l ih =>
    rw [List.mapM_cons, List.forall_mem_cons, ← ih]
    cases f a with
    | none => simp
    | some b =>
      cases l.mapM f with
      | none => simp
      | some r => simp

lemma isSome_foldlM_iff {σ : Type*} {step : σ → α → Option σ} {P : α → Prop}
    (h : ∀ s a, (step s a).isSome ↔ P a) {s : σ} : (l.foldlM step s).isSome ↔ ∀ a ∈ l, P a := by
  induction l generalizing s with
  | nil => simp
  | cons a l ih =>
    rw [List.foldlM_cons, List.forall_mem_cons, ← h s a]
    cases step s a with
    | none => simp
    | some s' =>
      rw [Option.isSome_some, eq_self_iff_true, true_and]
      exact ih

lemma foldlM_induction {σ : Type*} {step : σ → α → Option σ} (Inv : σ → Prop)
    (h : ∀ a ∈ l, ∀ s s', Inv s → step s a = some s' → Inv s') {s s' : σ} (h0 : Inv s)
    (hfold : l.foldlM step s = some s') : Inv s' := by
  induction l generalizing s with
  | nil =>
    cases hfold
    exact h0
  | cons a l ih =>
    obtain ⟨hhead, htail⟩ := List.forall_mem_cons.mp h
    rw [List.foldlM_cons] at hfold
    obtain ⟨s₁, hs₁, hfold⟩ := Option.bind_eq_some_iff.mp hfold
    exact ih htail (hhead s s₁ h0 hs₁) hfold

end Traverse
