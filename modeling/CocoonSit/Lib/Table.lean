import Mathlib.Algebra.Ring.Int.Defs
import Mathlib.Data.List.Nodup
import Mathlib.Data.List.Sort

/-!
# Keyed tables as lists

A database table is a list of rows in insertion order; a row carries its primary key.  The
operations are the statements an object-relational mapper emits: a lookup by primary key, an
`UPDATE … WHERE key = k`, and a `SELECT … ORDER BY`.  Updates are *blind*: they rewrite the row
whatever it holds at that moment, which is what a mapper does with an object it loaded earlier.
-/

namespace Table

variable {ρ κ : Type*}

/-- Rows of type `ρ` with a primary key. -/
class Keyed (ρ : Type*) (κ : outParam (Type*)) where
  key : ρ → κ

export Keyed (key)

section Keyed

variable [Keyed ρ κ] [DecidableEq κ]

/-- `session.get`: the row with primary key `k`. -/
def get (t : List ρ) (k : κ) : Option ρ :=
  t.find? fun r => key r = k

/-- `UPDATE … SET f WHERE key = k`. -/
def update (t : List ρ) (k : κ) (f : ρ → ρ) : List ρ :=
  t.map fun r => if key r = k then f r else r

lemma map_eq_self_iff {f : ρ → ρ} {t : List ρ} : t.map f = t ↔ ∀ r ∈ t, f r = r := by
  simpa using List.map_inj_left (f := f) (g := id) (l := t)

lemma mem_of_get {t : List ρ} {k : κ} {r : ρ} (h : get t k = some r) : r ∈ t :=
  List.mem_of_find?_eq_some h

lemma key_of_get {t : List ρ} {k : κ} {r : ρ} (h : get t k = some r) : key r = k := by
  simpa using List.find?_some h

lemma get_isSome_iff {t : List ρ} {k : κ} : (get t k).isSome ↔ k ∈ t.map key := by
  simp [get]

lemma get_eq_none_iff {t : List ρ} {k : κ} : get t k = none ↔ k ∉ t.map key := by
  simp [get]

lemma get_of_mem {t : List ρ} (hnd : (t.map key).Nodup) {r : ρ} (hr : r ∈ t) :
    get t (key r) = some r := by
  obtain ⟨r', hr'⟩ := Option.isSome_iff_exists.mp
    (get_isSome_iff.mpr (List.mem_map_of_mem hr : key r ∈ t.map key))
  rw [hr', List.inj_on_of_nodup_map hnd (mem_of_get hr') hr (key_of_get hr')]

lemma mem_update {t : List ρ} {k : κ} {f : ρ → ρ} {r : ρ} :
    r ∈ update t k f ↔ (∃ r₀ ∈ t, key r₀ = k ∧ f r₀ = r) ∨ (r ∈ t ∧ key r ≠ k) := by
  simp only [update, List.mem_map]
  constructor
  · rintro ⟨r₀, hr₀, h⟩
    by_cases hk : key r₀ = k
    · exact .inl ⟨r₀, hr₀, hk, by rwa [if_pos hk] at h⟩
    · rw [if_neg hk] at h
      exact .inr ⟨h ▸ hr₀, h ▸ hk⟩
  · rintro (⟨r₀, hr₀, hk, h⟩ | ⟨hr, hk⟩)
    · exact ⟨r₀, hr₀, by rwa [if_pos hk]⟩
    · exact ⟨r, hr, if_neg hk⟩

lemma update_congr {t : List ρ} {k : κ} {f g : ρ → ρ} (h : ∀ r ∈ t, key r = k → f r = g r) :
    update t k f = update t k g := by
  refine List.map_congr_left fun r hr => ?_
  by_cases hk : key r = k
  · rw [if_pos hk, if_pos hk, h r hr hk]
  · rw [if_neg hk, if_neg hk]

lemma update_update {t : List ρ} {k : κ} {f g : ρ → ρ} (hf : ∀ r, key (f r) = key r) :
    update (update t k f) k g = update t k fun r => g (f r) := by
  rw [update, update, List.map_map]
  refine List.map_congr_left fun r _ => ?_
  by_cases hk : key r = k
  · rw [Function.comp_apply, if_pos hk, if_pos ((hf r).trans hk), if_pos hk]
  · rw [Function.comp_apply, if_neg hk, if_neg hk, if_neg hk]

lemma map_key_update {t : List ρ} {k : κ} {f : ρ → ρ} (hf : ∀ r, key (f r) = key r) :
    (update t k f).map key = t.map key := by
  rw [update, List.map_map]
  refine List.map_congr_left fun r _ => ?_
  simp only [Function.comp_apply]
  split
  · exact hf r
  · rfl

lemma map_key_update_of_key {t : List ρ} {k : κ} {f : ρ → ρ}
    (hf : ∀ r, key r = k → key (f r) = k) : (update t k f).map key = t.map key := by
  rw [update, List.map_map]
  refine List.map_congr_left fun r _ => ?_
  by_cases hk : key r = k
  · rw [Function.comp_apply, if_pos hk, hf r hk, hk]
  · rw [Function.comp_apply, if_neg hk]

/-- `UPDATE … SET f WHERE key IN ks`. -/
def updateIn (t : List ρ) (ks : List κ) (f : ρ → ρ) : List ρ :=
  t.map fun r => if key r ∈ ks then f r else r

lemma mem_updateIn {t : List ρ} {ks : List κ} {f : ρ → ρ} {r : ρ} :
    r ∈ updateIn t ks f ↔ (∃ r₀ ∈ t, key r₀ ∈ ks ∧ f r₀ = r) ∨ (r ∈ t ∧ key r ∉ ks) := by
  simp only [updateIn, List.mem_map]
  constructor
  · rintro ⟨r₀, hr₀, h⟩
    by_cases hk : key r₀ ∈ ks
    · exact .inl ⟨r₀, hr₀, hk, by rwa [if_pos hk] at h⟩
    · rw [if_neg hk] at h
      exact .inr ⟨h ▸ hr₀, h ▸ hk⟩
  · rintro (⟨r₀, hr₀, hk, h⟩ | ⟨hr, hk⟩)
    · exact ⟨r₀, hr₀, by rwa [if_pos hk]⟩
    · exact ⟨r, hr, if_neg hk⟩

lemma map_key_updateIn {t : List ρ} {ks : List κ} {f : ρ → ρ} (hf : ∀ r, key (f r) = key r) :
    (updateIn t ks f).map key = t.map key := by
  rw [updateIn, List.map_map]
  refine List.map_congr_left fun r _ => ?_
  simp only [Function.comp_apply]
  split
  · exact hf r
  · rfl

lemma find?_update {t : List ρ} {k : κ} {f : ρ → ρ} {p : ρ → Bool}
    (hp : ∀ r, p (f r) = p r) :
    (update t k f).find? p = (t.find? p).map fun r => if key r = k then f r else r := by
  rw [update, List.find?_map]
  congr 1
  refine congrArg (t.find? ·) (funext fun r => ?_)
  simp only [Function.comp_apply]
  split
  · exact hp r
  · rfl

lemma get_update {t : List ρ} {k k' : κ} {f : ρ → ρ} (hf : ∀ r, key (f r) = key r) :
    get (update t k f) k' = (get t k').map fun r => if key r = k then f r else r := by
  refine find?_update fun r => ?_
  rw [hf]

lemma get_map {t : List ρ} {k : κ} {f : ρ → ρ} (hf : ∀ r, key (f r) = key r) :
    get (t.map f) k = (get t k).map f := by
  rw [get, List.find?_map, get]
  refine congrArg (fun p => Option.map f (t.find? p)) (funext fun r => ?_)
  simp only [Function.comp_apply, hf]

lemma get_update_const {t : List ρ} {k k' : κ} {r : ρ} (hr : key r = k) :
    get (update t k fun _ => r) k' = if k' = k then (get t k).map fun _ => r else get t k' := by
  have hupdate : update t k (fun _ => r) = update t k fun r' => if key r' = k then r else r' := by
    refine List.map_congr_left fun r' _ => ?_
    by_cases hk : key r' = k
    · simp only [if_pos hk]
    · simp only [if_neg hk]
  have hkey : ∀ r' : ρ, key (if key r' = k then r else r') = key r' := by
    intro r'
    by_cases hk : key r' = k
    · rw [if_pos hk, hr, hk]
    · rw [if_neg hk]
  rw [hupdate, get_update hkey]
  by_cases hk : k' = k
  · subst hk
    rw [if_pos rfl]
    refine Option.map_congr fun r' hget => ?_
    rw [if_pos (key_of_get hget), if_pos (key_of_get hget)]
  · rw [if_neg hk]
    cases hget : get t k' with
    | none => rfl
    | some r' =>
      have hne : key r' ≠ k := key_of_get hget ▸ hk
      rw [Option.map_some, if_neg hne]

lemma update_of_notMem {t : List ρ} {k : κ} {f : ρ → ρ} (hk : k ∉ t.map key) :
    update t k f = t := by
  refine (List.map_congr_left fun r hr => if_neg fun heq => hk ?_).trans (List.map_id t)
  exact heq ▸ List.mem_map_of_mem hr

lemma sum_map_update {t : List ρ} {k : κ} {f : ρ → ρ} {r : ρ} (hnd : (t.map key).Nodup)
    (hr : get t k = some r) (w : ρ → ℤ) :
    ((update t k f).map w).sum = (t.map w).sum + (w (f r) - w r) := by
  induction t with
  | nil => cases hr
  | cons a t ih =>
    obtain ⟨hnot, hnd⟩ := List.nodup_cons.mp hnd
    have hcons : update (a :: t) k f = (if key a = k then f a else a) :: update t k f := rfl
    rw [hcons, List.map_cons, List.map_cons, List.sum_cons, List.sum_cons]
    rw [get, List.find?_cons] at hr
    by_cases ha : key a = k
    · have hra : a = r := by simpa [ha] using hr
      rw [if_pos ha, update_of_notMem (ha ▸ hnot), ← hra]
      omega
    · have hrest : get t k = some r := by simpa [get, ha] using hr
      rw [if_neg ha, ih hnd hrest]
      omega

lemma get_append (t u : List ρ) (k : κ) : get (t ++ u) k = (get t k).or (get u k) :=
  List.find?_append

lemma get_append_of_mem {t u : List ρ} {k : κ} (hk : k ∈ t.map key) :
    get (t ++ u) k = get t k := by
  obtain ⟨r, hr⟩ := Option.isSome_iff_exists.mp (get_isSome_iff.mpr hk)
  rw [get_append, hr, Option.some_or]

/-- `t[k] = r`: a row takes the place of the one with its key, or comes last. -/
def put (t : List ρ) (r : ρ) : List ρ :=
  if (get t (key r)).isSome then update t (key r) fun _ => r else t ++ [r]

lemma get_put {t : List ρ} {r : ρ} {k : κ} :
    get (put t r) k = if k = key r then some r else get t k := by
  unfold put
  cases hget : get t (key r) with
  | some r' => rw [Option.isSome_some, if_pos rfl, get_update_const rfl, hget, Option.map_some]
  | none =>
    rw [Option.isSome_none, if_neg Bool.false_ne_true, get_append]
    by_cases hk : k = key r
    · rw [if_pos hk, hk, hget, Option.none_or]
      simp [get]
    · rw [if_neg hk]
      have hnone : get [r] k = none := by simp [get, Ne.symm hk]
      rw [hnone, Option.or_none]

lemma mem_put {t : List ρ} {r r' : ρ} (h : r' ∈ put t r) : r' = r ∨ r' ∈ t := by
  unfold put at h
  split at h
  · obtain ⟨_, -, -, rfl⟩ | ⟨hold, -⟩ := mem_update.mp h
    · exact .inl rfl
    · exact .inr hold
  · rcases List.mem_append.mp h with hold | hnew
    · exact .inr hold
    · exact .inl (List.mem_singleton.mp hnew)

lemma nodup_put {t : List ρ} {r : ρ} (h : (t.map key).Nodup) : ((put t r).map key).Nodup := by
  unfold put
  split
  · rwa [map_key_update_of_key fun _ _ => rfl]
  · next hnone =>
    have hnew : key r ∉ t.map key := by
      rwa [← get_isSome_iff]
    rw [List.map_append, List.map_singleton]
    exact List.nodup_append.mpr ⟨h, List.nodup_singleton _, fun a ha b hb hab => by
      rw [List.mem_singleton.mp hb] at hab
      exact hnew (hab ▸ ha)⟩

end Keyed

/-! ## Ordered queries -/

section OrderBy

variable {o : Type*} [LinearOrder o]

/-- `SELECT … ORDER BY f ASC`; rows with equal keys stay in insertion order. -/
def orderBy (f : ρ → o) (t : List ρ) : List ρ :=
  t.insertionSort fun a b => f a ≤ f b

@[simp] lemma mem_orderBy {f : ρ → o} {t : List ρ} {r : ρ} : r ∈ orderBy f t ↔ r ∈ t :=
  List.mem_insertionSort _

lemma orderBy_eq_nil {f : ρ → o} {t : List ρ} : orderBy f t = [] ↔ t = [] := by
  rw [← List.length_eq_zero_iff, orderBy, List.length_insertionSort, List.length_eq_zero_iff]

lemma perm_orderBy (f : ρ → o) (t : List ρ) : (orderBy f t).Perm t :=
  List.perm_insertionSort _ t

lemma pairwise_orderBy (f : ρ → o) (t : List ρ) :
    (orderBy f t).Pairwise fun a b => f a ≤ f b := by
  have htotal : Std.Total fun a b : ρ => f a ≤ f b := ⟨fun a b => le_total (f a) (f b)⟩
  have htrans : IsTrans ρ fun a b => f a ≤ f b := ⟨fun _ _ _ => le_trans⟩
  exact List.pairwise_insertionSort _ t

lemma pairwise_lt_orderBy {f : ρ → o} {t : List ρ} (hf : (t.map f).Nodup) :
    (orderBy f t).Pairwise fun a b => f a < f b := by
  have hne : (orderBy f t).Pairwise fun a b => f a ≠ f b :=
    List.pairwise_map.mp (((perm_orderBy f t).map f).nodup_iff.mpr hf)
  exact ((pairwise_orderBy f t).and hne).imp fun h => lt_of_le_of_ne h.1 h.2

lemma eq_of_pairwise_lt {f : ρ → o} {l l' : List ρ} (h : l.Pairwise fun a b => f a < f b)
    (h' : l'.Pairwise fun a b => f a < f b) (hmem : ∀ r, r ∈ l ↔ r ∈ l') : l = l' := by
  have hirrefl : Std.Irrefl fun a b : ρ => f a < f b := ⟨fun a => lt_irrefl (f a)⟩
  have hantisymm : Std.Antisymm fun a b : ρ => f a < f b := ⟨fun _ _ hab hba =>
    absurd hab (lt_asymm hba)⟩
  exact h.eq_of_mem_iff h' hmem

lemma mem_dropWhile_not {f : ρ → o} {p : ρ → Bool} {l : List ρ}
    (h : l.Pairwise fun a b => f a < f b) {r : ρ} :
    r ∈ (l.dropWhile fun a => !p a) ↔ r ∈ l ∧ ∃ s ∈ l, p s = true ∧ f s ≤ f r := by
  induction l with
  | nil => simp
  | cons a l ih =>
    obtain ⟨hlt, hl⟩ := List.pairwise_cons.mp h
    by_cases hp : p a = true
    · have hall : (a :: l).dropWhile (fun a => !p a) = a :: l := by simp [hp]
      rw [hall]
      refine ⟨fun hr => ⟨hr, a, List.mem_cons_self, hp, ?_⟩, And.left⟩
      rcases List.mem_cons.mp hr with rfl | hr
      · exact le_rfl
      · exact (hlt r hr).le
    · have hrest : (a :: l).dropWhile (fun a => !p a) = l.dropWhile fun a => !p a := by simp [hp]
      rw [hrest, ih hl]
      constructor
      · rintro ⟨hr, s, hs, hps, hle⟩
        exact ⟨List.mem_cons_of_mem a hr, s, List.mem_cons_of_mem a hs, hps, hle⟩
      · rintro ⟨hr, s, hs, hps, hle⟩
        have hs' : s ∈ l := (List.mem_cons.mp hs).resolve_left fun heq => hp (heq ▸ hps)
        refine ⟨(List.mem_cons.mp hr).resolve_left ?_, s, hs', hps, hle⟩
        rintro rfl
        exact absurd (hlt s hs') (not_lt_of_ge hle)

end OrderBy

end Table
