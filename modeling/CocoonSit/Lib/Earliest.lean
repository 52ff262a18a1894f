import CocoonSit.Lib.Table

/-!
# A cached minimum of a table

Beside a table a program may keep the key of a row that is least, by some measure, among the rows
of interest, so as not to query for it.  `NamesLeast` says that the cached key is right; the lemmas
say when it is right after a query and when it stays right although the table has changed.
-/

namespace Table

variable {ρ κ o o' : Type*} [Keyed ρ κ]

/-- `c` is the key of a row that is least by `f` among the rows with `p`; or none when there are
no such rows. -/
def NamesLeast [LE o] (t : List ρ) (p : ρ → Prop) (f : ρ → o) : Option κ → Prop
  | none => ∀ r ∈ t, ¬ p r
  | some k => ∃ r ∈ t, key r = k ∧ p r ∧ ∀ r' ∈ t, p r' → f r ≤ f r'

instance [DecidableEq κ] [LE o] [DecidableLE o] (t : List ρ) (p : ρ → Prop) [DecidablePred p]
    (f : ρ → o) :
    ∀ c : Option κ, Decidable (NamesLeast t p f c)
  | none => inferInstanceAs (Decidable (∀ r ∈ t, ¬ p r))
  | some k => inferInstanceAs
      (Decidable (∃ r ∈ t, key r = k ∧ p r ∧ ∀ r' ∈ t, p r' → f r ≤ f r'))

lemma le_of_head?_orderBy [LinearOrder o] {f : ρ → o} {t : List ρ} {r r' : ρ}
    (h : (orderBy f t).head? = some r) (hr' : r' ∈ t) : f r ≤ f r' := by
  obtain ⟨rest, hrest⟩ : ∃ rest, orderBy f t = r :: rest := by
    cases hlist : orderBy f t with
    | nil => rw [hlist] at h; cases h
    | cons a rest =>
      rw [hlist] at h
      cases h
      exact ⟨rest, rfl⟩
  have hsorted : (orderBy f t).Pairwise fun a b => f a ≤ f b := List.pairwise_insertionSort _ _
  have hmem : r' ∈ orderBy f t := mem_orderBy.mpr hr'
  rw [hrest] at hsorted hmem
  rcases List.mem_cons.mp hmem with rfl | hmem
  · exact le_rfl
  · exact (List.pairwise_cons.mp hsorted).1 r' hmem

lemma head?_orderBy_cons [LinearOrder o] (f : ρ → o) (a : ρ) (t : List ρ) :
    (orderBy f (a :: t)).head? =
      some ((orderBy f t).head?.elim a fun b => if f a ≤ f b then a else b) := by
  unfold orderBy
  rw [List.insertionSort_cons]
  cases List.insertionSort (fun a b => f a ≤ f b) t with
  | nil => rfl
  | cons b rest =>
    rw [List.orderedInsert]
    split
    · next hle => simp [hle]
    · next hle => simp [hle]

lemma lt_of_head?_orderBy_append [LinearOrder o] {f : ρ → o} {before after : List ρ} {r : ρ}
    (hr : r ∉ before) (h : (orderBy f (before ++ r :: after)).head? = some r) :
    ∀ r' ∈ before, f r < f r' := by
  induction before with
  | nil => exact fun r' hr' => absurd hr' List.not_mem_nil
  | cons a before ih =>
    obtain ⟨hne, hr⟩ := not_or.mp (fun hor => hr (List.mem_cons.mpr hor))
    rw [List.cons_append, head?_orderBy_cons] at h
    cases hhead : (orderBy f (before ++ r :: after)).head? with
    | none =>
      rw [List.head?_eq_none_iff, orderBy_eq_nil] at hhead
      exact absurd hhead (by simp)
    | some b =>
      rw [hhead, Option.elim_some] at h
      by_cases hle : f a ≤ f b
      · rw [if_pos hle] at h
        exact absurd (Option.some.inj h).symm hne
      · rw [if_neg hle] at h
        obtain rfl := Option.some.inj h
        exact List.forall_mem_cons.mpr ⟨lt_of_not_ge hle, ih hr hhead⟩

lemma namesLeast_query [LinearOrder o] [LE o'] {f : ρ → o} {g : ρ → o'}
    (hg : ∀ a b, f a ≤ f b → g a ≤ g b) (t : List ρ) (p : ρ → Prop) [DecidablePred p] :
    NamesLeast t p g ((orderBy f (t.filter p)).head?.map key) := by
  cases hhead : (orderBy f (t.filter p)).head? with
  | none =>
    have hnil := orderBy_eq_nil.mp (List.head?_eq_none_iff.mp hhead)
    intro r hr hp
    have hmem : r ∈ t.filter p := List.mem_filter.mpr ⟨hr, by simpa using hp⟩
    rw [hnil] at hmem
    cases hmem
  | some r =>
    have hmem := List.mem_filter.mp (mem_orderBy.mp (List.mem_of_mem_head? hhead))
    refine ⟨r, hmem.1, rfl, by simpa using hmem.2, fun r' hr' hp => hg r r' ?_⟩
    exact le_of_head?_orderBy hhead (List.mem_filter.mpr ⟨hr', by simpa using hp⟩)

lemma namesLeast_congr [LE o] {t t' : List ρ} {p : ρ → Prop} [DecidablePred p] {f : ρ → o}
    (h : t'.filter p = t.filter p) (c : Option κ) : NamesLeast t' p f c ↔ NamesLeast t p f c := by
  have hmem : ∀ r, (r ∈ t' ∧ p r) ↔ (r ∈ t ∧ p r) := by
    intro r
    have hfilter : r ∈ t'.filter p ↔ r ∈ t.filter p := by rw [h]
    simpa using hfilter
  cases c with
  | none =>
    exact ⟨fun hn r hr hp => hn r ((hmem r).mpr ⟨hr, hp⟩).1 hp,
      fun hn r hr hp => hn r ((hmem r).mp ⟨hr, hp⟩).1 hp⟩
  | some k =>
    constructor
    · rintro ⟨r, hr, hk, hp, hle⟩
      exact ⟨r, ((hmem r).mp ⟨hr, hp⟩).1, hk, hp,
        fun r' hr' hp' => hle r' ((hmem r').mpr ⟨hr', hp'⟩).1 hp'⟩
    · rintro ⟨r, hr, hk, hp, hle⟩
      exact ⟨r, ((hmem r).mpr ⟨hr, hp⟩).1, hk, hp,
        fun r' hr' hp' => hle r' ((hmem r').mp ⟨hr', hp'⟩).1 hp'⟩

end Table
