import Mathlib.Data.List.DropRight
import Mathlib.Data.List.MinMax
import Mathlib.Data.List.Perm.Subperm

/-!
# Walking a list backwards in pages

A client reads a list from its end: the first page is the last `n` rows, and the next one the last
`n` of the rows that come before the oldest row it has seen, *before* in the order of a key.  The
list itself need not be in that order.  The walk returns every row once exactly when each cut
between two pages is clean, that is when every row ahead of the cut has a smaller key than every
row behind it.
-/

namespace Paging

variable {ρ κ o : Type*} [LinearOrder o]

/-- Fetch pages, each from the cursor of the one before, until one comes back empty; the rows seen,
older pages first.  `none` when a fetch fails or `fuel` fetches do not do. -/
def walk (fetch : Option κ → Option (List ρ)) (next : List ρ → Option κ) :
    ℕ → Option κ → Option (List ρ)
  | 0, _ => none
  | fuel + 1, cursor =>
    (fetch cursor).bind fun page =>
      match next page with
      | none => some []
      | some older => (walk fetch next fuel (some older)).map fun rows => rows ++ page

/-- The rows ahead of a row, as the key has it. -/
def before (key : ρ → o) (rows : List ρ) (r : ρ) : List ρ :=
  rows.filter fun r' => key r' < key r

/-- `fetch` is the backwards paging of the rows in pages of `n`, with cursors of rows. -/
structure Pages (key : ρ → o) (rows : List ρ) (n : ℕ) (cursor : ρ → κ)
    (fetch : Option κ → Option (List ρ)) : Prop where
  first : fetch none = some (rows.rtake n)
  before : ∀ r ∈ rows, fetch (some (cursor r)) = some ((before key rows r).rtake n)

/-- The cursor of the row of a page with the smallest key. -/
def oldest (key : ρ → o) (cursor : ρ → κ) (page : List ρ) : Option κ :=
  (page.argmin key).map cursor

/-- Where a page begins, everything ahead of it has a smaller key than everything from it on. -/
def CleanCuts (key : ρ → o) (n : ℕ) (rows : List ρ) : Prop :=
  ∀ k, ∀ a ∈ rows.rdrop (k * n), ∀ b ∈ rows.rtake (k * n), key a < key b

variable {key : ρ → o} {rows : List ρ} {n : ℕ} {cursor : ρ → κ}
  {fetch : Option κ → Option (List ρ)}

/-! ## Cutting a list from its end -/

lemma rdrop_append_rtake (l : List ρ) (n : ℕ) : l.rdrop n ++ l.rtake n = l :=
  List.take_append_drop _ _

lemma rdrop_rdrop (l : List ρ) (m n : ℕ) : (l.rdrop n).rdrop m = l.rdrop (m + n) := by
  simp only [List.rdrop, List.length_take, List.take_take]
  congr 1
  omega

lemma rtake_add (l : List ρ) (m n : ℕ) : l.rtake (m + n) = (l.rdrop n).rtake m ++ l.rtake n := by
  have hcut := rdrop_append_rtake (l.rdrop n) m
  rw [rdrop_rdrop] at hcut
  refine (List.append_right_inj (l.rdrop (m + n))).mp ?_
  rw [rdrop_append_rtake, ← List.append_assoc, hcut, rdrop_append_rtake]

lemma length_rtake (l : List ρ) (n : ℕ) : (l.rtake n).length = min n l.length := by
  rw [List.rtake, List.length_drop]
  omega

lemma notMem_rtake_of_mem_rdrop {l : List ρ} (h : l.Nodup) {n : ℕ} {a : ρ}
    (ha : a ∈ l.rdrop n) : a ∉ l.rtake n := by
  rw [← rdrop_append_rtake l n] at h
  exact fun hb => (List.nodup_append.mp h).2.2 a ha a hb rfl

lemma rtake_append_of_le (a b : List ρ) {n : ℕ} (h : b.length ≤ n) :
    (a ++ b).rtake n = a.rtake (n - b.length) ++ b := by
  have hall : a.length + b.length - n - a.length = 0 := by omega
  have hcut : a.length + b.length - n = a.length - (n - b.length) := by omega
  rw [List.rtake, List.rtake, List.length_append, List.drop_append, hall, List.drop_zero, hcut]

lemma rtake_append_of_length_le (a b : List ρ) {n : ℕ} (h : n ≤ b.length) :
    (a ++ b).rtake n = b.rtake n := by
  have hall : a.length + b.length - n = a.length + (b.length - n) := by omega
  rw [List.rtake, List.rtake, List.length_append, hall, List.drop_length_add_append]

lemma rtake_eq_nil (hn : 0 < n) {l : List ρ} : l.rtake n = [] ↔ l = [] := by
  rw [List.rtake, List.drop_eq_nil_iff]
  constructor
  · intro h
    refine List.length_eq_zero_iff.mp ?_
    omega
  · rintro rfl
    exact Nat.zero_le _

lemma cleanCuts_iff (l : List ρ) (n : ℕ) :
    CleanCuts key n l ↔ (∀ a ∈ l.rdrop n, ∀ b ∈ l.rtake n, key a < key b) ∧
      CleanCuts key n (l.rdrop n) := by
  constructor
  · intro h
    refine ⟨by simpa using h 1, fun k a ha b hb => ?_⟩
    rw [rdrop_rdrop, ← Nat.succ_mul] at ha
    refine h (k + 1) a ha b ?_
    rw [Nat.succ_mul, rtake_add]
    exact List.mem_append_left _ hb
  · rintro ⟨hlast, hrest⟩ k a ha b hb
    cases k with
    | zero => simp at hb
    | succ k =>
      rw [Nat.succ_mul, rtake_add] at hb
      rw [Nat.succ_mul, ← rdrop_rdrop] at ha
      rcases List.mem_append.mp hb with hb | hb
      · exact hrest k a ha b hb
      · exact hlast a (List.mem_of_mem_take ha) b hb

lemma cleanCuts_one_iff {l : List ρ} :
    CleanCuts key 1 l ↔ l.Pairwise fun a b => key a < key b := by
  induction l using List.reverseRecOn with
  | nil => simp [CleanCuts]
  | append_singleton l r ih =>
    rw [cleanCuts_iff, List.pairwise_append]
    have hdrop : (l ++ [r]).rdrop 1 = l := by simp
    have htake : (l ++ [r]).rtake 1 = [r] := by simp
    rw [hdrop, htake, ih]
    simp [and_comm]

lemma cleanCuts_of_pairwise {l : List ρ} (h : l.Pairwise fun a b => key a < key b) (n : ℕ) :
    CleanCuts key n l := by
  intro k a ha b hb
  have hcut := rdrop_append_rtake l (k * n)
  rw [← hcut, List.pairwise_append] at h
  exact h.2.2 a ha b hb

/-! ## The walk -/

/-- A fetch at this cursor sees these rows. -/
def Sees (key : ρ → o) (rows : List ρ) (cursor : ρ → κ) (pos : Option κ) (seen : List ρ) : Prop :=
  (pos = none ∧ seen = rows) ∨ ∃ r ∈ rows, pos = some (cursor r) ∧ seen = before key rows r

lemma Sees.fetch_eq (hfetch : Pages key rows n cursor fetch) {pos : Option κ} {seen : List ρ}
    (h : Sees key rows cursor pos seen) : fetch pos = some (seen.rtake n) := by
  rcases h with ⟨rfl, rfl⟩ | ⟨r, hr, rfl, rfl⟩
  · exact hfetch.first
  · exact hfetch.before r hr

lemma Sees.subset {pos : Option κ} {seen : List ρ} (h : Sees key rows cursor pos seen) :
    seen ⊆ rows := by
  rcases h with ⟨-, rfl⟩ | ⟨r, -, -, rfl⟩
  · exact List.Subset.refl _
  · exact List.filter_subset_self _

lemma Sees.before_eq {pos : Option κ} {seen : List ρ} (h : Sees key rows cursor pos seen) {r : ρ}
    (hr : r ∈ seen) : before key rows r = before key seen r := by
  rcases h with ⟨-, rfl⟩ | ⟨r', -, -, rfl⟩
  · rfl
  · have hlt : key r < key r' := by simpa using (List.mem_filter.mp hr).2
    rw [before, before, before, List.filter_filter]
    refine List.filter_congr fun x _ => ?_
    by_cases hx : key x < key r
    · simp [hx, hx.trans hlt]
    · simp [hx]

lemma before_oldest {seen : List ρ} {r : ρ} (hr : r ∈ (seen.rtake n).argmin key) :
    before key seen r = before key (seen.rdrop n) r := by
  have hpage : before key (seen.rtake n) r = [] := by
    refine List.filter_eq_nil_iff.mpr fun x hx => ?_
    simpa using List.le_of_mem_argmin hx hr
  calc before key seen r
      = before key (seen.rdrop n ++ seen.rtake n) r := by rw [rdrop_append_rtake]
    _ = before key (seen.rdrop n) r ++ before key (seen.rtake n) r := List.filter_append ..
    _ = before key (seen.rdrop n) r := by rw [hpage, List.append_nil]

lemma walk_from (hn : 0 < n) (hfetch : Pages key rows n cursor fetch) {fuel : ℕ}
    {pos : Option κ} {seen : List ρ} (h : Sees key rows cursor pos seen)
    (hfuel : seen.length < fuel) :
    ∃ ms, walk fetch (oldest key cursor) fuel pos = some ms ∧ ms.Subperm seen ∧
      (ms.Perm seen ↔ CleanCuts key n seen) := by
  induction fuel generalizing pos seen with
  | zero => omega
  | succ fuel ih =>
    have hpage := h.fetch_eq hfetch
    cases hold : (seen.rtake n).argmin key with
    | none =>
      -- nothing is left
      have hnil : seen = [] := (rtake_eq_nil hn).mp (List.argmin_eq_none.mp hold)
      subst hnil
      refine ⟨[], ?_, List.Subperm.refl _, iff_of_true (List.Perm.refl _) ?_⟩
      · simp [walk, hpage, oldest]
      · exact fun k a ha => by simp at ha
    | some r =>
      have hmem : r ∈ seen.rtake n := List.argmin_mem hold
      have hseen : r ∈ seen := List.mem_of_mem_drop hmem
      have hnext : Sees key rows cursor (some (cursor r)) (before key (seen.rdrop n) r) := by
        refine .inr ⟨r, h.subset hseen, rfl, ?_⟩
        rw [h.before_eq hseen, before_oldest hold]
      have hle : (before key (seen.rdrop n) r).length ≤ (seen.rdrop n).length :=
        List.length_filter_le ..
      have hcut : (seen.rdrop n).length + (seen.rtake n).length = seen.length := by
        rw [← List.length_append, rdrop_append_rtake]
      have hpos : 0 < (seen.rtake n).length := List.length_pos_of_mem hmem
      obtain ⟨ms, hms, hsub, hperm⟩ := ih hnext (by omega)
      have hrest : ms.Subperm (seen.rdrop n) := hsub.trans List.filter_sublist.subperm
      refine ⟨ms ++ seen.rtake n, ?_, ?_, ?_⟩
      · simp [walk, hpage, oldest, hold, hms]
      · have happend := (List.subperm_append_right (seen.rtake n)).mpr hrest
        rwa [rdrop_append_rtake] at happend
      · have hall : (ms ++ seen.rtake n).Perm seen ↔ ms.Perm (seen.rdrop n) := by
          have happend : (ms ++ seen.rtake n).Perm (seen.rdrop n ++ seen.rtake n) ↔ _ :=
            List.perm_append_right_iff _
          rwa [rdrop_append_rtake] at happend
        rw [hall, cleanCuts_iff seen n]
        constructor
        · intro hp
          -- nothing ahead of the page was out of sight
          have hself : before key (seen.rdrop n) r = seen.rdrop n := by
            refine List.filter_sublist.eq_of_length_le ?_
            rw [← hp.length_eq]
            exact hsub.length_le
          rw [hself] at hperm
          refine ⟨fun a ha b hb => ?_, hperm.mp hp⟩
          have hlt : key a < key r := by simpa using List.filter_eq_self.mp hself a ha
          exact hlt.trans_le (List.le_of_mem_argmin hb hold)
        · rintro ⟨hclean, hcuts⟩
          have hself : before key (seen.rdrop n) r = seen.rdrop n :=
            List.filter_eq_self.mpr fun a ha => by simpa using hclean a ha r hmem
          rw [hself] at hperm
          exact hperm.mpr hcuts

/-- Walking returns every row exactly once, and then stops, if and only if the cuts are clean. -/
theorem walk_perm_iff (hn : 0 < n) (hfetch : Pages key rows n cursor fetch) :
    (∃ fuel ms, walk fetch (oldest key cursor) fuel none = some ms ∧ ms.Perm rows) ↔
      CleanCuts key n rows := by
  have hmono : ∀ {fuel pos ms}, walk fetch (oldest key cursor) fuel pos = some ms →
      walk fetch (oldest key cursor) (fuel + 1) pos = some ms := by
    intro fuel
    induction fuel with
    | zero => intro pos ms h; cases h
    | succ fuel ih =>
      intro pos ms h
      obtain ⟨page, hpage, hrest⟩ := Option.bind_eq_some_iff.mp h
      rw [walk, hpage, Option.bind_some]
      cases hold : oldest key cursor page with
      | none => simpa [hold] using hrest
      | some older =>
        obtain ⟨rest, hw, rfl⟩ : ∃ rest, walk fetch (oldest key cursor) fuel (some older) =
            some rest ∧ rest ++ page = ms := by simpa [hold] using hrest
        simp [ih hw]
  have hle : ∀ {fuel fuel'}, fuel ≤ fuel' → ∀ {ms},
      walk fetch (oldest key cursor) fuel none = some ms →
      walk fetch (oldest key cursor) fuel' none = some ms := by
    intro fuel fuel' h
    induction h with
    | refl => exact fun h => h
    | step _ ih => exact fun h => hmono (ih h)
  have hstart : Sees key rows cursor none rows := .inl ⟨rfl, rfl⟩
  obtain ⟨ms, hms, -, hperm⟩ := walk_from hn hfetch hstart (Nat.lt_succ_self rows.length)
  constructor
  · rintro ⟨fuel, ms', hms', hp⟩
    have h₁ := hle (Nat.le_max_left fuel (rows.length + 1)) hms'
    have h₂ := hle (Nat.le_max_right fuel (rows.length + 1)) hms
    rw [h₁] at h₂
    cases h₂
    exact hperm.mp hp
  · exact fun h => ⟨_, ms, hms, hperm.mpr h⟩

end Paging
