import CocoonSit.Lib.Collect

/-!
# Values stored twice

A table of items lists the values of each item, and a table of rows pairs keys of items with values.
The two agree on an item if its rows have its values, each once.

The rules say what keeps them in agreement: items that come with their rows, items that are given
values and rows anew, items that go, and a value that goes everywhere.  Another rule is for values
that are replaced by what they resolve to: the list of an item leaves out what does not resolve,
while its rows keep it.  As long as the tables agree, a search finds the same items in either.
-/

namespace Mirror

/-- Where the two tables have keys and values. -/
structure Layout (ι ρ κ α : Type*) where
  key : ι → κ
  values : ι → List α
  rowKey : ρ → κ
  rowValue : ρ → α

/-- The rows have the values, each once. -/
def Agree {α : Type*} (rows values : List α) : Prop := rows.Nodup ∧ ∀ x, x ∈ rows ↔ x ∈ values

variable {ι ρ κ α : Type*} [DecidableEq κ] (L : Layout ι ρ κ α)

/-- The values in the rows of a key. -/
def rowsOf (rows : List ρ) (k : κ) : List α := (rows.filter fun r => L.rowKey r = k).map L.rowValue

def Mirrored (items : List ι) (rows : List ρ) : Prop :=
  ∀ i ∈ items, Agree (rowsOf L rows (L.key i)) (L.values i)

/-- Every row is an item's. -/
def Attached (items : List ι) (rows : List ρ) : Prop := ∀ r ∈ rows, L.rowKey r ∈ items.map L.key

/-- The rows of one item with these values. -/
def RowsFor (k : κ) (values : List α) (rows : List ρ) : Prop :=
  (∀ r ∈ rows, L.rowKey r = k) ∧ rows.map L.rowValue = values

variable {L} {items items' : List ι} {rows rows' new : List ρ} {i : ι} {k : κ} {values : List α}

lemma rowsOf_append (k : κ) : rowsOf L (rows ++ rows') k = rowsOf L rows k ++ rowsOf L rows' k := by
  rw [rowsOf, List.filter_append, List.map_append]
  rfl

lemma RowsFor.rowsOf (h : RowsFor L k values rows) : rowsOf L rows k = values := by
  have hall : rows.filter (fun r => decide (L.rowKey r = k)) = rows :=
    List.filter_eq_self.mpr fun r hr => decide_eq_true (h.1 r hr)
  rw [Mirror.rowsOf, hall, h.2]

lemma rowsOf_eq_nil (h : ∀ r ∈ rows, L.rowKey r ≠ k) : rowsOf L rows k = [] := by
  have hnone : rows.filter (fun r => decide (L.rowKey r = k)) = [] :=
    List.filter_eq_nil_iff.mpr fun r hr => by simpa using h r hr
  rw [rowsOf, hnone, List.map_nil]

lemma Attached.rowsOf_eq_nil (h : Attached L items rows) (hk : k ∉ items.map L.key) :
    rowsOf L rows k = [] :=
  Mirror.rowsOf_eq_nil fun r hr heq => hk (heq ▸ h r hr)

lemma RowsFor.rowsOf_of_ne (h : RowsFor L k values rows) {k' : κ} (hne : k' ≠ k) :
    Mirror.rowsOf L rows k' = [] :=
  rowsOf_eq_nil fun r hr heq => hne (heq.symm.trans (h.1 r hr))

/-! ## What keeps the tables in agreement -/

/-- Items whose rows and values are those of old ones: changed in other columns, or fewer. -/
theorem Mirrored.of_same (h : Mirrored L items rows)
    (hsame : ∀ j ∈ items', ∃ i ∈ items, L.key i = L.key j ∧ L.values i = L.values j)
    (hrows : ∀ j ∈ items', rowsOf L rows' (L.key j) = rowsOf L rows (L.key j)) :
    Mirrored L items' rows' := by
  intro j hj
  obtain ⟨i, hi, hkey, hvalues⟩ := hsame j hj
  rw [hrows j hj, ← hkey, ← hvalues]
  exact h i hi

/-- A new item comes with its rows. -/
theorem Mirrored.insert (h : Mirrored L items rows) (hattached : Attached L items rows)
    (hnew : L.key i ∉ items.map L.key) (hnodup : (L.values i).Nodup)
    (hrows : RowsFor L (L.key i) (L.values i) new) :
    Mirrored L (items ++ [i]) (rows ++ new) := by
  intro j hj
  rw [rowsOf_append]
  rcases List.mem_append.mp hj with hj | hj
  · have hne : L.key j ≠ L.key i := fun heq => hnew (heq ▸ List.mem_map_of_mem hj)
    rw [hrows.rowsOf_of_ne hne, List.append_nil]
    exact h j hj
  · rw [List.mem_singleton.mp hj, hattached.rowsOf_eq_nil hnew, List.nil_append, hrows.rowsOf]
    exact ⟨hnodup, fun _ => Iff.rfl⟩

omit [DecidableEq κ] in
lemma Attached.insert (h : Attached L items rows) (hrows : RowsFor L (L.key i) values new) :
    Attached L (items ++ [i]) (rows ++ new) := by
  intro r hr
  rw [List.map_append, List.mem_append]
  rcases List.mem_append.mp hr with hr | hr
  · exact .inl (h r hr)
  · exact .inr (by simpa using hrows.1 r hr)

/-- Items go together with their rows; `keep` tells from the key which stay. -/
theorem Mirrored.keep (h : Mirrored L items rows) {p : ι → Bool} {keep : κ → Bool}
    (hp : ∀ i ∈ items, p i = keep (L.key i)) :
    Mirrored L (items.filter p) (rows.filter fun r => keep (L.rowKey r)) := by
  refine h.of_same (fun j hj => ⟨j, (List.mem_filter.mp hj).1, rfl, rfl⟩) fun j hj => ?_
  obtain ⟨hj, hpj⟩ := List.mem_filter.mp hj
  have hkeep : keep (L.key j) = true := (hp j hj).symm.trans hpj
  rw [rowsOf, List.filter_filter, rowsOf]
  refine congrArg _ (List.filter_congr fun r _ => ?_)
  by_cases hr : L.rowKey r = L.key j
  · simp [hr, hkeep]
  · simp [hr]

omit [DecidableEq κ] in
lemma Attached.keep (h : Attached L items rows) {p : ι → Bool} {keep : κ → Bool}
    (hp : ∀ i ∈ items, p i = keep (L.key i)) :
    Attached L (items.filter p) (rows.filter fun r => keep (L.rowKey r)) := by
  intro r hr
  obtain ⟨hr, hkeep⟩ := List.mem_filter.mp hr
  obtain ⟨i, hi, hkey⟩ := List.mem_map.mp (h r hr)
  refine List.mem_map.mpr ⟨i, List.mem_filter.mpr ⟨hi, ?_⟩, hkey⟩
  rw [hp i hi, hkey]
  exact hkeep

/-- An item is given values and rows anew. -/
theorem Mirrored.replace (h : Mirrored L items rows) (hnodup : values.Nodup)
    (hitems : ∀ j ∈ items', L.key j = k ∧ L.values j = values ∨ j ∈ items ∧ L.key j ≠ k)
    (hrows : RowsFor L k values new) :
    Mirrored L items' (rows.filter (fun r => L.rowKey r ≠ k) ++ new) := by
  have hkept : ∀ k', k' ≠ k →
      rowsOf L (rows.filter fun r => L.rowKey r ≠ k) k' = rowsOf L rows k' := by
    intro k' hne
    rw [rowsOf, List.filter_filter, rowsOf]
    refine congrArg _ (List.filter_congr fun r _ => ?_)
    by_cases hr : L.rowKey r = k'
    · simp [hr, hne]
    · simp [hr]
  intro j hj
  rw [rowsOf_append]
  rcases hitems j hj with ⟨rfl, hvalues⟩ | ⟨hold, hne⟩
  · rw [rowsOf_eq_nil fun r hr => by simpa using (List.mem_filter.mp hr).2, List.nil_append,
      hrows.rowsOf, hvalues]
    exact ⟨hnodup, fun _ => Iff.rfl⟩
  · rw [hkept _ hne, hrows.rowsOf_of_ne hne, List.append_nil]
    exact h j hold

lemma Attached.replace (h : Attached L items rows) (hk : k ∈ items.map L.key)
    (hkeys : items'.map L.key = items.map L.key) (hrows : RowsFor L k values new) :
    Attached L items' (rows.filter (fun r => L.rowKey r ≠ k) ++ new) := by
  intro r hr
  rw [hkeys]
  rcases List.mem_append.mp hr with hr | hr
  · exact h r (List.mem_filter.mp hr).1
  · rw [hrows.1 r hr]
    exact hk

omit [DecidableEq κ] in
lemma Attached.sublist (h : Attached L items rows) (hkeys : items'.map L.key = items.map L.key)
    (hrows : rows'.Sublist rows) : Attached L items' rows' :=
  fun r hr => hkeys ▸ h r (hrows.mem hr)

/-- A value goes everywhere. -/
theorem Mirrored.drop [DecidableEq α] (h : Mirrored L items rows) {x : α}
    (hitems : ∀ j ∈ items', ∃ i ∈ items, L.key i = L.key j ∧
      L.values j = (L.values i).filter fun y => y ≠ x) :
    Mirrored L items' (rows.filter fun r => L.rowValue r ≠ x) := by
  have hdrop : ∀ k, rowsOf L (rows.filter fun r => L.rowValue r ≠ x) k =
      (rowsOf L rows k).filter fun y => y ≠ x := by
    intro k
    rw [rowsOf, rowsOf, List.filter_map, List.filter_filter, List.filter_filter]
    exact congrArg _ (List.filter_congr fun r _ => Bool.and_comm _ _)
  intro j hj
  obtain ⟨i, hi, hkey, hvalues⟩ := hitems j hj
  obtain ⟨hnodup, hmem⟩ := h i hi
  rw [hdrop, ← hkey, hvalues]
  refine ⟨hnodup.filter _, fun y => ?_⟩
  rw [List.mem_filter, List.mem_filter, hmem]

/-! ## Values that are replaced by what they resolve to -/

/-- All values resolve, and no two to the same. -/
def Resolves (resolve : α → Option α) (values : List α) : Prop :=
  (∀ x ∈ values, (resolve x).isSome) ∧
    ∀ x ∈ values, ∀ y ∈ values, resolve x = resolve y → x = y

/-- Rows keep what does not resolve, lists leave it out. -/
theorem agree_resolved_iff [DecidableEq α] {resolve : α → Option α} {rowValues resolved : List α}
    (h : Agree rowValues values) (hmem : ∀ y, y ∈ resolved ↔ ∃ x ∈ values, resolve x = some y) :
    Agree (rowValues.map fun x => (resolve x).getD x) resolved ↔ Resolves resolve values := by
  constructor
  · rintro ⟨hnodup, hsame⟩
    have hinj : ∀ x ∈ values, ∀ y ∈ values, (resolve x).getD x = (resolve y).getD y → x = y :=
      fun x hx y hy heq => List.inj_on_of_nodup_map hnodup ((h.2 x).mpr hx) ((h.2 y).mpr hy) heq
    have hsome : ∀ x ∈ values, (resolve x).isSome := by
      intro x hx
      by_contra hnone
      have hnone := Option.not_isSome_iff_eq_none.mp hnone
      -- the row of `x` is left as it is, so `x` is what another value resolves to
      have hrow : x ∈ rowValues.map fun x => (resolve x).getD x :=
        List.mem_map.mpr ⟨x, (h.2 x).mpr hx, by rw [hnone, Option.getD_none]⟩
      obtain ⟨y, hy, hres⟩ := (hmem x).mp ((hsame x).mp hrow)
      have hxy : x = y := hinj x hx y hy (by rw [hnone, hres, Option.getD_none, Option.getD_some])
      rw [← hxy, hnone] at hres
      cases hres
    refine ⟨hsome, fun x hx y hy heq => hinj x hx y hy ?_⟩
    obtain ⟨z, hz⟩ := Option.isSome_iff_exists.mp (hsome x hx)
    rw [← heq, hz, Option.getD_some, Option.getD_some]
  · rintro ⟨hsome, hinj⟩
    have hget : ∀ x ∈ values, ∀ y, (resolve x).getD x = y ↔ resolve x = some y := by
      intro x hx y
      obtain ⟨z, hz⟩ := Option.isSome_iff_exists.mp (hsome x hx)
      rw [hz, Option.getD_some, Option.some.injEq]
    refine ⟨h.1.map_on fun x hx y hy heq => ?_, fun y => ?_⟩
    · have hx := (h.2 x).mp hx
      have hy := (h.2 y).mp hy
      refine hinj x hx y hy ?_
      rw [(hget x hx _).mp rfl, heq, ← (hget y hy _).mp rfl]
    · rw [List.mem_map, hmem]
      constructor
      · rintro ⟨x, hx, hxy⟩
        exact ⟨x, (h.2 x).mp hx, (hget x ((h.2 x).mp hx) y).mp hxy⟩
      · rintro ⟨x, hx, hres⟩
        exact ⟨x, (h.2 x).mpr hx, (hget x hx y).mpr hres⟩

/-- Whether two tables agree after items and rows have been resolved, each in its own way. -/
theorem mirrored_resolved_iff [DecidableEq α] (resolve : κ → α → Option α) {f : ι → ι} {g : ρ → ρ}
    (h : Mirrored L items rows) (hkey : ∀ i, L.key (f i) = L.key i)
    (hmem : ∀ i ∈ items, ∀ y, y ∈ L.values (f i) ↔ ∃ x ∈ L.values i, resolve (L.key i) x = some y)
    (hrowKey : ∀ r, L.rowKey (g r) = L.rowKey r)
    (hrowValue : ∀ r,
      L.rowValue (g r) = (resolve (L.rowKey r) (L.rowValue r)).getD (L.rowValue r)) :
    Mirrored L (items.map f) (rows.map g) ↔
      ∀ i ∈ items, Resolves (resolve (L.key i)) (L.values i) := by
  have hrows : ∀ k, rowsOf L (rows.map g) k =
      (rowsOf L rows k).map fun x => (resolve k x).getD x := by
    intro k
    rw [rowsOf, List.filter_map, List.map_map, rowsOf, List.map_map]
    have hfilter : rows.filter ((fun r => decide (L.rowKey r = k)) ∘ g) =
        rows.filter fun r => decide (L.rowKey r = k) :=
      List.filter_congr fun r _ => by simp only [Function.comp_apply, hrowKey]
    rw [hfilter]
    refine List.map_congr_left fun r hr => ?_
    have hr : L.rowKey r = k := by simpa using (List.mem_filter.mp hr).2
    rw [Function.comp_apply, Function.comp_apply, hrowValue, hr]
  have hone : ∀ i ∈ items, Agree (rowsOf L (rows.map g) (L.key (f i))) (L.values (f i)) ↔
      Resolves (resolve (L.key i)) (L.values i) := by
    intro i hi
    rw [hkey, hrows]
    exact agree_resolved_iff (h i hi) (hmem i hi)
  unfold Mirrored
  rw [List.forall_mem_map]
  exact forall₂_congr hone

/-! ## Searching -/

/-- Items with one of these values are found by either table. -/
theorem Mirrored.filter_eq [DecidableEq α] (h : Mirrored L items rows) (wanted : List α) :
    (items.filter fun i => (rowsOf L rows (L.key i)).any fun x => x ∈ wanted) =
      items.filter fun i => (L.values i).any fun x => x ∈ wanted := by
  refine List.filter_congr fun i hi => ?_
  rw [Bool.eq_iff_iff, List.any_eq_true, List.any_eq_true]
  exact exists_congr fun x => and_congr_left fun _ => (h i hi).2 x

end Mirror
