import Mathlib.Data.List.Sort

/-!
# Rows that refer to each other

A relational database as one list of rows.  A row has a table, a key, and columns that may hold the
key of a row of another table; a schema says which columns a table has, which table a column refers
to, and whether the database enforces it as a foreign key.  What else a row holds is a parameter.

The statements are deletions.  A sequence of deletions keeps every foreign key after each statement
exactly when each row goes no later than the rows it refers to: the sequence is an order in which
the graph of references can be taken down.
-/

namespace Relational

variable {T C K α : Type*}

/-- Tables `T` and referring columns `C`. -/
structure Schema (T C : Type*) where
  has : T → C → Bool
  target : C → T
  enforced : C → Bool

/-- A row; a column that its table does not have is never looked at. -/
structure Row (T C K α : Type*) where
  table : T
  id : K
  refs : C → Option K
  data : α

variable (schema : Schema T C)

/-- The row `r` holds the key of `r'` in its column `c`. -/
def RefersTo (r : Row T C K α) (c : C) (r' : Row T C K α) : Prop :=
  schema.has r.table c = true ∧ schema.target c = r'.table ∧ r.refs c = some r'.id

/-- Every foreign key holds: what an enforced column refers to is there. -/
def Holds (db : List (Row T C K α)) : Prop :=
  ∀ r ∈ db, ∀ c, schema.enforced c = true → schema.has r.table c = true → ∀ k,
    r.refs c = some k → ∃ r' ∈ db, r'.table = schema.target c ∧ r'.id = k

/-- Tables have primary keys. -/
def UniqueKeys (db : List (Row T C K α)) : Prop :=
  (db.map fun r => (r.table, r.id)).Nodup

/-- What is left after the deletions so far. -/
def afterDeletes (db : List (Row T C K α)) (statements : List (Row T C K α → Bool)) :
    List (Row T C K α) :=
  statements.foldl (fun db statement => db.filter fun r => !statement r) db

/-- Every foreign key holds at the start and after each statement. -/
def HoldsThroughout (db : List (Row T C K α)) (statements : List (Row T C K α → Bool)) : Prop :=
  ∀ n ≤ statements.length, Holds schema (afterDeletes db (statements.take n))

/-- No row left refers to a row that was deleted. -/
def NothingLeft (db : List (Row T C K α)) (statements : List (Row T C K α → Bool)) : Prop :=
  ∀ r ∈ afterDeletes db statements, ∀ r' ∈ db, ∀ c, RefersTo schema r c r' →
    r' ∈ afterDeletes db statements

/-- The number of the statement that deletes the row. -/
def stage (statements : List (Row T C K α → Bool)) (r : Row T C K α) : ℕ :=
  statements.findIdx fun statement => statement r

variable {schema} {db : List (Row T C K α)} {statements : List (Row T C K α → Bool)}
  {r r' : Row T C K α}

lemma UniqueKeys.eq (h : UniqueKeys db) (hr : r ∈ db) (hr' : r' ∈ db) (htable : r.table = r'.table)
    (hid : r.id = r'.id) : r = r' :=
  List.inj_on_of_nodup_map h hr hr' (Prod.ext htable hid)

/-- Keeping some of the rows keeps the foreign keys exactly when it keeps, with each row, those the
row refers to. -/
theorem holds_filter_iff (hdb : Holds schema db) (hkeys : UniqueKeys db) (p : Row T C K α → Bool) :
    Holds schema (db.filter p) ↔ ∀ r ∈ db, ∀ r' ∈ db, ∀ c, schema.enforced c = true →
      RefersTo schema r c r' → p r = true → p r' = true := by
  constructor
  · rintro h r hr r' hr' c henforced ⟨hhas, htarget, hrefs⟩ hp
    obtain ⟨r'', hr'', htable, hid⟩ :=
      h r (List.mem_filter.mpr ⟨hr, hp⟩) c henforced hhas r'.id hrefs
    obtain ⟨hmem, hp''⟩ := List.mem_filter.mp hr''
    rwa [hkeys.eq hmem hr' (htable.trans htarget) hid] at hp''
  · intro h r hr c henforced hhas k hk
    obtain ⟨hr, hp⟩ := List.mem_filter.mp hr
    obtain ⟨r', hr', htable, hid⟩ := hdb r hr c henforced hhas k hk
    exact ⟨r', List.mem_filter.mpr ⟨hr', h r hr r' hr' c henforced
      ⟨hhas, htable.symm, hid ▸ hk⟩ hp⟩, htable, hid⟩

/-- Every foreign key holds, and what is left refers to nothing that has gone. -/
def Clear (schema : Schema T C) (db db' : List (Row T C K α)) : Prop :=
  Holds schema db' ∧ ∀ r ∈ db', ∀ r' ∈ db, (∀ r'' ∈ db', r''.table = r'.table → r''.id ≠ r'.id) →
    ∀ c, ¬ RefersTo schema r c r'

/-- Rows are taken out without a trace exactly when each one kept keeps those it refers to. -/
theorem clear_filter_iff (hdb : Holds schema db) (hkeys : UniqueKeys db)
    (p : Row T C K α → Bool) :
    Clear schema db (db.filter p) ↔ ∀ r ∈ db, ∀ r' ∈ db, ∀ c, RefersTo schema r c r' →
      p r = true → p r' = true := by
  constructor
  · rintro ⟨-, hleft⟩ r hr r' hr' c hrefers hp
    by_contra hp'
    refine hleft r (List.mem_filter.mpr ⟨hr, hp⟩) r' hr' (fun r'' hr'' htable hid => ?_) c hrefers
    obtain ⟨hmem, hp''⟩ := List.mem_filter.mp hr''
    exact hp' (hkeys.eq hmem hr' htable hid ▸ hp'')
  · intro h
    refine ⟨(holds_filter_iff hdb hkeys p).mpr fun r hr r' hr' c _ => h r hr r' hr' c,
      fun r hr r' hr' hgone c hrefers => ?_⟩
    obtain ⟨hr, hp⟩ := List.mem_filter.mp hr
    exact hgone r' (List.mem_filter.mpr ⟨hr', h r hr r' hr' c hrefers hp⟩) rfl rfl

variable (schema) in
lemma clear_congr (db₁ db₂ db' : List (Row T C K α))
    (h₁ : ∀ r ∈ db₁, ∃ r' ∈ db₂, r'.table = r.table ∧ r'.id = r.id)
    (h₂ : ∀ r ∈ db₂, (∃ r' ∈ db₁, r'.table = r.table ∧ r'.id = r.id) ∨
      ∃ r' ∈ db', r'.table = r.table ∧ r'.id = r.id) :
    Clear schema db₁ db' ↔ Clear schema db₂ db' := by
  refine and_congr_right fun _ => forall₂_congr fun r _ => ⟨?_, ?_⟩
  · rintro h r₂ hr₂ hgone c ⟨hhas, htarget, hrefs⟩
    rcases h₂ r₂ hr₂ with ⟨r₁, hr₁, htable, hid⟩ | ⟨r', hr', htable, hid⟩
    · exact h r₁ hr₁ (fun r'' hr'' htable' => hid ▸ hgone r'' hr'' (htable'.trans htable)) c
        ⟨hhas, htarget.trans htable.symm, hid ▸ hrefs⟩
    · exact hgone r' hr' htable hid
  · rintro h r₁ hr₁ hgone c ⟨hhas, htarget, hrefs⟩
    obtain ⟨r₂, hr₂, htable, hid⟩ := h₁ r₁ hr₁
    exact h r₂ hr₂ (fun r'' hr'' htable' => hid ▸ hgone r'' hr'' (htable'.trans htable)) c
      ⟨hhas, htarget.trans htable.symm, hid ▸ hrefs⟩

/-! ## Updates -/

lemma afterDeletes_eq_filter (db : List (Row T C K α))
    (statements : List (Row T C K α → Bool)) :
    afterDeletes db statements =
      db.filter fun r => !statements.any fun statement => statement r := by
  induction statements generalizing db with
  | nil => simp [afterDeletes]
  | cons statement statements ih =>
    rw [afterDeletes, List.foldl_cons]
    refine (ih (db.filter fun r => !statement r)).trans ?_
    rw [List.filter_filter]
    refine List.filter_congr fun r _ => ?_
    rw [List.any_cons, Bool.not_or, Bool.and_comm]

lemma UniqueKeys.map (h : UniqueKeys db) {f : Row T C K α → Row T C K α}
    (hf : ∀ r, (f r).table = r.table ∧ (f r).id = r.id) : UniqueKeys (db.map f) := by
  unfold UniqueKeys at h ⊢
  rw [List.map_map]
  convert h using 2
  funext r
  simp only [Function.comp_apply, (hf r).1, (hf r).2]

lemma afterDeletes_map {f : Row T C K α → Row T C K α}
    (hf : ∀ r, ∀ statement ∈ statements, statement (f r) = statement r)
    (hgo : ∀ r, f r = r ∨ ∃ statement ∈ statements, statement r = true) :
    afterDeletes (db.map f) statements = afterDeletes db statements := by
  rw [afterDeletes_eq_filter, afterDeletes_eq_filter, List.filter_map]
  have hany : ∀ r, (statements.any fun statement => statement (f r)) =
      statements.any fun statement => statement r := by
    intro r
    rw [Bool.eq_iff_iff, List.any_eq_true, List.any_eq_true]
    exact exists_congr fun statement => and_congr_right fun hmem => by rw [hf r statement hmem]
  simp only [Function.comp_def, hany]
  refine (List.map_congr_left fun r hr => ?_).trans (List.map_id _)
  have hstays := (List.mem_filter.mp hr).2
  rw [Bool.not_eq_true', List.any_eq_false] at hstays
  rcases hgo r with heq | ⟨statement, hmem, hgoes⟩
  · exact heq
  · exact absurd hgoes (hstays statement hmem)

/-! ## Insertions -/

lemma UniqueKeys.concat (h : UniqueKeys db)
    (hfresh : ∀ r' ∈ db, r'.table = r.table → r'.id ≠ r.id) : UniqueKeys (db ++ [r]) := by
  unfold UniqueKeys at h ⊢
  rw [List.map_append, List.map_singleton, ← List.concat_eq_append]
  refine h.concat fun hmem => ?_
  obtain ⟨r', hr', heq⟩ := List.mem_map.mp hmem
  obtain ⟨htable, hid⟩ := Prod.mk.inj heq
  exact hfresh r' hr' htable hid

lemma Holds.not_refersTo (h : Holds schema db)
    (hfresh : ∀ r' ∈ db, r'.table = r.table → r'.id ≠ r.id) (hr' : r' ∈ db) {c : C}
    (henforced : schema.enforced c = true) : ¬ RefersTo schema r' c r := by
  rintro ⟨hhas, htarget, hrefs⟩
  obtain ⟨r'', hr'', htable, hid⟩ := h r' hr' c henforced hhas r.id hrefs
  exact hfresh r'' hr'' (htable.trans htarget) hid

/-- A new row that refers to rows that are there changes nothing for the others. -/
theorem holds_concat_iff
    (hrefs : ∀ c, schema.enforced c = true → schema.has r.table c = true → ∀ k,
      r.refs c = some k → ∃ r' ∈ db, r'.table = schema.target c ∧ r'.id = k)
    (hnone : ∀ r' ∈ db, ∀ c, schema.enforced c = true → ¬ RefersTo schema r' c r) :
    Holds schema (db ++ [r]) ↔ Holds schema db := by
  constructor
  · intro h r' hr' c henforced hhas k hk
    obtain ⟨r'', hr'', htable, rfl⟩ :=
      h r' (List.mem_append_left _ hr') c henforced hhas k hk
    rcases List.mem_append.mp hr'' with hr'' | hr''
    · exact ⟨r'', hr'', htable, rfl⟩
    · rw [List.mem_singleton.mp hr''] at htable hk
      exact absurd ⟨hhas, htable.symm, hk⟩ (hnone r' hr' c henforced)
  · intro h r' hr' c henforced hhas k hk
    have htarget : ∃ r'' ∈ db, r''.table = schema.target c ∧ r''.id = k := by
      rcases List.mem_append.mp hr' with hr' | hr'
      · exact h r' hr' c henforced hhas k hk
      · rw [List.mem_singleton.mp hr'] at hhas hk
        exact hrefs c henforced hhas k hk
    obtain ⟨r'', hr'', htable, hid⟩ := htarget
    exact ⟨r'', List.mem_append_left _ hr'', htable, hid⟩

/-! ## Sequences of deletions -/

lemma any_take_iff {n : ℕ} (hn : n ≤ statements.length) :
    (!(statements.take n).any fun statement => statement r) = true ↔ n ≤ stage statements r := by
  rw [stage, Bool.not_eq_true', List.any_eq_false]
  constructor
  · intro h
    by_contra hlt
    rw [not_le] at hlt
    have hstage : statements.findIdx (fun statement => statement r) < statements.length :=
      hlt.trans_le hn
    have hmem : statements[statements.findIdx fun statement => statement r] ∈ statements.take n :=
      List.mem_take_iff_getElem.mpr ⟨_, by omega, rfl⟩
    exact h _ hmem (List.findIdx_getElem (w := hstage))
  · intro h statement hmem
    obtain ⟨i, hi, rfl⟩ := List.mem_take_iff_getElem.mp hmem
    have hlt : i < statements.findIdx fun statement => statement r := by omega
    simpa using List.not_of_lt_findIdx hlt

lemma mem_afterDeletes_iff (hr : r ∈ db) :
    r ∈ afterDeletes db statements ↔ statements.length ≤ stage statements r := by
  have htake := any_take_iff (r := r) (le_refl statements.length)
  rw [List.take_length] at htake
  rw [afterDeletes_eq_filter, List.mem_filter, htake]
  simp only [hr, true_and]

/-- Foreign keys hold after each statement exactly when each row goes no later than what it refers
to. -/
theorem holdsThroughout_iff (hdb : Holds schema db) (hkeys : UniqueKeys db) :
    HoldsThroughout schema db statements ↔ ∀ r ∈ db, ∀ r' ∈ db, ∀ c, schema.enforced c = true →
      RefersTo schema r c r' → stage statements r ≤ stage statements r' := by
  have hstep : ∀ n ≤ statements.length, Holds schema (afterDeletes db (statements.take n)) ↔
      ∀ r ∈ db, ∀ r' ∈ db, ∀ c, schema.enforced c = true → RefersTo schema r c r' →
        n ≤ stage statements r → n ≤ stage statements r' := by
    intro n hn
    rw [afterDeletes_eq_filter, holds_filter_iff hdb hkeys]
    simp only [any_take_iff hn]
  constructor
  · intro h r hr r' hr' c henforced hrefers
    have hle : stage statements r ≤ statements.length := List.findIdx_le_length
    exact (hstep _ hle).mp (h _ hle) r hr r' hr' c henforced hrefers le_rfl
  · intro h n hn
    exact (hstep n hn).mpr fun r hr r' hr' c henforced hrefers hle =>
      hle.trans (h r hr r' hr' c henforced hrefers)

/-- Nothing refers to what was deleted exactly when every row that refers to it was deleted. -/
theorem nothingLeft_iff : NothingLeft schema db statements ↔ ∀ r ∈ db, ∀ r' ∈ db, ∀ c,
    RefersTo schema r c r' → stage statements r' < statements.length →
      stage statements r < statements.length := by
  constructor
  · intro h r hr r' hr' c hrefers hlt
    by_contra hle
    rw [not_lt] at hle
    have hleft := h r ((mem_afterDeletes_iff hr).mpr hle) r' hr' c hrefers
    exact absurd hlt (not_lt_of_ge ((mem_afterDeletes_iff hr').mp hleft))
  · intro h r hr r' hr' c hrefers
    have hmem : r ∈ db := by
      rw [afterDeletes_eq_filter] at hr
      exact (List.mem_filter.mp hr).1
    rw [mem_afterDeletes_iff hr']
    by_contra hlt
    rw [not_le] at hlt
    exact absurd (h r hmem r' hr' c hrefers hlt)
      (not_lt_of_ge ((mem_afterDeletes_iff hmem).mp hr))

/-! ## Deletions table by table

Each statement deletes from one table.  Where the places of two tables in the sequence do not
overlap, a table goes before another or after it as a whole, and the order of the statements is
right when it is right for the tables. -/

section ByTable

variable [DecidableEq T]

/-- `DELETE FROM table WHERE p`. -/
def tableDelete (deletion : T × (Row T C K α → Bool)) (r : Row T C K α) : Bool :=
  r.table = deletion.1 && deletion.2 r

/-- The first statement that deletes from the table. -/
def firstPlace (tables : List T) (t : T) : ℕ := tables.findIdx (· = t)

/-- The last statement that does. -/
def lastPlace (tables : List T) (t : T) : ℕ := tables.length - 1 - tables.reverse.findIdx (· = t)

/-- One of the statements deletes the row. -/
def goes (deletions : List (T × (Row T C K α → Bool))) (r : Row T C K α) : Bool :=
  deletions.any fun deletion => tableDelete deletion r

variable {deletions : List (T × (Row T C K α → Bool))}

lemma stage_lt_iff : stage (deletions.map tableDelete) r < deletions.length ↔
    goes deletions r = true := by
  have hlength : (deletions.map tableDelete).length = deletions.length := List.length_map _
  rw [stage, goes, ← hlength, List.findIdx_lt_length, List.any_eq_true]
  simp

lemma stage_mem (h : goes deletions r = true) :
    ∃ hlt : stage (deletions.map tableDelete) r < (deletions.map Prod.fst).length,
      (deletions.map Prod.fst)[stage (deletions.map tableDelete) r] = r.table := by
  have hlt : stage (deletions.map tableDelete) r < deletions.length := stage_lt_iff.mpr h
  have hlt' : stage (deletions.map tableDelete) r < (deletions.map tableDelete).length := by
    rwa [List.length_map]
  refine ⟨by rwa [List.length_map], ?_⟩
  have hdelete : (deletions.map tableDelete)[stage (deletions.map tableDelete) r] r = true :=
    List.findIdx_getElem (w := hlt')
  simp only [List.getElem_map, tableDelete, Bool.and_eq_true, decide_eq_true_eq] at hdelete
  rw [List.getElem_map]
  exact hdelete.1.symm

lemma firstPlace_le_stage (h : goes deletions r = true) :
    firstPlace (deletions.map Prod.fst) r.table ≤ stage (deletions.map tableDelete) r := by
  obtain ⟨hlt, htable⟩ := stage_mem h
  by_contra hle
  rw [not_le] at hle
  have hnot := List.not_of_lt_findIdx hle
  rw [htable, decide_eq_false_iff_not] at hnot
  exact hnot rfl

lemma stage_le_lastPlace (h : goes deletions r = true) :
    stage (deletions.map tableDelete) r ≤ lastPlace (deletions.map Prod.fst) r.table := by
  obtain ⟨hlt, htable⟩ := stage_mem h
  unfold lastPlace
  -- counted from the end the statement is not before the first one on the table
  have hle : (deletions.map Prod.fst).reverse.findIdx (· = r.table) ≤
      (deletions.map Prod.fst).length - 1 - stage (deletions.map tableDelete) r := by
    by_contra hgt
    rw [not_le] at hgt
    have hnot := List.not_of_lt_findIdx hgt
    rw [List.getElem_reverse] at hnot
    have hindex : (deletions.map Prod.fst).length - 1 -
        ((deletions.map Prod.fst).length - 1 - stage (deletions.map tableDelete) r) =
          stage (deletions.map tableDelete) r := by omega
    simp only [hindex, htable, decide_true] at hnot
    cases hnot
  omega

/-- The places of a table and of the tables it refers to do not overlap. -/
def Separate (schema : Schema T C) (tables : List T) : Prop :=
  ∀ t ∈ tables, ∀ c, schema.has t c = true → schema.target c ∈ tables →
    lastPlace tables t ≤ firstPlace tables (schema.target c) ∨
      lastPlace tables (schema.target c) < firstPlace tables t

/-- Deleting table by table takes rows down in a right order, to the last reference, exactly when
every row that refers to one that goes itself goes, from a table whose turn comes no later. -/
theorem takenDown_iff (hdb : Holds schema db) (hkeys : UniqueKeys db) {tables : List T}
    (htables : deletions.map Prod.fst = tables) (hseparate : Separate schema tables) :
    HoldsThroughout schema db (deletions.map tableDelete) ∧
        NothingLeft schema db (deletions.map tableDelete) ↔
      ∀ r ∈ db, ∀ r' ∈ db, ∀ c, RefersTo schema r c r' → goes deletions r' = true →
        goes deletions r = true ∧ (schema.enforced c = true →
          lastPlace tables r.table ≤ firstPlace tables (schema.target c)) := by
  subst htables
  rw [holdsThroughout_iff hdb hkeys, nothingLeft_iff, List.length_map]
  simp only [stage_lt_iff]
  constructor
  · rintro ⟨horder, hleft⟩ r hr r' hr' c hrefers hgoes'
    have hgoes := hleft r hr r' hr' c hrefers hgoes'
    refine ⟨hgoes, fun henforced => ?_⟩
    have hstage := horder r hr r' hr' c henforced hrefers
    have hplace : ∀ {r : Row T C K α}, goes deletions r = true →
        r.table ∈ deletions.map Prod.fst := by
      intro r hr
      obtain ⟨hlt, htable⟩ := stage_mem hr
      exact htable ▸ List.getElem_mem hlt
    rcases hseparate r.table (hplace hgoes) c hrefers.1 (hrefers.2.1 ▸ hplace hgoes') with h | h
    · exact h
    · rw [hrefers.2.1] at h
      have hfirst := firstPlace_le_stage hgoes
      have hlast := stage_le_lastPlace hgoes'
      omega
  · intro h
    refine ⟨fun r hr r' hr' c henforced hrefers => ?_, fun r hr r' hr' c hrefers hgoes' =>
      (h r hr r' hr' c hrefers hgoes').1⟩
    by_cases hgoes' : goes deletions r' = true
    · obtain ⟨hgoes, hplace⟩ := h r hr r' hr' c hrefers hgoes'
      calc stage (deletions.map tableDelete) r
          ≤ lastPlace (deletions.map Prod.fst) r.table := stage_le_lastPlace hgoes
        _ ≤ firstPlace (deletions.map Prod.fst) r'.table := hrefers.2.1 ▸ hplace henforced
        _ ≤ stage (deletions.map tableDelete) r' := firstPlace_le_stage hgoes'
    · have hstays : deletions.length ≤ stage (deletions.map tableDelete) r' := by
        rw [← stage_lt_iff, not_lt] at hgoes'
        exact hgoes'
      have hle : stage (deletions.map tableDelete) r ≤ (deletions.map tableDelete).length :=
        List.findIdx_le_length
      rw [List.length_map] at hle
      omega

end ByTable

end Relational
