import Mathlib.Data.List.Infix
import Mathlib.Data.List.Nodup

/-!
# Trees of files

A tree maps paths to entries; what is not at the top lies in a directory, and a directory lists its
children.  Removing a subtree, adding a directory and writing a file keep that.

`removes_foldl` is the rule for a loop of removals: where each turn removes only inside its own
area, sees only its own area, and the areas are apart, the loop removes what each turn would have
removed from the tree it started with.
-/

/-- What a path names. -/
inductive Entry (κ : Type*) where
  | dir
  | file (content : κ)
deriving DecidableEq

structure FileTree (ν κ : Type*) where
  entry : List ν → Option (Entry κ)
  children : List ν → List ν
  mem_children : ∀ p name, name ∈ children p ↔ (entry (p ++ [name])).isSome
  nodup_children : ∀ p, (children p).Nodup
  parent : ∀ p name, (entry (p ++ [name])).isSome → entry p = some .dir

namespace FileTree

variable {ν κ α : Type*}

section Operations

variable [DecidableEq ν] [DecidableEq κ]

/-! ## Operations -/

/-- An empty directory. -/
def root : FileTree ν κ where
  entry := fun p => if p = [] then some .dir else none
  children := fun _ => []
  mem_children := by simp
  nodup_children := by simp
  parent := by simp

/-- The tree without what is at `p` and below. -/
def rmtree (t : FileTree ν κ) (p : List ν) : FileTree ν κ where
  entry := fun q => if p <+: q then none else t.entry q
  children := fun q => (t.children q).filter fun name => decide ¬ p <+: q ++ [name]
  mem_children := by
    intro q name
    rw [List.mem_filter, t.mem_children, decide_eq_true_iff]
    by_cases h : p <+: q ++ [name]
    · simp [h]
    · simp [h]
  nodup_children := fun q => (t.nodup_children q).filter _
  parent := by
    intro q name hsome
    by_cases h : p <+: q ++ [name]
    · simp [h] at hsome
    · have hq : ¬ p <+: q := fun hp => h (hp.trans (List.prefix_append ..))
      simp only [h, hq, if_false] at hsome ⊢
      exact t.parent q name hsome

/-- The tree with an entry in the directory `p`. -/
def put (t : FileTree ν κ) (p : List ν) (name : ν) (e : Entry κ) (hp : t.entry p = some .dir)
    (he : t.entry (p ++ [name]) ≠ some .dir ∨ e = .dir) : FileTree ν κ where
  entry := fun q => if q = p ++ [name] then some e else t.entry q
  children := fun q =>
    if q = p ∧ name ∉ t.children p then t.children q ++ [name] else t.children q
  mem_children := by
    intro q name'
    by_cases hq : q = p
    · subst hq
      by_cases hname : name' = name
      · subst hname
        by_cases hmem : name' ∈ t.children q
        · simp [hmem]
        · simp [hmem]
      · by_cases hmem : name ∈ t.children q
        · simp [hmem, hname, t.mem_children]
        · simp [hmem, hname, t.mem_children]
    · simp [hq, t.mem_children]
  nodup_children := by
    intro q
    split
    · next h =>
      obtain ⟨rfl, hname⟩ := h
      exact (t.nodup_children q).append (List.nodup_singleton name) (by simpa using hname)
    · exact t.nodup_children q
  parent := by
    intro q name' hsome
    by_cases hq : q ++ [name'] = p ++ [name]
    · obtain ⟨rfl, -⟩ := List.append_inj' hq rfl
      rw [if_neg (by simp), hp]
    · rw [if_neg hq] at hsome
      have hdir := t.parent q name' hsome
      split
      · next h =>
        rw [← h] at he
        rcases he with he | rfl
        · exact absurd hdir he
        · rfl
      · exact hdir

/-- Write the file `name` in the directory `p`; `none` where there is no such directory, or the name
is taken by one. -/
def write (t : FileTree ν κ) (p : List ν) (name : ν) (content : κ) :
    Option (FileTree ν κ) :=
  if h : t.entry p = some .dir ∧ t.entry (p ++ [name]) ≠ some .dir then
    some (t.put p name (.file content) h.1 (.inl h.2))
  else none

/-- Make the directories on the way from `base`; `none` where a file is in the way. -/
def mkdirFrom (t : FileTree ν κ) (base : List ν) : List ν → Option (FileTree ν κ)
  | [] => if t.entry base = some .dir then some t else none
  | name :: rest =>
    if h : t.entry base = some .dir then
      if t.entry (base ++ [name]) = none then
        (t.put base name .dir h (.inr rfl)).mkdirFrom (base ++ [name]) rest
      else t.mkdirFrom (base ++ [name]) rest
    else none

/-- A directory with its parents, where it is not there. -/
def mkdir (t : FileTree ν κ) (p : List ν) : Option (FileTree ν κ) :=
  t.mkdirFrom [] p

end Operations

variable {t t' : FileTree ν κ} {p q base rest : List ν} {name : ν}

lemma entry_of_prefix (hq : (t.entry q).isSome) (h : p <+: q) (hne : p ≠ q) :
    t.entry p = some .dir := by
  obtain ⟨rest, rfl⟩ := h
  induction rest using List.reverseRecOn with
  | nil => exact absurd (List.append_nil p).symm hne
  | append_singleton rest name ih =>
    rw [← List.append_assoc] at hq
    have hdir := t.parent _ name hq
    by_cases hrest : rest = []
    · rwa [hrest, List.append_nil] at hdir
    · exact ih (by rw [hdir]; rfl) (by simpa using hrest)

/-- Entries stay. -/
def Extends (t' t : FileTree ν κ) : Prop := ∀ q e, t.entry q = some e → t'.entry q = some e

/-- Paths stay. -/
def Keeps (t t' : FileTree ν κ) : Prop := ∀ q, (t.entry q).isSome → (t'.entry q).isSome

lemma Keeps.trans {t'' : FileTree ν κ} (h : Keeps t t') (h' : Keeps t' t'') : Keeps t t'' :=
  fun q hq => h' q (h q hq)

lemma keeps_foldlM {step : FileTree ν κ → α → Option (FileTree ν κ)}
    (hstep : ∀ t a t', step t a = some t' → Keeps t t') {as : List α}
    (h : as.foldlM step t = some t') : Keeps t t' := by
  induction as generalizing t with
  | nil =>
    cases h
    exact fun _ hq => hq
  | cons a as ih =>
    rw [List.foldlM_cons] at h
    obtain ⟨s, hs, hrest⟩ := Option.bind_eq_some_iff.mp h
    exact (hstep t a s hs).trans (ih hrest)

lemma Extends.trans {t'' : FileTree ν κ} (h' : t''.Extends t') (h : t'.Extends t) :
    t''.Extends t := fun q e hq => h' q e (h q e hq)

section Operations

variable [DecidableEq ν] [DecidableEq κ]

lemma mkdirFrom_spec (h : t.mkdirFrom base rest = some t') :
    t'.Extends t ∧ t'.entry (base ++ rest) = some .dir := by
  induction rest generalizing t base with
  | nil =>
    rw [mkdirFrom] at h
    split at h
    · next hdir =>
      cases h
      exact ⟨fun _ _ hq => hq, by rwa [List.append_nil]⟩
    · cases h
  | cons name rest ih =>
    rw [mkdirFrom] at h
    split at h
    · next hdir =>
      have hpath : base ++ name :: rest = base ++ [name] ++ rest := by simp
      rw [hpath]
      split at h
      · next hnew =>
        obtain ⟨hextends, hentry⟩ := ih h
        refine ⟨hextends.trans fun q e hq => ?_, hentry⟩
        have hne : q ≠ base ++ [name] := by
          rintro rfl
          rw [hnew] at hq
          cases hq
        simp only [put, hne, if_false, hq]
      · exact ih h
    · cases h

lemma mkdir_spec (h : t.mkdir p = some t') :
    t'.Extends t ∧ t'.entry p = some .dir := mkdirFrom_spec h

lemma entry_write {content : κ} (h : t.write p name content = some t')
    (q : List ν) : t'.entry q = if q = p ++ [name] then some (.file content) else t.entry q := by
  unfold write at h
  split at h
  · cases h
    rfl
  · cases h

lemma keeps_mkdir (h : t.mkdir p = some t') : Keeps t t' := by
  intro q hq
  obtain ⟨e, he⟩ := Option.isSome_iff_exists.mp hq
  rw [(mkdir_spec h).1 q e he]
  rfl

lemma keeps_write {content : κ} (h : t.write p name content = some t') : Keeps t t' := by
  intro q hq
  rw [entry_write h]
  split
  · rfl
  · exact hq

end Operations

/-! ## Removals -/

/-- `t'` is `t` without the paths in `gone`. -/
def Removes (t t' : FileTree ν κ) (gone : List ν → Prop) : Prop :=
  ∀ q, (gone q → t'.entry q = none) ∧ (¬ gone q → t'.entry q = t.entry q)

lemma Removes.isSome_iff {gone : List ν → Prop} (h : Removes t t' gone) :
    (t'.entry q).isSome ↔ (t.entry q).isSome ∧ ¬ gone q := by
  by_cases hq : gone q
  · simp [(h q).1 hq, hq]
  · simp [(h q).2 hq, hq]

lemma Removes.congr {gone gone' : List ν → Prop} (h : Removes t t' gone)
    (hiff : ∀ q, gone q ↔ gone' q) : Removes t t' gone' :=
  fun q => ⟨fun hq => (h q).1 ((hiff q).mpr hq), fun hq => (h q).2 fun hq' => hq ((hiff q).mp hq')⟩

lemma removes_rmtree [DecidableEq ν] (t : FileTree ν κ) (p : List ν) :
    Removes t (t.rmtree p) (p <+: ·) :=
  fun _ => ⟨fun h => if_pos h, fun h => if_neg h⟩

/-- Areas without a common path. -/
def Apart (p q : List ν) : Prop := ∀ r, p <+: r → ¬ q <+: r

lemma apart_of_ne {a b : ν} (h : a ≠ b) (p : List ν) : Apart (p ++ [a]) (p ++ [b]) := by
  rintro r ⟨s, rfl⟩ ⟨s', heq⟩
  rw [List.append_assoc, List.append_assoc, List.append_cancel_left_eq] at heq
  exact h (List.cons.inj heq).1.symm

/-- Removals from areas that are apart. -/
theorem removes_foldl {step : FileTree ν κ → α → FileTree ν κ} {area : α → List ν}
    {gone : FileTree ν κ → α → List ν → Prop}
    (hstep : ∀ t a, Removes t (step t a) (gone t a))
    (harea : ∀ t a q, gone t a q → area a <+: q)
    (hlocal : ∀ t t' a, (∀ q, area a <+: q → t'.entry q = t.entry q) →
      ∀ q, gone t' a q ↔ gone t a q) {as : List α}
    (hapart : as.Pairwise fun a b => Apart (area a) (area b)) (t : FileTree ν κ) :
    Removes t (as.foldl step t) fun q => ∃ a ∈ as, gone t a q := by
  induction as generalizing t with
  | nil => exact fun q => ⟨fun ⟨a, ha, _⟩ => absurd ha List.not_mem_nil, fun _ => rfl⟩
  | cons a as ih =>
    obtain ⟨hhead, htail⟩ := List.pairwise_cons.mp hapart
    have hsame : ∀ b ∈ as, ∀ q, gone (step t a) b q ↔ gone t b q := by
      intro b hb
      refine hlocal t (step t a) b fun q hq => (hstep t a q).2 fun hgone => ?_
      exact hhead b hb q (harea t a q hgone) hq
    intro q
    obtain ⟨hgone, hkept⟩ := ih htail (step t a) q
    rw [List.foldl_cons]
    by_cases hrest : ∃ b ∈ as, gone t b q
    · obtain ⟨b, hb, hbq⟩ := hrest
      have hnone := hgone ⟨b, hb, (hsame b hb q).mpr hbq⟩
      exact ⟨fun _ => hnone, fun h => absurd ⟨b, List.mem_cons_of_mem _ hb, hbq⟩ h⟩
    · have hfirst := hkept fun ⟨b, hb, hbq⟩ => hrest ⟨b, hb, (hsame b hb q).mp hbq⟩
      constructor
      · rintro ⟨b, hb, hbq⟩
        rcases List.mem_cons.mp hb with rfl | hb
        · rw [hfirst, (hstep t b q).1 hbq]
        · exact absurd ⟨b, hb, hbq⟩ hrest
      · intro hnot
        rw [hfirst, (hstep t a q).2 fun haq => hnot ⟨a, List.mem_cons_self, haq⟩]

lemma pairwise_apart_children (t : FileTree ν κ) (p : List ν) :
    ((t.children p).map (p ++ [·])).Pairwise Apart :=
  List.pairwise_map.mpr ((t.nodup_children p).imp fun hne => apart_of_ne hne p)

/-- A loop over the children of a directory. -/
theorem removes_foldl_children {step : FileTree ν κ → List ν → FileTree ν κ}
    {gone : FileTree ν κ → List ν → List ν → Prop}
    (hstep : ∀ t a, Removes t (step t a) (gone t a)) (harea : ∀ t a q, gone t a q → a <+: q)
    (hlocal : ∀ t t' a, (∀ q, a <+: q → t'.entry q = t.entry q) →
      ∀ q, gone t' a q ↔ gone t a q)
    (hdir : ∀ t a q, gone t a q → t.entry a = some .dir) (t : FileTree ν κ) (p : List ν) :
    Removes t (((t.children p).map (p ++ [·])).foldl step t)
      fun q => ∃ name, gone t (p ++ [name]) q := by
  have hid : ∀ t a q, gone t a q → id a <+: q := harea
  have hfold := removes_foldl hstep hid hlocal (pairwise_apart_children t p) t
  have hgone : ∀ q, (∃ a ∈ (t.children p).map (p ++ [·]), gone t a q) ↔
      ∃ name, gone t (p ++ [name]) q := by
    intro q
    constructor
    · rintro ⟨_, ha, hq⟩
      obtain ⟨name, -, rfl⟩ := List.mem_map.mp ha
      exact ⟨name, hq⟩
    · rintro ⟨name, hq⟩
      have hmem : name ∈ t.children p := by
        rw [t.mem_children, hdir t _ q hq]
        rfl
      exact ⟨_, List.mem_map_of_mem hmem, hq⟩
  exact hfold.congr hgone

end FileTree
