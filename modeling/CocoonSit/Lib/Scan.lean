import Mathlib.Data.List.Basic

/-!
# Scanning for matches

What a regular expression does to a text: `findall` lists its matches from left to right, `sub`
replaces them.  The expression is given by a matcher, which says of a text whether a match starts
at its front, and how long it is.  A replacement may fail, and then so does the substitution.
-/

namespace Scan

variable {α κ ε : Type*}

/-- The matches of the text and the characters between them; the first `skip` characters still
belong to the match before. -/
def piecesFrom (m : List α → Option (κ × ℕ)) : ℕ → List α → List (α ⊕ κ)
  | _, [] => []
  | skip + 1, _ :: cs => piecesFrom m skip cs
  | 0, c :: cs =>
    match m (c :: cs) with
    | some (k, n) => .inr k :: piecesFrom m (n - 1) cs
    | none => .inl c :: piecesFrom m 0 cs

def pieces (m : List α → Option (κ × ℕ)) (cs : List α) : List (α ⊕ κ) := piecesFrom m 0 cs

/-- The matches. -/
def findall (m : List α → Option (κ × ℕ)) (cs : List α) : List κ :=
  (pieces m cs).filterMap Sum.getRight?

/-- The pieces put together again, with a replacement for each match. -/
def join (f : κ → Except ε (List α)) : List (α ⊕ κ) → Except ε (List α)
  | [] => .ok []
  | .inl c :: ps => (join f ps).map fun text => c :: text
  | .inr k :: ps => (f k).bind fun replacement => (join f ps).map fun text => replacement ++ text

/-- The text with every match replaced. -/
def sub (m : List α → Option (κ × ℕ)) (f : κ → Except ε (List α)) (cs : List α) :
    Except ε (List α) :=
  join f (pieces m cs)

lemma piecesFrom_eq_drop (m : List α → Option (κ × ℕ)) (skip : ℕ) (cs : List α) :
    piecesFrom m skip cs = pieces m (cs.drop skip) := by
  induction cs generalizing skip with
  | nil =>
    rw [List.drop_nil]
    cases skip with
    | zero => rfl
    | succ skip => rfl
  | cons c cs ih =>
    cases skip with
    | zero => rfl
    | succ skip => exact ih skip

lemma findall_of_match {m : List α → Option (κ × ℕ)} {cs : List α} {k : κ} {n : ℕ}
    (hcs : cs ≠ []) (hn : 0 < n) (h : m cs = some (k, n)) :
    findall m cs = k :: findall m (cs.drop n) := by
  obtain ⟨c, cs, rfl⟩ := List.exists_cons_of_ne_nil hcs
  obtain ⟨n, rfl⟩ := Nat.exists_eq_succ_of_ne_zero (Nat.pos_iff_ne_zero.mp hn)
  have hpieces : pieces m (c :: cs) = .inr k :: piecesFrom m n cs := by
    rw [pieces, piecesFrom, h]
    rfl
  rw [findall, hpieces, piecesFrom_eq_drop]
  rfl

lemma findall_append {m : List α → Option (κ × ℕ)} {text rest : List α}
    (h : ∀ c ∈ text, ∀ cs, m (c :: cs) = none) : findall m (text ++ rest) = findall m rest := by
  induction text with
  | nil => rfl
  | cons c text ih =>
    have hpieces : pieces m (c :: (text ++ rest)) = .inl c :: pieces m (text ++ rest) := by
      rw [pieces, piecesFrom, h c List.mem_cons_self]
      rfl
    rw [List.cons_append, findall, hpieces]
    exact ih fun c hc => h c (List.mem_cons_of_mem _ hc)

/-- The text with every match replaced, as it is put together: from left to right, each match once,
and what has been put in its place not read again. -/
inductive Substituted (m : List α → Option (κ × ℕ)) (g : κ → List α) : List α → List α → Prop
  | nil : Substituted m g [] []
  | keep {c : α} {cs out : List α} (hnone : m (c :: cs) = none) (hrest : Substituted m g cs out) :
      Substituted m g (c :: cs) (c :: out)
  | replace {k : κ} {text cs out : List α} (hmatch : m (text ++ cs) = some (k, text.length))
      (hpos : text ≠ []) (hrest : Substituted m g cs out) :
      Substituted m g (text ++ cs) (g k ++ out)

/-- The matches are not empty, and not longer than what is left of the text. -/
def Proper (m : List α → Option (κ × ℕ)) : Prop :=
  ∀ cs k n, m cs = some (k, n) → 0 < n ∧ n ≤ cs.length

lemma join_isOk_iff {f : κ → Except ε (List α)} {ps : List (α ⊕ κ)} :
    (join f ps).isOk ↔ ∀ k ∈ ps.filterMap Sum.getRight?, (f k).isOk := by
  induction ps with
  | nil => simp [join, Except.isOk, Except.toBool]
  | cons p ps ih =>
    cases p with
    | inl c =>
      have hstep : (join f (.inl c :: ps)).isOk = (join f ps).isOk := by
        rw [join]
        cases join f ps with
        | error e => rfl
        | ok text => rfl
      rw [hstep, ih]
      simp
    | inr k =>
      have hstep : (join f (.inr k :: ps)).isOk = ((f k).isOk && (join f ps).isOk) := by
        rw [join]
        cases f k with
        | error e => rfl
        | ok replacement =>
          cases join f ps with
          | error e => rfl
          | ok text => rfl
      rw [hstep, Bool.and_eq_true, ih]
      simp

/-- A substitution goes through if and only if every match can be replaced. -/
theorem sub_isOk_iff {m : List α → Option (κ × ℕ)} {f : κ → Except ε (List α)} {cs : List α} :
    (sub m f cs).isOk ↔ ∀ k ∈ findall m cs, (f k).isOk :=
  join_isOk_iff

/-- What a substitution comes to. -/
theorem sub_eq_ok {m : List α → Option (κ × ℕ)} (hm : Proper m) {f : κ → Except ε (List α)}
    {g : κ → List α} {cs : List α} (hg : ∀ k ∈ findall m cs, f k = .ok (g k)) :
    ∃ out, sub m f cs = .ok out ∧ Substituted m g cs out := by
  induction hlength : cs.length using Nat.strongRecOn generalizing cs with
  | ind length ih =>
  cases cs with
  | nil => exact ⟨[], rfl, .nil⟩
  | cons c cs =>
    cases hmatch : m (c :: cs) with
    | none =>
      have hpieces : pieces m (c :: cs) = .inl c :: pieces m cs := by
        rw [pieces, piecesFrom, hmatch]
        rfl
      have hall : findall m (c :: cs) = findall m cs := by
        rw [findall, hpieces]
        rfl
      obtain ⟨out, hout, hrest⟩ := ih cs.length (by rw [← hlength]; exact Nat.lt_succ_self _)
        (hall ▸ hg) rfl
      refine ⟨c :: out, ?_, .keep hmatch hrest⟩
      unfold sub at hout ⊢
      rw [hpieces, join, hout]
      rfl
    | some found =>
      obtain ⟨k, n⟩ := found
      obtain ⟨hpos, hle⟩ := hm _ _ _ hmatch
      have hall : findall m (c :: cs) = k :: findall m ((c :: cs).drop n) :=
        findall_of_match (List.cons_ne_nil _ _) hpos hmatch
      have hpieces : pieces m (c :: cs) = .inr k :: pieces m ((c :: cs).drop n) := by
        obtain ⟨n, rfl⟩ := Nat.exists_eq_succ_of_ne_zero (Nat.pos_iff_ne_zero.mp hpos)
        rw [pieces, piecesFrom, hmatch]
        exact congrArg _ (piecesFrom_eq_drop m n cs)
      have hshort : ((c :: cs).drop n).length < length := by
        rw [List.length_drop, hlength]
        omega
      obtain ⟨out, hout, hrest⟩ := ih _ hshort (fun k' hk' => hg k' (by
        rw [hall]
        exact List.mem_cons_of_mem k hk')) rfl
      refine ⟨g k ++ out, ?_, ?_⟩
      · have hk : f k = .ok (g k) := hg k (by rw [hall]; exact List.mem_cons_self)
        unfold sub at hout ⊢
        rw [hpieces, join, hk, hout]
        rfl
      · have hsplit : (c :: cs).take n ++ (c :: cs).drop n = c :: cs := List.take_append_drop ..
        have htake : ((c :: cs).take n).length = n := List.length_take_of_le hle
        rw [← hsplit]
        refine .replace ?_ (fun hnil => ?_) hrest
        · rw [hsplit, htake]
          exact hmatch
        · rw [hnil] at htake
          exact absurd htake (Nat.ne_of_lt hpos)

lemma sub_congr {m : List α → Option (κ × ℕ)} {f f' : κ → Except ε (List α)} {cs : List α}
    (h : ∀ k ∈ findall m cs, f k = f' k) : sub m f cs = sub m f' cs := by
  unfold sub
  unfold findall at h
  revert h
  induction pieces m cs with
  | nil => exact fun _ => rfl
  | cons p ps ih =>
    cases p with
    | inl c =>
      intro h
      rw [join, join, ih h]
    | inr k =>
      intro h
      rw [join, join, h k List.mem_cons_self,
        ih fun k' hk' => h k' (List.mem_cons_of_mem k hk')]

end Scan
