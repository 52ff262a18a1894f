import Mathlib.Data.List.Basic

/-!
# Fields joined by a delimiter

Fields without white space at their ends, the last of them not empty, are joined with a delimiter.
How many fields there were is known, but a field may contain the delimiter itself.  The joined text
then tells the fields exactly if it could not have been cut at any other delimiter: cutting a field
there must leave white space at an end, or nothing of the last field.
-/

namespace Joined

variable {α : Type*} (isSpace : α → Bool) (d : α)

/-- Neither the first nor the last item is white space. -/
def Trimmed (field : List α) : Prop :=
  (∀ c ∈ field.head?, isSpace c = false) ∧ ∀ c ∈ field.getLast?, isSpace c = false

/-- The fields are trimmed, and the last one is not empty. -/
def Admitted : List (List α) → Prop
  | [] => False
  | [field] => Trimmed isSpace field ∧ field ≠ []
  | field :: next :: fields => Trimmed isSpace field ∧ Admitted (next :: fields)

def join : List (List α) → List α
  | [] => []
  | [field] => field
  | field :: next :: fields => field ++ d :: join (next :: fields)

/-- A field may be cut at no delimiter in it, the end of the last field apart. -/
def Clear : List (List α) → Prop
  | [] => True
  | [field] => ∀ u v, field = u ++ d :: v → Trimmed isSpace u → Trimmed isSpace v → v = []
  | field :: next :: fields =>
    (∀ u v, field = u ++ d :: v → Trimmed isSpace u → ¬ Trimmed isSpace v) ∧
      Clear (next :: fields)

variable {isSpace d} {field next u v : List α} {fields fields' : List (List α)}

lemma Trimmed.of_append_right (h : Trimmed isSpace (u ++ v))
    (hv : ∀ c ∈ v.head?, isSpace c = false) : Trimmed isSpace v := by
  refine ⟨hv, fun c hc => h.2 c ?_⟩
  have hne : v ≠ [] := by
    rintro rfl
    cases hc
  rwa [List.getLast?_append_of_ne_nil _ hne]

lemma Trimmed.append (hd : isSpace d = false) (hu : Trimmed isSpace u) (hv : Trimmed isSpace v) :
    Trimmed isSpace (u ++ d :: v) := by
  constructor
  · intro c hc
    cases u with
    | nil =>
      cases hc
      exact hd
    | cons _ _ => exact hu.1 c hc
  · intro c hc
    rw [List.getLast?_append_of_ne_nil _ (List.cons_ne_nil d v)] at hc
    cases v with
    | nil =>
      cases hc
      exact hd
    | cons e v =>
      rw [List.getLast?_cons_cons] at hc
      exact hv.2 c hc

lemma Admitted.ne_nil (h : Admitted isSpace fields) : fields ≠ [] := by
  rintro rfl
  exact h

lemma Admitted.join (hd : isSpace d = false) (h : Admitted isSpace fields) :
    Trimmed isSpace (join d fields) ∧ Joined.join d fields ≠ [] := by
  induction fields with
  | nil => exact h.elim
  | cons field fields ih =>
    cases fields with
    | nil => exact h
    | cons next fields =>
      exact ⟨h.1.append hd (ih h.2).1, by simp [Joined.join]⟩

lemma trimmed_of_prefix (hd : isSpace d = false) (hrest : Admitted isSpace fields)
    (hfield : Trimmed isSpace (u ++ d :: v)) {tail : List α}
    (h : Joined.join d fields = v ++ tail) : Trimmed isSpace v := by
  have hfield' : Trimmed isSpace ((u ++ [d]) ++ v) := by simpa using hfield
  refine hfield'.of_append_right fun c hc => (hrest.join hd).1.1 c ?_
  rw [h]
  cases v with
  | nil => cases hc
  | cons _ _ => exact hc

lemma split_last {u' v' : List α} (hv : d ∉ v) (hv' : d ∉ v') (h : u ++ d :: v = u' ++ d :: v') :
    u = u' ∧ v = v' := by
  rcases List.append_eq_append_iff.mp h with ⟨w, hw, hrest⟩ | ⟨w, hw, hrest⟩
  · cases w with
    | nil => exact ⟨by rw [hw, List.append_nil], (List.cons.inj hrest).2⟩
    | cons c w => exact absurd ((List.cons.inj hrest).2 ▸ by simp) hv
  · cases w with
    | nil => exact ⟨by rw [hw, List.append_nil], ((List.cons.inj hrest).2).symm⟩
    | cons c w => exact absurd ((List.cons.inj hrest).2 ▸ by simp) hv'

/-- Other fields with the same text need more cuts, so there are fewer of them. -/
theorem eq_of_clear (hd : isSpace d = false) (hf : Admitted isSpace fields)
    (hf' : Admitted isSpace fields') (hclear : Clear isSpace d fields)
    (hlen : fields.length ≤ fields'.length) (h : Joined.join d fields' = Joined.join d fields) :
    fields' = fields := by
  induction fields generalizing fields' with
  | nil => exact hf.elim
  | cons field fields ih =>
    obtain ⟨field', fields', rfl⟩ := List.exists_cons_of_ne_nil hf'.ne_nil
    cases fields with
    | nil =>
      cases fields' with
      | nil => exact congrArg (· :: []) h
      | cons next' fields' =>
        obtain ⟨htrimmed, hne⟩ := Admitted.join hd hf'.2
        exact absurd (hclear field' _ h.symm hf'.1 htrimmed) hne
    | cons next fields =>
      cases fields' with
      | nil => simp at hlen
      | cons next' fields' =>
        have hcut : field' ++ d :: Joined.join d (next' :: fields') =
            field ++ d :: Joined.join d (next :: fields) := h
        have hlen' : (next :: fields).length ≤ (next' :: fields').length := by
          simpa using hlen
        rcases List.append_eq_append_iff.mp hcut with ⟨w, hw, hrest⟩ | ⟨w, hw, hrest⟩
        · cases w with
          | nil =>
            rw [List.append_nil] at hw
            have htail := (List.cons.inj hrest).2
            rw [hw, ih hf.2 hf'.2 hclear.2 hlen' htail]
          | cons c w =>
            -- the field would be cut after `field'`
            obtain ⟨rfl, htail⟩ := List.cons.inj hrest
            have hw' := trimmed_of_prefix hd hf'.2 (hw ▸ hf.1) htail
            exact absurd hw' (hclear.1 field' w hw hf'.1)
        · cases w with
          | nil =>
            rw [List.append_nil] at hw
            have htail := (List.cons.inj hrest).2
            rw [hw, ih hf.2 hf'.2 hclear.2 hlen' htail.symm]
          | cons c w =>
            -- the rest of the text would be cut once more often
            obtain ⟨rfl, htail⟩ := List.cons.inj hrest
            have hw' := trimmed_of_prefix hd hf.2 (hw ▸ hf'.1) htail
            have hmore : w :: next' :: fields' = next :: fields :=
              ih hf.2 ⟨hw', hf'.2⟩ hclear.2 (Nat.le_trans hlen' (Nat.le_succ _)) htail.symm
            have := congrArg List.length hmore
            simp only [List.length_cons] at this hlen'
            omega

lemma Admitted.merge (hd : isSpace d = false) (hv : Trimmed isSpace v)
    (h : Admitted isSpace (field :: fields)) : Admitted isSpace ((v ++ d :: field) :: fields) := by
  cases fields with
  | nil => exact ⟨hv.append hd h.1, by simp⟩
  | cons next fields => exact ⟨hv.append hd h.1, h.2⟩

lemma join_merge : join d ((v ++ d :: field) :: fields) = v ++ d :: join d (field :: fields) := by
  cases fields with
  | nil => rfl
  | cons next fields => simp [join]

/-- A field that may be cut gives other fields with the same text. -/
theorem exists_of_not_clear (hd : isSpace d = false)
    (hf : Admitted isSpace (field :: next :: fields))
    (h : ¬ Clear isSpace d (field :: next :: fields)) :
    ∃ fields', Admitted isSpace fields' ∧ fields'.length = (field :: next :: fields).length ∧
      join d fields' = join d (field :: next :: fields) ∧ fields' ≠ field :: next :: fields := by
  induction fields generalizing field next with
  | nil =>
    rcases not_and_or.mp h with hfirst | hlast
    · simp only [not_forall, not_not] at hfirst
      obtain ⟨u, v, rfl, hu, hv⟩ := hfirst
      refine ⟨[u, v ++ d :: next], ⟨hu, hf.2.merge hd hv⟩, rfl, by simp [join], fun heq => ?_⟩
      have hlen := congrArg List.length (List.cons.inj heq).1
      simp at hlen
    · simp only [Clear, not_forall] at hlast
      obtain ⟨u, v, rfl, hu, hv, hne⟩ := hlast
      refine ⟨[field ++ d :: u, v], ⟨hf.1.append hd hu, hv, hne⟩, rfl, by simp [join],
        fun heq => ?_⟩
      have hlen := congrArg List.length (List.cons.inj heq).1
      simp at hlen
  | cons after fields ih =>
    rcases not_and_or.mp h with hfirst | hrest
    · simp only [not_forall, not_not] at hfirst
      obtain ⟨u, v, rfl, hu, hv⟩ := hfirst
      refine ⟨u :: (v ++ d :: next) :: after :: fields, ⟨hu, hf.2.merge hd hv⟩, rfl, ?_,
        fun heq => ?_⟩
      · rw [join, join_merge]
        simp [join]
      · have hlen := congrArg List.length (List.cons.inj heq).1
        simp at hlen
    · obtain ⟨fields', hadmitted, hlen, hjoin, hne⟩ := ih hf.2 hrest
      obtain ⟨next', fields', rfl⟩ := List.exists_cons_of_ne_nil hadmitted.ne_nil
      refine ⟨field :: next' :: fields', ⟨hf.1, hadmitted⟩, congrArg (· + 1) hlen, ?_,
        fun heq => hne (List.cons.inj heq).2⟩
      rw [join, hjoin]
      rfl

/-- The joined text of two or more fields tells them exactly if they are clear. -/
theorem forall_eq_iff_clear (hd : isSpace d = false)
    (hf : Admitted isSpace (field :: next :: fields)) :
    (∀ fields', Admitted isSpace fields' → fields'.length = (field :: next :: fields).length →
      join d fields' = join d (field :: next :: fields) → fields' = field :: next :: fields) ↔
    Clear isSpace d (field :: next :: fields) := by
  constructor
  · intro h
    by_contra hclear
    obtain ⟨fields', hadmitted, hlen, hjoin, hne⟩ := exists_of_not_clear hd hf hclear
    exact hne (h fields' hadmitted hlen hjoin)
  · intro hclear fields' hadmitted hlen hjoin
    exact eq_of_clear hd hf hadmitted hclear (Nat.le_of_eq hlen.symm) hjoin

end Joined
