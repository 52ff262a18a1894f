import Mathlib.Data.List.Pairwise
import Mathlib.Logic.Function.Basic

/-!
# First-write-wins maps

A lookup-or-insert register: a request for a key returns the value stored under it, and stores
its own value when there is none and the value is valid.  This is what an idempotency table does
with request keys.  The question answered here is when every request gets its *own* value back:
exactly when no key is asked for with a second value after a valid first one.
-/

namespace FirstWins

variable {κ ν : Type*} [DecidableEq κ]

/-- One request: the map afterwards and the answer, if there is one. -/
def ask (valid : ν → Prop) [DecidablePred valid] (m : κ → Option ν) (k : κ) (v : ν) :
    (κ → Option ν) × Option ν :=
  match m k with
  | some w => (m, some w)
  | none => if valid v then (Function.update m k (some v), some v) else (m, none)

variable {valid : ν → Prop} [DecidablePred valid]

lemma ask_of_some {m : κ → Option ν} {k : κ} {v w : ν} (h : m k = some w) :
    ask valid m k v = (m, some w) := by
  simp [ask, h]

lemma ask_of_valid {m : κ → Option ν} {k : κ} {v : ν} (h : m k = none) (hv : valid v) :
    ask valid m k v = (Function.update m k (some v), some v) := by
  simp [ask, h, hv]

lemma ask_of_not_valid {m : κ → Option ν} {k : κ} {v : ν} (h : m k = none) (hv : ¬ valid v) :
    ask valid m k v = (m, none) := by
  simp [ask, h, hv]

/-- Every request that is answered is answered with its own value. -/
def Faithful (valid : ν → Prop) [DecidablePred valid] : (κ → Option ν) → List (κ × ν) → Prop
  | _, [] => True
  | m, (k, v) :: rest =>
    (∀ w ∈ (ask valid m k v).2, w = v) ∧ Faithful valid (ask valid m k v).1 rest

/-- Requests are answered faithfully exactly when they agree with what is stored at the start, and
no two of them use one key for different values, the first of them valid. -/
theorem faithful_iff (m : κ → Option ν) (reqs : List (κ × ν)) :
    Faithful valid m reqs ↔
      (∀ r ∈ reqs, ∀ w, m r.1 = some w → r.2 = w) ∧
        reqs.Pairwise fun r r' => r.1 = r'.1 → valid r.2 → r.2 = r'.2 := by
  induction reqs generalizing m with
  | nil => simp [Faithful]
  | cons r rest ih =>
    obtain ⟨k, v⟩ := r
    rw [Faithful, List.pairwise_cons, List.forall_mem_cons]
    rcases hm : m k with _ | w
    · by_cases hv : valid v
      · -- the request stores its value, which later requests for the key must repeat
        rw [ask_of_valid hm hv, ih]
        dsimp only
        constructor
        · rintro ⟨-, hstored, hpw⟩
          refine ⟨⟨by simp, fun r hr w hw => ?_⟩, fun r hr hk _ => ?_, hpw⟩
          · refine hstored r hr w ?_
            have hne : r.1 ≠ k := by
              intro h
              rw [h, hm] at hw
              cases hw
            rwa [Function.update_of_ne hne]
          · exact (hstored r hr v (by rw [← hk, Function.update_self])).symm
        · rintro ⟨⟨-, hrest⟩, hhead, hpw⟩
          refine ⟨by simp, fun r hr w hw => ?_, hpw⟩
          by_cases hk : r.1 = k
          · rw [hk, Function.update_self] at hw
            cases hw
            exact (hhead r hr hk.symm hv).symm
          · rw [Function.update_of_ne hk] at hw
            exact hrest r hr w hw
      · rw [ask_of_not_valid hm hv, ih]
        constructor
        · rintro ⟨-, hstored, hpw⟩
          exact ⟨⟨by simp, hstored⟩, fun _ _ _ h => absurd h hv, hpw⟩
        · rintro ⟨⟨-, hrest⟩, -, hpw⟩
          exact ⟨by simp, hrest, hpw⟩
    · rw [ask_of_some hm, ih]
      constructor
      · rintro ⟨hw, hstored, hpw⟩
        have hv : w = v := hw w rfl
        refine ⟨⟨fun w' h => ?_, hstored⟩, fun r hr hk _ => ?_, hpw⟩
        · cases h
          exact hv.symm
        · rw [← hv]
          exact (hstored r hr w (hk ▸ hm)).symm
      · rintro ⟨⟨hw, hrest⟩, -, hpw⟩
        refine ⟨fun w' h => ?_, hrest, hpw⟩
        cases h
        exact (hw w rfl).symm

lemma faithful_congr {valid' : ν → Prop} [DecidablePred valid'] (h : ∀ v, valid v ↔ valid' v)
    (m : κ → Option ν) (reqs : List (κ × ν)) :
    Faithful valid m reqs ↔ Faithful valid' m reqs := by
  rw [faithful_iff, faithful_iff]
  simp only [h]

end FirstWins
