import Mathlib.Data.List.Induction

/-!
# The last word

A sequence of operations on a state, some of which decide a property of it one way or the other
while the others leave it as it is.  After the sequence the last operation that decides has
decided; if there was none, the property is what it was.
-/

namespace LastWord

variable {σ ε : Type*}

/-- The verdict of the last of the deciding operations; `before` when there is none. -/
def lastWord (decides : ε → Bool) (verdict : ε → Prop) (before : Prop) (ops : List ε) : Prop :=
  (ops.filter decides).getLast?.elim before verdict

instance (decides : ε → Bool) (verdict : ε → Prop) [DecidablePred verdict] (before : Prop)
    [Decidable before] (ops : List ε) : Decidable (lastWord decides verdict before ops) :=
  match h : (ops.filter decides).getLast? with
  | none => decidable_of_iff before (by rw [lastWord, h, Option.elim_none])
  | some op => decidable_of_iff (verdict op) (by rw [lastWord, h, Option.elim_some])

lemma lastWord_append {decides : ε → Bool} {verdict : ε → Prop} {before : Prop} (ops : List ε)
    (op : ε) : lastWord decides verdict before (ops ++ [op]) ↔
      if decides op then verdict op else lastWord decides verdict before ops := by
  cases h : decides op <;> simp [lastWord, h]

/-- `Inv` is what the operations keep, and what the ones that decide may rely on. -/
theorem foldl_iff_lastWord {step : σ → ε → σ} (P Inv : σ → Prop) (decides : ε → Bool)
    (verdict : ε → Prop) {ops : List ε} (hinv : ∀ s, ∀ op ∈ ops, Inv s → Inv (step s op))
    (hword : ∀ s, ∀ op ∈ ops, Inv s → decides op → (P (step s op) ↔ verdict op))
    (hsilent : ∀ s, ∀ op ∈ ops, Inv s → decides op = false → (P (step s op) ↔ P s)) {s : σ}
    (h : Inv s) : P (ops.foldl step s) ↔ lastWord decides verdict (P s) ops := by
  suffices hall : Inv (ops.foldl step s) ∧
      (P (ops.foldl step s) ↔ lastWord decides verdict (P s) ops) from hall.2
  -- from the end, where the last operation is either the last word or without a say
  induction ops using List.reverseRecOn with
  | nil => exact ⟨h, Iff.rfl⟩
  | append_singleton ops op ih =>
    have hlast : op ∈ ops ++ [op] := by simp
    have ih := ih (fun s o ho => hinv s o (List.mem_append_left _ ho))
      (fun s o ho => hword s o (List.mem_append_left _ ho))
      (fun s o ho => hsilent s o (List.mem_append_left _ ho))
    rw [List.foldl_append, List.foldl_cons, List.foldl_nil]
    refine ⟨hinv _ _ hlast ih.1, ?_⟩
    rw [lastWord_append]
    cases hd : decides op with
    | true => simpa using hword _ op hlast ih.1 hd
    | false => simpa using (hsilent _ op hlast ih.1 hd).trans ih.2

end LastWord
