import Mathlib.Data.List.Basic

/-!
# Runs of an executable transition system

A system is a step function `σ → ε → Option σ`: `none` says that the event is not enabled in
the state.  Concurrent parties are modelled by letting the environment choose the next event,
so a list of events *is* an interleaving, and a statement about every list is a statement
about every interleaving.

Four predicates are read along a run.  `StepsMeet ok` says that every step taken meets a
condition on the event and the state it starts from; `AllStates P` says that every state
passed through has a property; `AllSteps Q` relates the two ends of every step, and `AllLater Q`
each state to every later one.  The rules at the end are the inductions the users of this file
need: an invariant kept by every step, or by every step that meets a condition, holds in every
state of a run.
-/

namespace TransitionSystem

variable {σ ε : Type*} {step : σ → ε → Option σ}

/-- Replay the events from `s`; `none` as soon as one of them is not enabled. -/
def run (step : σ → ε → Option σ) : σ → List ε → Option σ
  | s, [] => some s
  | s, e :: es => (step s e).bind fun s' => run step s' es

/-- Every step of the run meets `ok`, read in the state the step starts from. -/
def StepsMeet (step : σ → ε → Option σ) (ok : σ → ε → Prop) : σ → List ε → Prop
  | _, [] => True
  | s, e :: es => ok s e ∧ (step s e).elim True fun s' => StepsMeet step ok s' es

/-- `P` holds in every state the run passes through, the first and the last included. -/
def AllStates (step : σ → ε → Option σ) (P : σ → Prop) : σ → List ε → Prop
  | s, [] => P s
  | s, e :: es => P s ∧ (step s e).elim True fun s' => AllStates step P s' es

/-- Every step of the run is as `Q` has it. -/
def AllSteps (step : σ → ε → Option σ) (Q : σ → ε → σ → Prop) (s : σ) (es : List ε) : Prop :=
  StepsMeet step (fun s e => ∀ s', step s e = some s' → Q s e s') s es

/-- Each state of the run stands in `Q` to every state after it. -/
def AllLater (step : σ → ε → Option σ) (Q : σ → σ → Prop) : σ → List ε → Prop
  | _, [] => True
  | s, e :: es => (step s e).elim True fun s' =>
    AllStates step (Q s) s' es ∧ AllLater step Q s' es

instance decidableElimTrue {α : Type*} {o : Option α} {P : α → Prop} [∀ a, Decidable (P a)] :
    Decidable (o.elim True P) :=
  match o with
  | none => inferInstanceAs (Decidable True)
  | some a => inferInstanceAs (Decidable (P a))

/-- A condition that can be decided at every step can be decided along a run. -/
instance decidableStepsMeet (ok : σ → ε → Prop) [∀ s e, Decidable (ok s e)] :
    ∀ s es, Decidable (StepsMeet step ok s es)
  | _, [] => inferInstanceAs (Decidable True)
  | s, e :: es =>
    have : ∀ s', Decidable (StepsMeet step ok s' es) :=
      fun s' => decidableStepsMeet ok s' es
    inferInstanceAs
      (Decidable (ok s e ∧ (step s e).elim True fun s' => StepsMeet step ok s' es))

/-- A property that can be decided in every state can be decided along a run. -/
instance decidableAllStates (P : σ → Prop) [∀ s, Decidable (P s)] :
    ∀ s es, Decidable (AllStates step P s es)
  | s, [] => inferInstanceAs (Decidable (P s))
  | s, e :: es =>
    have : ∀ s', Decidable (AllStates step P s' es) := fun s' => decidableAllStates P s' es
    inferInstanceAs
      (Decidable (P s ∧ (step s e).elim True fun s' => AllStates step P s' es))

/-! ## Unfolding one step -/

@[simp] lemma run_nil (s : σ) : run step s [] = some s := rfl

lemma run_cons_eq_some {s s' : σ} {e : ε} {es : List ε} :
    run step s (e :: es) = some s' ↔ ∃ m, step s e = some m ∧ run step m es = some s' := by
  simp [run, Option.bind_eq_some_iff]

lemma run_append (s : σ) (es fs : List ε) :
    run step s (es ++ fs) = (run step s es).bind fun m => run step m fs := by
  induction es generalizing s with
  | nil => rfl
  | cons e es ih =>
    simp only [List.cons_append, run]
    cases step s e with
    | none => rfl
    | some m => simpa using ih m

lemma stepsMeet_cons_of_step {ok : σ → ε → Prop} {s m : σ} {e : ε} {es : List ε}
    (hs : step s e = some m) :
    StepsMeet step ok s (e :: es) ↔ ok s e ∧ StepsMeet step ok m es := by
  simp [StepsMeet, hs]

lemma allStates_cons_of_step {P : σ → Prop} {s m : σ} {e : ε} {es : List ε}
    (hs : step s e = some m) :
    AllStates step P s (e :: es) ↔ P s ∧ AllStates step P m es := by
  simp [AllStates, hs]

lemma AllStates.head {P : σ → Prop} {s : σ} {es : List ε} (h : AllStates step P s es) : P s := by
  cases es with
  | nil => exact h
  | cons e es => exact h.1

lemma AllStates.last {P : σ → Prop} {s s' : σ} {es : List ε} (h : AllStates step P s es)
    (hrun : run step s es = some s') : P s' := by
  induction es generalizing s with
  | nil =>
    cases hrun
    exact h
  | cons e es ih =>
    obtain ⟨m, hm, hrest⟩ := run_cons_eq_some.mp hrun
    exact ih ((allStates_cons_of_step hm).mp h).2 hrest

/-! ## Invariant rules -/

/-- An invariant kept by every step that meets `ok` holds at the end of every run whose steps
all meet `ok`. -/
theorem invariant_of_stepsMeet {ok : σ → ε → Prop} (Inv : σ → Prop)
    (hstep : ∀ s e s', Inv s → ok s e → step s e = some s' → Inv s')
    {s s' : σ} {es : List ε} (h0 : Inv s) (hok : StepsMeet step ok s es)
    (hrun : run step s es = some s') : Inv s' := by
  induction es generalizing s with
  | nil =>
    cases hrun
    exact h0
  | cons e es ih =>
    obtain ⟨m, hm, hrest⟩ := run_cons_eq_some.mp hrun
    have hmeet := (stepsMeet_cons_of_step hm).mp hok
    exact ih (hstep s e m h0 hmeet.1 hm) hmeet.2 hrest

/-- An invariant kept by every step holds at the end of every run. -/
theorem invariant_run (Inv : σ → Prop)
    (hstep : ∀ s e s', Inv s → step s e = some s' → Inv s')
    {s s' : σ} {es : List ε} (h0 : Inv s) (hrun : run step s es = some s') : Inv s' := by
  induction es generalizing s with
  | nil =>
    cases hrun
    exact h0
  | cons e es ih =>
    obtain ⟨m, hm, hrest⟩ := run_cons_eq_some.mp hrun
    exact ih (hstep s e m h0 hm) hrest

/-- An invariant kept by every step that meets `ok`, and that implies `P`, gives `P` in every
state of a run whose steps all meet `ok`. -/
theorem allStates_of_stepsMeet {ok : σ → ε → Prop} {P : σ → Prop} (Inv : σ → Prop)
    (hstep : ∀ s e s', Inv s → ok s e → step s e = some s' → Inv s')
    (himp : ∀ s, Inv s → P s) {s : σ} {es : List ε} (h0 : Inv s)
    (hok : StepsMeet step ok s es) : AllStates step P s es := by
  induction es generalizing s with
  | nil => exact himp s h0
  | cons e es ih =>
    refine ⟨himp s h0, ?_⟩
    cases hm : step s e with
    | none => trivial
    | some m =>
      have hmeet := (stepsMeet_cons_of_step hm).mp hok
      exact ih (hstep s e m h0 hmeet.1 hm) hmeet.2

/-- An invariant kept by every step, and that implies `P`, gives `P` in every state of a run. -/
theorem allStates_of_invariant {P : σ → Prop} (Inv : σ → Prop)
    (hstep : ∀ s e s', Inv s → step s e = some s' → Inv s') (himp : ∀ s, Inv s → P s) {s : σ}
    (h0 : Inv s) (es : List ε) : AllStates step P s es := by
  induction es generalizing s with
  | nil => exact himp s h0
  | cons e es ih =>
    refine ⟨himp s h0, ?_⟩
    cases hm : step s e with
    | none => trivial
    | some m => exact ih (hstep s e m h0 hm)

/-- Where each step that meets `ok` lowers a weight, a run of such steps is no longer than the
weight it starts from. -/
theorem length_le_of_stepsMeet {ok : σ → ε → Prop} (Inv : σ → Prop) (weight : σ → ℕ)
    (hstep : ∀ s e s', Inv s → ok s e → step s e = some s' → Inv s' ∧ weight s' < weight s)
    {s s' : σ} {es : List ε} (h0 : Inv s) (hok : StepsMeet step ok s es)
    (hrun : run step s es = some s') : es.length ≤ weight s := by
  induction es generalizing s with
  | nil => exact Nat.zero_le _
  | cons e es ih =>
    obtain ⟨m, hm, hrest⟩ := run_cons_eq_some.mp hrun
    obtain ⟨hmeet, hokRest⟩ := (stepsMeet_cons_of_step hm).mp hok
    obtain ⟨hinv, hlt⟩ := hstep s e m h0 hmeet hm
    exact Nat.lt_of_le_of_lt (ih hinv hokRest hrest) hlt

/-- A step condition that follows from another one and an invariant. -/
theorem stepsMeet_of_stepsMeet {ok ok' : σ → ε → Prop} (Inv : σ → Prop)
    (hstep : ∀ s e s', Inv s → ok s e → step s e = some s' → Inv s')
    (himp : ∀ s e, Inv s → ok s e → ok' s e) {s : σ} {es : List ε} (h0 : Inv s)
    (hok : StepsMeet step ok s es) : StepsMeet step ok' s es := by
  induction es generalizing s with
  | nil => trivial
  | cons e es ih =>
    refine ⟨himp s e h0 hok.1, ?_⟩
    cases hm : step s e with
    | none => trivial
    | some m =>
      have hmeet := (stepsMeet_cons_of_step hm).mp hok
      exact ih (hstep s e m h0 hmeet.1 hm) hmeet.2

/-- The converse direction: where a step that breaks `ok` leads out of `P`, a run that stays in
`P` meets `ok` at every step.  `Inv` is what the steps keep in any case. -/
theorem stepsMeet_of_allStates {ok : σ → ε → Prop} {P : σ → Prop} (Inv : σ → Prop)
    (hstep : ∀ s e s', Inv s → step s e = some s' → Inv s')
    (hbreak : ∀ s e s', Inv s → P s → step s e = some s' → P s' → ok s e)
    {s s' : σ} {es : List ε} (h0 : Inv s) (hrun : run step s es = some s')
    (hP : AllStates step P s es) : StepsMeet step ok s es := by
  induction es generalizing s with
  | nil => trivial
  | cons e es ih =>
    obtain ⟨m, hm, hrest⟩ := run_cons_eq_some.mp hrun
    have hall := (allStates_cons_of_step hm).mp hP
    rw [stepsMeet_cons_of_step hm]
    exact ⟨hbreak s e m h0 hall.1 hm hall.2.head, ih (hstep s e m h0 hm) hrest hall.2⟩

/-- Both directions: a property of states that every step keeps exactly when it meets `ok`. -/
theorem allStates_iff_stepsMeet {ok : σ → ε → Prop} {P : σ → Prop} (Inv : σ → Prop)
    (hstep : ∀ s e s', Inv s → step s e = some s' → Inv s')
    (hiff : ∀ s e s', Inv s → P s → step s e = some s' → (P s' ↔ ok s e))
    {s s' : σ} {es : List ε} (h0 : Inv s) (hP : P s) (hrun : run step s es = some s') :
    AllStates step P s es ↔ StepsMeet step ok s es := by
  constructor
  · exact stepsMeet_of_allStates Inv hstep
      (fun s e s' hinv hP hs hP' => (hiff s e s' hinv hP hs).mp hP') h0 hrun
  · refine allStates_of_stepsMeet (fun s => Inv s ∧ P s) ?_ (fun s h => h.2) ⟨h0, hP⟩
    intro s e s' h hok hs
    exact ⟨hstep s e s' h.1 hs, (hiff s e s' h.1 h.2 hs).mpr hok⟩

lemma stepsMeet_and {ok ok' : σ → ε → Prop} {s : σ} {es : List ε} :
    StepsMeet step (fun s e => ok s e ∧ ok' s e) s es ↔
      StepsMeet step ok s es ∧ StepsMeet step ok' s es := by
  induction es generalizing s with
  | nil => exact (and_self_iff).symm
  | cons e es ih =>
    unfold StepsMeet
    cases step s e with
    | none => simp
    | some m =>
      simp only [Option.elim_some, ih]
      exact and_and_and_comm

/-- Two conditions that come to the same at every step, come to the same along a run. -/
theorem stepsMeet_congr {ok ok' : σ → ε → Prop} (Inv : σ → Prop)
    (hstep : ∀ s e s', Inv s → step s e = some s' → Inv s')
    (hiff : ∀ s e, Inv s → (ok s e ↔ ok' s e)) {s : σ} {es : List ε} (h0 : Inv s) :
    StepsMeet step ok s es ↔ StepsMeet step ok' s es := by
  constructor
  · exact stepsMeet_of_stepsMeet Inv (fun s e s' h _ hs => hstep s e s' h hs)
      (fun s e h hok => (hiff s e h).mp hok) h0
  · exact stepsMeet_of_stepsMeet Inv (fun s e s' h _ hs => hstep s e s' h hs)
      (fun s e h hok => (hiff s e h).mpr hok) h0

/-- A property of steps that comes to a condition, as long as the condition keeps an invariant,
comes to it along a run. -/
theorem allSteps_iff_stepsMeet {ok : σ → ε → Prop} {Q : σ → ε → σ → Prop} (Inv : σ → Prop)
    (hiff : ∀ s e, Inv s → ((∀ s', step s e = some s' → Q s e s') ↔ ok s e))
    (hstep : ∀ s e s', Inv s → ok s e → step s e = some s' → Inv s')
    {s : σ} {es : List ε} (h0 : Inv s) : AllSteps step Q s es ↔ StepsMeet step ok s es := by
  unfold AllSteps
  induction es generalizing s with
  | nil => rfl
  | cons e es ih =>
    unfold StepsMeet
    rw [hiff s e h0]
    refine and_congr_right fun hok => ?_
    cases hm : step s e with
    | none => rfl
    | some m => exact ih (hstep s e m h0 hok hm)

/-- A transitive relation that every step is in holds between any two states of the run. -/
theorem allLater_iff_allSteps {Q : σ → σ → Prop} (htrans : ∀ a b c, Q a b → Q b c → Q a c)
    {s : σ} {es : List ε} :
    AllLater step Q s es ↔ AllSteps step (fun s _ s' => Q s s') s es := by
  induction es generalizing s with
  | nil => exact iff_of_true trivial trivial
  | cons e es ih =>
    unfold AllLater AllSteps StepsMeet
    cases hm : step s e with
    | none => simp
    | some m =>
      simp only [Option.elim_some, Option.some.injEq, forall_eq']
      rw [ih]
      refine and_congr_left fun hsteps => ⟨AllStates.head, fun hQ => ?_⟩
      exact allStates_of_stepsMeet (Q s) (fun a e b hsa hab hb => htrans s a b hsa (hab b hb))
        (fun _ h => h) hQ hsteps

end TransitionSystem
