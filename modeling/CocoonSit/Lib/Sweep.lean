import Mathlib.Data.List.Basic

/-!
# Loops whose handler may raise

A sweep goes through several loops in turn, each over what it finds in the state when it starts;
a handler takes one item, and may raise.  A sweep without a handler of its own for exceptions
(`sweep`) ends with the first of them; one that catches them at the item (`everyTurn`) gives every
item its turn.  `sweep_turns_eq_iff` says when the first does what the second does.
-/

namespace Sweep

variable {σ α ε : Type*} (handle : σ → α → σ × Option ε)

/-- The handler raises in this turn: an item, and the state it finds. -/
def Raises (turn : σ × α) : Prop := (handle turn.1 turn.2).2.isSome

instance (turn : σ × α) : Decidable (Raises handle turn) := inferInstanceAs (Decidable (_ = true))

/-! ## Exceptions caught at the item -/

/-- The state after a loop that catches every exception at its item. -/
def after (s : σ) (items : List α) : σ := items.foldl (fun s a => (handle s a).1) s

/-- The turns of such a loop. -/
def turns : σ → List α → List (σ × α)
  | _, [] => []
  | s, a :: items => (s, a) :: turns (handle s a).1 items

/-- The turns of such loops, one after the other. -/
def everyTurn : σ → List (σ → List α) → List (σ × α)
  | _, [] => []
  | s, loop :: loops => turns handle s (loop s) ++ everyTurn (after handle s (loop s)) loops

/-! ## Exceptions that end the sweep -/

/-- What a sweep leaves: a state, the turns it took, and what it raised. -/
structure Swept (σ α ε : Type*) where
  state : σ
  turns : List (σ × α) := []
  raised : Option ε := none

def sweepLoop : σ → List α → Swept σ α ε
  | s, [] => { state := s }
  | s, a :: items =>
    match handle s a with
    | (s', some e) => { state := s', turns := [(s, a)], raised := some e }
    | (s', none) =>
      let rest := sweepLoop s' items
      { rest with turns := (s, a) :: rest.turns }

/-- Loops, one after the other. -/
def sweep : σ → List (σ → List α) → Swept σ α ε
  | s, [] => { state := s }
  | s, loop :: loops =>
    let first := sweepLoop handle s (loop s)
    match first.raised with
    | some _ => first
    | none =>
      let rest := sweep first.state loops
      { rest with turns := first.turns ++ rest.turns }

/-- The turns up to the first that raises, it included. -/
def upToRaise : List (σ × α) → List (σ × α)
  | [] => []
  | turn :: rest => if Raises handle turn then [turn] else turn :: upToRaise rest

/-! ## The turns a sweep takes -/

variable {handle}

lemma upToRaise_append_of_raises {ts us : List (σ × α)} (h : ∃ turn ∈ ts, Raises handle turn) :
    upToRaise handle (ts ++ us) = upToRaise handle ts := by
  induction ts with
  | nil =>
    obtain ⟨turn, hmem, -⟩ := h
    cases hmem
  | cons turn ts ih =>
    rw [List.cons_append, upToRaise, upToRaise]
    by_cases hraises : Raises handle turn
    · rw [if_pos hraises, if_pos hraises]
    · rw [if_neg hraises, if_neg hraises]
      obtain ⟨turn', hmem, hturn'⟩ := h
      rcases List.mem_cons.mp hmem with rfl | hrest
      · exact absurd hturn' hraises
      · rw [ih ⟨turn', hrest, hturn'⟩]

lemma upToRaise_append_of_quiet {ts us : List (σ × α)} (h : ∀ turn ∈ ts, ¬ Raises handle turn) :
    upToRaise handle (ts ++ us) = ts ++ upToRaise handle us := by
  induction ts with
  | nil => rfl
  | cons turn ts ih =>
    obtain ⟨hfirst, hrest⟩ := List.forall_mem_cons.mp h
    rw [List.cons_append, upToRaise, if_neg hfirst, ih hrest, List.cons_append]

lemma upToRaise_eq_self_iff {ts : List (σ × α)} :
    upToRaise handle ts = ts ↔ ∀ turn ∈ ts.dropLast, ¬ Raises handle turn := by
  induction ts with
  | nil => simp [upToRaise]
  | cons turn ts ih =>
    rw [upToRaise]
    cases ts with
    | nil => simp [upToRaise]
    | cons turn' ts =>
      rw [List.dropLast_cons_cons, List.forall_mem_cons, ← ih]
      by_cases hraises : Raises handle turn
      · rw [if_pos hraises]
        simp [hraises]
      · rw [if_neg hraises]
        simp [hraises]

variable (handle) in
lemma sweepLoop_spec (s : σ) (items : List α) :
    (sweepLoop handle s items).turns = upToRaise handle (turns handle s items) ∧
      ((sweepLoop handle s items).raised.isSome ↔
        ∃ turn ∈ turns handle s items, Raises handle turn) ∧
      ((sweepLoop handle s items).raised = none →
        (sweepLoop handle s items).state = after handle s items) := by
  induction items generalizing s with
  | nil => exact ⟨rfl, by simp [sweepLoop, turns], fun _ => rfl⟩
  | cons a items ih =>
    rw [sweepLoop, turns, upToRaise]
    rcases hstep : handle s a with ⟨s', _ | e⟩
    · have hquiet : ¬ Raises handle (s, a) := by simp [Raises, hstep]
      obtain ⟨hturns, hraised, hstate⟩ := ih s'
      rw [if_neg hquiet]
      refine ⟨congrArg _ hturns, hraised.trans ?_, fun h => ?_⟩
      · simp [hquiet]
      · rw [after, List.foldl_cons, hstep]
        exact hstate h
    · have hraises : Raises handle (s, a) := by simp [Raises, hstep]
      rw [if_pos hraises]
      exact ⟨rfl, by simp [hraises], fun h => nomatch h⟩

/-- A sweep takes its turns up to the first that raises. -/
theorem sweep_turns (s : σ) (loops : List (σ → List α)) :
    (sweep handle s loops).turns = upToRaise handle (everyTurn handle s loops) := by
  induction loops generalizing s with
  | nil => rfl
  | cons loop loops ih =>
    obtain ⟨hturns, hraised, hstate⟩ := sweepLoop_spec handle s (loop s)
    rw [sweep, everyTurn]
    cases h : (sweepLoop handle s (loop s)).raised with
    | some e =>
      rw [upToRaise_append_of_raises (hraised.mp (by rw [h]; rfl))]
      exact hturns
    | none =>
      have hquiet : ∀ turn ∈ turns handle s (loop s), ¬ Raises handle turn := by
        intro turn hmem hturn
        have := hraised.mpr ⟨turn, hmem, hturn⟩
        rw [h] at this
        cases this
      rw [upToRaise_append_of_quiet hquiet]
      have hall : (sweepLoop handle s (loop s)).turns = turns handle s (loop s) := by
        rw [hturns, upToRaise_eq_self_iff]
        exact fun turn hmem => hquiet turn (List.dropLast_subset _ hmem)
      show (sweepLoop handle s (loop s)).turns ++ (sweep handle _ loops).turns = _
      rw [hall, ih, hstate h]

/-- A sweep that ends with its first exception gives every item its turn exactly when no item but
the last raises in the state it finds. -/
theorem sweep_turns_eq_iff (s : σ) (loops : List (σ → List α)) :
    (sweep handle s loops).turns = everyTurn handle s loops ↔
      ∀ turn ∈ (everyTurn handle s loops).dropLast, ¬ Raises handle turn := by
  rw [sweep_turns, upToRaise_eq_self_iff]

lemma item_mem_of_mem_turns {s : σ} {items : List α} {turn : σ × α}
    (h : turn ∈ turns handle s items) : turn.2 ∈ items := by
  induction items generalizing s with
  | nil => cases h
  | cons a items ih =>
    rcases List.mem_cons.mp h with rfl | hrest
    · exact List.mem_cons_self
    · exact List.mem_cons_of_mem _ (ih hrest)

variable (handle) in
lemma everyTurn_append (s : σ) (loops loops' : List (σ → List α)) :
    ∃ s', everyTurn handle s (loops ++ loops') =
      everyTurn handle s loops ++ everyTurn handle s' loops' := by
  induction loops generalizing s with
  | nil => exact ⟨s, rfl⟩
  | cons loop loops ih =>
    obtain ⟨s', hs'⟩ := ih (after handle s (loop s))
    exact ⟨s', by rw [List.cons_append, everyTurn, hs', everyTurn, List.append_assoc]⟩

/-- With a last loop that takes up something, and does not raise for it, it does not matter that the
last turn may raise. -/
theorem sweep_turns_eq_iff_of_last {s : σ} (loops : List (σ → List α)) {last : σ → List α}
    (hsome : ∀ s, last s ≠ []) (hquiet : ∀ s, ∀ a ∈ last s, ∀ s', ¬ Raises handle (s', a)) :
    (sweep handle s (loops ++ [last])).turns = everyTurn handle s (loops ++ [last]) ↔
      ∀ turn ∈ everyTurn handle s (loops ++ [last]), ¬ Raises handle turn := by
  rw [sweep_turns_eq_iff]
  obtain ⟨s', hs'⟩ := everyTurn_append handle s loops [last]
  have hlast : everyTurn handle s' [last] = turns handle s' (last s') := List.append_nil _
  have hne : turns handle s' (last s') ≠ [] := by
    cases h : last s' with
    | nil => exact absurd h (hsome s')
    | cons a items => exact List.cons_ne_nil _ _
  rw [hs', hlast, List.dropLast_append_of_ne_nil hne]
  constructor
  · intro h turn hmem
    rcases List.mem_append.mp hmem with hmem | hmem
    · exact h turn (List.mem_append_left _ hmem)
    · exact hquiet s' turn.2 (item_mem_of_mem_turns hmem) turn.1
  · intro h turn hmem
    rcases List.mem_append.mp hmem with hmem | hmem
    · exact h turn (List.mem_append_left _ hmem)
    · exact h turn (List.mem_append_right _ (List.dropLast_subset _ hmem))

end Sweep
