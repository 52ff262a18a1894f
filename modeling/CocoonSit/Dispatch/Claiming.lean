import CocoonSit.Dispatch.Base
import CocoonSit.Lib.Limited

/-!
# Which action a worker takes next

`_claim_next_ready_action` looks through the fifty oldest queued actions whose debounce window is
over, for one that no chat action of its target keeps waiting.  Chat actions are what keeps others
waiting: those queued before, and those that have been started, whenever they were queued.  Actions
of other kinds keep none.
-/

namespace CocoonSit

open Table

/-- The action is past its debounce window, and no chat action of its target keeps it waiting. -/
structure Startable (actions : List ActionDispatch) (now : Timestamp) (a : ActionDispatch) :
    Prop where
  mem : a ∈ actions
  ready : Ready now a
  first : ∀ prior ∈ actions, ¬ PriorUnfinishedChat a prior

variable {actions : List ActionDispatch} {now : Timestamp} {a b : ActionDispatch}

lemma startable_iff : Startable actions now a ↔
    a ∈ actions.filter (Ready now) ∧ hasPriorUnfinishedChatAction actions a = false := by
  rw [List.mem_filter, decide_eq_true_eq, hasPriorUnfinishedChatAction, List.any_eq_false]
  simp only [decide_eq_true_eq]
  constructor
  · exact fun h => ⟨⟨h.mem, h.ready⟩, h.first⟩
  · rintro ⟨⟨hmem, hready⟩, hfirst⟩
    exact ⟨hmem, hready, hfirst⟩

lemma fifty_of_not_candidate (ha : Startable actions now a)
    (hwaiting : ∀ b ∈ readyCandidates actions now, ¬ Startable actions now b) :
    50 ≤ (actions.filter fun b =>
      Ready now b ∧ hasPriorUnfinishedChatAction actions b ∧ b.queuedAt ≤ a.queuedAt).length := by
  have hmem := (startable_iff.mp ha).1
  have hnot : a ∉ readyCandidates actions now := fun h => hwaiting a h ha
  have hlong := length_le_filter_of_not_mem_take hmem hnot
    (q := hasPriorUnfinishedChatAction actions) fun b hb => by
      by_contra hfree
      have hb' := mem_orderBy.mp (List.mem_of_mem_take hb)
      exact hwaiting b hb (startable_iff.mpr ⟨hb', by simpa using hfree⟩)
  rw [List.filter_filter] at hlong
  refine hlong.trans_eq (congrArg List.length (List.filter_congr fun b _ => ?_))
  rw [← Bool.decide_and]
  exact decide_eq_decide.mpr ⟨fun ⟨⟨hwaits, hle⟩, hready⟩ => ⟨hready, hwaits, hle⟩,
    fun ⟨hready, hwaits, hle⟩ => ⟨⟨hwaits, hle⟩, hready⟩⟩

/-- The action taken is past its debounce window, is kept waiting by no chat action of its target,
and is as old as every action of which that is true.  None is taken only if every such action has
fifty queued before it that have to wait. -/
theorem nextReadyAction_oldest (actions : List ActionDispatch) (now : Timestamp) :
    (∀ a, nextReadyAction actions now = some a →
      Startable actions now a ∧ ∀ b, Startable actions now b → a.queuedAt ≤ b.queuedAt) ∧
    (nextReadyAction actions now = none → ∀ a, Startable actions now a →
      50 ≤ (actions.filter fun b =>
        Ready now b ∧ hasPriorUnfinishedChatAction actions b ∧
          b.queuedAt ≤ a.queuedAt).length) := by
  constructor
  · intro a h
    have hcandidate := List.mem_of_find?_eq_some h
    have hmem := mem_orderBy.mp (List.mem_of_mem_take hcandidate)
    refine ⟨startable_iff.mpr ⟨hmem, by simpa using List.find?_some h⟩, fun b hb => ?_⟩
    obtain ⟨hbmem, hbfree⟩ := startable_iff.mp hb
    by_cases hb' : b ∈ readyCandidates actions now
    · exact le_of_find?_eq_some ((pairwise_orderBy _ _).sublist (List.take_sublist _ _)) h hb'
        (by simp [hbfree])
    · exact le_of_not_mem_take hbmem hb' hcandidate
  · intro h a ha
    refine fifty_of_not_candidate ha fun b hb hstartable => ?_
    have hwaits := List.find?_eq_none.mp h b hb
    rw [(startable_iff.mp hstartable).2] at hwaits
    exact hwaits rfl

/-! ## Order among all actions of a target -/

/-- An action that has not ended. -/
def ActionDispatch.Unfinished (a : ActionDispatch) : Prop :=
  a.status = .queued ∨ a.status = .running

/-- The action is past its debounce window, and no action of its target that was queued before it is
unfinished. -/
def HasTurn (actions : List ActionDispatch) (now : Timestamp) (a : ActionDispatch) : Prop :=
  Ready now a ∧
    ∀ b ∈ actions, b.target = a.target → b.Unfinished → ¬ b.queuedAt < a.queuedAt

instance (a : ActionDispatch) : Decidable a.Unfinished := inferInstanceAs (Decidable (_ ∨ _))

instance (actions : List ActionDispatch) (now : Timestamp) (a : ActionDispatch) :
    Decidable (HasTurn actions now a) := inferInstanceAs (Decidable (_ ∧ ∀ _ ∈ _, _))

/-- One is taken exactly where there is one whose turn it is, whatever kind the others are of, and
it is such a one. -/
def TakesInOrder (actions : List ActionDispatch) (now : Timestamp) : Prop :=
  (nextReadyAction actions now).elim (∀ a ∈ actions, ¬ HasTurn actions now a) (HasTurn actions now)

instance (actions : List ActionDispatch) (now : Timestamp) :
    Decidable (TakesInOrder actions now) := by
  unfold TakesInOrder
  cases nextReadyAction actions now with
  | none => exact inferInstanceAs (Decidable (∀ a ∈ actions, ¬ HasTurn actions now a))
  | some a => exact inferInstanceAs (Decidable (HasTurn actions now a))

/-- An edit does not keep a later message of its cocoon waiting; a later message that runs does keep
an edit waiting. -/
def editAndChat (edit chat : ActionStatus) : List ActionDispatch :=
  [{ id := "edit", target := .cocoon "c1", eventType := .edit, status := edit, queuedAt := 0 },
    { id := "chat", target := .cocoon "c1", eventType := .chat, status := chat, queuedAt := 1,
      startedAt := if chat = .running then some 2 else none }]

/-- A running action, fifty that wait for it, and one of another cocoon. -/
def backlog : List ActionDispatch :=
  { id := "running", target := .cocoon "c1", eventType := .chat, status := .running, queuedAt := 0,
    startedAt := some 0 } ::
  (List.range 50).map (fun k =>
    { id := String.ofList (List.replicate (k + 1) 'w'), target := .cocoon "c1", eventType := .chat,
      queuedAt := k + 1 }) ++
  [{ id := "other", target := .cocoon "c2", eventType := .chat, queuedAt := 51 }]

theorem order_not_kept :
    ¬ TakesInOrder (editAndChat .running .queued) 5 ∧
    ¬ TakesInOrder (editAndChat .queued .running) 5 ∧ ¬ TakesInOrder backlog 60 := by
  decide +kernel

end CocoonSit
