import CocoonSit.Model.Entities
import CocoonSit.Model.Python

/-!
# Action dispatches: the shared queries

The queries of `MessageDispatchBase` over the table of action dispatches: which action answers a
client request id, which queued chat action new messages join, and which action a worker takes
next.
-/

namespace CocoonSit

open Table

/-- `_find_action_for_client_request_id`: by the action's own id, else through the message that
carries it. -/
def findActionForClientRequestId (db : Db) (clientRequestId : String) : Option ActionDispatch :=
  match db.actions.find? fun a => a.clientRequestId = some clientRequestId with
  | some existing => some existing
  | none =>
    match (db.messages.find? fun m => m.clientRequestId = some clientRequestId).bind
        Message.actionId with
    | none => none
    | some messageActionId => get db.actions messageActionId

/-- The text `_build_debounce_key` hashes. -/
def debouncePayload (parts : List (Option String)) : String :=
  String.intercalate "|" (parts.map fun part => strip (part.getD ""))

/-- The actions `_find_pending_chat_action` selects. -/
def PendingChat (target : Target) (a : ActionDispatch) : Prop :=
  a.eventType = .chat ∧ a.status = .queued ∧ a.target = target

instance (target : Target) (a : ActionDispatch) : Decidable (PendingChat target a) :=
  inferInstanceAs (Decidable (_ ∧ _ ∧ _))

/-- `_find_pending_chat_action`: the latest queued chat action of the target. -/
def findPendingChatAction (actions : List ActionDispatch) (target : Target) :
    Option ActionDispatch :=
  (orderBy (fun a => OrderDual.toDual a.queuedAt) (actions.filter (PendingChat target))).head?

/-! ## Claiming -/

/-- The candidates of `_claim_next_ready_action`: queued, debounce window over. -/
def Ready (now : Timestamp) (a : ActionDispatch) : Prop :=
  a.status = .queued ∧ a.debounceUntil.all fun until_ => until_ ≤ now

instance (now : Timestamp) (a : ActionDispatch) : Decidable (Ready now a) :=
  inferInstanceAs (Decidable (_ ∧ _))

/-- `prior` is an unfinished chat action of the same target that goes before `a`: queued earlier,
or started already. -/
def PriorUnfinishedChat (a prior : ActionDispatch) : Prop :=
  prior.target = a.target ∧ prior.eventType = .chat ∧
    (prior.status = .queued ∨ prior.status = .running) ∧ prior.id ≠ a.id ∧
    (prior.queuedAt < a.queuedAt ∨ prior.startedAt.isSome)

instance (a prior : ActionDispatch) : Decidable (PriorUnfinishedChat a prior) :=
  inferInstanceAs (Decidable (_ ∧ _ ∧ _ ∧ _ ∧ _))

def hasPriorUnfinishedChatAction (actions : List ActionDispatch) (a : ActionDispatch) : Bool :=
  actions.any fun prior => PriorUnfinishedChat a prior

/-- The candidates a worker loads, oldest first. -/
def readyCandidates (actions : List ActionDispatch) (now : Timestamp) : List ActionDispatch :=
  (orderBy ActionDispatch.queuedAt (actions.filter (Ready now))).take 50

/-- The loop of `_claim_next_ready_action`: the first candidate without a prior unfinished chat
action. -/
def nextReadyAction (actions : List ActionDispatch) (now : Timestamp) : Option ActionDispatch :=
  (readyCandidates actions now).find? fun a => !hasPriorUnfinishedChatAction actions a

/-- What the claim writes: `started_at` only when it was unset, as the claiming session read it. -/
def ActionDispatch.claimed (seen : ActionDispatch) (now : Timestamp) (row : ActionDispatch) :
    ActionDispatch :=
  { row with status := .running, startedAt := some (seen.startedAt.getD now) }

@[simp] lemma ActionDispatch.claimed_id (seen : ActionDispatch) (now : Timestamp)
    (row : ActionDispatch) : (seen.claimed now row).id = row.id := rfl

@[simp] lemma ActionDispatch.claimed_target (seen : ActionDispatch) (now : Timestamp)
    (row : ActionDispatch) : (seen.claimed now row).target = row.target := rfl

@[simp] lemma ActionDispatch.claimed_status (seen : ActionDispatch) (now : Timestamp)
    (row : ActionDispatch) : (seen.claimed now row).status = .running := rfl

lemma findPendingChatAction_spec {actions : List ActionDispatch} {target : Target}
    {a : ActionDispatch} (h : findPendingChatAction actions target = some a) :
    a ∈ actions ∧ PendingChat target a := by
  have hmem := List.mem_of_mem_head? h
  rw [mem_orderBy, List.mem_filter] at hmem
  exact ⟨hmem.1, of_decide_eq_true hmem.2⟩

lemma nextReadyAction_spec {actions : List ActionDispatch} {now : Timestamp}
    {a : ActionDispatch} (h : nextReadyAction actions now = some a) :
    a ∈ actions ∧ a.status = .queued ∧ ∀ prior ∈ actions, ¬ PriorUnfinishedChat a prior := by
  have hmem := List.mem_of_mem_take (List.mem_of_find?_eq_some h)
  rw [mem_orderBy, List.mem_filter] at hmem
  have hprior := List.find?_some h
  simp only [hasPriorUnfinishedChatAction, Bool.not_eq_true', List.any_eq_false,
    decide_eq_true_eq] at hprior
  exact ⟨hmem.1, (of_decide_eq_true hmem.2).1, hprior⟩

end CocoonSit
