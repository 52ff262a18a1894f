import CocoonSit.Dispatch.RequestId

/-!
# Editing user messages

`enqueue_user_message_edit` looks for an edit action with the key of the edit before it does
anything, and leaves the message alone when there is one.  The key is made of the message and the
new content, and the action it finds may be that of an earlier edit, with another one in between.
-/

namespace CocoonSit

open Table TransitionSystem

/-- `_build_debounce_key` for an edit. -/
def MessageDispatchService.editDebounceKey (svc : MessageDispatchService) (messageId : RowId)
    (content : String) : String :=
  "edit:" ++ svc.sha256Hex (debouncePayload [some messageId, some content])

/-- The rows that `_find_debounced_action` selects. -/
def Debounced (target : Target) (eventType : EventType) (now : Timestamp) (a : ActionDispatch) :
    Prop :=
  a.eventType = eventType ∧ (∃ until_ ∈ a.debounceUntil, now < until_) ∧ a.target = target

instance (target : Target) (eventType : EventType) (now : Timestamp) (a : ActionDispatch) :
    Decidable (Debounced target eventType now a) :=
  inferInstanceAs (Decidable (_ ∧ _ ∧ _))

/-- `_find_debounced_action`: the latest with the key, if it is among the latest ten. -/
def findDebouncedAction (actions : List ActionDispatch) (target : Target) (eventType : EventType)
    (debounceKey : String) (now : Timestamp) : Option ActionDispatch :=
  ((orderBy (fun a => OrderDual.toDual a.queuedAt)
    (actions.filter (Debounced target eventType now))).take 10).find? fun a =>
      a.payloadJson.isStr "debounce_key" debounceKey

namespace Edits

structure State where
  db : Db
  /-- The ids of the actions that have been put into the chat queue. -/
  queue : List RowId := []

inductive Event where
  | edit (messageId : RowId) (content : String) (newId : RowId) (now : Timestamp)
  /-- A worker changes an action's status. -/
  | progress (actionId : RowId) (status : ActionStatus) (startedAt finishedAt : Option Timestamp)

/-- The action that `enqueue_user_message_edit` creates. -/
def editAction (svc : MessageDispatchService) (cocoonId messageId : RowId) (content : String)
    (newId : RowId) (now : Timestamp) : ActionDispatch where
  id := newId
  target := .cocoon cocoonId
  eventType := .edit
  debounceUntil := some (svc.debounceUntil (.cocoon cocoonId) now)
  payloadJson := .ofList
    [("message_id", .str messageId), ("debounce_key", .str (svc.editDebounceKey messageId content))]
  queuedAt := now

/-- `enqueue_user_message_edit`: the state it leaves and the action it returns. -/
def enqueueUserMessageEdit (svc : MessageDispatchService) (cocoonId : RowId) (message : Message)
    (content : String) (newId : RowId) (now : Timestamp) (s : State) : State × ActionDispatch :=
  match findDebouncedAction s.db.actions (.cocoon cocoonId) .edit
      (svc.editDebounceKey message.id content) now with
  | some existingDebounced => (s, existingDebounced)
  | none =>
    let action := editAction svc cocoonId message.id content newId now
    ({ db := { s.db with
         messages := update s.db.messages message.id fun row => { row with content := content }
         actions := s.db.actions ++ [action] }
       queue := s.queue ++ [action.id] }, action)

/-- The route answers 404 for what is no user message of a cocoon. -/
def step (svc : MessageDispatchService) (s : State) : Event → Option State
  | .edit messageId content newId now =>
    match get s.db.messages messageId with
    | none => none
    | some message =>
      match message.target, message.role with
      | .cocoon cocoonId, .user =>
        if newId ∈ s.db.actions.map key then none
        else some (enqueueUserMessageEdit svc cocoonId message content newId now s).1
      | _, _ => none
  | .progress actionId status startedAt finishedAt =>
    some { s with db := { s.db with
      actions := update s.db.actions actionId
        (RequestId.progressRow status startedAt finishedAt) } }

def Event.messageId? : Event → Option RowId
  | .edit messageId _ _ _ => some messageId
  | _ => none

/-! ## What an edit is for -/

variable {svc : MessageDispatchService} {s s' : State} {messageId : RowId} {content : String}

def contentOf (s : State) (messageId : RowId) : Option String :=
  (get s.db.messages messageId).map Message.content

/-- An edit action for a content of a message. -/
def Covers (svc : MessageDispatchService) (messageId : RowId) (content : String)
    (a : ActionDispatch) : Prop :=
  a.eventType = .edit ∧ a.payloadJson.isStr "message_id" messageId = true ∧
    a.payloadJson.isStr "debounce_key" (svc.editDebounceKey messageId content) = true

/-- An action for the content has been enqueued. -/
def Covered (svc : MessageDispatchService) (s : State) (messageId : RowId) (content : String) :
    Prop :=
  ∃ a ∈ s.db.actions, Covers svc messageId content a ∧ a.id ∈ s.queue

/-- The message has the content, and an edit action has been enqueued for it. -/
def Applied (svc : MessageDispatchService) (s : State) (messageId : RowId) (content : String) :
    Prop :=
  contentOf s messageId = some content ∧ Covered svc s messageId content

/-- The edit finds no action with its key, or it is applied already. -/
def TakesEffect (svc : MessageDispatchService) (s : State) (messageId : RowId) (content : String)
    (now : Timestamp) : Prop :=
  (∀ message, get s.db.messages messageId = some message →
    findDebouncedAction s.db.actions message.target .edit (svc.editDebounceKey messageId content)
      now = none) ∨
  Applied svc s messageId content

lemma covers_editAction (cocoonId newId : RowId) (now : Timestamp) :
    Covers svc messageId content (editAction svc cocoonId messageId content newId now) :=
  ⟨rfl, by simp [editAction, JsonDict.ofList, JsonDict.isStr],
    by simp [editAction, JsonDict.ofList, JsonDict.isStr]⟩

lemma eq_of_covers_editAction {cocoonId newId messageId' : RowId} {content' : String}
    {now : Timestamp}
    (h : Covers svc messageId content (editAction svc cocoonId messageId' content' newId now)) :
    messageId' = messageId := by
  simpa [editAction, JsonDict.ofList, JsonDict.isStr] using h.2.1

lemma step_edit_spec {newId : RowId} {now : Timestamp}
    (h : step svc s (.edit messageId content newId now) = some s') :
    ∃ message cocoonId, get s.db.messages messageId = some message ∧
      message.target = .cocoon cocoonId ∧
      ((∃ a, findDebouncedAction s.db.actions message.target .edit
            (svc.editDebounceKey messageId content) now = some a ∧ s' = s) ∨
        (findDebouncedAction s.db.actions message.target .edit
            (svc.editDebounceKey messageId content) now = none ∧
          newId ∉ s.db.actions.map key ∧
          s' = { db := { s.db with
                   messages := update s.db.messages messageId fun row =>
                     { row with content := content }
                   actions := s.db.actions ++
                     [editAction svc cocoonId messageId content newId now] }
                 queue := s.queue ++ [newId] })) := by
  cases hm : get s.db.messages messageId with
  | none => simp [step, hm] at h
  | some message =>
    have hid : message.id = messageId := key_of_get hm
    subst hid
    cases htarget : message.target with
    | chatGroup roomId => simp [step, hm, htarget] at h
    | cocoon cocoonId =>
      cases hrole : message.role <;> simp only [step, hm, htarget, hrole, reduceCtorEq] at h
      split at h
      · cases h
      · next hnew =>
        refine ⟨message, cocoonId, rfl, htarget, ?_⟩
        rw [← Option.some.inj h, enqueueUserMessageEdit, htarget]
        cases hfind : findDebouncedAction s.db.actions (.cocoon cocoonId) .edit
            (svc.editDebounceKey message.id content) now with
        | some a => exact .inl ⟨a, rfl, rfl⟩
        | none => exact .inr ⟨rfl, hnew, rfl⟩

lemma applied_step_iff {newId : RowId} {now : Timestamp}
    (h : step svc s (.edit messageId content newId now) = some s') :
    Applied svc s' messageId content ↔ TakesEffect svc s messageId content now := by
  obtain ⟨message, cocoonId, hm, htarget, ⟨a, hfind, rfl⟩ | ⟨hfind, hnew, rfl⟩⟩ :=
    step_edit_spec h
  · refine ⟨.inr, fun heffect => heffect.resolve_left fun hnone => ?_⟩
    rw [hnone message hm] at hfind
    cases hfind
  · refine iff_of_true ⟨?_, editAction svc cocoonId messageId content newId now, by simp,
      covers_editAction cocoonId newId now, by simp [editAction]⟩ (.inl fun message' hm' => ?_)
    · rw [contentOf, get_update (by exact fun _ => rfl), hm, Option.map_some, Option.map_some,
        if_pos (key_of_get hm)]
    · rw [← Option.some.inj (hm.symm.trans hm')]
      exact hfind

lemma applied_step_other {e : Event} (he : e.messageId? ≠ some messageId)
    (h : step svc s e = some s') :
    Applied svc s' messageId content ↔ Applied svc s messageId content := by
  cases e with
  | edit messageId' content' newId now =>
    have hne : messageId' ≠ messageId := fun heq => he (congrArg some heq)
    obtain ⟨message, cocoonId, hm, htarget, ⟨a, hfind, rfl⟩ | ⟨hfind, hnew, rfl⟩⟩ :=
      step_edit_spec h
    · rfl
    · refine and_congr ?_ ?_
      · rw [contentOf, get_update (by exact fun _ => rfl), contentOf]
        cases hrow : get s.db.messages messageId with
        | none => rfl
        | some row =>
          have hkey : ¬ key row = messageId' := by
            rw [key_of_get hrow]
            exact hne.symm
          rw [Option.map_some, if_neg hkey]
      · constructor
        · rintro ⟨a, ha, hcovers, hqueue⟩
          have hold : a ∈ s.db.actions := by
            refine (List.mem_append.mp ha).resolve_right fun hnewAction => ?_
            rw [List.mem_singleton.mp hnewAction] at hcovers
            exact hne (eq_of_covers_editAction hcovers)
          refine ⟨a, hold, hcovers, (List.mem_append.mp hqueue).resolve_right fun hid => hnew ?_⟩
          rw [← List.mem_singleton.mp hid]
          exact List.mem_map_of_mem hold
        · rintro ⟨a, ha, hcovers, hqueue⟩
          exact ⟨a, List.mem_append_left _ ha, hcovers, List.mem_append_left _ hqueue⟩
  | progress actionId status startedAt finishedAt =>
    cases h
    refine and_congr_right fun _ => ?_
    -- a worker changes neither what an action is for nor its id
    constructor
    · rintro ⟨a, ha, hcovers, hqueue⟩
      obtain ⟨row, hrow, -, rfl⟩ | ⟨ha, -⟩ := mem_update.mp ha
      · exact ⟨row, hrow, hcovers, hqueue⟩
      · exact ⟨a, ha, hcovers, hqueue⟩
    · rintro ⟨a, ha, hcovers, hqueue⟩
      by_cases hid : key a = actionId
      · exact ⟨_, mem_update.mpr (.inl ⟨a, ha, hid, rfl⟩), hcovers, hqueue⟩
      · exact ⟨a, mem_update.mpr (.inr ⟨ha, hid⟩), hcovers, hqueue⟩

/-- After a sequence, the last edit of a message is applied, if and only if it took effect when it
was submitted. -/
theorem last_edit_applied_iff {before after : List Event} {s₀ s₁ : State} {newId : RowId}
    {now : Timestamp} (hbefore : run (step svc) s₀ before = some s₁)
    (hrun : run (step svc) s₀ (before ++ .edit messageId content newId now :: after) = some s)
    (hlast : ∀ e ∈ after, e.messageId? ≠ some messageId) :
    Applied svc s messageId content ↔ TakesEffect svc s₁ messageId content now := by
  rw [run_append, hbefore, Option.bind_some] at hrun
  obtain ⟨s₂, hedit, hafter⟩ := run_cons_eq_some.mp hrun
  rw [← applied_step_iff hedit]
  clear hrun hedit hbefore
  induction after generalizing s₂ with
  | nil =>
    cases hafter
    rfl
  | cons e after ih =>
    obtain ⟨s₃, he, hrest⟩ := run_cons_eq_some.mp hafter
    obtain ⟨hother, hlast⟩ := List.forall_mem_cons.mp hlast
    exact (ih hlast s₃ hrest).trans (applied_step_other hother he)

/-- A user message and no actions. -/
def oneMessage : State where
  db := { messages := [{ id := "m", target := .cocoon "c", role := .user, content := "hello"
                         createdAt := 0 }] }

/-- Within two seconds a message is edited, edited again, and edited back. -/
def editedBack : List Event :=
  [.edit "m" "first" "a1" 0, .edit "m" "second" "a2" 500000, .edit "m" "first" "a3" 1000000]

theorem edit_applied :
    ∃ s, run (step RequestId.plainService) oneMessage [.edit "m" "first" "a1" 0] = some s ∧
      Applied RequestId.plainService s "m" "first" := by
  have hbefore : run (step RequestId.plainService) oneMessage [] = some oneMessage := rfl
  have hrun : ∃ s, run (step RequestId.plainService) oneMessage
      ([] ++ [.edit "m" "first" "a1" 0]) = some s := ⟨_, rfl⟩
  have hafter : ∀ e ∈ ([] : List Event), e.messageId? ≠ some "m" := by simp
  obtain ⟨s, hs⟩ := hrun
  exact ⟨s, hs, (last_edit_applied_iff hbefore hs hafter).mpr (.inl (by decide))⟩

/-- The last edit finds the action of the first, and the message keeps the content of the
second. -/
theorem editedBack_lost :
    ∃ s, run (step RequestId.plainService) oneMessage editedBack = some s ∧
      contentOf s "m" = some "second" ∧ ¬ Applied RequestId.plainService s "m" "first" := by
  refine ⟨_, rfl, by decide, fun h => absurd h.1 (by decide)⟩

end Edits

end CocoonSit
