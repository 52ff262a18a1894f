import CocoonSit.Dispatch.Enqueue
import CocoonSit.Lib.FirstWins
import CocoonSit.Lib.Run

/-!
# Client request ids

A client sends a `client_request_id` with every message so that a repeated submission finds the
action of the first one.  `_find_action_for_client_request_id` looks the id up among the actions
and then among the messages, and not within the target of the call.  Over a sequence of enqueue
calls the lookup therefore behaves as a first-write-wins map from request ids to targets
(`enqueueChat_asks`): no id ever gets a second message, and every call is answered with an
action of its own target exactly when no id is used for a second target.

Between the calls anything may happen that leaves request ids alone: workers move actions
through their statuses, retries and runtime rounds insert actions and messages.
-/

namespace CocoonSit

open Table TransitionSystem

namespace RequestId

/-- What a call asked for and the target of the action it returned. -/
structure Answer where
  asked : Target
  answered : Target
deriving DecidableEq, Repr

structure State where
  db : Db
  answers : List Answer := []

inductive Event where
  /-- `enqueue_chat_message` or `enqueue_chat_group_message`, by the kind of the target. -/
  | call (target : Target) (sub : ChatSubmission) (keys : NewKeys) (now : Timestamp)
  /-- A worker changes an action's status. -/
  | progress (actionId : RowId) (status : ActionStatus) (startedAt finishedAt : Option Timestamp)
  /-- An action without a request id: a retry, an edit, a durable round. -/
  | otherAction (action : ActionDispatch)
  /-- A message without a request id: a thought or a reply. -/
  | otherMessage (message : Message)

def progressRow (status : ActionStatus) (startedAt finishedAt : Option Timestamp)
    (a : ActionDispatch) : ActionDispatch :=
  { a with status := status, startedAt := startedAt, finishedAt := finishedAt }

def step (svc : MessageDispatchService) (s : State) : Event → Option State
  | .call target sub keys now =>
    if keys.actionId ∈ s.db.actions.map key ∨ keys.messageId ∈ s.db.messages.map key then none
    else match svc.enqueueChat s.db target sub keys now with
      | .error _ => some s
      | .ok (db, action) => some { db := db, answers := ⟨target, action.target⟩ :: s.answers }
  | .progress actionId status startedAt finishedAt =>
    some { s with db := { s.db with
      actions := update s.db.actions actionId (progressRow status startedAt finishedAt) } }
  | .otherAction action =>
    if action.clientRequestId.isSome ∨ action.id ∈ s.db.actions.map key then none
    else some { s with db := { s.db with actions := s.db.actions ++ [action] } }
  | .otherMessage message =>
    if message.clientRequestId.isSome ∨ message.id ∈ s.db.messages.map key then none
    else some { s with db := insertMessage s.db message }

/-- The request ids and targets of the calls, in order. -/
def requests (es : List Event) : List (String × Target) :=
  es.filterMap fun e => match e with
    | .call target sub _ _ => some (sub.clientRequestId, target)
    | _ => none

/-- The target's row exists. -/
def TargetExists (db : Db) (target : Target) : Prop := (targetCharacter db target).isSome

/-- No request id is used for two targets, the first of them existing. -/
def NoSharedRequestId (db : Db) (reqs : List (String × Target)) : Prop :=
  reqs.Pairwise fun r r' => r.1 = r'.1 → TargetExists db r.2 → r.2 = r'.2

/-- No request id has a second message, and every call was answered with an action of its own
target. -/
structure Correct (s : State) : Prop where
  once : (s.db.messages.filterMap Message.clientRequestId).Nodup
  answers : ∀ a ∈ s.answers, a.answered = a.asked

instance (db : Db) (target : Target) : Decidable (TargetExists db target) :=
  inferInstanceAs (Decidable (Option.isSome _ = true))

instance (db : Db) (reqs : List (String × Target)) : Decidable (NoSharedRequestId db reqs) :=
  inferInstanceAs (Decidable (List.Pairwise _ _))

instance (s : State) : Decidable (Correct s) :=
  decidable_of_iff ((s.db.messages.filterMap Message.clientRequestId).Nodup ∧
    ∀ a ∈ s.answers, a.answered = a.asked) ⟨fun h => ⟨h.1, h.2⟩, fun h => ⟨h.once, h.answers⟩⟩

/-! ## The lookup as a map from request ids to targets -/

/-- The target of the action a request id finds. -/
def requestOwner (db : Db) (clientRequestId : String) : Option Target :=
  (findActionForClientRequestId db clientRequestId).map ActionDispatch.target

/-- Actions have distinct keys, a message with a request id is on an action, and no two messages
share one. -/
structure Linked (db : Db) : Prop where
  keys : (db.actions.map key).Nodup
  onAction : ∀ m ∈ db.messages, m.clientRequestId.isSome →
    ∃ id, m.actionId = some id ∧ id ∈ db.actions.map key
  once : (db.messages.filterMap Message.clientRequestId).Nodup

lemma fresh_of_requestOwner_none {db : Db} (hl : Linked db) {c : String}
    (h : findActionForClientRequestId db c = none) :
    (db.actions.find? fun a => a.clientRequestId = some c) = none ∧
      (db.messages.find? fun m => m.clientRequestId = some c) = none := by
  unfold findActionForClientRequestId at h
  split at h
  · cases h
  · next ha =>
    refine ⟨ha, ?_⟩
    by_contra hm
    obtain ⟨m, hm⟩ := Option.ne_none_iff_exists'.mp hm
    have hmc : m.clientRequestId = some c := by simpa using List.find?_some hm
    obtain ⟨id, hid, hmem⟩ := hl.onAction m (List.mem_of_find?_eq_some hm) (by simp [hmc])
    simp only [hm, Option.bind_some, hid] at h
    exact get_eq_none_iff.mp h hmem

lemma find_of_message {db : Db} {c : String} {m : Message} {id : RowId}
    (ha : (db.actions.find? fun a => a.clientRequestId = some c) = none)
    (hm : (db.messages.find? fun m => m.clientRequestId = some c) = some m)
    (hid : m.actionId = some id) :
    findActionForClientRequestId db c = get db.actions id := by
  simp [findActionForClientRequestId, ha, hm, hid]

lemma find_congr {db : Db} (hl : Linked db) (db' : Db) (c : String)
    (f : ActionDispatch → ActionDispatch)
    (ha : (db'.actions.find? fun a => a.clientRequestId = some c) =
      (db.actions.find? fun a => a.clientRequestId = some c).map f)
    (hm : (db'.messages.find? fun m => m.clientRequestId = some c) =
      db.messages.find? fun m => m.clientRequestId = some c)
    (hget : ∀ id ∈ db.actions.map key, get db'.actions id = (get db.actions id).map f) :
    findActionForClientRequestId db' c = (findActionForClientRequestId db c).map f := by
  simp only [findActionForClientRequestId, ha, hm]
  cases hact : db.actions.find? fun a => a.clientRequestId = some c with
  | some a => rfl
  | none =>
    cases hmsg : db.messages.find? fun m => m.clientRequestId = some c with
    | none => rfl
    | some m =>
      have hmc : m.clientRequestId = some c := by simpa using List.find?_some hmsg
      obtain ⟨id, hid, hmem⟩ := hl.onAction m (List.mem_of_find?_eq_some hmsg) (by simp [hmc])
      simp only [Option.map_none, Option.bind_some, hid]
      exact hget id hmem

/-! ## Steps that leave request ids alone -/

lemma requestOwner_update {db : Db} (hl : Linked db) (id : RowId)
    (f : ActionDispatch → ActionDispatch) (hkey : ∀ a, (f a).id = a.id)
    (hreq : ∀ a, (f a).clientRequestId = a.clientRequestId)
    (htarget : ∀ a, (f a).target = a.target) :
    requestOwner { db with actions := update db.actions id f } = requestOwner db := by
  funext c
  have h := find_congr hl { db with actions := update db.actions id f } c _
    (find?_update fun a => by rw [hreq]) rfl fun id' _ => get_update hkey
  rw [requestOwner, h, Option.map_map, requestOwner]
  congr 1
  funext a
  simp only [Function.comp_apply]
  split
  · exact htarget a
  · rfl

lemma linked_update {db : Db} (hl : Linked db) (id : RowId)
    {f : ActionDispatch → ActionDispatch} (hkey : ∀ a, key (f a) = key a) :
    Linked { db with actions := update db.actions id f } := by
  refine ⟨by rw [map_key_update hkey]; exact hl.keys, fun m hm hc => ?_, hl.once⟩
  obtain ⟨aid, haid, hmem⟩ := hl.onAction m hm hc
  exact ⟨aid, haid, by rwa [map_key_update hkey]⟩

lemma find_append_action {db : Db} (hl : Linked db) {a : ActionDispatch} {c : String}
    (hc : a.clientRequestId ≠ some c) :
    findActionForClientRequestId { db with actions := db.actions ++ [a] } c =
      findActionForClientRequestId db c := by
  have h := find_congr hl { db with actions := db.actions ++ [a] } c id
    (by simp [List.find?_append, hc]) rfl
    fun id' hid' => by rw [get_append_of_mem hid', Option.map_id_fun, id]
  rw [h, Option.map_id_fun, id]

lemma find_append_message (db : Db) {m : Message} {c : String} {tags : List MessageTag}
    (hc : m.clientRequestId ≠ some c) :
    findActionForClientRequestId { db with messages := db.messages ++ [m], messageTags := tags } c =
      findActionForClientRequestId db c := by
  have h : ((db.messages ++ [m]).find? fun m => m.clientRequestId = some c) =
      db.messages.find? fun m => m.clientRequestId = some c := by
    simp [List.find?_append, hc]
  simp only [findActionForClientRequestId, h]

lemma linked_append_action {db : Db} (hl : Linked db) {a : ActionDispatch}
    (ha : a.id ∉ db.actions.map key) : Linked { db with actions := db.actions ++ [a] } := by
  refine ⟨?_, fun m hm hc => ?_, hl.once⟩
  · rw [List.map_append]
    exact hl.keys.append (by simp) (by simpa using ha)
  obtain ⟨aid, haid, hmem⟩ := hl.onAction m hm hc
  exact ⟨aid, haid, by rw [List.map_append]; exact List.mem_append_left _ hmem⟩

/-! ## Enqueue calls -/

lemma enqueueChat_cases (svc : MessageDispatchService) {db : Db} (hl : Linked db)
    (target : Target) (sub : ChatSubmission) (keys : NewKeys) (now : Timestamp) :
    (∃ existing, findActionForClientRequestId db sub.clientRequestId = some existing ∧
      svc.enqueueChat db target sub keys now = .ok (db, existing)) ∨
    (findActionForClientRequestId db sub.clientRequestId = none ∧ ¬ TargetExists db target ∧
      svc.enqueueChat db target sub keys now = .error (.valueError (targetNotFound target))) ∨
    (findActionForClientRequestId db sub.clientRequestId = none ∧ TargetExists db target ∧
      ∃ pending, (∀ p ∈ pending, p ∈ db.actions ∧ PendingChat target p) ∧
        svc.enqueueChat db target sub keys now =
          .ok (svc.commitChat db target pending sub keys now)) := by
  cases hfind : findActionForClientRequestId db sub.clientRequestId with
  | some existing =>
    left
    exact ⟨existing, rfl, by simp [MessageDispatchService.enqueueChat,
      MessageDispatchService.planChat, hfind]⟩
  | none =>
    right
    have hfresh := (fresh_of_requestOwner_none hl hfind).2
    have hunique : (db.messages.any fun m => m.clientRequestId = some sub.clientRequestId) =
        false := by
      rw [List.find?_eq_none] at hfresh
      rw [List.any_eq_false]
      exact hfresh
    by_cases hex : TargetExists db target
    · right
      have hnn : (targetCharacter db target).isNone = false := by
        rw [← Option.not_isSome, hex]
        rfl
      refine ⟨rfl, hex, ?_⟩
      by_cases hsec : 0 < svc.currentDebounceSeconds target
      · cases hpend : findPendingChatAction db.actions target with
        | some p =>
          refine ⟨some p, ?_, ?_⟩
          · rintro p' ⟨⟩
            exact findPendingChatAction_spec hpend
          · simp [MessageDispatchService.enqueueChat, MessageDispatchService.planChat, hfind,
              hnn, hsec, hpend, hunique]
        | none =>
          refine ⟨none, by simp, ?_⟩
          simp [MessageDispatchService.enqueueChat, MessageDispatchService.planChat, hfind,
            hnn, hsec, hpend, hunique]
      · refine ⟨none, by simp, ?_⟩
        simp [MessageDispatchService.enqueueChat, MessageDispatchService.planChat, hfind, hnn,
          hsec, hunique]
    · left
      have hnn : (targetCharacter db target).isNone = true := by
        simpa [TargetExists] using hex
      exact ⟨rfl, hex, by simp [MessageDispatchService.enqueueChat,
        MessageDispatchService.planChat, hfind, hnn]⟩

lemma linked_append_message {db : Db} (hl : Linked db) (tags : List MessageTag) {m : Message}
    (hnew : ∀ c ∈ m.clientRequestId, (db.messages.find? fun m => m.clientRequestId = some c) = none)
    (hid : m.clientRequestId.isSome → ∃ id, m.actionId = some id ∧ id ∈ db.actions.map key) :
    Linked { db with messages := db.messages ++ [m], messageTags := tags } := by
  refine ⟨hl.keys, fun m' hm' hc => ?_, ?_⟩
  · rcases List.mem_append.mp hm' with hm' | hm'
    · exact hl.onAction m' hm' hc
    · rw [List.mem_singleton.mp hm'] at hc ⊢
      exact hid hc
  · rw [List.filterMap_append]
    cases hc : m.clientRequestId with
    | none => simpa [hc] using hl.once
    | some c =>
      have hnot : c ∉ db.messages.filterMap Message.clientRequestId := by
        intro h
        obtain ⟨m', hm', hmc⟩ := List.mem_filterMap.mp h
        exact List.find?_eq_none.mp (hnew c hc) m' hm' (by simp [hmc])
      simpa [hc] using List.nodup_append.mpr
        ⟨hl.once, List.nodup_singleton c, fun x hx y hy heq =>
          hnot (List.mem_singleton.mp hy ▸ heq ▸ hx)⟩

lemma requestOwner_congr (db : Db) {db' : Db} (ha : db'.actions = db.actions)
    (hm : db'.messages = db.messages) : requestOwner db' = requestOwner db := by
  funext c
  simp only [requestOwner, findActionForClientRequestId, ha, hm]

lemma linked_congr {db db' : Db} (hl : Linked db) (ha : db'.actions = db.actions)
    (hm : db'.messages = db.messages) : Linked db' := by
  refine ⟨?_, ?_, ?_⟩
  · rw [ha]
    exact hl.keys
  · rw [ha, hm]
    exact hl.onAction
  · rw [hm]
    exact hl.once

section Commit

variable (svc : MessageDispatchService) {db : Db} (target : Target) {sub : ChatSubmission}
  {keys : NewKeys} (now : Timestamp)

lemma commit_create (hl : Linked db)
    (hfind : findActionForClientRequestId db sub.clientRequestId = none)
    (hkey : keys.actionId ∉ db.actions.map key) :
    Linked (svc.commitChat db target none sub keys now).1 ∧
      requestOwner (svc.commitChat db target none sub keys now).1 =
        Function.update (requestOwner db) sub.clientRequestId (some target) := by
  obtain ⟨hnoact, hnomsg⟩ := fresh_of_requestOwner_none hl hfind
  have hactions := commitChat_create_actions svc db target sub keys now
  have hmessages := commitChat_messages svc db target none sub keys now
  set action := (svc.commitChat db target none sub keys now).2 with haction
  set message := svc.chatMessage db target none sub keys now with hmessage
  have hl₁ : Linked { db with actions := db.actions ++ [action] } :=
    linked_append_action hl (by simpa [haction, commitChat_create_id] using hkey)
  refine ⟨?_, ?_⟩
  · refine linked_congr (linked_append_message hl₁ [] ?_ ?_) hactions hmessages
    · rintro c hc
      cases hc
      exact hnomsg
    · intro _
      exact ⟨action.id, chatMessage_actionId svc db target none sub keys now, by simp⟩
  · rw [requestOwner_congr
      { db with actions := db.actions ++ [action], messages := db.messages ++ [message] }
      hactions hmessages]
    funext c
    by_cases hc : c = sub.clientRequestId
    · subst hc
      have hfound : ((db.actions ++ [action]).find? fun a =>
          a.clientRequestId = some sub.clientRequestId) = some action := by
        rw [List.find?_append, hnoact]
        simp [haction, commitChat_create_clientRequestId]
      rw [Function.update_self, requestOwner, findActionForClientRequestId, hfound]
      rfl
    · rw [Function.update_of_ne hc, requestOwner, requestOwner]
      congr 1
      refine (find_append_message { db with actions := db.actions ++ [action] } ?_).trans
        (find_append_action hl ?_)
      · simpa [hmessage] using Ne.symm hc
      · simpa [haction, commitChat_create_clientRequestId] using Ne.symm hc

lemma commit_aggregate (keys : NewKeys) (hl : Linked db)
    (hfind : findActionForClientRequestId db sub.clientRequestId = none)
    {pending : ActionDispatch} (hmem : pending ∈ db.actions)
    (hpending : PendingChat target pending) :
    Linked (svc.commitChat db target (some pending) sub keys now).1 ∧
      requestOwner (svc.commitChat db target (some pending) sub keys now).1 =
        Function.update (requestOwner db) sub.clientRequestId (some target) := by
  obtain ⟨hnoact, hnomsg⟩ := fresh_of_requestOwner_none hl hfind
  have hactions := commitChat_aggregate_actions svc db target sub keys now pending
  have hmessages := commitChat_messages svc db target (some pending) sub keys now
  have hid := chatMessage_actionId svc db target (some pending) sub keys now
  rw [commitChat_aggregate_id] at hid
  set message := svc.chatMessage db target (some pending) sub keys now with hmessage
  generalize svc.debounceUntil target now = until_ at hactions
  generalize svc.chatPayload db target (some pending) sub keys now = payload at hactions
  set f : ActionDispatch → ActionDispatch := fun row => row.joined until_ payload with hf
  have hkey : ∀ a, key (f a) = key a := fun _ => rfl
  have hreq : ∀ a, (f a).clientRequestId = a.clientRequestId := fun _ => rfl
  have hl₁ := linked_update hl pending.id hkey
  refine ⟨?_, ?_⟩
  · refine linked_congr (linked_append_message hl₁ [] ?_ ?_) hactions hmessages
    · rintro c hc
      cases hc
      exact hnomsg
    · intro _
      refine ⟨pending.id, hid, ?_⟩
      rw [map_key_update hkey]
      exact List.mem_map_of_mem hmem
  · rw [requestOwner_congr
      { db with
        actions := update db.actions pending.id f, messages := db.messages ++ [message] }
      hactions hmessages]
    funext c
    by_cases hc : c = sub.clientRequestId
    · subst hc
      have hnoact' : ((update db.actions pending.id f).find? fun a =>
          a.clientRequestId = some sub.clientRequestId) = none := by
        rw [find?_update fun a => by rw [hreq], hnoact]
        rfl
      have hmsg : ((db.messages ++ [message]).find? fun m =>
          m.clientRequestId = some sub.clientRequestId) = some message := by
        rw [List.find?_append, hnomsg]
        simp [hmessage]
      rw [Function.update_self, requestOwner, find_of_message hnoact' hmsg hid,
        get_update hkey, ← key_actionDispatch, get_of_mem hl.keys hmem]
      simp [hf, hpending.2.2]
    · rw [Function.update_of_ne hc]
      refine Eq.trans ?_ (congrFun
        (requestOwner_update hl pending.id f hkey hreq fun _ => rfl) c)
      rw [requestOwner, requestOwner]
      congr 1
      exact find_append_message { db with actions := update db.actions pending.id f }
        (by simpa [hmessage] using Ne.symm hc)

end Commit

lemma enqueueChat_asks (svc : MessageDispatchService) {db : Db} (hl : Linked db)
    (target : Target) (sub : ChatSubmission) {keys : NewKeys} (now : Timestamp)
    (hkey : keys.actionId ∉ db.actions.map key) :
    (∃ e, svc.enqueueChat db target sub keys now = .error e ∧
      FirstWins.ask (TargetExists db) (requestOwner db) sub.clientRequestId target =
        (requestOwner db, none)) ∨
    ∃ db' action, svc.enqueueChat db target sub keys now = .ok (db', action) ∧ Linked db' ∧
      targetCharacter db' = targetCharacter db ∧
      FirstWins.ask (TargetExists db) (requestOwner db) sub.clientRequestId target =
        (requestOwner db', some action.target) := by
  rcases enqueueChat_cases svc hl target sub keys now with
    ⟨existing, hfind, hcall⟩ | ⟨hfind, hex, hcall⟩ | ⟨hfind, hex, pending, hp, hcall⟩
  · right
    exact ⟨db, existing, hcall, hl, rfl,
      FirstWins.ask_of_some (by simp [requestOwner, hfind])⟩
  · left
    exact ⟨_, hcall, FirstWins.ask_of_not_valid (by simp [requestOwner, hfind]) hex⟩
  · right
    have howner : requestOwner db sub.clientRequestId = none := by simp [requestOwner, hfind]
    have hchars : targetCharacter (svc.commitChat db target pending sub keys now).1 =
        targetCharacter db := by
      obtain ⟨hcocoons, hrooms⟩ := commitChat_targets svc db target pending sub keys now
      funext t
      cases t <;> simp only [targetCharacter, hcocoons, hrooms]
    refine ⟨(svc.commitChat db target pending sub keys now).1,
      (svc.commitChat db target pending sub keys now).2, hcall, ?_⟩
    rw [FirstWins.ask_of_valid howner hex]
    cases pending with
    | none =>
      obtain ⟨hl', hown⟩ := commit_create svc target now hl hfind hkey
      exact ⟨hl', hchars, by rw [hown]; rfl⟩
    | some p =>
      obtain ⟨hmem, hpend⟩ := hp p rfl
      obtain ⟨hl', hown⟩ := commit_aggregate svc target now keys hl hfind hmem hpend
      exact ⟨hl', hchars, by rw [hown, commitChat_aggregate_target, hpend.2.2]⟩

/-! ## Runs -/

/-- The answers given so far match and the calls still to come are answered faithfully. -/
def AnswersMatch (s : State) : Prop := ∀ a ∈ s.answers, a.answered = a.asked

lemma call_step {svc : MessageDispatchService} {s s' : State} (hl : Linked s.db)
    {target : Target} {sub : ChatSubmission} {keys : NewKeys} {now : Timestamp}
    (hs : step svc s (.call target sub keys now) = some s') :
    Linked s'.db ∧ targetCharacter s'.db = targetCharacter s.db ∧
      ∃ answer, FirstWins.ask (TargetExists s.db) (requestOwner s.db) sub.clientRequestId target =
          (requestOwner s'.db, answer) ∧
        (AnswersMatch s' ↔ (∀ w ∈ answer, w = target) ∧ AnswersMatch s) := by
  simp only [step] at hs
  split at hs
  · cases hs
  · next hfresh =>
    push Not at hfresh
    rcases enqueueChat_asks svc hl target sub now hfresh.1 with
      ⟨e, hcall, hask⟩ | ⟨db', action, hcall, hl', hchars, hask⟩
    · rw [hcall] at hs
      cases hs
      exact ⟨hl, rfl, none, hask, by simp⟩
    · rw [hcall] at hs
      cases hs
      exact ⟨hl', hchars, some action.target, hask, by simp [AnswersMatch]⟩

lemma quiet_step {svc : MessageDispatchService} {s s' : State} {e : Event} (hl : Linked s.db)
    (he : requests [e] = []) (hs : step svc s e = some s') :
    Linked s'.db ∧ targetCharacter s'.db = targetCharacter s.db ∧
      requestOwner s'.db = requestOwner s.db ∧ s'.answers = s.answers := by
  cases e with
  | call target sub keys now => cases he
  | progress actionId status startedAt finishedAt =>
    cases hs
    exact ⟨linked_update hl actionId fun _ => rfl, rfl,
      requestOwner_update hl actionId (progressRow status startedAt finishedAt)
        (fun _ => rfl) (fun _ => rfl) fun _ => rfl, rfl⟩
  | otherAction action =>
    simp only [step] at hs
    split at hs
    · cases hs
    · next hguard =>
      push Not at hguard
      cases hs
      refine ⟨linked_append_action hl hguard.2, rfl, funext fun c => ?_, rfl⟩
      rw [requestOwner, requestOwner, find_append_action hl]
      intro hc
      simp [hc] at hguard
  | otherMessage message =>
    simp only [step] at hs
    split at hs
    · cases hs
    · next hguard =>
      push Not at hguard
      cases hs
      have hnone : message.clientRequestId = none := by simpa using hguard.1
      refine ⟨linked_append_message hl _ (by simp [hnone]) (by simp [hnone]), rfl,
        funext fun c => ?_, rfl⟩
      rw [requestOwner, requestOwner, insertMessage, find_append_message]
      simp [hnone]

lemma answers_run {svc : MessageDispatchService} {s s' : State} {es : List Event}
    (hl : Linked s.db) (hrun : run (step svc) s es = some s') :
    Linked s'.db ∧
      (AnswersMatch s' ↔ AnswersMatch s ∧
        FirstWins.Faithful (TargetExists s.db) (requestOwner s.db) (requests es)) := by
  induction es generalizing s with
  | nil =>
    cases hrun
    exact ⟨hl, by simp [requests, FirstWins.Faithful]⟩
  | cons e es ih =>
    obtain ⟨m, hm, hrest⟩ := run_cons_eq_some.mp hrun
    have hcons : requests (e :: es) = requests [e] ++ requests es := by
      simp only [requests, ← List.filterMap_append, List.singleton_append]
    rcases hreq : requests [e] with _ | ⟨req, reqs⟩
    · obtain ⟨hl', hchars, hown, hans⟩ := quiet_step hl hreq hm
      obtain ⟨hl'', hiff⟩ := ih hl' hrest
      have hex : ∀ t, TargetExists m.db t ↔ TargetExists s.db t := by
        simp only [TargetExists, hchars, implies_true]
      rw [FirstWins.faithful_congr hex, hown, AnswersMatch, AnswersMatch, hans] at hiff
      rw [hcons, hreq, List.nil_append]
      exact ⟨hl'', hiff⟩
    · cases e with
      | call target sub keys now =>
        obtain ⟨hl', hchars, answer, hask, hans⟩ := call_step hl hm
        obtain ⟨hl'', hiff⟩ := ih hl' hrest
        refine ⟨hl'', ?_⟩
        have hnext : requests (.call target sub keys now :: es) =
            (sub.clientRequestId, target) :: requests es := rfl
        have hex : ∀ t, TargetExists m.db t ↔ TargetExists s.db t := by
          simp only [TargetExists, hchars, implies_true]
        rw [FirstWins.faithful_congr hex, hans] at hiff
        rw [hnext, FirstWins.Faithful, hask, hiff]
        tauto
      | progress => cases hreq
      | otherAction => cases hreq
      | otherMessage => cases hreq

/-- Over every sequence of enqueue calls, whatever workers do in between: no request id gets a
second message and every call is answered with an action of its own target, exactly when no
request id is used for two targets, the first of them existing. -/
theorem correct_iff_noSharedRequestId (svc : MessageDispatchService) {db₀ : Db}
    (hactions : db₀.actions = []) (hmessages : db₀.messages = []) {es : List Event} {s : State}
    (hrun : run (step svc) { db := db₀ } es = some s) :
    Correct s ↔ NoSharedRequestId db₀ (requests es) := by
  have hl : Linked db₀ := by
    refine ⟨?_, ?_, ?_⟩ <;> simp [hactions, hmessages]
  have hown : ∀ c, requestOwner db₀ c = none := by
    intro c
    simp [requestOwner, findActionForClientRequestId, hactions, hmessages]
  obtain ⟨hl', hiff⟩ := answers_run hl hrun
  rw [FirstWins.faithful_iff] at hiff
  constructor
  · intro h
    exact (hiff.mp h.answers).2.2
  · intro h
    refine ⟨hl'.once, hiff.mpr ⟨by simp [AnswersMatch], fun r _ w hw => ?_, h⟩⟩
    rw [hown] at hw
    cases hw

/-- Two cocoons of one user and no messages yet. -/
def twoCocoons : Db where
  cocoons :=
    [{ id := "c1", ownerUserId := "u1", characterId := "ch1" },
     { id := "c2", ownerUserId := "u1", characterId := "ch1" }]

/-- A service without stored settings; the digest is not looked at. -/
def plainService : MessageDispatchService where
  sha256Hex := fun text => text

/-- One request id, sent to both cocoons: two tabs whose fallback ids fall in one millisecond. -/
def sharedRequestId : List Event :=
  [.call (.cocoon "c1") { content := "hello", clientRequestId := "1700000000000" }
      ⟨"a1", "m1", "t1"⟩ 0,
   .call (.cocoon "c2") { content := "hi", clientRequestId := "1700000000000" }
      ⟨"a2", "m2", "t2"⟩ 1]

/-- The second call is answered with the action of the other cocoon, and its message is lost. -/
theorem sharedRequestId_crosses_targets :
    ∃ s, run (step plainService) { db := twoCocoons } sharedRequestId = some s ∧ ¬ Correct s ∧
      s.answers = [⟨.cocoon "c2", .cocoon "c1"⟩, ⟨.cocoon "c1", .cocoon "c1"⟩] ∧
      s.db.messages.map Message.content = ["hello"] :=
  ⟨_, rfl, by decide, by decide, by decide⟩

/-- A repeated submission to one cocoon, of a message that joined the pending action. -/
def repeatedSubmission : List Event :=
  [.call (.cocoon "c1") { content := "hello", clientRequestId := "r1" } ⟨"a1", "m1", "t1"⟩ 0,
   .call (.cocoon "c1") { content := "more", clientRequestId := "r2" } ⟨"a2", "m2", "t2"⟩ 1,
   .call (.cocoon "c1") { content := "more", clientRequestId := "r2" } ⟨"a3", "m3", "t3"⟩ 2]

theorem repeatedSubmission_correct :
    ∃ s, run (step plainService) { db := twoCocoons } repeatedSubmission = some s ∧
      Correct s := by
  have hsome : (run (step plainService) { db := twoCocoons } repeatedSubmission).isSome := by
    decide
  obtain ⟨s, hs⟩ := Option.isSome_iff_exists.mp hsome
  exact ⟨s, hs, (correct_iff_noSharedRequestId plainService rfl rfl hs).mpr (by decide)⟩

end RequestId

end CocoonSit
