import Mathlib.Data.List.Nodup
import CocoonSit.Lib.Run
import CocoonSit.Plugins.ImSdk

/-!
# Each control message reaches the coroutine it is for

The coroutines of `ImSdk` use the inbound queue and the buffer as the parties of a `Mailbox` do
(`toMailbox_step`), so whatever is put into the queue is in one place, and whoever keeps a message
is the one it is for.  That nothing is left behind once nothing moves needs one thing more: a caller
of `_rpc` ends with the response to its request, and there is no second one.
-/

namespace CocoonSit

open TransitionSystem
open Mailbox (Phase)

namespace ImSdk

variable {δ ρ : Type}

/-! ## The mailbox's steps -/

section Simulation

variable [DecidableEq δ] [DecidableEq ρ] {s s' : Sdk δ ρ} {e : Event δ ρ}

/-- A caller that has begun has sent its request. -/
def Begun (s : Sdk δ ρ) : Prop :=
  ∀ requestId, Task.rpc requestId ∈ s.tasks.map Prod.fst ↔ requestId ∈ s.requests.map Prod.fst

lemma toMailbox_step (hs : Begun s) (h : step s e = some s') :
    Mailbox.step consumer endsConsumer s.toMailbox e.toMailbox = some s'.toMailbox := by
  cases e with
  | runForever =>
    obtain ⟨hnew, rfl⟩ : Task.runForever ∉ s.tasks.map Prod.fst ∧ _ := by simpa [step] using h
    rw [toMailbox_loopTop]
    exact if_neg hnew
  | rpc requestId method =>
    obtain ⟨hnew, rfl⟩ : requestId ∉ s.requests.map Prod.fst ∧ _ := by simpa [step] using h
    rw [toMailbox_loopTop]
    exact if_neg fun hbegun => hnew ((hs requestId).mp hbegun)
  | respond response =>
    obtain ⟨-, rfl⟩ : response.requestId ∈ s.unanswered ∧ _ := by simpa [step] using h
    rfl
  | deliver deliveryId reply =>
    rw [← Option.some.inj h]
    rfl
  | stop =>
    rw [← Option.some.inj h]
    rfl
  | get task =>
    cases hqueue : s.inboundQueue with
    | nil => simp [step, hqueue] at h
    | cons message queue =>
      obtain ⟨hwaiting, rfl⟩ : (task, Phase.waiting) ∈ s.tasks ∧ _ := by
        simpa [step, hqueue] using h
      have hq : s.toMailbox.queue = message :: queue := hqueue
      unfold Mailbox.step Event.toMailbox
      rw [hq]
      exact if_pos hwaiting
  | empty task =>
    obtain ⟨hwaiting, rfl⟩ : (task, Phase.waiting) ∈ s.tasks ∧ _ := by simpa [step] using h
    rw [toMailbox_loopTop]
    exact if_pos hwaiting
  | resume task message =>
    obtain ⟨hholding, rfl⟩ : (task, Phase.holding message) ∈ s.tasks ∧ _ := by
      simpa [step] using h
    rw [toMailbox_onMessage]
    exact if_pos hholding
  | dispatched =>
    obtain ⟨hbusy, rfl⟩ : (Task.runForever, Phase.busy) ∈ s.tasks ∧ _ := by simpa [step] using h
    rw [toMailbox_loopTop]
    exact if_pos hbusy
  | dispatchFailed =>
    obtain ⟨hbusy, rfl⟩ : (Task.runForever, Phase.busy) ∈ s.tasks ∧ _ := by simpa [step] using h
    exact if_pos hbusy

end Simulation

/-! ## Requests and their responses -/

def ControlMessage.responseId : ControlMessage δ ρ → Option String
  | .rpcResponse response => some response.requestId
  | _ => none

lemma responseId_eq_some {message : ControlMessage δ ρ} {requestId : String} :
    message.responseId = some requestId ↔ consumer message = .rpc requestId := by
  cases message <;> simp [ControlMessage.responseId, consumer]

/-- The requests whose responses have been kept. -/
def Sdk.settled (s : Sdk δ ρ) : List String :=
  (s.handled.map Prod.snd).filterMap ControlMessage.responseId

/-- A coroutine has entered its next phase, and the books of the backend are as they were. -/
structure Advanced (task : Task) (s s' : Sdk δ ρ) : Prop where
  entered : ∃ phase, s'.tasks = (task, phase) :: s.tasks ∧
    ∀ requestId, task = .rpc requestId →
      phase ≠ .busy ∧ (phase = .gone → requestId ∈ s'.settled)
  settled : s.settled ⊆ s'.settled
  given : s'.given = s.given
  requests : s'.requests = s.requests
  unanswered : s'.unanswered = s.unanswered

lemma Advanced.keep {task : Task} {message : ControlMessage δ ρ} (s : Sdk δ ρ)
    (h : consumer message = task) :
    Advanced task s
      ((s.keep task message).enter task (if endsConsumer message then .gone else .busy)) := by
  refine ⟨⟨_, rfl, fun requestId hrpc => ?_⟩, ?_, rfl, rfl, rfl⟩
  · subst hrpc
    have hid := responseId_eq_some.mpr h
    have hends : endsConsumer message = true := by cases message <;> first | rfl | cases h
    simp [Sdk.settled, Sdk.keep, Sdk.enter, hends, hid]
  · intro requestId hr
    simp only [Sdk.settled, Sdk.keep, Sdk.enter, List.map_append, List.filterMap_append]
    exact List.mem_append_left _ hr

lemma Advanced.loopTop (task : Task) (s : Sdk δ ρ) : Advanced task s (loopTop task s) := by
  unfold ImSdk.loopTop
  cases h : task.popBuffered s.bufferedControlMessages with
  | none => exact ⟨⟨.waiting, rfl, by simp⟩, List.Subset.refl _, rfl, rfl, rfl⟩
  | some found =>
    obtain ⟨message, rest⟩ := found
    have hown : consumer message = task := by
      rw [popBuffered_eq] at h
      simpa using (Mailbox.popFirst_eq_some h).1
    simp only [on_eq_of_popBuffered h]
    obtain ⟨entered, settled, given, requests, unanswered⟩ :=
      Advanced.keep { s with bufferedControlMessages := rest } hown
    exact ⟨entered, settled, given, requests, unanswered⟩

lemma Advanced.onMessage (task : Task) (message : ControlMessage δ ρ) (s : Sdk δ ρ) :
    Advanced task s (onMessage task message s) := by
  unfold ImSdk.onMessage
  rw [on_eq]
  by_cases h : consumer message = task
  · rw [if_pos h]
    exact Advanced.keep s h
  · rw [if_neg h]
    obtain ⟨entered, settled, given, requests, unanswered⟩ :=
      Advanced.loopTop task (s.putBack message)
    exact ⟨entered, settled, given, requests, unanswered⟩

/-- The books: who has begun and who has ended, and which requests are answered. -/
structure Books (s : Sdk δ ρ) : Prop where
  begun : Begun s
  neverBusy : ∀ requestId, (Task.rpc requestId, Phase.busy) ∉ s.tasks
  ended : ∀ requestId, (Task.rpc requestId, Phase.gone) ∈ s.tasks → requestId ∈ s.settled
  fresh : (s.requests.map Prod.fst).Nodup
  answered : (s.given.filterMap ControlMessage.responseId ++ s.unanswered).Perm
    (s.requests.map Prod.fst)

lemma books_of_advanced {s s' : Sdk δ ρ} {task : Task} (h : Advanced task s s')
    (hbegun : ∀ requestId, Task.rpc requestId ∈ task :: s.tasks.map Prod.fst ↔
      requestId ∈ s.requests.map Prod.fst)
    (hnever : ∀ requestId, (Task.rpc requestId, Phase.busy) ∉ s.tasks)
    (hended : ∀ requestId, (Task.rpc requestId, Phase.gone) ∈ s.tasks → requestId ∈ s.settled)
    (hfresh : (s.requests.map Prod.fst).Nodup)
    (hanswered : (s.given.filterMap ControlMessage.responseId ++ s.unanswered).Perm
      (s.requests.map Prod.fst)) : Books s' := by
  obtain ⟨⟨next, htasks, hnext⟩, hsettled, hgiven, hrequests, hunanswered⟩ := h
  refine ⟨fun requestId => ?_, fun requestId hbusy => ?_, fun requestId hgone => ?_, ?_, ?_⟩
  · rw [hrequests, ← hbegun requestId, htasks]
    rfl
  · rw [htasks] at hbusy
    rcases List.mem_cons.mp hbusy with heq | hold
    · obtain ⟨rfl, rfl⟩ := Prod.mk.inj heq
      exact (hnext requestId rfl).1 rfl
    · exact hnever requestId hold
  · rw [htasks] at hgone
    rcases List.mem_cons.mp hgone with heq | hold
    · obtain ⟨rfl, rfl⟩ := Prod.mk.inj heq
      exact (hnext requestId rfl).2 rfl
    · exact hsettled (hended requestId hold)
  · rw [hrequests]
    exact hfresh
  · rw [hgiven, hunanswered, hrequests]
    exact hanswered

section Steps

variable [DecidableEq δ] [DecidableEq ρ] {s s' : Sdk δ ρ} {e : Event δ ρ}

lemma Books.advance {task : Task} {phase : Phase (ControlMessage δ ρ)} (hs : Books s)
    (htask : (task, phase) ∈ s.tasks) (h : Advanced task (s.without task phase) s') :
    Books s' := by
  refine books_of_advanced h (fun requestId => ?_)
    (fun requestId hbusy => hs.neverBusy requestId (List.mem_of_mem_erase hbusy))
    (fun requestId hgone => hs.ended requestId (List.mem_of_mem_erase hgone))
    hs.fresh hs.answered
  have hkeys := ((List.perm_cons_erase htask).map Prod.fst).mem_iff (a := Task.rpc requestId)
  exact hkeys.symm.trans (hs.begun requestId)

omit [DecidableEq δ] [DecidableEq ρ] in
lemma Books.put {message : ControlMessage δ ρ} (hs : Books s)
    (h : message.responseId = none) : Books (s.put message) := by
  refine ⟨hs.begun, hs.neverBusy, hs.ended, hs.fresh, ?_⟩
  have hgiven : (s.put message).given.filterMap ControlMessage.responseId =
      s.given.filterMap ControlMessage.responseId := by simp [Sdk.put, h]
  rw [hgiven]
  exact hs.answered

theorem books_step (hs : Books s) (h : step s e = some s') : Books s' := by
  cases e with
  | runForever =>
    obtain ⟨-, rfl⟩ : Task.runForever ∉ s.tasks.map Prod.fst ∧ _ := by simpa [step] using h
    refine books_of_advanced (Advanced.loopTop .runForever s) (fun requestId => ?_)
      hs.neverBusy hs.ended hs.fresh hs.answered
    simpa using hs.begun requestId
  | rpc requestId method =>
    obtain ⟨hnew, rfl⟩ : requestId ∉ s.requests.map Prod.fst ∧ _ := by simpa [step] using h
    refine books_of_advanced (Advanced.loopTop (.rpc requestId) _) (fun requestId' => ?_)
      hs.neverBusy hs.ended ?_ ?_
    · have := hs.begun requestId'
      simp only [List.mem_cons, Task.rpc.injEq, List.map_append, List.mem_append, List.map_cons,
        List.map_nil, List.not_mem_nil, or_false, this]
      exact or_comm
    · rw [List.map_append]
      exact List.Nodup.append hs.fresh (List.nodup_singleton _) (by simpa using hnew)
    · simpa using hs.answered.append_right [requestId]
  | respond response =>
    obtain ⟨hopen, rfl⟩ : response.requestId ∈ s.unanswered ∧ _ := by simpa [step] using h
    refine ⟨hs.begun, hs.neverBusy, hs.ended, hs.fresh, .trans ?_ hs.answered⟩
    simp only [Sdk.put, List.filterMap_append, List.append_assoc]
    exact .append_left _ (List.perm_cons_erase hopen).symm
  | deliver deliveryId reply =>
    rw [← Option.some.inj h]
    exact hs.put rfl
  | stop =>
    rw [← Option.some.inj h]
    exact hs.put rfl
  | get task =>
    cases hqueue : s.inboundQueue with
    | nil => simp [step, hqueue] at h
    | cons message queue =>
      obtain ⟨hwaiting, rfl⟩ : (task, Phase.waiting) ∈ s.tasks ∧ _ := by
        simpa [step, hqueue] using h
      exact hs.advance hwaiting
        ⟨⟨.holding message, rfl, by simp⟩, List.Subset.refl _, rfl, rfl, rfl⟩
  | empty task =>
    obtain ⟨hwaiting, rfl⟩ : (task, Phase.waiting) ∈ s.tasks ∧ _ := by simpa [step] using h
    exact hs.advance hwaiting (Advanced.loopTop task _)
  | resume task message =>
    obtain ⟨hholding, rfl⟩ : (task, Phase.holding message) ∈ s.tasks ∧ _ := by
      simpa [step] using h
    exact hs.advance hholding (Advanced.onMessage task message _)
  | dispatched =>
    obtain ⟨hbusy, rfl⟩ : (Task.runForever, Phase.busy) ∈ s.tasks ∧ _ := by simpa [step] using h
    exact hs.advance hbusy (Advanced.loopTop .runForever _)
  | dispatchFailed =>
    obtain ⟨hbusy, rfl⟩ : (Task.runForever, Phase.busy) ∈ s.tasks ∧ _ := by simpa [step] using h
    exact hs.advance hbusy ⟨⟨.gone, rfl, by simp⟩, List.Subset.refl _, rfl, rfl, rfl⟩

/-! ## Routing -/

/-- What is in the queue, in the buffer or in a coroutine's hands. -/
def Sdk.unread (s : Sdk δ ρ) : List (ControlMessage δ ρ) :=
  s.inboundQueue ++ s.bufferedControlMessages ++ s.tasks.filterMap fun x => x.2.hand

/-- The steps of coroutines and their threads that do not only poll. -/
def Progress (s : Sdk δ ρ) : Event δ ρ → Prop
  | .get task => s.inboundQueue ≠ [] ∧ (task, .waiting) ∈ s.tasks
  | .empty task =>
    (task, .waiting) ∈ s.tasks ∧ (task.popBuffered s.bufferedControlMessages).isSome
  | .resume task message => (task, .holding message) ∈ s.tasks
  | .dispatched | .dispatchFailed => (.runForever, .busy) ∈ s.tasks
  | _ => False

/-- No coroutine can do anything but poll. -/
def Quiet (s : Sdk δ ρ) : Prop := ∀ e, ¬ Progress s e

def RunsForever (s : Sdk δ ρ) : Prop := ∃ phase, (Task.runForever, phase) ∈ s.tasks ∧ phase ≠ .gone

omit [DecidableEq δ] [DecidableEq ρ] in
lemma moves_toMailbox_iff :
    Mailbox.Moves consumer s.toMailbox e.toMailbox ↔ Progress s e := by
  cases e with
  | empty task =>
    have hpop : Progress s (.empty task) ↔ (task, Phase.waiting) ∈ s.tasks ∧
        (task.popBuffered s.bufferedControlMessages).isSome := Iff.rfl
    rw [hpop, popBuffered_eq, ← Option.ne_none_iff_isSome, ne_eq, Mailbox.popFirst_eq_none]
    simp [Mailbox.Moves, Event.toMailbox, Sdk.toMailbox]
  | _ => rfl

omit [DecidableEq δ] [DecidableEq ρ] in
lemma quiet_toMailbox (hs : Books s) (h : Quiet s) : Mailbox.Quiet consumer s.toMailbox := by
  intro e he
  cases e with
  | put message => exact he
  | join task => exact he
  | take task => exact h (.get task) (moves_toMailbox_iff.mp he)
  | timeOut task => exact h (.empty task) (moves_toMailbox_iff.mp he)
  | resume task message => exact h (.resume task message) (moves_toMailbox_iff.mp he)
  | finish task =>
    cases task with
    | runForever => exact h .dispatched (moves_toMailbox_iff.mp he)
    | rpc requestId => exact hs.neverBusy requestId he
  | leave task =>
    cases task with
    | runForever => exact h .dispatchFailed (moves_toMailbox_iff.mp he)
    | rpc requestId => exact hs.neverBusy requestId he

/-- What holds in every state of every run. -/
structure Routed (s : Sdk δ ρ) : Prop where
  books : Books s
  conserved : (s.unread ++ s.handled.map Prod.snd).Perm s.given
  own : ∀ x ∈ s.handled, consumer x.2 = x.1

theorem routed_step (hs : Routed s) (h : step s e = some s') : Routed s' := by
  have hstep := toMailbox_step hs.books.begun h
  exact ⟨books_step hs.books h, Mailbox.conserved_step (s := s.toMailbox) hs.conserved hstep,
    Mailbox.ownOnly_step (s := s.toMailbox) hs.own hstep⟩

omit [DecidableEq δ] [DecidableEq ρ] in
lemma routed_initial : Routed ({} : Sdk δ ρ) where
  books := ⟨by simp [Begun], by simp, by simp, by simp, by simp⟩
  conserved := by simp [Sdk.unread]
  own := by simp

lemma routed_run {es : List (Event δ ρ)} (hrun : run step {} es = some s) : Routed s :=
  invariant_run Routed (fun _ _ _ => routed_step) routed_initial hrun

omit [DecidableEq δ] [DecidableEq ρ] in
/-- Once nothing moves, all that is left is for `run_forever`, which has ended or not begun. -/
lemma left_of_quiet (hs : Routed s) (hquiet : Quiet s) {message : ControlMessage δ ρ}
    (hm : message ∈ s.unread) :
    consumer message = .runForever ∧ ¬ RunsForever s := by
  have hgone : ∀ phase, (consumer message, phase) ∈ s.tasks → phase = .gone := fun _ =>
    Mailbox.gone_of_quiet (quiet_toMailbox hs.books hquiet) hm
  cases hc : consumer message with
  | runForever => exact ⟨rfl, fun ⟨_, htask, hne⟩ => hne (hgone _ (by rwa [hc]))⟩
  | rpc requestId =>
    -- the caller has ended with a response to its request, and this would be another
    exfalso
    have hresponse : requestId ∈ s.unread.filterMap ControlMessage.responseId :=
      List.mem_filterMap.mpr ⟨message, hm, responseId_eq_some.mpr hc⟩
    have hperm : (s.unread.filterMap ControlMessage.responseId ++ s.settled).Perm
        (s.given.filterMap ControlMessage.responseId) := by
      rw [Sdk.settled, ← List.filterMap_append]
      exact hs.conserved.filterMap _
    have hanswered := (List.nodup_append.mp (hs.books.answered.nodup_iff.mpr hs.books.fresh)).1
    have hrequest : requestId ∈ s.requests.map Prod.fst :=
      hs.books.answered.mem_iff.mp
        (List.mem_append_left _ (hperm.mem_iff.mp (List.mem_append_left _ hresponse)))
    obtain ⟨⟨_, phase⟩, htask, rfl⟩ := List.mem_map.mp ((hs.books.begun requestId).mpr hrequest)
    obtain rfl := hgone phase (by rwa [hc])
    have hdisjoint := List.nodup_append.mp (hperm.nodup_iff.mpr hanswered)
    exact hdisjoint.2.2 requestId hresponse requestId (hs.books.ended requestId htask) rfl

/-- For every interleaving: each message that was put into the queue is in one place, unread or with
the coroutine that kept it, and that is the one it is for; messages are not handed round for ever;
and once nothing moves, every response has reached its caller, and as long as `run_forever` runs,
every message has been kept. -/
theorem control_messages_routed {es : List (Event δ ρ)} (hrun : run step {} es = some s) :
    (s.unread ++ s.handled.map Prod.snd).Perm s.given ∧
    (∀ x ∈ s.handled, consumer x.2 = x.1) ∧
    (∃ n, ∀ es' s', run step s es' = some s' → StepsMeet step Progress s es' → es'.length ≤ n) ∧
    (Quiet s →
      (∀ response, .rpcResponse response ∈ s.given →
        (.rpc response.requestId, .rpcResponse response) ∈ s.handled) ∧
      (RunsForever s → (s.handled.map Prod.snd).Perm s.given)) := by
  have hs := routed_run hrun
  refine ⟨hs.conserved, hs.own, ⟨s.toMailbox.weight, fun es' s' hrun' hmeet => ?_⟩,
    fun hquiet => ⟨fun response hgiven => ?_, fun hruns => ?_⟩⟩
  · refine length_le_of_stepsMeet Routed (fun s => s.toMailbox.weight) ?_ hs hmeet hrun'
    intro a e b ha he hab
    exact ⟨routed_step ha hab,
      Mailbox.weight_step (toMailbox_step ha.books.begun hab) (moves_toMailbox_iff.mpr he)⟩
  · rcases List.mem_append.mp (hs.conserved.mem_iff.mpr hgiven) with hunread | hkept
    · exact absurd (left_of_quiet hs hquiet hunread).1 (by simp [consumer])
    · obtain ⟨⟨task, _⟩, hx, rfl⟩ := List.mem_map.mp hkept
      have htask := hs.own _ hx
      rwa [← show Task.rpc response.requestId = task from htask] at hx
  · have hnone : s.unread = [] :=
      List.eq_nil_iff_forall_not_mem.mpr fun _ hm => (left_of_quiet hs hquiet hm).2 hruns
    simpa [hnone] using hs.conserved

/-- `run_forever` and two callers: each caller gets the other's response first and puts it back, and
the reply is taken from the queue by a caller. -/
def crossedResponses : List (Event Unit Unit) :=
  [ .runForever, .rpc "a" "m", .rpc "b" "m",
    .respond { requestId := "b", ok := true, payload := some () },
    .respond { requestId := "a", ok := true, payload := some () },
    .deliver "d" (),
    .get (.rpc "a"),
    .get (.rpc "b"),
    .resume (.rpc "a") (.rpcResponse { requestId := "b", ok := true, payload := some () }),
    .resume (.rpc "b") (.rpcResponse { requestId := "a", ok := true, payload := some () }),
    .get (.rpc "a"),
    .resume (.rpc "a") (.deliverReply "d" ()),
    .empty .runForever ]

theorem crossedResponses_routed :
    ∃ s, run step {} crossedResponses = some s ∧
      s.handled.map Prod.fst = [.rpc "b", .rpc "a", .runForever] ∧
      (s.unread ++ s.handled.map Prod.snd).Perm s.given := by
  have hrun : (run step {} crossedResponses).isSome ∧ ∀ s, run step {} crossedResponses = some s →
      s.handled.map Prod.fst = [.rpc "b", .rpc "a", .runForever] := by decide +kernel
  obtain ⟨s, hs⟩ := Option.isSome_iff_exists.mp hrun.1
  exact ⟨s, hs, hrun.2 s hs, (control_messages_routed hs).1⟩

/-- What a call of `_rpc` has come to. -/
def Sdk.returned (s : Sdk δ ρ) (requestId method : String) : Option (Except String δ) :=
  s.handled.findSome? fun x =>
    match x with
    | (.rpc requestId', .rpcResponse response) =>
      if requestId' = requestId then some (rpcResult method response) else none
    | _ => none

/-- A call returns or raises what the backend's response to its own request says. -/
theorem returned_of_run {es : List (Event δ ρ)} (hrun : run step {} es = some s)
    {requestId method : String} {result : Except String δ}
    (h : s.returned requestId method = some result) :
    ∃ response, .rpcResponse response ∈ s.given ∧ response.requestId = requestId ∧
      result = rpcResult method response := by
  have hs := routed_run hrun
  obtain ⟨⟨task, message⟩, hx, hresult⟩ := List.exists_of_findSome?_eq_some h
  have hgiven := hs.conserved.mem_iff.mp
    (List.mem_append_right _ (List.mem_map_of_mem hx : message ∈ s.handled.map Prod.snd))
  have hown := hs.own _ hx
  split at hresult
  · next requestId' response heq =>
    obtain ⟨rfl, rfl⟩ := Prod.mk.inj heq
    by_cases hid : requestId' = requestId
    · rw [if_pos hid] at hresult
      exact ⟨response, hgiven, (Task.rpc.inj hown).trans hid, (Option.some.inj hresult).symm⟩
    · rw [if_neg hid] at hresult
      cases hresult
  · cases hresult

theorem crossedResponses_returned :
    ∃ response, .rpcResponse response ∈ ((run step {} crossedResponses).get (by decide)).given ∧
      response.requestId = "a" ∧ .ok () = rpcResult "method" response :=
  returned_of_run (Option.some_get (by decide)).symm (by decide)

end Steps

end ImSdk

end CocoonSit
