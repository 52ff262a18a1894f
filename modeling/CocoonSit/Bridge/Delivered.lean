import Mathlib.Algebra.Order.BigOperators.Group.List
import Mathlib.Algebra.Order.Ring.Nat
import CocoonSit.Bridge.Redelivery

/-!
# No reply twice, and none stuck

What the earlier modules keep along a run comes to this for a reply: a good report means one message
of the bot that was chosen for it, any other report none; no reply is sent twice; and each is
delivered, or open and on its way to a report, or handed out again when it is due.
-/

namespace CocoonSit

open Table TransitionSystem

namespace Outbound

variable {w w' : World} {s s' : Runtime} {pluginId : RowId} {pyStr : JsonValue → String}

/-! ## On the way to a report -/

/-- The steps of the bridge and of the manager's taking in; those that bring new work and those of
bots that connect are not among them. -/
def Event.own : Event → Bool
  | .takeIn _ | .handle _ => true
  | .bridge (.rememberBot _) | .bridge .startSender => false
  | .bridge _ => true
  | _ => false

/-- No step is left but a time that runs out. -/
def Quiet (pyStr : JsonValue → String) (pluginId : RowId) (w : World) : Prop :=
  ∀ e, e.own = true → e ≠ .bridge .timeout → step pyStr pluginId w e = none

def Sender.weight : Sender → ℕ
  | .holding _ => 4
  | .checked _ => 3
  | .sending _ _ _ => 2
  | .setting _ _ => 1
  | _ => 0

def Runtime.weight (s : Runtime) : ℕ :=
  6 * s.outboundReplies.length + 2 * s.waiting.toList.length + s.sender.weight

/-- A reply costs less with every step on its way: in the inbound queue, with the sender, reported,
taken in. -/
def World.weight (w : World) : ℕ :=
  9 * w.inboundQueue.length + w.bridge.weight + w.outboundQueue.length

lemma weight_runtimeStep {e : RuntimeEvent} (he : (Event.bridge e).own = true)
    (h : runtimeStep s e = some s') :
    s'.weight + s'.reported.length < s.weight + s.reported.length := by
  cases e with
  | timeout =>
    cases hw : s.waiting <;>
      simp only [runtimeStep, hw, reduceCtorEq, Option.some.injEq] at h
    subst h
    simp [Runtime.weight, report, hw]
    omega
  | receive =>
    cases hw : s.waiting with
    | none => simp [runtimeStep, hw] at h
    | some reply =>
      cases hf : s.futures reply.attempt <;>
        simp only [runtimeStep, hw, hf, reduceCtorEq, Option.some.injEq] at h
      subst h
      simp [Runtime.weight, report, hw]
      omega
  | rememberBot selfId => cases he
  | startSender => cases he
  | get =>
    cases hsender : s.sender <;> cases hqueue : s.outboundReplies <;>
      simp only [runtimeStep, hsender, hqueue, reduceCtorEq, Option.some.injEq] at h
    subst h
    simp [Runtime.weight, hsender, hqueue, Sender.weight]
    omega
  | checkDone =>
    cases hsender : s.sender <;>
      simp only [runtimeStep, hsender, reduceCtorEq, Option.some.injEq] at h
    subst h
    next reply =>
      by_cases hpending : s.futures reply.attempt = .pending <;>
        simp [Runtime.weight, hsender, hpending, Sender.weight]
  | selectBot =>
    cases hsender : s.sender <;> simp only [runtimeStep, hsender, reduceCtorEq] at h
    split at h <;> cases h <;> simp [Runtime.weight, hsender, Sender.weight]
  | sent =>
    cases hsender : s.sender <;>
      simp only [runtimeStep, hsender, reduceCtorEq, Option.some.injEq] at h
    subst h
    simp [Runtime.weight, hsender, Sender.weight]
  | raised error =>
    cases hsender : s.sender <;>
      simp only [runtimeStep, hsender, reduceCtorEq, Option.some.injEq] at h
    subst h
    simp [Runtime.weight, hsender, Sender.weight]
  | setResult =>
    cases hsender : s.sender <;> simp only [runtimeStep, hsender, reduceCtorEq] at h
    split at h <;> cases h <;> simp [Runtime.weight, hsender, Sender.weight]

theorem weight_step {e : Event} (he : e.own = true) (h : step pyStr pluginId w e = some w') :
    w'.weight < w.weight := by
  cases e with
  | enqueue newId payload now => cases he
  | dispatch put now => cases he
  | takeIn now =>
    cases hqueue : w.outboundQueue <;>
      simp only [step, hqueue, reduceCtorEq, Option.some.injEq] at h
    subst h
    simp only [World.weight, hqueue, List.length_cons]
    omega
  | handle index =>
    cases hwaiting : w.bridge.waiting <;> cases hmessage : w.inboundQueue[index]? <;>
      simp only [step, hwaiting, hmessage, reduceCtorEq, Option.some.injEq] at h
    subst h
    obtain ⟨hlt, -⟩ := List.getElem?_eq_some_iff.mp hmessage
    have hlength := List.length_eraseIdx_of_lt hlt
    simp only [World.weight, Runtime.weight, handleOutboundReply, hwaiting, hlength,
      List.length_append, Option.toList_some, Option.toList_none, List.length_cons,
      List.length_nil]
    omega
  | bridge event =>
    obtain ⟨s', hs', rfl⟩ := Option.map_eq_some_iff.mp h
    have hlt := weight_runtimeStep he hs'
    have hle : w.bridge.reported.length ≤ s'.reported.length := by
      obtain ⟨⟨-, hreported⟩ | ⟨_, _, -, -, -, hreported⟩, -⟩ := runtimeStep_spec hs' <;>
        simp [hreported]
    simp only [World.weight, List.length_append, List.length_map, List.length_drop]
    omega

/-- Where no step is left, the sender loop waits at an empty queue, and all is reported and taken
in. -/
theorem openIds_eq_nil_of_quiet (hs : Orderly w.bridge) (hquiet : Quiet pyStr pluginId w)
    (hstarted : w.bridge.sender ≠ .notStarted) : w.openIds = [] := by
  have hstuck : ∀ e, (Event.bridge e).own = true → Event.bridge e ≠ .bridge .timeout →
      runtimeStep w.bridge e = none := fun e he hne => by
    simpa [step] using hquiet (.bridge e) he hne
  have hget := hstuck .get rfl (by simp)
  have hcheck := hstuck .checkDone rfl (by simp)
  have hselect := hstuck .selectBot rfl (by simp)
  have hsent := hstuck .sent rfl (by simp)
  have hset := hstuck .setResult rfl (by simp)
  have hreceive := hstuck .receive rfl (by simp)
  have hcalm : Calm w.bridge → w.bridge.sender = .idle := by
    rintro (h | h | ⟨x, h, -⟩)
    · exact absurd h hstarted
    · exact h
    · simp [runtimeStep, h] at hcheck
  have hwaiting : w.bridge.waiting = none := by
    by_contra hne
    obtain ⟨reply, hw⟩ := Option.ne_none_iff_exists'.mp hne
    cases (hs.stage hw).2 with
    | queued old calm queue hold pending unsent =>
      cases old <;> simp [runtimeStep, hcalm calm, queue] at hget
    | taken sender queue pending unsent =>
      obtain h | h | ⟨bot, connected, h, -⟩ := sender
      · simp [runtimeStep, h] at hcheck
      · cases hbot : selectBot w.bridge.connectedBots reply.externalAccountId <;>
          simp [runtimeStep, h, hbot] at hselect
      · simp [runtimeStep, h] at hsent
    | setting result sender queue pending fits => simp [runtimeStep, sender, pending] at hset
    | finished result sender queue done fits => simp [runtimeStep, hw, done] at hreceive
  have hinbox : w.inboundQueue = [] := by
    cases hqueue : w.inboundQueue with
    | nil => rfl
    | cons message rest =>
      have := hquiet (.handle 0) rfl (by simp)
      simp [step, hwaiting, hqueue] at this
  have hreports : w.outboundQueue = [] := by
    cases hqueue : w.outboundQueue with
    | nil => rfl
    | cons result results =>
      have := hquiet (.takeIn 0) rfl (by simp)
      simp [step, hqueue] at this
  simp [World.openIds, hwaiting, hinbox, hreports]

lemma Orderly.sender_ne_dead (hs : Orderly s) : s.sender ≠ .dead := by
  intro hdead
  obtain ⟨_, -, -, -, -, ⟨-, h | ⟨_, _, h, -⟩⟩ | ⟨_, h, -⟩⟩ :=
    hs.busy (by simp [Calm, hdead]) (by simp [hdead]) <;> simp [hdead] at h

/-! ## Handing out again -/

lemma status_cases (hw : Consistent pluginId w) {row : PluginImDeliveryOutbox}
    (hrow : row ∈ w.manager.outbox) :
    row.status = .delivered ∨ row.status = .queued ∨ row.status = .delivering := by
  have hunfailed := hw.unfailed row.id
  have hget : get w.manager.outbox row.id = some row := get_of_mem hw.keys hrow
  rw [statusOf, hget, Option.map_some] at hunfailed
  cases hstatus : row.status with
  | queued => exact .inr (.inl rfl)
  | delivering => exact .inr (.inr rfl)
  | delivered => exact .inl rfl
  | failed => exact absurd (congrArg some hstatus) hunfailed

lemma handed_out_again (hw : Consistent pluginId w) {row : PluginImDeliveryOutbox}
    (hrow : row ∈ w.manager.outbox) (hstatus : row.status ≠ .delivered) :
    ∃ t, ∀ now, t ≤ now → ∀ put : RowId → PutOutcome, put row.id = .done →
      ∀ w', step pyStr pluginId w (.dispatch put now) = some w' → row.id ∈ w'.openIds := by
  obtain ⟨deadline, hdeadline⟩ : ∃ t, ∀ attempt ∈ w.manager.imDeliveriesInFlight,
      attempt.deadline ≤ t := by
    refine ⟨(w.manager.imDeliveriesInFlight.map InFlight.deadline).sum, fun attempt hattempt => ?_⟩
    exact List.le_sum_of_mem (List.mem_map_of_mem hattempt)
  refine ⟨max deadline (row.nextAttemptAt.getD 0), fun now hnow put hput w' h => ?_⟩
  obtain ⟨new, hnew⟩ := handsOut_dispatch put now hw.keys
  obtain rfl := Option.some.inj h
  have hexpired : (w.manager.expire now).imDeliveriesInFlight = [] := by
    refine List.filter_eq_nil_iff.mpr fun attempt hattempt => ?_
    simpa using (hdeadline attempt hattempt).trans ((le_max_left _ _).trans hnow)
  have hdue : row.Due now := by
    refine ⟨(status_cases hw hrow).resolve_left hstatus, fun t ht => ?_⟩
    rw [Option.mem_def.mp ht] at hnow
    exact (le_max_right _ _).trans hnow
  have hmem : row.id ∈ new.map DeliverReply.deliveryId := by
    refine (hnew.taken row.id).mpr ⟨?_, by simp [hexpired], hput⟩
    exact List.mem_map_of_mem (List.mem_filter.mpr ⟨hrow, by simpa using hdue⟩)
  simp only [World.openIds, hnew.handed, List.map_append, List.mem_append]
  left
  right
  rwa [show (w.manager.expire now).handed = w.manager.handed from rfl, List.drop_left]

/-! ## Every run -/

/-- The bot of the account where that is connected, and else the first that is. -/
def ChosenFor (account : Option String) (connected : List String) (bot : String) : Prop :=
  bot ∈ connected ∧
    ((account = some bot) ∨
      ((∀ a, account = some a → a = "" ∨ a ∉ connected) ∧ connected.head? = some bot))

lemma chosenFor_of_selectBot {account : Option String} {connected : List String} {bot : String}
    (h : selectBot connected account = some bot) : ChosenFor account connected bot := by
  cases account with
  | none => exact ⟨List.mem_of_head? h, .inr ⟨by simp, h⟩⟩
  | some account =>
    unfold selectBot at h
    by_cases hc : account ≠ "" ∧ account ∈ connected
    · simp only [if_pos hc, Option.some.injEq] at h
      exact ⟨h ▸ hc.2, .inl (congrArg some h)⟩
    · simp only [if_neg hc] at h
      refine ⟨List.mem_of_head? h, .inr ⟨fun a ha => ?_, h⟩⟩
      obtain rfl := Option.some.inj ha
      exact (not_and_or.mp hc).imp_left not_not.mp

lemma consistent_initial : Consistent pluginId {} where
  keys := List.nodup_nil
  clean := by simp
  plugins := by simp
  unfailed := by simp [statusOf, Table.get]
  orderly :=
    { live := ⟨.inl rfl, by simp⟩, settled := by simp, fresh := by simp [Runtime.sentOf]
      reported := by simp, selected := by simp, names := by simp }
  nodup := by simp [World.openIds]
  inFlight := by simp [World.openIds]
  delivering := by simp [World.openIds]
  retryable := by simp
  once := by simp [Runtime.sentTo]

/-- In every run in which the times run out only early (`InTime`): a reply reported well was sent
once, by the bot of its account or, where that is not connected, the first one; a reply reported
otherwise was not sent, and is not later; the sender loop lives, and once it has started and no step
is left, every reply handed out has been reported and taken in; no reply is sent twice; and each is
delivered, or on its way, or handed out again. -/
theorem replies_sent_once {es : List Event} (hrun : run (step pyStr pluginId) {} es = some w)
    (ht : StepsMeet (step pyStr pluginId) InTime {} es) :
    (∀ x ∈ w.bridge.reported,
      (x.2.ok = true → ∃ sent, w.bridge.sentOf x.1.attempt = [sent] ∧ sent.reply = x.1 ∧
        ChosenFor x.1.externalAccountId sent.connected sent.bot) ∧
      (x.2.ok = false → x.2.retryable = true ∧ w.bridge.sentOf x.1.attempt = [])) ∧
    w.bridge.sender ≠ .dead ∧
    (∃ n, ∀ es' w', run (step pyStr pluginId) w es' = some w' →
      StepsMeet (step pyStr pluginId) (fun _ e => e.own = true) w es' → es'.length ≤ n) ∧
    (Quiet pyStr pluginId w → w.bridge.sender ≠ .notStarted → w.openIds = []) ∧
    (∀ d, (w.bridge.sentTo d).length ≤ 1) ∧
    (∀ row ∈ w.manager.outbox, row.status = .delivered ∨
      ∃ t, ∀ now, t ≤ now → ∀ put : RowId → PutOutcome, put row.id = .done →
        ∀ w', step pyStr pluginId w (.dispatch put now) = some w' → row.id ∈ w'.openIds) := by
  have hw : Consistent pluginId w := invariant_of_stepsMeet (Consistent pluginId)
    (fun _ _ _ => consistent_step) consistent_initial ht hrun
  refine ⟨fun x hx => ?_, hw.orderly.sender_ne_dead, ⟨w.weight, fun es' w' hrun' hown => ?_⟩,
    openIds_eq_nil_of_quiet hw.orderly, fun d => ?_, fun row hrow => ?_⟩
  · have hfits := hw.orderly.fits_of_reported hx
    refine ⟨fun hok => ?_, fun hfailed => ?_⟩
    · rw [ImDeliveryResult.Fits, if_pos hok] at hfits
      obtain ⟨sent, hsent⟩ := List.length_eq_one_iff.mp hfits.1
      have hmem : sent ∈ w.bridge.sentOf x.1.attempt := by
        rw [hsent]
        exact List.mem_singleton_self _
      obtain ⟨hsentMem, hattempt⟩ := List.mem_filter.mp hmem
      have hreply := hw.orderly.names sent hsentMem x.1 (.inr (List.mem_map_of_mem hx))
        (of_decide_eq_true hattempt).symm
      refine ⟨sent, hsent, hreply.symm, ?_⟩
      rw [hreply]
      exact chosenFor_of_selectBot (hw.orderly.selected sent hsentMem)
    · have hnot : ¬ x.2.ok = true := by simp [hfailed]
      rw [ImDeliveryResult.Fits, if_neg hnot] at hfits
      exact ⟨hfits.2.resolve_left hnot, List.length_eq_zero_iff.mp hfits.1⟩
  · exact length_le_of_stepsMeet (fun _ => True) World.weight
      (fun _ _ _ _ he h => ⟨trivial, weight_step he h⟩) trivial hown hrun'
  · rcases hw.once d with hnone | ⟨hone, -⟩
    · rw [hnone]
      exact Nat.zero_le _
    · exact hone.le
  · by_cases hstatus : row.status = .delivered
    · exact .inl hstatus
    · exact .inr (handed_out_again hw hrow hstatus)

/-- A reply of the account `a` is handed out at 0 s and taken up; `b` is the bot that is
connected. -/
def handedToBridge : List Event :=
  [.enqueue "reply" (JsonDict.empty.set "external_account_id" (.str "a")) 0,
    .dispatch (fun _ => .done) 0, .bridge (.rememberBot "b"), .bridge .startSender]

/-- The bridge takes up a reply, sends it, and reports it. -/
def sendOne : List Event :=
  [.handle 0, .bridge .get, .bridge .checkDone, .bridge .selectBot, .bridge .sent,
    .bridge .setResult, .bridge .receive]

/-- The manager hands the reply out once more when its thirty seconds are over, while the first is
still in the queue. -/
def handedOutTwice : List Event :=
  handedToBridge ++ [.dispatch (fun _ => .done) (seconds 31)] ++ sendOne ++ sendOne

theorem sendOne_sent_once :
    ∃ w, run (step (fun _ => "") "plugin") {} (handedToBridge ++ sendOne ++ [.takeIn 1]) = some w ∧
      w.bridge.reported.map Prod.snd = [{ ok := true }] ∧ ∀ d, (w.bridge.sentTo d).length ≤ 1 := by
  have hrun : (run (step (fun _ => "") "plugin") {}
        (handedToBridge ++ sendOne ++ [.takeIn 1])).isSome ∧
      StepsMeet (step (fun _ => "") "plugin") InTime {}
        (handedToBridge ++ sendOne ++ [.takeIn 1]) := by decide +kernel
  obtain ⟨w, hw⟩ := Option.isSome_iff_exists.mp hrun.1
  have hreported : (run (step (fun _ => "") "plugin") {}
      (handedToBridge ++ sendOne ++ [.takeIn 1])).map (fun w => w.bridge.reported.map Prod.snd) =
        some [{ ok := true }] := by decide +kernel
  rw [hw] at hreported
  exact ⟨w, hw, Option.some.inj hreported, (replies_sent_once hw hrun.2).2.2.2.2.1⟩

/-- Without any time running out in the bridge, a reply of the account `a` is sent by `b`, and one
that is handed out again before it is reported is sent twice. -/
theorem other_bot_and_twice :
    (∃ w, run (step (fun _ => "") "plugin") {} (handedToBridge ++ sendOne) = some w ∧
      ∃ x ∈ w.bridge.reported, x.2.ok = true ∧ x.1.externalAccountId = some "a" ∧
        (w.bridge.sentOf x.1.attempt).map Sent.bot = ["b"]) ∧
    (∃ w, run (step (fun _ => "") "plugin") {} handedOutTwice = some w ∧
      (w.bridge.sentTo "reply").length = 2) := by
  have hother : (run (step (fun _ => "") "plugin") {} (handedToBridge ++ sendOne)).map
      (fun w => (w.bridge.reported, (w.bridge.sentOf 0).map Sent.bot)) =
        some ([(⟨0, "reply", some "a"⟩, { ok := true })], ["b"]) := by decide +kernel
  have htwice : (run (step (fun _ => "") "plugin") {} handedOutTwice).map
      (fun w => (w.bridge.sentTo "reply").length) = some 2 := by decide +kernel
  constructor
  · obtain ⟨w, hw, h⟩ := Option.map_eq_some_iff.mp hother
    obtain ⟨hreported, hbot⟩ := Prod.mk.inj h
    refine ⟨w, hw, (⟨0, "reply", some "a"⟩, { ok := true }), ?_, rfl, rfl, hbot⟩
    rw [hreported]
    exact List.mem_singleton_self _
  · exact Option.map_eq_some_iff.mp htwice

/-- The times that `InTime` leaves out: a wait that ends during a send reports a reply that is sent
all the same, and the sender loop does not outlive it. -/
theorem dead_of_late_timeout {reply : ImOutboundReply} {bot : String} {connected : List String}
    (hwaiting : s.waiting = some reply) (hsender : s.sender = .sending reply bot connected)
    (hpending : s.futures reply.attempt = .pending) :
    ∃ s', run runtimeStep s [.timeout, .sent, .setResult] = some s' ∧ s'.sender = .dead ∧
      (reply, timedOut) ∈ s'.reported ∧ s'.sentOf reply.attempt ≠ [] := by
  refine ⟨_, by simp [run, runtimeStep, hwaiting, hsender, hpending, report, Future.cancel]; rfl,
    rfl,
    ?_, ?_⟩
  · simp
  · simp [Runtime.sentOf]

end Outbound

end CocoonSit
