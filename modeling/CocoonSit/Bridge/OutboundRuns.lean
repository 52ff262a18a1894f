import CocoonSit.Bridge.Outbound

/-!
# What becomes of a reply

As long as a wait does not time out once the sender loop has found the reply's future not done, the
reply that is waited for is in one of four places: in the queue, with the sender, with the sender
and a result, or its future has the result.  What has been reported is settled: it was sent once if
its future has a good result, and not at all otherwise.

With the outbox, every reply is handed out again only once the report on it has been taken in, as
long as its thirty seconds do not run out before; so no reply is sent twice.
-/

namespace CocoonSit

open Table TransitionSystem

namespace Outbound

variable {s s' : Runtime} {reply : ImOutboundReply}

/-! ## The bridge -/

def Runtime.sentOf (s : Runtime) (attempt : ℕ) : List Sent :=
  s.sent.filter fun x => x.reply.attempt = attempt

/-- What is reported well was sent once, and what is not was not sent and is to be tried again. -/
def ImDeliveryResult.Fits (result : ImDeliveryResult) (sent : List Sent) : Prop :=
  sent.length = (if result.ok then 1 else 0) ∧ (result.ok ∨ result.retryable)

def Settled (s : Runtime) (attempt : ℕ) : Prop :=
  match s.futures attempt with
  | .pending => False
  | .cancelled => s.sentOf attempt = []
  | .finished result => result.Fits (s.sentOf attempt)

/-- A reply that is not waited for any more. -/
def Old (s : Runtime) (x : ImOutboundReply) : Prop :=
  x.attempt < s.attempts ∧ ∀ reply ∈ s.waiting, x.attempt ≠ reply.attempt

/-- The sender loop has nothing to do with what is waited for. -/
def Calm (s : Runtime) : Prop :=
  s.sender = .notStarted ∨ s.sender = .idle ∨ ∃ x, s.sender = .holding x ∧ Old s x

/-- Where the reply is that is waited for. -/
inductive Stage (s : Runtime) (reply : ImOutboundReply) : Prop where
  | queued (old : List ImOutboundReply) (calm : Calm s) (queue : s.outboundReplies = old ++ [reply])
      (hold : ∀ x ∈ old, Old s x) (pending : s.futures reply.attempt = .pending)
      (unsent : s.sentOf reply.attempt = [])
  | taken
      (sender : s.sender = .holding reply ∨ s.sender = .checked reply ∨
        ∃ bot connected, s.sender = .sending reply bot connected ∧
          selectBot connected reply.externalAccountId = some bot)
      (queue : s.outboundReplies = []) (pending : s.futures reply.attempt = .pending)
      (unsent : s.sentOf reply.attempt = [])
  | setting (result : ImDeliveryResult) (sender : s.sender = .setting reply result)
      (queue : s.outboundReplies = []) (pending : s.futures reply.attempt = .pending)
      (fits : result.Fits (s.sentOf reply.attempt))
  | finished (result : ImDeliveryResult) (sender : s.sender = .idle)
      (queue : s.outboundReplies = []) (done : s.futures reply.attempt = .finished result)
      (fits : result.Fits (s.sentOf reply.attempt))

def Live (s : Runtime) : Prop :=
  match s.waiting with
  | none => Calm s ∧ ∀ x ∈ s.outboundReplies, Old s x
  | some reply => reply.attempt < s.attempts ∧ Stage s reply

lemma Live.of_none (hw : s.waiting = none) (h : Calm s ∧ ∀ x ∈ s.outboundReplies, Old s x) :
    Live s := by
  rwa [Live, hw]

lemma Live.of_some (hw : s.waiting = some reply) (h : reply.attempt < s.attempts ∧ Stage s reply) :
    Live s := by
  rwa [Live, hw]

structure Orderly (s : Runtime) : Prop where
  live : Live s
  settled : ∀ k < s.attempts, (∀ reply ∈ s.waiting, k ≠ reply.attempt) → Settled s k
  fresh : ∀ k, s.attempts ≤ k → s.sentOf k = []
  reported : ∀ x ∈ s.reported, Old s x.1 ∧
    (s.futures x.1.attempt = .finished x.2 ∨
      (s.futures x.1.attempt = .cancelled ∧ x.2 = timedOut))
  selected : ∀ x ∈ s.sent, selectBot x.connected x.reply.externalAccountId = some x.bot
  names : ∀ x ∈ s.sent, ∀ reply, reply ∈ s.waiting ∨ reply ∈ s.reported.map Prod.fst →
    reply.attempt = x.reply.attempt → reply = x.reply

/-- A wait times out only as long as the reply is queued, or the sender loop has not looked at its
future. -/
def BeforeCheck (s : Runtime) : RuntimeEvent → Prop
  | .timeout => ∀ reply ∈ s.waiting, reply ∈ s.outboundReplies ∨ s.sender = .holding reply
  | _ => True

instance (s : Runtime) (e : RuntimeEvent) : Decidable (BeforeCheck s e) := by
  cases e <;> unfold BeforeCheck <;> infer_instance

lemma Old.not_pending (hs : Orderly s) {x : ImOutboundReply} (hx : Old s x) :
    s.futures x.attempt ≠ .pending := by
  intro hpending
  have := hs.settled x.attempt hx.1 hx.2
  rw [Settled, hpending] at this
  exact this

lemma Orderly.stage (hs : Orderly s) (hw : s.waiting = some reply) :
    reply.attempt < s.attempts ∧ Stage s reply := by
  have := hs.live
  rwa [Live, hw] at this

lemma Orderly.calm (hs : Orderly s) (hw : s.waiting = none) :
    Calm s ∧ ∀ x ∈ s.outboundReplies, Old s x := by
  have := hs.live
  rwa [Live, hw] at this

lemma Orderly.busy (hs : Orderly s) (hcalm : ¬ Calm s) (hholding : ∀ x, s.sender ≠ .holding x) :
    ∃ reply, s.waiting = some reply ∧ reply.attempt < s.attempts ∧ s.outboundReplies = [] ∧
      s.futures reply.attempt = .pending ∧
      ((s.sentOf reply.attempt = [] ∧ (s.sender = .checked reply ∨ ∃ bot connected,
          s.sender = .sending reply bot connected ∧
            selectBot connected reply.externalAccountId = some bot)) ∨
        ∃ result, s.sender = .setting reply result ∧ result.Fits (s.sentOf reply.attempt)) := by
  rcases Option.eq_none_or_eq_some s.waiting with hw | ⟨reply, hw⟩
  · exact absurd (hs.calm hw).1 hcalm
  · obtain ⟨hlt, hstage⟩ := hs.stage hw
    refine ⟨reply, hw, hlt, ?_⟩
    cases hstage with
    | queued _ calm => exact absurd calm hcalm
    | taken sender queue pending unsent =>
      exact ⟨queue, pending, .inl ⟨unsent, sender.resolve_left (hholding reply)⟩⟩
    | setting result sender queue pending fits =>
      exact ⟨queue, pending, .inr ⟨result, sender, fits⟩⟩
    | finished _ sender => exact absurd (.inr (.inl sender)) hcalm

lemma Orderly.checked (hs : Orderly s) (h : s.sender = .checked reply) :
    s.waiting = some reply ∧ reply.attempt < s.attempts ∧ s.outboundReplies = [] ∧
      s.futures reply.attempt = .pending ∧ s.sentOf reply.attempt = [] := by
  obtain ⟨reply', hw, hlt, queue, pending, ⟨unsent, h' | ⟨_, _, h', -⟩⟩ | ⟨_, h', -⟩⟩ :=
    hs.busy (by simp [Calm, h]) (by simp [h])
  · obtain rfl := Sender.checked.inj (h.symm.trans h')
    exact ⟨hw, hlt, queue, pending, unsent⟩
  · simp [h] at h'
  · simp [h] at h'

lemma Orderly.sending (hs : Orderly s) {bot : String} {connected : List String}
    (h : s.sender = .sending reply bot connected) :
    s.waiting = some reply ∧ reply.attempt < s.attempts ∧ s.outboundReplies = [] ∧
      s.futures reply.attempt = .pending ∧ s.sentOf reply.attempt = [] ∧
      selectBot connected reply.externalAccountId = some bot := by
  obtain ⟨reply', hw, hlt, queue, pending, ⟨unsent, h' | ⟨_, _, h', hbot⟩⟩ | ⟨_, h', -⟩⟩ :=
    hs.busy (by simp [Calm, h]) (by simp [h])
  · simp [h] at h'
  · obtain ⟨rfl, rfl, rfl⟩ := Sender.sending.inj (h.symm.trans h')
    exact ⟨hw, hlt, queue, pending, unsent, hbot⟩
  · simp [h] at h'

lemma Orderly.setting (hs : Orderly s) {result : ImDeliveryResult}
    (h : s.sender = .setting reply result) :
    s.waiting = some reply ∧ reply.attempt < s.attempts ∧ s.outboundReplies = [] ∧
      s.futures reply.attempt = .pending ∧ result.Fits (s.sentOf reply.attempt) := by
  obtain ⟨reply', hw, hlt, queue, pending, ⟨-, h' | ⟨_, _, h', -⟩⟩ | ⟨_, h', fits⟩⟩ :=
    hs.busy (by simp [Calm, h]) (by simp [h])
  · simp [h] at h'
  · simp [h] at h'
  · obtain ⟨rfl, rfl⟩ := Sender.setting.inj (h.symm.trans h')
    exact ⟨hw, hlt, queue, pending, fits⟩

lemma Orderly.of_live (hs : Orderly s) (hwaiting : s'.waiting = s.waiting)
    (hattempts : s'.attempts = s.attempts) (hreported : s'.reported = s.reported)
    (hfutures : ∀ k, (∀ reply ∈ s.waiting, k ≠ reply.attempt) → s'.futures k = s.futures k)
    (hsent : s'.sent = s.sent ∨ ∃ x, s'.sent = s.sent ++ [x] ∧ s.waiting = some x.reply ∧
      selectBot x.connected x.reply.externalAccountId = some x.bot)
    (hlive : Live s') : Orderly s' := by
  have hsentOf : ∀ k, (∀ reply ∈ s.waiting, k ≠ reply.attempt) → s'.sentOf k = s.sentOf k := by
    intro k hk
    unfold Runtime.sentOf
    rcases hsent with heq | ⟨x, heq, hx, -⟩
    · rw [heq]
    · have hne : x.reply.attempt ≠ k := fun h => hk _ hx h.symm
      rw [heq, List.filter_append]
      simp [hne]
  refine ⟨hlive, fun k hk hother => ?_, fun k hk => ?_, fun x hx => ?_, fun x hx => ?_,
    fun x hx reply hreply hattempt => ?_⟩
  · rw [hwaiting] at hother
    rw [hattempts] at hk
    have := hs.settled k hk hother
    rwa [Settled, hfutures k hother, hsentOf k hother]
  · rw [hattempts] at hk
    rw [hsentOf k, hs.fresh k hk]
    rintro reply hreply rfl
    exact absurd (hs.stage hreply).1 (Nat.not_lt.mpr hk)
  · rw [hreported] at hx
    obtain ⟨hold, hfuture⟩ := hs.reported x hx
    rw [Old, hwaiting, hattempts, hfutures _ hold.2]
    exact ⟨hold, hfuture⟩
  · rcases hsent with heq | ⟨x', heq, -, hselected⟩
    · rw [heq] at hx
      exact hs.selected x hx
    · rw [heq] at hx
      rcases List.mem_append.mp hx with hx | hx
      · exact hs.selected x hx
      · rw [List.mem_singleton.mp hx]
        exact hselected
  · rw [hwaiting, hreported] at hreply
    rcases hsent with heq | ⟨x', heq, hx', -⟩
    · rw [heq] at hx
      exact hs.names x hx reply hreply hattempt
    · rw [heq] at hx
      rcases List.mem_append.mp hx with hx | hx
      · exact hs.names x hx reply hreply hattempt
      · rw [List.mem_singleton.mp hx] at hattempt ⊢
        rcases hreply with hreply | hreply
        · exact Option.some.inj (hreply.symm.trans hx')
        · obtain ⟨y, hy, rfl⟩ := List.mem_map.mp hreply
          exact absurd hattempt ((hs.reported y hy).1.2 _ hx')

lemma Orderly.report (hs : Orderly s) (hw : s.waiting = some reply) {result : ImDeliveryResult}
    {futures : ℕ → Future} (hfutures : ∀ k, k ≠ reply.attempt → futures k = s.futures k)
    (hcalm : Calm { s with waiting := none })
    (hqueue : ∀ x ∈ s.outboundReplies, x.attempt < s.attempts)
    (hsettled : Settled { s with futures := futures } reply.attempt)
    (hfuture : futures reply.attempt = .finished result ∨
      (futures reply.attempt = .cancelled ∧ result = timedOut)) :
    Orderly (report reply result { s with futures := futures }) := by
  have hlt := (hs.stage hw).1
  refine ⟨⟨hcalm, fun x hx => ⟨hqueue x hx, by simp [Outbound.report]⟩⟩, fun k hk _ => ?_, hs.fresh,
    fun x hx => ?_, hs.selected, fun x hx reply' hreply' hattempt => ?_⟩
  · by_cases heq : k = reply.attempt
    · rw [heq]
      exact hsettled
    · have hother : ∀ reply' ∈ s.waiting, k ≠ reply'.attempt := by
        intro reply' hreply'
        rw [hw] at hreply'
        rwa [← Option.some.inj hreply']
      have := hs.settled k hk hother
      rw [Settled] at this ⊢
      rw [show (Outbound.report reply result { s with futures := futures }).futures k = futures k
        from rfl, hfutures k heq]
      exact this
  · rcases List.mem_append.mp hx with hx | hx
    · obtain ⟨hold, hold'⟩ := hs.reported x hx
      refine ⟨⟨hold.1, by simp [Outbound.report]⟩, ?_⟩
      have hne : x.1.attempt ≠ reply.attempt := hold.2 reply hw
      rw [show (Outbound.report reply result { s with futures := futures }).futures x.1.attempt =
        s.futures x.1.attempt from hfutures _ hne]
      exact hold'
    · rw [List.mem_singleton.mp hx]
      exact ⟨⟨hlt, by simp [Outbound.report]⟩, hfuture⟩
  · refine hs.names x hx reply' ?_ hattempt
    rcases hreply' with hreply' | hreply'
    · cases hreply'
    · simp only [Outbound.report, List.map_append, List.mem_append, List.map_cons, List.map_nil,
        List.mem_singleton] at hreply'
      rcases hreply' with hreply' | rfl
      · exact .inr hreply'
      · exact .inl hw

lemma orderly_handle (hs : Orderly s) (hw : s.waiting = none) (deliveryId : RowId)
    (account : Option String) : Orderly (handleOutboundReply deliveryId account s) := by
  obtain ⟨hcalm, hqueue⟩ := hs.calm hw
  have hkeep : ∀ {k}, k < s.attempts →
      (handleOutboundReply deliveryId account s).futures k = s.futures k := fun hk =>
    Function.update_of_ne hk.ne _ _
  have hold : ∀ {x}, Old s x → Old (handleOutboundReply deliveryId account s) x := fun {x} hx => by
    refine ⟨Nat.lt_succ_of_lt hx.1, fun reply hreply => ?_⟩
    rw [← Option.some.inj hreply]
    exact hx.1.ne
  refine ⟨⟨Nat.lt_succ_self _, ?_⟩, fun k hk hother => ?_, fun k hk => ?_, fun x hx => ?_,
    hs.selected, fun x hx reply hreply hattempt => ?_⟩
  · refine .queued s.outboundReplies ?_ rfl (fun x hx => hold (hqueue x hx))
      (Function.update_self _ _ _) (hs.fresh _ le_rfl)
    exact hcalm.imp_right (Or.imp_right fun ⟨x, hx, hx'⟩ => ⟨x, hx, hold hx'⟩)
  · have hne : k ≠ s.attempts := hother _ rfl
    have hlt : k < s.attempts := Nat.lt_of_le_of_ne (Nat.lt_succ_iff.mp hk) hne
    have := hs.settled k hlt (by simp [hw])
    rw [Settled, hkeep hlt]
    exact this
  · exact hs.fresh k (Nat.le_of_succ_le hk)
  · obtain ⟨hx, hfuture⟩ := hs.reported x hx
    rw [hkeep hx.1]
    exact ⟨hold hx, hfuture⟩
  · rcases hreply with hreply | hreply
    · -- nothing has been sent for the new attempt
      have hfresh := List.filter_eq_nil_iff.mp (hs.fresh s.attempts le_rfl) x hx
      rw [← Option.some.inj hreply] at hattempt
      exact absurd hattempt.symm (by simpa using hfresh)
    · exact hs.names x hx reply (.inr hreply) hattempt

theorem orderly_step {e : RuntimeEvent} (hs : Orderly s) (ht : BeforeCheck s e)
    (h : runtimeStep s e = some s') : Orderly s' := by
  cases e with
  | timeout =>
    cases hw : s.waiting with
    | none => simp [runtimeStep, hw] at h
    | some reply =>
      obtain rfl : _ = s' := by simpa [runtimeStep, hw] using h
      obtain ⟨hlt, hstage⟩ := hs.stage hw
      have hnone : ∀ {x}, Old s x → Old { s with waiting := none } x :=
        fun hx => ⟨hx.1, by simp⟩
      have hsettle : s.futures reply.attempt = .pending → s.sentOf reply.attempt = [] →
          Settled { s with
            futures := Function.update s.futures reply.attempt
              (s.futures reply.attempt).cancel } reply.attempt := fun hpending hunsent => by
        rw [Settled]
        simp only [Function.update_self, hpending, Future.cancel]
        exact hunsent
      have hfuture : s.futures reply.attempt = .pending →
          Function.update s.futures reply.attempt (s.futures reply.attempt).cancel
            reply.attempt = .cancelled := fun hpending => by
        rw [Function.update_self, hpending, Future.cancel]
      have hkeep : ∀ k, k ≠ reply.attempt → Function.update s.futures reply.attempt
          (s.futures reply.attempt).cancel k = s.futures k :=
        fun k hk => Function.update_of_ne hk _ _
      cases hstage with
      | queued old calm queue hold pending unsent =>
        refine hs.report hw hkeep ?_ ?_ (hsettle pending unsent) (.inr ⟨hfuture pending, rfl⟩)
        · exact calm.imp_right (Or.imp_right fun ⟨x, hx, hx'⟩ => ⟨x, hx, hnone hx'⟩)
        · intro x hx
          rw [queue] at hx
          rcases List.mem_append.mp hx with hx | hx
          · exact (hold x hx).1
          · rwa [List.mem_singleton.mp hx]
      | taken sender queue pending unsent =>
        -- the sender has the reply, so it has not looked at its future
        have hholding : s.sender = .holding reply := by
          have := ht reply hw
          rw [queue] at this
          exact this.resolve_left List.not_mem_nil
        refine hs.report hw hkeep (.inr (.inr ⟨reply, hholding, hlt, by simp⟩)) ?_
          (hsettle pending unsent) (.inr ⟨hfuture pending, rfl⟩)
        rw [queue]
        simp
      | setting _ sender queue | finished _ sender queue =>
        rcases ht reply hw with hmem | hholding
        · rw [queue] at hmem
          exact absurd hmem List.not_mem_nil
        · rw [sender] at hholding
          cases hholding
  | receive =>
    cases hw : s.waiting with
    | none => simp [runtimeStep, hw] at h
    | some reply =>
      cases (hs.stage hw).2 with
      | queued old calm queue hold pending unsent => simp [runtimeStep, hw, pending] at h
      | taken sender queue pending unsent => simp [runtimeStep, hw, pending] at h
      | setting result sender queue pending fits => simp [runtimeStep, hw, pending] at h
      | finished result sender queue done fits =>
        obtain rfl : _ = s' := by simpa [runtimeStep, hw, done] using h
        have hsettled : Settled s reply.attempt := by
          rw [Settled, done]
          exact fits
        have hkeep : ∀ k, k ≠ reply.attempt → s.futures k = s.futures k := fun _ _ => rfl
        refine hs.report hw hkeep (.inr (.inl sender)) ?_ hsettled (.inl done)
        rw [queue]
        simp
  | rememberBot selfId =>
    cases h
    refine hs.of_live rfl rfl rfl (fun _ _ => rfl) (.inl rfl) ?_
    rcases Option.eq_none_or_eq_some s.waiting with hw | ⟨reply, hw⟩
    · exact .of_none hw (hs.calm hw)
    · obtain ⟨hlt, hstage⟩ := hs.stage hw
      refine .of_some hw ⟨hlt, ?_⟩
      cases hstage with
      | queued old calm queue hold pending unsent =>
        exact .queued old calm queue hold pending unsent
      | taken sender queue pending unsent => exact .taken sender queue pending unsent
      | setting result sender queue pending fits =>
        exact .setting result sender queue pending fits
      | finished result sender queue done fits => exact .finished result sender queue done fits
  | startSender =>
    by_cases hsender : s.sender = .notStarted
    · rw [runtimeStep, if_pos hsender] at h
      cases h
      refine hs.of_live rfl rfl rfl (fun _ _ => rfl) (.inl rfl) ?_
      rcases Option.eq_none_or_eq_some s.waiting with hw | ⟨reply, hw⟩
      · exact .of_none hw ⟨.inr (.inl rfl), (hs.calm hw).2⟩
      · obtain ⟨hlt, hstage⟩ := hs.stage hw
        refine .of_some hw ⟨hlt, ?_⟩
        cases hstage with
        | queued old calm queue hold pending unsent =>
          exact .queued old (.inr (.inl rfl)) queue hold pending unsent
        | taken sender queue pending unsent => simp [hsender] at sender
        | setting result sender queue pending fits => simp [hsender] at sender
        | finished result sender queue done fits => simp [hsender] at sender
    · rw [runtimeStep, if_neg hsender] at h
      cases h
  | get =>
    cases hsender : s.sender <;> cases hqueue : s.outboundReplies <;>
      simp only [runtimeStep, hsender, hqueue, reduceCtorEq, Option.some.injEq] at h
    next x rest =>
      subst h
      refine hs.of_live rfl rfl rfl (fun _ _ => rfl) (.inl rfl) ?_
      rcases Option.eq_none_or_eq_some s.waiting with hw | ⟨reply, hw⟩
      · have hold := (hs.calm hw).2
        rw [hqueue] at hold
        obtain ⟨hx, hrest⟩ := List.forall_mem_cons.mp hold
        exact .of_none hw ⟨.inr (.inr ⟨x, rfl, hx⟩), hrest⟩
      · obtain ⟨hlt, hstage⟩ := hs.stage hw
        refine .of_some hw ⟨hlt, ?_⟩
        cases hstage with
        | queued old calm queue hold pending unsent =>
          rw [hqueue] at queue
          cases old with
          | nil =>
            obtain ⟨rfl, rfl⟩ := List.cons.inj queue
            exact .taken (.inl rfl) rfl pending unsent
          | cons y old =>
            obtain ⟨rfl, rfl⟩ := List.cons.inj queue
            obtain ⟨hx, hrest⟩ := List.forall_mem_cons.mp hold
            exact .queued old (.inr (.inr ⟨x, rfl, hx⟩)) rfl hrest pending unsent
        | taken sender queue pending unsent => simp [hsender] at sender
        | setting result sender queue pending fits => simp [hsender] at sender
        | finished result sender queue done fits => simp [hqueue] at queue
  | checkDone =>
    cases hsender : s.sender <;>
      simp only [runtimeStep, hsender, reduceCtorEq, Option.some.injEq] at h
    next x =>
      subst h
      refine hs.of_live rfl rfl rfl (fun _ _ => rfl) (.inl rfl) ?_
      have hdone : Old s x → s.futures x.attempt ≠ .pending := Old.not_pending hs
      have hcalm : Calm s → Old s x := fun hcalm => by
        obtain h | h | ⟨y, hy, hold⟩ := hcalm
        · simp [hsender] at h
        · simp [hsender] at h
        · obtain rfl := Sender.holding.inj (hsender.symm.trans hy)
          exact hold
      rcases Option.eq_none_or_eq_some s.waiting with hw | ⟨reply, hw⟩
      · have hx := hcalm (hs.calm hw).1
        exact .of_none hw ⟨.inr (.inl (if_neg (hdone hx))), (hs.calm hw).2⟩
      · obtain ⟨hlt, hstage⟩ := hs.stage hw
        refine .of_some hw ⟨hlt, ?_⟩
        cases hstage with
        | queued old calm queue hold pending unsent =>
          exact .queued old (.inr (.inl (if_neg (hdone (hcalm calm))))) queue hold pending
            unsent
        | taken sender queue pending unsent =>
          obtain rfl : x = reply := by simpa [hsender] using sender
          exact .taken (.inr (.inl (if_pos pending))) queue pending unsent
        | setting result sender queue pending fits => simp [hsender] at sender
        | finished result sender queue done fits => simp [hsender] at sender
  | selectBot =>
    cases hsender : s.sender <;>
      simp only [runtimeStep, hsender, reduceCtorEq] at h
    next x =>
      obtain ⟨hw, hlt, queue, pending, unsent⟩ := hs.checked hsender
      cases hbot : selectBot s.connectedBots x.externalAccountId with
      | none =>
        rw [hbot] at h
        cases h
        refine hs.of_live rfl rfl rfl (fun _ _ => rfl) (.inl rfl) ?_
        refine .of_some hw ⟨hlt, .setting noBot rfl queue pending ⟨?_, .inr rfl⟩⟩
        exact congrArg List.length unsent
      | some bot =>
        rw [hbot] at h
        cases h
        refine hs.of_live rfl rfl rfl (fun _ _ => rfl) (.inl rfl) ?_
        exact .of_some hw ⟨hlt, .taken (.inr (.inr ⟨bot, _, rfl, hbot⟩)) queue pending unsent⟩
  | sent =>
    cases hsender : s.sender <;>
      simp only [runtimeStep, hsender, reduceCtorEq, Option.some.injEq] at h
    next x bot connected =>
      subst h
      obtain ⟨hw, hlt, queue, pending, unsent, hselected⟩ := hs.sending hsender
      refine hs.of_live rfl rfl rfl (fun _ _ => rfl) (.inr ⟨_, rfl, hw, hselected⟩) ?_
      refine .of_some hw ⟨hlt, .setting _ rfl queue pending ⟨?_, .inl rfl⟩⟩
      have : (s.sent.filter fun y => y.reply.attempt = x.attempt) = [] := unsent
      simp [Runtime.sentOf, this]
  | raised error =>
    cases hsender : s.sender <;>
      simp only [runtimeStep, hsender, reduceCtorEq, Option.some.injEq] at h
    next x bot connected =>
      subst h
      obtain ⟨hw, hlt, queue, pending, unsent, -⟩ := hs.sending hsender
      refine hs.of_live rfl rfl rfl (fun _ _ => rfl) (.inl rfl) ?_
      exact .of_some hw
        ⟨hlt, .setting _ rfl queue pending ⟨congrArg List.length unsent, .inr rfl⟩⟩
  | setResult =>
    cases hsender : s.sender <;> simp only [runtimeStep, hsender, reduceCtorEq] at h
    next x result =>
      obtain ⟨hw, hlt, queue, pending, fits⟩ := hs.setting hsender
      rw [if_pos pending] at h
      cases h
      refine hs.of_live rfl rfl rfl (fun k hk => ?_) (.inl rfl) ?_
      · exact Function.update_of_ne (hk x hw) _ _
      · exact .of_some hw ⟨hlt, .finished result rfl queue (Function.update_self _ _ _) fits⟩

end Outbound

end CocoonSit
