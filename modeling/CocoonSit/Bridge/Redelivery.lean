import Mathlib.Data.List.Perm.Basic
import CocoonSit.Bridge.OutboundRuns

/-!
# The bridge and the outbox together

An id is open from when its reply is handed to the process until the manager has taken in the report
on it.  As long as no thirty seconds run out for an open id, it is open once, and the outbox does
not hand it out again; so a reply that was sent is delivered, or will be when its report is taken
in.
-/

namespace CocoonSit

open Table TransitionSystem

namespace Outbound

/-! ## The manager's part -/

section Manager

variable {s s' : Deliveries} {put : RowId → PutOutcome} {now : Timestamp} {d : RowId}

/-- The status in the outbox. -/
def statusOf (s : Deliveries) (d : RowId) : Option DeliveryStatus :=
  (get s.outbox d).map PluginImDeliveryOutbox.status

def inFlightIds (s : Deliveries) : List RowId := s.imDeliveriesInFlight.map InFlight.deliveryId

lemma isSome_statusOf_iff : (statusOf s d).isSome ↔ d ∈ s.outbox.map key := by
  rw [statusOf, Option.isSome_map, get_isSome_iff]

lemma statusOf_of_handsOut {rows : List RowId} {new : List DeliverReply}
    (h : HandsOut put rows s s' new) (hrows : ∀ d ∈ rows, d ∈ s.outbox.map key) (d : RowId) :
    (d ∈ new.map DeliverReply.deliveryId ∧ statusOf s' d = some .delivering) ∨
    (d ∉ new.map DeliverReply.deliveryId ∧ (statusOf s' d = statusOf s d ∨
      (statusOf s' d = some .queued ∧ d ∈ rows ∧ d ∉ inFlightIds s))) := by
  have hkeys : d ∈ s'.outbox.map key ↔ d ∈ s.outbox.map key := by rw [h.keys]
  by_cases hnew : d ∈ new.map DeliverReply.deliveryId
  · have hmem : d ∈ s'.outbox.map key := hkeys.mpr (hrows d ((h.taken d).mp hnew).1)
    obtain ⟨row, hrow⟩ := Option.isSome_iff_exists.mp (get_isSome_iff.mpr hmem)
    refine .inl ⟨hnew, ?_⟩
    rw [statusOf, hrow, Option.map_some, h.delivering d hnew row hrow]
  · refine .inr ⟨hnew, ?_⟩
    cases hrow : get s'.outbox d with
    | none =>
      have hnone : get s.outbox d = none := by
        rw [get_eq_none_iff] at hrow ⊢
        exact mt hkeys.mpr hrow
      left
      rw [statusOf, statusOf, hrow, hnone]
    | some row =>
      rcases h.kept d hnew row hrow with hold | ⟨hqueued, hmem, hflight⟩
      · left
        rw [statusOf, statusOf, hrow, hold]
      · right
        rw [statusOf, hrow, Option.map_some, hqueued]
        exact ⟨rfl, hmem, hflight⟩

variable (now) in
lemma takeIn_spec {pluginId : RowId} {result : DeliveryResult}
    (hclean : strip result.deliveryId = result.deliveryId) (hne : result.deliveryId ≠ "")
    (hmem : result.deliveryId ∈ s.outbox.map key)
    (hplugin : ∀ row ∈ s.outbox, row.pluginId = pluginId) :
    (∀ d, statusOf (handleImDeliveryResult pluginId result now s) d =
      if d = result.deliveryId then some result.status else statusOf s d) ∧
    (∀ d, d ∈ inFlightIds (handleImDeliveryResult pluginId result now s) ↔
      d ∈ inFlightIds s ∧ d ≠ result.deliveryId) ∧
    (handleImDeliveryResult pluginId result now s).outbox =
      update s.outbox result.deliveryId (result.apply now) := by
  obtain ⟨row, hrow⟩ := Option.isSome_iff_exists.mp (get_isSome_iff.mpr hmem)
  have houtbox : (handleImDeliveryResult pluginId result now s).outbox =
      update s.outbox result.deliveryId (result.apply now) := by
    obtain ⟨-, ⟨-, -, houtbox⟩ | ⟨hnone, -⟩⟩ := handleImDeliveryResult_cases s now pluginId result
    · rwa [hclean] at houtbox
    · rw [hclean] at hnone
      exact absurd (hplugin row (mem_of_get hrow)) (hnone hne row hrow)
  refine ⟨fun d => ?_, fun d => ?_, houtbox⟩
  · rw [statusOf, houtbox, get_update result.apply_id]
    by_cases hd : d = result.deliveryId
    · rw [if_pos hd, hd, hrow, Option.map_some, Option.map_some, if_pos (key_of_get hrow),
        result.apply_status]
    · rw [if_neg hd, statusOf]
      cases hrow' : get s.outbox d with
      | none => rfl
      | some row' => rw [Option.map_some, if_neg (by rwa [key_of_get hrow'])]
  · have hflight : (handleImDeliveryResult pluginId result now s).imDeliveriesInFlight =
        s.imDeliveriesInFlight.filter fun attempt => attempt.deliveryId ≠ result.deliveryId := by
      unfold handleImDeliveryResult
      simp only [hclean, if_neg hne, hrow]
      split <;> rfl
    rw [inFlightIds, inFlightIds, hflight]
    simp only [List.mem_map, List.mem_filter, decide_eq_true_eq]
    constructor
    · rintro ⟨attempt, ⟨hmem, hother⟩, rfl⟩
      exact ⟨⟨attempt, hmem, rfl⟩, hother⟩
    · rintro ⟨⟨attempt, hmem, rfl⟩, hother⟩
      exact ⟨attempt, ⟨hmem, hother⟩, rfl⟩

end Manager

/-! ## Both parts -/

section Both

variable {w w' : World} {s s' : Runtime}

/-- What has been handed out and not been taken in. -/
def World.openIds (w : World) : List RowId :=
  w.inboundQueue.map DeliverReply.deliveryId ++
    (w.bridge.waiting.toList.map ImOutboundReply.deliveryId ++
      w.outboundQueue.map DeliveryResult.deliveryId)

/-- The manager's thirty seconds do not run out for what is open, and the bridge's twenty as
`BeforeCheck` has it. -/
def InTime (w : World) : Event → Prop
  | .dispatch _ now =>
    ∀ attempt ∈ w.manager.imDeliveriesInFlight, attempt.deadline ≤ now →
      attempt.deliveryId ∉ w.openIds
  | .bridge e => BeforeCheck w.bridge e
  | _ => True

instance (w : World) (e : Event) : Decidable (InTime w e) := by
  cases e <;> unfold InTime <;> infer_instance

def Runtime.sentTo (s : Runtime) (d : RowId) : List Sent :=
  s.sent.filter fun x => x.reply.deliveryId = d

/-- A reply that was sent: it is delivered, or reported well, or waited for. -/
def Paid (w : World) (d : RowId) : Prop :=
  statusOf w.manager d = some .delivered ∨
  (∃ result ∈ w.outboundQueue, result.deliveryId = d ∧ result.ok = true) ∨
  ∃ reply ∈ w.bridge.waiting, reply.deliveryId = d ∧ w.bridge.sentOf reply.attempt ≠ []

structure Consistent (pluginId : RowId) (w : World) : Prop where
  keys : (w.manager.outbox.map key).Nodup
  clean : ∀ d ∈ w.manager.outbox.map key, strip d = d ∧ d ≠ ""
  plugins : ∀ row ∈ w.manager.outbox, row.pluginId = pluginId
  unfailed : ∀ d, statusOf w.manager d ≠ some .failed
  orderly : Orderly w.bridge
  nodup : w.openIds.Nodup
  inFlight : ∀ d ∈ w.openIds, d ∈ inFlightIds w.manager
  delivering : ∀ d ∈ w.openIds, statusOf w.manager d = some .delivering
  retryable : ∀ result ∈ w.outboundQueue, result.ok = true ∨ result.retryable = true
  once : ∀ d, w.bridge.sentTo d = [] ∨ ((w.bridge.sentTo d).length = 1 ∧ Paid w d)

lemma runtimeStep_spec {e : RuntimeEvent} (h : runtimeStep s e = some s') :
    ((s'.waiting = s.waiting ∧ s'.reported = s.reported) ∨
      ∃ reply result, s.waiting = some reply ∧ s'.waiting = none ∧ s'.sent = s.sent ∧
        s'.reported = s.reported ++ [(reply, result)]) ∧
    (s'.sent = s.sent ∨ ∃ x, s'.sent = s.sent ++ [x] ∧
      s.sender = .sending x.reply x.bot x.connected) := by
  cases e with
  | timeout =>
    cases hw : s.waiting with
    | none => simp [runtimeStep, hw] at h
    | some reply =>
      obtain rfl : _ = s' := by simpa [runtimeStep, hw] using h
      exact ⟨.inr ⟨reply, timedOut, rfl, rfl, rfl, rfl⟩, .inl rfl⟩
  | receive =>
    cases hw : s.waiting with
    | none => simp [runtimeStep, hw] at h
    | some reply =>
      cases hf : s.futures reply.attempt <;> simp [runtimeStep, hw, hf] at h
      subst h
      exact ⟨.inr ⟨reply, _, rfl, rfl, rfl, rfl⟩, .inl rfl⟩
  | rememberBot selfId =>
    cases h
    exact ⟨.inl ⟨rfl, rfl⟩, .inl rfl⟩
  | startSender =>
    obtain ⟨-, rfl⟩ : s.sender = .notStarted ∧ _ = s' := by simpa [runtimeStep] using h
    exact ⟨.inl ⟨rfl, rfl⟩, .inl rfl⟩
  | get =>
    cases hsender : s.sender <;> cases hqueue : s.outboundReplies <;>
      simp only [runtimeStep, hsender, hqueue, reduceCtorEq, Option.some.injEq] at h
    subst h
    exact ⟨.inl ⟨rfl, rfl⟩, .inl rfl⟩
  | checkDone =>
    cases hsender : s.sender <;>
      simp only [runtimeStep, hsender, reduceCtorEq, Option.some.injEq] at h
    subst h
    exact ⟨.inl ⟨rfl, rfl⟩, .inl rfl⟩
  | selectBot =>
    cases hsender : s.sender <;> simp only [runtimeStep, hsender, reduceCtorEq] at h
    next x =>
      cases hbot : selectBot s.connectedBots x.externalAccountId <;> rw [hbot] at h <;>
        cases h <;>
        exact ⟨.inl ⟨rfl, rfl⟩, .inl rfl⟩
  | sent =>
    cases hsender : s.sender <;>
      simp only [runtimeStep, hsender, reduceCtorEq, Option.some.injEq] at h
    subst h
    exact ⟨.inl ⟨rfl, rfl⟩, .inr ⟨_, rfl, rfl⟩⟩
  | raised error =>
    cases hsender : s.sender <;>
      simp only [runtimeStep, hsender, reduceCtorEq, Option.some.injEq] at h
    subst h
    exact ⟨.inl ⟨rfl, rfl⟩, .inl rfl⟩
  | setResult =>
    cases hsender : s.sender <;> simp only [runtimeStep, hsender, reduceCtorEq] at h
    split at h <;> cases h <;> exact ⟨.inl ⟨rfl, rfl⟩, .inl rfl⟩

lemma Orderly.fits_of_reported (hs : Orderly s) {x : ImOutboundReply × ImDeliveryResult}
    (hx : x ∈ s.reported) : x.2.Fits (s.sentOf x.1.attempt) := by
  obtain ⟨hold, hfuture⟩ := hs.reported x hx
  have hsettled := hs.settled x.1.attempt hold.1 hold.2
  rcases hfuture with hfuture | ⟨hfuture, hresult⟩
  · rwa [Settled, hfuture] at hsettled
  · rw [Settled, hfuture] at hsettled
    have hunsent : s.sentOf x.1.attempt = [] := hsettled
    rw [hresult, hunsent]
    exact ⟨rfl, .inr rfl⟩

variable {pluginId : RowId} {pyStr : JsonValue → String}

/-! ### One event after the other -/

lemma Consistent.enqueue (hw : Consistent pluginId w) {newId : RowId} {payload : JsonDict}
    {now : Timestamp} (hnew : newId ∉ w.manager.outbox.map key) (hne : newId ≠ "")
    (hclean : strip newId = newId) :
    Consistent pluginId
      { w with manager := enqueueSingleReply newId pluginId payload now w.manager } := by
  have hstatus : ∀ d, d ∈ w.manager.outbox.map key →
      statusOf (enqueueSingleReply newId pluginId payload now w.manager) d =
        statusOf w.manager d := fun d hd => by
    rw [statusOf, statusOf, enqueueSingleReply, get_append_of_mem hd]
  have hopen : ∀ d status, statusOf w.manager d = some status →
      statusOf (enqueueSingleReply newId pluginId payload now w.manager) d = some status := by
    intro d status h
    rw [hstatus d (isSome_statusOf_iff.mp (by rw [h]; rfl)), h]
  refine ⟨?_, fun d hd => ?_, fun row hrow => ?_, fun d hd => ?_, hw.orderly, hw.nodup, hw.inFlight,
    fun d hd => hopen d _ (hw.delivering d hd), hw.retryable, fun d => ?_⟩
  · rw [enqueueSingleReply, List.map_append]
    exact hw.keys.append (List.nodup_singleton _) (by simpa using hnew)
  · rw [enqueueSingleReply, List.map_append] at hd
    rcases List.mem_append.mp hd with hd | hd
    · exact hw.clean d hd
    · rw [List.mem_singleton.mp hd]
      exact ⟨hclean, hne⟩
  · rcases List.mem_append.mp hrow with hrow | hrow
    · exact hw.plugins row hrow
    · rw [List.mem_singleton.mp hrow]
  · by_cases hmem : d ∈ w.manager.outbox.map key
    · rw [hstatus d hmem] at hd
      exact hw.unfailed d hd
    · rw [statusOf, enqueueSingleReply, get_append, get_eq_none_iff.mpr hmem, Option.none_or] at hd
      obtain ⟨row, hrow, hfailed⟩ := Option.map_eq_some_iff.mp hd
      rw [List.mem_singleton.mp (mem_of_get hrow)] at hfailed
      cases hfailed
  · exact (hw.once d).imp_right (And.imp_right (Or.imp_left (hopen d _)))

lemma Consistent.dispatch (hw : Consistent pluginId w) {put : RowId → PutOutcome} {now : Timestamp}
    (ht : InTime w (.dispatch put now)) (h : step pyStr pluginId w (.dispatch put now) = some w') :
    Consistent pluginId w' := by
  obtain ⟨new, hnew⟩ := handsOut_dispatch put now hw.keys
  have hqueue : (dispatchImDeliveries put now w.manager).handed.drop w.manager.handed.length =
      new := by
    rw [hnew.handed]
    exact List.drop_left
  obtain rfl := Option.some.inj h
  rw [hqueue]
  -- what is open is still waited for
  have hstill : ∀ d ∈ w.openIds, d ∈ inFlightIds (w.manager.expire now) := by
    intro d hd
    obtain ⟨attempt, hattempt, rfl⟩ := List.mem_map.mp (hw.inFlight d hd)
    refine List.mem_map_of_mem (List.mem_filter.mpr ⟨hattempt, ?_⟩)
    simpa using fun hdeadline => ht attempt hattempt hdeadline hd
  have hfresh : ∀ d ∈ new.map DeliverReply.deliveryId, d ∉ w.openIds :=
    fun d hd hopen => ((hnew.taken d).mp hd).2.1 (hstill d hopen)
  have hrows : ∀ d ∈ (w.manager.outbox.filter fun row => row.Due now).map key,
      d ∈ (w.manager.expire now).outbox.map key := fun d hd => by
    obtain ⟨row, hrow, rfl⟩ := List.mem_map.mp hd
    exact List.mem_map_of_mem (List.mem_filter.mp hrow).1
  have hstatus := statusOf_of_handsOut hnew hrows
  have hopenIds : ∀ d, d ∈ World.openIds { w with
        manager := dispatchImDeliveries put now w.manager
        inboundQueue := w.inboundQueue ++ new } ↔
      d ∈ new.map DeliverReply.deliveryId ∨ d ∈ w.openIds := by
    intro d
    simp only [World.openIds, List.map_append, List.mem_append]
    tauto
  have hsame : ∀ row ∈ (dispatchImDeliveries put now w.manager).outbox,
      row.pluginId = pluginId := by
    intro row hrow
    have hmem := List.mem_map_of_mem (f := PluginImDeliveryOutbox.pluginId) hrow
    rw [hnew.plugins] at hmem
    obtain ⟨row', hrow', heq⟩ := List.mem_map.mp hmem
    exact heq ▸ hw.plugins row' hrow'
  refine ⟨?_, fun d hd => ?_, hsame, fun d hd => ?_, hw.orderly, ?_, fun d hd => ?_, fun d hd => ?_,
    hw.retryable, fun d => ?_⟩
  · rw [hnew.keys]
    exact hw.keys
  · rw [hnew.keys] at hd
    exact hw.clean d hd
  · rcases hstatus d with ⟨-, h⟩ | ⟨-, h | ⟨h, -⟩⟩
    · rw [h] at hd
      cases hd
    · rw [h] at hd
      exact hw.unfailed d hd
    · rw [h] at hd
      cases hd
  · have hnodup := List.nodup_append.mp hw.nodup
    rw [World.openIds, List.map_append]
    refine List.nodup_append.mpr ⟨hnodup.1.append hnew.nodup ?_, hnodup.2.1, ?_⟩
    · intro d hd hd'
      exact hfresh d hd' (List.mem_append_left _ hd)
    · intro d hd d' hd'
      rcases List.mem_append.mp hd with hd | hd
      · exact hnodup.2.2 d hd d' hd'
      · rintro rfl
        exact hfresh d hd (List.mem_append_right _ hd')
  · have hall : ∀ d, d ∈ inFlightIds (dispatchImDeliveries put now w.manager) ↔
        d ∈ inFlightIds (w.manager.expire now) ∨ d ∈ new.map DeliverReply.deliveryId := by
      intro d
      rw [inFlightIds, hnew.inFlight, List.mem_append]
      rfl
    rw [hopenIds] at hd
    exact (hall d).mpr (hd.symm.imp_left (hstill d))
  · rw [hopenIds] at hd
    rcases hstatus d with ⟨-, h⟩ | ⟨hnot, h | ⟨-, -, hflight⟩⟩
    · exact h
    · exact h.trans (hw.delivering d (hd.resolve_left hnot))
    · exact absurd (hstill d (hd.resolve_left hnot)) hflight
  · refine (hw.once d).imp_right (And.imp_right (Or.imp_left fun h => ?_))
    obtain ⟨row, hrow, hdelivered⟩ := Option.map_eq_some_iff.mp h
    exact ((absorbed_dispatch hw.keys) d row hrow (.inl hdelivered)).1.trans
      (congrArg some hdelivered)

lemma Consistent.takeIn (hw : Consistent pluginId w) {result : DeliveryResult}
    {results : List DeliveryResult} {now : Timestamp}
    (hqueue : w.outboundQueue = result :: results) :
    Consistent pluginId
      { w with
        manager := handleImDeliveryResult pluginId result now w.manager
        outboundQueue := results } := by
  have hmem : result.deliveryId ∈ w.openIds := by
    rw [World.openIds, hqueue]
    simp
  have hkey : result.deliveryId ∈ w.manager.outbox.map key :=
    isSome_statusOf_iff.mp (by rw [hw.delivering _ hmem]; rfl)
  obtain ⟨hclean, hne⟩ := hw.clean _ hkey
  obtain ⟨hstatus, hflight, houtbox⟩ := takeIn_spec now hclean hne hkey hw.plugins
  generalize handleImDeliveryResult pluginId result now w.manager = s at hstatus hflight houtbox ⊢
  have hperm : w.openIds.Perm (result.deliveryId ::
      World.openIds { w with
        manager := s
        outboundQueue := results }) := by
    rw [World.openIds, hqueue, World.openIds, List.map_cons]
    exact .trans (.append_left _ List.perm_middle) List.perm_middle
  obtain ⟨hother, hnodup⟩ := List.nodup_cons.mp (hperm.nodup_iff.mp hw.nodup)
  have hopen : ∀ {d}, d ∈ World.openIds { w with
        manager := s
        outboundQueue := results } → d ∈ w.openIds ∧ d ≠ result.deliveryId := fun {d} hd =>
    ⟨hperm.mem_iff.mpr (List.mem_cons_of_mem _ hd), fun h => hother (h ▸ hd)⟩
  have hretryable := hw.retryable result (by rw [hqueue]; exact List.mem_cons_self)
  refine ⟨?_, fun d hd => ?_, fun row hrow => ?_, fun d hd => ?_, hw.orderly, hnodup,
    fun d hd => (hflight d).mpr ⟨hw.inFlight d (hopen hd).1, (hopen hd).2⟩, fun d hd => ?_,
    fun r hr => hw.retryable r (by rw [hqueue]; exact List.mem_cons_of_mem _ hr), fun d => ?_⟩
  · rw [houtbox, map_key_update result.apply_id]
    exact hw.keys
  · rw [houtbox, map_key_update result.apply_id] at hd
    exact hw.clean d hd
  · rw [houtbox] at hrow
    obtain ⟨row', hrow', -, rfl⟩ | ⟨hrow, -⟩ := mem_update.mp hrow
    · have : (result.apply now row').pluginId = row'.pluginId := by
        unfold DeliveryResult.apply
        split <;> rfl
      rw [this]
      exact hw.plugins row' hrow'
    · exact hw.plugins row hrow
  · rw [hstatus d] at hd
    split at hd
    · have hfailed := Option.some.inj hd
      unfold DeliveryResult.status at hfailed
      split at hfailed
      · cases hfailed
      · next hok =>
        rw [if_pos (hretryable.resolve_left hok)] at hfailed
        cases hfailed
    · exact hw.unfailed d hd
  · rw [hstatus d, if_neg (hopen hd).2]
    exact hw.delivering d (hopen hd).1
  · refine (hw.once d).imp_right (And.imp_right fun hpaid => ?_)
    rcases hpaid with hdelivered | ⟨r, hr, hid, hok⟩ | hwaiting
    · refine .inl ?_
      rw [hstatus d, if_neg, hdelivered]
      rintro rfl
      rw [hw.delivering _ hmem] at hdelivered
      cases hdelivered
    · rw [hqueue] at hr
      rcases List.mem_cons.mp hr with rfl | hr
      · refine .inl ?_
        rw [hstatus d, if_pos hid.symm, DeliveryResult.status, if_pos hok]
      · exact .inr (.inl ⟨r, hr, hid, hok⟩)
    · exact .inr (.inr hwaiting)

lemma Consistent.handle (hw : Consistent pluginId w) {index : ℕ} {message : DeliverReply}
    (hwaiting : w.bridge.waiting = none) (hmessage : w.inboundQueue[index]? = some message)
    (account : Option String) :
    Consistent pluginId
      { w with
        inboundQueue := w.inboundQueue.eraseIdx index
        bridge := handleOutboundReply message.deliveryId account w.bridge } := by
  obtain ⟨hlt, hget⟩ := List.getElem?_eq_some_iff.mp hmessage
  have hperm : (World.openIds { w with
        inboundQueue := w.inboundQueue.eraseIdx index
        bridge := handleOutboundReply message.deliveryId account w.bridge }).Perm w.openIds := by
    have hinbox := (List.getElem_cons_eraseIdx_perm hlt).map DeliverReply.deliveryId
    rw [hget] at hinbox
    simp only [World.openIds, hwaiting, handleOutboundReply, Option.toList_some, Option.toList_none,
      List.map_cons, List.map_nil, List.singleton_append, List.nil_append]
    exact List.perm_middle.trans (hinbox.append_right _)
  refine ⟨hw.keys, hw.clean, hw.plugins, hw.unfailed, orderly_handle hw.orderly hwaiting _ _,
    hperm.nodup_iff.mpr hw.nodup, fun d hd => hw.inFlight d (hperm.mem_iff.mp hd),
    fun d hd => hw.delivering d (hperm.mem_iff.mp hd), hw.retryable, fun d => ?_⟩
  refine (hw.once d).imp_right (And.imp_right fun hpaid => ?_)
  rcases hpaid with hdelivered | hresult | ⟨reply, hreply, -⟩
  · exact .inl hdelivered
  · exact .inr (.inl hresult)
  · rw [hwaiting] at hreply
    cases hreply

lemma Consistent.unreported (hw : Consistent pluginId w) (hs' : Orderly s')
    (hwaiting : s'.waiting = w.bridge.waiting)
    (hsent : s'.sent = w.bridge.sent ∨ ∃ x, s'.sent = w.bridge.sent ++ [x] ∧
      w.bridge.sender = .sending x.reply x.bot x.connected) :
    Consistent pluginId { w with bridge := s' } := by
  have hopen : World.openIds { w with bridge := s' } = w.openIds := by
    simp only [World.openIds, hwaiting]
  refine ⟨hw.keys, hw.clean, hw.plugins, hw.unfailed, hs', by rw [hopen]; exact hw.nodup,
    by rw [hopen]; exact hw.inFlight, by rw [hopen]; exact hw.delivering, hw.retryable, fun d => ?_⟩
  rcases hsent with hsame | ⟨x, hsent, hsending⟩
  · have hof : ∀ k, s'.sentOf k = w.bridge.sentOf k := fun k => by
      rw [Runtime.sentOf, hsame, Runtime.sentOf]
    have hto : s'.sentTo d = w.bridge.sentTo d := by rw [Runtime.sentTo, hsame, Runtime.sentTo]
    rw [hto]
    refine (hw.once d).imp_right (And.imp_right (Or.imp_right (Or.imp_right ?_)))
    rintro ⟨reply, hreply, hid, hne⟩
    exact ⟨reply, hwaiting ▸ hreply, hid, by rwa [hof]⟩
  · obtain ⟨hx, -, -, -, hunsent, -⟩ := hw.orderly.sending hsending
    have hof : s'.sentOf x.reply.attempt = [x] := by
      have : (w.bridge.sent.filter fun y => y.reply.attempt = x.reply.attempt) = [] := hunsent
      simp [Runtime.sentOf, hsent, this]
    by_cases hd : x.reply.deliveryId = d
    · -- what is open is not delivered, and open only once
      subst hd
      have hmem : x.reply.deliveryId ∈ w.openIds := by simp [World.openIds, hx]
      have hnone : w.bridge.sentTo x.reply.deliveryId = [] := by
        rcases hw.once x.reply.deliveryId with hnone | ⟨-, hdelivered | ⟨r, hr, hid, -⟩ |
          ⟨reply, hreply, -, hne⟩⟩
        · exact hnone
        · rw [hw.delivering _ hmem] at hdelivered
          cases hdelivered
        · have hnodup := (List.nodup_append.mp (List.nodup_append.mp hw.nodup).2.1).2.2
          refine absurd rfl (hnodup x.reply.deliveryId (by simp [hx]) _ ?_)
          exact List.mem_map.mpr ⟨r, hr, hid⟩
        · rw [hx] at hreply
          exact absurd hunsent (Option.some.inj hreply ▸ hne)
      have hfilter : (w.bridge.sent.filter fun y => y.reply.deliveryId = x.reply.deliveryId) = [] :=
        hnone
      refine .inr ⟨by simp [Runtime.sentTo, hsent, hfilter], .inr (.inr ⟨x.reply, ?_, rfl, ?_⟩)⟩
      · exact hwaiting.trans hx
      · rw [hof]
        exact List.cons_ne_nil _ _
    · have hto : s'.sentTo d = w.bridge.sentTo d := by
        simp [Runtime.sentTo, hsent, hd]
      rw [hto]
      refine (hw.once d).imp_right (And.imp_right (Or.imp_right (Or.imp_right ?_)))
      rintro ⟨reply, hreply, hid, -⟩
      rw [hx] at hreply
      exact absurd (Option.some.inj hreply ▸ hid) hd

lemma Consistent.reported (hw : Consistent pluginId w) (hs' : Orderly s') {reply : ImOutboundReply}
    {result : ImDeliveryResult} (hwaiting : w.bridge.waiting = some reply)
    (hwaiting' : s'.waiting = none) (hsent : s'.sent = w.bridge.sent)
    (hreported : s'.reported = w.bridge.reported ++ [(reply, result)]) :
    Consistent pluginId
      { w with
        bridge := s'
        outboundQueue := w.outboundQueue ++ [deliveryResult (reply, result)] } := by
  have hfits := hs'.fits_of_reported (x := (reply, result)) (by rw [hreported]; simp)
  have hof : ∀ k, s'.sentOf k = w.bridge.sentOf k := fun k => by
    rw [Runtime.sentOf, hsent, Runtime.sentOf]
  have hperm : (World.openIds { w with
        bridge := s'
        outboundQueue := w.outboundQueue ++ [deliveryResult (reply, result)] }).Perm w.openIds := by
    simp only [World.openIds, hwaiting, hwaiting', Option.toList_some, Option.toList_none,
      List.map_append, List.map_cons, List.map_nil, List.nil_append, deliveryResult]
    exact .append_left _ List.perm_append_comm
  refine ⟨hw.keys, hw.clean, hw.plugins, hw.unfailed, hs', hperm.nodup_iff.mpr hw.nodup,
    fun d hd => hw.inFlight d (hperm.mem_iff.mp hd),
    fun d hd => hw.delivering d (hperm.mem_iff.mp hd), fun r hr => ?_, fun d => ?_⟩
  · rcases List.mem_append.mp hr with hr | hr
    · exact hw.retryable r hr
    · rw [List.mem_singleton.mp hr]
      exact hfits.2
  · have hto : s'.sentTo d = w.bridge.sentTo d := by rw [Runtime.sentTo, hsent, Runtime.sentTo]
    rw [hto]
    refine (hw.once d).imp_right (And.imp_right fun hpaid => ?_)
    rcases hpaid with hdelivered | ⟨r, hr, hid, hok⟩ | ⟨reply', hreply, hid, hne⟩
    · exact .inl hdelivered
    · exact .inr (.inl ⟨r, List.mem_append_left _ hr, hid, hok⟩)
    · rw [hwaiting] at hreply
      obtain rfl := Option.some.inj hreply
      refine .inr (.inl ⟨_, List.mem_append_right _ (List.mem_singleton_self _), hid, ?_⟩)
      by_contra hok
      have hzero : (s'.sentOf reply.attempt).length = 0 := by
        rw [hfits.1]
        exact if_neg hok
      exact hne (hof reply.attempt ▸ List.length_eq_zero_iff.mp hzero)

theorem consistent_step {e : Event} (hw : Consistent pluginId w) (ht : InTime w e)
    (h : step pyStr pluginId w e = some w') : Consistent pluginId w' := by
  cases e with
  | enqueue newId payload now =>
    by_cases hbad : newId ∈ w.manager.outbox.map key ∨ newId = "" ∨ strip newId ≠ newId
    · rw [step, if_pos hbad] at h
      cases h
    · rw [step, if_neg hbad] at h
      cases h
      rw [not_or, not_or, not_not] at hbad
      exact hw.enqueue hbad.1 hbad.2.1 hbad.2.2
  | dispatch put now => exact hw.dispatch ht h
  | takeIn now =>
    cases hqueue : w.outboundQueue with
    | nil => simp [step, hqueue] at h
    | cons result results =>
      simp only [step, hqueue] at h
      cases h
      exact hw.takeIn hqueue
  | handle index =>
    cases hwaiting : w.bridge.waiting <;> cases hmessage : w.inboundQueue[index]? <;>
      simp only [step, hwaiting, hmessage, reduceCtorEq, Option.some.injEq] at h
    subst h
    exact hw.handle hwaiting hmessage _
  | bridge event =>
    obtain ⟨s', hs', rfl⟩ := Option.map_eq_some_iff.mp h
    have horderly := orderly_step hw.orderly ht hs'
    obtain ⟨⟨hwaiting, hreported⟩ | ⟨reply, result, hwaiting, hwaiting', hsame, hreported⟩,
      hsent⟩ :=
      runtimeStep_spec hs'
    · rw [hreported, List.drop_length, List.map_nil, List.append_nil]
      exact hw.unreported horderly hwaiting hsent
    · rw [hreported, List.drop_left]
      exact hw.reported horderly hwaiting hwaiting' hsame hreported

end Both

end Outbound

end CocoonSit
