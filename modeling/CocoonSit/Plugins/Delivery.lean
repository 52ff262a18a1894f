import CocoonSit.Lib.Run
import CocoonSit.Model.Entities
import CocoonSit.Model.Python
import Mathlib.Algebra.Ring.Nat

/-!
# Replies on their way to instant messengers

A reply for an instant messenger waits in an outbox until the plugin's process has taken it and
reported that it is delivered.  The manager's loop hands out what is due and takes in what the
plugins report; an attempt without a report times out, and the reply is handed out again.  A report
carries the key of the reply and not the attempt it is about.
-/

namespace CocoonSit

open Table TransitionSystem

/-! ## The outbox -/

inductive DeliveryStatus where
  | queued
  | delivering
  | delivered
  | failed
deriving DecidableEq, Repr

def DeliveryStatus.Final (status : DeliveryStatus) : Prop := status = .delivered ∨ status = .failed

instance (status : DeliveryStatus) : Decidable status.Final := inferInstanceAs (Decidable (_ ∨ _))

structure PluginImDeliveryOutbox where
  id : RowId
  pluginId : RowId
  status : DeliveryStatus := .queued
  payloadJson : JsonDict := .empty
  attemptCount : ℕ := 0
  nextAttemptAt : Option Timestamp := none
  deliveredAt : Option Timestamp := none
  lastErrorText : Option String := none
  createdAt : Timestamp

instance : Keyed PluginImDeliveryOutbox RowId := ⟨PluginImDeliveryOutbox.id⟩

@[simp] lemma key_outbox (row : PluginImDeliveryOutbox) : key row = row.id := rfl

/-- An attempt the manager waits for a report on, and until when. -/
structure InFlight where
  deliveryId : RowId
  pluginId : RowId
  deadline : Timestamp

/-- A message put into a plugin's queue. -/
structure DeliverReply where
  pluginId : RowId
  deliveryId : RowId
  reply : JsonDict

/-- The table, the manager's memory, and what the plugins have been handed so far. -/
structure Deliveries where
  outbox : List PluginImDeliveryOutbox := []
  imDeliveriesInFlight : List InFlight := []
  handed : List DeliverReply := []

/-- What comes of putting a reply into its plugin's queue: there is no live process with a queue, or
it raises. -/
inductive PutOutcome where
  | unavailable
  | raised (error : String)
  | done

/-! ## The manager -/

/-- `timedelta(seconds=…)`. -/
def seconds (n : ℕ) : ℕ := n * 1000000

/-- `min(60, max(1, 2 ** min(attempts, 5)))`. -/
def retryDelay (attempts : ℕ) : ℕ := seconds (min 60 (max 1 (2 ^ min attempts 5)))

def enqueueSingleReply (newId pluginId : RowId) (payload : JsonDict) (now : Timestamp)
    (s : Deliveries) : Deliveries :=
  { s with outbox := s.outbox ++ [{ id := newId, pluginId := pluginId, payloadJson := payload
                                    nextAttemptAt := some now, createdAt := now }] }

/-- The rows the loop takes up. -/
def PluginImDeliveryOutbox.Due (now : Timestamp) (row : PluginImDeliveryOutbox) : Prop :=
  (row.status = .queued ∨ row.status = .delivering) ∧ ∀ t ∈ row.nextAttemptAt, t ≤ now

instance (now : Timestamp) (row : PluginImDeliveryOutbox) : Decidable (row.Due now) :=
  inferInstanceAs (Decidable (_ ∧ _))

/-- One turn of the loop of `_dispatch_im_deliveries`. -/
def dispatchRow (put : RowId → PutOutcome) (now : Timestamp) (s : Deliveries)
    (row : PluginImDeliveryOutbox) : Deliveries :=
  if row.id ∈ s.imDeliveriesInFlight.map InFlight.deliveryId then s
  else
    let attemptCount := row.attemptCount + 1
    match put row.id with
    | .unavailable => s
    | .raised error =>
      { s with outbox := update s.outbox row.id fun row =>
          { row with
            status := .queued
            attemptCount := attemptCount
            lastErrorText := some error
            nextAttemptAt := some (now + retryDelay attemptCount) } }
    | .done =>
      { outbox := update s.outbox row.id fun row =>
          { row with
            status := .delivering
            attemptCount := attemptCount
            lastErrorText := none
            nextAttemptAt := some (now + seconds 30) }
        imDeliveriesInFlight :=
          s.imDeliveriesInFlight ++ [⟨row.id, row.pluginId, now + seconds 30⟩]
        handed := s.handed ++
          [⟨row.pluginId, row.id, row.payloadJson.set "delivery_id" (.str row.id)⟩] }

def dispatchImDeliveries (put : RowId → PutOutcome) (now : Timestamp) (s : Deliveries) :
    Deliveries :=
  (orderBy PluginImDeliveryOutbox.createdAt (s.outbox.filter fun row => row.Due now)).foldl
    (dispatchRow put now)
    { s with
      imDeliveriesInFlight :=
        s.imDeliveriesInFlight.filter fun attempt => ¬ attempt.deadline ≤ now }

structure DeliveryResult where
  deliveryId : String
  ok : Bool
  retryable : Bool := true
  error : Option String := none

def DeliveryResult.status (result : DeliveryResult) : DeliveryStatus :=
  if result.ok then .delivered else if result.retryable then .queued else .failed

/-- What a result does to the row it names. -/
def DeliveryResult.apply (result : DeliveryResult) (now : Timestamp)
    (row : PluginImDeliveryOutbox) : PluginImDeliveryOutbox :=
  if result.ok then
    { row with
      status := .delivered
      deliveredAt := some now
      lastErrorText := none
      nextAttemptAt := none }
  else
    let attempts := if row.attemptCount = 0 then 1 else row.attemptCount
    { row with
      status := result.status
      lastErrorText := some ((result.error.filter (· ≠ "")).getD "IM delivery failed")
      nextAttemptAt := if result.retryable then some (now + retryDelay attempts) else none }

/-- `_handle_im_delivery_result`, for a result that came from the plugin. -/
def handleImDeliveryResult (pluginId : RowId) (result : DeliveryResult) (now : Timestamp)
    (s : Deliveries) : Deliveries :=
  let deliveryId := strip result.deliveryId
  if deliveryId = "" then s
  else
    let s := { s with
      imDeliveriesInFlight :=
        s.imDeliveriesInFlight.filter fun attempt => attempt.deliveryId ≠ deliveryId }
    match get s.outbox deliveryId with
    | none => s
    | some row =>
      if row.pluginId ≠ pluginId then s
      else { s with outbox := update s.outbox deliveryId (result.apply now) }

/-! ## Its runs -/

/-- A turn of the manager's loop takes in results and hands out what is due; replies come in, and a
manager that reloads a plugin or stops forgets what it was waiting for. -/
inductive DeliveryEvent where
  | enqueue (newId pluginId : RowId) (payload : JsonDict) (now : Timestamp)
  | dispatch (put : RowId → PutOutcome) (now : Timestamp)
  | result (pluginId : RowId) (result : DeliveryResult) (now : Timestamp)
  | reload (pluginId : RowId)
  | stop

/-- A new key is new. -/
def deliveryStep (s : Deliveries) : DeliveryEvent → Option Deliveries
  | .enqueue newId pluginId payload now =>
    if newId ∈ s.outbox.map key then none
    else some (enqueueSingleReply newId pluginId payload now s)
  | .dispatch put now => some (dispatchImDeliveries put now s)
  | .result pluginId result now => some (handleImDeliveryResult pluginId result now s)
  | .reload pluginId =>
    some { s with
      imDeliveriesInFlight :=
        s.imDeliveriesInFlight.filter fun attempt => attempt.pluginId ≠ pluginId }
  | .stop => some { s with imDeliveriesInFlight := [] }

/-- What has been handed out of one reply. -/
def handedFor (s : Deliveries) (deliveryId : RowId) : List DeliverReply :=
  s.handed.filter fun message => message.deliveryId = deliveryId

/-- What is delivered or has failed in the first state is so in the second, and has not been handed
out in between. -/
def Absorbed (s s' : Deliveries) : Prop :=
  ∀ deliveryId row, get s.outbox deliveryId = some row → row.status.Final →
    (get s'.outbox deliveryId).map PluginImDeliveryOutbox.status = some row.status ∧
      handedFor s' deliveryId = handedFor s deliveryId

/-- A result for a reply that is delivered or has failed says that it is, or has, once more. -/
def AgreesWithFinal (s : Deliveries) : DeliveryEvent → Prop
  | .result pluginId result _ =>
    strip result.deliveryId ≠ "" → ∀ row, get s.outbox (strip result.deliveryId) = some row →
      row.pluginId = pluginId → row.status.Final → result.status = row.status
  | _ => True

namespace Absorbed

variable {s s' s'' : Deliveries}

lemma trans (h : Absorbed s s') (h' : Absorbed s' s'') : Absorbed s s'' := by
  intro deliveryId row hrow hfinal
  obtain ⟨hstatus, hhanded⟩ := h deliveryId row hrow hfinal
  obtain ⟨row', hrow', hsame⟩ := Option.map_eq_some_iff.mp hstatus
  obtain ⟨hstatus', hhanded'⟩ := h' deliveryId row' hrow' (hsame ▸ hfinal)
  exact ⟨hsame ▸ hstatus', hhanded'.trans hhanded⟩

lemma of_eq (houtbox : s'.outbox = s.outbox) (hhanded : s'.handed = s.handed) : Absorbed s s' := by
  intro deliveryId row hrow _
  refine ⟨?_, by rw [handedFor, handedFor, hhanded]⟩
  rw [houtbox, hrow, Option.map_some]

end Absorbed

section Steps

variable {s s' : Deliveries} {put : RowId → PutOutcome} {now : Timestamp}

/-! ### Handing out -/

lemma dispatchRow_other (put : RowId → PutOutcome) (now : Timestamp) (s : Deliveries)
    {row : PluginImDeliveryOutbox} {deliveryId : RowId} (hne : deliveryId ≠ row.id) :
    get (dispatchRow put now s row).outbox deliveryId = get s.outbox deliveryId ∧
      handedFor (dispatchRow put now s row) deliveryId = handedFor s deliveryId := by
  have hother : ∀ f : PluginImDeliveryOutbox → PluginImDeliveryOutbox,
      (∀ row, (f row).id = row.id) →
        get (update s.outbox row.id f) deliveryId = get s.outbox deliveryId := by
    intro f hf
    rw [get_update hf]
    cases hrow : get s.outbox deliveryId with
    | none => rfl
    | some row' =>
      have hkey : key row' ≠ row.id := by rwa [key_of_get hrow]
      rw [Option.map_some, if_neg hkey]
  unfold dispatchRow
  split
  · exact ⟨rfl, rfl⟩
  · cases put row.id with
    | unavailable => exact ⟨rfl, rfl⟩
    | raised error => exact ⟨hother _ fun _ => rfl, rfl⟩
    | done =>
      refine ⟨hother _ fun _ => rfl, ?_⟩
      have hnot : ¬ row.id = deliveryId := fun h => hne h.symm
      simp [handedFor, hnot]

lemma foldl_dispatchRow_other (put : RowId → PutOutcome) (now : Timestamp) (s : Deliveries)
    {rows : List PluginImDeliveryOutbox} {deliveryId : RowId}
    (hne : ∀ row ∈ rows, deliveryId ≠ row.id) :
    get (rows.foldl (dispatchRow put now) s).outbox deliveryId = get s.outbox deliveryId ∧
      handedFor (rows.foldl (dispatchRow put now) s) deliveryId = handedFor s deliveryId := by
  induction rows generalizing s with
  | nil => exact ⟨rfl, rfl⟩
  | cons row rows ih =>
    obtain ⟨hfirst, hrest⟩ := List.forall_mem_cons.mp hne
    obtain ⟨hget, hhanded⟩ := ih (dispatchRow put now s row) hrest
    obtain ⟨hget', hhanded'⟩ := dispatchRow_other put now s hfirst
    exact ⟨hget.trans hget', hhanded.trans hhanded'⟩

lemma absorbed_dispatch (hkeys : (s.outbox.map key).Nodup) :
    Absorbed s (dispatchImDeliveries put now s) := by
  intro deliveryId row hrow hfinal
  have hne : ∀ due ∈ orderBy PluginImDeliveryOutbox.createdAt
      (s.outbox.filter fun row => row.Due now), deliveryId ≠ due.id := by
    rintro due hdue rfl
    obtain ⟨hmem, hdue⟩ := List.mem_filter.mp (mem_orderBy.mp hdue)
    have hget : get s.outbox due.id = some due := get_of_mem hkeys hmem
    cases hrow.symm.trans hget
    have hstatus := (of_decide_eq_true hdue).1
    rcases hfinal with hfinal | hfinal <;> rw [hfinal] at hstatus <;> simp at hstatus
  obtain ⟨hget, hhanded⟩ := foldl_dispatchRow_other put now
    { s with
      imDeliveriesInFlight :=
        s.imDeliveriesInFlight.filter fun attempt => ¬ attempt.deadline ≤ now } hne
  refine ⟨?_, hhanded⟩
  have hsame : get (dispatchImDeliveries put now s).outbox deliveryId = get s.outbox deliveryId :=
    hget
  rw [hsame, hrow, Option.map_some]

/-- What a turn of the manager hands out, and what it leaves in the outbox. -/
structure HandsOut (put : RowId → PutOutcome) (rows : List RowId) (s s' : Deliveries)
    (new : List DeliverReply) : Prop where
  handed : s'.handed = s.handed ++ new
  inFlight : s'.imDeliveriesInFlight.map InFlight.deliveryId =
    s.imDeliveriesInFlight.map InFlight.deliveryId ++ new.map DeliverReply.deliveryId
  nodup : (new.map DeliverReply.deliveryId).Nodup
  taken : ∀ deliveryId, deliveryId ∈ new.map DeliverReply.deliveryId ↔
    deliveryId ∈ rows ∧ deliveryId ∉ s.imDeliveriesInFlight.map InFlight.deliveryId ∧
      put deliveryId = .done
  delivering : ∀ deliveryId ∈ new.map DeliverReply.deliveryId,
    ∀ row, get s'.outbox deliveryId = some row → row.status = .delivering
  kept : ∀ deliveryId ∉ new.map DeliverReply.deliveryId,
    ∀ row, get s'.outbox deliveryId = some row →
      get s.outbox deliveryId = some row ∨ (row.status = .queued ∧ deliveryId ∈ rows ∧
        deliveryId ∉ s.imDeliveriesInFlight.map InFlight.deliveryId)
  keys : s'.outbox.map key = s.outbox.map key
  plugins : s'.outbox.map PluginImDeliveryOutbox.pluginId =
    s.outbox.map PluginImDeliveryOutbox.pluginId

lemma HandsOut.refl (put : RowId → PutOutcome) (s : Deliveries) : HandsOut put [] s s [] where
  handed := (List.append_nil _).symm
  inFlight := (List.append_nil _).symm
  nodup := List.nodup_nil
  taken := by simp
  delivering := by simp
  kept := fun _ _ _ h => .inl h
  keys := rfl
  plugins := rfl

lemma map_pluginId_update {t : List PluginImDeliveryOutbox} {deliveryId : RowId}
    {f : PluginImDeliveryOutbox → PluginImDeliveryOutbox}
    (hf : ∀ row, (f row).pluginId = row.pluginId) :
    (update t deliveryId f).map PluginImDeliveryOutbox.pluginId =
      t.map PluginImDeliveryOutbox.pluginId := by
  rw [update, List.map_map]
  refine List.map_congr_left fun row _ => ?_
  simp only [Function.comp_apply]
  split
  · exact hf row
  · rfl

lemma handsOut_dispatchRow (put : RowId → PutOutcome) (now : Timestamp) (s : Deliveries)
    (row : PluginImDeliveryOutbox) :
    ∃ new, HandsOut put [row.id] s (dispatchRow put now s row) new := by
  unfold dispatchRow
  by_cases hflight : row.id ∈ s.imDeliveriesInFlight.map InFlight.deliveryId
  · rw [if_pos hflight]
    refine ⟨[], { HandsOut.refl put s with taken := ?_, kept := fun _ _ _ h => .inl h }⟩
    intro deliveryId
    refine iff_of_false (by simp) ?_
    rintro ⟨hid, hnot, -⟩
    exact hnot (List.mem_singleton.mp hid ▸ hflight)
  rw [if_neg hflight]
  cases hput : put row.id with
  | unavailable =>
    refine ⟨[], { HandsOut.refl put s with taken := ?_, kept := fun _ _ _ h => .inl h }⟩
    intro deliveryId
    refine iff_of_false (by simp) ?_
    rintro ⟨hid, -, hdone⟩
    rw [List.mem_singleton.mp hid, hput] at hdone
    cases hdone
  | raised error =>
    refine ⟨[], { handed := (List.append_nil _).symm, inFlight := (List.append_nil _).symm
                  nodup := List.nodup_nil, taken := ?_, delivering := by simp, kept := ?_
                  keys := map_key_update fun _ => rfl
                  plugins := map_pluginId_update fun _ => rfl }⟩
    · intro deliveryId
      refine iff_of_false (by simp) ?_
      rintro ⟨hid, -, hdone⟩
      rw [List.mem_singleton.mp hid, hput] at hdone
      cases hdone
    · intro deliveryId _ row' hrow'
      dsimp only at hrow'
      rw [get_update (by exact fun _ => rfl)] at hrow'
      obtain ⟨old, hold, rfl⟩ := Option.map_eq_some_iff.mp hrow'
      by_cases hkey : key old = row.id
      · refine .inr ⟨by rw [if_pos hkey], ?_, ?_⟩
        · exact List.mem_singleton.mpr ((key_of_get hold).symm.trans hkey)
        · exact (key_of_get hold).symm.trans hkey ▸ hflight
      · rw [if_neg hkey]
        exact .inl hold
  | done =>
    refine ⟨[⟨row.pluginId, row.id, row.payloadJson.set "delivery_id" (.str row.id)⟩],
      { handed := rfl, inFlight := by simp, nodup := List.nodup_singleton _, taken := ?_
        delivering := ?_, kept := ?_, keys := map_key_update fun _ => rfl
        plugins := map_pluginId_update fun _ => rfl }⟩
    · intro deliveryId
      refine ⟨fun h => ?_, fun h => by simpa using h.1⟩
      obtain rfl : deliveryId = row.id := by simpa using h
      exact ⟨List.mem_singleton_self _, hflight, hput⟩
    · intro deliveryId hid row' hrow'
      obtain rfl : deliveryId = row.id := by simpa using hid
      dsimp only at hrow'
      rw [get_update (by exact fun _ => rfl)] at hrow'
      obtain ⟨old, hold, rfl⟩ := Option.map_eq_some_iff.mp hrow'
      rw [if_pos (key_of_get hold)]
    · intro deliveryId hid row' hrow'
      dsimp only at hrow'
      rw [get_update (by exact fun _ => rfl)] at hrow'
      obtain ⟨old, hold, rfl⟩ := Option.map_eq_some_iff.mp hrow'
      have hkey : key old ≠ row.id := by
        rw [key_of_get hold]
        simpa using hid
      rw [if_neg hkey]
      exact .inl hold

lemma HandsOut.trans {rows rows' : List RowId} {s s' s'' : Deliveries}
    {new new' : List DeliverReply}
    (h : HandsOut put rows s s' new) (h' : HandsOut put rows' s' s'' new')
    (hdisjoint : ∀ deliveryId ∈ rows, deliveryId ∉ rows') :
    HandsOut put (rows ++ rows') s s'' (new ++ new') := by
  have hsecond : ∀ {deliveryId}, deliveryId ∈ rows' →
      (deliveryId ∉ s'.imDeliveriesInFlight.map InFlight.deliveryId ↔
        deliveryId ∉ s.imDeliveriesInFlight.map InFlight.deliveryId) := by
    intro deliveryId hid
    have hnot : deliveryId ∉ new.map DeliverReply.deliveryId :=
      fun hnew => hdisjoint deliveryId ((h.taken deliveryId).mp hnew).1 hid
    rw [h.inFlight, List.mem_append, not_or]
    exact and_iff_left hnot
  refine { handed := by rw [h'.handed, h.handed, List.append_assoc]
           inFlight := by rw [h'.inFlight, h.inFlight, List.map_append, List.append_assoc]
           nodup := ?_, taken := fun deliveryId => ?_
           delivering := fun deliveryId hid row hrow => ?_
           kept := fun deliveryId hid row hrow => ?_, keys := h'.keys.trans h.keys
           plugins := h'.plugins.trans h.plugins }
  · rw [List.map_append]
    refine h.nodup.append h'.nodup fun deliveryId hnew hnew' => ?_
    exact hdisjoint deliveryId ((h.taken deliveryId).mp hnew).1 ((h'.taken deliveryId).mp hnew').1
  · rw [List.map_append, List.mem_append, List.mem_append, h.taken, h'.taken, or_and_right]
    refine or_congr_right (and_congr_right fun hid => and_congr_left fun _ => hsecond hid)
  · by_cases hnew' : deliveryId ∈ new'.map DeliverReply.deliveryId
    · exact h'.delivering deliveryId hnew' row hrow
    · have hnew : deliveryId ∈ new.map DeliverReply.deliveryId := by simpa [hnew'] using hid
      rcases h'.kept deliveryId hnew' row hrow with hsame | ⟨-, hrows', -⟩
      · exact h.delivering deliveryId hnew row hsame
      · exact absurd hrows' (hdisjoint deliveryId ((h.taken deliveryId).mp hnew).1)
  · rw [List.map_append, List.mem_append, not_or] at hid
    rcases h'.kept deliveryId hid.2 row hrow with hsame | ⟨hqueued, hrows', hflight⟩
    · rcases h.kept deliveryId hid.1 row hsame with hold | ⟨hqueued, hrows, hflight⟩
      · exact .inl hold
      · exact .inr ⟨hqueued, List.mem_append_left _ hrows, hflight⟩
    · exact .inr ⟨hqueued, List.mem_append_right _ hrows', (hsecond hrows').mp hflight⟩

lemma handsOut_foldl {rows : List PluginImDeliveryOutbox} (hnd : (rows.map key).Nodup)
    (s : Deliveries) :
    ∃ new, HandsOut put (rows.map key) s (rows.foldl (dispatchRow put now) s) new := by
  induction rows generalizing s with
  | nil => exact ⟨[], HandsOut.refl put s⟩
  | cons row rows ih =>
    rw [List.map_cons, List.nodup_cons] at hnd
    obtain ⟨new, hrow⟩ := handsOut_dispatchRow put now s row
    obtain ⟨new', hrows⟩ := ih hnd.2 (dispatchRow put now s row)
    refine ⟨new ++ new', hrow.trans hrows ?_⟩
    intro deliveryId hid
    rw [List.mem_singleton.mp hid]
    exact hnd.1

/-- The attempts that are waited for at `now`. -/
def Deliveries.expire (now : Timestamp) (s : Deliveries) : Deliveries :=
  { s with
    imDeliveriesInFlight := s.imDeliveriesInFlight.filter fun attempt => ¬ attempt.deadline ≤ now }

variable (put now) in
/-- The manager hands out what is due and not waited for, as far as the queues take it. -/
theorem handsOut_dispatch (hkeys : (s.outbox.map key).Nodup) :
    ∃ new, HandsOut put ((s.outbox.filter fun row => row.Due now).map key) (s.expire now)
      (dispatchImDeliveries put now s) new := by
  have hperm := (perm_orderBy PluginImDeliveryOutbox.createdAt
    (s.outbox.filter fun row => row.Due now)).map key
  have hnd : ((s.outbox.filter fun row => row.Due now).map key).Nodup :=
    hkeys.sublist (List.filter_sublist.map key)
  obtain ⟨new, h⟩ := handsOut_foldl (hperm.nodup_iff.mpr hnd) (s.expire now)
  refine ⟨new, { h with taken := fun deliveryId => ?_, kept := fun deliveryId hid row hrow => ?_ }⟩
  · rw [h.taken, hperm.mem_iff]
  · rw [← hperm.mem_iff]
    exact h.kept deliveryId hid row hrow

/-! ### Taking in -/

lemma DeliveryResult.apply_status (result : DeliveryResult) (row : PluginImDeliveryOutbox) :
    (result.apply now row).status = result.status := by
  unfold DeliveryResult.apply
  split
  · next hok => rw [DeliveryResult.status, if_pos hok]
  · rfl

lemma DeliveryResult.apply_id (result : DeliveryResult) (row : PluginImDeliveryOutbox) :
    (result.apply now row).id = row.id := by
  unfold DeliveryResult.apply
  split <;> rfl

lemma handleImDeliveryResult_cases (s : Deliveries) (now : Timestamp) (pluginId : RowId)
    (result : DeliveryResult) :
    (handleImDeliveryResult pluginId result now s).handed = s.handed ∧
      ((strip result.deliveryId ≠ "" ∧
          (∃ row, get s.outbox (strip result.deliveryId) = some row ∧ row.pluginId = pluginId) ∧
          (handleImDeliveryResult pluginId result now s).outbox =
            update s.outbox (strip result.deliveryId) (result.apply now)) ∨
        ((strip result.deliveryId ≠ "" → ∀ row,
            get s.outbox (strip result.deliveryId) = some row → row.pluginId ≠ pluginId) ∧
          (handleImDeliveryResult pluginId result now s).outbox = s.outbox)) := by
  unfold handleImDeliveryResult
  by_cases hempty : strip result.deliveryId = ""
  · rw [if_pos hempty]
    exact ⟨rfl, .inr ⟨fun h => absurd hempty h, rfl⟩⟩
  rw [if_neg hempty]
  dsimp only
  cases hrow : get s.outbox (strip result.deliveryId) with
  | none => exact ⟨rfl, .inr ⟨fun _ row h => absurd h (Option.some_ne_none row).symm, rfl⟩⟩
  | some row =>
    dsimp only
    by_cases hplugin : row.pluginId = pluginId
    · rw [if_neg (not_not.mpr hplugin)]
      exact ⟨rfl, .inl ⟨hempty, ⟨row, rfl, hplugin⟩, rfl⟩⟩
    · rw [if_pos hplugin]
      exact ⟨rfl, .inr ⟨fun _ row' h => Option.some.inj h ▸ hplugin, rfl⟩⟩

lemma absorbed_result_iff (pluginId : RowId) (result : DeliveryResult) :
    Absorbed s (handleImDeliveryResult pluginId result now s) ↔
      AgreesWithFinal s (.result pluginId result now) := by
  obtain ⟨hhanded, ⟨hne, ⟨row, hrow, hplugin⟩, houtbox⟩ | ⟨hnone, houtbox⟩⟩ :=
    handleImDeliveryResult_cases s now pluginId result
  · have hget : ∀ deliveryId,
        get (handleImDeliveryResult pluginId result now s).outbox deliveryId =
          (get s.outbox deliveryId).map fun row =>
            if key row = strip result.deliveryId then result.apply now row else row := by
      intro deliveryId
      rw [houtbox]
      exact get_update result.apply_id
    constructor
    · intro h hne row' hrow' _ hfinal
      obtain ⟨hstatus, -⟩ := h _ row' hrow' hfinal
      rw [hget, hrow', Option.map_some, Option.map_some, if_pos (key_of_get hrow'),
        result.apply_status] at hstatus
      exact Option.some.inj hstatus
    · intro h deliveryId row' hrow' hfinal
      refine ⟨?_, by rw [handedFor, handedFor, hhanded]⟩
      rw [hget, hrow', Option.map_some, Option.map_some]
      by_cases hkey : key row' = strip result.deliveryId
      · have hid : deliveryId = strip result.deliveryId := (key_of_get hrow').symm.trans hkey
        subst hid
        cases hrow.symm.trans hrow'
        rw [if_pos hkey, result.apply_status, h hne row hrow hplugin hfinal]
      · rw [if_neg hkey]
  · refine iff_of_true (.of_eq houtbox hhanded) ?_
    intro hne row' hrow' hplugin
    exact absurd hplugin (hnone hne row' hrow')

/-! ### Steps -/

lemma keys_dispatchRow (row : PluginImDeliveryOutbox) :
    (dispatchRow put now s row).outbox.map key = s.outbox.map key := by
  unfold dispatchRow
  split
  · rfl
  · cases put row.id with
    | unavailable => rfl
    | raised error => exact map_key_update fun _ => rfl
    | done => exact map_key_update fun _ => rfl

lemma keys_foldl_dispatchRow (rows : List PluginImDeliveryOutbox) :
    (rows.foldl (dispatchRow put now) s).outbox.map key = s.outbox.map key := by
  induction rows generalizing s with
  | nil => rfl
  | cons row rows ih => exact ih.trans (keys_dispatchRow row)

lemma keys_deliveryStep {event : DeliveryEvent} (hkeys : (s.outbox.map key).Nodup)
    (h : deliveryStep s event = some s') : (s'.outbox.map key).Nodup := by
  cases event with
  | enqueue newId pluginId payload created =>
    by_cases hmem : newId ∈ s.outbox.map key
    · rw [deliveryStep, if_pos hmem] at h
      cases h
    · rw [deliveryStep, if_neg hmem] at h
      cases h
      rw [enqueueSingleReply, List.map_append]
      exact hkeys.append (List.nodup_singleton _) (by simpa using hmem)
  | dispatch put now =>
    cases h
    have hsame : (dispatchImDeliveries put now s).outbox.map key = s.outbox.map key :=
      keys_foldl_dispatchRow _
    rw [hsame]
    exact hkeys
  | result pluginId result now =>
    cases h
    obtain ⟨-, ⟨-, -, houtbox⟩ | ⟨-, houtbox⟩⟩ :=
      handleImDeliveryResult_cases s now pluginId result
    · rw [houtbox, map_key_update result.apply_id]
      exact hkeys
    · rw [houtbox]
      exact hkeys
  | reload pluginId =>
    cases h
    exact hkeys
  | stop =>
    cases h
    exact hkeys

lemma absorbed_step_iff {event : DeliveryEvent} (hkeys : (s.outbox.map key).Nodup) :
    (∀ s', deliveryStep s event = some s' → Absorbed s s') ↔ AgreesWithFinal s event := by
  cases event with
  | enqueue newId pluginId payload created =>
    refine iff_of_true (fun s' h => ?_) trivial
    by_cases hmem : newId ∈ s.outbox.map key
    · rw [deliveryStep, if_pos hmem] at h
      cases h
    · rw [deliveryStep, if_neg hmem] at h
      cases h
      intro deliveryId row hrow _
      refine ⟨?_, rfl⟩
      have hold : get (enqueueSingleReply newId pluginId payload created s).outbox deliveryId =
          get s.outbox deliveryId :=
        get_append_of_mem (get_isSome_iff.mp (by rw [hrow]; rfl))
      rw [hold, hrow, Option.map_some]
  | dispatch put now =>
    refine iff_of_true (fun s' h => ?_) trivial
    cases h
    exact absorbed_dispatch hkeys
  | result pluginId result now =>
    rw [← absorbed_result_iff]
    exact ⟨fun h => h _ rfl, fun h s' hs => Option.some.inj hs ▸ h⟩
  | reload pluginId =>
    refine iff_of_true (fun s' h => ?_) trivial
    cases h
    exact .of_eq rfl rfl
  | stop =>
    refine iff_of_true (fun s' h => ?_) trivial
    cases h
    exact .of_eq rfl rfl

end Steps

/-- In every run of the manager, a reply that is delivered or has failed stays so and is not handed
out again, if and only if no result in the run comes for such a reply and says otherwise. -/
theorem absorbed_iff_agreesWithFinal {s : Deliveries} {events : List DeliveryEvent}
    (hkeys : (s.outbox.map key).Nodup) :
    AllLater deliveryStep Absorbed s events ↔ StepsMeet deliveryStep AgreesWithFinal s events := by
  rw [allLater_iff_allSteps fun _ _ _ h h' => h.trans h']
  exact stepsMeet_congr (fun s => (s.outbox.map key).Nodup)
    (fun _ _ _ hkeys h => keys_deliveryStep hkeys h) (fun _ _ hkeys => absorbed_step_iff hkeys)
      hkeys

/-- A reply is handed out, times out and is handed out again, and the plugin reports both
attempts. -/
def twoAttempts (second : DeliveryResult) : List DeliveryEvent :=
  [.enqueue "reply" "plugin" .empty 0, .dispatch (fun _ => .done) 1,
    .dispatch (fun _ => .done) (seconds 31),
    .result "plugin" { deliveryId := "reply", ok := true } (seconds 32),
    .result "plugin" second (seconds 33), .dispatch (fun _ => .done) (seconds 60)]

theorem twoAttempts_absorbed :
    AllLater deliveryStep Absorbed ({} : Deliveries)
      (twoAttempts { deliveryId := "reply", ok := true }) := by
  have hempty : ((({} : Deliveries).outbox).map key).Nodup := List.nodup_nil
  refine (absorbed_iff_agreesWithFinal hempty).mpr ?_
  refine ⟨trivial, trivial, trivial, fun _ row hrow _ hfinal => ?_, fun _ row hrow _ _ => ?_,
    trivial, trivial⟩
  · -- the reply is out with the plugin
    cases hrow
    exact absurd hfinal (by decide)
  · cases hrow
    rfl

/-- A failure reported after the reply is delivered makes it go out a third time. -/
theorem twoAttempts_not_absorbed :
    ¬ ∀ events, AllLater deliveryStep Absorbed ({} : Deliveries) events := by
  intro h
  have hlater := h (twoAttempts { deliveryId := "reply", ok := false })
  -- the state after the first report, and the last one
  have hpair := hlater.2.2.2.2.1.2
  obtain ⟨-, hhanded⟩ := hpair "reply" _ rfl (.inl rfl)
  exact absurd (congrArg List.length hhanded) (by decide)

end CocoonSit
