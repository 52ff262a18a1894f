import CocoonSit.Access.Invites
import CocoonSit.Lib.Run

/-!
# The seats of an invite

Registrations and redemptions take seats of an invite: they read its row, check it, and write the
counter they have computed from what they read.  Between the two another request may commit.
Revocations likewise read the row before they write it.  Requests are taken apart into these two
steps here, and the environment interleaves them.
-/

namespace CocoonSit

open Table TransitionSystem

/-- Who asks for seats: `register` for one, `redeem_invite` for as many as it says. -/
inductive SeatUse where
  | register
  | redeem (payload : InviteRedeemRequest)

def SeatUse.seats : SeatUse → ℤ
  | .register => 1
  | .redeem payload => payload.quota

/-- The check of the invite's row. -/
def SeatUse.error (use : SeatUse) (invite : InviteCode) (now : Timestamp) : Option HttpError :=
  match use with
  | .register => inviteCodeError invite now
  | .redeem payload => redeemError invite payload.quota now

/-- A request that has passed its check: the counter it read, and how many transactions on the
invite had committed by then. -/
structure SeatRequest where
  id : RowId
  inviteId : RowId
  quotaUsed : ℤ
  seats : ℤ
  seen : ℕ

/-- A revocation that has passed its check. -/
structure RevokeRequest where
  id : RowId
  inviteId : RowId

instance : Keyed SeatRequest RowId := ⟨SeatRequest.id⟩
instance : Keyed RevokeRequest RowId := ⟨RevokeRequest.id⟩

@[simp] lemma key_seatRequest (r : SeatRequest) : key r = r.id := rfl

@[simp] lemma key_revokeRequest (r : RevokeRequest) : key r = r.id := rfl

/-- The invites, the requests under way, the seats handed out by those that went through, and the
invites that transactions have committed on. -/
structure SeatState where
  inviteCodes : List InviteCode := []
  requests : List SeatRequest := []
  revocations : List RevokeRequest := []
  handedOut : List (RowId × ℤ) := []
  commits : List RowId := []

inductive SeatEvent where
  | create (payload : InviteCreate) (user : User) (source : Option QuotaTarget) (newId : RowId)
      (code : String)
  | read (requestId : RowId) (code : String) (use : SeatUse) (now : Timestamp)
  | commit (requestId : RowId) (now : Timestamp)
  | abort (requestId : RowId)
  | readRevoke (requestId : RowId) (code : String)
  | commitRevoke (requestId : RowId) (now : Timestamp)

/-- `session.scalar(select(InviteCode).where(InviteCode.code == code))`. -/
def findInvite (inviteCodes : List InviteCode) (code : String) : Option InviteCode :=
  inviteCodes.find? fun invite => invite.code = code

/-- The counter that a request has computed is written, whatever the row has become. -/
def SeatState.commitSeats (s : SeatState) (request : SeatRequest) : SeatState :=
  { s with
    inviteCodes := update s.inviteCodes request.inviteId fun invite =>
      { invite with quotaUsed := request.quotaUsed + request.seats }
    requests := s.requests.filter fun r => r.id ≠ request.id
    handedOut := (request.inviteId, request.seats) :: s.handedOut
    commits := request.inviteId :: s.commits }

/-- A new invite has a key and a code of its own, and a request has a key of its own.  A request
whose check fails raises and is gone. -/
def seatStep (s : SeatState) : SeatEvent → Option SeatState
  | .create payload user source newId code =>
    if newId ∈ s.inviteCodes.map key ∨ code ∈ s.inviteCodes.map InviteCode.code then none
    else some { s with
      inviteCodes := s.inviteCodes ++ [newInvite payload user source newId code] }
  | .read requestId code use now =>
    if requestId ∈ s.requests.map key then none
    else
      match (findInvite s.inviteCodes code).filter fun invite =>
        (use.error invite now).isNone with
      | none => some s
      | some invite => some { s with
          requests := s.requests ++
            [⟨requestId, invite.id, invite.quotaUsed, use.seats, s.commits.count invite.id⟩] }
  | .commit requestId _ => (get s.requests requestId).map s.commitSeats
  | .abort requestId =>
    some { s with
      requests := s.requests.filter fun r => r.id ≠ requestId
      revocations := s.revocations.filter fun r => r.id ≠ requestId }
  | .readRevoke requestId code =>
    match (findInvite s.inviteCodes code).filter fun invite => (revokeError invite).isNone with
    | none => some s
    | some invite => some { s with revocations := s.revocations ++ [⟨requestId, invite.id⟩] }
  | .commitRevoke requestId now =>
    (get s.revocations requestId).map fun request =>
      { s with
        inviteCodes := update s.inviteCodes request.inviteId fun invite =>
          { invite with revokedAt := some now }
        revocations := s.revocations.filter fun r => r.id ≠ requestId
        commits := request.inviteId :: s.commits }

/-! ## What is asked of the seats -/

def seatsHandedOut (s : SeatState) (inviteId : RowId) : ℤ :=
  ((s.handedOut.filter fun handed => handed.1 = inviteId).map Prod.snd).sum

/-- Every counter counts the seats handed out, and stays within the quota. -/
def SeatsCounted (s : SeatState) : Prop :=
  ∀ invite ∈ s.inviteCodes,
    invite.quotaUsed = seatsHandedOut s invite.id ∧ invite.quotaUsed ≤ invite.quotaTotal

def InviteCode.Expired (invite : InviteCode) (now : Timestamp) : Prop :=
  ∃ expiresAt ∈ invite.expiresAt, expiresAt < now

/-- No seat is handed out of a revoked or expired invite. -/
def FromOpenInvite (s : SeatState) : SeatEvent → Prop
  | .commit requestId now => ∀ request, get s.requests requestId = some request →
      ∀ invite, get s.inviteCodes request.inviteId = some invite →
        invite.revokedAt = none ∧ ¬ invite.Expired now
  | _ => True

/-- What a step promises. -/
def SeatsSound (s : SeatState) (event : SeatEvent) (s' : SeatState) : Prop :=
  SeatsCounted s' ∧ FromOpenInvite s event

/-- No other transaction on the invite commits between the read and the commit of a request, and the
invite does not expire in between. -/
def Undisturbed (s : SeatState) : SeatEvent → Prop
  | .commit requestId now => ∀ request, get s.requests requestId = some request →
      s.commits.count request.inviteId = request.seen ∧
        ∀ invite, get s.inviteCodes request.inviteId = some invite → ¬ invite.Expired now
  | _ => True

/-! ## What the runs keep -/

/-- The row, as a request that has read it may still find it. -/
structure Readable (s : SeatState) (request : SeatRequest) (invite : InviteCode) : Prop where
  fits : 1 ≤ request.seats ∧ request.quotaUsed + request.seats ≤ invite.quotaTotal
  seen_le : request.seen ≤ s.commits.count request.inviteId
  same : s.commits.count request.inviteId = request.seen →
    invite.quotaUsed = request.quotaUsed ∧ invite.revokedAt = none
  changed : request.seen < s.commits.count request.inviteId →
    request.quotaUsed < invite.quotaUsed ∨ invite.revokedAt ≠ none

structure SeatInv (s : SeatState) : Prop where
  keys : (s.inviteCodes.map key).Nodup
  counted : SeatsCounted s
  handedOut : ∀ handed ∈ s.handedOut, handed.1 ∈ s.inviteCodes.map key
  requests : ∀ request ∈ s.requests, ∃ invite,
    get s.inviteCodes request.inviteId = some invite ∧ Readable s request invite

section Steps

variable {s s' : SeatState} {request : SeatRequest} {invite : InviteCode} {event : SeatEvent}

lemma one_le_seats (use : SeatUse) : 1 ≤ use.seats := by
  cases use with
  | register => exact le_rfl
  | redeem payload => exact payload.quota_pos

lemma SeatUse.of_error_eq_none {use : SeatUse} {now : Timestamp} (h : use.error invite now = none) :
    invite.revokedAt = none ∧ invite.quotaUsed + use.seats ≤ invite.quotaTotal := by
  cases use with
  | register =>
    unfold SeatUse.error inviteCodeError at h
    dsimp only at h
    split at h
    · cases h
    · next hrevoked =>
      split at h
      · cases h
      · split at h
        · cases h
        · next hfull =>
          refine ⟨Option.not_isSome_iff_eq_none.mp hrevoked, ?_⟩
          show invite.quotaUsed + 1 ≤ invite.quotaTotal
          omega
  | redeem payload =>
    unfold SeatUse.error redeemError at h
    dsimp only at h
    split at h
    · cases h
    · next hrevoked =>
      split at h
      · cases h
      · split at h
        · cases h
        · next hfull =>
          exact ⟨Option.not_isSome_iff_eq_none.mp hrevoked, not_lt.mp hfull⟩

lemma Readable.of_read {use : SeatUse} {now : Timestamp} {requestId : RowId}
    (h : use.error invite now = none) :
    Readable s ⟨requestId, invite.id, invite.quotaUsed, use.seats, s.commits.count invite.id⟩
      invite := by
  obtain ⟨hrevoked, hfits⟩ := SeatUse.of_error_eq_none h
  exact ⟨⟨one_le_seats use, hfits⟩, le_rfl, fun _ => ⟨rfl, hrevoked⟩,
    fun hlt => absurd hlt (lt_irrefl _)⟩

lemma Readable.after_commit (h : Readable s request invite) {invite' : InviteCode}
    {inviteId : RowId} (hcommits : s'.commits = inviteId :: s.commits)
    (htotal : invite'.quotaTotal = invite.quotaTotal)
    (hother : request.inviteId ≠ inviteId → invite' = invite)
    (hmoved : request.inviteId = inviteId → invite.quotaUsed < invite'.quotaUsed ∧
      invite'.revokedAt = invite.revokedAt ∨ invite'.revokedAt ≠ none) :
    Readable s' request invite' := by
  by_cases hid : request.inviteId = inviteId
  · have hcount : s'.commits.count request.inviteId = s.commits.count request.inviteId + 1 := by
      rw [hcommits, hid, List.count_cons_self]
    have hseen := h.seen_le
    refine ⟨htotal ▸ h.fits, by omega, fun hsame => by omega, fun _ => ?_⟩
    rcases hmoved hid with ⟨hused, hrevoked⟩ | hrevoked
    · rw [hrevoked]
      rcases Nat.lt_or_ge request.seen (s.commits.count request.inviteId) with hlt | hge
      · exact (h.changed hlt).imp_left fun hold => hold.trans hused
      · exact .inl ((h.same (le_antisymm hge hseen)).1 ▸ hused)
    · exact .inr hrevoked
  · have hcount : s'.commits.count request.inviteId = s.commits.count request.inviteId := by
      rw [hcommits, List.count_cons_of_ne (Ne.symm hid)]
    rw [hother hid]
    exact ⟨h.fits, hcount ▸ h.seen_le, fun hsame => h.same (hcount ▸ hsame),
      fun hlt => h.changed (hcount ▸ hlt)⟩

lemma seatsHandedOut_cons {inviteId : RowId} {seats : ℤ}
    (h : s'.handedOut = (inviteId, seats) :: s.handedOut) (id : RowId) :
    seatsHandedOut s' id = seatsHandedOut s id + if id = inviteId then seats else 0 := by
  unfold seatsHandedOut
  rw [h]
  by_cases hid : id = inviteId
  · subst hid
    simp only [decide_true, List.filter_cons_of_pos, List.map_cons, List.sum_cons, if_true]
    omega
  · have hne : ¬ inviteId = id := fun heq => hid heq.symm
    simp [hid, hne]

lemma mem_of_findInvite {code : String} {p : InviteCode → Bool}
    (h : (findInvite s.inviteCodes code).filter p = some invite) :
    invite ∈ s.inviteCodes ∧ p invite = true := by
  obtain ⟨hfind, hp⟩ := Option.filter_eq_some_iff.mp h
  exact ⟨List.mem_of_find?_eq_some hfind, hp⟩

/-! ### Creating and reading -/

lemma SeatInv.created (h : SeatInv s) {new : InviteCode} (hnew : new.id ∉ s.inviteCodes.map key)
    (hused : new.quotaUsed = 0) (htotal : 0 ≤ new.quotaTotal) :
    SeatInv { s with inviteCodes := s.inviteCodes ++ [new] } := by
  refine ⟨?_, fun row hrow => ?_, fun handed hhanded => ?_, fun request hrequest => ?_⟩
  · rw [List.map_append]
    exact h.keys.append (List.nodup_singleton _) (by simpa using hnew)
  · rcases List.mem_append.mp hrow with hrow | hrow
    · exact h.counted row hrow
    · rw [List.mem_singleton.mp hrow, hused]
      refine ⟨?_, htotal⟩
      have hnone : s.handedOut.filter (fun handed => decide (handed.1 = new.id)) = [] := by
        refine List.filter_eq_nil_iff.mpr fun handed hhanded heq => hnew ?_
        exact of_decide_eq_true heq ▸ h.handedOut handed hhanded
      show 0 = ((s.handedOut.filter fun handed => handed.1 = new.id).map Prod.snd).sum
      rw [hnone]
      rfl
  · rw [List.map_append]
    exact List.mem_append_left _ (h.handedOut handed hhanded)
  · obtain ⟨row, hget, hread⟩ := h.requests request hrequest
    refine ⟨row, ?_, hread.fits, hread.seen_le, hread.same, hread.changed⟩
    exact (get_append_of_mem (get_isSome_iff.mp (by rw [hget]; rfl))).trans hget

lemma SeatInv.read (h : SeatInv s) {request : SeatRequest} (hmem : invite ∈ s.inviteCodes)
    (hid : request.inviteId = invite.id) (hread : Readable s request invite) :
    SeatInv { s with requests := s.requests ++ [request] } := by
  refine ⟨h.keys, h.counted, h.handedOut, fun old hold => ?_⟩
  rcases List.mem_append.mp hold with hold | hold
  · obtain ⟨row, hget, hrow⟩ := h.requests old hold
    exact ⟨row, hget, hrow.fits, hrow.seen_le, hrow.same, hrow.changed⟩
  · rw [List.mem_singleton.mp hold]
    refine ⟨invite, ?_, hread.fits, hread.seen_le, hread.same, hread.changed⟩
    rw [hid]
    exact get_of_mem h.keys hmem

lemma SeatInv.fewer (h : SeatInv s) (p : SeatRequest → Bool) (revocations : List RevokeRequest) :
    SeatInv { s with requests := s.requests.filter p, revocations := revocations } := by
  refine ⟨h.keys, h.counted, h.handedOut, fun request hrequest => ?_⟩
  obtain ⟨row, hget, hread⟩ := h.requests request (List.mem_filter.mp hrequest).1
  exact ⟨row, hget, hread.fits, hread.seen_le, hread.same, hread.changed⟩

/-! ### Committing -/

lemma SeatInv.committed (h : SeatInv s) {inviteId : RowId}
    (f : InviteCode → InviteCode) (hf : ∀ row, (f row).id = row.id)
    (htotal : ∀ row, (f row).quotaTotal = row.quotaTotal)
    (hcodes : s'.inviteCodes = update s.inviteCodes inviteId f)
    (hcommits : s'.commits = inviteId :: s.commits)
    (hrequests : ∀ request ∈ s'.requests, request ∈ s.requests)
    (hhanded : ∀ handed ∈ s'.handedOut, handed ∈ s.handedOut ∨ handed.1 ∈ s.inviteCodes.map key)
    (hcounted : SeatsCounted s')
    (hmoved : ∀ row ∈ s.inviteCodes, row.id = inviteId →
      row.quotaUsed < (f row).quotaUsed ∧ (f row).revokedAt = row.revokedAt ∨
        (f row).revokedAt ≠ none) : SeatInv s' := by
  have hkeys : s'.inviteCodes.map key = s.inviteCodes.map key := by
    rw [hcodes]
    exact map_key_update hf
  refine ⟨hkeys ▸ h.keys, hcounted, fun handed hmem => ?_, fun request hrequest => ?_⟩
  · rw [hkeys]
    exact (hhanded handed hmem).elim (h.handedOut handed) id
  · obtain ⟨row, hget, hread⟩ := h.requests request (hrequests request hrequest)
    have hget' : get s'.inviteCodes request.inviteId =
        some (if key row = inviteId then f row else row) := by
      rw [hcodes]
      have hupdated : get (update s.inviteCodes inviteId f) request.inviteId =
          (get s.inviteCodes request.inviteId).map fun r => if key r = inviteId then f r else r :=
        get_update hf
      rw [hupdated, hget, Option.map_some]
    have hid : row.id = request.inviteId := key_of_get hget
    refine ⟨_, hget', hread.after_commit hcommits ?_ (fun hne => ?_) fun heq => ?_⟩
    · split
      · exact htotal row
      · rfl
    · exact if_neg fun heq => hne (hid.symm.trans heq)
    · have hrow : key row = inviteId := hid.trans heq
      rw [if_pos hrow]
      exact hmoved row (mem_of_get hget) hrow

lemma SeatsCounted.revoked (h : SeatsCounted s) {inviteId : RowId} {now : Timestamp}
    (hcodes : s'.inviteCodes = update s.inviteCodes inviteId fun row =>
      { row with revokedAt := some now })
    (hhanded : s'.handedOut = s.handedOut) : SeatsCounted s' := by
  intro row hrow
  rw [seatsHandedOut, hhanded]
  rw [hcodes] at hrow
  rcases mem_update.mp hrow with ⟨old, hold, -, rfl⟩ | ⟨hrow, -⟩
  · exact h old hold
  · exact h row hrow

lemma seatsCounted_commit_iff (h : SeatInv s)
    (hget : get s.inviteCodes request.inviteId = some invite) (hread : Readable s request invite) :
    SeatsCounted (s.commitSeats request) ↔ request.quotaUsed = invite.quotaUsed := by
  have hid : invite.id = request.inviteId := key_of_get hget
  have hcodes : (s.commitSeats request).inviteCodes = update s.inviteCodes request.inviteId
      fun row => { row with quotaUsed := request.quotaUsed + request.seats } := rfl
  have hcount : ∀ id, seatsHandedOut (s.commitSeats request) id =
      seatsHandedOut s id + if id = request.inviteId then request.seats else 0 :=
    seatsHandedOut_cons rfl
  have hbefore := h.counted invite (mem_of_get hget)
  rw [hid] at hbefore
  constructor
  · intro hcounted
    have hrow : { invite with quotaUsed := request.quotaUsed + request.seats } ∈
        (s.commitSeats request).inviteCodes := by
      rw [hcodes]
      exact mem_update.mpr (.inl ⟨invite, mem_of_get hget, hid, rfl⟩)
    have hafter := (hcounted _ hrow).1
    dsimp only at hafter
    rw [hid, hcount, if_pos rfl] at hafter
    omega
  · intro hsame row hrow
    rw [hcodes] at hrow
    rcases mem_update.mp hrow with ⟨old, hold, hkey, rfl⟩ | ⟨hrow, hne⟩
    · have hold : old = invite :=
        List.inj_on_of_nodup_map h.keys hold (mem_of_get hget) (hkey.trans hid.symm)
      subst hold
      dsimp only
      rw [hid, hcount, if_pos rfl]
      exact ⟨by omega, hread.fits.2⟩
    · have hne : ¬ row.id = request.inviteId := hne
      rw [hcount, if_neg hne, add_zero]
      exact h.counted row hrow

/-! ### Steps -/

lemma SeatInv.commit (h : SeatInv s) (hget : get s.inviteCodes request.inviteId = some invite)
    (hread : Readable s request invite)
    (hseen : s.commits.count request.inviteId = request.seen) :
    SeatInv (s.commitSeats request) := by
  have hused := (hread.same hseen).1
  refine h.committed (fun row => { row with quotaUsed := request.quotaUsed + request.seats })
    (fun _ => rfl) (fun _ => rfl) rfl rfl (fun r hr => (List.mem_filter.mp hr).1) ?_ ?_ ?_
  · intro handed hhanded
    rcases List.mem_cons.mp hhanded with rfl | hhanded
    · exact .inr (get_isSome_iff.mp (by rw [hget]; rfl))
    · exact .inl hhanded
  · exact (seatsCounted_commit_iff h hget hread).mpr hused.symm
  · intro row hrow hid
    have hrow : row = invite :=
      List.inj_on_of_nodup_map h.keys hrow (mem_of_get hget) (hid.trans (key_of_get hget).symm)
    have hpos := hread.fits.1
    refine .inl ⟨?_, rfl⟩
    show row.quotaUsed < request.quotaUsed + request.seats
    rw [hrow, hused]
    omega

lemma seatInv_step (h : SeatInv s) (hok : Undisturbed s event)
    (hs : seatStep s event = some s') : SeatInv s' := by
  cases event with
  | create payload user source newId code =>
    by_cases hmem : newId ∈ s.inviteCodes.map key ∨ code ∈ s.inviteCodes.map InviteCode.code
    · rw [seatStep, if_pos hmem] at hs
      cases hs
    rw [seatStep, if_neg hmem] at hs
    cases hs
    have hpos := payload.quotaTotal_pos
    exact h.created (not_or.mp hmem).1 rfl (by show 0 ≤ payload.quotaTotal; omega)
  | read requestId code use now =>
    by_cases hmem : requestId ∈ s.requests.map key
    · rw [seatStep, if_pos hmem] at hs
      cases hs
    rw [seatStep, if_neg hmem] at hs
    cases hfind : (findInvite s.inviteCodes code).filter fun invite =>
        (use.error invite now).isNone with
    | none =>
      rw [hfind] at hs
      cases hs
      exact h
    | some invite =>
      rw [hfind] at hs
      cases hs
      obtain ⟨hinvite, herror⟩ := mem_of_findInvite hfind
      exact h.read hinvite rfl (Readable.of_read (Option.isNone_iff_eq_none.mp herror))
  | commit requestId now =>
    obtain ⟨request, hrequest, rfl⟩ := Option.map_eq_some_iff.mp hs
    obtain ⟨invite, hget, hread⟩ := h.requests request (mem_of_get hrequest)
    exact h.commit hget hread (hok request hrequest).1
  | abort requestId =>
    cases hs
    exact h.fewer _ _
  | readRevoke requestId code =>
    cases hfind : (findInvite s.inviteCodes code).filter fun invite =>
        (revokeError invite).isNone with
    | none =>
      rw [seatStep, hfind] at hs
      cases hs
      exact h
    | some invite =>
      rw [seatStep, hfind] at hs
      cases hs
      exact ⟨h.keys, h.counted, h.handedOut, fun request hrequest => by
        obtain ⟨row, hget, hread⟩ := h.requests request hrequest
        exact ⟨row, hget, hread.fits, hread.seen_le, hread.same, hread.changed⟩⟩
  | commitRevoke requestId now =>
    obtain ⟨request, hrequest, rfl⟩ := Option.map_eq_some_iff.mp hs
    refine h.committed (fun row => { row with revokedAt := some now }) (fun _ => rfl)
      (fun _ => rfl) rfl rfl (fun _ hr => hr) (fun _ hh => .inl hh) (h.counted.revoked rfl rfl) ?_
    exact fun row _ _ => .inr (Option.some_ne_none now)

lemma seatsSound_iff (h : SeatInv s) :
    (∀ s', seatStep s event = some s' → SeatsSound s event s') ↔ Undisturbed s event := by
  have hmpr : Undisturbed s event → FromOpenInvite s event →
      ∀ s', seatStep s event = some s' → SeatsSound s event s' :=
    fun hok hopen s' hs => ⟨(seatInv_step h hok hs).counted, hopen⟩
  cases event with
  | commit requestId now =>
    constructor
    · intro hsound request hrequest
      obtain ⟨invite, hget, hread⟩ := h.requests request (mem_of_get hrequest)
      rw [seatStep, hrequest] at hsound
      obtain ⟨hcounted, hopen⟩ := hsound _ rfl
      obtain ⟨hrevoked, hexpired⟩ := hopen request hrequest invite hget
      have hsame := (seatsCounted_commit_iff h hget hread).mp hcounted
      refine ⟨le_antisymm (not_lt.mp fun hlt => ?_) hread.seen_le, fun row hrow => ?_⟩
      · rcases hread.changed hlt with hused | hrevoked'
        · exact absurd hsame (ne_of_lt hused)
        · exact hrevoked' hrevoked
      · cases hget.symm.trans hrow
        exact hexpired
    · intro hok
      refine hmpr hok fun request hrequest invite hget => ?_
      obtain ⟨row, hrow, hread⟩ := h.requests request (mem_of_get hrequest)
      cases hrow.symm.trans hget
      obtain ⟨hseen, hexpired⟩ := hok request hrequest
      exact ⟨(hread.same hseen).2, hexpired _ hget⟩
  | _ => exact ⟨fun _ => trivial, fun _ => hmpr trivial trivial⟩

/-! ### A request on its own -/

lemma run_read_commit {requestId : RowId} {code : String} (use : SeatUse) {now : Timestamp}
    (now' : Timestamp) (hkeys : (s.inviteCodes.map key).Nodup)
    (hid : requestId ∉ s.requests.map key)
    (hfind : findInvite s.inviteCodes code = some invite) (herror : use.error invite now = none) :
    ∃ s', run seatStep s [.read requestId code use now, .commit requestId now'] = some s' ∧
      s'.inviteCodes = update s.inviteCodes invite.id fun row =>
        { row with quotaUsed := row.quotaUsed + use.seats } := by
  have hfilter : (findInvite s.inviteCodes code).filter
      (fun invite => (use.error invite now).isNone) = some invite := by
    rw [hfind]
    exact Option.filter_eq_some_iff.mpr ⟨rfl, Option.isNone_iff_eq_none.mpr herror⟩
  set request : SeatRequest :=
    ⟨requestId, invite.id, invite.quotaUsed, use.seats, s.commits.count invite.id⟩ with hrequest
  have hread : seatStep s (.read requestId code use now) =
      some { s with requests := s.requests ++ [request] } := by
    rw [seatStep, if_neg hid, hfilter]
  have hget : get (s.requests ++ [request]) requestId = some request := by
    rw [get_append, get_eq_none_iff.mpr hid, Option.none_or]
    simp [Table.get, request]
  refine ⟨SeatState.commitSeats { s with requests := s.requests ++ [request] } request,
    run_cons_eq_some.mpr ⟨_, hread, run_cons_eq_some.mpr ⟨_, ?_, run_nil _⟩⟩, ?_⟩
  · rw [seatStep, hget]
    rfl
  · refine update_congr fun row hrow hkey => ?_
    have hrow : row = invite := List.inj_on_of_nodup_map hkeys hrow
      (List.mem_of_find?_eq_some hfind) hkey
    rw [hrow]

lemma accounts_addQuota (tables : InviteTables) (target : QuotaTarget) (amount : ℤ) :
    (addQuota tables target amount).accounts = tables.accounts := by
  show (openAccount tables target).accounts = tables.accounts
  unfold openAccount
  split
  · rfl
  · rfl

lemma run_redeemInvite {tables tables' : InviteTables} {code : String}
    {payload : InviteRedeemRequest} {newId requestId : RowId} {now now' : Timestamp}
    (hkeys : (tables.accounts.inviteCodes.map key).Nodup)
    (h : redeemInvite tables code payload newId now = .ok tables') :
    ∃ s', run seatStep { inviteCodes := tables.accounts.inviteCodes }
        [.read requestId code (.redeem payload) now, .commit requestId now'] = some s' ∧
      s'.inviteCodes = tables'.accounts.inviteCodes := by
  obtain ⟨invite, hinvite, rfl⟩ := except_map_eq_ok.mp h
  obtain ⟨found, hfound, hrest⟩ := except_bind_eq_ok.mp hinvite
  obtain ⟨_, herror, hrest⟩ := except_bind_eq_ok.mp hrest
  obtain ⟨_, -, hrest⟩ := except_bind_eq_ok.mp hrest
  cases hrest
  have hfind : findInvite tables.accounts.inviteCodes code = some invite := by
    unfold getInviteByCode at hfound
    split at hfound
    · cases hfound
    · next hfind =>
      cases hfound
      exact hfind
  have hnone : (SeatUse.redeem payload).error invite now = none := by
    show redeemError invite payload.quota now = none
    cases hcheck : redeemError invite payload.quota now with
    | none => rfl
    | some error =>
      rw [hcheck] at herror
      cases herror
  obtain ⟨s', hrun, hcodes⟩ := run_read_commit (s := { inviteCodes := tables.accounts.inviteCodes })
    (.redeem payload) now' hkeys List.not_mem_nil hfind hnone
  refine ⟨s', hrun, hcodes.trans ?_⟩
  rw [accounts_addQuota]
  rfl

/-- An invite with two seats, and a user to redeem it for. -/
def twoSeats : InviteTables where
  accounts :=
    { inviteCodes := [{ id := "invite", code := "CODE", quotaTotal := 2 }]
      users := [{ id := "user", username := "user", passwordHash := "" }] }

theorem twoSeats_run_redeemInvite :
    ∃ s', run seatStep { inviteCodes := twoSeats.accounts.inviteCodes }
        [.read "r" "CODE" (.redeem { userId := "user", quota_pos := defaultQuota_pos }) 0,
          .commit "r" 1] = some s' ∧
      s'.inviteCodes = [{ id := "invite", code := "CODE", quotaTotal := 2, quotaUsed := 1 }] := by
  have h : redeemInvite twoSeats "CODE" ⟨"user", 1, defaultQuota_pos⟩ "grant" 0 = .ok _ := rfl
  exact run_redeemInvite (by decide) h

section Register

variable (jwt : Jwt) (hashSecret : String → String) (settings : Settings)

lemma run_register {accounts accounts' : Accounts} {payload : RegisterRequest} {pair : TokenPair}
    {newId requestId : RowId} {draws : TokenDraws} {now' : Timestamp}
    (hkeys : (accounts.inviteCodes.map key).Nodup)
    (h : register jwt hashSecret settings accounts payload newId draws = .ok (pair, accounts')) :
    ∃ s', run seatStep { inviteCodes := accounts.inviteCodes }
        [.read requestId payload.inviteCode .register draws.now, .commit requestId now'] =
          some s' ∧
      s'.inviteCodes = accounts'.inviteCodes := by
  obtain ⟨inviteCode, userRole, hfind, herror, -, -, heq⟩ := register_spec h
  have haccounts : accounts' = (issueTokenPair jwt hashSecret settings
      (registerUser hashSecret accounts payload inviteCode userRole newId) newId draws).2 :=
    congrArg Prod.snd heq
  subst haccounts
  obtain ⟨s', hrun, hcodes⟩ := run_read_commit (s := { inviteCodes := accounts.inviteCodes })
    .register now' hkeys List.not_mem_nil hfind herror
  have hroot : (ensureRootGroup accounts).inviteCodes = accounts.inviteCodes := by
    unfold ensureRootGroup
    split
    · rfl
    · rfl
  refine ⟨s', hrun, hcodes.trans ?_⟩
  show update accounts.inviteCodes inviteCode.id _ =
    update (ensureRootGroup accounts).inviteCodes inviteCode.id _
  rw [hroot]
  rfl

end Register

end Steps

lemma seatInv_nil : SeatInv {} :=
  ⟨List.nodup_nil, by simp [SeatsCounted], by simp, by simp⟩

/-- In every interleaving of registrations, redemptions and revocations with the creation of
invites: the counters count the seats handed out and stay within the quota, and no seat comes from a
revoked or expired invite, if and only if no request commits on an invite after another transaction
on it has committed since the read, or after the invite has expired. -/
theorem seatsSound_iff_undisturbed (events : List SeatEvent) :
    AllSteps seatStep SeatsSound {} events ↔ StepsMeet seatStep Undisturbed {} events :=
  allSteps_iff_stepsMeet SeatInv (fun _ _ h => seatsSound_iff h)
    (fun _ _ _ h hok hs => seatInv_step h hok hs) seatInv_nil

/-- Two requests that read an invite with one seat left, before either commits. -/
def lastSeatRun : List SeatEvent :=
  [.create { registrationGroupId := "group", quotaTotal_pos := defaultQuota_pos }
      { id := "admin", username := "admin", passwordHash := "" } none "invite" "CODE",
    .read "r1" "CODE" .register 0,
    .read "r2" "CODE" (.redeem { userId := "user", quota_pos := defaultQuota_pos }) 0,
    .commit "r1" 0,
    .commit "r2" 0]

/-- Both are handed the last seat, and the counter counts one. -/
theorem lastSeatRun_not_seatsSound :
    ¬ ∀ events, AllSteps seatStep SeatsSound {} events := by
  intro hall
  obtain ⟨-, -, -, -, hlast, -⟩ := hall lastSeatRun
  obtain ⟨hcounted, -⟩ := hlast _ rfl
  obtain ⟨hused, -⟩ := hcounted _ (List.mem_singleton_self _)
  exact absurd hused (by decide +kernel)

end CocoonSit
