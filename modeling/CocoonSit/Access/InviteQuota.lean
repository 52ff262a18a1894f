import CocoonSit.Access.Invites
import CocoonSit.Lib.Run

/-!
# Invite quota adds up

The balance of an account against the two ledgers it sums up: the grants to its owner, and the quota
that the owner's invites took.  Grants fill the account and invites draw on it; the revocation of
a grant marks the grant, and leaves the account as it is.
-/

namespace CocoonSit

open Table TransitionSystem

/-- The tables, and what the invites created from each account have taken from it. -/
structure QuotaState where
  tables : InviteTables
  consumed : List (QuotaTarget × ℤ) := []

/-! ## The ledgers -/

/-- What a grant adds to an account: nothing when it is revoked, unlimited, or another's. -/
def grantWeight (target : QuotaTarget) (grant : InviteQuotaGrant) : ℤ :=
  if grant.target = target ∧ grant.revokedAt = none ∧ grant.isUnlimited = false then grant.quota
  else 0

/-- The sum of the unrevoked finite grants. -/
def grantedQuota (s : QuotaState) (target : QuotaTarget) : ℤ :=
  (s.tables.quotaGrants.map (grantWeight target)).sum

def consumedQuota (s : QuotaState) (target : QuotaTarget) : ℤ :=
  ((s.consumed.filter fun taken => taken.1 = target).map Prod.snd).sum

def InviteQuotaGrant.Unlimits (grant : InviteQuotaGrant) (target : QuotaTarget) : Prop :=
  grant.target = target ∧ grant.revokedAt = none ∧ grant.isUnlimited = true

instance (grant : InviteQuotaGrant) (target : QuotaTarget) : Decidable (grant.Unlimits target) :=
  inferInstanceAs (Decidable (_ ∧ _ ∧ _))

/-- Every account holds what its grants have left of it, never less than nothing, and is unlimited
exactly by an unlimited grant. -/
def Balanced (s : QuotaState) : Prop :=
  ∀ target, remainingQuota s.tables target =
      max (grantedQuota s target - consumedQuota s target) 0 ∧
    (isUnlimited s.tables target = true ↔
      ∃ grant ∈ s.tables.quotaGrants, grant.Unlimits target)

/-! ## The calls -/

inductive QuotaEvent where
  | createGrant (payload : InviteGrantCreate) (user : User) (newId : RowId)
  | revokeGrant (grantId : RowId) (user : User) (now : Timestamp)
  | createInvite (payload : InviteCreate) (user : User) (newId : RowId) (generated : Option String)
  | revokeInvite (code : String) (now : Timestamp)
  | redeemInvite (code : String) (payload : InviteRedeemRequest) (newId : RowId) (now : Timestamp)

/-- What the invite takes from the account it is created from; an unlimited account gives for
nothing. -/
def inviteTakes (tables : InviteTables) (payload : InviteCreate) (user : User) :
    List (QuotaTarget × ℤ) :=
  match inviteSource payload user with
  | .ok (some target) =>
    if isUnlimited tables target then [] else [(target, payload.quotaTotal)]
  | _ => []

/-- A call that raises is rolled back; a new grant has a key of its own. -/
def quotaStep (s : QuotaState) : QuotaEvent → Option QuotaState
  | .createGrant payload user newId =>
    if newId ∈ s.tables.quotaGrants.map key then none
    else some { s with
      tables := (createGrant s.tables payload user newId).toOption.getD s.tables }
  | .revokeGrant grantId user now =>
    some { s with tables := (revokeGrant s.tables grantId user now).toOption.getD s.tables }
  | .createInvite payload user newId generated =>
    match createInvite s.tables payload user newId generated with
    | .error _ => some s
    | .ok tables => some ⟨tables, s.consumed ++ inviteTakes s.tables payload user⟩
  | .revokeInvite code now =>
    some { s with tables := (revokeInvite s.tables code now).toOption.getD s.tables }
  | .redeemInvite code payload newId now =>
    if newId ∈ s.tables.quotaGrants.map key then none
    else some { s with
      tables := (redeemInvite s.tables code payload newId now).toOption.getD s.tables }

/-- The calls after which the account is what its ledgers say.  A finite grant, or a redemption,
goes to an account that has not consumed more than it has been granted; a finite grant is revoked
when the account has nothing left; an unlimited one when another is left. -/
def Covered (s : QuotaState) : QuotaEvent → Prop
  | .createGrant payload _ _ => ∀ target, grantTarget s.tables.accounts payload = .ok target →
      payload.isUnlimited = false → consumedQuota s target ≤ grantedQuota s target
  | .revokeGrant grantId user _ => ∀ grant, revocableGrant s.tables grantId user = .ok grant →
      if grant.isUnlimited then
        ∃ other ∈ s.tables.quotaGrants, other.id ≠ grant.id ∧ other.Unlimits grant.target
      else grantedQuota s grant.target ≤ consumedQuota s grant.target
  | .redeemInvite code payload _ now =>
    ∀ invite, redeemableInvite s.tables code payload now = .ok invite →
      consumedQuota s (.user, payload.userId) ≤ grantedQuota s (.user, payload.userId)
  | _ => True

instance (s : QuotaState) (event : QuotaEvent) : Decidable (Covered s event) :=
  match event with
  | .createGrant .. => inferInstanceAs (Decidable (∀ target, _ = _ → _ → _))
  | .revokeGrant .. => inferInstanceAs (Decidable (∀ grant, _ = _ → _))
  | .createInvite .. => .isTrue trivial
  | .revokeInvite .. => .isTrue trivial
  | .redeemInvite .. => inferInstanceAs (Decidable (∀ invite, _ = _ → _))

/-- Keys of grants are unique and their quota is positive. -/
structure GrantRows (s : QuotaState) : Prop where
  keys : (s.tables.quotaGrants.map key).Nodup
  positive : ∀ grant ∈ s.tables.quotaGrants, 1 ≤ grant.quota

/-! ## Writes to an account -/

section Accounts

variable {tables tables' : InviteTables} {target target' : QuotaTarget} {amount : ℤ}

lemma get_openAccount :
    get (openAccount tables target).quotaAccounts target' =
      (get tables.quotaAccounts target').or
        (if target' = target then some { target := target } else none) := by
  unfold openAccount
  split
  · next hsome =>
    obtain ⟨account, hget⟩ := Option.isSome_iff_exists.mp hsome
    by_cases htarget : target' = target
    · rw [htarget, hget, Option.some_or]
    · rw [if_neg htarget, Option.or_none]
  · rw [get_append]
    by_cases htarget : target' = target
    · simp [htarget, Table.get]
    · have hne : ¬ target = target' := fun heq => htarget heq.symm
      simp [htarget, hne, Table.get]

lemma remainingQuota_openAccount :
    remainingQuota (openAccount tables target) target' = remainingQuota tables target' := by
  rw [remainingQuota, get_openAccount, remainingQuota]
  cases get tables.quotaAccounts target' with
  | some account => rfl
  | none => split <;> rfl

lemma isUnlimited_openAccount :
    isUnlimited (openAccount tables target) target' = isUnlimited tables target' := by
  rw [isUnlimited, get_openAccount, isUnlimited]
  cases get tables.quotaAccounts target' with
  | some account => rfl
  | none => split <;> rfl

lemma get_updateAccount {f : InviteQuotaAccount → InviteQuotaAccount}
    (hf : ∀ account, (f account).target = account.target) :
    get (updateAccount tables target f).quotaAccounts target' =
      if target' = target then
        some (f ((get tables.quotaAccounts target).getD { target := target }))
      else get tables.quotaAccounts target' := by
  have hget : get (updateAccount tables target f).quotaAccounts target' =
      (get (openAccount tables target).quotaAccounts target').map fun account =>
        if key account = target then f account else account := get_update hf
  rw [hget, get_openAccount]
  by_cases htarget : target' = target
  · subst htarget
    rw [if_pos rfl, if_pos rfl]
    cases haccount : get tables.quotaAccounts target' with
    | none => simp
    | some account =>
      have hkey : account.target = target' := key_of_get haccount
      simp [hkey]
  · rw [if_neg htarget, if_neg htarget, Option.or_none]
    cases haccount : get tables.quotaAccounts target' with
    | none => rfl
    | some account =>
      have hkey : ¬ key account = target := by rwa [key_of_get haccount]
      rw [Option.map_some, if_neg hkey]

lemma remainingQuota_addQuota :
    remainingQuota (addQuota tables target amount) target' =
      remainingQuota tables target' + if target' = target then amount else 0 := by
  rw [remainingQuota, addQuota, get_updateAccount, remainingQuota]
  · by_cases htarget : target' = target
    · subst htarget
      rw [if_pos rfl, if_pos rfl]
      cases get tables.quotaAccounts target' <;> simp
    · rw [if_neg htarget, if_neg htarget, add_zero]
  · exact fun _ => rfl

lemma isUnlimited_addQuota :
    isUnlimited (addQuota tables target amount) target' = isUnlimited tables target' := by
  rw [isUnlimited, addQuota, get_updateAccount, isUnlimited]
  · by_cases htarget : target' = target
    · subst htarget
      rw [if_pos rfl]
      cases get tables.quotaAccounts target' <;> rfl
    · rw [if_neg htarget]
  · exact fun _ => rfl

lemma remainingQuota_unlimitAccount :
    remainingQuota (unlimitAccount tables target) target' = remainingQuota tables target' := by
  rw [remainingQuota, unlimitAccount, get_updateAccount, remainingQuota]
  · by_cases htarget : target' = target
    · subst htarget
      rw [if_pos rfl]
      cases get tables.quotaAccounts target' <;> rfl
    · rw [if_neg htarget]
  · exact fun _ => rfl

lemma isUnlimited_unlimitAccount :
    isUnlimited (unlimitAccount tables target) target' = true ↔
      isUnlimited tables target' = true ∨ target' = target := by
  rw [isUnlimited, unlimitAccount, get_updateAccount, isUnlimited]
  · by_cases htarget : target' = target
    · simp [htarget]
    · simp [htarget]
  · exact fun _ => rfl

end Accounts

/-! ## What keeps the balance -/

section Changes

variable {s s' : QuotaState} {target : QuotaTarget} {grant : InviteQuotaGrant}

lemma Balanced.congr (h : Balanced s)
    (hbalance : ∀ t, remainingQuota s'.tables t = remainingQuota s.tables t)
    (hunlimited : ∀ t, isUnlimited s'.tables t = isUnlimited s.tables t)
    (hgrants : s'.tables.quotaGrants = s.tables.quotaGrants)
    (hconsumed : s'.consumed = s.consumed) : Balanced s' := by
  intro t
  rw [hbalance, hunlimited, grantedQuota, consumedQuota, hgrants, hconsumed]
  exact h t

lemma grantedQuota_concat (hgrants : s'.tables.quotaGrants = s.tables.quotaGrants ++ [grant])
    (t : QuotaTarget) : grantedQuota s' t = grantedQuota s t + grantWeight t grant := by
  rw [grantedQuota, hgrants, List.map_append, List.sum_append, grantedQuota]
  simp

lemma balanced_granted_iff (h : Balanced s) (s' : QuotaState) (grant : InviteQuotaGrant)
    (hfinite : grant.isUnlimited = false)
    (hlive : grant.revokedAt = none) (hpos : 1 ≤ grant.quota)
    (hgrants : s'.tables.quotaGrants = s.tables.quotaGrants ++ [grant])
    (hbalance : ∀ t, remainingQuota s'.tables t =
      remainingQuota s.tables t + if t = grant.target then grant.quota else 0)
    (hunlimited : ∀ t, isUnlimited s'.tables t = isUnlimited s.tables t)
    (hconsumed : s'.consumed = s.consumed) :
    Balanced s' ↔ consumedQuota s grant.target ≤ grantedQuota s grant.target := by
  have hweight : ∀ t, grantWeight t grant = if t = grant.target then grant.quota else 0 := by
    intro t
    simp [grantWeight, hlive, hfinite, eq_comm]
  have hsame : ∀ t, consumedQuota s' t = consumedQuota s t := by
    intro t
    rw [consumedQuota, hconsumed, consumedQuota]
  constructor
  · intro h'
    have hafter := (h' grant.target).1
    have hbefore := (h grant.target).1
    rw [hbalance, grantedQuota_concat hgrants, hweight, hsame, if_pos rfl] at hafter
    omega
  · intro hcovered t
    obtain ⟨hbefore, hunlimits⟩ := h t
    refine ⟨?_, ?_⟩
    · rw [hbalance, grantedQuota_concat hgrants, hweight, hsame]
      by_cases ht : t = grant.target
      · rw [if_pos ht]
        rw [← ht] at hcovered
        omega
      · rw [if_neg ht, add_zero, add_zero]
        exact hbefore
    · rw [hunlimited, hunlimits, hgrants]
      simp [InviteQuotaGrant.Unlimits, hfinite]

lemma balanced_unlimited (h : Balanced s) (hinfinite : grant.isUnlimited = true)
    (hlive : grant.revokedAt = none)
    (hgrants : s'.tables.quotaGrants = s.tables.quotaGrants ++ [grant])
    (hbalance : ∀ t, remainingQuota s'.tables t = remainingQuota s.tables t)
    (hunlimited : ∀ t, isUnlimited s'.tables t = true ↔
      isUnlimited s.tables t = true ∨ t = grant.target)
    (hconsumed : s'.consumed = s.consumed) : Balanced s' := by
  intro t
  obtain ⟨hbefore, hunlimits⟩ := h t
  refine ⟨?_, ?_⟩
  · have hweight : grantWeight t grant = 0 := by simp [grantWeight, hinfinite]
    rw [hbalance, grantedQuota_concat hgrants, hweight, consumedQuota, hconsumed, add_zero]
    exact hbefore
  · rw [hunlimited, hunlimits, hgrants]
    simp only [List.mem_append, List.mem_singleton, or_and_right, exists_or, exists_eq_left]
    exact or_congr_right ⟨fun ht => ⟨ht.symm, hlive, hinfinite⟩, fun hu => hu.1.symm⟩

lemma balanced_drawn (h : Balanced s) {amount : ℤ} (hpos : 1 ≤ amount)
    (hcovered : amount ≤ remainingQuota s.tables target)
    (hgrants : s'.tables.quotaGrants = s.tables.quotaGrants)
    (hbalance : ∀ t, remainingQuota s'.tables t =
      remainingQuota s.tables t + if t = target then -amount else 0)
    (hunlimited : ∀ t, isUnlimited s'.tables t = isUnlimited s.tables t)
    (hconsumed : s'.consumed = s.consumed ++ [(target, amount)]) : Balanced s' := by
  intro t
  obtain ⟨hbefore, hunlimits⟩ := h t
  have htaken : consumedQuota s' t = consumedQuota s t + if t = target then amount else 0 := by
    rw [consumedQuota, hconsumed, List.filter_append, List.map_append, List.sum_append,
      consumedQuota]
    by_cases ht : t = target
    · simp [ht]
    · have hne : ¬ target = t := fun heq => ht heq.symm
      simp [ht, hne]
  refine ⟨?_, ?_⟩
  · rw [hbalance, htaken, grantedQuota, hgrants]
    have hgranted : (s.tables.quotaGrants.map (grantWeight t)).sum = grantedQuota s t := rfl
    rw [hgranted]
    by_cases ht : t = target
    · rw [if_pos ht, if_pos ht]
      rw [← ht] at hcovered
      omega
    · rw [if_neg ht, if_neg ht]
      omega
  · rw [hunlimited, hgrants]
    exact hunlimits

lemma unlimits_update_iff (now : Timestamp) (t : QuotaTarget) :
    (∃ g ∈ update s.tables.quotaGrants grant.id fun g => { g with revokedAt := some now },
        g.Unlimits t) ↔
      ∃ other ∈ s.tables.quotaGrants, other.id ≠ grant.id ∧ other.Unlimits t := by
  constructor
  · rintro ⟨g, hg, hunlimits⟩
    rcases mem_update.mp hg with ⟨old, -, -, rfl⟩ | ⟨hg, hne⟩
    · exact absurd hunlimits.2.1 (Option.some_ne_none now)
    · exact ⟨g, hg, hne, hunlimits⟩
  · rintro ⟨other, hother, hne, hunlimits⟩
    exact ⟨other, mem_update.mpr (.inr ⟨hother, hne⟩), hunlimits⟩

lemma exists_unlimits_iff (hrows : GrantRows s)
    (hget : get s.tables.quotaGrants grant.id = some grant) (t : QuotaTarget) :
    (∃ g ∈ s.tables.quotaGrants, g.Unlimits t) ↔ grant.Unlimits t ∨
      ∃ other ∈ s.tables.quotaGrants, other.id ≠ grant.id ∧ other.Unlimits t := by
  constructor
  · rintro ⟨g, hg, hunlimits⟩
    by_cases hid : g.id = grant.id
    · have hsame : g = grant := List.inj_on_of_nodup_map hrows.keys hg (mem_of_get hget) hid
      exact .inl (hsame ▸ hunlimits)
    · exact .inr ⟨g, hg, hid, hunlimits⟩
  · rintro (hunlimits | ⟨other, hother, -, hunlimits⟩)
    · exact ⟨grant, mem_of_get hget, hunlimits⟩
    · exact ⟨other, hother, hunlimits⟩

/-- A revocation leaves the account, so it is right only when the account has nothing left of the
grant: when it is drained, or unlimited by another grant. -/
lemma balanced_revoked_iff (hrows : GrantRows s) (h : Balanced s) {now : Timestamp}
    (hget : get s.tables.quotaGrants grant.id = some grant) (hlive : grant.revokedAt = none)
    (hgrants : s'.tables.quotaGrants = update s.tables.quotaGrants grant.id fun g =>
      { g with revokedAt := some now })
    (hbalance : ∀ t, remainingQuota s'.tables t = remainingQuota s.tables t)
    (hunlimited : ∀ t, isUnlimited s'.tables t = isUnlimited s.tables t)
    (hconsumed : s'.consumed = s.consumed) :
    Balanced s' ↔ if grant.isUnlimited then
        ∃ other ∈ s.tables.quotaGrants, other.id ≠ grant.id ∧ other.Unlimits grant.target
      else grantedQuota s grant.target ≤ consumedQuota s grant.target := by
  have hsum : ∀ t, grantedQuota s' t = grantedQuota s t - grantWeight t grant := by
    intro t
    have hrevoked : grantWeight t { grant with revokedAt := some now } = 0 := by
      simp [grantWeight]
    rw [grantedQuota, hgrants, sum_map_update hrows.keys hget, hrevoked, grantedQuota]
    omega
  have hsame : ∀ t, consumedQuota s' t = consumedQuota s t := by
    intro t
    rw [consumedQuota, hconsumed, consumedQuota]
  cases hkind : grant.isUnlimited with
  | true =>
    have hweight : ∀ t, grantWeight t grant = 0 := fun t => by simp [grantWeight, hkind]
    have hself : grant.Unlimits grant.target := ⟨rfl, hlive, hkind⟩
    rw [if_pos rfl]
    constructor
    · intro h'
      rw [← unlimits_update_iff now, ← hgrants, ← (h' grant.target).2, hunlimited,
        (h grant.target).2]
      exact ⟨grant, mem_of_get hget, hself⟩
    · intro hother t
      obtain ⟨hbefore, hunlimits⟩ := h t
      refine ⟨?_, ?_⟩
      · rw [hbalance, hsum, hweight, hsame, sub_zero]
        exact hbefore
      · rw [hunlimited, hunlimits, hgrants, unlimits_update_iff, exists_unlimits_iff hrows hget]
        refine or_iff_right_of_imp fun hgrant => ?_
        rw [← hgrant.1]
        exact hother
  | false =>
    have hpos := hrows.positive grant (mem_of_get hget)
    have hweight : ∀ t, grantWeight t grant = if t = grant.target then grant.quota else 0 := by
      intro t
      simp [grantWeight, hlive, hkind, eq_comm]
    have hnot : ∀ t, ¬ grant.Unlimits t := fun t hu => by
      rw [hu.2.2] at hkind
      cases hkind
    rw [if_neg Bool.false_ne_true]
    constructor
    · intro h'
      have hafter := (h' grant.target).1
      have hbefore := (h grant.target).1
      rw [hbalance, hsum, hweight, hsame, if_pos rfl] at hafter
      omega
    · intro hdrained t
      obtain ⟨hbefore, hunlimits⟩ := h t
      refine ⟨?_, ?_⟩
      · rw [hbalance, hsum, hweight, hsame]
        by_cases ht : t = grant.target
        · rw [if_pos ht]
          rw [← ht] at hdrained
          omega
        · rw [if_neg ht, sub_zero]
          exact hbefore
      · rw [hunlimited, hunlimits, hgrants, unlimits_update_iff, exists_unlimits_iff hrows hget]
        exact or_iff_right (hnot t)

end Changes

/-! ## The steps -/

section Steps

variable {s s' : QuotaState} {event : QuotaEvent}

lemma revocableGrant_eq_ok {tables : InviteTables} {grantId : RowId} {user : User}
    {grant : InviteQuotaGrant} (h : revocableGrant tables grantId user = .ok grant) :
    get tables.quotaGrants grantId = some grant ∧ grant.revokedAt = none := by
  unfold revocableGrant at h
  split at h
  · cases h
  · cases hget : get tables.quotaGrants grantId with
    | none =>
      rw [hget] at h
      cases h
    | some found =>
      rw [hget] at h
      dsimp only at h
      split at h
      · cases h
      · next hrevoked =>
        cases h
        exact ⟨rfl, Option.not_isSome_iff_eq_none.mp hrevoked⟩

lemma drawQuota_eq_ok {tables tables' : InviteTables} {target : QuotaTarget} {amount : ℤ}
    (h : drawQuota tables target amount = .ok tables') :
    if isUnlimited tables target then tables' = openAccount tables target
    else amount ≤ remainingQuota tables target ∧ tables' = addQuota tables target (-amount) := by
  unfold drawQuota at h
  obtain ⟨_, -, h⟩ := except_bind_eq_ok.mp h
  obtain ⟨_, -, h⟩ := except_bind_eq_ok.mp h
  unfold consumeQuota at h
  split
  · next hunlimited =>
    rw [if_pos hunlimited] at h
    exact (Except.ok.inj h).symm
  · next hfinite =>
    rw [if_neg hfinite] at h
    split at h
    · cases h
    · next hcovered => exact ⟨not_lt.mp hcovered, (Except.ok.inj h).symm⟩

lemma createInvite_eq_ok {tables tables' : InviteTables} {payload : InviteCreate} {user : User}
    {newId : RowId} {generated : Option String}
    (h : createInvite tables payload user newId generated = .ok tables') :
    ∃ source drawn, inviteSource payload user = .ok source ∧
      tables'.quotaAccounts = drawn.quotaAccounts ∧ tables'.quotaGrants = drawn.quotaGrants ∧
      (source = none ∧ drawn = tables ∨
        ∃ target, source = some target ∧
          drawQuota tables target payload.quotaTotal = .ok drawn) := by
  unfold createInvite at h
  obtain ⟨code, -, h⟩ := except_bind_eq_ok.mp h
  obtain ⟨_, -, h⟩ := except_bind_eq_ok.mp h
  obtain ⟨source, hsource, h⟩ := except_bind_eq_ok.mp h
  obtain ⟨drawn, hdrawn, h⟩ := except_bind_eq_ok.mp h
  obtain ⟨_, -, h⟩ := except_bind_eq_ok.mp h
  cases h
  refine ⟨source, drawn, hsource, rfl, rfl, ?_⟩
  cases source with
  | none => exact .inl ⟨rfl, (Except.ok.inj hdrawn).symm⟩
  | some target => exact .inr ⟨target, rfl, hdrawn⟩

lemma remainingQuota_congr {tables tables' : InviteTables}
    (h : tables'.quotaAccounts = tables.quotaAccounts) (t : QuotaTarget) :
    remainingQuota tables' t = remainingQuota tables t := by
  rw [remainingQuota, h, remainingQuota]

lemma isUnlimited_congr {tables tables' : InviteTables}
    (h : tables'.quotaAccounts = tables.quotaAccounts) (t : QuotaTarget) :
    isUnlimited tables' t = isUnlimited tables t := by
  rw [isUnlimited, h, isUnlimited]

lemma quotaGrants_updateAccount (tables : InviteTables) (target : QuotaTarget)
    (f : InviteQuotaAccount → InviteQuotaAccount) :
    (updateAccount tables target f).quotaGrants = tables.quotaGrants := by
  unfold updateAccount openAccount
  split <;> rfl

lemma quotaGrants_openAccount (tables : InviteTables) (target : QuotaTarget) :
    (openAccount tables target).quotaGrants = tables.quotaGrants := by
  unfold openAccount
  split <;> rfl

lemma createInvite_quotaGrants {tables tables' : InviteTables} {payload : InviteCreate}
    {user : User}
    {newId : RowId} {generated : Option String}
    (h : createInvite tables payload user newId generated = .ok tables') :
    tables'.quotaGrants = tables.quotaGrants := by
  obtain ⟨source, drawn, -, -, hgrants, ⟨-, rfl⟩ | ⟨target, -, hdraw⟩⟩ := createInvite_eq_ok h
  · exact hgrants
  · have hdrawn := drawQuota_eq_ok hdraw
    split at hdrawn
    · rw [hgrants, hdrawn, quotaGrants_openAccount]
    · rw [hgrants, hdrawn.2, addQuota, quotaGrants_updateAccount]

lemma balanced_createInvite (h : Balanced s) {tables' : InviteTables} {payload : InviteCreate}
    {user : User} {newId : RowId} {generated : Option String}
    (hcreated : createInvite s.tables payload user newId generated = .ok tables') :
    Balanced ⟨tables', s.consumed ++ inviteTakes s.tables payload user⟩ := by
  have hgrants := createInvite_quotaGrants hcreated
  obtain ⟨source, drawn, hsource, haccounts, -, ⟨rfl, rfl⟩ | ⟨target, rfl, hdraw⟩⟩ :=
    createInvite_eq_ok hcreated
  · have htakes : inviteTakes s.tables payload user = [] := by rw [inviteTakes, hsource]
    refine h.congr (remainingQuota_congr haccounts) (isUnlimited_congr haccounts) hgrants ?_
    rw [htakes, List.append_nil]
  · have hdrawn := drawQuota_eq_ok hdraw
    by_cases hunlimited : isUnlimited s.tables target = true
    · rw [if_pos hunlimited] at hdrawn
      have htakes : inviteTakes s.tables payload user = [] := by
        rw [inviteTakes, hsource]
        exact if_pos hunlimited
      subst hdrawn
      refine h.congr (fun t => ?_) (fun t => ?_) hgrants ?_
      · exact (remainingQuota_congr haccounts t).trans remainingQuota_openAccount
      · exact (isUnlimited_congr haccounts t).trans isUnlimited_openAccount
      · rw [htakes, List.append_nil]
    · rw [if_neg hunlimited] at hdrawn
      have htakes : inviteTakes s.tables payload user = [(target, payload.quotaTotal)] := by
        rw [inviteTakes, hsource]
        exact if_neg hunlimited
      obtain ⟨hcovered, rfl⟩ := hdrawn
      refine balanced_drawn h payload.quotaTotal_pos hcovered hgrants (fun t => ?_) (fun t => ?_)
        (by rw [htakes])
      · exact (remainingQuota_congr haccounts t).trans remainingQuota_addQuota
      · exact (isUnlimited_congr haccounts t).trans isUnlimited_addQuota

lemma grantRows_concat (hrows : GrantRows s) {grant : InviteQuotaGrant}
    (hnew : grant.id ∉ s.tables.quotaGrants.map key) (hpos : 1 ≤ grant.quota)
    (hgrants : s'.tables.quotaGrants = s.tables.quotaGrants ++ [grant]) : GrantRows s' := by
  refine ⟨?_, ?_⟩
  · rw [hgrants, List.map_append]
    exact hrows.keys.append (List.nodup_singleton _) (by simpa using hnew)
  · rw [hgrants]
    intro g hg
    rcases List.mem_append.mp hg with hg | hg
    · exact hrows.positive g hg
    · exact List.mem_singleton.mp hg ▸ hpos

lemma balanced_createGrant {payload : InviteGrantCreate} {user : User} {newId : RowId}
    {target : QuotaTarget} (hrows : GrantRows s) (hnew : newId ∉ s.tables.quotaGrants.map key)
    (htarget : grantTarget s.tables.accounts payload = .ok target) {tables' : InviteTables}
    (hcreated : createGrant s.tables payload user newId = .ok tables') :
    GrantRows { s with tables := tables' } ∧ (Balanced s →
      (Balanced { s with tables := tables' } ↔
        (payload.isUnlimited = false → consumedQuota s target ≤ grantedQuota s target))) := by
  rw [createGrant, htarget] at hcreated
  have htables := (Except.ok.inj hcreated).symm
  cases hkind : payload.isUnlimited with
  | true =>
    rw [hkind] at htables
    have hgrants : tables'.quotaGrants =
        s.tables.quotaGrants ++ [newGrant payload user newId target] := by
      rw [htables]
      exact quotaGrants_updateAccount ..
    refine ⟨grantRows_concat hrows hnew payload.amount_pos hgrants, fun h => ?_⟩
    refine iff_of_true (balanced_unlimited h hkind rfl hgrants ?_ ?_ rfl) nofun
    · rw [htables]
      exact fun t => remainingQuota_unlimitAccount
    · rw [htables]
      exact fun t => isUnlimited_unlimitAccount
  | false =>
    rw [hkind] at htables
    have hgrants : tables'.quotaGrants =
        s.tables.quotaGrants ++ [newGrant payload user newId target] := by
      rw [htables]
      exact quotaGrants_updateAccount ..
    refine ⟨grantRows_concat hrows hnew payload.amount_pos hgrants, fun h => ?_⟩
    refine (balanced_granted_iff h { s with tables := tables' }
      (newGrant payload user newId target) hkind rfl payload.amount_pos hgrants ?_ ?_ rfl).trans
      ⟨fun hc _ => hc, fun hc => hc rfl⟩
    · rw [htables]
      exact fun t => remainingQuota_addQuota
    · rw [htables]
      exact fun t => isUnlimited_addQuota

lemma balanced_redeemInvite {code : String} {payload : InviteRedeemRequest} {newId : RowId}
    {now : Timestamp} {invite : InviteCode} (hrows : GrantRows s)
    (hnew : newId ∉ s.tables.quotaGrants.map key)
    (hinvite : redeemableInvite s.tables code payload now = .ok invite) {tables' : InviteTables}
    (hredeemed : redeemInvite s.tables code payload newId now = .ok tables') :
    GrantRows { s with tables := tables' } ∧ (Balanced s →
      (Balanced { s with tables := tables' } ↔
        consumedQuota s (.user, payload.userId) ≤ grantedQuota s (.user, payload.userId))) := by
  rw [redeemInvite, hinvite] at hredeemed
  have htables := (Except.ok.inj hredeemed).symm
  have hgrants : tables'.quotaGrants =
      s.tables.quotaGrants ++ [redeemedGrant invite payload newId] := by
    rw [htables]
    exact quotaGrants_updateAccount ..
  refine ⟨grantRows_concat hrows hnew payload.quota_pos hgrants, fun h => ?_⟩
  refine balanced_granted_iff h { s with tables := tables' } (redeemedGrant invite payload newId)
    rfl rfl payload.quota_pos hgrants ?_ ?_ rfl
  · rw [htables]
    exact fun t => remainingQuota_addQuota
  · rw [htables]
    exact fun t => isUnlimited_addQuota

lemma balanced_revokeGrant {grantId : RowId} {user : User} {now : Timestamp}
    {grant : InviteQuotaGrant} (hrows : GrantRows s)
    (hgrant : revocableGrant s.tables grantId user = .ok grant) {tables' : InviteTables}
    (hrevoked : revokeGrant s.tables grantId user now = .ok tables') :
    GrantRows { s with tables := tables' } ∧ (Balanced s →
      (Balanced { s with tables := tables' } ↔ if grant.isUnlimited then
          ∃ other ∈ s.tables.quotaGrants, other.id ≠ grant.id ∧ other.Unlimits grant.target
        else grantedQuota s grant.target ≤ consumedQuota s grant.target)) := by
  obtain ⟨hget, hlive⟩ := revocableGrant_eq_ok hgrant
  have hid : grant.id = grantId := key_of_get hget
  rw [revokeGrant, hgrant] at hrevoked
  cases hrevoked
  subst hid
  refine ⟨⟨?_, fun g hg => ?_⟩, fun h => ?_⟩
  · have hkeys : (update s.tables.quotaGrants grant.id fun g =>
        { g with revokedAt := some now }).map key = s.tables.quotaGrants.map key :=
      map_key_update fun _ => rfl
    show (List.map key (update s.tables.quotaGrants grant.id _)).Nodup
    rw [hkeys]
    exact hrows.keys
  · rcases mem_update.mp hg with ⟨old, hold, -, rfl⟩ | ⟨hg, -⟩
    · exact hrows.positive old hold
    · exact hrows.positive g hg
  · exact balanced_revoked_iff hrows h hget hlive rfl (fun _ => rfl) (fun _ => rfl) rfl

lemma balanced_step_iff (hrows : GrantRows s) (hs : quotaStep s event = some s') :
    GrantRows s' ∧ (Balanced s → (Balanced s' ↔ Covered s event)) := by
  cases event with
  | createGrant payload user newId =>
    by_cases hmem : newId ∈ s.tables.quotaGrants.map key
    · rw [quotaStep, if_pos hmem] at hs
      cases hs
    rw [quotaStep, if_neg hmem] at hs
    cases htarget : grantTarget s.tables.accounts payload with
    | error error =>
      rw [createGrant, htarget] at hs
      cases hs
      exact ⟨hrows, fun h => iff_of_true h fun target ht => nomatch htarget.symm.trans ht⟩
    | ok target =>
      obtain ⟨tables', hcreated⟩ : ∃ tables',
          createGrant s.tables payload user newId = .ok tables' := by
        rw [createGrant, htarget]
        exact ⟨_, rfl⟩
      rw [hcreated] at hs
      cases hs
      obtain ⟨hrows', hiff⟩ := balanced_createGrant hrows hmem htarget hcreated
      refine ⟨hrows', fun h => (hiff h).trans ⟨fun hc t ht => ?_, fun hc => hc target htarget⟩⟩
      cases htarget.symm.trans ht
      exact hc
  | revokeGrant grantId user now =>
    cases hgrant : revocableGrant s.tables grantId user with
    | error error =>
      rw [quotaStep, revokeGrant, hgrant] at hs
      cases hs
      exact ⟨hrows, fun h => iff_of_true h fun grant hg => nomatch hgrant.symm.trans hg⟩
    | ok grant =>
      obtain ⟨tables', hrevoked⟩ : ∃ tables',
          revokeGrant s.tables grantId user now = .ok tables' := by
        rw [revokeGrant, hgrant]
        exact ⟨_, rfl⟩
      rw [quotaStep, hrevoked] at hs
      cases hs
      obtain ⟨hrows', hiff⟩ := balanced_revokeGrant hrows hgrant hrevoked
      refine ⟨hrows', fun h => (hiff h).trans ⟨fun hc g hg => ?_, fun hc => hc grant hgrant⟩⟩
      cases hgrant.symm.trans hg
      exact hc
  | createInvite payload user newId generated =>
    cases hcreated : createInvite s.tables payload user newId generated with
    | error error =>
      rw [quotaStep, hcreated] at hs
      cases hs
      exact ⟨hrows, fun h => iff_of_true h trivial⟩
    | ok tables' =>
      rw [quotaStep, hcreated] at hs
      cases hs
      have hgrants := createInvite_quotaGrants hcreated
      refine ⟨⟨?_, ?_⟩, fun h => iff_of_true (balanced_createInvite h hcreated) trivial⟩
      · rw [hgrants]
        exact hrows.keys
      · rw [hgrants]
        exact hrows.positive
  | revokeInvite code now =>
    cases hrevoked : revokeInvite s.tables code now with
    | error error =>
      rw [quotaStep, hrevoked] at hs
      cases hs
      exact ⟨hrows, fun h => iff_of_true h trivial⟩
    | ok tables' =>
      rw [quotaStep, hrevoked] at hs
      cases hs
      obtain ⟨invite, -, h⟩ := except_bind_eq_ok.mp hrevoked
      obtain ⟨_, -, h⟩ := except_bind_eq_ok.mp h
      cases h
      refine ⟨⟨hrows.keys, hrows.positive⟩, fun h => iff_of_true ?_ trivial⟩
      exact h.congr (fun _ => rfl) (fun _ => rfl) rfl rfl
  | redeemInvite code payload newId now =>
    by_cases hmem : newId ∈ s.tables.quotaGrants.map key
    · rw [quotaStep, if_pos hmem] at hs
      cases hs
    rw [quotaStep, if_neg hmem] at hs
    cases hinvite : redeemableInvite s.tables code payload now with
    | error error =>
      rw [redeemInvite, hinvite] at hs
      cases hs
      exact ⟨hrows, fun h => iff_of_true h fun invite hi => nomatch hinvite.symm.trans hi⟩
    | ok invite =>
      obtain ⟨tables', hredeemed⟩ : ∃ tables',
          redeemInvite s.tables code payload newId now = .ok tables' := by
        rw [redeemInvite, hinvite]
        exact ⟨_, rfl⟩
      rw [hredeemed] at hs
      cases hs
      obtain ⟨hrows', hiff⟩ := balanced_redeemInvite hrows hmem hinvite hredeemed
      exact ⟨hrows', fun h => (hiff h).trans ⟨fun hc _ _ => hc, fun hc => hc invite hinvite⟩⟩

end Steps

/-- In every run of the invite service in which nobody writes a balance directly, the accounts are
what their ledgers say in every state, if and only if every call of the run is covered. -/
theorem balanced_iff_covered {s s' : QuotaState} {events : List QuotaEvent} (hrows : GrantRows s)
    (h : Balanced s) (hrun : run quotaStep s events = some s') :
    AllStates quotaStep Balanced s events ↔ StepsMeet quotaStep Covered s events := by
  constructor
  · refine stepsMeet_of_allStates GrantRows (fun s e s' hrows hs => ?_) ?_ hrows hrun
    · exact (balanced_step_iff hrows hs).1
    · intro s e s' hrows h hs h'
      exact ((balanced_step_iff hrows hs).2 h).mp h'
  · refine allStates_of_stepsMeet (fun s => GrantRows s ∧ Balanced s) ?_ (fun _ h => h.2) ⟨hrows, h⟩
    intro s e s' hinv hcovered hs
    obtain ⟨hrows', hiff⟩ := balanced_step_iff hinv.1 hs
    exact ⟨hrows', (hiff hinv.2).mpr hcovered⟩

/-! ## A grant and its revocation -/

/-- An administrator and a member. -/
def quotaStart : QuotaState where
  tables := { accounts := {
    roles := [{ id := "role", name := "admin" }]
    users := [{ id := "root", username := "root", passwordHash := "", roleId := some "role" },
      { id := "ann", username := "ann", passwordHash := "" }]
    groups := [{ id := ROOT_GROUP_ID }] } }

def quotaAdmin : User :=
  { id := "root", username := "root", passwordHash := "", roleId := some "role" }

lemma quotaStart_rows : GrantRows quotaStart := ⟨List.nodup_nil, by simp [quotaStart]⟩

lemma quotaStart_balanced : Balanced quotaStart := by
  intro target
  simp [quotaStart, remainingQuota, isUnlimited, grantedQuota, consumedQuota, Table.get]

/-- The member is granted five invites, creates an invite of two for a friend, who redeems one of
them; the rest of the member's quota is spent, and then the grant revoked. -/
def spentRun : List QuotaEvent :=
  [.createGrant { targetType := "user", targetId := "ann", amount := 5 } quotaAdmin "grant",
    .createInvite { code := some "for-root", quotaTotal := 2, sourceType := "USER"
                    sourceId := some "ann", registrationGroupId := ROOT_GROUP_ID }
      quotaAdmin "invite" none,
    .redeemInvite "for-root" { userId := "root" } "redeemed" 0,
    .createInvite { code := some "the-rest", quotaTotal := 3, sourceType := "USER"
                    sourceId := some "ann", registrationGroupId := ROOT_GROUP_ID }
      quotaAdmin "rest" none,
    .revokeInvite "the-rest" 0, .revokeGrant "grant" quotaAdmin 0]

theorem spentRun_balanced : AllStates quotaStep Balanced quotaStart spentRun := by
  have hsome : (run quotaStep quotaStart spentRun).isSome := by decide +kernel
  obtain ⟨s', hrun⟩ := Option.isSome_iff_exists.mp hsome
  exact (balanced_iff_covered quotaStart_rows quotaStart_balanced hrun).mpr (by decide +kernel)

/-- A grant of five that is revoked at once still leaves five invites to create. -/
theorem revokedGrant_not_balanced : ¬ ∀ (events : List QuotaEvent) (s' : QuotaState),
    run quotaStep quotaStart events = some s' → AllStates quotaStep Balanced quotaStart events := by
  intro h
  have hend : ((run quotaStep quotaStart
      [.createGrant { targetType := "user", targetId := "ann", amount := 5 } quotaAdmin "grant",
        .revokeGrant "grant" quotaAdmin 0]).any fun s =>
      remainingQuota s.tables (.user, "ann") ≠
        max (grantedQuota s (.user, "ann") - consumedQuota s (.user, "ann")) 0) = true := by
    decide +kernel
  obtain ⟨s', hrun, hne⟩ := (Option.any_eq_true _ _).mp hend
  exact of_decide_eq_true hne ((h _ s' hrun).last hrun (.user, "ann")).1

end CocoonSit
