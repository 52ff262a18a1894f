import CocoonSit.Jobs.Durable
import CocoonSit.Lib.Run

/-!
# Durable workers and the lock key

Any number of durable workers run `process_next` against one table of jobs.  A worker claims a
job and keeps the transaction open while the executor runs; the claim becomes visible to others
only with the commit that also records the outcome.  Until then the row lock taken by
`FOR UPDATE SKIP LOCKED` is what keeps other workers away, so the state has the committed rows
and, for each worker inside `process_next`, the row as its open transaction sees it.

Two questions are asked of every run.  Is a job claimed twice?  It is not: the row lock covers
the open transaction and the status covers what follows.  Do two jobs with one `lock_key` run at
the same time?  `claim_next` never reads the column, so exclusion holds exactly in the runs that
never take a job whose `lock_key` is in use.
-/

namespace CocoonSit

open Table TransitionSystem

namespace JobSystem

/-- A worker inside `process_next`, with its job as its transaction sees it. -/
structure OpenClaim where
  worker : ℕ
  job : DurableJob

/-- The committed job rows, the open transactions, and the claims made so far (a claim whose
transaction was rolled back is not one). -/
structure State where
  jobs : List DurableJob
  inFlight : List OpenClaim := []
  claims : List RowId := []

inductive Event where
  /-- A request or a round commits a new job. -/
  | enqueue (req : JobRequest) (newId : RowId) (now : Timestamp)
  /-- `cancel_wakeup_tasks` commits a cancelled job, whatever the row held. -/
  | cancel (id : RowId) (reason : Option String) (now : Timestamp)
  /-- `claim_next` of an idle worker. -/
  | claim (worker : ℕ) (workerName : String) (now : Timestamp)
  /-- The executor returned, or raised with a message; `finish` and the commit. -/
  | finish (worker : ℕ) (error : Option String) (now : Timestamp)
  /-- The worker's transaction is rolled back. -/
  | abort (worker : ℕ)

/-- Another open transaction holds the row lock. -/
def State.locked (s : State) (id : RowId) : Bool :=
  s.inFlight.any fun c => c.job.id = id

def State.claimOf (s : State) (worker : ℕ) : Option OpenClaim :=
  s.inFlight.find? fun c => c.worker = worker

/-- The `lock_key`s of the running jobs. -/
def State.runningLockKeys (s : State) : List String :=
  s.inFlight.map fun c => c.job.lockKey

/-- The transaction of `worker` ends. -/
def State.release (s : State) (worker : ℕ) : List OpenClaim :=
  s.inFlight.eraseP fun c => c.worker = worker

def step (s : State) : Event → Option State
  | .enqueue req newId now =>
    if newId ∈ s.jobs.map key then none
    else some { s with jobs := s.jobs ++ [req.toJob newId now] }
  | .cancel id reason now =>
    if s.locked id then none
    else some { s with jobs := update s.jobs id fun job => job.finished .cancelled reason now }
  | .claim worker workerName now =>
    match s.claimOf worker, claimNext s.jobs s.locked workerName now with
    | some _, _ => none
    | none, none => some s
    | none, some job => some { s with
        inFlight := ⟨worker, job⟩ :: s.inFlight
        claims := job.id :: s.claims }
  | .finish worker error now =>
    (s.claimOf worker).map fun c =>
      { s with
        jobs := update s.jobs c.job.id
          (c.job.finished (outcomeStatus error) error now).writeBack
        inFlight := s.release worker }
  | .abort worker =>
    (s.claimOf worker).map fun c =>
      { s with inFlight := s.release worker, claims := s.claims.erase c.job.id }

/-- Committed jobs with distinct keys, and no worker at work. -/
structure Initial (s : State) : Prop where
  keys : (s.jobs.map key).Nodup
  idle : s.inFlight = []
  unclaimed : s.claims = []

/-- No two running jobs share a `lock_key`, and no job has been claimed twice. -/
structure Exclusive (s : State) : Prop where
  lockKeys : s.runningLockKeys.Nodup
  claims : s.claims.Nodup

instance (s : State) : Decidable (Exclusive s) :=
  decidable_of_iff (s.runningLockKeys.Nodup ∧ s.claims.Nodup)
    ⟨fun h => ⟨h.1, h.2⟩, fun h => ⟨h.lockKeys, h.claims⟩⟩

/-- When a worker claims, the oldest claimable job has a `lock_key` that no running job has. -/
def LockKeyFree (s : State) : Event → Prop
  | .claim _ _ now =>
    ∀ row ∈ nextClaimable s.jobs s.locked now, row.lockKey ∉ s.runningLockKeys
  | _ => True

instance (s : State) : ∀ e, Decidable (LockKeyFree s e)
  | .claim _ _ now => inferInstanceAs
      (Decidable (∀ row ∈ nextClaimable s.jobs s.locked now, row.lockKey ∉ s.runningLockKeys))
  | .enqueue .. => .isTrue trivial
  | .cancel .. => .isTrue trivial
  | .finish .. => .isTrue trivial
  | .abort .. => .isTrue trivial

/-! ## The invariant of claims -/

/-- What every step keeps, whether or not lock keys collide. -/
structure Inv (s : State) : Prop where
  keys : (s.jobs.map key).Nodup
  heldOnce : (s.inFlight.map fun c => c.job.id).Nodup
  claimsNodup : s.claims.Nodup
  claimed : ∀ c ∈ s.inFlight, c.job.id ∈ s.claims
  known : ∀ id ∈ s.claims, id ∈ s.jobs.map key
  settled : ∀ id ∈ s.claims, s.locked id = false →
    ∀ row ∈ s.jobs, row.id = id → row.status ≠ .queued

lemma locked_iff {s : State} {id : RowId} :
    s.locked id = true ↔ id ∈ s.inFlight.map fun c => c.job.id := by
  simp [State.locked]

lemma inv_of_initial {s : State} (h : Initial s) : Inv s := by
  refine ⟨h.keys, ?_, ?_, ?_, ?_, ?_⟩ <;> simp [h.idle, h.unclaimed]

lemma release_eq {s : State} {worker : ℕ} {c : OpenClaim} (h : s.claimOf worker = some c) :
    ∃ before after, s.inFlight = before ++ c :: after ∧
      s.release worker = before ++ after := by
  obtain ⟨hc, before, after, heq, hbefore⟩ := List.find?_eq_some_iff_append.mp h
  refine ⟨before, after, heq, ?_⟩
  rw [State.release, heq, List.eraseP_append_right _ (by simpa using hbefore),
    List.eraseP_cons, hc, cond_true]

lemma release_sublist (s : State) (worker : ℕ) : (s.release worker).Sublist s.inFlight :=
  List.eraseP_sublist

lemma locked_of_release {s : State} (hinv : Inv s) {worker : ℕ} {c : OpenClaim}
    (h : s.claimOf worker = some c) {id : RowId} :
    id ∈ (s.release worker).map (fun c => c.job.id) ↔ s.locked id = true ∧ id ≠ c.job.id := by
  obtain ⟨before, after, heq, hrel⟩ := release_eq h
  have hnd := hinv.heldOnce
  rw [heq, List.map_append, List.map_cons, List.nodup_middle, List.nodup_cons,
    ← List.map_append] at hnd
  rw [locked_iff, hrel, heq]
  constructor
  · intro hid
    refine ⟨?_, fun hc => hnd.1 (hc ▸ hid)⟩
    simp only [List.map_append, List.map_cons, List.mem_append, List.mem_cons] at hid ⊢
    tauto
  · rintro ⟨hid, hne⟩
    simp only [List.map_append, List.map_cons, List.mem_append, List.mem_cons] at hid ⊢
    tauto

lemma settled_update {jobs : List DurableJob} {id id' : RowId} {f : DurableJob → DurableJob}
    (hstatus : ∀ r, (f r).status ≠ .queued)
    (h : id' ≠ id → ∀ row ∈ jobs, row.id = id' → row.status ≠ .queued) :
    ∀ row ∈ update jobs id f, row.id = id' → row.status ≠ .queued := by
  intro row hrow hid
  rcases mem_update.mp hrow with ⟨r₀, -, -, rfl⟩ | ⟨hmem, hne⟩
  · exact hstatus r₀
  · exact h (fun heq => hne (hid.trans heq)) row hmem hid

lemma inv_enqueue {s : State} (hinv : Inv s) {req : JobRequest} {newId : RowId}
    {now : Timestamp} (hnew : newId ∉ s.jobs.map key) :
    Inv { s with jobs := s.jobs ++ [req.toJob newId now] } := by
  refine ⟨?_, hinv.heldOnce, hinv.claimsNodup, hinv.claimed, ?_, ?_⟩
  · rw [List.map_append, List.nodup_append]
    refine ⟨hinv.keys, by simp, ?_⟩
    intro k hk k' hk' heq
    have : k' = newId := by simpa using hk'
    exact hnew (this ▸ heq ▸ hk)
  · intro id hid
    rw [List.map_append]
    exact List.mem_append_left _ (hinv.known id hid)
  · intro id hid hlock row hrow hrid
    rcases List.mem_append.mp hrow with hrow | hrow
    · exact hinv.settled id hid hlock row hrow hrid
    · have hr : row = req.toJob newId now := by simpa using hrow
      subst hr
      have hid' : newId = id := hrid
      exact absurd (hid' ▸ hinv.known id hid) hnew

lemma inv_cancel {s : State} (hinv : Inv s) {id : RowId} {reason : Option String}
    {now : Timestamp} :
    Inv { s with jobs := update s.jobs id fun job => job.finished .cancelled reason now } := by
  have hkeys := map_key_update (t := s.jobs) (k := id)
    (f := fun job => job.finished .cancelled reason now) fun _ => rfl
  refine ⟨?_, hinv.heldOnce, hinv.claimsNodup, hinv.claimed, ?_, ?_⟩
  · rw [hkeys]
    exact hinv.keys
  · intro id' hid'
    rw [hkeys]
    exact hinv.known id' hid'
  · intro id' hid' hlock
    exact settled_update (fun _ => by simp)
      fun _ => hinv.settled id' hid' hlock

lemma inv_claim {s : State} (hinv : Inv s) {worker : ℕ} {workerName : String}
    {now : Timestamp} {job : DurableJob}
    (hjob : claimNext s.jobs s.locked workerName now = some job) :
    Inv { s with inFlight := ⟨worker, job⟩ :: s.inFlight, claims := job.id :: s.claims } := by
  obtain ⟨row, hnext, rfl⟩ := claimNext_eq_some.mp hjob
  obtain ⟨hrow, hqueued, -, hfree⟩ := nextClaimable_spec hnext
  have hfresh : row.id ∉ s.claims := fun h => hinv.settled row.id h hfree row hrow rfl hqueued
  refine ⟨hinv.keys, ?_, ?_, ?_, ?_, ?_⟩
  · refine List.nodup_cons.mpr ⟨?_, hinv.heldOnce⟩
    intro h
    rw [← locked_iff] at h
    simp [hfree] at h
  · exact List.nodup_cons.mpr ⟨hfresh, hinv.claimsNodup⟩
  · intro c hc
    rcases List.mem_cons.mp hc with rfl | hc
    · exact List.mem_cons_self
    · exact List.mem_cons_of_mem _ (hinv.claimed c hc)
  · intro id hid
    rcases List.mem_cons.mp hid with rfl | hid
    · exact List.mem_map.mpr ⟨row, hrow, rfl⟩
    · exact hinv.known id hid
  · intro id hid hlock
    simp only [State.locked, List.any_cons, Bool.or_eq_false_iff, decide_eq_false_iff_not] at hlock
    rcases List.mem_cons.mp hid with rfl | hid
    · exact absurd rfl hlock.1
    · exact hinv.settled id hid hlock.2

lemma inv_finish {s : State} (hinv : Inv s) {worker : ℕ} {c : OpenClaim}
    (hc : s.claimOf worker = some c) {error : Option String} {now : Timestamp} :
    Inv { s with
      jobs := update s.jobs c.job.id
        (c.job.finished (outcomeStatus error) error now).writeBack
      inFlight := s.release worker } := by
  have hkeys := map_key_update (t := s.jobs) (k := c.job.id)
    (f := (c.job.finished (outcomeStatus error) error now).writeBack) fun _ => rfl
  refine ⟨?_, ?_, hinv.claimsNodup, ?_, ?_, ?_⟩
  · rw [hkeys]
    exact hinv.keys
  · exact hinv.heldOnce.sublist ((release_sublist s worker).map _)
  · intro c' hc'
    exact hinv.claimed c' ((release_sublist s worker).subset hc')
  · intro id hid
    rw [hkeys]
    exact hinv.known id hid
  · intro id hid hlock
    refine settled_update (fun _ => ?_) fun hne => hinv.settled id hid ?_
    · exact outcomeStatus_ne_queued error
    · -- a row other than the released one was not locked before either
      rw [← Bool.not_eq_true] at hlock ⊢
      intro h
      exact hlock (locked_iff.mpr ((locked_of_release hinv hc).mpr ⟨h, hne⟩))

lemma inv_abort {s : State} (hinv : Inv s) {worker : ℕ} {c : OpenClaim}
    (hc : s.claimOf worker = some c) :
    Inv { s with inFlight := s.release worker, claims := s.claims.erase c.job.id } := by
  refine ⟨hinv.keys, ?_, hinv.claimsNodup.erase _, ?_, ?_, ?_⟩
  · exact hinv.heldOnce.sublist ((release_sublist s worker).map _)
  · intro c' hc'
    have hne := ((locked_of_release hinv hc).mp (List.mem_map_of_mem hc')).2
    exact (List.mem_erase_of_ne hne).mpr
      (hinv.claimed c' ((release_sublist s worker).subset hc'))
  · intro id hid
    exact hinv.known id (List.mem_of_mem_erase hid)
  · intro id hid hlock
    have hne : id ≠ c.job.id := fun h => hinv.claimsNodup.not_mem_erase (h ▸ hid)
    refine hinv.settled id (List.mem_of_mem_erase hid) ?_
    rw [← Bool.not_eq_true] at hlock ⊢
    intro h
    exact hlock (locked_iff.mpr ((locked_of_release hinv hc).mpr ⟨h, hne⟩))

lemma inv_step {s s' : State} {e : Event} (hinv : Inv s) (hs : step s e = some s') : Inv s' := by
  cases e with
  | enqueue req newId now =>
    simp only [step] at hs
    split at hs
    · cases hs
    · next hnew =>
      cases hs
      exact inv_enqueue hinv hnew
  | cancel id reason now =>
    simp only [step] at hs
    split at hs
    · cases hs
    · cases hs
      exact inv_cancel hinv
  | claim worker workerName now =>
    simp only [step] at hs
    split at hs
    · cases hs
    · cases hs
      exact hinv
    · next hjob =>
      cases hs
      exact inv_claim hinv hjob
  | finish worker error now =>
    obtain ⟨c, hc, rfl⟩ := Option.map_eq_some_iff.mp hs
    exact inv_finish hinv hc
  | abort worker =>
    obtain ⟨c, hc, rfl⟩ := Option.map_eq_some_iff.mp hs
    exact inv_abort hinv hc

/-! ## Exclusion by lock key -/

/-- A step that takes no job with a `lock_key` in use keeps the running lock keys distinct. -/
lemma lockKeys_step {s s' : State} {e : Event} (hnd : s.runningLockKeys.Nodup)
    (hok : LockKeyFree s e) (hs : step s e = some s') : s'.runningLockKeys.Nodup := by
  cases e with
  | enqueue req newId now =>
    simp only [step] at hs
    split at hs
    · cases hs
    · cases hs
      exact hnd
  | cancel id reason now =>
    simp only [step] at hs
    split at hs
    · cases hs
    · cases hs
      exact hnd
  | claim worker workerName now =>
    simp only [step] at hs
    split at hs
    · cases hs
    · cases hs
      exact hnd
    · next hjob =>
      obtain ⟨row, hnext, rfl⟩ := claimNext_eq_some.mp hjob
      cases hs
      exact List.nodup_cons.mpr ⟨hok row hnext, hnd⟩
  | finish worker error now =>
    obtain ⟨c, -, rfl⟩ := Option.map_eq_some_iff.mp hs
    exact hnd.sublist ((release_sublist s worker).map _)
  | abort worker =>
    obtain ⟨c, -, rfl⟩ := Option.map_eq_some_iff.mp hs
    exact hnd.sublist ((release_sublist s worker).map _)

lemma lockKeyFree_of_step {s s' : State} {e : Event} (hs : step s e = some s')
    (hnd : s'.runningLockKeys.Nodup) : LockKeyFree s e := by
  cases e with
  | claim worker workerName now =>
    intro row hnext
    have hjob : claimNext s.jobs s.locked workerName now = some (row.claimed workerName now) :=
      claimNext_eq_some.mpr ⟨row, hnext, rfl⟩
    simp only [step, hjob] at hs
    split at hs
    · cases hs
    · next heq => cases heq
    · next heq =>
      cases heq
      cases hs
      exact (List.nodup_cons.mp hnd).1
  | enqueue => trivial
  | cancel => trivial
  | finish => trivial
  | abort => trivial

/-- No job is claimed twice, in any run of any number of workers. -/
theorem claims_nodup {s₀ s : State} {es : List Event} (h0 : Initial s₀)
    (hrun : run step s₀ es = some s) : s.claims.Nodup :=
  (invariant_run Inv (fun _ _ _ => inv_step) (inv_of_initial h0) hrun).claimsNodup

/-- A run keeps running jobs apart by `lock_key` exactly when none of its claims takes a job whose
`lock_key` a running job has. -/
theorem exclusive_iff_lockKeyFree {s₀ s : State} {es : List Event} (h0 : Initial s₀)
    (hrun : run step s₀ es = some s) :
    AllStates step Exclusive s₀ es ↔ StepsMeet step LockKeyFree s₀ es := by
  constructor
  · exact stepsMeet_of_allStates Inv (fun _ _ _ => inv_step)
      (fun _ _ _ _ _ hs hex => lockKeyFree_of_step hs hex.lockKeys) (inv_of_initial h0) hrun
  · refine allStates_of_stepsMeet (fun s => Inv s ∧ s.runningLockKeys.Nodup) ?_ ?_
      ⟨inv_of_initial h0, by simp [State.runningLockKeys, h0.idle]⟩
    · rintro s e s' ⟨hinv, hnd⟩ hok hs
      exact ⟨inv_step hinv hs, lockKeys_step hnd hok hs⟩
    · rintro s ⟨hinv, hnd⟩
      exact ⟨hnd, hinv.claimsNodup⟩

/-- Two compactions of one cocoon, as two requests enqueue them. -/
def twoCompactions : State where
  jobs :=
    [JobRequest.toJob { jobType := "compaction", lockKey := "cocoon:c1:compaction" } "j1" 0,
     JobRequest.toJob { jobType := "compaction", lockKey := "cocoon:c1:compaction" } "j2" 1]

lemma initial_twoCompactions : Initial twoCompactions := ⟨by decide, rfl, rfl⟩

theorem twoCompactions_claims_nodup :
    ((run step twoCompactions [.claim 0 "w0" 2, .claim 1 "w1" 2]).get (by decide)).claims.Nodup :=
  claims_nodup initial_twoCompactions (Option.some_get (by decide)).symm

/-- Two workers run the two compactions at the same time. -/
theorem twoCompactions_run_together :
    Initial twoCompactions ∧
      ¬ AllStates step Exclusive twoCompactions [.claim 0 "w0" 2, .claim 1 "w1" 2] :=
  ⟨initial_twoCompactions, by decide⟩

/-- One worker after the other is fine. -/
theorem twoCompactions_in_turn :
    AllStates step Exclusive twoCompactions
      [.claim 0 "w0" 2, .finish 0 none 3, .claim 1 "w1" 4, .finish 1 (some "no summary model") 5] :=
  (exclusive_iff_lockKeyFree initial_twoCompactions rfl).mpr (by decide)

end JobSystem

end CocoonSit
