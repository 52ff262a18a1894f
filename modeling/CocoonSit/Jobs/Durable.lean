import CocoonSit.Model.Entities

/-!
# The durable job service

`DurableJobService` enqueues a job, hands the oldest available one to a worker, and records how
it ended.  `claim_next` selects `FOR UPDATE SKIP LOCKED`: a row that another open transaction
has locked is passed over, so the selection also depends on which rows are locked.  Every caller
gives a job a `lock_key`.
-/

namespace CocoonSit

open Table

/-- What a caller of `DurableJobService.enqueue` asks for. -/
structure JobRequest where
  jobType : String
  lockKey : String
  payloadJson : JsonDict := .empty
  target : Option Target := none
  availableAt : Option Timestamp := none

/-- `DurableJobService.enqueue`: the queued row, under a fresh key. -/
def JobRequest.toJob (req : JobRequest) (newId : RowId) (now : Timestamp) : DurableJob :=
  { id := newId
    target := req.target
    jobType := req.jobType
    lockKey := req.lockKey
    payloadJson := req.payloadJson
    status := .queued
    availableAt := req.availableAt.getD now
    createdAt := now }

/-- `DurableJobService.enqueue`. -/
def enqueueJob (db : Db) (req : JobRequest) (newId : RowId) (now : Timestamp) : Db :=
  { db with jobs := db.jobs ++ [req.toJob newId now] }

/-- The jobs `claim_next` may take: queued, available, not locked by another transaction. -/
def Claimable (locked : RowId → Bool) (now : Timestamp) (job : DurableJob) : Prop :=
  job.status = .queued ∧ job.availableAt ≤ now ∧ locked job.id = false

instance (locked : RowId → Bool) (now : Timestamp) (job : DurableJob) :
    Decidable (Claimable locked now job) :=
  inferInstanceAs (Decidable (_ ∧ _ ∧ _))

/-- The query of `claim_next`: the oldest claimable job. -/
def nextClaimable (jobs : List DurableJob) (locked : RowId → Bool) (now : Timestamp) :
    Option DurableJob :=
  (orderBy DurableJob.createdAt (jobs.filter (Claimable locked now))).head?

/-- What `claim_next` writes into the job it takes. -/
def DurableJob.claimed (job : DurableJob) (workerName : String) (now : Timestamp) : DurableJob :=
  { job with status := .running, startedAt := some now, workerName := some workerName }

/-- `DurableJobService.claim_next`: the job of the query, as the claiming transaction sees it after
its update. -/
def claimNext (jobs : List DurableJob) (locked : RowId → Bool) (workerName : String)
    (now : Timestamp) : Option DurableJob :=
  (nextClaimable jobs locked now).map fun job => job.claimed workerName now

/-- `DurableJobService.finish`. -/
def DurableJob.finished (job : DurableJob) (status : DurableJobStatus)
    (errorText : Option String) (now : Timestamp) : DurableJob :=
  { job with status := status, errorText := errorText, finishedAt := some now }

/-- The status `process_next` records for an executor that returned or raised. -/
def outcomeStatus (error : Option String) : DurableJobStatus :=
  if error.isNone then .completed else .failed

/-- What a worker's commit writes over the row: the columns `claim_next` and `finish` set. -/
def DurableJob.writeBack (done row : DurableJob) : DurableJob :=
  { row with
    status := done.status
    startedAt := done.startedAt
    workerName := done.workerName
    errorText := done.errorText
    finishedAt := done.finishedAt }

lemma outcomeStatus_ne_queued (error : Option String) : outcomeStatus error ≠ .queued := by
  unfold outcomeStatus
  split <;> simp

@[simp] lemma JobRequest.toJob_id (req : JobRequest) (newId : RowId) (now : Timestamp) :
    (req.toJob newId now).id = newId := rfl

@[simp] lemma JobRequest.toJob_status (req : JobRequest) (newId : RowId) (now : Timestamp) :
    (req.toJob newId now).status = .queued := rfl

@[simp] lemma DurableJob.claimed_id (job : DurableJob) (workerName : String)
    (now : Timestamp) : (job.claimed workerName now).id = job.id := rfl

@[simp] lemma DurableJob.claimed_lockKey (job : DurableJob) (workerName : String)
    (now : Timestamp) : (job.claimed workerName now).lockKey = job.lockKey := rfl

@[simp] lemma DurableJob.finished_id (job : DurableJob) (status : DurableJobStatus)
    (errorText : Option String) (now : Timestamp) :
    (job.finished status errorText now).id = job.id := rfl

@[simp] lemma DurableJob.finished_status (job : DurableJob) (status : DurableJobStatus)
    (errorText : Option String) (now : Timestamp) :
    (job.finished status errorText now).status = status := rfl

lemma nextClaimable_spec {jobs : List DurableJob} {locked : RowId → Bool} {now : Timestamp}
    {row : DurableJob} (h : nextClaimable jobs locked now = some row) :
    row ∈ jobs ∧ Claimable locked now row := by
  have hmem := List.mem_of_mem_head? h
  rw [mem_orderBy, List.mem_filter] at hmem
  exact ⟨hmem.1, of_decide_eq_true hmem.2⟩

lemma claimNext_eq_some {jobs : List DurableJob} {locked : RowId → Bool} {workerName : String}
    {now : Timestamp} {job : DurableJob} :
    claimNext jobs locked workerName now = some job ↔
      ∃ row, nextClaimable jobs locked now = some row ∧ row.claimed workerName now = job :=
  Option.map_eq_some_iff

end CocoonSit
