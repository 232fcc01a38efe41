import Mathlib.Data.Finset.Basic
import ReplicaLending.Library.Checks
import ReplicaLending.Library.Machine
import ReplicaLending.Contracts
/-!
# `GroupScheduler` (`scheduler/group_scheduler.py`)

The shared lease ledger. Every method makes all its checks before it writes; a method is modelled
as the pair of what it answers and the state it leaves, so a call that raises after a write (the
dispatch at the end of `submit_operation`) is a state change with an error.

| here | there |
| --- | --- |
| `submitCheck`    | `submit_operation` up to the first write (:111-216) |
| `stage`          | the staging of intent before the dispatch (:223-240) |
| `dispatched`     | the `ray.get(task_runner.submit_operation.remote(…))` (:242-256) |
| `progressCheck`  | the checks of `advance_lease`, branch by branch (:305-463) |
| `progress`       | what each branch writes |
-/

namespace ReplicaLending

/-- A Ray actor handle; handles are equal when they name the same actor. -/
structure ActorHandle where
  actorId : Nat
deriving DecidableEq, Repr

/-- What `time.time()` and `time.monotonic()` return during one call. -/
structure Clock where
  time : Nat
  monotonic : Nat
deriving DecidableEq, Repr

/-- The stored form of an idle report (group_scheduler.py:105). -/
structure IdleReport where
  observedAt : Nat
  candidates : List (ReplicaKey × ReplicaKind)

/-- The argument of `submit_idle_report`. -/
structure IdleReportArg where
  taskSession : String
  candidates : List (ReplicaKey × ReplicaKind)

/-- `_IDLE_REPORT_MAX_AGE_S`. -/
def idleReportMaxAge : Nat := 10

/-- `GroupScheduler.__init__` (group_scheduler.py:32). -/
structure GroupScheduler where
  taskRunners : Dict String ActorHandle
  leases : Dict String Lease
  idleReports : Dict String IdleReport
  operationCommands : Dict String OperationCommand
  borrowerTargets : Dict String ReplicaKey
  releaseEvidence : Dict (String × String) OperationEvidence
  releaseHistory : Dict String (List String)
  handoffReadyLeases : Finset String
  claimIdOwner : Dict String String
  activeBundleOwner : Dict (String × Nat) String
  activeGpuOwner : Dict String String

namespace GroupScheduler

def init : GroupScheduler := ⟨∅, ∅, ∅, ∅, ∅, ∅, ∅, ∅, ∅, ∅, ∅⟩

/-! ## Registration and idle reports -/

/-- `attach_task` (:58). -/
def attachTask (taskId : String) (taskRunner : ActorHandle) (s : GroupScheduler) :
    Except PyErr Unit × GroupScheduler :=
  if taskId = "" then (.error (.valueError "task_id must be a nonempty string"), s)
  else match s.taskRunners.get? taskId with
    | some existing =>
      if existing ≠ taskRunner then (.error (.valueError "TaskRunner already attached"), s)
      else (.ok (), { s with taskRunners := s.taskRunners.insert taskId taskRunner })
    | none => (.ok (), { s with taskRunners := s.taskRunners.insert taskId taskRunner })

/-- `detach_task` (:68). -/
def detachTask (taskId : String) (s : GroupScheduler) : Except PyErr Unit × GroupScheduler :=
  if taskId = "" then (.error (.valueError "task_id must be a nonempty string"), s)
  else (.ok (), { s with
    taskRunners := s.taskRunners.erase taskId, idleReports := s.idleReports.erase taskId })

/-- The checks of `submit_idle_report` (:77-104). -/
def idleReportCheck (s : GroupScheduler) (report : IdleReportArg) : Except PyErr Unit := do
  check (report.taskSession ≠ "") (PyErr.valueError "idle report requires task_session")
  check (s.taskRunners.contains report.taskSession = true)
    (PyErr.valueError "idle report references a detached task_session")
  check (∀ c ∈ report.candidates, c.1.taskSession = report.taskSession)
    (PyErr.valueError "idle candidate belongs to another task_session")
  check (report.candidates.map Prod.fst).Nodup
    (PyErr.valueError "idle report contains duplicate ReplicaKey")

/-- `submit_idle_report` (:77). -/
def submitIdleReport (report : IdleReportArg) (now : Clock) (s : GroupScheduler) :
    Except PyErr Nat × GroupScheduler :=
  match s.idleReportCheck report with
  | .error e => (.error e, s)
  | .ok () => (.ok report.candidates.length, { s with
      idleReports := s.idleReports.insert report.taskSession ⟨now.monotonic, report.candidates⟩ })

/-! ## `submit_operation` -/

/-- `self.operation_commands.get(history[-1])` (:124-126). -/
def lastReleased (s : GroupScheduler) (leaseId : String) : Option OperationCommand :=
  (s.releaseHistory.get? leaseId).bind fun history =>
    history.getLast?.bind fun op => s.operationCommands.get? op

def lastReleasedKind (s : GroupScheduler) (leaseId : String) : Option OperationKind :=
  (s.lastReleased leaseId).map OperationCommand.kind

/-- `_target_matches_donor` (:251). -/
def targetMatchesDonor (target : ReplicaKey) (lease : Lease) : Bool :=
  target = nativeReplicaKey target.taskSession target.taskSession_ne lease.firstClaim.donorReplicaRank

/-- The idle-report gate of a new DONATE (:141-153). -/
def donateReported (s : GroupScheduler) (target : ReplicaKey) (now : Clock) : Except PyErr Unit :=
  match s.idleReports.get? target.taskSession with
  | none => .ok ()
  | some report => do
    check (now.monotonic - report.observedAt ≤ idleReportMaxAge)
      (PyErr.valueError "DONATE idle report is stale; wait for a fresh paused-window report")
    check ((target, ReplicaKind.native) ∈ report.candidates)
      (PyErr.valueError "DONATE target is not a currently reported idle NATIVE replica")

def noneOwned (s : GroupScheduler) (lease : Lease) : Prop :=
  (∀ g ∈ lease.gpuUuids, s.activeGpuOwner.get? g = none) ∧
    ∀ b ∈ lease.bundleKeys, s.activeBundleOwner.get? b = none

instance (s : GroupScheduler) (lease : Lease) : Decidable (s.noneOwned lease) :=
  inferInstanceAs (Decidable (_ ∧ _))

/-- The checks made only for an operation id not seen before (:119-210). -/
def newOperationCheck (s : GroupScheduler) (command : OperationCommand) (lease : Lease)
    (now : Clock) : Except PyErr Unit := do
  check (s.lastReleasedKind command.leaseId ≠ some .restore)
    (PyErr.valueError "lease lifecycle is complete after RESTORE; open a new lease")
  check (¬ (command.kind = .add ∧ lease.expiresAt ≠ 0 ∧ lease.expiresAt ≤ now.time))
    (PyErr.valueError "expired lease cannot start ADD")
  match command.kind with
  | .donate =>
    s.donateReported command.target now
    check (s.lastReleasedKind command.leaseId ≠ some .remove)
      (PyErr.valueError "lease awaits RESTORE after borrowed REMOVE")
    check (command.target.taskSession = lease.firstClaim.donorTaskId)
      (PyErr.valueError "DONATE target does not own the lease claims")
    check (targetMatchesDonor command.target lease = true)
      (PyErr.valueError "DONATE target does not match the lease donor replica")
    check (command.leaseId ∉ s.handoffReadyLeases) (PyErr.valueError "lease handoff is already ready")
  | .add =>
    check (command.leaseId ∈ s.handoffReadyLeases)
      (PyErr.valueError "ADD requires donor RELEASED handoff")
    check (s.borrowerTargets.get? command.leaseId = none)
      (PyErr.valueError "lease already has a borrower ADD; replay the original operation_id")
  | .remove =>
    check (command.leaseId ∈ s.handoffReadyLeases)
      (PyErr.valueError "REMOVE requires donor RELEASED handoff")
    check (s.borrowerTargets.get? command.leaseId = some command.target)
      (PyErr.valueError "REMOVE target does not match the borrowed replica")
  | .restore =>
    check (command.target.taskSession = lease.firstClaim.donorTaskId)
      (PyErr.valueError "RESTORE target does not own the lease claims")
    check (targetMatchesDonor command.target lease = true)
      (PyErr.valueError "RESTORE target does not match the lease donor replica")
    check (s.noneOwned lease) (PyErr.valueError
      "RESTORE requires donor GPU/bundle claims to be fully returned and unclaimed")

/-- Everything `submit_operation` checks before it writes (:111-221). -/
def submitCheck (s : GroupScheduler) (command : OperationCommand) (now : Clock) : Except PyErr Lease :=
  match s.leases.get? command.leaseId with
  | none => .error (PyErr.valueError "unknown lease")
  | some lease => do
    match s.operationCommands.get? command.operationId with
    | some previous =>
      check (previous = command) (PyErr.valueError "conflicting operation replay at GroupScheduler")
    | none => s.newOperationCheck command lease now
    check (s.taskRunners.contains command.target.taskSession = true)
      (PyErr.valueError "no TaskRunner is attached under target.task_session")
    .ok lease

/-- The reservation a staged RESTORE makes (:237-240). -/
def reserve (s : GroupScheduler) (lease : Lease) (leaseId : String) : GroupScheduler :=
  { s with
    activeBundleOwner := s.activeBundleOwner.insertAll lease.bundleKeys leaseId
    activeGpuOwner := s.activeGpuOwner.insertAll lease.gpuUuids leaseId }

/-- Record the intent of a command seen for the first time (:228-240). -/
def stage (s : GroupScheduler) (command : OperationCommand) (lease : Lease) : GroupScheduler :=
  let s := { s with
    operationCommands := s.operationCommands.insert command.operationId command }
  match command.kind with
  | .add => { s with
      borrowerTargets := s.borrowerTargets.setDefault command.leaseId command.target }
  | .restore => s.reserve lease command.leaseId
  | _ => s

/-- What the dispatch RPC gave back. -/
inductive DispatchReply
  | record (r : OperationRecord)
  | nonRecord
  | raised (e : PyErr)

/-- The tail of `submit_operation` (:242-256). -/
def dispatched (command : OperationCommand) : DispatchReply → Except PyErr OperationRecord
  | .record r =>
    if r.operationId = command.operationId then .ok r
    else .error (.valueError "TaskRunner returned a record for another operation")
  | .nonRecord => .error (.typeError "TaskRunner returned a non-OperationRecord")
  | .raised e => .error e

/-- `submit_operation` (:111). -/
def submitOperation (command : OperationCommand) (now : Clock) (reply : DispatchReply)
    (s : GroupScheduler) : Except PyErr OperationRecord × GroupScheduler :=
  match s.submitCheck command now with
  | .error e => (.error e, s)
  | .ok lease =>
    (dispatched command reply,
      if s.operationCommands.contains command.operationId then s else s.stage command lease)

/-! ## `open_lease` -/

/-- The conflict checks of `open_lease` (:276-293). -/
def openLeaseCheck (s : GroupScheduler) (lease : Lease) : Except PyErr Unit := do
  check (∀ c ∈ lease.claimIds, ∀ o, s.claimIdOwner.get? c = some o → o = lease.leaseId)
    (PyErr.valueError "claim_id already belongs to another lease")
  check (∀ b ∈ lease.bundleKeys, ∀ o, s.activeBundleOwner.get? b = some o → o = lease.leaseId)
    (PyErr.valueError "PG bundle is already active under another lease")
  check (∀ g ∈ lease.gpuUuids, ∀ o, s.activeGpuOwner.get? g = some o → o = lease.leaseId)
    (PyErr.valueError "GPU is already active under another lease")

/-- `Lease(lease.lease_id, lease.claims, lease.expires_at)`: the defensive copy. -/
def copyLease (l : Lease) : Except PyErr Lease :=
  Lease.make l.leaseId (l.claims.map LeaseClaim.fields) l.expiresAt

/-- The writes of `open_lease` (:295-303). -/
def opened (s : GroupScheduler) (lease : Lease) : GroupScheduler :=
  { s with
    leases := s.leases.insert lease.leaseId lease
    releaseHistory := s.releaseHistory.setDefault lease.leaseId []
    claimIdOwner := s.claimIdOwner.insertAll lease.claimIds lease.leaseId
    activeBundleOwner := s.activeBundleOwner.insertAll lease.bundleKeys lease.leaseId
    activeGpuOwner := s.activeGpuOwner.insertAll lease.gpuUuids lease.leaseId }

/-- `open_lease` (:259). -/
def openLease (lease : Lease) (s : GroupScheduler) : Except PyErr Lease × GroupScheduler :=
  match s.leases.get? lease.leaseId with
  | some existing =>
    if existing.same lease then (copyLease existing, s)
    else (.error (.valueError "conflicting lease replay"), s)
  | none =>
    match copyLease lease with
    | .error e => (.error e, s)
    | .ok lease =>
      match s.openLeaseCheck lease with
      | .error e => (.error e, s)
      | .ok () => (copyLease lease, s.opened lease)

/-! ## `advance_lease` -/

/-- Which key of the answer is set besides the two ids. -/
inductive LeaseProgress | restored | restoreRolledBack | addRolledBack | released
deriving DecidableEq, Repr

/-- The dict `advance_lease` returns. -/
structure AdvanceResult where
  leaseId : String
  operationId : String
  progress : LeaseProgress
deriving DecidableEq, Repr

/-- `lease` owns every bundle and GPU it claims. -/
def allOwned (s : GroupScheduler) (lease : Lease) (leaseId : String) : Prop :=
  (∀ b ∈ lease.bundleKeys, s.activeBundleOwner.get? b = some leaseId) ∧
    ∀ g ∈ lease.gpuUuids, s.activeGpuOwner.get? g = some leaseId

instance (s : GroupScheduler) (lease : Lease) (l : String) : Decidable (s.allOwned lease l) :=
  inferInstanceAs (Decidable (_ ∧ _))

/-- `set(evidence.released_gpu_uuids) == set(lease.gpu_uuids)`. -/
def coversLease (evidence : OperationEvidence) (lease : Lease) : Prop :=
  evidence.releasedGpuUuids.toFinset = lease.gpuUuids.toFinset

instance (e : OperationEvidence) (l : Lease) : Decidable (coversLease e l) :=
  inferInstanceAs (Decidable (_ = _))

/-- The answer to evidence that is already recorded (:318-339). -/
def replayProgress (kind : OperationKind) (existing : OperationEvidence) :
    Except PyErr LeaseProgress :=
  match kind with
  | .restore => match existing.type with
    | .serviceCommitted => .ok .restored
    | .released => .ok .restoreRolledBack
    | _ => .error (.valueError "invalid RESTORE evidence replay")
  | .add => .ok .addRolledBack
  | _ => .ok .released

/-- The phase checks on first evidence (:341-440). -/
def progressCheck (s : GroupScheduler) (command : OperationCommand) (lease : Lease)
    (evidence : OperationEvidence) : Except PyErr LeaseProgress :=
  match command.kind with
  | .restore => do
    check (evidence.type = .serviceCommitted ∨ evidence.type = .released) (PyErr.valueError
      "RESTORE lease progression requires SERVICE_COMMITTED or RELEASED evidence")
    check (s.allOwned lease command.leaseId)
      (PyErr.valueError "RESTORE completion requires its temporary claim reservation")
    if evidence.type = .released then
      check (coversLease evidence lease) (PyErr.valueError
        "RESTORE rollback RELEASED evidence must exactly cover lease GPU claims")
      .ok .restoreRolledBack
    else .ok .restored
  | .add => do
    check (evidence.type = .released) (PyErr.valueError "ADD rollback requires RELEASED evidence")
    check (coversLease evidence lease) (PyErr.valueError
      "ADD rollback RELEASED evidence must exactly cover lease GPU claims")
    check (command.leaseId ∈ s.handoffReadyLeases)
      (PyErr.valueError "ADD rollback requires the donor handoff reservation")
    check (s.borrowerTargets.get? command.leaseId = some command.target)
      (PyErr.valueError "ADD rollback target does not match staged borrower")
    .ok .addRolledBack
  | _ => do
    check (evidence.type = .released) (PyErr.valueError "lease handoff requires RELEASED evidence")
    check (coversLease evidence lease)
      (PyErr.valueError "RELEASED evidence must exactly cover lease GPU claims")
    .ok .released

/-- `self.release_evidence[evidence_key] = evidence`. -/
def recordEvidence (s : GroupScheduler) (leaseId : String) (evidence : OperationEvidence) :
    GroupScheduler :=
  { s with releaseEvidence := s.releaseEvidence.insert (leaseId, evidence.operationId) evidence }

/-- `self.release_history.setdefault(lease_id, []).append(operation_id)`. -/
def appendHistory (s : GroupScheduler) (leaseId operationId : String) : GroupScheduler :=
  { s with
    releaseHistory := s.releaseHistory.insert leaseId
      ((s.releaseHistory.get? leaseId).getD [] ++ [operationId]) }

/-- `if self.active_…_owner.get(key) == lease_id: self.active_…_owner.pop(key, None)`. -/
def freeOwned (s : GroupScheduler) (lease : Lease) (leaseId : String) : GroupScheduler :=
  { s with
    activeBundleOwner := s.activeBundleOwner.eraseOwned lease.bundleKeys leaseId
    activeGpuOwner := s.activeGpuOwner.eraseOwned lease.gpuUuids leaseId }

/-- `self.active_…_owner.pop(key, None)`, whoever owns the key. -/
def freeAll (s : GroupScheduler) (lease : Lease) : GroupScheduler :=
  { s with
    activeBundleOwner := s.activeBundleOwner.eraseAll lease.bundleKeys
    activeGpuOwner := s.activeGpuOwner.eraseAll lease.gpuUuids }

def readyHandoff (s : GroupScheduler) (leaseId : String) : GroupScheduler :=
  { s with handoffReadyLeases := insert leaseId s.handoffReadyLeases }

def discardHandoff (s : GroupScheduler) (leaseId : String) : GroupScheduler :=
  { s with handoffReadyLeases := s.handoffReadyLeases.erase leaseId }

def popBorrower (s : GroupScheduler) (leaseId : String) : GroupScheduler :=
  { s with borrowerTargets := s.borrowerTargets.erase leaseId }

/-- RESTORE rolled back (:368-379). -/
def restoreRolledBack (s : GroupScheduler) (lease : Lease) (leaseId : String)
    (evidence : OperationEvidence) : GroupScheduler :=
  (s.recordEvidence leaseId evidence).freeOwned lease leaseId

/-- RESTORE committed (:386-397). -/
def restored (s : GroupScheduler) (lease : Lease) (leaseId : String)
    (evidence : OperationEvidence) : GroupScheduler :=
  ((((s.recordEvidence leaseId evidence).appendHistory leaseId evidence.operationId).discardHandoff
    leaseId).popBorrower leaseId).freeAll lease

/-- ADD rolled back (:413-429). -/
def addRolledBack (s : GroupScheduler) (lease : Lease) (leaseId : String)
    (evidence : OperationEvidence) : GroupScheduler :=
  ((((s.recordEvidence leaseId evidence).appendHistory leaseId evidence.operationId).popBorrower
    leaseId).discardHandoff leaseId).freeOwned lease leaseId

/-- DONATE released (:442-451). -/
def donated (s : GroupScheduler) (leaseId : String) (evidence : OperationEvidence) :
    GroupScheduler :=
  ((s.recordEvidence leaseId evidence).appendHistory leaseId evidence.operationId).readyHandoff
    leaseId

/-- REMOVE released (:442-458). -/
def removed (s : GroupScheduler) (lease : Lease) (leaseId : String)
    (evidence : OperationEvidence) : GroupScheduler :=
  (((s.recordEvidence leaseId evidence).appendHistory leaseId evidence.operationId).discardHandoff
    leaseId).freeOwned lease leaseId

/-- What the branch of `advance_lease` for first evidence writes. -/
def progress (s : GroupScheduler) (command : OperationCommand) (lease : Lease)
    (evidence : OperationEvidence) : GroupScheduler :=
  match command.kind with
  | .restore =>
    if evidence.type = .released then s.restoreRolledBack lease command.leaseId evidence
    else s.restored lease command.leaseId evidence
  | .add => s.addRolledBack lease command.leaseId evidence
  | .donate => s.donated command.leaseId evidence
  | .remove => s.removed lease command.leaseId evidence

/-- The lookups at the head of `advance_lease` (:307-316). -/
def advanceTarget (s : GroupScheduler) (leaseId : String) (evidence : OperationEvidence) :
    Except PyErr (Lease × OperationCommand) :=
  match s.leases.get? leaseId with
  | none => .error (.valueError "unknown lease")
  | some lease => match s.operationCommands.get? evidence.operationId with
    | none => .error (.valueError "operation evidence references an unknown operation")
    | some command =>
      if command.leaseId = leaseId then .ok (lease, command)
      else .error (.valueError "operation evidence belongs to another lease")

/-- `advance_lease` (:305). -/
def advanceLease (leaseId : String) (evidence : OperationEvidence) (s : GroupScheduler) :
    Except PyErr AdvanceResult × GroupScheduler :=
  match s.advanceTarget leaseId evidence with
  | .error e => (.error e, s)
  | .ok (lease, command) =>
    match s.releaseEvidence.get? (leaseId, evidence.operationId) with
    | some existing =>
      if existing = evidence then
        ((replayProgress command.kind existing).map (⟨leaseId, evidence.operationId, ·⟩), s)
      else (.error (.valueError "conflicting lease evidence replay"), s)
    | none =>
      match s.progressCheck command lease evidence with
      | .error e => (.error e, s)
      | .ok p => (.ok ⟨leaseId, evidence.operationId, p⟩, s.progress command lease evidence)

/-! ## The machine -/

/-- One call on the scheduler actor, with what the clock and the dispatch returned during it. -/
inductive Call
  | attachTask (taskId : String) (taskRunner : ActorHandle)
  | detachTask (taskId : String)
  | submitIdleReport (report : IdleReportArg) (now : Clock)
  | openLease (lease : Lease)
  | submitOperation (command : OperationCommand) (now : Clock) (reply : DispatchReply)
  | advanceLease (leaseId : String) (evidence : OperationEvidence)

/-- The state a call leaves, raise or return. -/
def apply : Call → GroupScheduler → GroupScheduler
  | .attachTask t r, s => (attachTask t r s).2
  | .detachTask t, s => (detachTask t s).2
  | .submitIdleReport r now, s => (submitIdleReport r now s).2
  | .openLease l, s => (openLease l s).2
  | .submitOperation c now r, s => (submitOperation c now r s).2
  | .advanceLease l e, s => (advanceLease l e s).2

/-- The scheduler as a machine: one call after another, from the empty ledger. -/
def machine : Machine GroupScheduler Call := Machine.ofFun (· = init) apply

end GroupScheduler

end ReplicaLending
